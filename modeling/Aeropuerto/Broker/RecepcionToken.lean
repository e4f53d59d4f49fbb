import Aeropuerto.Biblioteca.Ejecucion
import Aeropuerto.Broker.TransferenciaToken

/-!
# When a token is complete (`GroupReceiver::procesar_recepcion_token`)

Blocks of a token may arrive with gaps, twice or out of order, and between them replicas of the memory,
which `procesar_memory_update` copies to the same `data_token`.  `cantidad_recibida_token` counts the
bytes of every block since block 0, also of those that are discarded.
-/

namespace RecepcionToken

open Ejecucion Flujo Bloques
open Fragmentacion (dataSize restar)
open TransferenciaToken (Tipo decimal)

/-- `size_t` addition. -/
def sumar (a b : Nat) : Nat := (a + b) % 2 ^ 64

structure Receptor (s : Nat) where
  dataToken : Bufer UInt8 s
  dataReplica : Bufer UInt8 s
  numeroAnterior : Int
  numeroAnteriorReplica : Int
  cantidadRecibidaToken : Nat
  cantidadRecibidaReplica : Nat
  leader : Bool
  tokenInicializado : Bool
  tokenOk : Bool
  replicaOk : Bool
  numeroDeNodo : Nat
  esSizeT : s < 2 ^ 64

/-- `cantidad_de_bloques_por_token`. -/
def bloquesPorToken (s : Nat) : Nat := cantidad dataSize s

namespace Receptor

variable {s : Nat}

/-- `std::min(get_mem_size() - numero_de_mensaje * DATA_SIZE, size_t(DATA_SIZE))`. -/
def tamanioBloque (s numero : Nat) : Nat := min (restar s (numero * dataSize)) dataSize

/-- The block with number 0 starts a token. -/
def empezar (r : Receptor s) (m : TransferenciaToken.Mensaje) : Receptor s :=
  if m.numeroDeMensaje = 0 then { r with numeroAnterior := -1, cantidadRecibidaToken := 0 } else r

/-- The rest of `procesar_recepcion_token`; the messages pushed are the third result. -/
def procesarBloque (r : Receptor s) (m : TransferenciaToken.Mensaje) :
    Except Falla (Receptor s × Bool × List TransferenciaToken.Mensaje) :=
  -- token_roto is a local variable and false here
  if (m.numeroDeMensaje : Int) ≠ r.numeroAnterior + 1 then do
    let data ← m.data.escribir 0 (decimal r.numeroDeNodo)
    return ({ r with
      cantidadRecibidaToken := sumar r.cantidadRecibidaToken dataSize
      tokenInicializado := true }, false, [{ m with tipo := .tokenLost, data := data }])
  else do
    let dataToken ← r.dataToken.memcpy (m.numeroDeMensaje * dataSize) m.data 0
      (tamanioBloque s m.numeroDeMensaje)
    if m.cantidadBytesTotal ≤ sumar r.cantidadRecibidaToken dataSize then
      return ({ r with
        dataToken
        cantidadRecibidaToken := 0
        numeroAnterior := -1
        tokenOk := true
        tokenInicializado := true }, true, [])
    else
      return ({ r with
        dataToken
        cantidadRecibidaToken := sumar r.cantidadRecibidaToken dataSize
        numeroAnterior := r.numeroAnterior + 1
        tokenInicializado := true }, false, [])

def procesarRecepcionToken (r : Receptor s) (m : TransferenciaToken.Mensaje) :
    Except Falla (Receptor s × Bool × List TransferenciaToken.Mensaje) :=
  (r.empezar m).procesarBloque m

/-- The block with number 0 starts a replica. -/
def empezarReplica (r : Receptor s) (m : TransferenciaToken.Mensaje) : Receptor s :=
  if m.numeroDeMensaje = 0 then
    { r with cantidadRecibidaReplica := 0, replicaOk := false, numeroAnteriorReplica := -1 }
  else r

/-- The block is copied, and is the one that completes the replica. -/
def completaReplica (r : Receptor s) (m : TransferenciaToken.Mensaje) : Bool :=
  (m.numeroDeMensaje : Int) ≠ (r.empezarReplica m).numeroAnteriorReplica + 1 ∧
    m.cantidadBytesTotal ≤ sumar (r.empezarReplica m).cantidadRecibidaReplica dataSize

/-- The rest of `procesar_memory_update`. -/
def procesarReplica (r : Receptor s) (m : TransferenciaToken.Mensaje) :
    Except Falla (Receptor s × List TransferenciaToken.Mensaje) :=
  -- as in the source: it is the block in its turn that is not copied
  if (m.numeroDeMensaje : Int) ≠ r.numeroAnteriorReplica + 1 then do
    let dataReplica ← r.dataReplica.memcpy (m.numeroDeMensaje * dataSize) m.data 0
      (tamanioBloque s m.numeroDeMensaje)
    let cantidadRecibidaReplica := sumar r.cantidadRecibidaReplica dataSize
    let reenviados := if r.leader then [] else [m]
    if m.cantidadBytesTotal ≤ cantidadRecibidaReplica then do
      let dataToken ← r.dataToken.memcpy 0 dataReplica 0 s
      return ({ r with
        dataToken, dataReplica, cantidadRecibidaReplica
        replicaOk := true
        numeroAnteriorReplica := -1 + 1 }, reenviados)
    else
      return ({ r with
        dataReplica, cantidadRecibidaReplica
        numeroAnteriorReplica := r.numeroAnteriorReplica + 1 }, reenviados)
  else return ({ r with cantidadRecibidaReplica := 0, numeroAnteriorReplica := -1 }, [])

def procesarMemoryUpdate (r : Receptor s) (m : TransferenciaToken.Mensaje) :
    Except Falla (Receptor s × List TransferenciaToken.Mensaje) :=
  (r.empezarReplica m).procesarReplica m

end Receptor

/-! ## The receiver of `TransferenciaToken` -/

section

variable {s : Nat}

def Receptor.groupReceiver (r : Receptor s) (memoria : Bufer UInt8 s) (tokensLiberados : Nat) :
    TransferenciaToken.GroupReceiver s where
  memoria := memoria
  dataToken := r.dataToken
  numeroAnterior := r.numeroAnterior
  cantidadRecibidaToken := r.cantidadRecibidaToken
  tokenInicializado := r.tokenInicializado
  numeroDeNodo := r.numeroDeNodo
  tokensLiberados := tokensLiberados
  esSizeT := r.esSizeT

/-- While the count fits in a `size_t`, both receivers do the same with a block. -/
theorem groupReceiver_procesarRecepcionToken (r : Receptor s) (m : TransferenciaToken.Mensaje)
    (memoria : Bufer UInt8 s)
    (tokens : Nat) (hcabe : r.cantidadRecibidaToken + dataSize < 2 ^ 64) :
    (r.groupReceiver memoria tokens).procesarRecepcionToken m =
      (r.procesarRecepcionToken m).map fun x => (x.1.groupReceiver memoria tokens, x.2) := by
  have hempezar : (r.groupReceiver memoria tokens).empezar m =
      (r.empezar m).groupReceiver memoria tokens := by
    unfold TransferenciaToken.GroupReceiver.empezar Receptor.empezar
    split <;> rfl
  have hsumar : sumar (r.empezar m).cantidadRecibidaToken dataSize =
      (r.empezar m).cantidadRecibidaToken + dataSize := by
    unfold Receptor.empezar sumar
    split
    · rfl
    · exact Nat.mod_eq_of_lt hcabe
  unfold TransferenciaToken.GroupReceiver.procesarRecepcionToken Receptor.procesarRecepcionToken
  rw [hempezar]
  generalize r.empezar m = r at hsumar
  unfold TransferenciaToken.GroupReceiver.procesarBloque Receptor.procesarBloque
  rw [hsumar, show (r.groupReceiver memoria tokens).numeroAnterior = r.numeroAnterior from rfl]
  by_cases hturno : (m.numeroDeMensaje : Int) ≠ r.numeroAnterior + 1
  · rw [if_pos hturno, if_pos hturno]
    show (m.data.escribir 0 (decimal r.numeroDeNodo) >>= _) =
      (m.data.escribir 0 (decimal r.numeroDeNodo) >>= _).map _
    cases m.data.escribir 0 (decimal r.numeroDeNodo) <;> rfl
  · rw [if_neg hturno, if_neg hturno]
    show (r.dataToken.memcpy (m.numeroDeMensaje * dataSize) m.data 0
        (Receptor.tamanioBloque s m.numeroDeMensaje) >>= _) =
      (r.dataToken.memcpy (m.numeroDeMensaje * dataSize) m.data 0
        (Receptor.tamanioBloque s m.numeroDeMensaje) >>= _).map _
    cases r.dataToken.memcpy (m.numeroDeMensaje * dataSize) m.data 0
      (Receptor.tamanioBloque s m.numeroDeMensaje) with
    | error falla => rfl
    | ok dataToken =>
      rw [ok_bind, ok_bind]
      by_cases hcant : m.cantidadBytesTotal ≤ r.cantidadRecibidaToken + dataSize
      · show ite (m.cantidadBytesTotal ≤ r.cantidadRecibidaToken + dataSize) _ _ = _
        rw [if_pos hcant, if_pos hcant]
        rfl
      · show ite (m.cantidadBytesTotal ≤ r.cantidadRecibidaToken + dataSize) _ _ = _
        rw [if_neg hcant, if_neg hcant]
        rfl

end

/-! ## Runs of `recv_token` -/

/-- A block of a token: its number is below the block count. -/
structure Bloque (s : Nat) where
  numero : Nat
  data : Bufer UInt8 dataSize
  hay : numero < bloquesPorToken s

def Bloque.mensaje {s : Nat} (b : Bloque s) : TransferenciaToken.Mensaje :=
  ⟨.tokenDeliver, b.numero, s, b.data⟩

inductive Evento (s : Nat) where
  | tokenDeliver (b : Bloque s)
  -- any number and any total
  | memoryUpdate (m : TransferenciaToken.Mensaje)

/-- `recibidos` counts the blocks since block 0 and `aceptados` are those that were not discarded;
    `replica` is what the last replica completed since then has copied to `data_token`, with the
    number of blocks accepted before it.  `completo` is what `procesar_recepcion_token` returned. -/
structure Corrida (s : Nat) where
  receptor : Receptor s
  completo : Bool
  recibidos : Nat
  aceptados : List (Bloque s)
  replica : Option (Nat × Bufer UInt8 s)

section

variable {s : Nat}

/-- The constructor sets two fields; the others hold anything. -/
def inicial (r : Receptor s) : Corrida s where
  receptor := { r with numeroAnterior := -1, cantidadRecibidaToken := 0 }
  completo := false
  recibidos := 0
  aceptados := []
  replica := none

/-- Block 0 starts the record of a token. -/
def Corrida.empezar (c : Corrida s) (b : Bloque s) : Corrida s :=
  if b.numero = 0 then { c with recibidos := 0, aceptados := [], replica := none } else c

/-- A fault ends the run. -/
def paso (c : Corrida s) : Evento s → Option (Corrida s)
  | .tokenDeliver b =>
    match c.receptor.procesarRecepcionToken b.mensaje with
    | .ok (receptor, completo, perdido) =>
      some { c.empezar b with
        receptor, completo
        recibidos := (c.empezar b).recibidos + 1
        aceptados := (c.empezar b).aceptados ++ if perdido.isEmpty then [b] else [] }
    | .error _ => none
  | .memoryUpdate m =>
    match c.receptor.procesarMemoryUpdate m with
    | .ok (receptor, _) =>
      some { c with
        receptor
        completo := false
        replica :=
          if c.receptor.completaReplica m then some (c.aceptados.length, receptor.dataToken)
          else c.replica }
    | .error _ => none

/-- What block `i` takes of a memory of `s` bytes. -/
def trozo (s i : Nat) (datos : List UInt8) : List UInt8 :=
  (datos.drop (i * dataSize)).take (min (s - i * dataSize) dataSize)

/-- `datos` has the data of block `i`. -/
def Tiene (datos : List UInt8) (i : Nat) (b : Bloque s) : Prop :=
  trozo s i datos = b.data.datos.take (min (s - i * dataSize) dataSize)

/-- Every block has been accepted, in order, and `data_token` holds their data. -/
structure Entero (c : Corrida s) : Prop where
  todos : c.aceptados.map Bloque.numero = List.range (bloquesPorToken s)
  datos : ∀ i b, c.aceptados[i]? = some b → Tiene c.receptor.dataToken.datos i b

/-- The block completes no token; or it is the last one, and the last replica agrees with the blocks
    accepted before it. -/
def Sano (c : Corrida s) (b : Bloque s) : Prop :=
  b.numero = 0 ∨ (b.numero : Int) ≠ c.receptor.numeroAnterior + 1 ∨
    (c.recibidos + 1) * dataSize % 2 ^ 64 < s ∨
      b.numero + 1 = bloquesPorToken s ∧
        ∀ n datos, c.replica = some (n, datos) →
          ∀ i < n, ∀ b, c.aceptados[i]? = some b → Tiene datos.datos i b

/-! ## One block -/

variable {c c' : Corrida s} {b : Bloque s} {r : Receptor s} {datos datos' : List UInt8} {i n : Nat}

theorem trozo_congr (h : datos.take n = datos'.take n) (hi : (i + 1) * dataSize ≤ n) :
    trozo s i datos = trozo s i datos' := by
  have htramo : ∀ xs : List UInt8, trozo s i xs = trozo s i (xs.take n) := by
    intro xs
    unfold trozo
    rw [Nat.succ_mul] at hi
    have hmin : min (s - i * dataSize) dataSize ≤ n - i * dataSize := by omega
    rw [List.drop_take, List.take_take, Nat.min_eq_left hmin]
  rw [htramo datos, h, ← htramo datos']

/-- The copy of a block fits, and leaves the blocks before it as they were. -/
theorem memcpy_bloque (hs : s < 2 ^ 64) (b : Bloque s) (destino : Bufer UInt8 s) :
    ∃ d, destino.memcpy (b.numero * dataSize) b.data 0 (Receptor.tamanioBloque s b.numero) = .ok d ∧
      d.datos.take (b.numero * dataSize) = destino.datos.take (b.numero * dataSize) ∧
        Tiene d.datos b.numero b := by
  have hle := Fragmentacion.mul_dataSize_le b.hay
  have htam : Receptor.tamanioBloque s b.numero = min (s - b.numero * dataSize) dataSize := by
    rw [Receptor.tamanioBloque, Fragmentacion.restar_of_le hle hs]
  have hleer : b.data.leer 0 (Receptor.tamanioBloque s b.numero) =
      .ok (b.data.datos.take (Receptor.tamanioBloque s b.numero)) := by
    rw [leer_ok (by rw [htam]; omega), List.drop_zero]
  have hlargo : (b.data.datos.take (Receptor.tamanioBloque s b.numero)).length =
      min (s - b.numero * dataSize) dataSize := by
    rw [List.length_take, b.data.largo, htam]
    omega
  have hcabe : b.numero * dataSize + (b.data.datos.take (Receptor.tamanioBloque s b.numero)).length ≤ s := by
    rw [hlargo]
    omega
  obtain ⟨d, hd, hantes, hbloque⟩ := escribir_ok (b := destino) hcabe
  refine ⟨d, ?_, hantes, ?_⟩
  · unfold Bufer.memcpy
    rw [hleer, ok_bind, hd]
  · rw [hlargo, htam] at hbloque
    exact hbloque

/-- What a message does to the receiver and to the record: it is discarded, or its data go to
    `data_token`. -/
theorem paso_tokenDeliver (h : paso c (.tokenDeliver b) = some c') :
    ((b.numero : Int) ≠ (c.receptor.empezar b.mensaje).numeroAnterior + 1 ∧
      c'.completo = false ∧ c'.aceptados = (c.empezar b).aceptados ∧
        c'.receptor.dataToken = (c.receptor.empezar b.mensaje).dataToken ∧
          c'.receptor.numeroAnterior = (c.receptor.empezar b.mensaje).numeroAnterior ∧
            c'.receptor.cantidadRecibidaToken =
              sumar (c.receptor.empezar b.mensaje).cantidadRecibidaToken dataSize ∨
    (b.numero : Int) = (c.receptor.empezar b.mensaje).numeroAnterior + 1 ∧
      c'.completo = decide (s ≤ sumar (c.receptor.empezar b.mensaje).cantidadRecibidaToken dataSize) ∧
        c'.aceptados = (c.empezar b).aceptados ++ [b] ∧
          c'.receptor.dataToken.datos.take (b.numero * dataSize) =
              (c.receptor.empezar b.mensaje).dataToken.datos.take (b.numero * dataSize) ∧
            Tiene c'.receptor.dataToken.datos b.numero b ∧
              (c'.receptor.numeroAnterior = -1 ∨
                c'.receptor.numeroAnterior = (c.receptor.empezar b.mensaje).numeroAnterior + 1 ∧
                  c'.receptor.cantidadRecibidaToken =
                    sumar (c.receptor.empezar b.mensaje).cantidadRecibidaToken dataSize)) ∧
    c'.recibidos = (c.empezar b).recibidos + 1 ∧ c'.replica = (c.empezar b).replica := by
  unfold paso at h
  dsimp only at h
  split at h
  case h_2 => cases h
  rename_i receptor completo perdido hproc
  cases h
  refine ⟨?_, rfl, rfl⟩
  unfold Receptor.procesarRecepcionToken at hproc
  generalize c.receptor.empezar b.mensaje = r at hproc
  unfold Receptor.procesarBloque at hproc
  by_cases hord : (b.numero : Int) = r.numeroAnterior + 1
  · obtain ⟨d, hd, hantes, htiene⟩ := memcpy_bloque r.esSizeT b r.dataToken
    have hturno : ¬(b.mensaje.numeroDeMensaje : Int) ≠ r.numeroAnterior + 1 := not_not.mpr hord
    rw [if_neg hturno] at hproc
    change (r.dataToken.memcpy (b.numero * dataSize) b.data 0
      (Receptor.tamanioBloque s b.numero) >>= _) = _ at hproc
    rw [hd, ok_bind] at hproc
    right
    by_cases hcant : b.mensaje.cantidadBytesTotal ≤ sumar r.cantidadRecibidaToken dataSize
    · rw [if_pos hcant] at hproc
      cases hproc
      exact ⟨hord, (decide_eq_true hcant).symm, rfl, hantes, htiene, .inl rfl⟩
    · rw [if_neg hcant] at hproc
      cases hproc
      exact ⟨hord, (decide_eq_false hcant).symm, rfl, hantes, htiene, .inr ⟨rfl, rfl⟩⟩
  · have hfuera : (b.mensaje.numeroDeMensaje : Int) ≠ r.numeroAnterior + 1 := hord
    rw [if_pos hfuera] at hproc
    change (b.data.escribir 0 (decimal r.numeroDeNodo) >>= _) = _ at hproc
    cases hdata : b.data.escribir 0 (decimal r.numeroDeNodo) with
    | error falla =>
      rw [hdata] at hproc
      cases hproc
    | ok data =>
      rw [hdata] at hproc
      cases hproc
      exact .inl ⟨hord, rfl, List.append_nil _, rfl, rfl, rfl⟩

/-! ## The invariant -/

/-- A token of which the blocks accepted so far are in `data_token`, but where a replica has been copied
    over them. -/
structure EnCurso (c : Corrida s) : Prop where
  numero : c.receptor.numeroAnterior + 1 = c.aceptados.length
  cuenta : c.receptor.cantidadRecibidaToken = c.recibidos * dataSize % 2 ^ 64
  numeros : c.aceptados.map Bloque.numero = List.range c.aceptados.length
  copiados : ∀ n d, c.replica = some (n, d) → n ≤ c.aceptados.length ∧
    ∀ i < n, trozo s i c.receptor.dataToken.datos = trozo s i d.datos
  datos : ∀ i b, c.aceptados[i]? = some b → (∀ n d, c.replica = some (n, d) → n ≤ i) →
    Tiene c.receptor.dataToken.datos i b

/-- After a token there is nothing in course until the next block 0. -/
def Inv (c : Corrida s) : Prop := c.receptor.numeroAnterior = -1 ∨ EnCurso c

theorem inv_inicial (r : Receptor s) : Inv (inicial r) := .inl rfl

/-- The state a block is compared with: empty for block 0. -/
def Corrida.antesDe (c : Corrida s) (b : Bloque s) : Corrida s :=
  { c.empezar b with receptor := c.receptor.empezar b.mensaje }

theorem antesDe_cero (h : b.numero = 0) : c.antesDe b =
    { c with
      receptor := { c.receptor with numeroAnterior := -1, cantidadRecibidaToken := 0 }
      recibidos := 0
      aceptados := []
      replica := none } := by
  have hm : b.mensaje.numeroDeMensaje = 0 := h
  unfold Corrida.antesDe Corrida.empezar Receptor.empezar
  rw [if_pos h, if_pos hm]

theorem antesDe_of_ne (h : b.numero ≠ 0) : c.antesDe b = c := by
  have hm : b.mensaje.numeroDeMensaje ≠ 0 := h
  unfold Corrida.antesDe Corrida.empezar Receptor.empezar
  rw [if_neg h, if_neg hm]

/-- A block in its turn continues a token in course. -/
theorem Inv.enCurso (h : Inv c) (hord : (b.numero : Int) = (c.antesDe b).receptor.numeroAnterior + 1) :
    EnCurso (c.antesDe b) := by
  by_cases hcero : b.numero = 0
  · rw [antesDe_cero hcero]
    refine ⟨rfl, (Nat.zero_mod _).symm.trans (by rw [Nat.zero_mul]), rfl, ?_, ?_⟩
    · intro n d hr
      cases hr
    · intro i b hb
      cases hb
  · rw [antesDe_of_ne hcero] at hord ⊢
    exact h.resolve_left (by omega)

theorem sumar_cuenta (n : Nat) : sumar (n * dataSize % 2 ^ 64) dataSize = (n + 1) * dataSize % 2 ^ 64 := by
  unfold sumar
  rw [Nat.succ_mul, Nat.mod_add_mod]

theorem getElem?_snoc {α : Type*} {l : List α} {a x : α} {i : Nat} (h : (l ++ [a])[i]? = some x) :
    i < l.length ∧ l[i]? = some x ∨ i = l.length ∧ x = a := by
  rcases Nat.lt_trichotomy i l.length with hi | rfl | hi
  · rw [List.getElem?_append_left hi] at h
    exact .inl ⟨hi, h⟩
  · rw [List.getElem?_concat_length] at h
    exact .inr ⟨rfl, (Option.some.inj h).symm⟩
  · rw [List.getElem?_eq_none (by rw [List.length_append, List.length_singleton]; omega)] at h
    cases h

theorem inv_tokenDeliver (h : Inv c) (hs : paso c (.tokenDeliver b) = some c') : Inv c' := by
  obtain ⟨hcasos, hrecibidos, hreplica⟩ := paso_tokenDeliver hs
  rcases hcasos with ⟨hord, -, hacep, hdata, hant, hcant⟩ |
    ⟨hord, -, hacep, hantes, htiene, hant | ⟨hant, hcant⟩⟩
  · -- discarded: nothing changes but the count
    have hne : b.numero ≠ 0 := by
      intro hcero
      have hm : b.mensaje.numeroDeMensaje = 0 := hcero
      unfold Receptor.empezar at hord
      rw [if_pos hm, hcero] at hord
      exact hord rfl
    have hmismo := antesDe_of_ne (c := c) hne
    have hr : c.receptor.empezar b.mensaje = c.receptor := congrArg Corrida.receptor hmismo
    have hc : c.empezar b = c := if_neg hne
    rw [hr] at hdata hant hcant
    rw [hc] at hacep hrecibidos hreplica
    rcases h with h | h
    · exact .inl (hant.trans h)
    · refine .inr ⟨?_, ?_, ?_, ?_, ?_⟩
      · rw [hant, hacep]
        exact h.numero
      · rw [hcant, hrecibidos, h.cuenta, sumar_cuenta]
      · rw [hacep]
        exact h.numeros
      · rw [hreplica, hacep, hdata]
        exact h.copiados
      · rw [hreplica, hacep, hdata]
        exact h.datos
  · exact .inl hant
  · have hcurso : EnCurso (c.antesDe b) := h.enCurso hord
    have hlargo : (c.antesDe b).aceptados.length = b.numero := by
      have hnumero := hcurso.numero
      change (c.receptor.empezar b.mensaje).numeroAnterior + 1 = _ at hnumero
      omega
    change c'.aceptados = (c.antesDe b).aceptados ++ [b] at hacep
    change c'.replica = (c.antesDe b).replica at hreplica
    refine .inr ⟨?_, ?_, ?_, fun n d hr => ?_, fun i b' hb' hn => ?_⟩
    · rw [hant, hacep, List.length_append, hlargo, ← hord]
      rfl
    · rw [hcant, hrecibidos]
      exact (congrArg (sumar · dataSize) hcurso.cuenta).trans (sumar_cuenta _)
    · rw [hacep, List.map_append, List.length_append, hcurso.numeros, List.length_singleton,
        List.range_succ, hlargo]
      rfl
    · rw [hreplica] at hr
      obtain ⟨hle, hcopia⟩ := hcurso.copiados n d hr
      rw [hlargo] at hle
      refine ⟨?_, fun i hi => ?_⟩
      · rw [hacep, List.length_append, hlargo]
        omega
      · rw [trozo_congr hantes (Nat.mul_le_mul_right _ (by omega))]
        exact hcopia i hi
    · rw [hacep] at hb'
      rw [hreplica] at hn
      rcases getElem?_snoc hb' with ⟨hi, hb'⟩ | ⟨rfl, rfl⟩
      · rw [hlargo] at hi
        have hviejo := hcurso.datos i b' hb' hn
        unfold Tiene at hviejo ⊢
        rw [trozo_congr hantes (Nat.mul_le_mul_right _ (by omega))]
        exact hviejo
      · rw [hlargo]
        exact htiene

/-- A replica is copied whole to `data_token`, or it stays as it was. -/
theorem paso_memoryUpdate {m : TransferenciaToken.Mensaje} (h : paso c (.memoryUpdate m) = some c') :
    c'.aceptados = c.aceptados ∧ c'.recibidos = c.recibidos ∧
      c'.receptor.numeroAnterior = c.receptor.numeroAnterior ∧
        c'.receptor.cantidadRecibidaToken = c.receptor.cantidadRecibidaToken ∧
          (c'.replica = some (c.aceptados.length, c'.receptor.dataToken) ∨
            c'.replica = c.replica ∧ c'.receptor.dataToken = c.receptor.dataToken) := by
  unfold paso at h
  dsimp only at h
  split at h
  case h_2 => cases h
  rename_i receptor reenviados hproc
  cases h
  have hr : (c.receptor.empezarReplica m).numeroAnterior = c.receptor.numeroAnterior ∧
      (c.receptor.empezarReplica m).cantidadRecibidaToken = c.receptor.cantidadRecibidaToken ∧
        (c.receptor.empezarReplica m).dataToken = c.receptor.dataToken := by
    unfold Receptor.empezarReplica
    split <;> exact ⟨rfl, rfl, rfl⟩
  dsimp only
  rw [← hr.1, ← hr.2.1, ← hr.2.2]
  unfold Receptor.procesarMemoryUpdate at hproc
  unfold Receptor.completaReplica
  generalize c.receptor.empezarReplica m = r at hproc
  unfold Receptor.procesarReplica at hproc
  by_cases hturno : (m.numeroDeMensaje : Int) ≠ r.numeroAnteriorReplica + 1
  · rw [if_pos hturno] at hproc
    cases hcopia : r.dataReplica.memcpy (m.numeroDeMensaje * dataSize) m.data 0
      (Receptor.tamanioBloque s m.numeroDeMensaje) with
    | error falla =>
      rw [hcopia] at hproc
      cases hproc
    | ok dataReplica =>
      rw [hcopia, ok_bind] at hproc
      by_cases htotal : m.cantidadBytesTotal ≤ sumar r.cantidadRecibidaReplica dataSize
      · rw [if_pos htotal] at hproc
        cases hentera : r.dataToken.memcpy 0 dataReplica 0 s with
        | error falla =>
          rw [hentera] at hproc
          cases hproc
        | ok dataToken =>
          rw [hentera] at hproc
          cases hproc
          exact ⟨rfl, rfl, rfl, rfl, .inl (if_pos (decide_eq_true ⟨hturno, htotal⟩))⟩
      · rw [if_neg htotal] at hproc
        cases hproc
        exact ⟨rfl, rfl, rfl, rfl, .inr ⟨if_neg fun hc => htotal (of_decide_eq_true hc).2, rfl⟩⟩
  · rw [if_neg hturno] at hproc
    cases hproc
    exact ⟨rfl, rfl, rfl, rfl, .inr ⟨if_neg fun hc => hturno (of_decide_eq_true hc).1, rfl⟩⟩

theorem inv_memoryUpdate {m : TransferenciaToken.Mensaje} (h : Inv c)
    (hs : paso c (.memoryUpdate m) = some c') :
    Inv c' := by
  obtain ⟨hacep, hrecibidos, hant, hcant, hreplica⟩ := paso_memoryUpdate hs
  rcases h with h | h
  · exact .inl (hant.trans h)
  · refine .inr ⟨by rw [hant, hacep]; exact h.numero, by rw [hcant, hrecibidos]; exact h.cuenta,
      by rw [hacep]; exact h.numeros, ?_, ?_⟩
    · rcases hreplica with hreplica | ⟨hreplica, hdata⟩
      · intro n d hr
        cases hreplica.symm.trans hr
        exact ⟨Nat.le_of_eq (congrArg List.length hacep.symm), fun _ _ => rfl⟩
      · rw [hreplica, hacep, hdata]
        exact h.copiados
    · rcases hreplica with hreplica | ⟨hreplica, hdata⟩
      · intro i b hb hn
        have hi := List.getElem?_eq_some_iff.mp hb
        have hle := hn _ _ hreplica
        rw [hacep] at hi
        obtain ⟨hlt, -⟩ := hi
        omega
      · rw [hreplica, hacep, hdata]
        exact h.datos

theorem inv_paso {e : Evento s} (h : Inv c) (hs : paso c e = some c') : Inv c' := by
  cases e with
  | tokenDeliver b => exact inv_tokenDeliver h hs
  | memoryUpdate m => exact inv_memoryUpdate h hs

/-! ## The block that completes -/

theorem bloquesPorToken_eq_one (h : s ≤ dataSize) : bloquesPorToken s = 1 := by
  unfold bloquesPorToken cantidad
  rcases Nat.lt_or_eq_of_le h with hlt | rfl
  · rw [Nat.div_eq_of_lt hlt, if_pos (.inr (.inr hlt))]
  · decide

/-- After an accepted block the record is that of a whole token exactly if the block is the last one and
    no replica has put other data over the blocks before it. -/
theorem entero_iff (hcurso : EnCurso c) (hnumero : c.aceptados.length = b.numero)
    (hacep : c'.aceptados = c.aceptados ++ [b])
    (hantes : c'.receptor.dataToken.datos.take (b.numero * dataSize) =
      c.receptor.dataToken.datos.take (b.numero * dataSize))
    (htiene : Tiene c'.receptor.dataToken.datos b.numero b) :
    Entero c' ↔ b.numero + 1 = bloquesPorToken s ∧ ∀ n datos, c.replica = some (n, datos) →
      ∀ i < n, ∀ b, c.aceptados[i]? = some b → Tiene datos.datos i b := by
  have hviejo : ∀ i < b.numero,
      trozo s i c'.receptor.dataToken.datos = trozo s i c.receptor.dataToken.datos := fun i hi =>
    trozo_congr hantes (Nat.mul_le_mul_right _ hi)
  constructor
  · intro hentero
    refine ⟨?_, fun n d hr i hi b' hb' => ?_⟩
    · have hlargo := congrArg List.length hentero.todos
      rw [List.length_map, hacep, List.length_append, hnumero, List.length_range] at hlargo
      exact hlargo
    · obtain ⟨hle, hcopia⟩ := hcurso.copiados n d hr
      have hb'' : c'.aceptados[i]? = some b' := by
        rw [hacep, List.getElem?_append_left (by omega), hb']
      have hdatos := hentero.datos i b' hb''
      unfold Tiene at hdatos ⊢
      rw [← hcopia i hi, ← hviejo i (by omega)]
      exact hdatos
  · rintro ⟨hultimo, hreplica⟩
    refine ⟨?_, fun i b' hb' => ?_⟩
    · rw [hacep, List.map_append, hcurso.numeros, hnumero, ← hultimo, List.range_succ]
      rfl
    · rw [hacep] at hb'
      rcases getElem?_snoc hb' with ⟨hi, hb'⟩ | ⟨rfl, rfl⟩
      · unfold Tiene
        rw [hviejo i (by omega)]
        by_cases hpisado : ∃ n d, c.replica = some (n, d) ∧ i < n
        · obtain ⟨n, d, hr, hin⟩ := hpisado
          rw [(hcurso.copiados n d hr).2 i hin]
          exact hreplica n d hr i hin b' hb'
        · refine hcurso.datos i b' hb' fun n d hr => ?_
          exact Nat.le_of_not_lt fun hin => hpisado ⟨n, d, hr, hin⟩
      · rw [hnumero]
        exact htiene

/-- A block is reported to complete the token only when all have been accepted and their data are in
    `data_token`, exactly under that condition. -/
theorem token_entero_iff {r : Receptor s} (hc : Alcanza paso (inicial r) c)
    (hs : paso c (.tokenDeliver b) = some c') : (c'.completo = true → Entero c') ↔ Sano c b := by
  have hinv : Inv c := hc.induccion (inv_inicial r) fun a e a' ha ha' => inv_paso ha ha'
  obtain ⟨hcasos, -, hreplica⟩ := paso_tokenDeliver hs
  rcases hcasos with ⟨hord, hcompleto, -⟩ | ⟨hord, hcompleto, hacep, hantes, htiene, -⟩
  · -- discarded
    have hsano : Sano c b := by
      by_cases hcero : b.numero = 0
      · exact .inl hcero
      · have hr : c.receptor.empezar b.mensaje = c.receptor :=
          congrArg Corrida.receptor (antesDe_of_ne (c := c) hcero)
        exact .inr (.inl (hr ▸ hord))
    refine ⟨fun _ => hsano, fun _ hcomp => ?_⟩
    rw [hcompleto] at hcomp
    cases hcomp
  · have hcurso : EnCurso (c.antesDe b) := hinv.enCurso hord
    have hnumero : (c.antesDe b).aceptados.length = b.numero := by
      have hnumero := hcurso.numero
      change (c.receptor.empezar b.mensaje).numeroAnterior + 1 = _ at hnumero
      omega
    have hentero := entero_iff hcurso hnumero hacep hantes htiene
    have hcuenta : sumar (c.receptor.empezar b.mensaje).cantidadRecibidaToken dataSize =
        ((c.antesDe b).recibidos + 1) * dataSize % 2 ^ 64 :=
      (congrArg (sumar · dataSize) hcurso.cuenta).trans (sumar_cuenta _)
    rw [hcuenta] at hcompleto
    by_cases hcero : b.numero = 0
    · -- block 0 completes a token of one block
      rw [antesDe_cero hcero] at hentero hcompleto
      refine ⟨fun _ => .inl hcero, fun _ hcomp => ?_⟩
      rw [hcomp] at hcompleto
      have hcorto : s ≤ (0 + 1) * dataSize % 2 ^ 64 := of_decide_eq_true hcompleto.symm
      rw [show (0 + 1) * dataSize % 2 ^ 64 = dataSize by decide] at hcorto
      refine hentero.mpr ⟨?_, fun n d hr => ?_⟩
      · rw [hcero, bloquesPorToken_eq_one hcorto]
      · cases hr
    · rw [antesDe_of_ne hcero] at hentero hcompleto
      by_cases hfalta : (c.recibidos + 1) * dataSize % 2 ^ 64 < s
      · refine ⟨fun _ => .inr (.inr (.inl hfalta)), fun _ hcomp => ?_⟩
        rw [hcomp] at hcompleto
        exact absurd (of_decide_eq_true hcompleto.symm) (Nat.not_le_of_lt hfalta)
      · rw [decide_eq_true (Nat.le_of_not_lt hfalta)] at hcompleto
        have hr : c.receptor.empezar b.mensaje = c.receptor :=
          congrArg Corrida.receptor (antesDe_of_ne (c := c) hcero)
        rw [hr] at hord
        constructor
        · exact fun h => .inr (.inr (.inr (hentero.mp (h hcompleto))))
        · rintro (h | h | h | h)
          · exact absurd h hcero
          · exact absurd hord h
          · exact absurd h hfalta
          · exact fun _ => hentero.mpr h

/-! ## Three blocks, the second of which is late -/

theorem length_ceros (n : Nat) : (List.replicate n (0 : UInt8)).length = n := List.length_replicate

def ceros (n : Nat) : Bufer UInt8 n := ⟨List.replicate n 0, length_ceros n⟩

def receptor (s : Nat) (h : s < 2 ^ 64) : Receptor s where
  dataToken := ceros s
  dataReplica := ceros s
  numeroAnterior := -1
  numeroAnteriorReplica := -1
  cantidadRecibidaToken := 0
  cantidadRecibidaReplica := 0
  leader := false
  tokenInicializado := false
  tokenOk := false
  replicaOk := false
  numeroDeNodo := 2
  esSizeT := h

def bloque (numero : Nat) (h : numero < bloquesPorToken 513) : Evento 513 :=
  .tokenDeliver ⟨numero, ceros dataSize, h⟩

/-- Block 2 is discarded and counted, so block 1 completes the token. -/
theorem token_incompleto : ¬∀ (s : Nat) (r : Receptor s) (c c' : Corrida s) (b : Bloque s),
    Alcanza paso (inicial r) c → paso c (.tokenDeliver b) = some c' → c'.completo = true → Entero c' := by
  intro h
  have hrun : (correr paso (inicial (receptor 513 (by decide)))
      [bloque 0 (by decide), bloque 2 (by decide)]).isSome = true := by decide +kernel
  obtain ⟨c, hc⟩ := Option.isSome_iff_exists.mp hrun
  have hfin : ((correr paso (inicial (receptor 513 (by decide)))
      [bloque 0 (by decide), bloque 2 (by decide), bloque 1 (by decide)]).map
        fun c => (c.completo, c.aceptados.map Bloque.numero)) = some (true, [0, 1]) := by decide +kernel
  obtain ⟨c', hc', hdatos⟩ := Option.map_eq_some_iff.mp hfin
  have hs : paso c (bloque 1 (by decide)) = some c' := by
    have hsplit : correr paso (inicial (receptor 513 (by decide)))
        ([bloque 0 (by decide), bloque 2 (by decide)] ++ [bloque 1 (by decide)]) = _ :=
      correr_append _ _ _
    rw [hc] at hsplit
    have hultimo := hsplit.symm.trans hc'
    simpa [correr] using hultimo
  have hentero := h 513 _ c c' _ ⟨_, hc⟩ hs (congrArg Prod.fst hdatos)
  have htodos := hentero.todos
  rw [show c'.aceptados.map Bloque.numero = [0, 1] from congrArg Prod.snd hdatos] at htodos
  revert htodos
  decide

/-- A block of a replica with the same data. -/
def bloqueReplica (numero : Nat) : Evento 513 := .memoryUpdate ⟨.memoryUpdate, numero, 513, ceros dataSize⟩

/-- A replica is completed before the last block of a token. -/
def antesDelUltimo : List (Evento 513) :=
  [bloque 0 (by decide), bloque 1 (by decide), bloqueReplica 2, bloqueReplica 2, bloqueReplica 1]

/-- The last block of a token of three, after a replica that agrees with the other two. -/
theorem token_entero_tras_replica :
    ∃ c c' : Corrida 513, c.replica.map Prod.fst = some 2 ∧
      paso c (bloque 2 (by decide)) = some c' ∧ c'.completo = true ∧ Entero c' := by
  have hrun : (correr paso (inicial (receptor 513 (by decide))) antesDelUltimo).map
      (fun c => (c.replica.map fun x => (x.1, x.2.datos), c.aceptados.map fun b => b.data.datos)) =
        some (some (2, List.replicate 513 0), List.replicate 2 (List.replicate dataSize 0)) := by
    decide +kernel
  have hfin : ((correr paso (inicial (receptor 513 (by decide))) antesDelUltimo).bind
      (paso · (bloque 2 (by decide)))).map Corrida.completo = some true := by decide +kernel
  obtain ⟨c, hc, hdatos⟩ := Option.map_eq_some_iff.mp hrun
  obtain ⟨hreplica, haceptados⟩ := Prod.mk.inj hdatos
  obtain ⟨c', hc', hcompleto⟩ := Option.map_eq_some_iff.mp hfin
  rw [hc, Option.bind_some] at hc'
  obtain ⟨⟨n, datos⟩, hrep, hpar⟩ := Option.map_eq_some_iff.mp hreplica
  obtain ⟨rfl, hceros⟩ := Prod.mk.inj hpar
  have hsano : Sano c ⟨2, ceros dataSize, by decide⟩ := by
    refine .inr (.inr (.inr ⟨by decide, fun n' datos' hrep' i hi b hb => ?_⟩))
    cases Option.some.inj (hrep.symm.trans hrep')
    have hdata : (c.aceptados.map fun b => b.data.datos)[i]? = some b.data.datos := by
      rw [List.getElem?_map, hb]
      rfl
    rw [haceptados, List.getElem?_replicate, if_pos hi] at hdata
    have htrozos : ∀ i < 2, trozo 513 i (List.replicate 513 0) =
        (List.replicate dataSize 0).take (min (513 - i * dataSize) dataSize) := by decide +kernel
    rw [Tiene, ← Option.some.inj hdata, show datos.datos = _ from hceros]
    exact htrozos i hi
  exact ⟨c, c', by rw [hrep]; rfl, hc', hcompleto, (token_entero_iff ⟨_, hc⟩ hc').mpr hsano hcompleto⟩

end

end RecepcionToken
