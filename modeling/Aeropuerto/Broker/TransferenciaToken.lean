import Aeropuerto.Broker.Fragmentacion

/-!
# The token of a group from one broker to another (`GroupSender`, `GroupReceiver`)

`send_token` sends the memory of the group in blocks, `procesar_recepcion_token` collects them and
`entregar_token_a_aplicacion` stores them in the memory of the group and releases the token.  A copy
that leaves a buffer is a fault of the model.
-/

namespace TransferenciaToken

open Flujo Bloques
open Fragmentacion (dataSize restar maxNombreRecurso)

inductive Tipo where
  | tokenDeliver
  | memoryUpdate
  | tokenInTransit
  | tokenLost
  deriving DecidableEq

/-- `mensajes_local_broker_group_t`. -/
structure Mensaje where
  tipo : Tipo
  numeroDeMensaje : Nat
  cantidadBytesTotal : Nat
  data : Bufer UInt8 dataSize

/-- What `sprintf(_, "%d", i)` writes, with the zero at its end. -/
def decimal (i : Nat) : List UInt8 := (Nat.toDigits 10 i).map (fun c => UInt8.ofNat c.toNat) ++ [0]

/-! ## The sender -/

structure GroupSender (s : Nat) where
  memoria : Bufer UInt8 s
  mensaje : Mensaje
  brokerLocal : List UInt8
  avisarEnvio : Bool
  total : mensaje.cantidadBytesTotal = s
  corto : brokerLocal.length ≤ maxNombreRecurso

namespace GroupSender

variable {s : Nat}

/-- One iteration of the loop of `send_token`. -/
def sendBloque (e : GroupSender s) (mc : Mensaje × List Mensaje) (i : Nat) :
    Except Falla (Mensaje × List Mensaje) := do
  let (mensaje, cola) := mc
  let data ← mensaje.data.memcpy 0 e.memoria (i * dataSize) dataSize
  let data ← data.escribir 0 (decimal i)
  let mensaje := { mensaje with numeroDeMensaje := i, data := data }
  return (mensaje, cola ++ [mensaje])

/-- The message as `send_token` begins. -/
def conTipo (e : GroupSender s) (tipo : Nat) : Mensaje :=
  if tipo = 1 then { e.mensaje with tipo := .tokenDeliver }
  else if tipo = 2 then { e.mensaje with tipo := .memoryUpdate }
  else e.mensaje

/-- `send_token(tipo)`: the messages that it pushes. -/
def sendToken (e : GroupSender s) (tipo : Nat) : Except Falla (List Mensaje) := do
  let (mensaje, cola) ← (List.range (cantidad dataSize s)).foldlM e.sendBloque (e.conTipo tipo, [])
  if e.avisarEnvio then
    let data ← mensaje.data.escribir 0 e.brokerLocal
    return cola ++ [{ mensaje with tipo := .tokenInTransit, numeroDeMensaje := 0, data := data }]
  else return cola

end GroupSender

/-! ## The receiver -/

structure GroupReceiver (s : Nat) where
  /-- the memory of its group -/
  memoria : Bufer UInt8 s
  dataToken : Bufer UInt8 s
  numeroAnterior : Int
  cantidadRecibidaToken : Nat
  tokenInicializado : Bool
  numeroDeNodo : Nat
  /-- the tokens in the queue of the token manager -/
  tokensLiberados : Nat
  esSizeT : s < 2 ^ 64

namespace GroupReceiver

variable {s : Nat}

/-- The block with number 0 starts a token. -/
def empezar (r : GroupReceiver s) (m : Mensaje) : GroupReceiver s :=
  if m.numeroDeMensaje = 0 then { r with numeroAnterior := -1, cantidadRecibidaToken := 0 } else r

/-- The rest of `procesar_recepcion_token`; the messages pushed are the third result. -/
def procesarBloque (r : GroupReceiver s) (m : Mensaje) :
    Except Falla (GroupReceiver s × Bool × List Mensaje) :=
  -- token_roto is a local variable and false here
  if (m.numeroDeMensaje : Int) ≠ r.numeroAnterior + 1 then do
    let data ← m.data.escribir 0 (decimal r.numeroDeNodo)
    return ({ r with cantidadRecibidaToken := r.cantidadRecibidaToken + dataSize, tokenInicializado := true },
      false, [{ m with tipo := .tokenLost, data := data }])
  else do
    let dataToken ← r.dataToken.memcpy (m.numeroDeMensaje * dataSize) m.data 0
      (min (restar s (m.numeroDeMensaje * dataSize)) dataSize)
    if m.cantidadBytesTotal ≤ r.cantidadRecibidaToken + dataSize then
      return ({ r with
        dataToken, cantidadRecibidaToken := 0, numeroAnterior := -1, tokenInicializado := true }, true, [])
    else
      return ({ r with
        dataToken, cantidadRecibidaToken := r.cantidadRecibidaToken + dataSize,
        numeroAnterior := r.numeroAnterior + 1, tokenInicializado := true }, false, [])

def procesarRecepcionToken (r : GroupReceiver s) (m : Mensaje) :
    Except Falla (GroupReceiver s × Bool × List Mensaje) :=
  (r.empezar m).procesarBloque m

def entregarTokenAAplicacion (r : GroupReceiver s) : Except Falla (GroupReceiver s) := do
  let memoria ← r.memoria.memcpy 0 r.dataToken 0 s
  return { r with memoria, tokensLiberados := r.tokensLiberados + 1 }

/-- `recv_token` takes a message TOKEN_DELIVER; when it completes the token, `procesar_mensaje` delivers
    it.  What was reported about each message is kept. -/
def recibir (rc : GroupReceiver s × List Bool) (m : Mensaje) :
    Except Falla (GroupReceiver s × List Bool) := do
  let (r, completos) := rc
  let (r, mensajeCompleto, _) ← r.procesarRecepcionToken m
  let r ← if mensajeCompleto then r.entregarTokenAAplicacion else .ok r
  return (r, completos ++ [mensajeCompleto])

end GroupReceiver

/-! ## The transfer -/

section

variable {s : Nat}

def transferir (e : GroupSender s) (r : GroupReceiver s) : Except Falla (GroupReceiver s × List Bool) := do
  let cola ← e.sendToken 1
  (cola.filter fun m => m.tipo = .tokenDeliver).foldlM GroupReceiver.recibir (r, [])

/-- The memory arrives as it was, on the last message and with one token, and no copy leaves its buffer. -/
def TransfiereIntacto (e : GroupSender s) (r : GroupReceiver s) : Prop :=
  ∃ r', transferir e r = .ok (r', List.replicate (cantidad dataSize s - 1) false ++ [true]) ∧
    r'.memoria = e.memoria ∧ r'.tokensLiberados = r.tokensLiberados + 1

/-- Block `i` of a memory. -/
def tramo (memoria : List UInt8) (i : Nat) : List UInt8 := (memoria.drop (i * dataSize)).take dataSize

/-- The block begins with the digits of its number and a zero. -/
def EmpiezaConSuNumero (memoria : List UInt8) (i : Nat) : Prop :=
  decimal i <+: tramo memoria i

instance (memoria : List UInt8) (i : Nat) : Decidable (EmpiezaConSuNumero memoria i) :=
  inferInstanceAs (Decidable (_ <+: _))

/-- What is sent as block `i`. -/
def impreso (memoria : List UInt8) (i : Nat) : List UInt8 :=
  decimal i ++ (tramo memoria i).drop (decimal i).length

/-! ## Blocks of a list -/

theorem flatten_tramos (memoria : List UInt8) (n : Nat) :
    ((List.range n).map (tramo memoria)).flatten = memoria.take (n * dataSize) := by
  induction n with
  | zero => rw [Nat.zero_mul, List.take_zero]; rfl
  | succ n ih =>
    rw [List.range_succ, List.map_append, List.flatten_append, ih, Nat.succ_mul, List.take_add,
      List.map_singleton, List.flatten_singleton, tramo]

/-- Lists with the same blocks. -/
theorem flatten_congr {datos datos' : Nat → List UInt8} {n : Nat}
    (hd : ∀ i < n, (datos i).length = (datos' i).length)
    (h : ((List.range n).map datos).flatten = ((List.range n).map datos').flatten) :
    ∀ i < n, datos i = datos' i := by
  induction n with
  | zero => nofun
  | succ n ih =>
    simp only [List.range_succ, List.map_append, List.flatten_append, List.map_singleton,
      List.flatten_singleton] at h
    obtain ⟨hprevios, hultimo⟩ := List.append_inj' h (hd n (Nat.lt_succ_self n))
    intro i hi
    rcases Nat.lt_succ_iff_lt_or_eq.mp hi with hlt | rfl
    · exact ih (fun j hj => hd j (Nat.lt_succ_of_lt hj)) hprevios i hlt
    · exact hultimo

theorem length_decimal {i : Nat} (h : i < 2 ^ 64) : (decimal i).length ≤ dataSize := by
  have hdigitos : (Nat.toDigits 10 i).length ≤ 20 :=
    (Nat.length_toDigits_le_iff (by decide) (by decide)).mpr (by omega)
  unfold decimal dataSize
  rw [List.length_append, List.length_map, List.length_singleton]
  omega

/-- A block is sent unchanged when it begins with its number. -/
theorem impreso_eq_tramo (memoria : List UInt8) (i : Nat) :
    impreso memoria i = tramo memoria i ↔ EmpiezaConSuNumero memoria i := by
  unfold impreso EmpiezaConSuNumero
  constructor
  · intro h
    rw [← h]
    exact List.prefix_append _ _
  · rintro ⟨resto, h⟩
    rw [← h, List.drop_left]

theorem length_tramo_memoria {memoria : List UInt8} {i : Nat} (h : i * dataSize + dataSize ≤ memoria.length) :
    (tramo memoria i).length = dataSize :=
  length_tramo h

theorem length_impreso {memoria : List UInt8} {i : Nat} (hi : i < 2 ^ 64)
    (h : i * dataSize + dataSize ≤ memoria.length) : (impreso memoria i).length = dataSize := by
  have := length_decimal hi
  rw [impreso, List.length_append, List.length_drop, length_tramo_memoria h]
  omega

/-! ## What is sent -/

/-- The message with block `i`. -/
structure EsBloque (s : Nat) (memoria : List UInt8) (i : Nat) (m : Mensaje) : Prop where
  tipo : m.tipo = .tokenDeliver
  numero : m.numeroDeMensaje = i
  total : m.cantidadBytesTotal = s
  data : m.data.datos = impreso memoria i

/-- The messages from block `i` on. -/
def EsCola (s : Nat) (memoria : List UInt8) : Nat → List Mensaje → Prop
  | _, [] => True
  | i, m :: cola => EsBloque s memoria i m ∧ EsCola s memoria (i + 1) cola

theorem EsCola.concat {memoria : List UInt8} {i : Nat} {cola : List Mensaje} {m : Mensaje}
    (h : EsCola s memoria i cola) (hm : EsBloque s memoria (i + cola.length) m) :
    EsCola s memoria i (cola ++ [m]) := by
  induction cola generalizing i with
  | nil => exact ⟨hm, trivial⟩
  | cons m' cola ih =>
    refine ⟨h.1, ih h.2 ?_⟩
    rw [List.length_cons, ← Nat.add_assoc, Nat.add_right_comm] at hm
    exact hm

theorem EsCola.filter {memoria : List UInt8} {i : Nat} {cola : List Mensaje}
    (h : EsCola s memoria i cola) : (cola.filter fun m => m.tipo = .tokenDeliver) = cola := by
  induction cola generalizing i with
  | nil => rfl
  | cons m cola ih => rw [List.filter_cons_of_pos (by simpa using h.1.tipo), ih h.2]

variable {e : GroupSender s} {r r' : GroupReceiver s} {i : Nat}

theorem sendBloque_ok {m : Mensaje} (cola : List Mensaje) (hi : i < 2 ^ 64)
    (hcabe : i * dataSize + dataSize ≤ s) (htipo : m.tipo = .tokenDeliver)
    (htotal : m.cantidadBytesTotal = s) :
    ∃ m', e.sendBloque (m, cola) i = .ok (m', cola ++ [m']) ∧ EsBloque s e.memoria.datos i m' := by
  have hlargo : i * dataSize + dataSize ≤ e.memoria.datos.length := by rwa [e.memoria.largo]
  have htramo := length_tramo_memoria hlargo
  obtain ⟨b, hb, hbdatos⟩ := escribir_cero (b := m.data) (Nat.le_of_eq htramo)
  obtain ⟨b', hb', hbdatos'⟩ := escribir_cero (b := b) (length_decimal hi)
  refine ⟨{ m with numeroDeMensaje := i, data := b' }, ?_, htipo, rfl, htotal, ?_⟩
  · unfold GroupSender.sendBloque Bufer.memcpy
    simp only [leer_ok hcabe, ok_bind]
    rw [show (e.memoria.datos.drop (i * dataSize)).take dataSize = tramo e.memoria.datos i from rfl, hb,
      ok_bind, hb']
    rfl
  · show b'.datos = _
    rw [hbdatos', hbdatos, htramo, List.drop_eq_nil_of_le (Nat.le_of_eq m.data.largo), List.append_nil]
    rfl

/-- The last block is read past the end of the memory unless it is a whole one. -/
theorem sendToken_fuera (tipo : Nat) (h : s < cantidad dataSize s * dataSize) :
    ∃ falla, e.sendToken tipo = .error falla := by
  obtain ⟨n, hn⟩ : ∃ n, cantidad dataSize s = n + 1 :=
    ⟨cantidad dataSize s - 1, (Nat.sub_add_cancel (cantidad_pos (by decide))).symm⟩
  have hleer : e.memoria.leer (n * dataSize) dataSize = .error .fueraDeRango := by
    apply if_neg
    rw [hn, Nat.succ_mul] at h
    omega
  have hbucle : ∀ mc, ∃ falla, (List.range (cantidad dataSize s)).foldlM e.sendBloque mc = .error falla := by
    intro mc
    rw [hn, List.range_succ, List.foldlM_append]
    cases (List.range n).foldlM e.sendBloque mc with
    | error falla => exact ⟨falla, rfl⟩
    | ok mc' =>
      refine ⟨.fueraDeRango, ?_⟩
      show (e.sendBloque mc' n >>= _) = _
      unfold GroupSender.sendBloque Bufer.memcpy
      rw [hleer]
      rfl
  obtain ⟨falla, hfalla⟩ := hbucle (e.conTipo tipo, [])
  refine ⟨falla, ?_⟩
  unfold GroupSender.sendToken
  rw [hfalla]
  rfl

theorem sendToken_ok (hs : s < 2 ^ 64) (h : s = cantidad dataSize s * dataSize) :
    ∃ cola, e.sendToken 1 = .ok cola ∧ ∃ bloques, bloques.length = cantidad dataSize s ∧
      EsCola s e.memoria.datos 0 bloques ∧
      (cola.filter fun m => m.tipo = .tokenDeliver) = bloques := by
  have hloop := foldlM_range (n := cantidad dataSize s) e.sendBloque
    (fun i mc => mc.1.tipo = .tokenDeliver ∧ mc.1.cantidadBytesTotal = s ∧ mc.2.length = i ∧
      EsCola s e.memoria.datos 0 mc.2)
    (s := (e.conTipo 1, [])) ⟨rfl, e.total, rfl, trivial⟩ ?_
  · obtain ⟨⟨m, bloques⟩, hfold, htipo, htotal, hlargo, hcola⟩ := hloop
    dsimp only at htipo htotal hlargo hcola
    unfold GroupSender.sendToken
    rw [hfold]
    by_cases havisar : e.avisarEnvio = true
    · -- one more message, which is not part of the token
      have hcorto : e.brokerLocal.length ≤ dataSize := Nat.le_trans e.corto (by decide)
      obtain ⟨b, hb, -⟩ := escribir_cero (b := m.data) hcorto
      refine ⟨bloques ++ [{ m with tipo := .tokenInTransit, numeroDeMensaje := 0, data := b }], ?_,
        bloques, hlargo, hcola, ?_⟩
      · show (if e.avisarEnvio = true then _ else _) = _
        rw [if_pos havisar, hb]
        rfl
      · rw [List.filter_append, hcola.filter]
        simp
    · refine ⟨bloques, ?_, bloques, hlargo, hcola, hcola.filter⟩
      show (if e.avisarEnvio = true then _ else _) = _
      rw [if_neg havisar]
      rfl
  · rintro i ⟨m, cola⟩ hi ⟨htipo, htotal, hlargo, hcola⟩
    have hcabe : i * dataSize + dataSize ≤ s := by
      rw [h, ← Nat.succ_mul]
      exact Nat.mul_le_mul_right _ hi
    have hi' : i < 2 ^ 64 := by
      unfold dataSize at hcabe
      omega
    obtain ⟨m', hm', hbloque⟩ := sendBloque_ok cola hi' hcabe htipo htotal
    refine ⟨_, hm', hbloque.tipo, hbloque.total, ?_, ?_⟩
    · show (cola ++ [m']).length = i + 1
      rw [List.length_append, hlargo]
      rfl
    · apply hcola.concat
      rw [Nat.zero_add, hlargo]
      exact hbloque

/-! ## What is received -/

/-- The receiver has the blocks before `i`; the first block finds it in any state. -/
def Espera (r : GroupReceiver s) (i : Nat) : Prop :=
  i = 0 ∨ (r.numeroAnterior + 1 = i ∧ r.cantidadRecibidaToken = i * dataSize)

/-- The state that the block finds after `empezar`. -/
theorem Espera.empezar {m : Mensaje} (hr : Espera r i) (hm : m.numeroDeMensaje = i) :
    (r.empezar m).numeroAnterior + 1 = i ∧ (r.empezar m).cantidadRecibidaToken = i * dataSize ∧
      (r.empezar m).dataToken = r.dataToken ∧ (r.empezar m).memoria = r.memoria ∧
      (r.empezar m).tokensLiberados = r.tokensLiberados := by
  unfold GroupReceiver.empezar
  rw [hm]
  split
  · rename_i hi
    rw [hi]
    exact ⟨rfl, (Nat.zero_mul _).symm, rfl, rfl, rfl⟩
  · rename_i hi
    exact ⟨(hr.resolve_left hi).1, (hr.resolve_left hi).2, rfl, rfl, rfl⟩

/-- Block `i` is stored after those before it, and it completes the token when nothing is left. -/
theorem procesarRecepcionToken_ok {memoria : List UInt8} {m : Mensaje} (hr : Espera r i)
    (hm : EsBloque s memoria i m) (hcabe : i * dataSize + dataSize ≤ s) :
    ∃ r', r.procesarRecepcionToken m = .ok (r', decide (s ≤ i * dataSize + dataSize), []) ∧
      r'.dataToken.datos.take (i * dataSize + dataSize) =
        r.dataToken.datos.take (i * dataSize) ++ m.data.datos ∧
      r'.memoria = r.memoria ∧ r'.tokensLiberados = r.tokensLiberados ∧
      (¬ s ≤ i * dataSize + dataSize → Espera r' (i + 1)) := by
  obtain ⟨hanterior, hrecibida, hdata, hmem, htokens⟩ := hr.empezar hm.numero
  have hlargo : min (restar s (i * dataSize)) dataSize = dataSize := by
    rw [Fragmentacion.restar_of_le (by omega) r.esSizeT]
    omega
  have hleer : m.data.leer 0 dataSize = .ok m.data.datos := by
    rw [leer_ok (by omega), List.drop_zero, List.take_of_length_le (Nat.le_of_eq m.data.largo)]
  have hescribir : i * dataSize + m.data.datos.length ≤ s := by rwa [m.data.largo]
  obtain ⟨b, hb, hantes, hbloque⟩ := escribir_ok (b := r.dataToken) hescribir
  have htake : b.datos.take (i * dataSize + dataSize) =
      r.dataToken.datos.take (i * dataSize) ++ m.data.datos := by
    rw [m.data.largo] at hbloque
    rw [List.take_add, hantes, hbloque]
  unfold GroupReceiver.procesarRecepcionToken GroupReceiver.procesarBloque Bufer.memcpy
  rw [if_neg (by rw [hm.numero, hanterior]; exact not_not_intro rfl), hm.numero, hlargo, hm.total, hrecibida,
    hdata, hleer]
  simp only [ok_bind, hb]
  by_cases hfin : s ≤ i * dataSize + dataSize
  · refine ⟨{ r.empezar m with
      dataToken := b, cantidadRecibidaToken := 0, numeroAnterior := -1, tokenInicializado := true },
      ?_, htake, hmem, htokens, fun hno => absurd hfin hno⟩
    rw [if_pos hfin, decide_eq_true hfin]
    rfl
  · refine ⟨{ r.empezar m with
      dataToken := b, cantidadRecibidaToken := i * dataSize + dataSize,
      numeroAnterior := (r.empezar m).numeroAnterior + 1, tokenInicializado := true },
      ?_, htake, hmem, htokens, fun _ => .inr ⟨?_, ?_⟩⟩
    · rw [if_neg hfin, decide_eq_false hfin]
      rfl
    · show (r.empezar m).numeroAnterior + 1 + 1 = _
      rw [hanterior]
      rfl
    · show _ = (i + 1) * dataSize
      rw [Nat.succ_mul]

/-- The blocks that are left complete the token on the last one. -/
theorem recibir_resto {memoria : List UInt8} {bloques : List Mensaje} (completos : List Bool)
    (hbloques : EsCola s memoria i bloques) (hne : bloques ≠ []) (hs : s = (i + bloques.length) * dataSize)
    (hr : Espera r i) :
    ∃ r', bloques.foldlM GroupReceiver.recibir (r, completos) =
        .ok (r', completos ++ (List.replicate (bloques.length - 1) false ++ [true])) ∧
      r'.memoria.datos = r.dataToken.datos.take (i * dataSize) ++ (bloques.map fun m => m.data.datos).flatten ∧
      r'.tokensLiberados = r.tokensLiberados + 1 := by
  induction bloques generalizing i r completos with
  | nil => exact absurd rfl hne
  | cons m bloques ih =>
    have hsiguiente : s = (i * dataSize + dataSize) + bloques.length * dataSize := by
      rw [hs, List.length_cons, ← Nat.succ_mul, ← Nat.add_mul]
      congr 1
      omega
    obtain ⟨r₁, hprocesar, htake, hmem, htokens, hespera⟩ :=
      procesarRecepcionToken_ok hr hbloques.1 (by omega)
    rw [List.foldlM_cons]
    by_cases hfin : bloques = []
    · -- the last block
      subst hfin
      have hfin : s = i * dataSize + dataSize := by simpa using hsiguiente
      have hleer : r₁.dataToken.leer 0 s = .ok r₁.dataToken.datos := by
        rw [leer_ok (by omega), List.drop_zero, List.take_of_length_le (Nat.le_of_eq r₁.dataToken.largo)]
      obtain ⟨b, hb, hbdatos⟩ := escribir_cero (b := r₁.memoria) (Nat.le_of_eq r₁.dataToken.largo)
      have hrecibir : GroupReceiver.recibir (r, completos) m =
          .ok ({ r₁ with memoria := b, tokensLiberados := r₁.tokensLiberados + 1 }, completos ++ [true]) := by
        unfold GroupReceiver.recibir GroupReceiver.entregarTokenAAplicacion Bufer.memcpy
        simp only [hprocesar, ok_bind, decide_eq_true (Nat.le_of_eq hfin), if_true, hleer, hb]
        rfl
      refine ⟨_, by rw [hrecibir]; rfl, ?_, congrArg (· + 1) htokens⟩
      have htodo : r₁.dataToken.datos = r.dataToken.datos.take (i * dataSize) ++ m.data.datos := by
        rw [← htake, List.take_of_length_le (by rw [r₁.dataToken.largo]; omega)]
      show b.datos = _
      rw [hbdatos, List.drop_eq_nil_of_le (by rw [r₁.memoria.largo, r₁.dataToken.largo]), List.append_nil,
        htodo]
      simp
    · have hpos := List.length_pos_of_ne_nil hfin
      have hno : ¬ s ≤ i * dataSize + dataSize := by
        have := Nat.mul_le_mul_right dataSize hpos
        unfold dataSize at *
        omega
      have hrecibir : GroupReceiver.recibir (r, completos) m = .ok (r₁, completos ++ [false]) := by
        unfold GroupReceiver.recibir
        simp only [hprocesar, ok_bind, decide_eq_false hno, Bool.false_eq_true, if_false]
        rfl
      obtain ⟨r₂, hresto, hmemoria, hliberados⟩ := ih (completos ++ [false]) hbloques.2 hfin
        (by rw [hsiguiente, ← Nat.succ_mul, ← Nat.add_mul]) (hespera hno)
      refine ⟨r₂, ?_, ?_, by rw [hliberados, htokens]⟩
      · rw [hrecibir, ok_bind, hresto, List.append_assoc]
        obtain ⟨k, hk⟩ : ∃ k, bloques.length = k + 1 := ⟨bloques.length - 1, by omega⟩
        rw [List.length_cons, hk]
        rfl
      · rw [hmemoria, Nat.succ_mul, htake, List.map_cons, List.flatten_cons, List.append_assoc]

/-! ## Which memories arrive -/

theorem cantidad_eq_iff : s = cantidad dataSize s * dataSize ↔ s ≠ 0 ∧ dataSize ∣ s := by
  have hdiv := Nat.div_add_mod s dataSize
  have hmod := Nat.mod_lt s (show 0 < dataSize by decide)
  unfold cantidad
  rw [Nat.dvd_iff_mod_eq_zero]
  unfold dataSize at *
  split
  · omega
  · omega

theorem EsCola.map_data {memoria : List UInt8} {cola : List Mensaje} (h : EsCola s memoria i cola) :
    (cola.map fun m => m.data.datos) = (List.range' i cola.length).map (impreso memoria) := by
  induction cola generalizing i with
  | nil => rfl
  | cons m cola ih =>
    rw [List.map_cons, h.1.data, ih h.2, List.length_cons, List.range'_succ, List.map_cons]

/-- A memory of whole blocks is transferred with the numbers printed over it. -/
theorem transferir_ok (e : GroupSender s) (r : GroupReceiver s) (h : s = cantidad dataSize s * dataSize) :
    ∃ r', transferir e r = .ok (r', List.replicate (cantidad dataSize s - 1) false ++ [true]) ∧
      r'.memoria.datos = ((List.range (cantidad dataSize s)).map (impreso e.memoria.datos)).flatten ∧
      r'.tokensLiberados = r.tokensLiberados + 1 := by
  obtain ⟨cola, hcola, bloques, hlargo, hbloques, hfilter⟩ := sendToken_ok (e := e) r.esSizeT h
  have hne : bloques ≠ [] :=
    List.ne_nil_of_length_pos (hlargo ▸ cantidad_pos (by decide))
  obtain ⟨r', hresto, hmemoria, htokens⟩ := recibir_resto (r := r) [] hbloques hne
    (by rw [hlargo, Nat.zero_add]; exact h) (.inl rfl)
  refine ⟨r', ?_, ?_, htokens⟩
  · unfold transferir
    rw [hcola, ok_bind, hfilter, hresto, hlargo]
    rfl
  · rw [hmemoria, Nat.zero_mul, List.take_zero, List.nil_append, hbloques.map_data, hlargo,
      ← List.range_eq_range']

theorem transferir_fuera (e : GroupSender s) (r : GroupReceiver s) (h : s < cantidad dataSize s * dataSize) :
    ∃ falla, transferir e r = .error falla := by
  obtain ⟨falla, hfalla⟩ := sendToken_fuera (e := e) 1 h
  refine ⟨falla, ?_⟩
  unfold transferir
  rw [hfalla]
  rfl

/-- The memory is transferred intact exactly when it is made of whole blocks, at least one, each of which
    begins with its own number. -/
theorem transfiere_intacto_iff (e : GroupSender s) (r : GroupReceiver s) :
    TransfiereIntacto e r ↔
      s ≠ 0 ∧ dataSize ∣ s ∧ ∀ i < s / dataSize, EmpiezaConSuNumero e.memoria.datos i := by
  have hcubre : s ≤ cantidad dataSize s * dataSize := by
    have hhasta : hasta dataSize s (cantidad dataSize s) = s := hasta_cantidad (by decide)
    unfold hasta at hhasta
    omega
  rw [← and_assoc, ← cantidad_eq_iff]
  by_cases h : s = cantidad dataSize s * dataSize
  · have hbloques : s / dataSize = cantidad dataSize s := by
      conv_lhs => rw [h]
      exact Nat.mul_div_cancel _ (by decide)
    have hcabe : ∀ i < cantidad dataSize s, i * dataSize + dataSize ≤ e.memoria.datos.length := by
      intro i hi
      rw [e.memoria.largo, ← Nat.succ_mul]
      exact Nat.le_trans (Nat.mul_le_mul_right _ hi) (Nat.le_of_eq h.symm)
    have hindice : ∀ i < cantidad dataSize s, i < 2 ^ 64 := by
      intro i hi
      have hfin := hcabe i hi
      have hs := r.esSizeT
      rw [e.memoria.largo] at hfin
      unfold dataSize at hfin
      omega
    have htodo : ((List.range (cantidad dataSize s)).map (tramo e.memoria.datos)).flatten =
        e.memoria.datos := by
      rw [flatten_tramos, List.take_of_length_le]
      rw [e.memoria.largo, ← h]
    obtain ⟨r₁, htransferir, hmemoria, htokens⟩ := transferir_ok e r h
    rw [hbloques]
    constructor
    · rintro ⟨r', hr', hmem, -⟩
      rw [htransferir] at hr'
      have hr₁ : r₁ = r' := congrArg Prod.fst (Except.ok.inj hr')
      rw [hr₁, hmem] at hmemoria
      refine ⟨h, fun i hi => (impreso_eq_tramo _ i).mp ?_⟩
      apply flatten_congr _ (hmemoria.symm.trans htodo.symm) i hi
      intro j hj
      rw [length_impreso (hindice j hj) (hcabe j hj), length_tramo_memoria (hcabe j hj)]
    · rintro ⟨-, hnumeros⟩
      refine ⟨r₁, htransferir, ?_, htokens⟩
      have higuales : (List.range (cantidad dataSize s)).map (impreso e.memoria.datos) =
          (List.range (cantidad dataSize s)).map (tramo e.memoria.datos) :=
        List.map_congr_left fun i hi => (impreso_eq_tramo _ i).mpr (hnumeros i (List.mem_range.mp hi))
      apply Bufer.ext
      rw [hmemoria, higuales, htodo]
  · constructor
    · rintro ⟨r', hr', -⟩
      obtain ⟨falla, hfalla⟩ := transferir_fuera e r (Nat.lt_of_le_of_ne hcubre h)
      rw [hfalla] at hr'
      cases hr'
    · rintro ⟨h', -⟩
      exact absurd h' h

end

/-! ## A memory of one block -/

def emisor (s : Nat) : GroupSender s where
  memoria := ⟨List.replicate s 65, List.length_replicate⟩
  mensaje := ⟨.tokenDeliver, 0, s, ⟨List.replicate dataSize 0, List.length_replicate⟩⟩
  brokerLocal := [66]
  avisarEnvio := false
  total := rfl
  corto := by decide

def receptor (s : Nat) (h : s < 2 ^ 64) : GroupReceiver s where
  memoria := ⟨List.replicate s 0, List.length_replicate⟩
  dataToken := ⟨List.replicate s 0, List.length_replicate⟩
  numeroAnterior := -1
  cantidadRecibidaToken := 0
  tokenInicializado := false
  numeroDeNodo := 1
  tokensLiberados := 0
  esSizeT := h

/-- 256 letters: the first two arrive as the number of the block and a zero. -/
theorem transferencia_cambia_la_memoria :
    ¬ ∀ (s : Nat) (e : GroupSender s) (r : GroupReceiver s), TransfiereIntacto e r := by
  intro h
  obtain ⟨r', htransferir, hmem, -⟩ := h 256 (emisor 256) (receptor 256 (by decide))
  obtain ⟨r₁, htransferir₁, hmemoria, -⟩ :=
    transferir_ok (emisor 256) (receptor 256 (by decide)) (by decide)
  rw [htransferir] at htransferir₁
  have hr : r' = r₁ := congrArg Prod.fst (Except.ok.inj htransferir₁)
  rw [← hr, hmem] at hmemoria
  have hprimera := congrArg List.head? hmemoria
  revert hprimera
  decide

end TransferenciaToken
