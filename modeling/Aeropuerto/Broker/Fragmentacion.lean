import Aeropuerto.Biblioteca.Bloques
import Aeropuerto.Biblioteca.Flujo
import Mathlib.Algebra.Ring.Nat

/-!
# A memory image on the socket (`local_broker/client_handler.cpp`, `clientes/local_broker_comm.cpp`)

With the token go the bytes of the memory, `DATA_SIZE` in each message.  `ClientHandler` sends them from
the memory of the group and `LocalBrokerComm` stores them in the one of the application; on the way back
`LocalBrokerComm` sends and `ClientHandler` collects them in `mem_local` before it copies them to the
group.  A copy that leaves a buffer is a fault of the model.
-/

namespace Fragmentacion

open Flujo Bloques

/-- `DATA_SIZE`. -/
def dataSize : Nat := 256

/-- `MAX_NOMBRE_RECURSO`. -/
def maxNombreRecurso : Nat := 64

/-! ## `mensajes_local_broker_token_t`: `peticion`, `respuesta`, `recurso`, `datos` -/

def posRecurso : Nat := 4 + 4

def posDatos : Nat := posRecurso + maxNombreRecurso

def sizeofMensaje : Nat := posDatos + dataSize

abbrev Mensaje := Bufer UInt8 sizeofMensaje

inductive Peticion where
  | register
  | join
  | joinFork
  | leave
  | tokenFree
  | fin
  | leaved
  | tokenLeave
  deriving DecidableEq

def Peticion.codigo : Peticion → UInt8
  | .register => 0
  | .join => 1
  | .joinFork => 2
  | .leave => 3
  | .tokenFree => 4
  | .fin => 5
  | .leaved => 6
  | .tokenLeave => 7

/-- The four bytes of the field, least significant first. -/
def Peticion.bytes (p : Peticion) : List UInt8 := [p.codigo, 0, 0, 0]

/-- `mensaje.peticion == mensajes::LEAVE`. -/
def esLeave (datos : List UInt8) : Bool := datos.take 4 == Peticion.leave.bytes

/-- `mensaje.peticion = p`. -/
def ponerPeticion (p : Peticion) (m : Mensaje) : Mensaje :=
  ⟨p.bytes ++ m.datos.drop 4, by
    rw [List.length_append, List.length_drop, m.largo]
    rfl⟩

/-- What `strncpy` writes: the name up to its end, and zeros. -/
def strncpy (nombre : List UInt8) (n : Nat) : List UInt8 :=
  (nombre.takeWhile (· != 0) ++ List.replicate n 0).take n

/-! ## `size_t` -/

def restar (a b : Nat) : Nat := (a + 2 ^ 64 - b) % 2 ^ 64

def multiplicar (a b : Nat) : Nat := a * b % 2 ^ 64

/-- `std::min(tamanio_memoria - i * DATA_SIZE, size_t(DATA_SIZE))`. -/
def tamanioBloque (tamanioMemoria i : Nat) : Nat :=
  min (restar tamanioMemoria (multiplicar i dataSize)) dataSize

/-! ## The handler in the broker -/

/-- A group: its `mem_size` bytes are at the beginning of a region that may be longer. -/
structure Grupo (n : Nat) where
  nombreRecurso : List UInt8
  memSize : Nat
  memoria : Bufer UInt8 n
  cabe : memSize ≤ n
  esSizeT : memSize < 2 ^ 64

structure ClientHandler (s : Nat) where
  mensaje : Mensaje
  cantidadDeBloquesAEnviar : Nat
  tamanioMemoria : Nat
  memLocal : Bufer UInt8 s
  leave : Bool

/-- `join_group`.  Neither `mensaje` nor the new `mem_local` has any content in particular. -/
def joinGroup {n : Nat} (g : Grupo n) (mensaje : Mensaje) (memLocal : Bufer UInt8 g.memSize) :
    ClientHandler g.memSize where
  mensaje := mensaje
  cantidadDeBloquesAEnviar := cantidad dataSize g.memSize
  tamanioMemoria := g.memSize
  memLocal := memLocal
  leave := false

namespace ClientHandler

variable {s n : Nat}

/-- One iteration of `send_token`. -/
def sendBloque (g : Grupo n) (hs : ClientHandler s × List UInt8) (i : Nat) :
    Except Falla (ClientHandler s × List UInt8) :=
  let (h, salida) := hs
  if h.leave then .ok (h, salida)
  else do
    let mensaje ← h.mensaje.escribir posRecurso (strncpy g.nombreRecurso maxNombreRecurso)
    let mensaje ←
      if h.tamanioMemoria ≠ 0 then
        mensaje.memcpy posDatos g.memoria (multiplicar i dataSize) (tamanioBloque h.tamanioMemoria i)
      else .ok mensaje
    return ({ h with mensaje }, salida ++ mensaje.datos)

def sendToken (h : ClientHandler s) (g : Grupo n) : Except Falla (ClientHandler s × List UInt8) :=
  (List.range h.cantidadDeBloquesAEnviar).foldlM (sendBloque g) (h, [])

/-- One iteration of `recv_token`; `sigue` is false once it has returned 0. -/
def recvBloque (hrs : ClientHandler s × Red UInt8 × Bool) (i : Nat) :
    Except Falla (ClientHandler s × Red UInt8 × Bool) :=
  let (h, red, sigue) := hrs
  if h.leave || !sigue then .ok (h, red, sigue)
  else do
    let (mensaje, red, completo) ← recibir esLeave h.mensaje red 0
    let h := { h with mensaje }
    if !completo then .ok (h, red, false)
    else if h.tamanioMemoria ≠ 0 then do
      let memLocal ←
        h.memLocal.memcpy (multiplicar i dataSize) mensaje posDatos (tamanioBloque h.tamanioMemoria i)
      return ({ h with memLocal }, red, true)
    else .ok (h, red, true)

def recvToken (h : ClientHandler s) (g : Grupo n) (red : Red UInt8) :
    Except Falla (ClientHandler s × Grupo n × Red UInt8 × Nat) := do
  let memLocal ←
    -- bzero(mem_local, get_mem_size())
    if h.tamanioMemoria ≠ 0 then h.memLocal.escribir 0 (List.replicate g.memSize 0)
    else .ok h.memLocal
  let (h, red, sigue) ←
    (List.range h.cantidadDeBloquesAEnviar).foldlM recvBloque ({ h with memLocal }, red, true)
  if !sigue then .ok (h, g, red, 0)
  else do
    let memoria ←
      if h.tamanioMemoria ≠ 0 then g.memoria.memcpy 0 h.memLocal 0 g.memSize else .ok g.memoria
    return (h, { g with memoria }, red, multiplicar h.cantidadDeBloquesAEnviar dataSize)

end ClientHandler

/-! ## The process of the application -/

structure LocalBrokerComm where
  mensaje : Mensaje
  cantidadDeBloques : Nat
  tamanioMemoria : Nat
  salir : Nat

namespace LocalBrokerComm

variable {k : Nat}

/-- `join`: the answer brings both numbers of the handler. -/
def join {s : Nat} (b : LocalBrokerComm) (h : ClientHandler s) : LocalBrokerComm :=
  { b with cantidadDeBloques := h.cantidadDeBloquesAEnviar, tamanioMemoria := h.tamanioMemoria }

/-- One iteration of `wait_token(memory)`, with `memory` not `NULL`. -/
def waitBloque (bmr : LocalBrokerComm × Bufer UInt8 k × Red UInt8) (i : Nat) :
    Except Falla (LocalBrokerComm × Bufer UInt8 k × Red UInt8) := do
  let (b, memory, red) := bmr
  let (mensaje, red, completo) ← recibir (fun _ => false) b.mensaje red 0
  if !completo then .error .cerrado
  else if b.tamanioMemoria ≠ 0 ∧ b.salir = 0 then do
    let memory ←
      memory.memcpy (multiplicar i dataSize) mensaje posDatos (tamanioBloque b.tamanioMemoria i)
    return ({ b with mensaje }, memory, red)
  else .ok ({ b with mensaje }, memory, red)

def waitToken (b : LocalBrokerComm) (memory : Bufer UInt8 k) (red : Red UInt8) :
    Except Falla (LocalBrokerComm × Bufer UInt8 k × Red UInt8) :=
  (List.range b.cantidadDeBloques).foldlM waitBloque (b, memory, red)

/-- The request it writes before each attempt to send. -/
def peticion (b : LocalBrokerComm) : Peticion := if b.salir = 0 then .tokenFree else .tokenLeave

/-- One iteration of `send_token(memory)`. -/
def sendBloque (memory : Bufer UInt8 k) (bsi : LocalBrokerComm × List UInt8 × List (Option Nat))
    (i : Nat) : Except Falla (LocalBrokerComm × List UInt8 × List (Option Nat)) := do
  let (b, salida, intentos) := bsi
  let mensaje ←
    if b.tamanioMemoria ≠ 0 then
      b.mensaje.memcpy posDatos memory (multiplicar i dataSize) (tamanioBloque b.tamanioMemoria i)
    else .ok b.mensaje
  let (mensaje, salida, intentos) ← enviar (ponerPeticion b.peticion) mensaje intentos 0 salida
  return ({ b with mensaje }, salida, intentos)

/-- `intentos` says what becomes of each call to `sendsome`. -/
def sendToken (b : LocalBrokerComm) (memory : Bufer UInt8 k) (intentos : List (Option Nat)) :
    Except Falla (LocalBrokerComm × List UInt8 × List (Option Nat)) :=
  (List.range b.cantidadDeBloques).foldlM (sendBloque memory)
    ({ b with mensaje := ponerPeticion .tokenFree b.mensaje }, [], intentos)

end LocalBrokerComm

/-! ## One message -/

section

variable {s n k i : Nat} {mem viejo : List UInt8}

theorem multiplicar_of_lt {a b : Nat} (h : a * b < 2 ^ 64) : multiplicar a b = a * b :=
  Nat.mod_eq_of_lt h

theorem restar_of_le {a b : Nat} (h : b ≤ a) (ha : a < 2 ^ 64) : restar a b = a - b := by
  unfold restar
  omega

/-- Every block begins inside the memory. -/
theorem mul_dataSize_le (hi : i < cantidad dataSize s) : i * dataSize ≤ s := by
  have hdiv := Nat.div_mul_le_self s dataSize
  have hle : i ≤ s / dataSize := by
    unfold cantidad at hi
    split at hi <;> omega
  exact (Nat.mul_le_mul_right dataSize hle).trans hdiv

theorem multiplicar_dataSize (hs : s < 2 ^ 64) (hi : i < cantidad dataSize s) :
    multiplicar i dataSize = i * dataSize :=
  multiplicar_of_lt ((mul_dataSize_le hi).trans_lt hs)

theorem tamanioBloque_eq (hs : s < 2 ^ 64) (hi : i < cantidad dataSize s) :
    tamanioBloque s i = min (s - i * dataSize) dataSize := by
  rw [tamanioBloque, multiplicar_dataSize hs hi, restar_of_le (mul_dataSize_le hi) hs]

theorem hasta_eq (hi : i < cantidad dataSize s) : hasta dataSize s i = i * dataSize :=
  Nat.min_eq_right (mul_dataSize_le hi)

theorem hasta_succ (hi : i < cantidad dataSize s) :
    hasta dataSize s (i + 1) = i * dataSize + min (s - i * dataSize) dataSize := by
  have hle := mul_dataSize_le hi
  unfold hasta
  rw [Nat.succ_mul]
  omega

/-- The message carries block `i` of a memory of `s` bytes. -/
structure Lleva (s : Nat) (mem : List UInt8) (i : Nat) (mensaje : List UInt8) : Prop where
  largo : mensaje.length = sizeofMensaje
  datos : (mensaje.drop posDatos).take (min (s - i * dataSize) dataSize) =
    (mem.drop (i * dataSize)).take (min (s - i * dataSize) dataSize)

/-- Filling `datos` before a message is sent. -/
theorem memcpy_datos (m : Mensaje) (memoria : Bufer UInt8 n) (hs : s < 2 ^ 64) (hn : s ≤ n)
    (hi : i < cantidad dataSize s) :
    ∃ m', m.memcpy posDatos memoria (multiplicar i dataSize) (tamanioBloque s i) = .ok m' ∧
      Lleva s memoria.datos i m'.datos ∧ m'.datos.take posDatos = m.datos.take posDatos := by
  have hle := mul_dataSize_le hi
  have hlargo := memoria.largo
  obtain ⟨c, hc⟩ : ∃ c, min (s - i * dataSize) dataSize = c := ⟨_, rfl⟩
  rw [multiplicar_dataSize hs hi, tamanioBloque_eq hs hi, hc]
  have hbloque := length_tramo (show i * dataSize + c ≤ memoria.datos.length by omega)
  have hleer : memoria.leer (i * dataSize) c = .ok _ := leer_ok (by omega)
  have hcabe : posDatos + c ≤ sizeofMensaje :=
    Nat.add_le_add_left (hc ▸ Nat.min_le_right _ _) posDatos
  obtain ⟨m', hm', htake, hdatos⟩ := escribir_ok (b := m) (show posDatos + _ ≤ sizeofMensaje from
    hbloque.symm ▸ hcabe)
  refine ⟨m', ?_, ⟨m'.largo, ?_⟩, htake⟩
  · rw [Bufer.memcpy, hleer]
    exact hm'
  · rw [hc]
    rw [hbloque] at hdatos
    exact hdatos

/-- Taking `datos` out of a message that has arrived. -/
theorem memcpy_memoria {b : Bufer UInt8 k} {m : Mensaje} (hs : s < 2 ^ 64) (hk : s ≤ k)
    (hmem : s ≤ mem.length) (hi : i < cantidad dataSize s) (hm : Lleva s mem i m.datos)
    (hb : b.datos = mezcla (hasta dataSize s i) mem viejo) :
    ∃ b', b.memcpy (multiplicar i dataSize) m posDatos (tamanioBloque s i) = .ok b' ∧
      b'.datos = mezcla (hasta dataSize s (i + 1)) mem viejo := by
  have hle := mul_dataSize_le hi
  rw [multiplicar_dataSize hs hi, tamanioBloque_eq hs hi]
  rw [hasta_eq hi] at hb
  obtain ⟨b', hb', hdatos⟩ := escribir_mezcla (k := min (s - i * dataSize) dataSize) hb
    (by omega) (by omega)
  refine ⟨b', ?_, by rw [hdatos, hasta_succ hi]⟩
  have hleer : m.leer posDatos (min (s - i * dataSize) dataSize) = .ok _ :=
    leer_ok (Nat.add_le_add_left (Nat.min_le_right _ _) posDatos)
  rw [Bufer.memcpy, hleer, hm.datos]
  exact hb'

/-! ## The whole memory -/

/-- Messages that carry, in order, the first `i` blocks of the memory. -/
structure Imagen (s : Nat) (mem : List UInt8) (i : Nat) (mensajes : List (List UInt8)) : Prop where
  largo : mensajes.length = i
  lleva : ∀ j m, mensajes[j]? = some m → Lleva s mem j m

theorem imagen_nil (s : Nat) (mem : List UInt8) : Imagen s mem 0 [] := ⟨rfl, nofun⟩

theorem Imagen.snoc {mensajes : List (List UInt8)} {m : List UInt8} (h : Imagen s mem i mensajes)
    (hm : Lleva s mem i m) : Imagen s mem (i + 1) (mensajes ++ [m]) := by
  refine ⟨by rw [List.length_append, h.largo]; rfl, fun j x hx => ?_⟩
  rw [List.getElem?_append, h.largo] at hx
  split at hx
  · exact h.lleva j x hx
  · rename_i hj
    obtain ⟨hlt, hxj⟩ := List.getElem?_eq_some_iff.1 hx
    obtain rfl : j = i := by
      simp only [List.length_singleton] at hlt
      omega
    simp only [Nat.sub_self, List.getElem_cons_zero] at hxj
    exact hxj ▸ hm

/-- The next message of the stream arrives whole. -/
theorem recibir_mensaje (corta : List UInt8 → Bool) {b : Mensaje} {red : Red UInt8}
    {mensajes : List (List UInt8)} {m : List UInt8} (hm : mensajes[i]? = some m)
    (hlargo : m.length = sizeofMensaje) (hred : red.bytes = (mensajes.drop i).flatten)
    (hcorta : ∀ a viejo, 0 < a → corta (mezcla a m viejo) = false) :
    ∃ b' red', recibir corta b red 0 = .ok (b', red', true) ∧ b'.datos = m ∧
      red'.bytes = (mensajes.drop (i + 1)).flatten := by
  obtain ⟨hi, rfl⟩ := List.getElem?_eq_some_iff.1 hm
  rw [List.drop_eq_getElem_cons hi, List.flatten_cons] at hred
  exact recibir_ok hlargo b.largo (by decide) (mezcla_zero _ _).symm hred
    fun a ha _ => hcorta a b.datos ha

/-- The request of the message is not LEAVE, whatever its other bytes are. -/
def NoEsLeave (m : List UInt8) : Prop := m ≠ [] ∧ m.head? ≠ some Peticion.leave.codigo

/-- It is not taken for LEAVE either while its bytes arrive. -/
theorem NoEsLeave.mezcla {m : List UInt8} (h : NoEsLeave m) (a : Nat) (viejo : List UInt8)
    (ha : 0 < a) : esLeave (mezcla a m viejo) = false := by
  obtain ⟨hne, hhead⟩ := h
  cases m with
  | nil => exact absurd rfl hne
  | cons c m =>
    obtain ⟨a, rfl⟩ : ∃ a', a = a' + 1 := ⟨a - 1, by omega⟩
    have hc : (c == Peticion.leave.codigo) = false := by
      simpa using fun h => hhead (congrArg some h)
    simp only [esLeave, Flujo.mezcla, List.take_succ_cons, List.cons_append, Peticion.bytes,
      List.cons_beq_cons, hc, Bool.false_and]

end

/-! ## From the group to the application -/

section

variable {n k : Nat}

/-- What the handler knows of the group it has joined. -/
structure ClientHandler.DeGrupo {s : Nat} (h : ClientHandler s) : Prop where
  cantidad : h.cantidadDeBloquesAEnviar = Bloques.cantidad dataSize s
  tamanio : h.tamanioMemoria = s
  leave : h.leave = false

structure LocalBrokerComm.DeGrupo (s : Nat) (b : LocalBrokerComm) : Prop where
  cantidad : b.cantidadDeBloques = Bloques.cantidad dataSize s
  tamanio : b.tamanioMemoria = s
  salir : b.salir = 0

theorem length_strncpy (nombre : List UInt8) (n : Nat) : (strncpy nombre n).length = n :=
  List.length_take_of_le (by simp)

theorem recurso_cabe (nombre : List UInt8) :
    posRecurso + (strncpy nombre maxNombreRecurso).length ≤ sizeofMensaje := by
  rw [length_strncpy]
  exact Nat.le_add_right _ _

theorem ClientHandler.sendBloque_ok {g : Grupo n} {s i : Nat} {h : ClientHandler s}
    {salida : List UInt8} (hs : 0 < s) (hg : g.memSize = s) (hh : h.DeGrupo)
    (hi : i < cantidad dataSize s) :
    ∃ m, ClientHandler.sendBloque g (h, salida) i = .ok ({ h with mensaje := m }, salida ++ m.datos) ∧
      Lleva s g.memoria.datos i m.datos := by
  obtain ⟨m₁, hm₁, -, -⟩ := escribir_ok (b := h.mensaje) (recurso_cabe g.nombreRecurso)
  obtain ⟨m₂, hm₂, hlleva, -⟩ := memcpy_datos m₁ g.memoria (hg ▸ g.esSizeT) (hg ▸ g.cabe) hi
  refine ⟨m₂, ?_, hlleva⟩
  simp only [ClientHandler.sendBloque, hh.leave, Bool.false_eq_true, if_false, hm₁, ok_bind,
    hh.tamanio, if_pos (Nat.ne_of_gt hs), hm₂]
  rfl

theorem ClientHandler.sendToken_ok {g : Grupo n} {s : Nat} {h : ClientHandler s} (hs : 0 < s)
    (hg : g.memSize = s) (hh : h.DeGrupo) :
    ∃ h' mensajes, h.sendToken g = .ok (h', mensajes.flatten) ∧ h'.DeGrupo ∧
      Imagen s g.memoria.datos (cantidad dataSize s) mensajes := by
  have hloop := foldlM_range (n := cantidad dataSize s) (ClientHandler.sendBloque g)
    (fun i st => st.1.DeGrupo ∧ ∃ mensajes, st.2 = mensajes.flatten ∧
      Imagen s g.memoria.datos i mensajes)
    (s := (h, [])) ⟨hh, [], rfl, imagen_nil _ _⟩ ?_
  · obtain ⟨⟨h', _⟩, hfold, hh', mensajes, rfl, himg⟩ := hloop
    exact ⟨h', mensajes, by rw [ClientHandler.sendToken, hh.cantidad, hfold], hh', himg⟩
  · rintro i ⟨h, _⟩ hi ⟨hh, mensajes, rfl, himg⟩
    obtain ⟨m, hm, hlleva⟩ := ClientHandler.sendBloque_ok hs hg hh hi
    refine ⟨_, hm, ⟨hh.cantidad, hh.tamanio, hh.leave⟩, mensajes ++ [m.datos], ?_, himg.snoc hlleva⟩
    simp

theorem LocalBrokerComm.waitToken_ok {s : Nat} {b : LocalBrokerComm} {memory : Bufer UInt8 k}
    {mem : List UInt8} {mensajes : List (List UInt8)} {red : Red UInt8} (hs : 0 < s)
    (hs' : s < 2 ^ 64) (hk : s ≤ k) (hmem : s ≤ mem.length) (hb : b.DeGrupo s)
    (himg : Imagen s mem (cantidad dataSize s) mensajes) (hred : red.bytes = mensajes.flatten) :
    ∃ b' memory' red', b.waitToken memory red = .ok (b', memory', red') ∧ b'.DeGrupo s ∧
      memory'.datos = mezcla s mem memory.datos ∧ red'.bytes = [] := by
  have hloop := foldlM_range (n := cantidad dataSize s) LocalBrokerComm.waitBloque
    (fun i st => st.1.DeGrupo s ∧
      st.2.1.datos = mezcla (hasta dataSize s i) mem memory.datos ∧
      st.2.2.bytes = (mensajes.drop i).flatten)
    (s := (b, memory, red)) ⟨hb, by simp [hasta], hred⟩ ?_
  · obtain ⟨⟨b', memory', red'⟩, hfold, hb', hdatos, hfin⟩ := hloop
    rw [hasta_cantidad (by decide)] at hdatos
    rw [← himg.largo, List.drop_length, List.flatten_nil] at hfin
    exact ⟨b', memory', red', by rw [LocalBrokerComm.waitToken, hb.cantidad, hfold], hb', hdatos,
      hfin⟩
  · rintro i ⟨b, memory₁, red⟩ hi ⟨hb, hdatos, hred⟩
    obtain ⟨m, hm⟩ : ∃ m, mensajes[i]? = some m :=
      ⟨_, List.getElem?_eq_getElem (himg.largo.symm ▸ hi)⟩
    have hlleva := himg.lleva i m hm
    obtain ⟨m', red', hrecibir, rfl, hred'⟩ := recibir_mensaje (fun _ => false) (b := b.mensaje) hm
      hlleva.largo hred fun _ _ _ => rfl
    obtain ⟨memory', hmemcpy, hdatos'⟩ := memcpy_memoria hs' hk hmem hi hlleva hdatos
    refine ⟨({ b with mensaje := m' }, memory', red'), ?_, ⟨hb.cantidad, hb.tamanio, hb.salir⟩,
      hdatos', hred'⟩
    simp only [LocalBrokerComm.waitBloque, hrecibir]
    show (if b.tamanioMemoria ≠ 0 ∧ b.salir = 0 then _ else _) = _
    rw [if_pos ⟨by rw [hb.tamanio]; omega, hb.salir⟩, hb.tamanio, hmemcpy]
    rfl

end

/-! ## From the application to the group -/

section

variable {n k s i : Nat} {mem : List UInt8}

theorem Lleva.ponerPeticion {m : Mensaje} (h : Lleva s mem i m.datos) (p : Peticion) :
    Lleva s mem i (ponerPeticion p m).datos := by
  refine ⟨(Fragmentacion.ponerPeticion p m).largo, ?_⟩
  have hdrop : (p.bytes ++ m.datos.drop 4).drop posDatos = m.datos.drop posDatos := by
    rw [List.drop_append, List.drop_eq_nil_of_le (by show 4 ≤ posDatos; decide), List.nil_append,
      List.drop_drop]
    rfl
  show ((p.bytes ++ m.datos.drop 4).drop posDatos).take _ = _
  rw [hdrop]
  exact h.datos

theorem ponerPeticion_ponerPeticion (p : Peticion) (m : Mensaje) :
    ponerPeticion p (ponerPeticion p m) = ponerPeticion p m := rfl

theorem noEsLeave_ponerPeticion {p : Peticion} (hp : p.codigo ≠ Peticion.leave.codigo) (m : Mensaje) :
    NoEsLeave (ponerPeticion p m).datos :=
  ⟨nofun, fun h => hp (Option.some.inj h)⟩

theorem LocalBrokerComm.peticion_ne_leave (b : LocalBrokerComm) :
    b.peticion.codigo ≠ Peticion.leave.codigo := by
  unfold LocalBrokerComm.peticion
  split <;> decide

theorem LocalBrokerComm.sendBloque_ok {b : LocalBrokerComm} {memory : Bufer UInt8 k}
    {salida : List UInt8} {intentos : List (Option Nat)} (hs : 0 < s) (hs' : s < 2 ^ 64) (hk : s ≤ k)
    (hb : b.DeGrupo s) (hi : i < Bloques.cantidad dataSize s) :
    ∃ m intentos', LocalBrokerComm.sendBloque memory (b, salida, intentos) i =
        .ok ({ b with mensaje := m }, salida ++ m.datos, intentos') ∧
      Lleva s memory.datos i m.datos ∧ NoEsLeave m.datos := by
  obtain ⟨m, hm, hlleva, -⟩ := memcpy_datos b.mensaje memory hs' hk hi
  obtain ⟨intentos', henviar⟩ : ∃ intentos', enviar (Fragmentacion.ponerPeticion b.peticion) m
      intentos 0 salida = .ok (_, salida ++ _, intentos') :=
    enviar_ok (ponerPeticion_ponerPeticion b.peticion) (.inl (by decide)) (Nat.zero_le _)
  refine ⟨Fragmentacion.ponerPeticion b.peticion m, intentos', ?_, hlleva.ponerPeticion _,
    noEsLeave_ponerPeticion b.peticion_ne_leave m⟩
  simp only [LocalBrokerComm.sendBloque, hb.tamanio, if_pos (Nat.ne_of_gt hs), hm]
  show (enviar _ m intentos 0 salida >>= fun x => _) = _
  rw [henviar]
  rfl

theorem LocalBrokerComm.sendToken_ok {b : LocalBrokerComm} (memory : Bufer UInt8 k)
    (intentos : List (Option Nat)) (hs : 0 < s) (hs' : s < 2 ^ 64) (hk : s ≤ k) (hb : b.DeGrupo s) :
    ∃ b' mensajes intentos', b.sendToken memory intentos = .ok (b', mensajes.flatten, intentos') ∧
      b'.DeGrupo s ∧ Imagen s memory.datos (Bloques.cantidad dataSize s) mensajes ∧
      ∀ m ∈ mensajes, NoEsLeave m := by
  have hloop := foldlM_range (n := Bloques.cantidad dataSize s) (LocalBrokerComm.sendBloque memory)
    (fun i st => st.1.DeGrupo s ∧ ∃ mensajes, st.2.1 = mensajes.flatten ∧
      Imagen s memory.datos i mensajes ∧ ∀ m ∈ mensajes, NoEsLeave m)
    (s := ({ b with mensaje := Fragmentacion.ponerPeticion .tokenFree b.mensaje }, [], intentos))
    ⟨⟨hb.cantidad, hb.tamanio, hb.salir⟩, [], rfl, imagen_nil _ _, nofun⟩ ?_
  · obtain ⟨⟨b', _, intentos'⟩, hfold, hb', mensajes, rfl, himg, hno⟩ := hloop
    rw [← hb.cantidad] at hfold
    exact ⟨b', mensajes, intentos', hfold, hb', himg, hno⟩
  · rintro i ⟨b, _, intentos⟩ hi ⟨hb, mensajes, rfl, himg, hno⟩
    obtain ⟨m, intentos', hm, hlleva, hm'⟩ := LocalBrokerComm.sendBloque_ok hs hs' hk hb hi
    refine ⟨_, hm, ⟨hb.cantidad, hb.tamanio, hb.salir⟩, mensajes ++ [m.datos], ?_, himg.snoc hlleva,
      List.forall_mem_append.2 ⟨hno, List.forall_mem_singleton.2 hm'⟩⟩
    rw [List.flatten_append, List.flatten_singleton]

theorem ClientHandler.recvBloque_ok {h : ClientHandler s} {red : Red UInt8} {viejo : List UInt8}
    {mensajes : List (List UInt8)} (hs : 0 < s) (hs' : s < 2 ^ 64) (hmem : s ≤ mem.length)
    (hh : h.DeGrupo) (himg : Imagen s mem (Bloques.cantidad dataSize s) mensajes)
    (hno : ∀ m ∈ mensajes, NoEsLeave m) (hi : i < Bloques.cantidad dataSize s)
    (hdatos : h.memLocal.datos = mezcla (hasta dataSize s i) mem viejo)
    (hred : red.bytes = (mensajes.drop i).flatten) :
    ∃ h' red', ClientHandler.recvBloque (h, red, true) i = .ok (h', red', true) ∧ h'.DeGrupo ∧
      h'.memLocal.datos = mezcla (hasta dataSize s (i + 1)) mem viejo ∧
      red'.bytes = (mensajes.drop (i + 1)).flatten := by
  obtain ⟨m, hm⟩ : ∃ m, mensajes[i]? = some m :=
    ⟨_, List.getElem?_eq_getElem (himg.largo.symm ▸ hi)⟩
  have hlleva := himg.lleva i m hm
  obtain ⟨m', red', hrecibir, rfl, hred'⟩ := recibir_mensaje esLeave (b := h.mensaje) hm
    hlleva.largo hred (hno m (List.mem_of_getElem? hm)).mezcla
  obtain ⟨memLocal', hmemcpy, hdatos'⟩ := memcpy_memoria hs' le_rfl hmem hi hlleva hdatos
  refine ⟨{ h with mensaje := m', memLocal := memLocal' }, red', ?_,
    ⟨hh.cantidad, hh.tamanio, hh.leave⟩, hdatos', hred'⟩
  simp only [ClientHandler.recvBloque, hh.leave, Bool.not_true, Bool.or_false, Bool.false_eq_true,
    if_false, hrecibir, ok_bind, hh.tamanio, if_pos (Nat.ne_of_gt hs), hmemcpy]
  rfl

/-- The last copy, from `mem_local` to the group. -/
theorem memcpy_todo (memoria : Bufer UInt8 n) (memLocal : Bufer UInt8 s) {cuantos : Nat}
    (hs : cuantos = s) (hn : s ≤ n) :
    ∃ memoria', memoria.memcpy 0 memLocal 0 cuantos = .ok memoria' ∧
      memoria'.datos = mezcla s memLocal.datos memoria.datos := by
  subst hs
  obtain ⟨memoria', h, hdatos⟩ := escribir_mezcla (b := memoria) (k := cuantos)
    (mezcla_zero memLocal.datos memoria.datos).symm (by rw [memLocal.largo, Nat.zero_add])
    (by rwa [Nat.zero_add])
  refine ⟨memoria', ?_, by rw [hdatos, Nat.zero_add]⟩
  rw [Bufer.memcpy, leer_ok (Nat.zero_add cuantos).le]
  exact h

theorem ClientHandler.recvToken_ok {g : Grupo n} {h : ClientHandler s} {red : Red UInt8}
    {mensajes : List (List UInt8)} (hs : 0 < s) (hg : g.memSize = s) (hmem : s ≤ mem.length)
    (hh : h.DeGrupo) (himg : Imagen s mem (Bloques.cantidad dataSize s) mensajes)
    (hno : ∀ m ∈ mensajes, NoEsLeave m) (hred : red.bytes = mensajes.flatten) :
    ∃ h' g' red', h.recvToken g red =
        .ok (h', g', red', multiplicar (Bloques.cantidad dataSize s) dataSize) ∧
      h'.DeGrupo ∧ g'.memoria.datos = mezcla s mem g.memoria.datos ∧ red'.bytes = [] := by
  have hs' : s < 2 ^ 64 := hg ▸ g.esSizeT
  obtain ⟨m₀, hm₀, -, -⟩ := escribir_ok (b := h.memLocal)
    (show 0 + (List.replicate g.memSize (0 : UInt8)).length ≤ s by
      rw [List.length_replicate, hg, Nat.zero_add])
  have hloop := foldlM_range (n := Bloques.cantidad dataSize s) (ClientHandler.recvBloque (s := s))
    (fun i st => st.1.DeGrupo ∧
      st.1.memLocal.datos = mezcla (hasta dataSize s i) mem m₀.datos ∧
      st.2.1.bytes = (mensajes.drop i).flatten ∧ st.2.2 = true)
    (s := ({ h with memLocal := m₀ }, red, true))
    ⟨⟨hh.cantidad, hh.tamanio, hh.leave⟩, by simp [hasta], hred, rfl⟩ ?_
  · obtain ⟨⟨h', red', _⟩, hfold, hh', hdatos, hfin, rfl⟩ := hloop
    replace hh' : h'.DeGrupo := hh'
    rw [hasta_cantidad (by decide)] at hdatos
    rw [← himg.largo, List.drop_length, List.flatten_nil] at hfin
    rw [← hh.cantidad] at hfold
    obtain ⟨memoria, hmemoria, hdatos'⟩ := memcpy_todo g.memoria h'.memLocal hg (hg ▸ g.cabe)
    refine ⟨h', { g with memoria }, red', ?_, hh', ?_, hfin⟩
    · simp only [hh.tamanio] at hfold
      simp only [ClientHandler.recvToken, hh.tamanio, if_pos (Nat.ne_of_gt hs), hm₀, ok_bind, hfold,
        Bool.not_true, Bool.false_eq_true, if_false, hh'.tamanio, hmemoria, hh'.cantidad]
      rfl
    · rw [hdatos', hdatos]
      show List.take s _ ++ _ = _
      rw [take_mezcla hmem]
      rfl
  · rintro i ⟨h, red, _⟩ hi ⟨hh, hdatos, hred, rfl⟩
    obtain ⟨h', red', hbloque, hh', hdatos', hred'⟩ :=
      ClientHandler.recvBloque_ok hs hs' hmem hh himg hno hi hdatos hred
    exact ⟨_, hbloque, hh', hdatos', hred', rfl⟩

/-! ## What is read -/

/-- Block `i` is read from the first `s` bytes. -/
theorem memcpy_congr {k' : Nat} {memoria : Bufer UInt8 k} {memoria' : Bufer UInt8 k'} (m : Mensaje)
    (hs' : s < 2 ^ 64) (hk : s ≤ k) (hk' : s ≤ k')
    (h : memoria.datos.take s = memoria'.datos.take s) (hi : i < Bloques.cantidad dataSize s) :
    m.memcpy posDatos memoria (multiplicar i dataSize) (tamanioBloque s i) =
      m.memcpy posDatos memoria' (multiplicar i dataSize) (tamanioBloque s i) := by
  have hle := mul_dataSize_le hi
  rw [multiplicar_dataSize hs' hi, tamanioBloque_eq hs' hi, Bufer.memcpy, Bufer.memcpy,
    leer_congr h (by omega) hk hk']

theorem ClientHandler.sendToken_congr {n' : Nat} {g : Grupo n} {g' : Grupo n'} {h : ClientHandler s}
    (hs : 0 < s) (hg : g.memSize = s) (hg' : g'.memSize = s) (hh : h.DeGrupo)
    (hnombre : g.nombreRecurso = g'.nombreRecurso)
    (hdatos : g.memoria.datos.take s = g'.memoria.datos.take s) :
    h.sendToken g = h.sendToken g' := by
  refine foldlM_congr (I := fun st => st.1.DeGrupo) hh ?_ ?_
  · rintro ⟨h₁, salida⟩ i hi (hh₁ : h₁.DeGrupo)
    rw [hh.cantidad, List.mem_range] at hi
    have hmemcpy := fun m =>
      memcpy_congr m (hg ▸ g.esSizeT) (hg ▸ g.cabe) (hg' ▸ g'.cabe) hdatos hi
    simp only [ClientHandler.sendBloque, hnombre, hh₁.tamanio, hmemcpy]
  · rintro ⟨h₁, salida⟩ i hi st (hh₁ : h₁.DeGrupo) hst
    rw [hh.cantidad, List.mem_range] at hi
    obtain ⟨m, hm, -⟩ : ∃ m, _ = Except.ok (_, salida ++ _) ∧ _ :=
      ClientHandler.sendBloque_ok hs hg hh₁ hi
    obtain rfl := Except.ok.inj (hm.symm.trans hst)
    exact ⟨hh₁.cantidad, hh₁.tamanio, hh₁.leave⟩

theorem LocalBrokerComm.sendToken_congr {k' : Nat} {b : LocalBrokerComm} {memory : Bufer UInt8 k}
    {memory' : Bufer UInt8 k'} (intentos : List (Option Nat)) (hs : 0 < s) (hs' : s < 2 ^ 64)
    (hk : s ≤ k) (hk' : s ≤ k') (hb : b.DeGrupo s)
    (hdatos : memory.datos.take s = memory'.datos.take s) :
    b.sendToken memory intentos = b.sendToken memory' intentos := by
  refine foldlM_congr (I := fun st => st.1.DeGrupo s) ⟨hb.cantidad, hb.tamanio, hb.salir⟩ ?_ ?_
  · rintro ⟨b₁, salida, intentos⟩ i hi (hb₁ : b₁.DeGrupo s)
    rw [hb.cantidad, List.mem_range] at hi
    have hmemcpy := fun m => memcpy_congr m hs' hk hk' hdatos hi
    simp only [LocalBrokerComm.sendBloque, hb₁.tamanio, hmemcpy]
  · rintro ⟨b₁, salida, intentos⟩ i hi st (hb₁ : b₁.DeGrupo s) hst
    rw [hb.cantidad, List.mem_range] at hi
    obtain ⟨m, intentos', hm, -⟩ := LocalBrokerComm.sendBloque_ok hs hs' hk hb₁ hi
    obtain rfl := Except.ok.inj (hm.symm.trans hst)
    exact ⟨hb₁.cantidad, hb₁.tamanio, hb₁.salir⟩

end

/-! ## There and back -/

/-- The memory of the group goes to the application and what the application makes of it comes back,
    however the stream is cut and whatever part each send takes; every access is to the first
    `mem_size` bytes. -/
theorem fragmentacion_identidad {n k : Nat} (g : Grupo n) (mensaje : Mensaje)
    (memLocal : Bufer UInt8 g.memSize) (comm : LocalBrokerComm) (memory : Bufer UInt8 k)
    (hs : 0 < g.memSize) (hk : g.memSize ≤ k) (hsalir : comm.salir = 0) :
    let s := g.memSize
    let h := joinGroup g mensaje memLocal
    let b := comm.join h
    ∃ h₁ flujo, h.sendToken g = .ok (h₁, flujo) ∧
      -- only those bytes of the group are read
      (∀ n' (g' : Grupo n'), g'.memSize = s → g'.nombreRecurso = g.nombreRecurso →
        g'.memoria.datos.take s = g.memoria.datos.take s → h.sendToken g' = .ok (h₁, flujo)) ∧
      ∀ trozos, ∃ b₁ memory₁ trozos', b.waitToken memory ⟨flujo, trozos⟩ =
          .ok (b₁, memory₁, ⟨[], trozos'⟩) ∧
        memory₁.datos = g.memoria.datos.take s ++ memory.datos.drop s ∧
        ∀ (aplicacion : Bufer UInt8 k) intentos, ∃ b₂ flujo₂ intentos',
          b₁.sendToken aplicacion intentos = .ok (b₂, flujo₂, intentos') ∧
          -- nor are other bytes of the application
          (∀ k' (aplicacion' : Bufer UInt8 k'), s ≤ k' →
            aplicacion'.datos.take s = aplicacion.datos.take s →
            b₁.sendToken aplicacion' intentos = .ok (b₂, flujo₂, intentos')) ∧
          ∀ trozos₂, ∃ h₂ g₂ trozos₂', h₁.recvToken g ⟨flujo₂, trozos₂⟩ =
              .ok (h₂, g₂, ⟨[], trozos₂'⟩, multiplicar (cantidad dataSize s) dataSize) ∧
            g₂.memoria.datos = aplicacion.datos.take s ++ g.memoria.datos.drop s := by
  intro s h b
  have hh : h.DeGrupo := ⟨rfl, rfl, rfl⟩
  have hb : b.DeGrupo s := ⟨rfl, rfl, hsalir⟩
  obtain ⟨h₁, mensajes, hsend, hh₁, himg⟩ := ClientHandler.sendToken_ok hs rfl hh
  refine ⟨h₁, mensajes.flatten, hsend, fun n' g' hg' hnombre hdatos => ?_, fun trozos => ?_⟩
  · rw [ClientHandler.sendToken_congr hs hg' rfl hh hnombre hdatos, hsend]
  obtain ⟨b₁, memory₁, red, hwait, hb₁, hmemory, hred⟩ := LocalBrokerComm.waitToken_ok hs g.esSizeT hk
    (g.memoria.largo.symm ▸ g.cabe) hb himg
    (rfl : (⟨mensajes.flatten, trozos⟩ : Red UInt8).bytes = mensajes.flatten)
  obtain ⟨_, trozos'⟩ := red
  obtain rfl := hred
  refine ⟨b₁, memory₁, trozos', hwait, hmemory, fun aplicacion intentos => ?_⟩
  obtain ⟨b₂, mensajes₂, intentos', hsend₂, -, himg₂, hno⟩ :=
    LocalBrokerComm.sendToken_ok aplicacion intentos hs g.esSizeT hk hb₁
  refine ⟨b₂, mensajes₂.flatten, intentos', hsend₂, fun k' aplicacion' hk' hdatos => ?_,
    fun trozos₂ => ?_⟩
  · rw [LocalBrokerComm.sendToken_congr intentos hs g.esSizeT hk' hk hb₁ hdatos, hsend₂]
  obtain ⟨h₂, g₂, red₂, hrecv, -, hdatos, hred₂⟩ := ClientHandler.recvToken_ok hs rfl
    (aplicacion.largo.symm ▸ hk) hh₁ himg₂ hno
    (rfl : (⟨mensajes₂.flatten, trozos₂⟩ : Red UInt8).bytes = mensajes₂.flatten)
  obtain ⟨_, trozos₂'⟩ := red₂
  obtain rfl := hred₂
  exact ⟨h₂, g₂, trozos₂', hrecv, hdatos⟩

/-- A buffer that holds one byte everywhere. -/
def relleno (n : Nat) (x : UInt8) : Bufer UInt8 n := ⟨List.replicate n x, List.length_replicate⟩

/-- Two blocks, the second one of one byte, in a region with one byte more. -/
def grupoDosBloques : Grupo 258 where
  nombreRecurso := []
  memSize := 257
  memoria := relleno 258 7
  cabe := by decide
  esSizeT := by decide

theorem fragmentacion_identidad_dos_bloques :
    let h := joinGroup grupoDosBloques (relleno _ 3) (relleno _ 0)
    ∃ h₁ flujo b₁ memory₁ red₁ b₂ flujo₂ intentos₂ h₂ g₂ red₂,
      h.sendToken grupoDosBloques = .ok (h₁, flujo) ∧
      ((⟨relleno _ 3, 0, 0, 0⟩ : LocalBrokerComm).join h).waitToken (relleno 260 0)
        ⟨flujo, [1, 300, 200]⟩ = .ok (b₁, memory₁, red₁) ∧
      memory₁.datos = List.replicate 257 7 ++ List.replicate 3 0 ∧
      b₁.sendToken (relleno 260 9) [some 2, none, some 300] = .ok (b₂, flujo₂, intentos₂) ∧
      h₁.recvToken grupoDosBloques ⟨flujo₂, [327, 1, 5]⟩ = .ok (h₂, g₂, red₂, 512) ∧
      g₂.memoria.datos = List.replicate 257 9 ++ List.replicate 1 7 := by
  obtain ⟨h₁, flujo, hsend, -, hvuelta⟩ := fragmentacion_identidad grupoDosBloques (relleno _ 3)
    (relleno _ 0) ⟨relleno _ 3, 0, 0, 0⟩ (relleno 260 0) (by decide) (by decide) rfl
  obtain ⟨b₁, memory₁, _, hwait, hmemory, hregreso⟩ := hvuelta [1, 300, 200]
  obtain ⟨b₂, flujo₂, intentos₂, hsend₂, -, hrecv⟩ := hregreso (relleno 260 9)
    [some 2, none, some 300]
  obtain ⟨h₂, g₂, _, hrecv, hdatos⟩ := hrecv [327, 1, 5]
  refine ⟨h₁, flujo, b₁, memory₁, _, b₂, flujo₂, intentos₂, h₂, g₂, _, hsend, hwait, ?_, hsend₂,
    hrecv, ?_⟩
  · exact hmemory.trans (congrArg₂ _ List.take_replicate List.drop_replicate)
  · exact hdatos.trans (congrArg₂ _ List.take_replicate List.drop_replicate)

end Fragmentacion
