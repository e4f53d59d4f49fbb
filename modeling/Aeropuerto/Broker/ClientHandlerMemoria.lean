import Aeropuerto.Biblioteca.Bloques
import Aeropuerto.Broker.TokenManager

/-!
# The handler of a memory client that leaves (`local_broker/client_handler.cpp`)

After JOIN the handler answers and runs `loop_memoria`: it takes the token of its slot, sends the
memory, receives it back and releases the token, until the client leaves, an operation fails or a signal
interrupts it.  `Grupo`, `MessageQueue` and `SemaphoreSet` raise `OSError` when a call fails, and
`InterruptedSyscall`, which is not an `OSError`, when a signal interrupts one.  What the blocks carry
does not matter here, nor does the part of a block that a receive brings.
-/

namespace ClientHandlerMemoria

open Ejecucion

/-- `DATA_SIZE`. -/
def dataSize : Nat := 256

/-- How a call ends. -/
inductive Resultado where
  | ok
  -- receive only: LEAVE has come or the client has closed
  | fin
  -- OSError
  | error
  -- InterruptedSyscall
  | interrumpido
  deriving DecidableEq

inductive Pc (M : Nat) where
  | inexistente
  | une (pc : PcJoin M)
  | rechazado
  -- sends the answer to JOIN
  | responde
  -- lock_token
  | pide
  | envia (i : Nat)
  | recibe (i : Nat)
  -- leave_group, before its section and in it
  | deja
  | saca
  -- release_token
  | libera
  -- sends LEAVE_OK
  | despide
  -- run has returned
  | termino
  -- an exception has left run
  | caido

/-- `encolados` counts the tokens that were in the queue of its slot when it joined and those queued
    there while its name was in the table; `retirados` and `devueltos` the ones it has pulled and
    released. -/
structure Manejador (M : Nat) where
  pc : Pc M
  leave : Bool
  tengoElToken : Bool
  cantidadDeBloques : Nat
  numeroCola : Fin M
  encolados : Nat
  retirados : Nat
  devueltos : Nat

structure Estado (ι : Type) (M : Nat) (ν : Type) where
  broker : Broker M ν
  manejador : ι → Manejador M

/-- Each client is of one group; one that joins again is another client. -/
structure Parametros (ι ν : Type) extends Clientes ι ν where
  grupo : ι → Nat

inductive Evento (ι : Type) where
  | tokenManager
  | conectar (c : ι)
  | join (c : ι)
  | manejador (c : ι) (r : Resultado)

variable {ι ν : Type} {M : Nat}

namespace Manejador

/-- Its name is in the table. -/
def enTabla (h : Manejador M) : Bool :=
  match h.pc with
  | .responde | .pide | .envia _ | .recibe _ | .deja | .saca => true
  | .libera => !h.leave
  | _ => false

/-- It has joined and no longer serves its client. -/
def parado (h : Manejador M) : Bool :=
  match h.pc with
  | .despide | .termino | .caido => true
  | _ => false

/-- A signal has taken it out of `lock_token` and its name is still in the table. -/
def sinTokenEnTabla (h : Manejador M) : Bool :=
  match h.pc with
  | .envia _ | .recibe _ | .deja | .saca => !h.tengoElToken
  | _ => false

/-- `while (!leave)`, and the beginning of the loop. -/
def siguiente (h : Manejador M) : Manejador M :=
  if h.leave then { h with pc := .despide } else { h with pc := .pide, tengoElToken := false }

/-- The start of the third `try`. -/
def tercerTry (h : Manejador M) : Manejador M :=
  { h with pc := if h.leave then .deja else .libera }

end Manejador

section Paso

variable [DecidableEq ι] [DecidableEq ν] [NeZero M]

def inicial : Estado ι M ν where
  broker := Broker.inicial
  manejador := fun _ =>
    { pc := .inexistente, leave := false, tengoElToken := false, cantidadDeBloques := 0
      numeroCola := 0, encolados := 0, retirados := 0, devueltos := 0 }

def Estado.set (s : Estado ι M ν) (c : ι) (h : Manejador M) : Estado ι M ν :=
  { s with manejador := Function.update s.manejador c h }

/-- A step of a handler that changes the table or the queues of its group. -/
def Estado.setGrupo (P : Parametros ι ν) (s : Estado ι M ν) (c : ι) (gr : Grupo M ν)
    (h : Manejador M) : Estado ι M ν :=
  { s with broker := s.broker.setGrupo (P.grupo c) gr }.set c h

def pasoJoin (P : Parametros ι ν) (s : Estado ι M ν) (c : ι) : Option (Estado ι M ν) :=
  let h := s.manejador c
  match h.pc with
  | .une pc =>
    match s.broker.pasoJoin (P.grupo c) (P.nombre c) pc with
    | some (b, .sigue pc') => some ({ s with broker := b }.set c { h with pc := .une pc' })
    | some (b, .unido i) =>
      some ({ s with broker := b }.set c { h with
        pc := .responde
        cantidadDeBloques := Bloques.cantidad dataSize (b.grupo (P.grupo c)).memSize
        numeroCola := i
        encolados := ((b.grupo (P.grupo c)).cola i).length
        retirados := 0
        devueltos := 0 })
    | some (b, .rechazado) => some ({ s with broker := b }.set c { h with pc := .rechazado })
    | none => none
  | _ => none

/-- `run` from the answer to JOIN on, and `loop_memoria`. -/
def pasoManejador (P : Parametros ι ν) (s : Estado ι M ν) (c : ι) (r : Resultado) :
    Option (Estado ι M ν) :=
  let h := s.manejador c
  let gr := s.broker.grupo (P.grupo c)
  match h.pc with
  | .responde =>
    match r with
    | .ok => some (s.set c { h with pc := .pide })
    -- run takes it for a LEAVE
    | .error => some (s.set c { h with pc := .termino })
    | .interrumpido => some (s.set c { h with pc := .caido })
    | .fin => none
  | .pide =>
    match r with
    | .ok =>
      (gr.lockToken h.numeroCola).map fun x => s.setGrupo P c x.1
        { h with pc := .envia 0, tengoElToken := true, retirados := h.retirados + 1 }
    -- the first try only catches InterruptedSyscall
    | .error => some (s.set c { h with pc := .caido })
    | .interrumpido =>
      if gr.cola h.numeroCola = [] then some (s.set c { h with pc := .envia 0, leave := true })
      else none
    | .fin => none
  | .envia i =>
    if i < h.cantidadDeBloques && !h.leave then
      match r with
      | .ok => some (s.set c { h with pc := .envia (i + 1) })
      | .error => some (s.set c { h with leave := true, pc := .deja })
      -- the second try only catches OSError
      | .interrumpido => some (s.set c { h with pc := .caido })
      | .fin => none
    else if r = .ok then some (s.set c { h with pc := .recibe 0 })
    else none
  | .recibe i =>
    if i < h.cantidadDeBloques && !h.leave then
      match r with
      | .ok => some (s.set c { h with pc := .recibe (i + 1) })
      | .fin | .error => some (s.set c { h with leave := true, pc := .deja })
      | .interrumpido => some (s.set c { h with pc := .caido })
    else if r = .ok then
      -- the result of recv_token
      some (s.set c { h with leave := h.leave || h.cantidadDeBloques * dataSize == 0 }.tercerTry)
    else none
  | .deja =>
    match r with
    | .ok => gr.waitOn.map fun gr => s.setGrupo P c gr { h with pc := .saca }
    | .error => some (s.set c h.siguiente)
    | .interrumpido => some (s.set c { h with pc := .caido })
    | .fin => none
  | .saca =>
    match r with
    | .ok => some (s.setGrupo P c (gr.leave (P.nombre c)) { h with pc := .libera })
    -- the table has changed and the mutex has not been signalled
    | .error =>
      some (s.setGrupo P c { gr.leave (P.nombre c) with mutexAsignado := gr.mutexAsignado }
        h.siguiente)
    | .interrumpido =>
      some (s.setGrupo P c { gr.leave (P.nombre c) with mutexAsignado := gr.mutexAsignado }
        { h with pc := .caido })
    | .fin => none
  | .libera =>
    if h.tengoElToken then
      match r with
      | .ok =>
        some ({ s with broker := s.broker.releaseToken (P.grupo c) }.set c
          { h with tengoElToken := false, devueltos := h.devueltos + 1 }.siguiente)
      -- an interruption of push is an OSError too
      | .error => some (s.set c h.siguiente)
      | _ => none
    else if r = .ok then some (s.set c h.siguiente)
    else none
  | .despide =>
    match r with
    | .ok | .error => some (s.set c { h with pc := .termino })
    | .interrumpido => some (s.set c { h with pc := .caido })
    | .fin => none
  | _ => none

/-- The token of group `g` has been queued for slot `k`. -/
def Estado.encolar (P : Parametros ι ν) (s : Estado ι M ν) (g : Nat) (k : Fin M) : Estado ι M ν :=
  { s with
    manejador := fun c =>
      let h := s.manejador c
      if P.grupo c = g ∧ h.enTabla = true ∧ h.numeroCola = k then
        { h with encolados := h.encolados + 1 }
      else h }

def pasoTokenManager (P : Parametros ι ν) (s : Estado ι M ν) : Option (Estado ι M ν) :=
  (s.broker.pasoTokenManager P.toConfig).map fun b =>
    match s.broker.tokenManager with
    | .pasa g => { s with broker := b }.encolar P g (s.broker.grupo g).proximoCliente
    | _ => { s with broker := b }

def paso (P : Parametros ι ν) (s : Estado ι M ν) : Evento ι → Option (Estado ι M ν)
  | .tokenManager => pasoTokenManager P s
  | .conectar c =>
    match (s.manejador c).pc with
    | .inexistente => some (s.set c { s.manejador c with pc := .une .avisa })
    | _ => none
  | .join c => pasoJoin P s c
  | .manejador c r => pasoManejador P s c r

end Paso

/-! ## A handler that has left -/

/-- The handler of `c` has not taken the token with it.  A later client may have joined under the same
    name. -/
structure NoSeLlevaElToken (P : Parametros ι ν) (s : Estado ι M ν) (c : ι) : Prop where
  fueraDeTabla : ∀ k, (s.broker.grupo (P.grupo c)).clientNames k = some (P.nombre c) →
    ∃ d, d ≠ c ∧ P.grupo d = P.grupo c ∧ P.nombre d = P.nombre c ∧
      (s.manejador d).enTabla = true ∧ (s.manejador d).numeroCola = k
  retirados : (s.manejador c).encolados = (s.manejador c).retirados
  devueltos : (s.manejador c).devueltos = (s.manejador c).retirados

/-! ## The paths that lose a token or leave a name in the table -/

/-- The call does not fail or is not interrupted where nobody catches it, nor between the pull of a
    token and its release. -/
def Manejador.sinFalla (h : Manejador M) (r : Resultado) : Bool :=
  match h.pc, r with
  | .responde, .error | .responde, .interrumpido => false
  | .pide, .error => false
  | .envia _, .interrumpido | .recibe _, .interrumpido => false
  | .deja, .error | .deja, .interrumpido => false
  | .saca, .error | .saca, .interrumpido => !h.tengoElToken
  | .libera, .error => false
  | _, _ => true

/-- The group whose token is about to be queued. -/
def enPasa : PcTokenManager → Option Nat
  | .pasa g => some g
  | _ => none

section SinDefecto

variable [DecidableEq ν] [NeZero M]

/-- `join` does not find the name in the table, where it would signal the mutex twice. -/
def nombreLibre (P : Parametros ι ν) (s : Estado ι M ν) (c : ι) : Bool :=
  let gr := s.broker.grupo (P.grupo c)
  match (s.manejador c).pc with
  | .une .verifica => gr.cantClientes = M || !gr.lockedYaEstaCliente (P.nombre c)
  | _ => true

def sinDefecto (P : Parametros ι ν) (s : Estado ι M ν) : Evento ι → Prop
  -- the token does not go to a handler on its way out of lock_token
  | .tokenManager =>
    ∀ c, (s.manejador c).sinTokenEnTabla = true → enPasa s.broker.tokenManager = some (P.grupo c) →
      (s.manejador c).numeroCola ≠ (s.broker.grupo (P.grupo c)).proximoCliente
  | .conectar _ => True
  | .join c => nombreLibre P s c = true
  | .manejador c r => (s.manejador c).sinFalla r = true

instance [Fintype ι] (P : Parametros ι ν) (s : Estado ι M ν) :
    ∀ e, Decidable (sinDefecto P s e)
  | .tokenManager =>
    inferInstanceAs (Decidable (∀ c, (s.manejador c).sinTokenEnTabla = true →
      enPasa s.broker.tokenManager = some (P.grupo c) →
        (s.manejador c).numeroCola ≠ (s.broker.grupo (P.grupo c)).proximoCliente))
  | .conectar _ => inferInstanceAs (Decidable True)
  | .join c => inferInstanceAs (Decidable (nombreLibre P s c = true))
  | .manejador c r => inferInstanceAs (Decidable ((s.manejador c).sinFalla r = true))

end SinDefecto

end ClientHandlerMemoria
