import Aeropuerto.Broker.TokenManager

/-!
# The handler of a semaphore client that may leave (`local_broker/client_handler.cpp`)

After JOIN_FORK the handler forks: its parent (`loop_semaforo_padre`) receives the tokens its client
frees and its child (`loop_semaforo_hijo`) sends it the ones the token manager passes to its slot.  A
client leaves with LEAVE or closes its connection.  The parent then frees the slot and sends the
child a signal, and the child (`chequear_status_salida_hijo`) decides whether its client had the
token.  A client is the other end of the socket: it holds tokens, and `LocalBrokerComm::leave` is
what it does after LEAVE.  The signals of the shutdown of the broker are left out.
-/

namespace ClientHandler

open Ejecucion

/-- What the handler sends. -/
inductive Respuesta where
  | token
  | tokenCheck
  | leaveOk
deriving DecidableEq

/-- What the client sends. -/
inductive Peticion where
  | tokenFree
  | leave
  | tokenLeave
deriving DecidableEq

inductive PcCliente where
  | activo
  -- in LocalBrokerComm::leave
  | saliendo
  | cerrado
deriving DecidableEq

structure Cliente where
  pc : PcCliente
  fichas : Nat

inductive PcManejador (M : Nat) where
  | inexistente
  | une (pc : PcJoin M)
  | rechazado
  -- forked
  | unido

inductive PcPadre where
  | recibe
  | libera
  -- in leave_group, before its section and in it
  | deja
  | saca
  | senala
  | termina

structure Padre where
  pc : PcPadre
  salir : Nat

inductive PcHijo where
  | lazo
  | pide
  | envia
  -- chequear_status_salida_hijo, with salir == 1
  | chequea
  | verifica
  | enviaCheck
  | recibeCheck
  | enviaOk
  | decide
  | extrae
  | liberaExtraido
  -- with salir == 2
  | chequeaCierre
  | verificaCierre
  | liberaCierre
  | fin

/-- `senal` is the value that a signal sent and not yet delivered will give to `salir`. -/
structure Hijo where
  pc : PcHijo
  salir : Nat
  tengoToken : Bool
  chequearAsignacion : Nat
  senal : Nat

/-- A client of a group and its handler.  `prestadas` counts the tokens that the child has pulled from
    the queue of its slot less those that the two processes have released. -/
structure Conexion (M : Nat) where
  manejador : PcManejador M
  numeroCola : Fin M
  padre : Padre
  hijo : Hijo
  cliente : Cliente
  bajada : List Respuesta
  subida : List Peticion
  prestadas : Nat

structure Estado (ι : Type) (M : Nat) (ν : Type) where
  broker : Broker M ν
  conexion : ι → Conexion M

/-- Each client is of one group; one that joins again is another client. -/
structure Parametros (ι ν : Type) extends Clientes ι ν where
  grupo : ι → Nat

inductive Evento (ι : Type) where
  | tokenManager
  | conectar (c : ι)
  | manejador (c : ι)
  -- the client
  | recibir (c : ι)
  | liberar (c : ι)
  | leave (c : ι)
  | cerrar (c : ι)
  -- falla: the operation on the socket raises OSError
  | padre (c : ι) (falla : Bool)
  | hijo (c : ι) (falla : Bool)
  -- the signal arrives, and interrupts the blocked system call or not
  | senal (c : ι) (interrumpe : Bool)

variable {ι ν : Type} {M : Nat}

/-- `sendsome`; once the client has closed the message is lost, with or without an error. -/
def Conexion.sendsome (c : Conexion M) (r : Respuesta) (falla : Bool) :
    Option (Conexion M × Bool) :=
  if c.cliente.pc = .cerrado then some (c, falla)
  else if falla then none
  else some ({ c with bajada := c.bajada ++ [r] }, false)

/-- The client takes a message from its socket. -/
def Conexion.recibirCliente (c : Conexion M) : Option (Conexion M) :=
  match c.cliente.pc, c.bajada with
  | .activo, .token :: bajada =>
    some { c with bajada := bajada, cliente.fichas := c.cliente.fichas + 1 }
  | .saliendo, .token :: bajada =>
    some { c with bajada := bajada, subida := c.subida ++ [.tokenLeave] }
  | .saliendo, .tokenCheck :: bajada =>
    some { c with bajada := bajada, subida := c.subida ++ [.leave] }
  -- disassociate
  | .saliendo, .leaveOk :: _ => some { c with bajada := [], cliente := ⟨.cerrado, 0⟩ }
  -- the other two are only sent after LEAVE
  | _, _ => none

/-- Whoever closes its connection holds nothing any more, nor will what is on its way reach it. -/
def Conexion.cerrar (c : Conexion M) : Conexion M :=
  { c with bajada := [], cliente := ⟨.cerrado, 0⟩ }

/-- The delivery of the signal of the parent. -/
def Hijo.senalado (h : Hijo) (interrumpe : Bool) : Hijo :=
  let h' := { h with salir := h.senal, senal := 0 }
  match h.pc, interrumpe with
  | .pide, true => { h' with tengoToken := false, chequearAsignacion := 1, pc := .lazo }
  | .envia, true => { h' with tengoToken := true, chequearAsignacion := 0, pc := .lazo }
  | _, _ => h'

section Paso

variable [DecidableEq ι] [DecidableEq ν] [NeZero M]

def inicial : Estado ι M ν where
  broker := Broker.inicial
  conexion := fun _ =>
    { manejador := .inexistente, numeroCola := 0, padre := ⟨.recibe, 0⟩
      hijo := ⟨.lazo, 0, false, 0, 0⟩, cliente := ⟨.activo, 0⟩, bajada := [], subida := []
      prestadas := 0 }

def Estado.set (s : Estado ι M ν) (c : ι) (con : Conexion M) : Estado ι M ν :=
  { s with conexion := Function.update s.conexion c con }

/-- `release_token` by one of the two processes of `c`. -/
def Estado.releaseToken (P : Parametros ι ν) (s : Estado ι M ν) (c : ι) (con : Conexion M) :
    Estado ι M ν :=
  { s with broker := s.broker.releaseToken (P.grupo c) }.set c
    { con with prestadas := con.prestadas - 1 }

/-- `lock_token` by the child of `c`. -/
def Estado.lockToken (P : Parametros ι ν) (s : Estado ι M ν) (c : ι) (con : Conexion M) :
    Option (Estado ι M ν) :=
  (s.broker.lockToken (P.grupo c) con.numeroCola).map fun b =>
    { s with broker := b }.set c { con with prestadas := con.prestadas + 1 }

def pasoManejador (P : Parametros ι ν) (s : Estado ι M ν) (c : ι) : Option (Estado ι M ν) :=
  let con := s.conexion c
  match con.manejador with
  | .une pc =>
    match s.broker.pasoJoin (P.grupo c) (P.nombre c) pc with
    | some (b, .sigue pc') => some ({ s with broker := b }.set c { con with manejador := .une pc' })
    | some (b, .unido i) =>
      some ({ s with broker := b }.set c { con with manejador := .unido, numeroCola := i })
    | some (b, .rechazado) => some ({ s with broker := b }.set c { con with manejador := .rechazado })
    | none => none
  | _ => none

/-- `loop_semaforo_padre`, `leave_group` and the signal. -/
def pasoPadre (P : Parametros ι ν) (s : Estado ι M ν) (c : ι) (falla : Bool) :
    Option (Estado ι M ν) :=
  let con := s.conexion c
  match con.padre.pc with
  | .recibe =>
    if falla then
      -- out of the loop with salir == 0
      if con.cliente.pc = .cerrado then some (s.set c { con with padre.pc := .deja }) else none
    else
      match con.subida with
      | .leave :: subida => some (s.set c { con with subida := subida, padre := ⟨.deja, 1⟩ })
      | _ :: subida => some (s.set c { con with subida := subida, padre.pc := .libera })
      | [] =>
        if con.cliente.pc = .cerrado then some (s.set c { con with padre := ⟨.deja, 2⟩ }) else none
  | .libera => some (s.releaseToken P c { con with padre.pc := .recibe })
  | .deja =>
    (s.broker.grupo (P.grupo c)).waitOn.map fun gr =>
      { s with broker := s.broker.setGrupo (P.grupo c) gr }.set c { con with padre.pc := .saca }
  | .saca =>
    some ({ s with
      broker := s.broker.setGrupo (P.grupo c)
        ((s.broker.grupo (P.grupo c)).leave (P.nombre c)) }.set c { con with padre.pc := .senala })
  | .senala =>
    some (s.set c { con with hijo.senal := con.padre.salir, padre.pc := .termina })
  | .termina => none

/-- `tengo_el_token_cliente`; `none` while its mutex is taken. -/
def tengoElTokenCliente (P : Parametros ι ν) (s : Estado ι M ν) (c : ι) : Option Bool :=
  if 0 < (s.broker.grupo (P.grupo c)).mutexAsignado then
    some ((s.broker.grupo (P.grupo c)).tengoElTokenCliente (s.conexion c).numeroCola)
  else none

/-- `loop_semaforo_hijo` and `chequear_status_salida_hijo`. -/
def pasoHijo (P : Parametros ι ν) (s : Estado ι M ν) (c : ι) (falla : Bool) :
    Option (Estado ι M ν) :=
  let con := s.conexion c
  match con.hijo.pc with
  | .lazo =>
    some (s.set c { con with hijo.pc := if con.hijo.salir = 0 then .pide else .chequea })
  | .pide => s.lockToken P c { con with hijo.tengoToken := true, hijo.pc := .envia }
  | .envia =>
    match con.sendsome .token falla with
    | some (con, false) =>
      some (s.set c { con with hijo.tengoToken := false, hijo.pc := .lazo })
    | some (con, true) =>
      some (s.set c { con with hijo.salir := 2, hijo.tengoToken := true, hijo.pc := .lazo })
    | none => none
  | .chequea =>
    some (s.set c { con with hijo.pc := if con.hijo.salir = 1 then .verifica else .chequeaCierre })
  | .verifica =>
    (tengoElTokenCliente P s c).map fun tengo =>
      s.set c { con with hijo.pc := if tengo then .enviaCheck else .fin }
  | .enviaCheck =>
    match con.sendsome .tokenCheck falla with
    | some (con, false) => some (s.set c { con with hijo.pc := .recibeCheck })
    | some (con, true) => some (s.set c { con with hijo.pc := .decide })
    | none => none
  | .recibeCheck =>
    if falla then
      if con.cliente.pc = .cerrado then some (s.set c { con with hijo.pc := .decide }) else none
    else
      match con.subida with
      | peticion :: subida =>
        some (s.set c { con with
          subida := subida
          hijo.tengoToken := peticion = .tokenLeave
          hijo.pc := .enviaOk })
      | [] =>
        -- mensaje stays as it was, which was not a TOKEN_LEAVE
        if con.cliente.pc = .cerrado then
          some (s.set c { con with hijo.tengoToken := false, hijo.pc := .enviaOk })
        else none
  | .enviaOk =>
    match con.sendsome .leaveOk falla with
    | some (con, _) => some (s.set c { con with hijo.pc := .decide })
    | none => none
  | .decide =>
    if con.hijo.tengoToken then
      some (s.releaseToken P c { con with hijo.tengoToken := false, hijo.pc := .fin })
    else
      some (s.set c { con with
        hijo.pc := if con.hijo.chequearAsignacion = 1 then .extrae else .fin })
  | .extrae => s.lockToken P c { con with hijo.pc := .liberaExtraido }
  | .liberaExtraido => some (s.releaseToken P c { con with hijo.pc := .fin })
  | .chequeaCierre =>
    some (s.set c { con with hijo.pc := if con.hijo.salir = 2 then .verificaCierre else .fin })
  | .verificaCierre =>
    (tengoElTokenCliente P s c).map fun tengo =>
      s.set c { con with hijo.pc := if tengo then .liberaCierre else .fin }
  -- whatever it held goes with this release
  | .liberaCierre => some (s.releaseToken P c { con with hijo.tengoToken := false, hijo.pc := .fin })
  | .fin => none

def paso (P : Parametros ι ν) (s : Estado ι M ν) : Evento ι → Option (Estado ι M ν)
  | .tokenManager => (s.broker.pasoTokenManager P.toConfig).map fun b => { s with broker := b }
  | .conectar c =>
    match (s.conexion c).manejador with
    | .inexistente => some (s.set c { s.conexion c with manejador := .une .avisa })
    | _ => none
  | .manejador c => pasoManejador P s c
  | .recibir c => (s.conexion c).recibirCliente.map (s.set c)
  | .liberar c =>
    let con := s.conexion c
    if con.cliente.pc = .activo ∧ 0 < con.cliente.fichas then
      some (s.set c { con with
        cliente.fichas := con.cliente.fichas - 1
        subida := con.subida ++ [.tokenFree] })
    else none
  | .leave c =>
    let con := s.conexion c
    match con.manejador, con.cliente.pc with
    | .unido, .activo =>
      some (s.set c { con with cliente.pc := .saliendo, subida := con.subida ++ [.leave] })
    | _, _ => none
  | .cerrar c =>
    if (s.conexion c).cliente.pc = .cerrado then none else some (s.set c (s.conexion c).cerrar)
  | .padre c falla =>
    match (s.conexion c).manejador with
    | .unido => pasoPadre P s c falla
    | _ => none
  | .hijo c falla =>
    match (s.conexion c).manejador with
    | .unido => pasoHijo P s c falla
    | _ => none
  | .senal c interrumpe =>
    let con := s.conexion c
    match con.hijo.pc with
    | .fin => none
    | _ =>
      if con.hijo.senal = 0 then none
      else some (s.set c { con with hijo := con.hijo.senalado interrumpe })

end Paso

end ClientHandler
