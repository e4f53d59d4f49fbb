import Aeropuerto.Broker.TokenManager

/-!
# The distributed semaphores (`clientes/semaphore_set_distribuido.cpp`)

Each semaphore of a set is a group of the broker.  For each one an application uses it runs a process
`LocalBrokerComm` that forks (`loop_semaforo`): its parent receives tokens and delivers or forwards
them, its child sends tokens back.  The `ClientHandler` at the other end of the socket forks too: its
parent receives tokens and releases them, its child waits for the token and sends it.  A token on a
socket or on a semaphore carries nothing, so a count of them is enough; nobody leaves.  An
application has one `ControlTokens` slot, whatever it waits for.
-/

namespace SemaphoreSetDistribuido

open Ejecucion

inductive PcManejador (M : Nat) where
  | inexistente
  | une (pc : PcJoin M)
  | rechazado
  -- forked, with its slot
  | unido (numeroCola : Fin M)

/-- `ClientHandler::loop_semaforo_padre`. -/
inductive PcManejadorPadre where
  | recibe
  | libera

/-- `ClientHandler::loop_semaforo_hijo`. -/
inductive PcManejadorHijo where
  | pide
  | envia

inductive PcComm where
  | sinConectar
  -- waits for the answer to JOIN_FORK
  | conectando
  -- forked
  | unido

/-- `LocalBrokerComm::loop_semaforo_padre`. -/
inductive PcCommPadre where
  | recibe
  | compara
  | entrega
  | forwardea

/-- `LocalBrokerComm::loop_semaforo_hijo`. -/
inductive PcCommHijo where
  | espera
  | envia

/-- An application in a group; `entrega` and `devolucion` are the two semaphores of its set. -/
structure Conexion (M : Nat) where
  manejador : PcManejador M
  manejadorPadre : PcManejadorPadre
  manejadorHijo : PcManejadorHijo
  comm : PcComm
  commPadre : PcCommPadre
  commHijo : PcCommHijo
  bajada : Nat
  subida : Nat
  entrega : Nat
  devolucion : Nat

inductive PcApp where
  | reposo
  -- in wait_on, at the semaphore and at the second change of the slot
  | esperando (g : Nat)
  | limpiando (g : Nat)
  -- in signalize, at the semaphore
  | senalando (g : Nat)
deriving DecidableEq

structure App where
  pc : PcApp
  tokenEsperando : Option Nat

/-- `vueltas` counts the calls of `wait_on` that have returned and `senales` the calls of
    `signalize`, for each group. -/
structure Estado (ι : Type) (M : Nat) (ν : Type) where
  broker : Broker M ν
  app : ι → App
  conexion : ι × Nat → Conexion M
  vueltas : Nat → Nat
  senales : Nat → Nat

inductive Evento (ι : Type) where
  | tokenManager
  | conectar (a : ι) (g : Nat)
  | manejador (a : ι) (g : Nat)
  | manejadorPadre (a : ι) (g : Nat)
  | manejadorHijo (a : ι) (g : Nat)
  | comm (a : ι) (g : Nat)
  | commPadre (a : ι) (g : Nat)
  | commHijo (a : ι) (g : Nat)
  | waitOn (a : ι) (g : Nat)
  | tomar (a : ι)
  | limpiar (a : ι)
  | signalize (a : ι) (g : Nat)
  | senalar (a : ι)

variable {ι ν : Type} {M : Nat}

/-- `LocalBrokerComm::loop_semaforo_padre`; `esperando` is the result of `comparar_token`. -/
def Conexion.pasoCommPadre (esperando : Bool) (c : Conexion M) : Option (Conexion M) :=
  match c.comm, c.commPadre with
  | .unido, .recibe =>
    if 0 < c.bajada then some { c with bajada := c.bajada - 1, commPadre := .compara } else none
  | .unido, .compara => some { c with commPadre := if esperando then .entrega else .forwardea }
  | .unido, .entrega => some { c with entrega := c.entrega + 1, commPadre := .recibe }
  | .unido, .forwardea => some { c with devolucion := c.devolucion + 1, commPadre := .recibe }
  | _, _ => none

/-- `LocalBrokerComm::loop_semaforo_hijo`. -/
def Conexion.pasoCommHijo (c : Conexion M) : Option (Conexion M) :=
  match c.comm, c.commHijo with
  | .unido, .espera =>
    if 0 < c.devolucion then some { c with devolucion := c.devolucion - 1, commHijo := .envia }
    else none
  | .unido, .envia => some { c with subida := c.subida + 1, commHijo := .espera }
  | _, _ => none

section Paso

variable [DecidableEq ι] [DecidableEq ν] [NeZero M]

def inicial : Estado ι M ν where
  broker := Broker.inicial
  app := fun _ => { pc := .reposo, tokenEsperando := none }
  conexion := fun _ =>
    { manejador := .inexistente, manejadorPadre := .recibe, manejadorHijo := .pide
      comm := .sinConectar, commPadre := .recibe, commHijo := .espera
      bajada := 0, subida := 0, entrega := 0, devolucion := 0 }
  vueltas := fun _ => 0
  senales := fun _ => 0

def Estado.setConexion (s : Estado ι M ν) (a : ι) (g : Nat) (c : Conexion M) : Estado ι M ν :=
  { s with conexion := Function.update s.conexion (a, g) c }

def Estado.setApp (s : Estado ι M ν) (a : ι) (p : App) : Estado ι M ν :=
  { s with app := Function.update s.app a p }

/-- `join_group` and the answer, after which both processes fork. -/
def pasoManejador (P : Clientes ι ν) (s : Estado ι M ν) (a : ι) (g : Nat) :
    Option (Estado ι M ν) :=
  match (s.conexion (a, g)).manejador with
  | .une pc =>
    match s.broker.pasoJoin g (P.nombre a) pc with
    | some (b, .sigue pc') => some ({ s with broker := b }.setConexion a g
        { s.conexion (a, g) with manejador := .une pc' })
    | some (b, .unido i) => some ({ s with broker := b }.setConexion a g
        { s.conexion (a, g) with manejador := .unido i })
    | some (b, .rechazado) => some ({ s with broker := b }.setConexion a g
        { s.conexion (a, g) with manejador := .rechazado })
    | none => none
  | _ => none

def pasoManejadorPadre (s : Estado ι M ν) (a : ι) (g : Nat) : Option (Estado ι M ν) :=
  let c := s.conexion (a, g)
  match c.manejador, c.manejadorPadre with
  | .unido _, .recibe =>
    if 0 < c.subida then
      some (s.setConexion a g { c with subida := c.subida - 1, manejadorPadre := .libera })
    else none
  | .unido _, .libera =>
    some ({ s with broker := s.broker.releaseToken g }.setConexion a g
      { c with manejadorPadre := .recibe })
  | _, _ => none

def pasoManejadorHijo (s : Estado ι M ν) (a : ι) (g : Nat) : Option (Estado ι M ν) :=
  let c := s.conexion (a, g)
  match c.manejador, c.manejadorHijo with
  | .unido numeroCola, .pide =>
    (s.broker.lockToken g numeroCola).map fun b =>
      { s with broker := b }.setConexion a g { c with manejadorHijo := .envia }
  | .unido _, .envia =>
    some (s.setConexion a g { c with bajada := c.bajada + 1, manejadorHijo := .pide })
  | _, _ => none

def paso (P : Clientes ι ν) (s : Estado ι M ν) : Evento ι → Option (Estado ι M ν)
  | .tokenManager => (s.broker.pasoTokenManager P.toConfig).map fun b => { s with broker := b }
  | .conectar a g =>
    match (s.conexion (a, g)).comm with
    | .sinConectar =>
      some (s.setConexion a g
        { s.conexion (a, g) with comm := .conectando, manejador := .une .avisa })
    | _ => none
  | .manejador a g => pasoManejador P s a g
  | .manejadorPadre a g => pasoManejadorPadre s a g
  | .manejadorHijo a g => pasoManejadorHijo s a g
  | .comm a g =>
    -- the OK is on the socket since the handler joined, before any token
    match (s.conexion (a, g)).comm, (s.conexion (a, g)).manejador with
    | .conectando, .unido _ =>
      some (s.setConexion a g { s.conexion (a, g) with comm := .unido })
    | _, _ => none
  | .commPadre a g =>
    ((s.conexion (a, g)).pasoCommPadre ((s.app a).tokenEsperando = some g)).map (s.setConexion a g)
  | .commHijo a g => (s.conexion (a, g)).pasoCommHijo.map (s.setConexion a g)
  | .waitOn a g =>
    match (s.app a).pc with
    | .reposo => some (s.setApp a { pc := .esperando g, tokenEsperando := some g })
    | _ => none
  | .tomar a =>
    match (s.app a).pc with
    | .esperando g =>
      if 0 < (s.conexion (a, g)).entrega then
        some ((s.setConexion a g
          { s.conexion (a, g) with entrega := (s.conexion (a, g)).entrega - 1 }).setApp a
          { s.app a with pc := .limpiando g })
      else none
    | _ => none
  | .limpiar a =>
    match (s.app a).pc with
    | .limpiando g =>
      some ({ s with vueltas := Function.update s.vueltas g (s.vueltas g + 1) }.setApp a
        { pc := .reposo, tokenEsperando := none })
    | _ => none
  | .signalize a g =>
    match (s.app a).pc with
    | .reposo =>
      some ({ s with senales := Function.update s.senales g (s.senales g + 1) }.setApp a
        { pc := .senalando g, tokenEsperando := none })
    | _ => none
  | .senalar a =>
    match (s.app a).pc with
    | .senalando g =>
      some ((s.setConexion a g
        { s.conexion (a, g) with devolucion := (s.conexion (a, g)).devolucion + 1 }).setApp a
        { s.app a with pc := .reposo })
    | _ => none

end Paso

end SemaphoreSetDistribuido
