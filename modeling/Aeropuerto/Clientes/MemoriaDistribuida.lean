import Aeropuerto.Biblioteca.Bloques
import Aeropuerto.Broker.TokenManager

/-!
# Distributed shared memory (`clientes/memoria_distribuida.cpp`)

The applications `ι`, each with its own directory and so its own `ControlTokens` slot.  For each group
an application uses it runs a process `LocalBrokerComm` (`loop_memoria`), which talks over a socket to
a `ClientHandler` of the broker (`loop_memoria`).  A socket carries whole blocks, in order; nobody
leaves.  The sizes in the answer to JOIN are the ones of the groups file.
-/

namespace MemoriaDistribuida

open Ejecucion Bloques

/-- `DATA_SIZE`. -/
def dataSize : Nat := 256

inductive PcManejador (M : Nat) where
  | inexistente
  | une (pc : PcJoin M)
  | rechazado
  -- lock_token
  | pide
  | envia (i : Nat)
  | recibe (i : Nat)
  | actualiza
  | libera

inductive PcComm where
  | sinConectar
  -- waits for the answer to JOIN
  | conectando
  | recibe (i : Nat)
  | compara
  | entrega
  | espera
  | envia (i : Nat)

/-- An application in a group: its handler, its `LocalBrokerComm`, the socket between them, and the
    shared memory and the two semaphores between `LocalBrokerComm` and the application. -/
structure Conexion (M : Nat) (β : Type) where
  manejador : PcManejador M
  numeroCola : Fin M
  memLocal : Nat → β
  comm : PcComm
  -- the OK of JOIN is on its way
  respuesta : Bool
  bajada : List (List β)
  subida : List (List β)
  memoria : Nat → β
  entrega : Nat
  devolucion : Nat

inductive PcApp where
  | reposo
  -- in lock, at wait_on(0) and at the second change of the slot
  | esperando (g : Nat)
  | limpiando (g : Nat)
  -- in unlock, at signalize(1)
  | senalando (g : Nat)
deriving DecidableEq

structure App where
  pc : PcApp
  tokenEsperando : Option Nat
  -- between the return of lock and unlock
  adentro : Nat → Bool

/-- The end of `lock`. -/
def App.entrar (p : App) (g : Nat) : App where
  pc := .reposo
  tokenEsperando := none
  adentro := Function.update p.adentro g true

/-- The start of `unlock`. -/
def App.salir (p : App) (g : Nat) : App where
  pc := .senalando g
  tokenEsperando := none
  adentro := Function.update p.adentro g false

/-- `imagen` is the memory of each group in the broker; `ultima` is what the last `unlock` left. -/
structure Estado (ι : Type) (M : Nat) (ν β : Type) where
  broker : Broker M ν
  app : ι → App
  conexion : ι × Nat → Conexion M β
  imagen : Nat → Nat → β
  ultima : Nat → Nat → β

/-- `imagenInicial` is what `inicializar_memoria` reads for each group. -/
structure Parametros (ι ν β : Type) extends Clientes ι ν where
  imagenInicial : Nat → Nat → β

inductive Evento (ι β : Type) where
  | tokenManager
  | conectar (a : ι) (g : Nat)
  | manejador (a : ι) (g : Nat)
  | comm (a : ι) (g : Nat)
  | lock (a : ι) (g : Nat)
  | waitOn (a : ι)
  | limpiar (a : ι)
  | escribir (a : ι) (g x : Nat) (v : β)
  | unlock (a : ι) (g : Nat)
  | signalize (a : ι)

variable {ι ν β : Type} {M : Nat}

section Conexion

variable [Zero β]

/-- `send_token` of the handler, with the zeros that `recv_token` starts from. -/
def Conexion.enviar (tamanio : Nat) (imagen : Nat → β) (c : Conexion M β) (i : Nat) :
    Conexion M β :=
  let c := { c with bajada := c.bajada ++ [bloque dataSize tamanio imagen i] }
  if i + 1 < cantidad dataSize tamanio then { c with manejador := .envia (i + 1) }
  else { c with manejador := .recibe 0, memLocal := fun _ => 0 }

omit [Zero β]

/-- `recv_token` of the handler. -/
def Conexion.recibir (tamanio : Nat) (c : Conexion M β) (i : Nat) : Option (Conexion M β) :=
  match c.subida with
  | datos :: subida =>
    some { c with
      subida := subida
      memLocal := guardar dataSize c.memLocal i datos
      manejador := if i + 1 < cantidad dataSize tamanio then .recibe (i + 1) else .actualiza }
  | [] => none

/-- `LocalBrokerComm::loop_memoria`; `esperando` is the result of `comparar_token`. -/
def Conexion.pasoComm (tamanio : Nat) (esperando : Bool) (c : Conexion M β) :
    Option (Conexion M β) :=
  match c.comm with
  | .sinConectar => none
  | .conectando => if c.respuesta then some { c with respuesta := false, comm := .recibe 0 } else none
  | .recibe i =>
    match c.bajada with
    | datos :: bajada =>
      some { c with
        bajada := bajada
        memoria := guardar dataSize c.memoria i datos
        comm := if i + 1 < cantidad dataSize tamanio then .recibe (i + 1) else .compara }
    | [] => none
  | .compara => some { c with comm := if esperando then .entrega else .envia 0 }
  | .entrega => some { c with entrega := c.entrega + 1, comm := .espera }
  | .espera =>
    if 0 < c.devolucion then some { c with devolucion := c.devolucion - 1, comm := .envia 0 }
    else none
  | .envia i =>
    some { c with
      subida := c.subida ++ [bloque dataSize tamanio c.memoria i]
      comm := if i + 1 < cantidad dataSize tamanio then .envia (i + 1) else .recibe 0 }

end Conexion

section Paso

variable [DecidableEq ι] [DecidableEq ν] [Zero β] [NeZero M]

def inicial (P : Parametros ι ν β) : Estado ι M ν β where
  broker := Broker.inicial
  app := fun _ => { pc := .reposo, tokenEsperando := none, adentro := fun _ => false }
  conexion := fun _ =>
    { manejador := .inexistente, numeroCola := 0, memLocal := fun _ => 0, comm := .sinConectar
      respuesta := false, bajada := [], subida := [], memoria := fun _ => 0, entrega := 0
      devolucion := 0 }
  imagen := fun _ _ => 0
  ultima := P.imagenInicial

def Estado.setConexion (s : Estado ι M ν β) (a : ι) (g : Nat) (c : Conexion M β) :
    Estado ι M ν β :=
  { s with conexion := Function.update s.conexion (a, g) c }

def Estado.setApp (s : Estado ι M ν β) (a : ι) (p : App) : Estado ι M ν β :=
  { s with app := Function.update s.app a p }

/-- `TokenManager::run`; the end of `crear_grupo` writes the memory of the group. -/
def pasoTokenManager (P : Parametros ι ν β) (s : Estado ι M ν β) : Option (Estado ι M ν β) :=
  (s.broker.pasoTokenManager P.toConfig).map fun b =>
    match s.broker.tokenManager with
    | .inicializa g =>
      { s with broker := b, imagen := Function.update s.imagen g (P.imagenInicial g) }
    | _ => { s with broker := b }

/-- `ClientHandler::loop_memoria`, after `join_group`. -/
def pasoManejador (P : Parametros ι ν β) (s : Estado ι M ν β) (a : ι) (g : Nat) :
    Option (Estado ι M ν β) :=
  let c := s.conexion (a, g)
  match c.manejador with
  | .inexistente => none
  | .rechazado => none
  | .une pc =>
    match s.broker.pasoJoin g (P.nombre a) pc with
    | some (b, .sigue pc') => some ({ s with broker := b }.setConexion a g
        { c with manejador := .une pc' })
    | some (b, .unido i) => some ({ s with broker := b }.setConexion a g
        { c with manejador := .pide, numeroCola := i, respuesta := true })
    | some (b, .rechazado) => some ({ s with broker := b }.setConexion a g
        { c with manejador := .rechazado })
    | none => none
  | .pide =>
    (s.broker.lockToken g c.numeroCola).map fun b =>
      { s with broker := b }.setConexion a g { c with manejador := .envia 0 }
  | .envia i => some (s.setConexion a g (c.enviar (P.tamanio g) (s.imagen g) i))
  | .recibe i => (c.recibir (P.tamanio g) i).map (s.setConexion a g)
  | .actualiza =>
    some ({ s with
      imagen := Function.update s.imagen g
        (copiar (P.tamanio g) (s.imagen g) c.memLocal) }.setConexion a g
        { c with manejador := .libera })
  | .libera =>
    some ({ s with broker := s.broker.releaseToken g }.setConexion a g
      { c with manejador := .pide })

def paso (P : Parametros ι ν β) (s : Estado ι M ν β) : Evento ι β → Option (Estado ι M ν β)
  | .tokenManager => pasoTokenManager P s
  | .conectar a g =>
    match (s.conexion (a, g)).comm with
    | .sinConectar =>
      some (s.setConexion a g
        { s.conexion (a, g) with comm := .conectando, manejador := .une .avisa })
    | _ => none
  | .manejador a g => pasoManejador P s a g
  | .comm a g =>
    ((s.conexion (a, g)).pasoComm (P.tamanio g) ((s.app a).tokenEsperando = some g)).map
      (s.setConexion a g)
  | .lock a g =>
    match (s.app a).pc with
    | .reposo =>
      some (s.setApp a { s.app a with pc := .esperando g, tokenEsperando := some g })
    | _ => none
  | .waitOn a =>
    match (s.app a).pc with
    | .esperando g =>
      if 0 < (s.conexion (a, g)).entrega then
        some ((s.setConexion a g
          { s.conexion (a, g) with entrega := (s.conexion (a, g)).entrega - 1 }).setApp a
          { s.app a with pc := .limpiando g })
      else none
    | _ => none
  | .limpiar a =>
    match (s.app a).pc with
    | .limpiando g => some (s.setApp a ((s.app a).entrar g))
    | _ => none
  | .escribir a g x v =>
    match (s.app a).pc with
    | .reposo =>
      if (s.app a).adentro g then
        some (s.setConexion a g
          { s.conexion (a, g) with memoria := Function.update (s.conexion (a, g)).memoria x v })
      else none
    | _ => none
  | .unlock a g =>
    match (s.app a).pc with
    | .reposo =>
      if (s.app a).adentro g then
        some ({ s with
          ultima := Function.update s.ultima g (s.conexion (a, g)).memoria }.setApp a
            ((s.app a).salir g))
      else none
    | _ => none
  | .signalize a =>
    match (s.app a).pc with
    | .senalando g =>
      some ((s.setConexion a g
        { s.conexion (a, g) with devolucion := (s.conexion (a, g)).devolucion + 1 }).setApp a
        { s.app a with pc := .reposo })
    | _ => none

end Paso

end MemoriaDistribuida
