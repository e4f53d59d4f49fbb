import Aeropuerto.Clientes.MutexDistribuido
import Aeropuerto.Broker.CreacionToken

/-!
# The distributed mutex over the ring of brokers

With the services of the ring (`LANZAR_SERVICIO_DE_ANILLOS`) the token manager of an airport starts a
`GroupReceiver` and a `GroupSender` for each group that it creates.  The sender is one more client of the
group: when its turn comes it sends the token to the next broker.  The receiver releases in its broker each
token that arrives, and the first one if it becomes the leader.  The groups are mutexes, without memory and
with initial value 1: their token is one message, no process of the leader asks for it, and nothing sets
`avisar_envio`.

The ring is the one of `ArranqueGrupo`, whose `tokens` of a node is for the proofs: no process reads it.
-/

namespace MutexEnAnillo

open Ejecucion

variable {n : Nat} {ι ν : Type} {M : Nat}

/-- The airports of the ring, with the name of the broker of each and what it reads. -/
structure Aeropuertos (n : Nat) (ι ν : Type) where
  clientes : Fin n → Clientes ι ν
  nombreBroker : Fin n → ν
  sonMutex : ∀ k g tamanio valor, (clientes k).grupos g = some (tamanio, valor) → tamanio = 0 ∧ valor = 1

/-- `crear_grupo` hands the initial value to `levantar_grupo`, and releases no token itself. -/
def Aeropuertos.local (A : Aeropuertos n ι ν) (k : Fin n) : Clientes ι ν :=
  { A.clientes k with grupos := fun g => ((A.clientes k).grupos g).map fun x => (x.1, 0) }

inductive PcSender (M : Nat) where
  | inexistente
  -- in the constructor
  | une (pc : PcJoin M)
  -- after the exception of join
  | rechazado
  -- in loop_token
  | espera (numeroCola : Fin M)
  | envia (numeroCola : Fin M)
  -- in el_token_se_envio
  | marca (numeroCola : Fin M)
  | marcando (numeroCola : Fin M)

/-- `sender` and `anillo` are for each group. -/
structure Estado (n : Nat) (ι : Type) (M : Nat) (ν : Type) where
  aeropuerto : Fin n → MutexDistribuido.Estado ι M ν
  sender : Fin n × Nat → PcSender M
  anillo : Nat → ArranqueGrupo.Estado n

inductive Evento (n : Nat) (ι : Type) where
  -- an application, a LocalBrokerComm, a client handler or the token manager of an airport
  | aeropuerto (k : Fin n) (e : MutexDistribuido.Evento ι)
  -- the receiver of a group or the multiplexer
  | anillo (g : Nat) (e : ArranqueGrupo.Evento n)
  | sender (k : Fin n) (g : Nat)

/-- The section of `el_token_se_envio`. -/
def elTokenSeEnvio (gr : Grupo M ν) : Grupo M ν :=
  { gr with tokenEnviado := 1, avisarEnvio := 0 }.signalize

section Paso

namespace Estado

def broker (s : Estado n ι M ν) (k : Fin n) : Broker M ν := (s.aeropuerto k).red.broker

def setAeropuerto (s : Estado n ι M ν) (k : Fin n) (x : MutexDistribuido.Estado ι M ν) : Estado n ι M ν :=
  { s with aeropuerto := Function.update s.aeropuerto k x }

def setBroker (s : Estado n ι M ν) (k : Fin n) (b : Broker M ν) : Estado n ι M ν :=
  s.setAeropuerto k { s.aeropuerto k with red := { (s.aeropuerto k).red with broker := b } }

def setSender (s : Estado n ι M ν) (k : Fin n) (g : Nat) (pc : PcSender M) : Estado n ι M ν :=
  { s with sender := Function.update s.sender (k, g) pc }

def setAnillo (s : Estado n ι M ν) (g : Nat) (r : ArranqueGrupo.Estado n) : Estado n ι M ν :=
  { s with anillo := Function.update s.anillo g r }

end Estado

variable [NeZero n] [NeZero M]

def inicial : Estado n ι M ν where
  aeropuerto _ := MutexDistribuido.inicial
  sender _ := .inexistente
  anillo _ := ArranqueGrupo.inicial

/-- The push of `send_token`. -/
def enviarToken (r : ArranqueGrupo.Estado n) (k : Fin n) : ArranqueGrupo.Estado n :=
  (r.pon k { r.nodo k with tokens := (r.nodo k).tokens - 1 }).envia k [.tokenDeliver]

variable [DecidableEq ι] [DecidableEq ν]

/-- The process of `group_sender.cpp`. -/
def pasoSender (A : Aeropuertos n ι ν) (s : Estado n ι M ν) (k : Fin n) (g : Nat) :
    Option (Estado n ι M ν) :=
  match s.sender (k, g) with
  | .inexistente => if (s.broker k).creado g then some (s.setSender k g (.une .esperaGrupo)) else none
  | .une pc =>
    match (s.broker k).pasoJoin g (A.nombreBroker k) pc with
    | some (b, .sigue pc') => some ((s.setBroker k b).setSender k g (.une pc'))
    | some (b, .unido i) => some ((s.setBroker k b).setSender k g (.espera i))
    | some (b, .rechazado) => some ((s.setBroker k b).setSender k g .rechazado)
    | none => none
  | .rechazado => none
  | .espera i => ((s.broker k).lockToken g i).map fun b => (s.setBroker k b).setSender k g (.envia i)
  | .envia i => some ((s.setAnillo g (enviarToken (s.anillo g) k)).setSender k g (.marca i))
  | .marca i =>
    ((s.broker k).grupo g).waitOn.map fun gr =>
      (s.setBroker k ((s.broker k).setGrupo g gr)).setSender k g (.marcando i)
  | .marcando i =>
    some ((s.setBroker k ((s.broker k).setGrupo g (elTokenSeEnvio ((s.broker k).grupo g)))).setSender k g
      (.espera i))

/-- A token more in a node of the ring is a `release_token` of its receiver. -/
def pasoAnillo (s : Estado n ι M ν) (g : Nat) (e : ArranqueGrupo.Evento n) : Option (Estado n ι M ν) :=
  let k := e.broker
  let suelta (r : ArranqueGrupo.Estado n) : Estado n ι M ν :=
    if ((s.anillo g).nodo k).tokens < (r.nodo k).tokens then
      (s.setAnillo g r).setBroker k ((s.broker k).releaseToken g)
    else s.setAnillo g r
  match e with
  -- that is a step of the sender
  | .sendToken _ => none
  | .construye _ => if (s.broker k).creado g then (ArranqueGrupo.paso (s.anillo g) e).map suelta else none
  | _ => (ArranqueGrupo.paso (s.anillo g) e).map suelta

def paso (A : Aeropuertos n ι ν) (s : Estado n ι M ν) : Evento n ι → Option (Estado n ι M ν)
  | .aeropuerto k e => (MutexDistribuido.paso (A.local k) (s.aeropuerto k) e).map (s.setAeropuerto k)
  | .anillo g e => pasoAnillo s g e
  | .sender k g => pasoSender A s k g

end Paso

/-- Applications unlock what they have locked, and no broker that has not heard of the token becomes the
    leader of a group while another one is. -/
def Disciplina (s : Estado n ι M ν) : Evento n ι → Prop
  | .aeropuerto k e => MutexDistribuido.Disciplina (s.aeropuerto k) e
  | .anillo g e => ArranqueGrupo.sinOtroLider (s.anillo g) e = true
  | .sender _ _ => True

instance (s : Estado n ι M ν) (e : Evento n ι) : Decidable (Disciplina s e) := by
  cases e <;> unfold Disciplina <;> infer_instance

/-! ## What holds of a mutex -/

def PcSender.fichas : PcSender M → Nat
  | .envia _ => 1
  | _ => 0

variable [Fintype ι]

/-- The tokens of a mutex in an airport, and the applications that hold it there. -/
def Estado.fichas (A : Aeropuertos n ι ν) (s : Estado n ι M ν) (k : Fin n) (g : Nat) : Int :=
  (s.aeropuerto k).red.fichas (A.local k) g + ∑ a, (s.aeropuerto k).tomados (a, g) +
    (s.sender (k, g)).fichas

/-- The tokens on the ring and in the queues of the multiplexers. -/
def enViaje (r : ArranqueGrupo.Estado n) : Nat :=
  r.total (fun b => b.cola.count .tokenDeliver) fun m => if m = .tokenDeliver then 1 else 0

/-- One token for the whole ring. -/
structure Exclusion [NeZero n] (A : Aeropuertos n ι ν) (s : Estado n ι M ν) (g : Nat) : Prop where
  -- the airports do on the ring what the abstract brokers do, with the tokens that they have
  refina : AlcanzaBajo (fun (r : ArranqueGrupo.Estado n) e => ArranqueGrupo.sinOtroLider r e = true)
    ArranqueGrupo.paso ArranqueGrupo.inicial (s.anillo g)
  tokens : ∀ k, (((s.anillo g).nodo k).tokens : Int) = s.fichas A k g
  cuenta : ∑ k, s.fichas A k g + enViaje (s.anillo g) = ∑ k, (((s.anillo g).nodo k).creaciones : Int)
  una : ∑ k, ((s.anillo g).nodo k).creaciones ≤ 1
  tomados : ∀ k a, 0 ≤ (s.aeropuerto k).tomados (a, g)
  uno : ∀ k l a b, 0 < (s.aeropuerto k).tomados (a, g) → 0 < (s.aeropuerto l).tomados (b, g) →
    k = l ∧ a = b
  entrega : ∀ k a, 0 < ((s.aeropuerto k).red.conexion (a, g)).entrega →
    ((s.aeropuerto k).red.app a).pc = .esperando g

end MutexEnAnillo
