import Aeropuerto.Biblioteca.ColaDeMensajes
import Aeropuerto.Biblioteca.Ejecucion
import Aeropuerto.Biblioteca.Enteros

/-!
# The message broker (`local_broker/message_broker.cpp`)

A table of 255 slots gives each queue id the character that, with a path, is the key of its System V
queue.  `char` is a signed type of 8 bits.  The strings are those without their final zero, and one that
is shorter than a slot fits in it.
-/

namespace MessageBroker

open ColaDeMensajes Enteros

inductive Error where
  | messageBrokerError
  | espera
  deriving DecidableEq, Repr

/-- The memory from `proj_id_to_queue_id` on, whose slots are those from 0 to 254, and the queues of the
    system by their character. -/
structure Broker where
  projIdToQueueId : Int → List UInt8
  colas : Int → Option (Cola UInt8)

/-- `(char) pos`. -/
def char (pos : Nat) : Int := conSigno 8 pos

namespace Broker

/-- The slot of the first free position gets the id, but it is designated by the character. -/
def allocateQueueId (b : Broker) (queueId : List UInt8) : Option (Broker × Int) :=
  match (List.range 255).find? fun pos : Nat => (b.projIdToQueueId pos).isEmpty with
  | none => none
  | some pos =>
    some ({ b with projIdToQueueId := Function.update b.projIdToQueueId (char pos) queueId },
      char pos)

def getProjId (b : Broker) (queueId : List UInt8) : Int :=
  match (List.range 255).find? fun pos : Nat => b.projIdToQueueId pos = queueId with
  | none => -1
  | some pos => char pos

def existQueue (b : Broker) (queueId : List UInt8) : Bool :=
  (List.range 255).any fun pos : Nat => b.projIdToQueueId pos = queueId

def deallocateQueueId (b : Broker) (queueId : List UInt8) : Broker :=
  { b with projIdToQueueId := Function.update b.projIdToQueueId (b.getProjId queueId) [] }

/-- `msgget` fails when the queue exists already and, as any call of the system, when there is no room. -/
def createQueue (b : Broker) (queueId : List UInt8) (hayLugar : Bool) :
    Broker × Except Error Unit :=
  match b.allocateQueueId queueId with
  | none => (b, .error .messageBrokerError)
  | some (b, projId) =>
    if (b.colas projId).isNone ∧ hayLugar then
      ({ b with colas := Function.update b.colas projId (some []) }, .ok ())
    else (b, .error .messageBrokerError)

def destroyQueue (b : Broker) (queueId : List UInt8) : Broker × Except Error Unit :=
  let projId := b.getProjId queueId
  match b.colas projId with
  | none => (b, .error .messageBrokerError)
  | some _ =>
    -- the destructor of queue removes it
    ({ b.deallocateQueueId queueId with colas := Function.update b.colas projId none }, .ok ())

def push (b : Broker) (queueId : List UInt8) (mtype : Int) (texto : List UInt8) :
    Broker × Except Error Unit :=
  let projId := b.getProjId queueId
  match b.colas projId with
  | none => (b, .error .messageBrokerError)
  | some cola =>
    match msgsnd cola mtype texto with
    | .error _ => (b, .error .messageBrokerError)
    | .ok cola => ({ b with colas := Function.update b.colas projId (some cola) }, .ok ())

def pull (b : Broker) (queueId : List UInt8) (maxSizeTxt : Nat) (type : Int) :
    Broker × Except Error (Mensaje UInt8) :=
  let projId := b.getProjId queueId
  match b.colas projId with
  | none => (b, .error .messageBrokerError)
  | some cola =>
    match msgrcv cola maxSizeTxt type with
    | .error .espera => (b, .error .espera)
    | .error _ => (b, .error .messageBrokerError)
    | .ok (m, cola) => ({ b with colas := Function.update b.colas projId (some cola) }, .ok m)

end Broker

theorem char_of_lt {pos : Nat} (h : pos < 128) : char pos = pos := by
  have hchar : ∀ p : Fin 128, char p = (p : Nat) := by decide
  exact hchar ⟨pos, h⟩

end MessageBroker
