import Aeropuerto.Broker.MessageBroker

/-!
# Calls of the message broker that fail (`local_broker/message_broker.cpp`)

`create_queue` and `destroy_queue` with the semaphore of the table.  `allocate_queue_id` has written the id
in the table when the constructor of `MessageQueue` asks the system for the queue; nothing takes it out
again when that constructor throws.
-/

namespace MessageBrokerFallas

open MessageBroker Enteros

structure Estado where
  broker : Broker
  sem : Nat

namespace Estado

/-- `sem_set.wait_on(0)`; `none` while it blocks. -/
def waitOn (s : Estado) : Option Estado := if 0 < s.sem then some { s with sem := s.sem - 1 } else none

def signalize (s : Estado) : Estado := { s with sem := s.sem + 1 }

/-- The character of the slot, or the exception. -/
def allocateQueueId (s : Estado) (queueId : List UInt8) : Option (Estado × Option Int) :=
  s.waitOn.map fun s =>
    match s.broker.allocateQueueId queueId with
    | none => (s.signalize, none)
    | some (broker, projId) => ({ s with broker }.signalize, some projId)

/-- `get_proj_id` only writes to the log when there is no such id, so nothing throws here. -/
def deallocateQueueId (s : Estado) (queueId : List UInt8) : Option Estado :=
  s.waitOn.map fun s => { s with broker := s.broker.deallocateQueueId queueId }.signalize

/-- `MessageQueue queue(path, proj_id, 0664, create, is_owner)`: the queues of the system when `msgget`
    succeeds.  It is asked for a new queue or for one that exists, and any call of the system may fail. -/
def abrir (s : Estado) (projId : Int) (create sistema : Bool) : Option Estado :=
  if create then
    if (s.broker.colas projId).isNone ∧ sistema then
      some { s with broker := { s.broker with colas := Function.update s.broker.colas projId (some []) } }
    else none
  else if (s.broker.colas projId).isSome ∧ sistema then some s
  else none

/-- The destructor of a queue that `is_owner`. -/
def cerrar (s : Estado) (projId : Int) : Estado :=
  { s with broker := { s.broker with colas := Function.update s.broker.colas projId none } }

def createQueue (s : Estado) (queueId : List UInt8) (sistema : Bool) :
    Option (Estado × Except Error Unit) :=
  (s.allocateQueueId queueId).map fun
    | (s, none) => (s, .error .messageBrokerError)
    | (s, some projId) =>
      match s.abrir projId true sistema with
      | none => (s, .error .messageBrokerError)
      | some s => (s, .ok ())

def destroyQueue (s : Estado) (queueId : List UInt8) (sistema : Bool) :
    Option (Estado × Except Error Unit) :=
  let projId := s.broker.getProjId queueId
  match s.abrir projId false sistema with
  | none => some (s, .error .messageBrokerError)
  | some s => (s.deallocateQueueId queueId).map fun s => (s.cerrar projId, .ok ())

end Estado

/-- The call returns; when it throws, the table, the queues and the semaphore are what they were. -/
def TodoONada (s : Estado) (r : Option (Estado × Except Error Unit)) : Prop :=
  ∃ s' x, r = some (s', x) ∧ (x = .error .messageBrokerError → s' = s)

/-- Nothing is written, or the queue is created, or what is written was there already. -/
def NoDejaRastro (s : Estado) (queueId : List UInt8) (sistema : Bool) : Prop :=
  ∀ b projId, s.broker.allocateQueueId queueId = some (b, projId) →
    ((s.broker.colas projId).isNone ∧ sistema = true) ∨ s.broker.projIdToQueueId projId = queueId

section

variable {s : Estado} {queueId : List UInt8} {sistema : Bool}

theorem waitOn_libre (hsem : 0 < s.sem) : s.waitOn = some { s with sem := s.sem - 1 } := if_pos hsem

/-- Waiting and signalling leave the semaphore as it was. -/
theorem waitOn_signalize (hsem : 0 < s.sem) (broker : Broker) :
    ({ broker, sem := s.sem - 1 } : Estado).signalize = { broker, sem := s.sem } := by
  unfold Estado.signalize
  rw [Nat.sub_add_cancel hsem]

/-- Of the state `allocate_queue_id` only writes the slot. -/
theorem allocateQueueId_libre (hsem : 0 < s.sem) (queueId : List UInt8) :
    s.allocateQueueId queueId = some
      (match s.broker.allocateQueueId queueId with
        | none => (s, none)
        | some (broker, projId) => ({ s with broker }, some projId)) := by
  rw [Estado.allocateQueueId, waitOn_libre hsem, Option.map_some]
  cases s.broker.allocateQueueId queueId with
  | none => exact congrArg (fun s => some (s, none)) (waitOn_signalize hsem s.broker)
  | some bp => exact congrArg (fun s => some (s, some bp.2)) (waitOn_signalize hsem bp.1)

theorem allocateQueueId_eq_some {b b' : Broker} {projId : Int}
    (h : b.allocateQueueId queueId = some (b', projId)) :
    b' = { b with projIdToQueueId := Function.update b.projIdToQueueId projId queueId } := by
  unfold Broker.allocateQueueId at h
  split at h
  · cases h
  · cases h
    rfl

/-- With the semaphore free the calls are those of the broker. -/
theorem createQueue_libre (hsem : 0 < s.sem) (queueId : List UInt8) (sistema : Bool) :
    s.createQueue queueId sistema = some
      ({ s with broker := (s.broker.createQueue queueId sistema).1 },
        (s.broker.createQueue queueId sistema).2) := by
  rw [Estado.createQueue, allocateQueueId_libre hsem, Option.map_some]
  unfold Broker.createQueue
  cases s.broker.allocateQueueId queueId with
  | none => rfl
  | some bp =>
    by_cases hcola : (bp.1.colas bp.2).isNone ∧ sistema = true
    · simp only [Estado.abrir, if_true, if_pos hcola]
    · simp only [Estado.abrir, if_true, if_neg hcola]

theorem createQueue_todoONada_iff (hsem : 0 < s.sem) :
    TodoONada s (s.createQueue queueId sistema) ↔ NoDejaRastro s queueId sistema := by
  rw [createQueue_libre hsem]
  unfold Broker.createQueue NoDejaRastro
  cases halloc : s.broker.allocateQueueId queueId with
  | none =>
    exact iff_of_true ⟨s, _, rfl, fun _ => rfl⟩ fun _ _ h => by cases h
  | some bp =>
    obtain ⟨b, projId⟩ := bp
    have hb := allocateQueueId_eq_some halloc
    have hcolas : b.colas = s.broker.colas := by rw [hb]
    have hsolo : (∀ b' p, some (b, projId) = some (b', p) →
        ((s.broker.colas p).isNone ∧ sistema = true) ∨ s.broker.projIdToQueueId p = queueId) ↔
          ((s.broker.colas projId).isNone ∧ sistema = true) ∨
            s.broker.projIdToQueueId projId = queueId := by
      constructor
      · exact fun h => h b projId rfl
      · rintro h b' p heq
        cases heq
        exact h
    rw [hsolo]
    by_cases hcola : (s.broker.colas projId).isNone ∧ sistema = true
    · have hcola' : (b.colas projId).isNone ∧ sistema = true := by rwa [hcolas]
      simp only [if_pos hcola']
      exact iff_of_true ⟨_, _, rfl, fun h => by cases h⟩ (.inl hcola)
    · have hcola' : ¬((b.colas projId).isNone ∧ sistema = true) := by rwa [hcolas]
      simp only [if_neg hcola', hcola, false_or]
      constructor
      · rintro ⟨s', x, heq, h⟩
        obtain ⟨rfl, rfl⟩ := Prod.mk.inj (Option.some.inj heq)
        have htabla := congrArg (fun s => s.broker.projIdToQueueId projId) (h rfl)
        rw [hb] at htabla
        simpa using htabla.symm
      · intro hya
        refine ⟨_, _, rfl, fun _ => ?_⟩
        rw [hb, ← hya, Function.update_eq_self]

/-- A queue that cannot be opened is not looked for in the table either. -/
theorem destroyQueue_todoONada (hsem : 0 < s.sem) : TodoONada s (s.destroyQueue queueId sistema) := by
  cases habrir : s.abrir (s.broker.getProjId queueId) false sistema with
  | none => exact ⟨s, .error .messageBrokerError, by simp only [Estado.destroyQueue, habrir], fun _ => rfl⟩
  | some s' =>
    have hs' : s' = s := by
      unfold Estado.abrir at habrir
      simp only [Bool.false_eq_true, if_false] at habrir
      split at habrir
      · exact (Option.some.inj habrir).symm
      · cases habrir
    subst hs'
    have hsaca : (s'.deallocateQueueId queueId).isSome = true := by
      rw [Estado.deallocateQueueId, waitOn_libre hsem]
      rfl
    obtain ⟨t, ht⟩ := Option.isSome_iff_exists.1 hsaca
    refine ⟨t.cerrar (s'.broker.getProjId queueId), .ok (), ?_, fun h => by cases h⟩
    simp only [Estado.destroyQueue, habrir, ht, Option.map_some]

end

/-- A call that throws changes nothing exactly when `create_queue` does not fail after its id has been
    written. -/
theorem todo_o_nada_iff {s : Estado} (hsem : 0 < s.sem) (queueId : List UInt8) (sistema : Bool) :
    (TodoONada s (s.createQueue queueId sistema) ∧ TodoONada s (s.destroyQueue queueId sistema)) ↔
      NoDejaRastro s queueId sistema := by
  rw [createQueue_todoONada_iff hsem]
  exact and_iff_left (destroyQueue_todoONada hsem)

/-- A table with nothing in it and a free semaphore. -/
def vacio : Estado := ⟨{ projIdToQueueId := fun _ => [], colas := fun _ => none }, 1⟩

/-- The system has no room for the queue, and its id stays in slot 0. -/
theorem create_queue_deja_id : ¬∀ (s : Estado) (queueId : List UInt8) (sistema : Bool), 0 < s.sem →
    TodoONada s (s.createQueue queueId sistema) ∧ TodoONada s (s.destroyQueue queueId sistema) := by
  intro h
  obtain ⟨⟨s', x, heq, hnada⟩, -⟩ := h vacio [65] false Nat.one_pos
  have hfalla : (vacio.createQueue [65] false).map (fun r => (r.2, r.1.broker.projIdToQueueId 0)) =
      some (.error .messageBrokerError, [65]) := by decide
  rw [heq] at hfalla
  obtain ⟨hx, htabla⟩ := Prod.mk.inj (Option.some.inj hfalla)
  replace htabla : s'.broker.projIdToQueueId 0 = [65] := htabla
  rw [hnada hx] at htabla
  exact absurd htabla (by decide)

/-- With room for it the queue is created, and without it the id is left behind. -/
theorem todo_o_nada_vacio :
    (TodoONada vacio (vacio.createQueue [65] true) ∧ TodoONada vacio (vacio.destroyQueue [65] true)) ∧
      ¬(TodoONada vacio (vacio.createQueue [65] false) ∧
        TodoONada vacio (vacio.destroyQueue [65] false)) := by
  have hlibre : 0 < vacio.sem := Nat.one_pos
  constructor
  · exact (todo_o_nada_iff hlibre [65] true).2 fun b projId _ => .inl ⟨rfl, rfl⟩
  · intro h
    have halloc : (vacio.broker.allocateQueueId [65]).map Prod.snd = some 0 := by decide
    obtain ⟨⟨b, projId⟩, hbp, hprojId⟩ := Option.map_eq_some_iff.1 halloc
    rcases (todo_o_nada_iff hlibre [65] false).1 h b projId hbp with ⟨-, hno⟩ | hya
    · cases hno
    · exact absurd hya (List.cons_ne_nil _ _).symm

end MessageBrokerFallas
