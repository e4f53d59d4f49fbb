import Aeropuerto.Biblioteca.Sumas

/-!
# A group of the local broker (`local_broker/grupo.cpp`)

The client table of a group with the queue of each of its slots.  `M` is `MAX_CLIENTS`, so that a
slot is a `Fin M` and `i + 1` is `(i + 1) % MAX_CLIENTS`.  Names are of an arbitrary type; `esBroker`
says of a name that it begins with `localbroker`.  The queue of slot `k` holds the messages of type
`k + numero_base_cola_asignada`, of which only `tipo` is read: 1 hands the token on and 2 asks for a
replica of the memory.  `cliente_actual` is a field of the only object that uses it, the one of the
token manager.
-/

structure Grupo (M : Nat) (ν : Type) where
  -- the value of the semaphore mutex_asignado
  mutexAsignado : Nat
  cantClientes : Nat
  memSize : Nat
  -- none is the empty name
  clientNames : Fin M → Option ν
  tengoTokenGrupo : Nat
  tengoTokenCliente : Fin M
  tokenEnviado : Nat
  avisarEnvio : Nat
  clienteActual : Fin M
  cola : Fin M → List Nat

namespace Grupo

variable {ν : Type} {M : Nat} {k : Fin M} {g g' : Grupo M ν} {esBroker : ν → Bool}

def waitOn (g : Grupo M ν) : Option (Grupo M ν) :=
  if 0 < g.mutexAsignado then some { g with mutexAsignado := g.mutexAsignado - 1 } else none

def signalize (g : Grupo M ν) : Grupo M ν :=
  { g with mutexAsignado := g.mutexAsignado + 1 }

/-- The create constructor, on a region that holds zeros. -/
def crear [NeZero M] (memSize : Nat) : Grupo M ν where
  mutexAsignado := 1
  cantClientes := 0
  memSize := memSize
  clientNames := fun _ => none
  tengoTokenGrupo := 0
  tengoTokenCliente := 0
  tokenEnviado := 1
  avisarEnvio := 0
  clienteActual := 0
  cola := fun _ => []

section Tabla

variable [DecidableEq ν]

def lockedYaEstaCliente (g : Grupo M ν) (nombre : ν) : Bool :=
  (List.finRange M).any fun i => g.clientNames i = some nombre

/-- The first free slot. -/
def primeraLibre (g : Grupo M ν) : Option (Fin M) :=
  (List.finRange M).find? fun i => (g.clientNames i).isNone

/-- The section of `join` up to the choice of a slot: the slot, or the exception. -/
def joinVerificar (g : Grupo M ν) (nombre : ν) : Grupo M ν × Option (Fin M) :=
  if g.cantClientes = M then (g.signalize, none)
  -- locked_ya_esta_cliente has signalled the mutex too
  else if g.lockedYaEstaCliente nombre then (g.signalize.signalize, none)
  else
    match g.primeraLibre with
    | some i => (g, some i)
    -- not while cant_clientes is right: numero_cola_asignada would stay unset
    | none => (g.signalize, none)

/-- The rest of the section of `join`. -/
def joinOcupar (g : Grupo M ν) (nombre : ν) (i : Fin M) : Grupo M ν :=
  { g with
    clientNames := Function.update g.clientNames i (some nombre)
    cantClientes := g.cantClientes + 1 }.signalize

/-- The section of `leave`. -/
def leave (g : Grupo M ν) (nombre : ν) : Grupo M ν :=
  match (List.finRange M).find? fun i => g.clientNames i = some nombre with
  | some i =>
    { g with
      clientNames := Function.update g.clientNames i none
      cantClientes := g.cantClientes - 1 }.signalize
  | none => g.signalize

end Tabla

def push (g : Grupo M ν) (k : Fin M) (tipo : Nat) : Grupo M ν :=
  { g with cola := Function.update g.cola k (g.cola k ++ [tipo]) }

/-- The section of `replicar_brokers`. -/
def replicarBrokers (esBroker : ν → Bool) (g : Grupo M ν) : Grupo M ν :=
  if g.cantClientes > 0 then
    match (List.finRange M).find? fun j => (g.clientNames j).any esBroker with
    | some j => (g.push j 2).signalize
    | none => g.signalize
  else g.signalize

/-- `lock_token` by the owner of slot `k`, with the `tipo` it returns; `none` while it blocks. -/
def lockToken (g : Grupo M ν) (k : Fin M) : Option (Grupo M ν × Nat) :=
  match g.cola k with
  | tipo :: resto => some ({ g with cola := Function.update g.cola k resto }, tipo)
  | [] => none

/-- The last slot the token was passed to is slot `k`. -/
def tengoElTokenCliente (g : Grupo M ν) (k : Fin M) : Bool :=
  k = g.tengoTokenCliente

variable [NeZero M]

/-- The do-while loop of `pasar_token_a_proximo_cliente` from slot `i` on: stop at the first occupied
    slot, or on coming back to `actual`. -/
def buscarCliente (clientNames : Fin M → Option ν) (actual : Fin M) : Nat → Fin M → Fin M
  | 0, _ => actual
  | vueltas + 1, i =>
    if (clientNames i).isSome then i
    else if i + 1 = actual then actual
    else buscarCliente clientNames actual vueltas (i + 1)

/-- The slot that gets the token next. -/
def proximoCliente (g : Grupo M ν) : Fin M :=
  if g.cantClientes = 0 then 0
  else buscarCliente g.clientNames g.clienteActual M (g.clienteActual + 1)

/-- The section of `pasar_token_a_proximo_cliente`. -/
def pasarTokenAProximoCliente (esBroker : ν → Bool) (g : Grupo M ν) : Grupo M ν :=
  let actual := g.proximoCliente
  let aBroker := (g.clientNames actual).any esBroker
  ({ g with
    clienteActual := actual
    tengoTokenGrupo := if aBroker then 0 else 1
    tokenEnviado := if aBroker then 0 else g.tokenEnviado
    tengoTokenCliente := actual }.push actual 1).signalize

/-! ## The token messages in the queues -/

/-- The messages in the queues of the slots. -/
def encolados (g : Grupo M ν) : Nat :=
  ∑ k, (g.cola k).length

omit [NeZero M]

theorem encolados_congr (h : g'.cola = g.cola) : g'.encolados = g.encolados := by
  unfold encolados
  rw [h]

theorem encolados_push (k : Fin M) (tipo : Nat) :
    (g.push k tipo).encolados = g.encolados + 1 := by
  have hsuma := Sumas.suma_update (fun _ l => l.length) g.cola (Finset.mem_univ k)
    (g.cola k ++ [tipo])
  rw [List.length_append, List.length_singleton] at hsuma
  unfold encolados push
  dsimp only
  omega

theorem lockToken_eq_some {tipo : Nat} (h : g.lockToken k = some (g', tipo)) :
    ∃ resto, g.cola k = tipo :: resto ∧ g' = { g with cola := Function.update g.cola k resto } := by
  unfold lockToken at h
  split at h
  · rename_i t resto hcola
    cases h
    exact ⟨resto, hcola, rfl⟩
  · cases h

theorem encolados_lockToken {tipo : Nat} (h : g.lockToken k = some (g', tipo)) :
    g.encolados = g'.encolados + 1 := by
  obtain ⟨resto, hcola, rfl⟩ := lockToken_eq_some h
  have hsuma := Sumas.suma_update (fun _ l => l.length) g.cola (Finset.mem_univ k) resto
  rw [hcola, List.length_cons] at hsuma
  unfold encolados
  dsimp only
  omega

/-! ## The table -/

/-- No client of the group is a broker. -/
def SinBrokers (esBroker : ν → Bool) (g : Grupo M ν) : Prop :=
  ∀ k, (g.clientNames k).any esBroker = false

/-- `mutex_asignado` is not part of the table. -/
theorem waitOn_eq_some (h : g.waitOn = some g') :
    g'.cola = g.cola ∧ g'.clientNames = g.clientNames ∧ g'.memSize = g.memSize := by
  unfold waitOn at h
  split at h
  · cases h
    exact ⟨rfl, rfl, rfl⟩
  · cases h

theorem waitOn_mutex (h : g.waitOn = some g') :
    0 < g.mutexAsignado ∧ g'.mutexAsignado = g.mutexAsignado - 1 := by
  unfold waitOn at h
  split at h
  · cases h
    exact ⟨‹_›, rfl⟩
  · cases h

/-- Without brokers `replicar_brokers` only goes through its section. -/
theorem replicarBrokers_eq (hno : g.SinBrokers esBroker) :
    g.replicarBrokers esBroker = g.signalize := by
  unfold replicarBrokers
  split
  · split
    · rename_i j hj
      have hb := List.find?_some hj
      rw [hno j] at hb
      cases hb
    · rfl
  · rfl

/-- Passing the token adds one message, to the slot it names. -/
theorem encolados_pasarToken [NeZero M] :
    (g.pasarTokenAProximoCliente esBroker).encolados = g.encolados + 1 :=
  encolados_push g.proximoCliente 1

theorem SinBrokers.joinOcupar (h : g.SinBrokers esBroker) {nombre : ν}
    (hno : esBroker nombre = false) (i : Fin M) : (g.joinOcupar nombre i).SinBrokers esBroker := by
  intro k
  change ((Function.update g.clientNames i (some nombre)) k).any esBroker = false
  by_cases hk : k = i
  · rw [hk, Function.update_self, Option.any_some, hno]
  · rw [Function.update_of_ne hk, h k]

variable [DecidableEq ν]

theorem joinVerificar_cola (nombre : ν) :
    (g.joinVerificar nombre).1.cola = g.cola ∧
      (g.joinVerificar nombre).1.clientNames = g.clientNames ∧
      (g.joinVerificar nombre).1.memSize = g.memSize := by
  unfold joinVerificar
  split
  · exact ⟨rfl, rfl, rfl⟩
  · split
    · exact ⟨rfl, rfl, rfl⟩
    · split <;> exact ⟨rfl, rfl, rfl⟩

theorem leave_cola (nombre : ν) :
    (g.leave nombre).cola = g.cola ∧ (g.leave nombre).memSize = g.memSize := by
  unfold leave
  split <;> exact ⟨rfl, rfl⟩

/-- The name is taken off the only slot that has it. -/
theorem leave_eq {nombre : ν} (hk : g.clientNames k = some nombre)
    (hsolo : ∀ j, g.clientNames j = some nombre → j = k) :
    g.leave nombre = { g with
      clientNames := Function.update g.clientNames k none
      cantClientes := g.cantClientes - 1 }.signalize := by
  unfold leave
  split
  · rename_i i hi
    have hnombre : g.clientNames i = some nombre := by simpa using List.find?_some hi
    rw [hsolo i hnombre]
  · rename_i hno
    have hk' := List.find?_eq_none.mp hno k (List.mem_finRange k)
    rw [hk] at hk'
    simp at hk'

theorem leave_mutex (nombre : ν) : (g.leave nombre).mutexAsignado = g.mutexAsignado + 1 := by
  unfold leave
  split <;> rfl

theorem SinBrokers.leave (h : g.SinBrokers esBroker) (nombre : ν) :
    (g.leave nombre).SinBrokers esBroker := by
  intro k
  unfold Grupo.leave
  split
  · rename_i i _
    change ((Function.update g.clientNames i none) k).any esBroker = false
    by_cases hk : k = i
    · rw [hk, Function.update_self, Option.any_none]
    · rw [Function.update_of_ne hk, h k]
  · exact h k

end Grupo
