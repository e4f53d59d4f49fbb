import Aeropuerto.Clientes.SemaphoreSetDistribuidoSegura

/-!
# The distributed mutex (`clientes/mutex_distribuido.cpp`)

A mutex is a group of the broker, and its `LocalBrokerComm` forks (`loop_mutex`) into the same two
processes as the one of a semaphore, with the same `ClientHandler` at the other end, so the system is
that of the distributed semaphores and only the calls differ: `lock` leaves the slot of `ControlTokens`
as it is when it returns, and `unlock` clears it.  There are as many calls of `lock` that have returned
as `vueltas`, and of `unlock` as `senales`.
-/

namespace MutexDistribuido

open Ejecucion SemaphoreSetDistribuido

variable {ι ν : Type} {M : Nat}

/-- `tomados a g` counts the calls of `lock` of group `g` that have returned to application `a` less
    its calls of `unlock`. -/
structure Estado (ι : Type) (M : Nat) (ν : Type) where
  red : SemaphoreSetDistribuido.Estado ι M ν
  tomados : ι × Nat → Int

inductive Evento (ι : Type) where
  -- the token manager, a client handler or a LocalBrokerComm
  | proceso (e : SemaphoreSetDistribuido.Evento ι)
  | lock (a : ι) (g : Nat)
  -- the end of lock, in wait_on(0)
  | tomar (a : ι)
  | unlock (a : ι) (g : Nat)
  -- the end of unlock, in signalize(1)
  | devolver (a : ι)

/-- The steps that are not calls of an application. -/
def deProceso : SemaphoreSetDistribuido.Evento ι → Bool
  | .waitOn _ _ | .tomar _ | .limpiar _ | .signalize _ _ | .senalar _ => false
  | _ => true

section Paso

variable [DecidableEq ι] [DecidableEq ν] [NeZero M]

def inicial : Estado ι M ν := ⟨SemaphoreSetDistribuido.inicial, fun _ => 0⟩

/-- `lock` returns with the token: the slot still names the group. -/
def Estado.tomar (s : Estado ι M ν) (a : ι) (g : Nat) : Estado ι M ν :=
  let c := s.red.conexion (a, g)
  { red := { (s.red.setConexion a g { c with entrega := c.entrega - 1 }).setApp a
               { s.red.app a with pc := .reposo } with
             vueltas := Function.update s.red.vueltas g (s.red.vueltas g + 1) }
    tomados := Function.update s.tomados (a, g) (s.tomados (a, g) + 1) }

def paso (P : Clientes ι ν) (s : Estado ι M ν) : Evento ι → Option (Estado ι M ν)
  | .proceso e =>
    if deProceso e then (SemaphoreSetDistribuido.paso P s.red e).map fun red => { s with red := red }
    else none
  | .lock a g =>
    -- cargar_esperando_token
    (SemaphoreSetDistribuido.paso P s.red (.waitOn a g)).map fun red => { s with red := red }
  | .tomar a =>
    match (s.red.app a).pc with
    | .esperando g => if 0 < (s.red.conexion (a, g)).entrega then some (s.tomar a g) else none
    | _ => none
  | .unlock a g =>
    -- limpiar_esperando_token
    (SemaphoreSetDistribuido.paso P s.red (.signalize a g)).map fun red =>
      { red := red, tomados := Function.update s.tomados (a, g) (s.tomados (a, g) - 1) }
  | .devolver a =>
    (SemaphoreSetDistribuido.paso P s.red (.senalar a)).map fun red => { s with red := red }

/-- An application unlocks what it has locked. -/
def Disciplina (s : Estado ι M ν) : Evento ι → Prop
  | .unlock a g => 0 < s.tomados (a, g)
  | _ => True

instance (s : Estado ι M ν) (e : Evento ι) : Decidable (Disciplina s e) := by
  cases e <;> unfold Disciplina <;> infer_instance

end Paso

variable [Fintype ι]

/-- A mutex: one token, in the system or in the hands of the application that is between its `lock` and
    its `unlock`.  While it is at an application, that one is waiting for it. -/
structure Exclusion (P : Clientes ι ν) (s : Estado ι M ν) (g : Nat) : Prop where
  tomados : ∀ a, 0 ≤ s.tomados (a, g)
  cuenta : s.red.broker.creado g = true →
    (s.red.fichas P g : Int) + ∑ a, s.tomados (a, g) = P.valorInicial g
  sinCrear : s.red.broker.creado g = false → s.red.fichas P g = 0 ∧ ∀ a, s.tomados (a, g) = 0
  uno : ∀ a b, 0 < s.tomados (a, g) → 0 < s.tomados (b, g) → a = b
  nadieMas : ∀ a, 0 < s.tomados (a, g) → s.red.fichas P g = 0
  entrega : ∀ a, 0 < (s.red.conexion (a, g)).entrega → (s.red.app a).pc = .esperando g

end MutexDistribuido
