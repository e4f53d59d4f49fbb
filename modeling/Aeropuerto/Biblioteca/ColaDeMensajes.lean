import Mathlib.Data.List.Basic
import Mathlib.Tactic.Common

/-!
# System V message queues

A message has a positive type and a text.  `msgrcv` takes the first message, the first one of a type or
the first one of the lowest type up to a bound; it leaves a text that does not fit.  The queue has no
limit of bytes.
-/

namespace ColaDeMensajes

variable {α β : Type*}

structure Mensaje (β : Type*) where
  tipo : Int
  texto : List β
  deriving DecidableEq

abbrev Cola (β : Type*) := List (Mensaje β)

/-- What the calls answer besides a success: `EINVAL`, `E2BIG`, or no answer yet. -/
inductive Falla where
  | einval
  | e2big
  | espera
  deriving DecidableEq, Repr

/-- Takes out the first one. -/
def extraer (p : α → Bool) : List α → Option (α × List α)
  | [] => none
  | x :: xs => if p x then some (x, xs) else (extraer p xs).map fun (y, ys) => (y, x :: ys)

/-- The messages that `msgtyp` accepts. -/
def criterio (q : Cola β) (msgtyp : Int) (m : Mensaje β) : Bool :=
  if msgtyp = 0 then true
  else if 0 < msgtyp then m.tipo = msgtyp
  else m.tipo ≤ -msgtyp ∧ ∀ m' ∈ q, m'.tipo ≤ -msgtyp → m.tipo ≤ m'.tipo

def msgsnd (q : Cola β) (tipo : Int) (texto : List β) : Except Falla (Cola β) :=
  if tipo < 1 then .error .einval else .ok (q ++ [⟨tipo, texto⟩])

def msgrcv (q : Cola β) (msgsz : Nat) (msgtyp : Int) : Except Falla (Mensaje β × Cola β) :=
  match extraer (criterio q msgtyp) q with
  | none => .error .espera
  | some (m, q') => if msgsz < m.texto.length then .error .e2big else .ok (m, q')

theorem msgrcv_length {q q' : Cola β} {m : Mensaje β} {msgsz : Nat} {msgtyp : Int}
    (h : msgrcv q msgsz msgtyp = .ok (m, q')) : m.texto.length ≤ msgsz := by
  unfold msgrcv at h
  split at h
  · cases h
  · split at h
    · cases h
    · cases h
      omega

/-- On a queue with one message that is accepted. -/
theorem msgrcv_singleton {m : Mensaje β} {msgsz : Nat} {msgtyp : Int}
    (h : criterio [m] msgtyp m = true) :
    msgrcv [m] msgsz msgtyp = if msgsz < m.texto.length then .error .e2big else .ok (m, []) := by
  unfold msgrcv extraer
  rw [if_pos h]

theorem msgsnd_length {q q' : Cola β} {tipo : Int} {texto : List β} (h : msgsnd q tipo texto = .ok q') :
    q'.length = q.length + 1 := by
  rw [msgsnd] at h
  split at h <;> cases h
  exact List.length_append

theorem extraer_perm {p : α → Bool} {x : α} : ∀ {xs ys : List α}, extraer p xs = some (x, ys) →
    p x = true ∧ xs.Perm (x :: ys)
  | [], _, h => by cases h
  | a :: xs, ys, h => by
    rw [extraer] at h
    split at h
    case isTrue hp =>
      cases h
      exact ⟨hp, List.Perm.refl _⟩
    case isFalse =>
      obtain ⟨⟨y, zs⟩, hresto, heq⟩ := Option.map_eq_some_iff.mp h
      cases heq
      obtain ⟨hp, hperm⟩ := extraer_perm hresto
      exact ⟨hp, (hperm.cons a).trans (List.Perm.swap _ _ _)⟩

theorem extraer_ne_none {p : α → Bool} : ∀ {xs : List α}, (∃ x ∈ xs, p x = true) → extraer p xs ≠ none
  | [], h => by
    obtain ⟨x, hx, -⟩ := h
    cases hx
  | a :: xs, h => by
    rw [extraer]
    split
    · exact Option.some_ne_none _
    case isFalse ha =>
      obtain ⟨x, hx, hp⟩ := h
      rcases List.mem_cons.mp hx with rfl | hx
      · exact absurd hp ha
      · rw [Ne, Option.map_eq_none_iff]
        exact extraer_ne_none ⟨x, hx, hp⟩

theorem criterio_tipo {q : Cola β} {t : Int} {m : Mensaje β} (ht : 0 < t) :
    criterio q t m = true ↔ m.tipo = t := by
  rw [criterio, if_neg (by omega), if_pos ht, decide_eq_true_iff]

theorem msgrcv_length_succ {q q' : Cola β} {m : Mensaje β} {msgsz : Nat} {t : Int}
    (h : msgrcv q msgsz t = .ok (m, q')) : q.length = q'.length + 1 := by
  rw [msgrcv] at h
  split at h
  · cases h
  · split at h
    · cases h
    · rename_i hextraer _
      cases h
      exact (extraer_perm hextraer).2.length_eq

/-- What a receiver of one type takes. -/
theorem msgrcv_tipo {q q' : Cola β} {m : Mensaje β} {msgsz : Nat} {t : Int} (ht : 0 < t)
    (h : msgrcv q msgsz t = .ok (m, q')) : m.tipo = t ∧ q.Perm (m :: q') := by
  rw [msgrcv] at h
  split at h
  · cases h
  · split at h
    · cases h
    · rename_i hextraer _
      cases h
      obtain ⟨hcriterio, hperm⟩ := extraer_perm hextraer
      exact ⟨(criterio_tipo ht).mp hcriterio, hperm⟩

/-- It does not wait when there is a message of its type. -/
theorem msgrcv_listo {q : Cola β} {msgsz : Nat} {t : Int} (ht : 0 < t) (h : ∃ m ∈ q, m.tipo = t)
    (hcabe : ∀ m ∈ q, m.texto.length ≤ msgsz) : ∃ r, msgrcv q msgsz t = .ok r := by
  have hay : extraer (criterio q t) q ≠ none := by
    obtain ⟨m, hm, htipo⟩ := h
    exact extraer_ne_none ⟨m, hm, (criterio_tipo ht).mpr htipo⟩
  rw [msgrcv]
  split
  case h_1 hnada => exact absurd hnada hay
  case h_2 m q' hextraer =>
    have hm := hcabe m ((extraer_perm hextraer).2.symm.subset List.mem_cons_self)
    rw [if_neg (by omega)]
    exact ⟨_, rfl⟩

end ColaDeMensajes
