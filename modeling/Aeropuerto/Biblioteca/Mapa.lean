import Mathlib.Data.List.Pairwise
import Mathlib.Order.Lattice
import Mathlib.Tactic.Common

/-!
# Maps that are walked in the order of their keys

The entries of a `std::map`: no key twice, and the iterator gives them in increasing order.
-/

structure Mapa (κ β : Type*) [LT κ] where
  entradas : List (κ × β)
  orden : entradas.Pairwise fun a b => a.1 < b.1

namespace Mapa

variable {κ β γ : Type*} [LinearOrder κ] {m : Mapa κ β} {k x : κ} {v : β}

def vacio : Mapa κ β := ⟨[], List.Pairwise.nil⟩

def buscar (m : Mapa κ β) (k : κ) : Option β :=
  (m.entradas.find? fun e => e.1 = k).map Prod.snd

/-- The entry of `k`, new or in the place of the old one. -/
def poner (m : Mapa κ β) (k : κ) (v : β) : Mapa κ β where
  entradas := (m.entradas.filter fun e => e.1 < k) ++ (k, v) :: m.entradas.filter fun e => k < e.1
  orden := by
    refine List.pairwise_append.mpr ⟨m.orden.filter _, List.pairwise_cons.mpr
      ⟨fun b hb => ?_, m.orden.filter _⟩, fun a ha b hb => ?_⟩
    · exact of_decide_eq_true (List.mem_filter.mp hb).2
    · have hak : a.1 < k := of_decide_eq_true (List.mem_filter.mp ha).2
      rcases List.mem_cons.mp hb with rfl | hb
      · exact hak
      · exact hak.trans (of_decide_eq_true (List.mem_filter.mp hb).2)

/-- The values in the order of their keys. -/
def valores (m : Mapa κ β) : List β := m.entradas.map Prod.snd

theorem mem_poner {e : κ × β} :
    e ∈ (m.poner k v).entradas ↔ e = (k, v) ∨ e ∈ m.entradas ∧ e.1 ≠ k := by
  unfold poner
  rw [List.mem_append, List.mem_cons, List.mem_filter, List.mem_filter, decide_eq_true_eq,
    decide_eq_true_eq, ne_iff_lt_or_gt]
  tauto

/-- The entries of one key. -/
theorem filter_entradas (m : Mapa κ β) (k : κ) :
    (m.entradas.filter fun e => e.1 = k) = (m.buscar k).toList.map fun v => (k, v) := by
  obtain ⟨l, orden⟩ := m
  unfold buscar
  dsimp only
  induction l with
  | nil => rfl
  | cons e l ih =>
    obtain ⟨hmenor, hl⟩ := List.pairwise_cons.mp orden
    by_cases he : e.1 = k
    · -- the other keys are greater
      have hresto : (l.filter fun e => e.1 = k) = [] := by
        refine List.filter_eq_nil_iff.mpr fun a ha hak => ?_
        exact (hmenor a ha).ne (he.trans (of_decide_eq_true hak).symm)
      rw [List.filter_cons_of_pos (by simpa using he), List.find?_cons_of_pos (by simpa using he),
        hresto, ← he]
      rfl
    · rw [List.filter_cons_of_neg (by simpa using he), List.find?_cons_of_neg (by simpa using he)]
      exact ih hl

theorem buscar_eq_some : m.buscar k = some v ↔ (k, v) ∈ m.entradas := by
  have hmem : (k, v) ∈ m.entradas ↔ (k, v) ∈ m.entradas.filter fun e => e.1 = k := by
    simp [List.mem_filter]
  rw [hmem, filter_entradas]
  cases m.buscar k with
  | none => simp
  | some w => simp [eq_comm]

@[simp] theorem buscar_vacio (k : κ) : (vacio : Mapa κ β).buscar k = none := rfl

@[simp] theorem buscar_poner_self : (m.poner k v).buscar k = some v :=
  buscar_eq_some.mpr (mem_poner.mpr (.inl rfl))

theorem buscar_poner_of_ne (h : x ≠ k) : (m.poner k v).buscar x = m.buscar x := by
  refine Option.ext fun w => ?_
  rw [buscar_eq_some, buscar_eq_some, mem_poner]
  constructor
  · rintro (he | ⟨he, -⟩)
    · exact absurd (congrArg Prod.fst he) h
    · exact he
  · exact fun he => .inr ⟨he, h⟩

/-- Where `f` gives something for key `k` only, the walk gives what the entry of `k` does. -/
theorem flatMap_entradas (m : Mapa κ β) (f : κ × β → List γ)
    (hf : ∀ e ∈ m.entradas, e.1 ≠ k → f e = []) :
    m.entradas.flatMap f = (m.buscar k).toList.flatMap fun v => f (k, v) := by
  have hfilter : m.entradas.flatMap f = (m.entradas.filter fun e => e.1 = k).flatMap f := by
    generalize m.entradas = l at hf
    induction l with
    | nil => rfl
    | cons e l ih =>
      rw [List.flatMap_cons, ih fun e he => hf e (List.mem_cons_of_mem _ he)]
      by_cases he : e.1 = k
      · rw [List.filter_cons_of_pos (by simpa using he), List.flatMap_cons]
      · rw [List.filter_cons_of_neg (by simpa using he), hf e List.mem_cons_self he, List.nil_append]
  rw [hfilter, filter_entradas, List.flatMap_map]

end Mapa
