import Mathlib.Algebra.Ring.Nat
import Mathlib.Data.List.Basic
import Mathlib.Tactic.Common

/-!
# Multimaps

A multimap is the list of its pairs in the order in which they were inserted; those of one key are
visited in that order.
-/

namespace Multimapa

variable {κ β : Type} [DecidableEq κ] {k k' : κ} {v : β} {m : List (κ × β)}

/-- The values of `equal_range`. -/
def rango (k : κ) (m : List (κ × β)) : List β := (m.filter fun p => p.1 = k).map Prod.snd

def erase (k : κ) (m : List (κ × β)) : List (κ × β) := m.filter fun p => p.1 ≠ k

@[simp] theorem rango_nil : rango k ([] : List (κ × β)) = [] := rfl

theorem mem_rango : v ∈ rango k m ↔ (k, v) ∈ m := by
  simp [rango]

theorem mem_erase {p : κ × β} : p ∈ erase k m ↔ p ∈ m ∧ p.1 ≠ k := by
  simp [erase]

theorem rango_erase_self (k : κ) (m : List (κ × β)) : rango k (erase k m) = [] := by
  rw [List.eq_nil_iff_forall_not_mem]
  intro v hv
  exact (mem_erase.mp (mem_rango.mp hv)).2 rfl

theorem rango_erase_ne (h : k' ≠ k) (m : List (κ × β)) : rango k' (erase k m) = rango k' m := by
  rw [rango, rango, erase, List.filter_filter]
  congr 2
  funext p
  by_cases hp : p.1 = k'
  · simp [hp, h]
  · simp [hp]

theorem length_rango_add_erase (k : κ) (m : List (κ × β)) :
    (rango k m).length + (erase k m).length = m.length := by
  rw [rango, erase, List.length_map]
  induction m with
  | nil => rfl
  | cons p m ih =>
    by_cases hp : p.1 = k <;> simp [hp] at ih ⊢ <;> omega

theorem sum_rango_add_erase (f : β → Nat) (k : κ) (m : List (κ × β)) :
    ((rango k m).map f).sum + (((erase k m).map Prod.snd).map f).sum = ((m.map Prod.snd).map f).sum := by
  rw [rango, erase]
  induction m with
  | nil => rfl
  | cons p m ih =>
    by_cases hp : p.1 = k <;> simp [hp] at ih ⊢ <;> omega

/-- Only an empty multimap has no value at any key. -/
theorem eq_nil_of_rango (h : ∀ p ∈ m, rango p.1 m = []) : m = [] := by
  rw [List.eq_nil_iff_forall_not_mem]
  intro p hp
  have hv : p.2 ∈ rango p.1 m := mem_rango.mpr hp
  rw [h p hp] at hv
  exact List.not_mem_nil hv

end Multimapa
