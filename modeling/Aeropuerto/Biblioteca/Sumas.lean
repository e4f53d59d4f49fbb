import Aeropuerto.Biblioteca.Ejecucion

/-!
# Counting over a finite family of processes

The conservation laws count tokens over the processes.  A step changes the share of one process, so
each law is an instance of `suma_update`; where the total is at most one, `suma_le_uno` says that two
shares cannot be positive at once.
-/

namespace Sumas

variable {ι β : Type*} [DecidableEq ι] {s : Finset ι} {i j : ι}

/-- Replacing the value at `i` changes the sum by the difference of the two shares. -/
theorem suma_update {γ : Type*} [AddCommMonoid γ] (g : ι → β → γ) (f : ι → β) (hi : i ∈ s) (v : β) :
    (∑ x ∈ s, g x (Function.update f i v x)) + g i (f i) = (∑ x ∈ s, g x (f x)) + g i v := by
  rw [← Finset.add_sum_erase s (fun x => g x (f x)) hi,
    ← Finset.add_sum_erase s (fun x => g x (Function.update f i v x)) hi]
  have hresto : ∑ x ∈ s.erase i, g x (Function.update f i v x) = ∑ x ∈ s.erase i, g x (f x) := by
    apply Finset.sum_congr rfl
    intro x hx
    rw [Function.update_of_ne (Finset.ne_of_mem_erase hx)]
  rw [hresto, Function.update_self]
  ac_rfl

/-- The same for a family over pairs, of which the sum takes one row. -/
theorem suma_update_par {κ : Type*} [DecidableEq κ] (g : β → ℕ) (f : ι × κ → β) (hi : i ∈ s)
    (k h : κ) (v : β) :
    (∑ x ∈ s, g (Function.update f (i, k) v (x, h))) + (if h = k then g (f (i, k)) else 0) =
      (∑ x ∈ s, g (f (x, h))) + if h = k then g v else 0 := by
  by_cases hh : h = k
  · subst hh
    have hfila : ∀ x, Function.update f (i, h) v (x, h) =
        Function.update (fun x => f (x, h)) i v x := by
      intro x
      by_cases hx : x = i
      · rw [hx, Function.update_self, Function.update_self]
      · rw [Function.update_of_ne hx, Function.update_of_ne fun he => hx (Prod.mk.inj he).1]
    rw [if_pos rfl, if_pos rfl, ← suma_update (fun _ => g) (fun x => f (x, h)) hi v]
    exact congrArg (· + g (f (i, h))) (Finset.sum_congr rfl fun x _ => by rw [hfila])
  · rw [if_neg hh, if_neg hh]
    refine congrArg (· + 0) (Finset.sum_congr rfl fun x _ => ?_)
    rw [Function.update_of_ne fun he => hh (Prod.mk.inj he).2]

theorem suma_dos (f : ι → ℕ) (hi : i ∈ s) (hj : j ∈ s) (hij : i ≠ j) :
    f i + f j ≤ ∑ x ∈ s, f x := by
  rw [← Finset.add_sum_erase s f hi]
  have := Finset.single_le_sum (f := f) (fun _ _ => Nat.zero_le _)
    (Finset.mem_erase.mpr ⟨hij.symm, hj⟩)
  omega

theorem suma_le_uno {f : ι → ℕ} (h : ∑ x ∈ s, f x ≤ 1) (hi : i ∈ s) (hj : j ∈ s)
    (hfi : 0 < f i) (hfj : 0 < f j) : i = j := by
  by_contra hij
  have := suma_dos f hi hj hij
  omega

/-- The same for a family that is a list. -/
theorem suma_set (f : β → ℕ) (v : β) : ∀ {xs : List β} {k : ℕ} {x : β}, xs[k]? = some x →
    ((xs.set k v).map f).sum + f x = (xs.map f).sum + f v
  | [], _, _, h => by cases h
  | y :: ys, 0, x, h => by
    cases h
    simp only [List.set_cons_zero, List.map_cons, List.sum_cons]
    omega
  | y :: ys, k + 1, x, h => by
    have hresto := suma_set f v (show ys[k]? = some x from h)
    simp only [List.set_cons_succ, List.map_cons, List.sum_cons]
    omega

end Sumas
