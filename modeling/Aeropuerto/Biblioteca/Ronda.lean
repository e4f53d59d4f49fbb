import Aeropuerto.Biblioteca.Sumas

/-!
# Nodes around a ring

Node `k` receives from a first-in first-out link and sends to the link of node `k + 1`.  What is kept of
the nodes and of the messages is a condition on all of them or a total over all of them.
-/

structure Ronda (n : Nat) (α μ : Type*) where
  nodo : Fin n → α
  -- what is on its way to the node
  enlace : Fin n → List μ

namespace Ronda

variable {n : Nat} {α μ : Type*} {s t : Ronda n α μ} {k : Fin n} {m : μ}

def pon (s : Ronda n α μ) (k : Fin n) (a : α) : Ronda n α μ :=
  { s with nodo := Function.update s.nodo k a }

/-- The first message on the link of node `k`. -/
def toma (s : Ronda n α μ) (k : Fin n) : Option (μ × Ronda n α μ) :=
  match s.enlace k with
  | m :: resto => some (m, { s with enlace := Function.update s.enlace k resto })
  | [] => none

def envia [NeZero n] (s : Ronda n α μ) (k : Fin n) (l : List μ) : Ronda n α μ :=
  { s with enlace := Function.update s.enlace (k + 1) (s.enlace (k + 1) ++ l) }

theorem toma_eq_some (h : s.toma k = some (m, t)) :
    ∃ resto, s.enlace k = m :: resto ∧ t = { s with enlace := Function.update s.enlace k resto } := by
  unfold toma at h
  split at h
  · rename_i m' resto hcola
    cases h
    exact ⟨resto, hcola, rfl⟩
  · cases h

@[simp] theorem nodo_envia [NeZero n] (l : List μ) : (s.envia k l).nodo = s.nodo := rfl

@[simp] theorem nodo_pon_self (a : α) : (s.pon k a).nodo k = a := Function.update_self ..

theorem nodo_pon_of_ne {j : Fin n} (h : j ≠ k) (a : α) : (s.pon k a).nodo j = s.nodo j :=
  Function.update_of_ne h ..

theorem pon_self (s : Ronda n α μ) (k : Fin n) : s.pon k (s.nodo k) = s := by
  unfold pon
  rw [Function.update_eq_self]

/-- What a new node keeps of the old one, every node keeps. -/
theorem nodo_pon_congr {β : Type*} (f : α → β) {a : α} (h : f a = f (s.nodo k)) (j : Fin n) :
    f ((s.pon k a).nodo j) = f (s.nodo j) := by
  by_cases hj : j = k
  · rw [hj, nodo_pon_self, h]
  · rw [nodo_pon_of_ne hj]

theorem nodo_toma (h : s.toma k = some (m, t)) : t.nodo = s.nodo := by
  obtain ⟨resto, -, rfl⟩ := toma_eq_some h
  rfl

theorem mem_envia [NeZero n] {l : List μ} {j : Fin n} (h : m ∈ (s.envia k l).enlace j) :
    m ∈ s.enlace j ∨ j = k + 1 ∧ m ∈ l := by
  change m ∈ Function.update s.enlace (k + 1) _ j at h
  by_cases hj : j = k + 1
  · rw [hj, Function.update_self, List.mem_append] at h
    exact h.imp (fun h => hj ▸ h) fun h => ⟨hj, h⟩
  · rw [Function.update_of_ne hj] at h
    exact .inl h

theorem mem_toma {m' : μ} {j : Fin n} (h : s.toma k = some (m, t)) (hm : m' ∈ t.enlace j) :
    m' ∈ s.enlace j := by
  obtain ⟨resto, hcola, rfl⟩ := toma_eq_some h
  change m' ∈ Function.update s.enlace k resto j at hm
  by_cases hj : j = k
  · rw [hj, Function.update_self] at hm
    rw [hj, hcola]
    exact List.mem_cons_of_mem m hm
  · rw [Function.update_of_ne hj] at hm
    exact hm

/-! ## Conditions on every node and every message -/

variable {P : α → Prop} {Q : μ → Prop}

structure Todos (P : α → Prop) (Q : μ → Prop) (s : Ronda n α μ) : Prop where
  nodo : ∀ k, P (s.nodo k)
  enlace : ∀ k, ∀ m ∈ s.enlace k, Q m

theorem Todos.pon (h : Todos P Q s) {a : α} (ha : P a) (k : Fin n) : Todos P Q (s.pon k a) where
  nodo j := by
    by_cases hj : j = k
    · rw [hj, nodo_pon_self]
      exact ha
    · rw [nodo_pon_of_ne hj]
      exact h.nodo j
  enlace := h.enlace

theorem Todos.envia [NeZero n] (h : Todos P Q s) {l : List μ} (hl : ∀ m ∈ l, Q m) (k : Fin n) :
    Todos P Q (s.envia k l) where
  nodo := h.nodo
  enlace j m hm := (mem_envia hm).elim (h.enlace j m) fun hm => hl m hm.2

theorem Todos.toma (h : Todos P Q s) (ht : s.toma k = some (m, t)) : Q m ∧ Todos P Q t := by
  obtain ⟨resto, hcola, rfl⟩ := toma_eq_some ht
  exact ⟨h.enlace k m (by rw [hcola]; exact List.mem_cons_self),
    ⟨h.nodo, fun j m' hm' => h.enlace j m' (mem_toma ht hm')⟩⟩

/-! ## Totals -/

variable {f : α → Nat} {g : μ → Nat}

def total (f : α → Nat) (g : μ → Nat) (s : Ronda n α μ) : Nat :=
  ∑ k, f (s.nodo k) + ∑ k, ((s.enlace k).map g).sum

theorem total_pon (s : Ronda n α μ) (k : Fin n) (a : α) :
    (s.pon k a).total f g + f (s.nodo k) = s.total f g + f a := by
  have hsuma := Sumas.suma_update (fun _ => f) s.nodo (Finset.mem_univ k) a
  unfold total pon
  dsimp only
  omega

theorem total_envia [NeZero n] (s : Ronda n α μ) (k : Fin n) (l : List μ) :
    (s.envia k l).total f g = s.total f g + (l.map g).sum := by
  have hsuma := Sumas.suma_update (fun _ (l : List μ) => (l.map g).sum) s.enlace
    (Finset.mem_univ (k + 1)) (s.enlace (k + 1) ++ l)
  rw [List.map_append, List.sum_append] at hsuma
  unfold total envia
  dsimp only
  omega

theorem total_toma (h : s.toma k = some (m, t)) : t.total f g + g m = s.total f g := by
  obtain ⟨resto, hcola, rfl⟩ := toma_eq_some h
  have hsuma := Sumas.suma_update (fun _ (l : List μ) => (l.map g).sum) s.enlace (Finset.mem_univ k) resto
  rw [hcola, List.map_cons, List.sum_cons] at hsuma
  unfold total
  dsimp only
  omega

/-! ## Distances -/

section Distancia

variable [NeZero n] {g j : Fin n}

/-- How many links there are from node `g` to node `k`. -/
def desde (g k : Fin n) : Nat := (k - g).val

@[simp] theorem desde_self (g : Fin n) : desde g g = 0 := by
  unfold desde
  rw [sub_self]
  exact Fin.val_zero n

omit [NeZero n] in
theorem desde_lt (g k : Fin n) : desde g k < n := (k - g).isLt

theorem desde_inj (h : desde g j = desde g k) : j = k := sub_left_inj.mp (Fin.ext h)

theorem desde_eq_zero (h : desde g k = 0) : k = g := desde_inj (h.trans (desde_self g).symm)

theorem val_succ (a : Fin n) : a + 1 = 0 ∧ a.val + 1 = n ∨ a + 1 ≠ 0 ∧ (a + 1).val = a.val + 1 := by
  cases n with
  | zero => exact a.elim0
  | succ n =>
    by_cases ha : a = Fin.last n
    · exact .inl ⟨by rw [ha]; exact Fin.last_add_one n, by rw [ha, Fin.val_last]⟩
    · have hval : (a + 1).val = a.val + 1 := by rw [Fin.val_add_one, if_neg ha]
      refine .inr ⟨fun h0 => ?_, hval⟩
      rw [h0, Fin.val_zero] at hval
      cases hval

/-- The next node is one link further. -/
theorem desde_succ (h : k + 1 ≠ g) : desde g (k + 1) = desde g k + 1 := by
  unfold desde
  rcases val_succ (k - g) with ⟨hcero, -⟩ | ⟨-, hval⟩
  · rw [← add_sub_right_comm, sub_eq_zero] at hcero
    exact absurd hcero h
  · rw [add_sub_right_comm, hval]

/-- The node before `g` is the last one. -/
theorem desde_le (h : k + 1 = g) (j : Fin n) : desde g j ≤ desde g k := by
  have hlt := desde_lt g j
  unfold desde at hlt ⊢
  rcases val_succ (k - g) with ⟨-, hval⟩ | ⟨hno, -⟩
  · omega
  · rw [← add_sub_right_comm, h, sub_self] at hno
    exact absurd rfl hno

/-- A walk with a stop on the way. -/
theorem desde_add {b i : Fin n} (h : desde b i ≤ desde b k) : desde b i + desde i k = desde b k := by
  unfold desde at h ⊢
  have hresta : k - i = (k - b) - (i - b) := (sub_sub_sub_cancel_right k i b).symm
  rw [hresta, Fin.sub_val_of_le h]
  omega

/-- To come to `j` from a node beyond it one passes `b`. -/
theorem desde_vuelta {b c : Fin n} (h : desde b j < desde b c) : desde c b ≤ desde c j := by
  unfold desde at h ⊢
  have hj : j - c = (j - b) - (c - b) := (sub_sub_sub_cancel_right j c b).symm
  have hb : b - c = 0 - (c - b) := by rw [zero_sub, neg_sub]
  have hcero : (0 : Fin n) < c - b := by
    rw [Fin.lt_def, Fin.val_zero]
    omega
  rw [hj, hb, Fin.coe_sub_iff_lt.mpr hcero, Fin.coe_sub_iff_lt.mpr h, Fin.val_zero]
  omega

end Distancia

end Ronda
