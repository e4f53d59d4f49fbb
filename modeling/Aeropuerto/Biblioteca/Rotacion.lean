import Mathlib.Algebra.Ring.Nat
import Mathlib.Data.List.FinRange
import Mathlib.Data.List.Nodup
import Mathlib.Data.Fin.Basic
import Mathlib.Tactic.Common

/-!
# A search around a table

The places of a table are gone through in a circle, from the one after the last place chosen, until an
occupied one is found.  Repeated as many times as there are occupied places, the search chooses each of
them once, whatever place it begins after.
-/

namespace Rotacion

variable {M : Nat} [NeZero M] {ocupado : Fin M → Bool} {actual i r s : Fin M} {n p q t u : Nat}

/-- `do { if (ocupado(i)) { actual = i; break; } i = i + 1; } while (actual != i)`: where the loop ends and
    after how many turns. -/
inductive Busca (ocupado : Fin M → Bool) (actual : Fin M) : Nat → Fin M → Fin M → Prop
  | halla {i : Fin M} (h : ocupado i = true) : Busca ocupado actual 1 i i
  | vuelve {i : Fin M} (h : ocupado i = false) (hi : i + 1 = actual) : Busca ocupado actual 1 i actual
  | sigue {n : Nat} {i r : Fin M} (h : ocupado i = false) (hi : i + 1 ≠ actual)
      (hr : Busca ocupado actual n (i + 1) r) : Busca ocupado actual (n + 1) i r

theorem Busca.unica (h : Busca ocupado actual n i r) (h' : Busca ocupado actual p i s) : r = s := by
  induction h generalizing p s with
  | halla h =>
    cases h' with
    | halla => rfl
    | vuelve h₂ | sigue h₂ => exact absurd (h.symm.trans h₂) (by decide)
  | vuelve h hi =>
    cases h' with
    | halla h₂ => exact absurd (h.symm.trans h₂) (by decide)
    | vuelve => rfl
    | sigue _ hi₂ => exact absurd hi hi₂
  | sigue h hi _ ih =>
    cases h' with
    | halla h₂ => exact absurd (h.symm.trans h₂) (by decide)
    | vuelve _ hi₂ => exact absurd hi₂ hi
    | sigue _ _ hr => exact ih hr

/-! ## Places counted from one of them -/

/-- The place `t` steps after `a`. -/
def avanzar (a : Fin M) (t : Nat) : Fin M := ⟨(a + t) % M, Nat.mod_lt _ (Nat.pos_of_neZero M)⟩

@[simp] theorem avanzar_zero (a : Fin M) : avanzar a 0 = a :=
  Fin.ext (Nat.mod_eq_of_lt a.isLt)

theorem avanzar_succ (a : Fin M) (t : Nat) : avanzar a (t + 1) = avanzar a t + 1 := by
  apply Fin.ext
  show (a + (t + 1)) % M = ((a + t) % M + 1 % M) % M
  rw [Nat.add_mod_mod, Nat.mod_add_mod, Nat.add_assoc]

theorem avanzar_vuelta (a : Fin M) (t : Nat) : avanzar a (t + M) = avanzar a t := by
  apply Fin.ext
  show (a + (t + M)) % M = (a + t) % M
  rw [← Nat.add_assoc, Nat.add_mod_right]

/-- Less than a whole turn ahead is another place. -/
theorem avanzar_ne {a : Fin M} (h : t < u) (hu : u < t + M) : avanzar a t ≠ avanzar a u := by
  intro heq
  have hmod : (a + u) % M = (a + t) % M := congrArg Fin.val heq.symm
  have hcero := Nat.sub_mod_eq_zero_of_mod_eq hmod
  rw [Nat.add_sub_add_left, Nat.mod_eq_of_lt (by omega)] at hcero
  omega

/-- Every place is less than a whole turn ahead. -/
theorem exists_avanzar (a i : Fin M) : ∃ t, t < M ∧ avanzar a (t + 1) = i := by
  refine ⟨(i + M - a - 1) % M, Nat.mod_lt _ (Nat.pos_of_neZero M), Fin.ext ?_⟩
  have ha := a.isLt
  have hi := i.isLt
  show (a + ((i + M - a - 1) % M + 1)) % M = i
  rw [← Nat.add_assoc, Nat.add_right_comm, Nat.add_mod_mod]
  have hsum : a.val + 1 + (i + M - a - 1) = i + M := by omega
  rw [hsum, Nat.add_mod_right, Nat.mod_eq_of_lt hi]

/-- The search ends at the first occupied place, in as many turns as there are steps to it. -/
theorem busca_avanzar (a : Fin M) (hq : q < t) (ht : t ≤ p) (hp : p ≤ q + M)
    (hlibres : ∀ u, t ≤ u → u < p → ocupado (avanzar a u) = false)
    (hocupado : ocupado (avanzar a p) = true) :
    ∃ n, n ≤ p - t + 1 ∧ Busca ocupado (avanzar a q) n (avanzar a t) (avanzar a p) := by
  obtain ⟨d, hd⟩ : ∃ d, p - t = d := ⟨_, rfl⟩
  induction d generalizing t with
  | zero =>
    obtain rfl : t = p := by omega
    exact ⟨1, by omega, .halla hocupado⟩
  | succ d ih =>
    have hlibre := hlibres t le_rfl (by omega)
    by_cases hvuelta : t + 1 = q + M
    · -- the loop has come back, and that place is the occupied one
      have hpq : avanzar a p = avanzar a q := by
        rw [show p = q + M by omega, avanzar_vuelta]
      have hsig : avanzar a t + 1 = avanzar a q := by
        rw [← avanzar_succ, hvuelta, avanzar_vuelta]
      rw [hpq]
      exact ⟨1, by omega, .vuelve hlibre hsig⟩
    · obtain ⟨n, hn, hbusca⟩ := ih (show q < t + 1 by omega) (by omega)
        (fun u hu => hlibres u (by omega)) (by omega)
      rw [avanzar_succ] at hbusca
      refine ⟨n + 1, by omega, .sigue hlibre ?_ hbusca⟩
      rw [← avanzar_succ]
      exact (avanzar_ne (by omega) (by omega)).symm

/-! ## A whole round -/

/-- All the places, from the one after `a` to `a`. -/
def vuelta (a : Fin M) : List (Fin M) := (List.range' 1 M).map (avanzar a)

theorem mem_vuelta (a i : Fin M) : i ∈ vuelta a := by
  obtain ⟨t, ht, rfl⟩ := exists_avanzar a i
  exact List.mem_map.2 ⟨t + 1, List.mem_range'_1.2 (by omega), rfl⟩

theorem nodup_vuelta (a : Fin M) : (vuelta a).Nodup := by
  refine List.Nodup.map_on (fun t ht u hu heq => ?_) List.nodup_range'
  rw [List.mem_range'_1] at ht hu
  rcases Nat.lt_trichotomy t u with h | h | h
  · exact absurd heq (avanzar_ne h (by omega))
  · exact h
  · exact absurd heq.symm (avanzar_ne h (by omega))

theorem vuelta_perm (a : Fin M) : (vuelta a).Perm (List.finRange M) :=
  (List.perm_ext_iff_of_nodup (nodup_vuelta a) (List.nodup_finRange M)).2 fun i =>
    iff_of_true (mem_vuelta a i) (List.mem_finRange i)

/-- The places chosen by `k` searches, each after the place the one before has chosen. -/
def recorrer (siguiente : Fin M → Fin M) : Nat → Fin M → List (Fin M)
  | 0, _ => []
  | k + 1, a => siguiente a :: recorrer siguiente k (siguiente a)

/-- By induction on the places that are left of the round: the last one chosen is `q` steps ahead and
    there is no other occupied one up to `p`. -/
theorem recorrer_desde {siguiente : Fin M → Fin M}
    (hsig : ∀ c n r, Busca ocupado c n (c + 1) r → siguiente c = r) (a : Fin M) (hq : q ≤ p)
    (hp : p + n = M) (hlibres : ∀ u, q < u → u ≤ p → ocupado (avanzar a u) = false) :
    recorrer siguiente (((List.range' (p + 1) n).map (avanzar a)).filter ocupado).length (avanzar a q) =
      ((List.range' (p + 1) n).map (avanzar a)).filter ocupado := by
  induction n generalizing p q with
  | zero => rfl
  | succ n ih =>
    rw [List.range'_succ, List.map_cons]
    cases hocupado : ocupado (avanzar a (p + 1)) with
    | true =>
      obtain ⟨m, -, hbusca⟩ := busca_avanzar a (show q < q + 1 by omega) (show q + 1 ≤ p + 1 by omega)
        (by omega) (fun u hu hu' => hlibres u (by omega) (by omega)) hocupado
      rw [avanzar_succ a q] at hbusca
      have hih := ih (le_refl (p + 1)) (by omega) fun u hu hu' => absurd hu (by omega)
      rw [List.filter_cons_of_pos hocupado, List.length_cons, recorrer, hsig _ _ _ hbusca, hih]
    | false =>
      rw [List.filter_cons_of_neg (by rw [hocupado]; exact Bool.false_ne_true)]
      refine ih (by omega) (by omega) fun u hu hu' => ?_
      by_cases hup : u = p + 1
      · rw [hup, hocupado]
      · exact hlibres u hu (by omega)

/-- As many searches as occupied places choose each of them once. -/
theorem recorrer_vuelta {siguiente : Fin M → Fin M}
    (hsig : ∀ c n r, Busca ocupado c n (c + 1) r → siguiente c = r) (a : Fin M) :
    recorrer siguiente ((vuelta a).filter ocupado).length a = (vuelta a).filter ocupado := by
  have hdesde := recorrer_desde hsig a (le_refl 0) (Nat.zero_add M) fun u hu hu' =>
    absurd hu (by omega)
  rwa [avanzar_zero] at hdesde

/-- With an occupied place the search ends at one, in at most `M` turns. -/
theorem exists_busca (h : ocupado i = true) (a : Fin M) :
    ∃ n r, n ≤ M ∧ ocupado r = true ∧ Busca ocupado a n (a + 1) r := by
  have hhay : ∃ t, t < M ∧ ocupado (avanzar a (t + 1)) = true := by
    obtain ⟨t, ht, rfl⟩ := exists_avanzar a i
    exact ⟨t, ht, h⟩
  obtain ⟨hlt, hocupado⟩ := Nat.find_spec hhay
  have hlibres : ∀ u, 0 + 1 ≤ u → u < Nat.find hhay + 1 → ocupado (avanzar a u) = false := by
    intro u hu hu'
    have hno := Nat.find_min hhay (show u - 1 < Nat.find hhay by omega)
    rw [Nat.sub_add_cancel hu] at hno
    simpa using fun h => hno ⟨by omega, h⟩
  obtain ⟨n, hn, hbusca⟩ := busca_avanzar a (show 0 < 0 + 1 by omega)
    (show 0 + 1 ≤ Nat.find hhay + 1 by omega) (by omega) hlibres hocupado
  rw [avanzar_zero, avanzar_succ, avanzar_zero] at hbusca
  exact ⟨n, _, by omega, hocupado, hbusca⟩

end Rotacion
