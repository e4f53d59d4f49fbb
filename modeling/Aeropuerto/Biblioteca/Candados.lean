import Aeropuerto.Biblioteca.Ejecucion

/-!
# Locks with an owner

`dueno` names the process that holds each lock.  `Poseen dueno tiene` ties it to the program
counters, which say by themselves which locks a process holds; from there the usual argument on the
order of acquisition excludes every cycle of waiting processes.
-/

namespace Candados

variable {L P : Type*} [DecidableEq L] {dueno : L → Option P} {tiene tiene' : P → L → Bool}
  {l m : L} {p q : P}

/-- `none` while another process holds the lock. -/
def tomar (dueno : L → Option P) (l : L) (p : P) : Option (L → Option P) :=
  match dueno l with
  | none => some (Function.update dueno l (some p))
  | some _ => none

def soltar (dueno : L → Option P) (l : L) : L → Option P :=
  Function.update dueno l none

/-- The owner of a lock is the process whose program counter holds it. -/
def Poseen (dueno : L → Option P) (tiene : P → L → Bool) : Prop :=
  ∀ l p, dueno l = some p ↔ tiene p l = true

omit [DecidableEq L] in
theorem Poseen.exclusivo (h : Poseen dueno tiene) (hp : tiene p l = true) (hq : tiene q l = true) :
    p = q :=
  Option.some.inj (((h l p).mpr hp).symm.trans ((h l q).mpr hq))

theorem tomar_eq_some {dueno' : L → Option P} (h : tomar dueno l p = some dueno') :
    dueno l = none ∧ dueno' = Function.update dueno l (some p) := by
  unfold tomar at h
  split at h
  · exact ⟨‹_›, (Option.some.inj h).symm⟩
  · cases h

/-- `p` moves to a point where it holds `l` too; nobody else moves. -/
theorem Poseen.tomar (h : Poseen dueno tiene) {dueno' : L → Option P}
    (ht : tomar dueno l p = some dueno') (hp : ∀ m, tiene' p m = (tiene p m || decide (m = l)))
    (hq : ∀ q, q ≠ p → tiene' q = tiene q) : Poseen dueno' tiene' := by
  obtain ⟨hlibre, rfl⟩ := tomar_eq_some ht
  intro m q
  have hm := h m q
  by_cases hqp : q = p
  · subst hqp
    rw [hp m]
    by_cases hml : m = l
    · simp [hml]
    · rw [Function.update_of_ne hml, hm]
      simp [hml]
  · rw [hq q hqp]
    by_cases hml : m = l
    · subst hml
      rw [Function.update_self, ← hm, hlibre]
      simp [Ne.symm hqp]
    · rw [Function.update_of_ne hml, hm]

/-- The owner `p` of `l` moves to a point where it no longer holds it. -/
theorem Poseen.soltar (h : Poseen dueno tiene) (hl : tiene p l = true)
    (hp : ∀ m, tiene' p m = (tiene p m && decide (m ≠ l)))
    (hq : ∀ q, q ≠ p → tiene' q = tiene q) : Poseen (soltar dueno l) tiene' := by
  intro m q
  have hm := h m q
  unfold Candados.soltar
  by_cases hqp : q = p
  · subst hqp
    rw [hp m]
    by_cases hml : m = l
    · simp [hml]
    · rw [Function.update_of_ne hml, hm]
      simp [hml]
  · rw [hq q hqp]
    by_cases hml : m = l
    · subst hml
      rw [Function.update_self]
      have hno : ¬ tiene q m = true := fun hqm => hqp (h.exclusivo hqm hl)
      simp [hno]
    · rw [Function.update_of_ne hml, hm]

omit [DecidableEq L] in
/-- A move that neither takes nor gives up a lock. -/
theorem Poseen.congr (h : Poseen dueno tiene) (heq : tiene' = tiene) : Poseen dueno tiene' :=
  heq ▸ h

/-- `p` waits for a lock that `q` holds. -/
def Aguarda (dueno : L → Option P) (pide : P → Option L) (p q : P) : Prop :=
  ∃ l, pide p = some l ∧ dueno l = some q

/-- Every process asks for a lock above all those it holds. -/
def EnOrden (rango : L → Nat) (tiene : P → L → Bool) (pide : P → Option L) : Prop :=
  ∀ p l m, pide p = some l → tiene p m = true → rango m < rango l

omit [DecidableEq L] in
theorem rango_lt {rango : L → Nat} {pide : P → Option L} (h : Poseen dueno tiene)
    (ho : EnOrden rango tiene pide) (hpq : Relation.TransGen (Aguarda dueno pide) p q) :
    ∀ m, pide q = some m → ∃ l, pide p = some l ∧ rango l < rango m := by
  induction hpq with
  | single hpq =>
    intro m hm
    obtain ⟨l, hl, hd⟩ := hpq
    exact ⟨l, hl, ho _ _ _ hm ((h _ _).mp hd)⟩
  | tail _ hqr ih =>
    intro m hm
    obtain ⟨l', hl', hd⟩ := hqr
    obtain ⟨l, hl, hlt⟩ := ih l' hl'
    exact ⟨l, hl, lt_trans hlt (ho _ _ _ hm ((h _ _).mp hd))⟩

omit [DecidableEq L] in
/-- Locks taken in order admit no cycle of waiting processes, of whatever length. -/
theorem sin_abrazo_mortal {rango : L → Nat} {pide : P → Option L} (h : Poseen dueno tiene)
    (ho : EnOrden rango tiene pide) (p : P) : ¬ Relation.TransGen (Aguarda dueno pide) p p := by
  intro hciclo
  -- whoever is on a cycle waits for something
  obtain ⟨-, ⟨m, hm, -⟩, -⟩ := Relation.TransGen.head'_iff.mp hciclo
  obtain ⟨l, hl, hlt⟩ := rango_lt h ho hciclo m hm
  rw [hm] at hl
  cases hl
  exact lt_irrefl _ hlt

/-! ## A semaphore as a mutex -/

/-- At most one process is inside the section, and the semaphore is down while one is. -/
structure Excluye (mutex : Nat) (dentro : P → Prop) : Prop where
  le_uno : mutex ≤ 1
  tomado : ∀ p, dentro p → mutex = 0
  unico : ∀ p q, dentro p → dentro q → p = q

variable {mutex : Nat} {dentro dentro' : P → Prop}

theorem Excluye.congr (h : Excluye mutex dentro) (hsub : ∀ q, dentro' q → dentro q) :
    Excluye mutex dentro' :=
  ⟨h.le_uno, fun q hq => h.tomado q (hsub q hq), fun q r hq hr => h.unico q r (hsub q hq) (hsub r hr)⟩

/-- `p` takes the semaphore, which is free, and enters. -/
theorem Excluye.entrar (h : Excluye mutex dentro) (hlibre : 0 < mutex)
    (hsub : ∀ q, dentro' q → dentro q ∨ q = p) : Excluye (mutex - 1) dentro' := by
  have hsolo : ∀ q, dentro' q → q = p := fun q hq =>
    (hsub q hq).resolve_left fun hd => hlibre.ne' (h.tomado q hd)
  have huno := h.le_uno
  exact ⟨by omega, fun _ _ => by omega, fun q r hq hr => (hsolo q hq).trans (hsolo r hr).symm⟩

/-- `p` leaves and signals. -/
theorem Excluye.salir (h : Excluye mutex dentro) (hp : dentro p)
    (hsub : ∀ q, dentro' q → dentro q ∧ q ≠ p) : Excluye (mutex + 1) dentro' := by
  have hnadie : ∀ q, ¬ dentro' q := fun q hq => (hsub q hq).2 (h.unico q p (hsub q hq).1 hp)
  have hcero := h.tomado p hp
  exact ⟨by omega, fun q hq => absurd hq (hnadie q), fun q _ hq => absurd hq (hnadie q)⟩

end Candados
