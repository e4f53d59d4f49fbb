import Mathlib

/-!
# Runs of a partial step function

A concurrent program is a function `paso : σ → ε → Option σ`: an event names the process that moves
and `none` says that it cannot move there (it is blocked, or not at that point of its code).  A run
is a list of events, so it is a value and can be evaluated.  Every safety result of the development
is one use of `Alcanza.induccion`, or of `AlcanzaBajo.induccion` where the property is that of the
runs whose steps all meet a condition.
-/

namespace Ejecucion

variable {σ ε : Type*} {paso : σ → ε → Option σ} {C : σ → ε → Prop} {s t u : σ}

/-- Perform the events in order; a disabled event ends the run with `none`. -/
def correr (paso : σ → ε → Option σ) : σ → List ε → Option σ
  | s, [] => some s
  | s, e :: es => (paso s e).bind fun t => correr paso t es

/-- Some run leads from `s` to `t`. -/
def Alcanza (paso : σ → ε → Option σ) (s t : σ) : Prop :=
  ∃ es, correr paso s es = some t

theorem correr_append (s : σ) (es fs : List ε) :
    correr paso s (es ++ fs) = (correr paso s es).bind fun t => correr paso t fs := by
  induction es generalizing s with
  | nil => rfl
  | cons e es ih =>
    simp only [List.cons_append, correr]
    cases paso s e with
    | none => rfl
    | some t => exact ih t

theorem Alcanza.refl (s : σ) : Alcanza paso s s := ⟨[], rfl⟩

theorem Alcanza.siguiente {e : ε} (h : Alcanza paso s t) (he : paso t e = some u) :
    Alcanza paso s u := by
  obtain ⟨es, hes⟩ := h
  refine ⟨es ++ [e], ?_⟩
  rw [correr_append, hes]
  simp [correr, he]

/-- An invariant of one step is an invariant of every run. -/
theorem Alcanza.induccion {I : σ → Prop} (h : Alcanza paso s t) (h0 : I s)
    (hpaso : ∀ a e b, I a → paso a e = some b → I b) : I t := by
  obtain ⟨es, hes⟩ := h
  induction es generalizing s with
  | nil => exact Option.some.inj hes ▸ h0
  | cons e es ih =>
    obtain ⟨b, hb, hbs⟩ := Option.bind_eq_some_iff.mp hes
    exact ih (hpaso s e b h0 hb) hbs

/-! ## Termination -/

/-- No process can move. -/
def Bloqueado (paso : σ → ε → Option σ) (s : σ) : Prop :=
  ∀ e, paso s e = none

variable {medida : σ → ℕ}

/-- Where every step lowers a measure, a run is no longer than what the measure lost. -/
theorem length_add_le (hm : ∀ a e b, paso a e = some b → medida b < medida a) {es : List ε}
    (h : correr paso s es = some t) : es.length + medida t ≤ medida s := by
  induction es generalizing s with
  | nil =>
    cases h
    exact Nat.le_of_eq (Nat.zero_add _)
  | cons e es ih =>
    obtain ⟨b, hb, hbs⟩ := Option.bind_eq_some_iff.mp h
    have hbaja := hm s e b hb
    have hresto := ih hbs
    rw [List.length_cons]
    omega

/-- There every state leads to one where no process can move. -/
theorem exists_bloqueado (hm : ∀ a e b, paso a e = some b → medida b < medida a) (s : σ) :
    ∃ t, Alcanza paso s t ∧ Bloqueado paso t := by
  induction hn : medida s using Nat.strong_induction_on generalizing s with
  | h n ih =>
    by_cases hs : Bloqueado paso s
    · exact ⟨s, Alcanza.refl s, hs⟩
    · obtain ⟨e, he⟩ := not_forall.mp hs
      obtain ⟨b, hb⟩ := Option.ne_none_iff_exists'.mp he
      obtain ⟨t, ⟨es, hes⟩, ht⟩ := ih (medida b) (hn ▸ hm s e b hb) b rfl
      exact ⟨t, ⟨e :: es, by simp [correr, hb, hes]⟩, ht⟩

/-! ## Runs under a condition -/

/-- The steps of `paso` taken where `C` holds of the state and the event. -/
def pasoBajo (C : σ → ε → Prop) [∀ s e, Decidable (C s e)] (paso : σ → ε → Option σ)
    (s : σ) (e : ε) : Option σ :=
  if C s e then paso s e else none

/-- Some run whose steps all meet `C` leads from `s` to `t`. -/
abbrev AlcanzaBajo (C : σ → ε → Prop) [∀ s e, Decidable (C s e)] (paso : σ → ε → Option σ)
    (s t : σ) : Prop :=
  Alcanza (pasoBajo C paso) s t

variable [∀ s e, Decidable (C s e)]

theorem pasoBajo_eq_some {e : ε} : pasoBajo C paso s e = some t ↔ C s e ∧ paso s e = some t := by
  unfold pasoBajo
  by_cases h : C s e <;> simp [h]

/-- The invariant of a conditional run may use the condition of the step it survives. -/
theorem AlcanzaBajo.induccion {I : σ → Prop} (h : AlcanzaBajo C paso s t) (h0 : I s)
    (hpaso : ∀ a e b, I a → C a e → paso a e = some b → I b) : I t :=
  Alcanza.induccion h h0 fun a e b ha hb =>
    hpaso a e b ha (pasoBajo_eq_some.mp hb).1 (pasoBajo_eq_some.mp hb).2

/-- Dropping the condition leaves an ordinary run. -/
theorem AlcanzaBajo.alcanza (h : AlcanzaBajo C paso s t) : Alcanza paso s t :=
  AlcanzaBajo.induccion h (Alcanza.refl s) fun _ _ _ ha _ hb => ha.siguiente hb

end Ejecucion
