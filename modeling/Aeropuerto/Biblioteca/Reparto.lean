import Mathlib

/-!
# Things that move between places

Every thing is in one place at a time, or nowhere yet.  `f l` collects what a system keeps at place `l`
and `lugar` says where each thing is; a step of the system brings a thing in, or moves one from a place
to another.
-/

variable {α Λ : Type*} {f f' : Λ → Multiset α} {lugar : α → Option Λ} {a : α} {l l₁ l₂ : Λ}

structure Reparto (f : Λ → Multiset α) (lugar : α → Option Λ) : Prop where
  nodup : ∀ l, (f l).Nodup
  mem : ∀ l a, a ∈ f l ↔ lugar a = some l

namespace Reparto

theorem vacio : Reparto (fun _ : Λ => (0 : Multiset α)) fun _ => none where
  nodup _ := Multiset.nodup_zero
  mem _ _ := by simp

theorem congr (h : Reparto f lugar) (hf : ∀ l, f' l = f l) : Reparto f' lugar := by
  rwa [funext hf]

/-- The place of a thing is the only one that has it. -/
theorem existsUnique (h : Reparto f lugar) (ha : lugar a ≠ none) : ∃! l, a ∈ f l := by
  obtain ⟨l, hl⟩ := Option.ne_none_iff_exists'.mp ha
  refine ⟨l, (h.mem l a).mpr hl, fun m hm => ?_⟩
  have hlm := (h.mem m a).mp hm
  rw [hl] at hlm
  exact (Option.some.inj hlm).symm

variable [DecidableEq α]

theorem agregar (h : Reparto f lugar) (ha : lugar a = none) (hentra : f' l = a ::ₘ f l)
    (hresto : ∀ m, m ≠ l → f' m = f m) : Reparto f' (Function.update lugar a (some l)) := by
  have hfuera : ∀ m, a ∉ f m := by
    intro m hm
    rw [h.mem, ha] at hm
    cases hm
  constructor
  · intro m
    by_cases hm : m = l
    · rw [hm, hentra]
      exact Multiset.nodup_cons.mpr ⟨hfuera l, h.nodup l⟩
    · rw [hresto m hm]
      exact h.nodup m
  · intro m b
    by_cases hb : b = a
    · rw [hb, Function.update_self]
      by_cases hm : m = l
      · simp [hm, hentra]
      · rw [hresto m hm]
        exact ⟨fun hin => absurd hin (hfuera m), fun he => absurd (Option.some.inj he).symm hm⟩
    · rw [Function.update_of_ne hb, ← h.mem]
      by_cases hm : m = l
      · simp [hm, hentra, hb]
      · rw [hresto m hm]

theorem quitar (h : Reparto f lugar) (hsale : f l = a ::ₘ f' l)
    (hresto : ∀ m, m ≠ l → f' m = f m) : Reparto f' (Function.update lugar a none) := by
  have hla : lugar a = some l := by
    rw [← h.mem, hsale]
    exact Multiset.mem_cons_self a _
  have hnodup := h.nodup l
  rw [hsale, Multiset.nodup_cons] at hnodup
  constructor
  · intro m
    by_cases hm : m = l
    · rw [hm]
      exact hnodup.2
    · rw [hresto m hm]
      exact h.nodup m
  · intro m b
    by_cases hb : b = a
    · rw [hb, Function.update_self]
      refine ⟨fun hin => ?_, nofun⟩
      by_cases hm : m = l
      · rw [hm] at hin
        exact absurd hin hnodup.1
      · -- it would be in two places
        rw [hresto m hm, h.mem, hla] at hin
        exact absurd (Option.some.inj hin).symm hm
    · rw [Function.update_of_ne hb, ← h.mem]
      by_cases hm : m = l
      · simp [hm, hsale, hb]
      · rw [hresto m hm]

theorem mover [DecidableEq Λ] (h : Reparto f lugar) (hne : l₁ ≠ l₂) (hsale : f l₁ = a ::ₘ f' l₁)
    (hentra : f' l₂ = a ::ₘ f l₂) (hresto : ∀ m, m ≠ l₁ → m ≠ l₂ → f' m = f m) :
    Reparto f' (Function.update lugar a (some l₂)) := by
  -- between the two places the thing is nowhere
  have hnadie : Reparto (Function.update f l₁ (f' l₁)) (Function.update lugar a none) := by
    refine h.quitar (l := l₁) ?_ fun m hm => Function.update_of_ne hm _ _
    rw [Function.update_self]
    exact hsale
  have hdos : Function.update (Function.update lugar a none) a (some l₂) =
      Function.update lugar a (some l₂) := Function.update_idem ..
  rw [← hdos]
  refine hnadie.agregar (Function.update_self ..) ?_ ?_
  · rw [Function.update_of_ne hne.symm]
    exact hentra
  · intro m hm
    by_cases hm₁ : m = l₁
    · rw [hm₁, Function.update_self]
    · rw [Function.update_of_ne hm₁]
      exact hresto m hm₁ hm

end Reparto
