import Aeropuerto.Biblioteca.Reparto

/-!
# Inventories

A system numbers what comes to it in the order of arrival and keeps, at place `l`, the list `f l`.
An inventory says that each arrival is in exactly one place and that what is there still has to do
with what came.  Two systems of which the first hands things over to the second make one inventory.
-/

variable {α β γ Λ Μ : Type*}

/-! ## Two systems, one after the other -/

namespace Reparto

variable {f : Option Λ → Multiset α} {g : Μ → Multiset ℕ} {lugar : α → Option (Option Λ)}
  {lugar' : ℕ → Option Μ} {origen : List α} {a : α}

/-- Where a thing is in the two systems: `none` is the place of what the first one has handed over, and
    the second one knows that as the position in `origen`. -/
def lugarCompuesto [DecidableEq α] (lugar : α → Option (Option Λ)) (lugar' : ℕ → Option Μ)
    (origen : List α) (a : α) : Option (Λ ⊕ Μ) :=
  match lugar a with
  | none => none
  | some (some l) => some (.inl l)
  | some none => (lugar' (origen.idxOf a)).map .inr

theorem componer [DecidableEq α] (h : Reparto f lugar) (horigen : f none = origen)
    (hg : Reparto g lugar') :
    Reparto (Sum.elim (fun l => f (some l)) fun m => (g m).filterMap fun k => origen[k]?)
      (lugarCompuesto lugar lugar' origen) := by
  have hnodup : origen.Nodup := by
    rw [← Multiset.coe_nodup, ← horigen]
    exact h.nodup none
  have hentregado : ∀ {k : ℕ} {a : α}, origen[k]? = some a →
      lugar a = some none ∧ origen.idxOf a = k := by
    intro k a hk
    obtain ⟨hlt, rfl⟩ := List.getElem?_eq_some_iff.mp hk
    refine ⟨(h.mem none _).mp ?_, hnodup.idxOf_getElem k hlt⟩
    rw [horigen]
    exact Multiset.mem_coe.mpr (List.getElem_mem hlt)
  constructor
  · rintro (l | m)
    · exact h.nodup (some l)
    · refine (hg.nodup m).filterMap _ fun k k' a hk hk' => ?_
      rw [← (hentregado hk).2, ← (hentregado hk').2]
  · rintro (l | m) a
    · change a ∈ f (some l) ↔ _
      rw [h.mem]
      unfold lugarCompuesto
      split
      · rename_i hn
        simp [hn]
      · rename_i l' hl'
        simp [hl']
      · rename_i hn
        simp [hn]
    · change a ∈ (g m).filterMap _ ↔ _
      rw [Multiset.mem_filterMap]
      constructor
      · rintro ⟨k, hk, ha⟩
        obtain ⟨hlugar, hidx⟩ := hentregado ha
        unfold lugarCompuesto
        rw [hlugar]
        dsimp only
        rw [hidx, (hg.mem m k).mp hk]
        rfl
      · unfold lugarCompuesto
        split
        · nofun
        · nofun
        · rename_i hlugar
          intro hm
          obtain ⟨m', hm', he⟩ := Option.map_eq_some_iff.mp hm
          cases he
          have hmem : a ∈ origen := by
            rw [← Multiset.mem_coe, ← horigen, h.mem, hlugar]
          refine ⟨_, (hg.mem m _).mpr hm', ?_⟩
          exact List.getElem?_idxOf hmem

theorem lugarCompuesto_ne_none [DecidableEq α] (h : Reparto f lugar) (horigen : f none = origen)
    (hg : ∀ k, lugar' k ≠ none ↔ k < origen.length) :
    lugarCompuesto lugar lugar' origen a ≠ none ↔ lugar a ≠ none := by
  unfold lugarCompuesto
  split
  · rename_i hn
    simp [hn]
  · rename_i l hl
    simp [hl]
  · rename_i hlugar
    have hmem : a ∈ origen := by
      rw [← Multiset.mem_coe, ← horigen, h.mem, hlugar]
    have hen := (hg _).mpr (List.idxOf_lt_length_of_mem hmem)
    simp [hlugar, hen]

end Reparto

/-! ## One system -/

/-- The numbers of what is at each place. -/
def numerosEn (numero : β → ℕ) (f : Λ → List β) (l : Λ) : Multiset ℕ := (f l).map numero

/-- `R e v` says that `v` is what has become of the arrival `e`. -/
structure Inventario (numero : β → ℕ) (R : γ → β → Prop) (llegadas : List γ) (f : Λ → List β) :
    Prop where
  reparto : ∃ lugar, Reparto (numerosEn numero f) lugar ∧ ∀ n, lugar n ≠ none ↔ n < llegadas.length
  viene : ∀ l, ∀ v ∈ f l, ∃ e, llegadas[numero v]? = some e ∧ R e v

/-- `v` goes from `l₁` to `l₂`, where it is `w`. -/
structure Traslado (numero : β → ℕ) (f f' : Λ → List β) (l₁ l₂ : Λ) (v w : β) : Prop where
  distinto : l₁ ≠ l₂
  sale : (f l₁ : Multiset β) = v ::ₘ (f' l₁ : Multiset β)
  entra : (f' l₂ : Multiset β) = w ::ₘ (f l₂ : Multiset β)
  resto : ∀ l, l ≠ l₁ → l ≠ l₂ → f' l = f l
  numero : numero w = numero v

theorem numerosEn_cons {numero : β → ℕ} {f g : Λ → List β} {l : Λ} {v : β}
    (h : (f l : Multiset β) = v ::ₘ (g l : Multiset β)) :
    numerosEn numero f l = numero v ::ₘ numerosEn numero g l := by
  have hmap := congrArg (Multiset.map numero) h
  rw [Multiset.map_cons, Multiset.map_coe, Multiset.map_coe] at hmap
  exact hmap

namespace Inventario

variable {numero : β → ℕ} {R : γ → β → Prop} {llegadas : List γ} {f f' : Λ → List β} {l₁ l₂ : Λ}
  {v w : β} {e : γ}

theorem vacio (hf : ∀ l, f l = []) : Inventario numero R [] f where
  reparto := by
    refine ⟨fun _ => none, Reparto.vacio.congr fun l => ?_, fun n => by simp⟩
    rw [numerosEn, hf]
    rfl
  viene l v hv := by
    rw [hf] at hv
    cases hv

theorem igual (h : Inventario numero R llegadas f) (hf : ∀ l, f' l = f l) :
    Inventario numero R llegadas f' := by
  rwa [funext hf]

theorem traslada [DecidableEq Λ] (h : Inventario numero R llegadas f) (l₁ l₂ : Λ) (v w : β)
    (ht : Traslado numero f f' l₁ l₂ v w) (hw : ∀ e, R e v → R e w) :
    Inventario numero R llegadas f' := by
  have hv : v ∈ f l₁ := by
    rw [← Multiset.mem_coe, ht.sale]
    exact Multiset.mem_cons_self v _
  constructor
  · obtain ⟨lugar, hlugar, hn⟩ := h.reparto
    have hsale : numerosEn numero f l₁ = _ := numerosEn_cons ht.sale
    have hentra : numerosEn numero f' l₂ = _ := numerosEn_cons ht.entra
    rw [ht.numero] at hentra
    refine ⟨_, hlugar.mover ht.distinto hsale hentra fun l h₁ h₂ => ?_, fun n => ?_⟩
    · rw [numerosEn, ht.resto l h₁ h₂]
      rfl
    · rw [← hn]
      by_cases hnv : n = numero v
      · have hlv := (hlugar.mem l₁ (numero v)).mp (by rw [hsale]; exact Multiset.mem_cons_self _ _)
        rw [hnv, Function.update_self, hlv]
        simp
      · rw [Function.update_of_ne hnv]
  · intro l u hu
    by_cases h₂ : l = l₂
    · rw [h₂, ← Multiset.mem_coe, ht.entra, Multiset.mem_cons] at hu
      rcases hu with rfl | hu
      · -- the thing that has moved
        obtain ⟨e, he, hviene⟩ := h.viene l₁ v hv
        exact ⟨e, by rw [ht.numero]; exact he, hw e hviene⟩
      · exact h.viene l₂ u hu
    · by_cases h₁ : l = l₁
      · apply h.viene l₁ u
        rw [← Multiset.mem_coe, ht.sale, Multiset.mem_cons]
        exact .inr (h₁ ▸ hu)
      · rw [ht.resto l h₁ h₂] at hu
        exact h.viene l u hu

theorem llega (h : Inventario numero R llegadas f) (l : Λ) (v : β)
    (hnumero : numero v = llegadas.length) (hv : R e v)
    (hentra : (f' l : Multiset β) = v ::ₘ (f l : Multiset β)) (hresto : ∀ m, m ≠ l → f' m = f m) :
    Inventario numero R (llegadas ++ [e]) f' := by
  constructor
  · obtain ⟨lugar, hlugar, hn⟩ := h.reparto
    have hnuevo : lugar (numero v) = none := by
      by_contra hlejos
      rw [hnumero] at hlejos
      exact absurd ((hn _).mp hlejos) (Nat.lt_irrefl _)
    refine ⟨_, hlugar.agregar hnuevo (numerosEn_cons hentra) fun m hm => ?_, fun n => ?_⟩
    · rw [numerosEn, hresto m hm]
      rfl
    · rw [List.length_append, List.length_singleton, ← hnumero]
      by_cases hnv : n = numero v
      · rw [hnv, Function.update_self]
        simp
      · rw [Function.update_of_ne hnv, hn, hnumero]
        omega
  · -- the others are still at their place in the order
    have hantes : ∀ u, (∃ e', llegadas[numero u]? = some e' ∧ R e' u) →
        ∃ e', (llegadas ++ [e])[numero u]? = some e' ∧ R e' u := by
      rintro u ⟨e', he', hu⟩
      refine ⟨e', ?_, hu⟩
      rw [List.getElem?_append_left (List.getElem?_eq_some_iff.mp he').1]
      exact he'
    intro m u hu
    by_cases hm : m = l
    · rw [hm, ← Multiset.mem_coe, hentra, Multiset.mem_cons] at hu
      rcases hu with rfl | hu
      · refine ⟨e, ?_, hv⟩
        rw [hnumero]
        exact List.getElem?_concat_length
      · exact hantes u (h.viene l u hu)
    · rw [hresto m hm] at hu
      exact hantes u (h.viene m u hu)

/-- The only thing of `l` changes where it is. -/
theorem anota {l : Λ} (h : Inventario numero R llegadas f) (hv : f l = [v]) (hw : f' l = [w])
    (hresto : ∀ m, m ≠ l → f' m = f m) (hnumero : numero w = numero v)
    (hviene : ∀ e, R e v → R e w) : Inventario numero R llegadas f' := by
  constructor
  · obtain ⟨lugar, hlugar, hn⟩ := h.reparto
    refine ⟨lugar, hlugar.congr fun m => ?_, hn⟩
    by_cases hm : m = l
    · rw [hm, numerosEn, numerosEn, hv, hw, List.map_singleton, List.map_singleton, hnumero]
    · rw [numerosEn, numerosEn, hresto m hm]
  · intro m u hu
    by_cases hm : m = l
    · rw [hm, hw] at hu
      rw [List.mem_singleton.mp hu]
      obtain ⟨e, he, hve⟩ := h.viene l v (by rw [hv]; exact List.mem_singleton_self v)
      exact ⟨e, by rw [hnumero]; exact he, hviene e hve⟩
    · rw [hresto m hm] at hu
      exact h.viene m u hu

theorem unaVez (h : Inventario numero R llegadas f) (l : Λ) : ((f l).map numero).Nodup := by
  obtain ⟨lugar, hlugar, -⟩ := h.reparto
  exact hlugar.nodup l

end Inventario
