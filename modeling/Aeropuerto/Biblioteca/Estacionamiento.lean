import Aeropuerto.Biblioteca.Ejecucion

/-!
# Hand-made condition variables

A process that cannot go on raises its flag and leaves its semaphore down; whoever makes room wakes
the flagged processes with one loop over the flags.  `Binario I e activo` says of every process of
`I` that it is in exactly one of three places: its semaphore is up, it is between its wait and the
point where it signals or parks (`activo`), or its flag is raised.
-/

/-- The semaphores, the flags of the parked processes and their counter. -/
structure Estacionamiento where
  semaforo : Nat → Nat
  ids : Nat → Nat
  esperando : Nat

namespace Estacionamiento

variable {e e' : Estacionamiento} {I : Finset Nat} {activo activo' : Nat → Bool} {i n : Nat}

/-- The blocking operation: `none` while the semaphore is down. -/
def waitOn (e : Estacionamiento) (i : Nat) : Option Estacionamiento :=
  if 0 < e.semaforo i then
    some { e with semaforo := Function.update e.semaforo i (e.semaforo i - 1) }
  else none

def signalize (e : Estacionamiento) (i : Nat) : Estacionamiento :=
  { e with semaforo := Function.update e.semaforo i (e.semaforo i + 1) }

/-- Count oneself among the parked processes and raise the flag. -/
def estacionar (e : Estacionamiento) (i : Nat) : Estacionamiento :=
  { e with esperando := e.esperando + 1, ids := Function.update e.ids i 1 }

/-- How a process leaves its critical section: it parks if it could not go on, and otherwise raises
    its semaphore for its next turn. -/
def dejar (e : Estacionamiento) (i : Nat) (parar : Bool) : Estacionamiento :=
  if parar then e.estacionar i else e.signalize i

/-- One turn of the wake-up loop. -/
def despertarUno (e : Estacionamiento) (i : Nat) : Estacionamiento :=
  if e.ids i = 1 then
    { e.signalize i with ids := Function.update e.ids i 0 }
  else e

/-- The wake-up loop over the flags `0 .. n-1`, skipped when nobody is counted as parked. -/
def despertar (e : Estacionamiento) (n : Nat) : Estacionamiento :=
  if e.esperando > 0 then
    { (List.range n).foldl despertarUno e with esperando := 0 }
  else e

theorem waitOn_eq_some (h : e.waitOn i = some e') :
    0 < e.semaforo i ∧
      e' = { e with semaforo := Function.update e.semaforo i (e.semaforo i - 1) } := by
  unfold waitOn at h
  split at h
  · exact ⟨‹_›, (Option.some.inj h).symm⟩
  · cases h

theorem foldl_despertarUno (e : Estacionamiento) (n : Nat) :
    (List.range n).foldl despertarUno e =
      { e with
        semaforo := fun j => if j < n ∧ e.ids j = 1 then e.semaforo j + 1 else e.semaforo j
        ids := fun j => if j < n ∧ e.ids j = 1 then 0 else e.ids j } := by
  induction n with
  | zero => simp
  | succ n ih =>
    rw [List.range_succ, List.foldl_append, ih]
    simp only [List.foldl_cons, List.foldl_nil, despertarUno, lt_irrefl, false_and, if_false]
    have hlt : ∀ j, j ≠ n → (j < n + 1 ↔ j < n) := fun j hj => by omega
    by_cases hn : e.ids n = 1
    · simp only [hn, if_true, signalize, Estacionamiento.mk.injEq, and_true]
      refine ⟨funext fun j => ?_, funext fun j => ?_⟩ <;> by_cases hj : j = n
      · simp [hj, hn]
      · simp [Function.update_of_ne hj, hlt j hj]
      · simp [hj, hn]
      · simp [Function.update_of_ne hj, hlt j hj]
    · simp only [hn, if_false, Estacionamiento.mk.injEq, and_true]
      refine ⟨funext fun j => ?_, funext fun j => ?_⟩ <;> by_cases hj : j = n
      · simp [hj, hn]
      · simp [hlt j hj]
      · simp [hj, hn]
      · simp [hlt j hj]

/-- Every process of `I` is in exactly one place, and the counter counts the raised flags. -/
structure Binario (I : Finset Nat) (e : Estacionamiento) (activo : Nat → Bool) : Prop where
  uno : ∀ i ∈ I, e.semaforo i + (activo i).toNat + e.ids i = 1
  cuenta : e.esperando = ∑ i ∈ I, e.ids i

theorem Binario.congr (h : Binario I e activo) (hact : ∀ i ∈ I, activo' i = activo i) :
    Binario I e activo' :=
  ⟨fun i hi => by rw [hact i hi]; exact h.uno i hi, h.cuenta⟩

theorem Binario.ids_eq_zero (h : Binario I e activo) (hi : i ∈ I) (ha : activo i = true) :
    e.ids i = 0 := by
  have := h.uno i hi
  rw [ha, Bool.toNat_true] at this
  omega

theorem Binario.esperando_eq_card (h : Binario I e activo) :
    e.esperando = (I.filter fun i => e.ids i = 1).card := by
  rw [h.cuenta, Finset.card_filter]
  refine Finset.sum_congr rfl fun i hi => ?_
  have := h.uno i hi
  split <;> omega

/-- A process that passes its wait was neither active nor parked. -/
theorem Binario.waitOn (h : Binario I e activo) (hi : i ∈ I) (hw : e.waitOn i = some e') :
    Binario I e' (Function.update activo i true) := by
  obtain ⟨hpos, rfl⟩ := waitOn_eq_some hw
  refine ⟨fun j hj => ?_, h.cuenta⟩
  have hu := h.uno j hj
  by_cases hji : j = i
  · subst hji
    simp only [Function.update_self, Bool.toNat_true]
    omega
  · simpa only [Function.update_of_ne hji] using hu

theorem Binario.signalize (h : Binario I e activo) (hi : i ∈ I) (ha : activo i = true) :
    Binario I (e.signalize i) (Function.update activo i false) := by
  refine ⟨fun j hj => ?_, h.cuenta⟩
  have hu := h.uno j hj
  by_cases hji : j = i
  · subst hji
    rw [ha, Bool.toNat_true] at hu
    simp only [Estacionamiento.signalize, Function.update_self, Bool.toNat_false]
    omega
  · simpa only [Estacionamiento.signalize, Function.update_of_ne hji] using hu

theorem Binario.estacionar (h : Binario I e activo) (hi : i ∈ I) (ha : activo i = true) :
    Binario I (e.estacionar i) (Function.update activo i false) := by
  have hz := h.ids_eq_zero hi ha
  refine ⟨fun j hj => ?_, ?_⟩
  · have hu := h.uno j hj
    by_cases hji : j = i
    · subst hji
      rw [ha, hz, Bool.toNat_true] at hu
      simp only [Estacionamiento.estacionar, Function.update_self, Bool.toNat_false]
      omega
    · simpa only [Estacionamiento.estacionar, Function.update_of_ne hji] using hu
  · simp only [Estacionamiento.estacionar]
    rw [h.cuenta, Finset.sum_update_of_mem hi, ← Finset.add_sum_erase I e.ids hi, hz,
      Finset.sdiff_singleton_eq_erase]
    omega

theorem Binario.dejar (h : Binario I e activo) (hi : i ∈ I) (ha : activo i = true)
    (parar : Bool) : Binario I (e.dejar i parar) (Function.update activo i false) := by
  unfold Estacionamiento.dejar
  split
  · exact h.estacionar hi ha
  · exact h.signalize hi ha

theorem dejar_ids {parar : Bool} {j : Nat} (h : (e.dejar i parar).ids j = 1) :
    parar = true ∨ e.ids j = 1 := by
  cases parar
  · exact .inr h
  · exact .inl rfl

/-- When the counter is zero no flag is raised, so the skipped loop would have done nothing. -/
theorem Binario.ids_of_esperando_zero (h : Binario I e activo) (h0 : e.esperando = 0)
    (hi : i ∈ I) : e.ids i = 0 :=
  Finset.sum_eq_zero_iff.mp (h.cuenta ▸ h0) i hi

theorem Binario.despertar_ids (h : Binario I e activo) (hn : ∀ i ∈ I, i < n) (hi : i ∈ I) :
    (e.despertar n).ids i = 0 := by
  unfold Estacionamiento.despertar
  split
  · rw [foldl_despertarUno]
    have hu := h.uno i hi
    by_cases h1 : e.ids i = 1
    · simp [h1, hn i hi]
    · simp only [h1, and_false, if_false]
      omega
  · exact h.ids_of_esperando_zero (by omega) hi

theorem Binario.despertar (h : Binario I e activo) (hn : ∀ i ∈ I, i < n) :
    Binario I (e.despertar n) activo := by
  have hids := fun i hi => h.despertar_ids (i := i) hn hi
  refine ⟨fun i hi => ?_, ?_⟩
  · have hu := h.uno i hi
    have hz := hids i hi
    revert hz
    unfold Estacionamiento.despertar
    split
    · rw [foldl_despertarUno]
      by_cases h1 : e.ids i = 1
      · simp only [h1, hn i hi, and_self, if_true]
        omega
      · simp only [h1, and_false, if_false]
        omega
    · intro _
      exact hu
  · rw [Finset.sum_eq_zero hids]
    unfold Estacionamiento.despertar
    split
    · rfl
    · omega

/-- Waking the parked processes only ever lowers flags. -/
theorem despertar_ids_le (e : Estacionamiento) (n i : Nat) : (e.despertar n).ids i ≤ e.ids i := by
  unfold despertar
  split
  · rw [foldl_despertarUno]
    dsimp only
    split <;> omega
  · exact le_refl _

end Estacionamiento
