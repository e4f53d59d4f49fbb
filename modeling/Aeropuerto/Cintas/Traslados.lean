import Aeropuerto.Cintas.CintaScannerSegura
import Aeropuerto.Cintas.CintaSegura

/-!
# What a step of a belt moves

For the systems that join several belts: what each process of a belt has in its hands, what a call
returns and in which step, and one lemma for each kind of step.  A step that moves something is told
apart by the history of the belt, which determines what the ring holds.
-/

/-! ## The ring, from its history -/

namespace Anillo.Fifo

variable {α : Type*} {a a' : Anillo α} {puestos sacados : List α} {x : α}

theorem igual (h : a.Fifo puestos sacados) (h' : a'.Fifo puestos sacados) :
    a'.contenido = a.contenido := by
  have hist := h'.historia
  rw [← h.historia] at hist
  exact List.append_cancel_left hist

theorem puesto (h : a.Fifo puestos sacados) (h' : a'.Fifo (puestos ++ [x]) sacados) :
    a'.contenido = a.contenido ++ [x] := by
  have hist := h'.historia
  rw [← h.historia, List.append_assoc] at hist
  exact List.append_cancel_left hist

theorem sacado (h : a.Fifo puestos sacados) (h' : a'.Fifo puestos (sacados ++ [x])) :
    a.contenido = x :: a'.contenido := by
  have hist := h'.historia
  rw [← h.historia, List.append_assoc] at hist
  exact (List.append_cancel_left hist).symm

end Anillo.Fifo

/-! ## The check-in belt -/

namespace Cinta

open Ejecucion

variable {α : Type} {n p k i : Nat} {s t : Estado α} {e : Evento α} {v : α}

/-- What a producer is about to put. -/
def PcProductor.manos : PcProductor α → List α
  | .espera elemento | .seccion elemento => [elemento]
  | .reposo => []

/-- The steps inside a call. -/
def Evento.interno : Evento α → Bool
  | .ponerEquipaje _ _ | .sacarEquipaje _ => false
  | _ => true

/-- What `sacar_equipaje` returns in this step. -/
def Estado.saca (s : Estado α) : Evento α → Option α
  | .seccionConsumidor _ => (s.compartido.seccionSacar 1).2
  | _ => none

theorem ponerEquipaje_eq_some (hs : paso p k s (.ponerEquipaje i v) = some t) :
    s.productor i = .reposo ∧
      t = { s with productor := Function.update s.productor i (.espera v) } := by
  simp only [paso] at hs
  split at hs <;> [split at hs; skip] <;> cases hs
  exact ⟨‹_›, rfl⟩

theorem sacarEquipaje_eq_some {j : Nat} (hs : paso p k s (.sacarEquipaje j) = some t) :
    t = { s with consumidor := Function.update s.consumidor j .espera } := by
  simp only [paso] at hs
  split at hs <;> [split at hs; skip] <;> cases hs
  rfl

theorem manos_update (pc : PcProductor α) (hpc : pc.manos = (s.productor i).manos) (l : Nat) :
    (Function.update s.productor i pc l).manos = (s.productor l).manos := by
  by_cases hl : l = i
  · rw [hl, Function.update_self, hpc]
  · rw [Function.update_of_ne hl]

/-- Inside the calls an element goes from the hands of its producer to the belt, or from the belt to the
    consumer that returns, or nothing moves. -/
theorem interno_cases (he : e.interno = true) (hs : paso p k s e = some t) :
    (t.puestos = s.puestos ∧ t.devueltos = s.devueltos ∧
      (∀ i, (t.productor i).manos = (s.productor i).manos) ∧ s.saca e = none) ∨
    (∃ i v, (s.productor i).manos = [v] ∧ (t.productor i).manos = [] ∧
      (∀ l, l ≠ i → t.productor l = s.productor l) ∧ t.puestos = s.puestos ++ [v] ∧
      t.devueltos = s.devueltos ∧ s.saca e = none) ∨
    ∃ v, t.productor = s.productor ∧ t.puestos = s.puestos ∧ t.devueltos = s.devueltos ++ [v] ∧
      s.saca e = some v := by
  cases e with
  | waitProductor i =>
    simp only [paso] at hs
    split at hs <;> cases hs
    rename_i hpc _
    exact .inl ⟨rfl, rfl, manos_update _ (by rw [hpc]; rfl), rfl⟩
  | seccionProductor i =>
    simp only [paso] at hs
    split at hs <;> cases hs
    rename_i v hpc
    cases hcoloque : (s.compartido.seccionPoner v (i + 1)).2
    · exact .inl ⟨rfl, rfl, manos_update _ (by rw [hpc]; rfl), rfl⟩
    · refine .inr (.inl ⟨i, v, by rw [hpc]; rfl, ?_, fun l hl => Function.update_of_ne hl _ _, rfl, rfl, rfl⟩)
      change (Function.update s.productor i PcProductor.reposo i).manos = []
      rw [Function.update_self]
      rfl
  | waitConsumidor j =>
    simp only [paso] at hs
    split at hs <;> cases hs
    exact .inl ⟨rfl, rfl, fun _ => rfl, rfl⟩
  | seccionConsumidor j =>
    simp only [paso] at hs
    split at hs <;> cases hs
    cases hsaca : (s.compartido.seccionSacar 1).2 with
    | none => exact .inl ⟨rfl, List.append_nil _, fun _ => rfl, hsaca⟩
    | some v => exact .inr (.inr ⟨v, rfl, rfl, rfl, hsaca⟩)
  | ponerEquipaje i elemento => cases he
  | sacarEquipaje j => cases he

/-- The consumer leaves its call in the step that returns an element. -/
theorem consumidor_saca (h : Inv n p s) (he : e.interno = true) (hs : paso p 1 s e = some t)
    (hv : s.saca e = some v) : s.consumidor 0 ≠ .reposo ∧ t.consumidor 0 = .reposo := by
  cases e with
  | seccionConsumidor j =>
    simp only [paso] at hs
    split at hs <;> cases hs
    rename_i hpc
    have hfuera : s.consumidor j ≠ .reposo := by
      rw [hpc]
      rintro ⟨⟩
    have hj : j = 0 := h.consumidor_eq hfuera
    subst hj
    refine ⟨hfuera, ?_⟩
    dsimp only
    rw [Function.update_self, if_pos]
    change (s.saca (.seccionConsumidor 0)).isSome = true
    rw [hv]
    rfl
  | waitProductor i | seccionProductor i | waitConsumidor j => cases hv
  | ponerEquipaje i elemento | sacarEquipaje j => cases he

/-- In the others it stays inside, or outside. -/
theorem consumidor_interno (h : Inv n p s) (he : e.interno = true) (hs : paso p 1 s e = some t)
    (hv : s.saca e = none) (hc : t.consumidor 0 ≠ .reposo) : s.consumidor 0 ≠ .reposo := by
  cases e with
  | waitProductor i | seccionProductor i =>
    simp only [paso] at hs
    split at hs <;> cases hs
    exact hc
  | waitConsumidor j | seccionConsumidor j =>
    simp only [paso] at hs
    split at hs <;> cases hs
    rename_i hpc
    have hj : j = 0 := h.consumidor_eq (by simp_all)
    subst hj
    simp_all
  | ponerEquipaje i elemento | sacarEquipaje j => cases he

end Cinta

/-! ## The belts of the scanners -/

namespace CintaScanner

open Ejecucion

variable {α : Type} {S N i : Nat} {s t : Estado α} {v : α}

/-- What the producer has not put yet. -/
def PcProductor.manos : PcProductor α → List α
  | .esperaSemaforo equipaje | .esperaControl equipaje | .buscando equipaje
  | .sueltaControl equipaje _ | .esperaCinta equipaje | .colocando equipaje => [equipaje]
  | _ => []

/-- What a scanner has taken from its belt inside `sacar_equipaje`. -/
def PcEscaner.manos : PcEscaner α → List α
  | .esperaControl elemento | .liberando elemento | .sueltaControl elemento => [elemento]
  | .terminando extrajo | .sueltaCinta extrajo => extrajo.toList
  | _ => []

/-- Inside `sacar_equipaje`. -/
def PcEscaner.sacando : PcEscaner α → Bool
  | .esperaSemaforo | .esperaCinta | .extrayendo | .esperaControl _ | .liberando _ | .sueltaControl _
  | .terminando _ | .sueltaCinta _ => true
  | _ => false

/-- What `sacar_equipaje` returns to scanner `i` in its next step. -/
def Estado.saca (s : Estado α) (i : Nat) : Option α :=
  match s.escaner i with
  | .sueltaCinta extrajo => extrajo
  | _ => none

theorem ponerEquipaje_eq_some (hs : paso S s (.ponerEquipaje v) = some t) :
    s.productor = .reposo ∧ t = s.irProductor (.esperaSemaforo v) := by
  simp only [paso] at hs
  split at hs <;> cases hs
  exact ⟨‹_›, rfl⟩

theorem construir_eq_some (hs : paso S s (.construir i) = some t) :
    s.escaner i = .sinRegistrar ∧ t = s.irEscaner i .esperaControlRegistro := by
  simp only [paso] at hs
  split at hs <;> [split at hs; skip] <;> cases hs
  exact ⟨‹_›, rfl⟩

theorem sacarEquipaje_eq_some (hs : paso S s (.sacarEquipaje i) = some t) :
    s.escaner i = .reposo ∧ t = s.irEscaner i .esperaSemaforo := by
  simp only [paso] at hs
  split at hs <;> cases hs
  exact ⟨‹_›, rfl⟩

/-- The producer puts on the belt that it has chosen what it has in its hands, or nothing moves. -/
theorem productor_cases (hs : paso S s .productor = some t) :
    t.escaner = s.escaner ∧ t.sacados = s.sacados ∧
    ((t.puestos = s.puestos ∧ t.productor.manos = s.productor.manos) ∨
      ∃ i v, s.productor.manos = [v] ∧ t.productor.manos = [] ∧
        t.puestos = Function.update s.puestos i (s.puestos i ++ [v])) := by
  change pasoProductor S s = some t at hs
  cases hpc : s.productor <;>
    simp only [pasoProductor, hpc, Option.map_eq_some_iff, Option.some.injEq, reduceCtorEq] at hs
  case esperaSemaforo =>
    obtain ⟨u, hu, rfl⟩ := hs
    obtain ⟨-, rfl⟩ := waitOn_eq_some hu
    exact ⟨rfl, rfl, .inl ⟨rfl, rfl⟩⟩
  case esperaControl | esperaCinta | esperaControlLlena =>
    obtain ⟨u, hu, rfl⟩ := hs
    obtain ⟨d, -, rfl⟩ := Option.map_eq_some_iff.mp hu
    exact ⟨rfl, rfl, .inl ⟨rfl, rfl⟩⟩
  case colocando equipaje =>
    subst hs
    unfold CintaScanner.colocar
    dsimp only
    refine ⟨by split <;> rfl, by split <;> rfl, .inr ⟨s.proximaCintaAColocar, equipaje, rfl, ?_, ?_⟩⟩
    · simp only [Estado.irProductor]
      split <;> rfl
    · split <;> rfl
  case buscando equipaje =>
    subst hs
    unfold CintaScanner.buscar
    dsimp only
    split <;> exact ⟨rfl, rfl, .inl ⟨rfl, rfl⟩⟩
  case sueltaControl equipaje hayLugar =>
    subst hs
    cases hayLugar <;> exact ⟨rfl, rfl, .inl ⟨rfl, rfl⟩⟩
  all_goals
    subst hs
    exact ⟨rfl, rfl, .inl ⟨rfl, rfl⟩⟩

/-- Only scanner `i` has moved, to `pc`, and it has taken nothing. -/
theorem escaner_irEscaner {pc : PcEscaner α} (hpuestos : t.puestos = s.puestos)
    (hp : t.productor = s.productor) (hsacados : t.sacados = s.sacados)
    (he : t.escaner = Function.update s.escaner i pc) :
    t.productor = s.productor ∧ t.puestos = s.puestos ∧ (∀ l, l ≠ i → t.escaner l = s.escaner l) ∧
      t.sacados = s.sacados ∧ t.escaner i = pc :=
  ⟨hp, hpuestos, fun l hl => by rw [he, Function.update_of_ne hl], hsacados, by
    rw [he, Function.update_self]⟩

theorem registrar_escaner (s : Estado α) (i : Nat) :
    (registrar s i).productor = s.productor ∧ (registrar s i).sacados = s.sacados ∧
      ∃ despierta,
        (registrar s i).escaner = Function.update s.escaner i (.sueltaControlRegistro despierta) := by
  unfold registrar
  dsimp only
  split <;> split <;> exact ⟨rfl, rfl, _, rfl⟩

/-- A scanner takes from its belt, or returns with what it has taken, or nothing moves. -/
theorem escaner_cases (hs : paso S s (.escaner i) = some t) :
    t.productor = s.productor ∧ t.puestos = s.puestos ∧ (∀ l, l ≠ i → t.escaner l = s.escaner l) ∧
    ((t.sacados = s.sacados ∧ (t.escaner i).manos = (s.escaner i).manos ∧
        (t.escaner i).sacando = (s.escaner i).sacando ∧ s.saca i = none) ∨
      (∃ v, t.sacados = Function.update s.sacados i (s.sacados i ++ [v]) ∧
        (s.escaner i).manos = [] ∧ (t.escaner i).manos = [v] ∧ (s.escaner i).sacando = true ∧
        s.saca i = none) ∨
      ∃ v, t.sacados = s.sacados ∧ (s.escaner i).manos = [v] ∧ t.escaner i = .reposo ∧
        (s.escaner i).sacando = true ∧ s.saca i = some v) := by
  change pasoEscaner s i = some t at hs
  have hpuestos := pasoEscaner_puestos hs
  unfold Estado.saca
  cases hpc : s.escaner i <;>
    simp only [pasoEscaner, hpc, Option.map_eq_some_iff, Option.some.injEq, reduceCtorEq] at hs
  case esperaSemaforo =>
    obtain ⟨u, hu, rfl⟩ := hs
    obtain ⟨-, rfl⟩ := waitOn_eq_some hu
    obtain ⟨h₁, h₂, h₃, h₄, h₅⟩ := escaner_irEscaner hpuestos rfl rfl rfl
    exact ⟨h₁, h₂, h₃, .inl ⟨h₄, by rw [h₅]; rfl, by rw [h₅]; rfl, rfl⟩⟩
  case esperaControlRegistro | esperaCinta | esperaControl =>
    obtain ⟨u, hu, rfl⟩ := hs
    obtain ⟨d, -, rfl⟩ := Option.map_eq_some_iff.mp hu
    obtain ⟨h₁, h₂, h₃, h₄, h₅⟩ := escaner_irEscaner hpuestos rfl rfl rfl
    exact ⟨h₁, h₂, h₃, .inl ⟨h₄, by rw [h₅]; rfl, by rw [h₅]; rfl, rfl⟩⟩
  case registrando =>
    subst hs
    obtain ⟨hp, hsac, despierta, he⟩ := registrar_escaner s i
    obtain ⟨h₁, h₂, h₃, h₄, h₅⟩ := escaner_irEscaner hpuestos hp hsac he
    exact ⟨h₁, h₂, h₃, .inl ⟨h₄, by rw [h₅]; rfl, by rw [h₅]; rfl, rfl⟩⟩
  case sueltaControlRegistro despierta =>
    subst hs
    obtain ⟨h₁, h₂, h₃, h₄, h₅⟩ := escaner_irEscaner hpuestos rfl rfl rfl
    exact ⟨h₁, h₂, h₃, .inl ⟨h₄, by rw [h₅]; split <;> rfl, by rw [h₅]; split <;> rfl, rfl⟩⟩
  case extrayendo =>
    subst hs
    unfold CintaScanner.extraer at hpuestos ⊢
    dsimp only at hpuestos ⊢
    by_cases h0 : (s.cintas i).anillo.cantidad > 0
    · rw [if_pos h0]
      refine ⟨rfl, rfl, fun l hl => Function.update_of_ne hl _ _, .inr (.inl
        ⟨(s.cintas i).anillo.frente, rfl, rfl, ?_, rfl, rfl⟩)⟩
      simp only [Estado.irEscaner, Function.update_self]
      split <;> rfl
    · rw [if_neg h0] at hpuestos ⊢
      obtain ⟨h₁, h₂, h₃, h₄, h₅⟩ := escaner_irEscaner hpuestos rfl rfl rfl
      exact ⟨h₁, h₂, h₃, .inl ⟨h₄, by rw [h₅]; rfl, by rw [h₅]; rfl, rfl⟩⟩
  case liberando elemento =>
    subst hs
    have hl : (liberar s i elemento).productor = s.productor ∧
        (liberar s i elemento).sacados = s.sacados ∧
        (liberar s i elemento).escaner = Function.update s.escaner i (.sueltaControl elemento) := by
      unfold liberar
      dsimp only
      split <;> [split; skip] <;> exact ⟨rfl, rfl, rfl⟩
    obtain ⟨h₁, h₂, h₃, h₄, h₅⟩ := escaner_irEscaner hpuestos hl.1 hl.2.1 hl.2.2
    exact ⟨h₁, h₂, h₃, .inl ⟨h₄, by rw [h₅]; rfl, by rw [h₅]; rfl, rfl⟩⟩
  case terminando extrajo =>
    subst hs
    have hl : (terminar s i extrajo).productor = s.productor ∧
        (terminar s i extrajo).sacados = s.sacados ∧
        (terminar s i extrajo).escaner = Function.update s.escaner i (.sueltaCinta extrajo) := by
      unfold terminar
      dsimp only
      split <;> exact ⟨rfl, rfl, rfl⟩
    obtain ⟨h₁, h₂, h₃, h₄, h₅⟩ := escaner_irEscaner hpuestos hl.1 hl.2.1 hl.2.2
    exact ⟨h₁, h₂, h₃, .inl ⟨h₄, by rw [h₅]; rfl, by rw [h₅]; rfl, rfl⟩⟩
  case sueltaCinta extrajo =>
    subst hs
    obtain ⟨h₁, h₂, h₃, h₄, h₅⟩ := escaner_irEscaner hpuestos rfl rfl rfl
    cases extrajo with
    | none => exact ⟨h₁, h₂, h₃, .inl ⟨h₄, by rw [h₅]; rfl, by rw [h₅]; rfl, rfl⟩⟩
    | some v => exact ⟨h₁, h₂, h₃, .inr (.inr ⟨v, h₄, rfl, h₅, rfl, rfl⟩)⟩
  all_goals
    subst hs
    obtain ⟨h₁, h₂, h₃, h₄, h₅⟩ := escaner_irEscaner hpuestos rfl rfl rfl
    exact ⟨h₁, h₂, h₃, .inl ⟨h₄, by rw [h₅]; rfl, by rw [h₅]; rfl, rfl⟩⟩

end CintaScanner
