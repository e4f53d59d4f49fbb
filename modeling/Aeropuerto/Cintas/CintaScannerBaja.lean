import Aeropuerto.Cintas.CintaScannerSegura

/-!
# Scanners that leave (`CintaScanner::~CintaScanner` of `api/cintascanner.h`)

The belts of the scanners with the destructor, and with the image of the control memory that each scanner
has in its own memory.  `lock` brings the control memory there and `unlock` takes it back; the destructor
writes there without either.
-/

namespace CintaScannerBaja

open Ejecucion CintaScanner Sumas

variable {α : Type}

/-- `bajas` counts the destructors of each scanner that have finished, and `puestosAlSalir` is the luggage
    put on its belt until the last one. -/
structure Estado (α : Type) where
  comun : CintaScanner.Estado α
  imagen : Nat → Control
  bajas : Nat → Nat
  puestosAlSalir : Nat → List α

inductive Evento (α : Type) where
  | cinta (ev : CintaScanner.Evento α)
  | destruir (i : Nat)

/-- Between `lock` and `unlock` the image of a scanner is the control memory. -/
def sincronizar (antes despues : CintaScanner.Estado α) (imagen : Nat → Control) : Nat → Control :=
  fun i =>
    if antes.dueno .control = some (.escaner i) ∨ despues.dueno .control = some (.escaner i) then
      despues.control
    else imagen i

/-- What the destructor writes in the image of the scanner. -/
def desregistrar (c : Control) (i : Nat) : Control :=
  { c with
    idsEscanersActivos := Function.update c.idsEscanersActivos i 0
    cantidadDeEscanersActivos := c.cantidadDeEscanersActivos - 1
    cintaLlena := Function.update c.cintaLlena i (-1) }

/-- There is something to destroy once the constructor has ended. -/
def construido : PcEscaner α → Bool
  | .sinRegistrar | .esperaControlRegistro | .registrando | .sueltaControlRegistro _
  | .senalandoRegistro => false
  | _ => true

def inicial (N : Nat) (ranura : Nat → α) : Estado α where
  comun := CintaScanner.inicial N ranura
  imagen _ := (CintaScanner.inicial N ranura).control
  bajas _ := 0
  puestosAlSalir _ := []

/-- A destructor may come at the end of the process or with an exception out of `sacar_equipaje`. -/
def paso (S : Nat) (s : Estado α) : Evento α → Option (Estado α)
  | .cinta ev =>
    match CintaScanner.paso S s.comun ev with
    | some comun => some { s with comun := comun, imagen := sincronizar s.comun comun s.imagen }
    | none => none
  | .destruir i =>
    if construido (s.comun.escaner i) then
      some {
        comun := s.comun.irEscaner i .sinRegistrar
        imagen := Function.update s.imagen i (desregistrar (s.imagen i) i)
        bajas := Function.update s.bajas i (s.bajas i + 1)
        puestosAlSalir := Function.update s.puestosAlSalir i (s.comun.puestos i) }
    else none

/-- The last destructor of scanner `i` has finished and nobody has registered since. -/
def SeFue (s : Estado α) (i : Nat) : Prop :=
  0 < s.bajas i ∧ (s.comun.escaner i).registrado = false

def registrados (S : Nat) (escaner : Nat → PcEscaner α) : Nat :=
  ∑ k ∈ Finset.range S, (escaner k).registrado.toNat

/-- What the others see of a scanner that has left. -/
structure DadoDeBaja (S : Nat) (s : Estado α) (i : Nat) : Prop where
  llena : s.comun.control.cintaLlena i = -1
  activos : s.comun.control.cantidadDeEscanersActivos = registrados S s.comun.escaner
  puestos : s.comun.puestos i = s.puestosAlSalir i

/-! ## What a step of the belts does to the control memory -/

section

variable {S i : Nat} {s t : CintaScanner.Estado α}

/-- The scanners are those of the belts. -/
def EnRango (S : Nat) (s : CintaScanner.Estado α) : Prop :=
  ∀ k, S ≤ k → s.escaner k = .sinRegistrar

/-- Nobody registers, and no belt is marked as unregistered. -/
structure SinRegistros (S : Nat) (s t : CintaScanner.Estado α) : Prop where
  registrado : ∀ k, (t.escaner k).registrado = (s.escaner k).registrado
  rango : EnRango S s → EnRango S t
  activos : t.control.cantidadDeEscanersActivos = s.control.cantidadDeEscanersActivos
  llena : ∀ k, s.control.cintaLlena k ≠ -1 → t.control.cintaLlena k ≠ -1

/-- Scanner `i` registers. -/
structure Registro (i : Nat) (s t : CintaScanner.Estado α) : Prop where
  estaba : s.escaner i = .registrando
  escaner : ∃ despierta, t.escaner = Function.update s.escaner i (.sueltaControlRegistro despierta)
  activos : t.control.cantidadDeEscanersActivos = s.control.cantidadDeEscanersActivos + 1
  llena : ∀ k, s.control.cintaLlena k ≠ -1 ∨ k = i → t.control.cintaLlena k ≠ -1

theorem sinRegistros_of_eq (hescaner : t.escaner = s.escaner) (hcontrol : t.control = s.control) :
    SinRegistros S s t :=
  ⟨fun _ => by rw [hescaner], fun h k hk => by rw [hescaner, h k hk], by rw [hcontrol],
    fun _ h => by rwa [hcontrol]⟩

theorem registrado_update {escaner : Nat → PcEscaner α} {pc : PcEscaner α}
    (hpc : pc.registrado = (escaner i).registrado) (k : Nat) :
    (Function.update escaner i pc k).registrado = (escaner k).registrado := by
  by_cases hk : k = i
  · rw [hk, Function.update_self, hpc]
  · rw [Function.update_of_ne hk]

theorem EnRango.update {pc : PcEscaner α} (h : EnRango S s) (hi : s.escaner i = .sinRegistrar → i < S)
    {k : Nat} (hk : S ≤ k) : Function.update s.escaner i pc k = .sinRegistrar := by
  have hne : k ≠ i := by
    rintro rfl
    exact absurd (hi (h k hk)) (by omega)
  rw [Function.update_of_ne hne, h k hk]

/-- Scanner `i` goes on, and the control memory stays. -/
theorem sinRegistros_irEscaner {pc : PcEscaner α} (hi : s.escaner i = .sinRegistrar → i < S)
    (hescaner : t.escaner = Function.update s.escaner i pc)
    (hpc : pc.registrado = (s.escaner i).registrado) (hcontrol : t.control = s.control) :
    SinRegistros S s t := by
  refine ⟨fun k => ?_, fun h k hk => ?_, by rw [hcontrol], fun _ h => by rwa [hcontrol]⟩
  · rw [hescaner, registrado_update hpc]
  · rw [hescaner, h.update hi hk]

theorem update_ne_menos_uno {llena : Nat → Int} {v : Int} {k : Nat} (hv : v ≠ -1) (h : llena k ≠ -1 ∨ k = i) :
    Function.update llena i v k ≠ -1 := by
  by_cases hk : k = i
  · rwa [hk, Function.update_self]
  · rw [Function.update_of_ne hk]
    exact h.resolve_right hk

theorem lock_eq_some {l : Candado} {p : Proceso} (h : s.lock l p = some t) :
    t.escaner = s.escaner ∧ t.control = s.control := by
  obtain ⟨dueno, -, rfl⟩ := Option.map_eq_some_iff.mp h
  exact ⟨rfl, rfl⟩

theorem pasoProductor_control (h : pasoProductor S s = some t) : SinRegistros S s t := by
  rw [pasoProductor] at h
  dsimp only at h
  split at h
  case h_1 => cases h
  case h_2 =>
    obtain ⟨u, hu, rfl⟩ := Option.map_eq_some_iff.mp h
    rw [(waitOn_eq_some hu).2]
    exact sinRegistros_of_eq rfl rfl
  case h_3 =>
    obtain ⟨u, hu, rfl⟩ := Option.map_eq_some_iff.mp h
    exact sinRegistros_of_eq (lock_eq_some hu).1 (lock_eq_some hu).2
  case h_4 =>
    cases h
    rw [buscar]
    dsimp only
    split <;> exact ⟨fun _ => rfl, id, rfl, fun _ h => h⟩
  case h_5 =>
    cases h
    exact sinRegistros_of_eq rfl rfl
  case h_6 =>
    obtain ⟨u, hu, rfl⟩ := Option.map_eq_some_iff.mp h
    exact sinRegistros_of_eq (lock_eq_some hu).1 (lock_eq_some hu).2
  case h_7 =>
    cases h
    rw [colocar]
    dsimp only
    split <;> exact sinRegistros_of_eq rfl rfl
  case h_8 =>
    obtain ⟨u, hu, rfl⟩ := Option.map_eq_some_iff.mp h
    exact sinRegistros_of_eq (lock_eq_some hu).1 (lock_eq_some hu).2
  case h_9 =>
    cases h
    exact ⟨fun _ => rfl, id, rfl, fun k hk => update_ne_menos_uno (by decide) (.inl hk)⟩
  all_goals
    cases h
    exact sinRegistros_of_eq rfl rfl

theorem registrar_control (hpc : s.escaner i = .registrando) : Registro i s (registrar s i) := by
  rw [registrar]
  dsimp only
  by_cases hllena : s.control.cintaLlena i = -1
  · rw [if_pos hllena]
    have hmarca : ∀ k, s.control.cintaLlena k ≠ -1 ∨ k = i →
        Function.update s.control.cintaLlena i 0 k ≠ -1 := fun _ => update_ne_menos_uno (by decide)
    split
    · exact ⟨hpc, ⟨true, rfl⟩, rfl, hmarca⟩
    · exact ⟨hpc, ⟨false, rfl⟩, rfl, hmarca⟩
  · rw [if_neg hllena]
    have hmarca : ∀ k, s.control.cintaLlena k ≠ -1 ∨ k = i → s.control.cintaLlena k ≠ -1 := by
      rintro k (hk | rfl)
      · exact hk
      · exact hllena
    split
    · exact ⟨hpc, ⟨true, rfl⟩, rfl, hmarca⟩
    · exact ⟨hpc, ⟨false, rfl⟩, rfl, hmarca⟩

theorem liberar_control {elemento : α} (hpc : s.escaner i = .liberando elemento) :
    SinRegistros S s (liberar s i elemento) := by
  have hregistrado : ∀ k, (Function.update s.escaner i (.sueltaControl elemento) k).registrado =
      (s.escaner k).registrado := registrado_update (by rw [hpc]; rfl)
  have hrango : EnRango S s → ∀ k, S ≤ k →
      Function.update s.escaner i (.sueltaControl elemento) k = .sinRegistrar :=
    fun h k hk => h.update (by rw [hpc]; rintro ⟨⟩) hk
  have hmarca : ∀ k, s.control.cintaLlena k ≠ -1 → Function.update s.control.cintaLlena i 0 k ≠ -1 :=
    fun _ hk => update_ne_menos_uno (by decide) (.inl hk)
  rw [liberar]
  dsimp only
  split
  · split
    · exact ⟨hregistrado, hrango, rfl, hmarca⟩
    · exact ⟨hregistrado, hrango, rfl, hmarca⟩
  · exact ⟨hregistrado, hrango, rfl, fun _ hk => hk⟩

theorem pasoEscaner_control (h : pasoEscaner s i = some t) : SinRegistros S s t ∨ Registro i s t := by
  have hi : s.escaner i = .sinRegistrar → i < S := by
    intro hno
    rw [pasoEscaner, hno] at h
    cases h
  rw [pasoEscaner] at h
  split at h
  case h_1 => cases h
  case h_2 hpc =>
    obtain ⟨u, hu, rfl⟩ := Option.map_eq_some_iff.mp h
    obtain ⟨hescaner, hcontrol⟩ := lock_eq_some hu
    refine .inl (sinRegistros_irEscaner hi (congrArg (Function.update · i _) hescaner) ?_ hcontrol)
    rw [hpc]
    rfl
  case h_3 hpc =>
    cases h
    exact .inr (registrar_control hpc)
  case h_4 despierta hpc =>
    cases h
    refine .inl (sinRegistros_irEscaner hi rfl ?_ rfl)
    rw [hpc]
    cases despierta <;> rfl
  case h_5 hpc =>
    cases h
    exact .inl (sinRegistros_irEscaner hi rfl (by rw [hpc]; rfl) rfl)
  case h_6 => cases h
  case h_7 hpc =>
    obtain ⟨u, hu, rfl⟩ := Option.map_eq_some_iff.mp h
    rw [(waitOn_eq_some hu).2]
    exact .inl (sinRegistros_irEscaner hi rfl (by rw [hpc]; rfl) rfl)
  case h_8 hpc =>
    obtain ⟨u, hu, rfl⟩ := Option.map_eq_some_iff.mp h
    obtain ⟨hescaner, hcontrol⟩ := lock_eq_some hu
    refine .inl (sinRegistros_irEscaner hi (congrArg (Function.update · i _) hescaner) ?_ hcontrol)
    rw [hpc]
    rfl
  case h_9 hpc =>
    cases h
    rw [extraer]
    dsimp only
    split
    · refine .inl (sinRegistros_irEscaner hi rfl ?_ rfl)
      rw [hpc]
      split <;> rfl
    · exact .inl (sinRegistros_irEscaner hi rfl (by rw [hpc]; rfl) rfl)
  case h_10 elemento hpc =>
    obtain ⟨u, hu, rfl⟩ := Option.map_eq_some_iff.mp h
    obtain ⟨hescaner, hcontrol⟩ := lock_eq_some hu
    refine .inl (sinRegistros_irEscaner hi (congrArg (Function.update · i _) hescaner) ?_ hcontrol)
    rw [hpc]
    rfl
  case h_11 elemento hpc =>
    cases h
    exact .inl (liberar_control hpc)
  case h_12 hpc =>
    cases h
    exact .inl (sinRegistros_irEscaner hi rfl (by rw [hpc]; rfl) rfl)
  case h_13 hpc =>
    cases h
    rw [terminar]
    dsimp only
    split <;> exact .inl (sinRegistros_irEscaner hi rfl (by rw [hpc]; rfl) rfl)
  case h_14 extrajo hpc =>
    cases h
    refine .inl (sinRegistros_irEscaner hi rfl ?_ rfl)
    rw [hpc]
    cases extrajo <;> rfl

theorem paso_control {ev : CintaScanner.Evento α} (h : CintaScanner.paso S s ev = some t) :
    SinRegistros S s t ∨ ∃ i, Registro i s t := by
  cases ev with
  | ponerEquipaje equipaje =>
    simp only [CintaScanner.paso] at h
    split at h <;> cases h
    exact .inl (sinRegistros_of_eq rfl rfl)
  | productor => exact .inl (pasoProductor_control h)
  | construir i =>
    simp only [CintaScanner.paso] at h
    split at h
    case h_1 hpc =>
      split at h <;> cases h
      rename_i hi
      exact .inl (sinRegistros_irEscaner (fun _ => hi) rfl (by rw [hpc]; rfl) rfl)
    case h_2 => cases h
  | sacarEquipaje i =>
    simp only [CintaScanner.paso] at h
    split at h
    case h_1 hpc =>
      cases h
      exact .inl (sinRegistros_irEscaner (by rw [hpc]; rintro ⟨⟩) rfl (by rw [hpc]; rfl) rfl)
    case h_2 => cases h
  | escaner i => exact (pasoEscaner_control h).imp id fun h => ⟨i, h⟩

end

/-! ## The run -/

variable {S N : Nat} {ranura : Nat → α} {s t : Estado α} {ev : Evento α}

structure Inv (S : Nat) (s : Estado α) : Prop where
  rango : EnRango S s.comun
  -- nobody writes -1 in the control memory again
  llena : ∀ k, (s.comun.escaner k).registrado = true ∨ 0 < s.bajas k → s.comun.control.cintaLlena k ≠ -1
  -- everyone who has left is still counted
  activos : s.comun.control.cantidadDeEscanersActivos =
    registrados S s.comun.escaner + ∑ k ∈ Finset.range S, s.bajas k
  bajas : ∀ k, S ≤ k → s.bajas k = 0

theorem registrados_update {i : Nat} (hi : i < S) (escaner : Nat → PcEscaner α) (pc : PcEscaner α) :
    registrados S (Function.update escaner i pc) + (escaner i).registrado.toNat =
      registrados S escaner + pc.registrado.toNat :=
  suma_update (fun _ pc => pc.registrado.toNat) escaner (Finset.mem_range.mpr hi) pc

theorem inv_inicial : Inv S (inicial N ranura) where
  rango _ _ := rfl
  llena k h := by
    rcases h with h | h
    · cases h
    · exact absurd h (Nat.lt_irrefl 0)
  activos := by
    simp [inicial, CintaScanner.inicial, registrados, PcEscaner.registrado]
  bajas _ _ := rfl

theorem construido_registrado {pc : PcEscaner α} (h : construido pc = true) : pc.registrado = true := by
  cases pc <;> first | rfl | cases h

theorem Inv.cinta (h : Inv S s) {ev : CintaScanner.Evento α} {comun : CintaScanner.Estado α}
    (hpaso : CintaScanner.paso S s.comun ev = some comun) (imagen : Nat → Control) :
    Inv S { s with comun := comun, imagen := imagen } := by
  rcases paso_control hpaso with hsin | ⟨i, hestaba, ⟨despierta, hescaner⟩, hactivos, hllena⟩
  · refine ⟨hsin.rango h.rango, fun k hk => hsin.llena k (h.llena k ?_), ?_, h.bajas⟩
    · rwa [← hsin.registrado k]
    · dsimp only
      rw [hsin.activos, h.activos]
      exact congrArg (· + _) (Finset.sum_congr rfl fun k _ => by rw [hsin.registrado k])
  · have hi : s.comun.escaner i = .sinRegistrar → i < S := by
      rw [hestaba]
      rintro ⟨⟩
    have hiS : i < S := by
      by_contra hno
      rw [h.rango i (by omega)] at hestaba
      cases hestaba
    refine ⟨fun k hk => ?_, fun k hk => hllena k ?_, ?_, h.bajas⟩
    · dsimp only
      rw [hescaner, h.rango.update hi hk]
    · dsimp only at hk
      rw [hescaner] at hk
      by_cases hki : k = i
      · exact .inr hki
      · rw [Function.update_of_ne hki] at hk
        exact .inl (h.llena k hk)
    · have hsuma := registrados_update hiS s.comun.escaner (.sueltaControlRegistro despierta)
      have hantes := h.activos
      rw [hestaba] at hsuma
      have hcero : (PcEscaner.registrando : PcEscaner α).registrado.toNat = 0 := rfl
      have huno : (PcEscaner.sueltaControlRegistro despierta : PcEscaner α).registrado.toNat = 1 := rfl
      dsimp only
      rw [hactivos, hescaner]
      omega

theorem Inv.destruir (h : Inv S s) {i : Nat} (hpaso : paso S s (.destruir i) = some t) : Inv S t := by
  rw [paso] at hpaso
  split at hpaso <;> cases hpaso
  rename_i hconstruido
  have hreg : (s.comun.escaner i).registrado = true := construido_registrado hconstruido
  have hiS : i < S := by
    by_contra hno
    rw [h.rango i (by omega)] at hreg
    cases hreg
  refine ⟨fun k hk => h.rango.update (fun _ => hiS) hk, fun k hk => ?_, ?_, fun k hk => ?_⟩
  · -- the control memory stays, and scanner `i` was registered
    refine h.llena k ?_
    by_cases hki : k = i
    · exact .inl (hki ▸ hreg)
    · dsimp only [CintaScanner.Estado.irEscaner] at hk
      rwa [Function.update_of_ne hki, Function.update_of_ne hki] at hk
  · have hsuma := registrados_update hiS s.comun.escaner .sinRegistrar
    have hbajas := suma_update (fun _ (n : Nat) => n) s.bajas (Finset.mem_range.mpr hiS) (s.bajas i + 1)
    have hantes := h.activos
    rw [hreg] at hsuma
    have hcero : (PcEscaner.sinRegistrar : PcEscaner α).registrado.toNat = 0 := rfl
    have huno : true.toNat = 1 := rfl
    dsimp only [CintaScanner.Estado.irEscaner]
    omega
  · dsimp only
    rw [Function.update_of_ne (by omega), h.bajas k hk]

theorem inv_alcanza (hs : Alcanza (paso S) (inicial N ranura) s) : Inv S s := by
  refine hs.induccion inv_inicial fun a e b ha hpaso => ?_
  cases e with
  | cinta ev =>
    simp only [paso] at hpaso
    split at hpaso <;> cases hpaso
    exact ha.cinta ‹_› _
  | destruir i => exact ha.destruir hpaso

/-- In every run, a scanner that has left is not marked as such, and it is still counted: what the
    destructor writes stays in the image of the scanner. -/
theorem nunca_dado_de_baja (hs : Alcanza (paso S) (inicial N ranura) s) {i : Nat} (hi : SeFue s i) :
    s.comun.control.cintaLlena i ≠ -1 ∧
      registrados S s.comun.escaner < s.comun.control.cantidadDeEscanersActivos ∧ ¬DadoDeBaja S s i := by
  have h := inv_alcanza hs
  have hllena : s.comun.control.cintaLlena i ≠ -1 := h.llena i (.inr hi.1)
  have hiS : i < S := by
    by_contra hno
    rw [SeFue, h.bajas i (by omega)] at hi
    exact absurd hi.1 (Nat.lt_irrefl 0)
  have hbaja := Finset.single_le_sum (f := s.bajas) (fun _ _ => Nat.zero_le _) (Finset.mem_range.mpr hiS)
  have hpos := hi.1
  refine ⟨hllena, ?_, fun hbien => hllena hbien.llena⟩
  rw [h.activos]
  omega

/-- The only scanner leaves, and after that a bag comes. -/
def unaBaja : List (Evento Nat) :=
  [.cinta (.construir 0), .cinta (.escaner 0), .cinta (.escaner 0), .cinta (.escaner 0), .destruir 0,
    .cinta (.ponerEquipaje 7), .cinta .productor, .cinta .productor, .cinta .productor, .cinta .productor,
    .cinta .productor, .cinta .productor]

def trasLaBaja : Estado Nat :=
  (correr (paso 1) (inicial 2 fun _ => 0) unaBaja).getD (inicial 2 fun _ => 0)

theorem alcanza_trasLaBaja : Alcanza (paso 1) (inicial 2 fun _ => 0) trasLaBaja := ⟨unaBaja, rfl⟩

theorem una_baja : trasLaBaja.comun.control.cintaLlena 0 ≠ -1 ∧
    registrados 1 trasLaBaja.comun.escaner < trasLaBaja.comun.control.cantidadDeEscanersActivos ∧
      ¬DadoDeBaja 1 trasLaBaja 0 :=
  nunca_dado_de_baja alcanza_trasLaBaja ⟨Nat.zero_lt_one, rfl⟩

/-- Its belt is marked with room, it is counted, and it gets the bag. -/
theorem equipaje_en_cinta_abandonada : Alcanza (paso 1) (inicial 2 fun _ => 0) trasLaBaja ∧
    SeFue trasLaBaja 0 ∧ trasLaBaja.comun.control.cintaLlena 0 = 0 ∧
      trasLaBaja.comun.control.cantidadDeEscanersActivos = 1 ∧ registrados 1 trasLaBaja.comun.escaner = 0 ∧
        trasLaBaja.puestosAlSalir 0 = [] ∧ trasLaBaja.comun.puestos 0 = [7] ∧
          ¬∀ i, SeFue trasLaBaja i → DadoDeBaja 1 trasLaBaja i := by
  have hseFue : SeFue trasLaBaja 0 := ⟨Nat.zero_lt_one, rfl⟩
  refine ⟨alcanza_trasLaBaja, hseFue, rfl, rfl, rfl, rfl, rfl, fun h => ?_⟩
  exact absurd (h 0 hseFue).llena (by decide)

end CintaScannerBaja
