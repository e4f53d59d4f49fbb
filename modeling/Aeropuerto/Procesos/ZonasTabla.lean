import Aeropuerto.Procesos.ZonasSegura

/-!
# The table of the tower and the life of a flight

At the end of a load the robot of a zone erases from the table the flight whose number is that of the
zone.  In the runs in which this is also the flight that has been loaded, or in which neither of the
two is in the table, a flight is there only from its assignment to the end of its own load.
-/

namespace Zonas

open Ejecucion RobotCarga ZonasAsignadas

variable {N M z : Nat} {vuelos : Nat → Nat} {s s' : Estado}

/-- The robot has called `desasignar_vuelo` and not yet begun the next load. -/
def trasDesasignar : PcRobot → Bool
  | .envia | .libera | .comienza => true
  | _ => false

/-- The flights in the table are being loaded, and the robot has erased the one whose load it has
    ended before it frees the zone. -/
structure TablaSigue (s : Estado) : Prop where
  vigente : ∀ zonas, s.torre = some zonas → ∀ i < maxZonas, ∀ v : Nat, zonas i = v →
    s.enCarga v = true
  antesDeLiberar : ∀ z v, trasDesasignar (s.zona z).estado.robot = true →
    (s.zona z).estado.visto = some v → ∀ zonas, s.torre = some zonas → ∀ i < maxZonas, zonas i ≠ v

/-- The entry of `v` is erased and no other one changes. -/
def BorraSolo (zonas zonas' : Tabla) (v : Nat) : Prop :=
  ∀ i < maxZonas, zonas' i = if zonas i = v then -1 else zonas i

/-- The call of the robot of zone `z + 1` erases flight `v`: it is the flight with that number, or
    neither of the two is in the table. -/
def Acierta (zonas : Tabla) (z v : Nat) : Prop :=
  v = z + 1 ∨ ∀ i < maxZonas, zonas i ≠ (v : Int) ∧ zonas i ≠ ((z + 1 : Nat) : Int)

instance (zonas : Tabla) (z v : Nat) : Decidable (Acierta zonas z v) :=
  inferInstanceAs (Decidable (v = z + 1 ∨
    ∀ i < maxZonas, zonas i ≠ (v : Int) ∧ zonas i ≠ ((z + 1 : Nat) : Int)))

/-- Every end of a load erases the flight that has been loaded. -/
def acierta (s : Estado) : Evento → Bool
  | .zona z .robot =>
    match (s.zona z).estado.robot, (s.zona z).estado.visto, s.torre with
    | .desasigna, some v, some zonas => decide (Acierta zonas z v)
    | _, _, _ => true
  | _ => true

/-! ## One call of `desasignar_vuelo` -/

theorem borraSolo_iff (zonas : Tabla) (z v : Nat) :
    BorraSolo zonas (desasignarVuelo zonas (z + 1)) v ↔ Acierta zonas z v := by
  have hcelda : ∀ i < maxZonas, desasignarVuelo zonas (z + 1) i =
      if zonas i = ((z + 1 : Nat) : Int) then -1 else zonas i := by
    intro i hi
    simp [desasignarVuelo, hi]
  constructor
  · intro h
    refine or_iff_not_imp_left.mpr fun hne i hi => ?_
    have hi' := (hcelda i hi).symm.trans (h i hi)
    split at hi' <;> split at hi' <;> omega
  · rintro (rfl | hsin) i hi
    · exact hcelda i hi
    · rw [hcelda i hi, if_neg (hsin i hi).2, if_neg (hsin i hi).1]

/-! ## The flights -/

/-- A flight that has closed its check-in is past its assignment. -/
def InvVuelos (s : Estado) : Prop :=
  ∀ z v, (s.zona z).estado.vuelo v = .cerrando ∨ (s.zona z).estado.vuelo v = .avisado →
    s.controlador v = .checkin z

/-- A robot past `desasignar_vuelo` has just made the call, or was there before. -/
theorem pasoRobot_tras {a b : RobotCarga.Estado} {v : Nat} (hs : pasoRobot z a = some b)
    (htras : trasDesasignar b.robot = true) (hvisto : b.visto = some v) :
    a.visto = some v ∧ (a.robot = .desasigna ∨ trasDesasignar a.robot = true) := by
  cases hpc : a.robot <;> simp only [pasoRobot, hpc] at hs
  case lazo => split at hs <;> cases hs <;> cases htras
  case espera =>
    split at hs <;> cases hs
    cases htras
  case seccion => split at hs <;> cases hs <;> cases htras
  case evalua =>
    cases hs
    rw [evaluar_eq] at htras
    dsimp only at htras
    split at htras <;> cases htras
  case desasigna =>
    cases hs
    exact ⟨hvisto, .inl rfl⟩
  case envia =>
    cases hs
    exact ⟨hvisto, .inr rfl⟩
  case libera =>
    cases hs
    exact ⟨hvisto, .inr rfl⟩
  all_goals
    cases hs
    cases htras

section Pasos

variable {t : Estado} {e : RobotCarga.Evento} {x : Zona}

/-- In a zone a flight is closing only after `cerrar_checkin`, and only the robot moves itself. -/
theorem zona_fuera (hx : (s.zona z).paso z e = some x) :
    (∀ v, x.estado.vuelo v = .cerrando ∨ x.estado.vuelo v = .avisado →
      e = .cerrarCheckin v ∨
        (s.zona z).estado.vuelo v = .cerrando ∨ (s.zona z).estado.vuelo v = .avisado) ∧
      (e = .robot ∨ (x.estado.robot = (s.zona z).estado.robot ∧
        x.estado.visto = (s.zona z).estado.visto)) := by
  cases e with
  | robot =>
    obtain ⟨b, hb, rfl⟩ := Option.map_eq_some_iff.mp hx
    refine ⟨fun v hv => .inr ?_, .inl rfl⟩
    rw [← (pasoRobot_zonasLibres hb).2.1]
    exact hv
  | control =>
    simp only [Zona.paso] at hx
    split at hx
    · cases hx
    · obtain ⟨b, hb, rfl⟩ := Option.map_eq_some_iff.mp hx
      simp only [pasoControl] at hb
      split at hb <;> [skip; split at hb; skip] <;> cases hb <;>
        exact ⟨fun _ hv => .inr hv, .inr ⟨rfl, rfl⟩⟩
  | pedirZona v =>
    obtain ⟨b, hb, rfl⟩ := Option.map_eq_some_iff.mp hx
    simp only [RobotCarga.paso] at hb
    split at hb <;> [split at hb; skip] <;> cases hb
    refine ⟨fun u hu => .inr ?_, .inr ⟨rfl, rfl⟩⟩
    by_cases huv : u = v
    · simp only [huv, Function.update_self] at hu
      rcases hu with hu | hu <;> cases hu
    · simpa only [Function.update_of_ne huv] using hu
  | cerrarCheckin v =>
    obtain ⟨b, hb, rfl⟩ := Option.map_eq_some_iff.mp hx
    simp only [RobotCarga.paso] at hb
    split at hb <;> cases hb
    refine ⟨fun u hu => ?_, .inr ⟨rfl, rfl⟩⟩
    by_cases huv : u = v
    · exact .inl (huv ▸ rfl)
    · exact .inr (by simpa only [Function.update_of_ne huv] using hu)
  | cargarEquipajes v total =>
    obtain ⟨b, hb, rfl⟩ := Option.map_eq_some_iff.mp hx
    simp only [RobotCarga.paso] at hb
    split at hb <;> cases hb
    rename_i hv
    refine ⟨fun u hu => .inr ?_, .inr ⟨rfl, rfl⟩⟩
    by_cases huv : u = v
    · exact .inl (huv ▸ hv)
    · simpa only [Function.update_of_ne huv] using hu
  | _ =>
    obtain ⟨b, hb, rfl⟩ := Option.map_eq_some_iff.mp hx
    simp only [RobotCarga.paso] at hb
    split at hb <;> cases hb
    exact ⟨fun _ hv => .inr hv, .inr ⟨rfl, rfl⟩⟩

theorem efecto_controlador (ht : efecto s z e = some t) (v : Nat) :
    t.controlador v = s.controlador v ∨ s.controlador v = .pideZona := by
  cases e with
  | robot =>
    simp only [efecto] at ht
    split at ht <;> [skip; skip; (obtain ⟨zonas, -, ht⟩ := Option.map_eq_some_iff.mp ht); skip] <;>
      cases ht <;> exact .inl rfl
  | control =>
    simp only [efecto] at ht
    split at ht <;> cases ht <;> exact .inl rfl
  | pedirZona u =>
    simp only [efecto] at ht
    split at ht
    case h_2 => cases ht
    rename_i hu _
    split at ht <;> cases ht
    by_cases h : v = u
    · exact .inr (h ▸ hu)
    · exact .inl (Function.update_of_ne h ..)
  | cerrarCheckin u =>
    simp only [efecto] at ht
    split at ht <;> cases ht
    exact .inl rfl
  | _ =>
    cases ht
    exact .inl rfl

/-- Inside the zones only `desasignar_vuelo` changes the table. -/
theorem efecto_tabla (ht : efecto s z e = some t) :
    (t.torre = s.torre ∧ t.enCarga = s.enCarga ∧
        (e = .robot → (s.zona z).estado.robot ≠ .desasigna)) ∨
      (e = .robot ∧ (s.zona z).estado.robot = .desasigna ∧
        t.enCarga = terminarCarga s.enCarga (s.zona z).estado.visto ∧
        ∃ zonas, s.torre = some zonas ∧ t.torre = some (desasignarVuelo zonas (z + 1))) := by
  cases e with
  | robot =>
    simp only [efecto] at ht
    split at ht
    · rename_i hpc
      cases ht
      exact .inl ⟨rfl, rfl, fun _ h => by cases hpc.symm.trans h⟩
    · rename_i hpc
      cases ht
      exact .inl ⟨rfl, rfl, fun _ h => by cases hpc.symm.trans h⟩
    · rename_i hpc
      obtain ⟨zonas, hzonas, rfl⟩ := Option.map_eq_some_iff.mp ht
      exact .inr ⟨rfl, hpc, rfl, zonas, hzonas, rfl⟩
    · rename_i hno
      cases ht
      exact .inl ⟨rfl, rfl, fun _ => hno⟩
  | control =>
    simp only [efecto] at ht
    split at ht <;> cases ht <;> exact .inl ⟨rfl, rfl, fun he => by cases he⟩
  | pedirZona u =>
    simp only [efecto] at ht
    split at ht <;> [split at ht; skip] <;> cases ht
    exact .inl ⟨rfl, rfl, fun he => by cases he⟩
  | cerrarCheckin u =>
    simp only [efecto] at ht
    split at ht <;> cases ht
    exact .inl ⟨rfl, rfl, fun he => by cases he⟩
  | _ =>
    cases ht
    exact .inl ⟨rfl, rfl, fun he => by cases he⟩

end Pasos

theorem invVuelos_paso {e : Evento} (h : InvVuelos s) (hs : paso s e = some s') :
    InvVuelos s' := by
  cases e with
  | zona z e =>
    obtain ⟨x, t, hx, ht, rfl⟩ := paso_zona hs
    have hzona : t.zona = s.zona := (efecto_qZonas hx ht z).1
    have hsigue : ∀ z' v, s.controlador v = .checkin z' → t.controlador v = .checkin z' := by
      intro z' v hv
      rcases efecto_controlador ht v with hmismo | hpide
      · exact hmismo.trans hv
      · cases hpide.symm.trans hv
    intro z' v hv
    by_cases hz : z' = z
    · subst hz
      simp only [Function.update_self] at hv
      refine hsigue z' v ?_
      rcases (zona_fuera hx).1 v hv with rfl | hv
      · simp only [efecto] at ht
        split at ht
        · assumption
        · cases ht
      · exact h z' v hv
    · simp only [Function.update_of_ne hz, hzona] at hv
      exact hsigue z' v (h z' v hv)
  | asignarVuelo u =>
    simp only [paso] at hs
    split at hs
    case h_2 => cases hs
    rename_i z zonas hz _
    split at hs <;> cases hs
    · intro z' v hv
      have hne : v ≠ u := by
        rintro rfl
        cases hz.symm.trans (h z' v hv)
      show Function.update s.controlador u _ v = _
      rw [Function.update_of_ne hne]
      exact h z' v hv
    · exact h

/-! ## The table -/

/-- The invariant behind `TablaSigue`. -/
structure InvTabla (s : Estado) : Prop where
  vigente : ∀ zonas, s.torre = some zonas → ∀ i < maxZonas, ∀ v : Nat, zonas i = v →
    s.enCarga v = true
  terminada : ∀ z v, trasDesasignar (s.zona z).estado.robot = true →
    (s.zona z).estado.visto = some v → s.enCarga v = false

theorem InvTabla.sigue (h : InvTabla s) : TablaSigue s where
  vigente := h.vigente
  antesDeLiberar z v htras hvisto zonas hzonas i hi hiv := by
    have hvigente := h.vigente zonas hzonas i hi v hiv
    rw [h.terminada z v htras hvisto] at hvigente
    cases hvigente

theorem terminarCarga_eq_false {enCarga : Nat → Bool} {visto : Option Nat} {v : Nat}
    (h : enCarga v = false ∨ visto = some v) : terminarCarga enCarga visto v = false := by
  unfold terminarCarga
  split
  · rename_i u
    by_cases huv : v = u
    · rw [huv, Function.update_self]
    · rw [Function.update_of_ne huv]
      rcases h with h | h
      · exact h
      · exact absurd (Option.some.inj h).symm huv
  · rcases h with h | h
    · exact h
    · cases h

theorem terminarCarga_eq_true {enCarga : Nat → Bool} {visto : Option Nat} {v : Nat}
    (h : enCarga v = true) (hv : visto ≠ some v) : terminarCarga enCarga visto v = true := by
  unfold terminarCarga
  split
  · rename_i u
    rw [Function.update_of_ne fun he => hv (congrArg some he.symm)]
    exact h
  · exact h

/-- The end of a load, when it erases the right flight. -/
theorem invTabla_desasigna {zonas : Tabla} {enCarga : Nat → Bool} {visto : Option Nat}
    (h : ∀ i < maxZonas, ∀ v : Nat, zonas i = v → enCarga v = true)
    (hc : ∀ v, visto = some v → Acierta zonas z v) :
    ∀ i < maxZonas, ∀ v : Nat, desasignarVuelo zonas (z + 1) i = v →
      terminarCarga enCarga visto v = true := by
  intro i hi u hu
  have hcelda : zonas i ≠ ((z + 1 : Nat) : Int) ∧ zonas i = u := by
    simp only [desasignarVuelo, hi, true_and] at hu
    split at hu
    · omega
    · exact ⟨by omega, hu⟩
  refine terminarCarga_eq_true (h i hi u hcelda.2) fun hvisto => ?_
  rcases hc u hvisto with rfl | hsin
  · exact hcelda.1 hcelda.2
  · exact (hsin i hi).1 hcelda.2

theorem invTabla_paso {e : Evento} (hinv : Inv s) (hvuelos : InvVuelos s) (h : InvTabla s)
    (hc : acierta s e = true) (hs : paso s e = some s') : InvTabla s' := by
  cases e with
  | zona z e =>
    obtain ⟨x, t, hx, ht, rfl⟩ := paso_zona hs
    have hzona : t.zona = s.zona := (efecto_qZonas hx ht z).1
    rcases efecto_tabla ht with ⟨htorre, hcarga, hno⟩ | ⟨rfl, hpc, hcarga, zonas, hzonas, htorre⟩
    · refine ⟨htorre ▸ hcarga ▸ h.vigente, fun z' v htras hvisto => ?_⟩
      show t.enCarga v = false
      rw [hcarga]
      by_cases hz : z' = z
      · subst hz
        simp only [Function.update_self] at htras hvisto
        rcases (zona_fuera hx).2 with rfl | ⟨hrobot, hv⟩
        · obtain ⟨b, hb, rfl⟩ := Option.map_eq_some_iff.mp hx
          obtain ⟨hantes, hpc | htras⟩ := pasoRobot_tras hb htras hvisto
          · exact absurd hpc (hno rfl)
          · exact h.terminada z' v htras hantes
        · exact h.terminada z' v (hrobot ▸ htras) (hv ▸ hvisto)
      · simp only [Function.update_of_ne hz, hzona] at htras hvisto
        exact h.terminada z' v htras hvisto
    · refine ⟨fun zonas' hzonas' => ?_, fun z' v htras hvisto => ?_⟩
      · cases htorre.symm.trans hzonas'
        show ∀ i < maxZonas, ∀ v : Nat, _ → t.enCarga v = true
        rw [hcarga]
        refine invTabla_desasigna (h.vigente zonas hzonas) fun v hv => ?_
        simpa only [acierta, hpc, hv, hzonas, decide_eq_true_eq] using hc
      · show t.enCarga v = false
        rw [hcarga]
        by_cases hz : z' = z
        · subst hz
          simp only [Function.update_self] at htras hvisto
          obtain ⟨b, hb, rfl⟩ := Option.map_eq_some_iff.mp hx
          exact terminarCarga_eq_false (.inr (pasoRobot_tras hb htras hvisto).1)
        · simp only [Function.update_of_ne hz, hzona] at htras hvisto
          exact terminarCarga_eq_false (.inl (h.terminada z' v htras hvisto))
  | asignarVuelo u =>
    simp only [paso] at hs
    split at hs
    case h_2 => cases hs
    rename_i z zonas hz hzonas
    split at hs <;> cases hs
    · rename_i zonas' hasignar
      refine ⟨fun zonas'' hzonas'' i hi v hiv => ?_, fun z' v htras hvisto => ?_⟩
      · cases hzonas''
        unfold asignarVuelo at hasignar
        split at hasignar <;> cases hasignar
        show Function.update s.enCarga u true v = true
        by_cases hvu : v = u
        · rw [hvu, Function.update_self]
        · rw [Function.update_of_ne hvu]
          refine h.vigente zonas hzonas i hi v ?_
          rw [← hiv, Function.update_apply, if_neg]
          rintro rfl
          rw [Function.update_self] at hiv
          omega
      · have hne : v ≠ u := by
          rintro rfl
          have havisado := (hinv.zona z').vistoAvisado v hvisto
          cases hz.symm.trans (hvuelos z' v (.inr havisado))
        show Function.update s.enCarga u true v = false
        rw [Function.update_of_ne hne]
        exact h.terminada z' v htras hvisto
    · exact ⟨by simp, h.terminada⟩

theorem inv_tabla_inicial (ranura : Nat → Equipaje) :
    Inv (inicial N M ranura vuelos) ∧ InvVuelos (inicial N M ranura vuelos) ∧
      InvTabla (inicial N M ranura vuelos) := by
  refine ⟨inv_inicial ranura, ?_, fun zonas hzonas i _ v hiv => ?_, nofun⟩
  · rintro z v (hv | hv) <;> cases hv
  · cases hzonas
    cases hiv

/-- In the runs whose ends of a load all erase the flight that has been loaded, the table follows the
    flights, and an end of a load erases that flight and nothing else exactly under that condition. -/
theorem tabla_sigue_a_los_vuelos (ranura : Nat → Equipaje)
    (h : AlcanzaBajo (fun s e => acierta s e = true) paso (inicial N M ranura vuelos) s) :
    TablaSigue s ∧
      ∀ z v zonas, (s.zona z).estado.robot = .desasigna → (s.zona z).estado.visto = some v →
        s.torre = some zonas → ∀ s', paso s (.zona z .robot) = some s' →
          ∃ zonas', s'.torre = some zonas' ∧
            (BorraSolo zonas zonas' v ↔ acierta s (.zona z .robot) = true) := by
  have hinv : Inv s ∧ InvVuelos s ∧ InvTabla s :=
    h.induccion (I := fun s => Inv s ∧ InvVuelos s ∧ InvTabla s) (inv_tabla_inicial ranura)
      fun a e b ha hc hb =>
        ⟨inv_paso ha.1 hb, invVuelos_paso ha.2.1 hb, invTabla_paso ha.1 ha.2.1 ha.2.2 hc hb⟩
  refine ⟨hinv.2.2.sigue, fun z v zonas hpc hvisto hzonas s' hs => ?_⟩
  obtain ⟨x, t, hx, ht, rfl⟩ := paso_zona hs
  rcases efecto_tabla ht with ⟨-, -, hno⟩ | ⟨-, -, -, zonas', hzonas', htorre⟩
  · exact absurd hpc (hno rfl)
  · cases hzonas.symm.trans hzonas'
    refine ⟨_, htorre, ?_⟩
    rw [borraSolo_iff]
    simp only [acierta, hpc, hvisto, hzonas, decide_eq_true_eq]

/-- The first zone with its robot and its control: flight `v` receives the zone, is assigned, puts one
    bag on the belt and closes, and the robot loads the bag and calls `desasignar_vuelo`. -/
def unVuelo (v : Nat) : List Evento :=
  [.zona 0 .robot, .zona 0 .control, .zona 0 (.pedirZona v), .asignarVuelo v,
    .zona 0 (.ponerEquipaje ⟨7, v⟩), .zona 0 .waitDespacho, .zona 0 .seccionDespacho, .zona 0 .robot,
    .zona 0 .robot, .zona 0 .robot, .zona 0 .robot, .zona 0 (.cerrarCheckin v),
    .zona 0 (.cargarEquipajes v 1), .zona 0 .control, .zona 0 .control, .zona 0 .robot,
    .zona 0 .robot, .zona 0 .robot, .zona 0 .robot, .zona 0 .robot, .zona 0 .robot, .zona 0 .robot]

/-- Flight 1 in zone 1: its number is that of the zone. -/
theorem tabla_sigue_a_los_vuelos_uno :
    ∃ s : Estado, trasDesasignar (s.zona 0).estado.robot = true ∧
      (s.zona 0).estado.visto = some 1 ∧ TablaSigue s := by
  have hrun : (correr (pasoBajo (fun s e => acierta s e = true) paso)
      (inicial 10 8 (fun _ => .vacio) fun _ => 0) (unVuelo 1)).map
        (fun s : Estado => (trasDesasignar (s.zona 0).estado.robot, (s.zona 0).estado.visto)) =
      some (true, some 1) := by
    decide +kernel
  obtain ⟨s, hs, hvalores⟩ := Option.map_eq_some_iff.mp hrun
  obtain ⟨htras, hvisto⟩ : _ ∧ _ := by simpa only [Prod.mk.injEq] using hvalores
  exact ⟨s, htras, hvisto, (tabla_sigue_a_los_vuelos (fun _ => .vacio) ⟨unVuelo 1, hs⟩).1⟩

/-- Flight 7 in zone 1 is still in the table after the end of its load. -/
theorem tabla_conserva_vuelo :
    ¬ ∀ s : Estado, Alcanza paso (inicial 10 8 (fun _ => .vacio) fun _ => 0) s → TablaSigue s := by
  intro h
  have hrun : (correr paso (inicial 10 8 (fun _ => .vacio) fun _ => 0) (unVuelo 7)).map (fun s : Estado =>
      (trasDesasignar (s.zona 0).estado.robot, (s.zona 0).estado.visto,
        s.torre.map fun zonas => zonas 0)) = some (true, some 7, some 7) := by
    decide +kernel
  obtain ⟨s, hs, hvalores⟩ := Option.map_eq_some_iff.mp hrun
  obtain ⟨htras, hvisto, htorre⟩ : _ ∧ _ ∧ _ := by simpa only [Prod.mk.injEq] using hvalores
  obtain ⟨zonas, hzonas, hcero⟩ := Option.map_eq_some_iff.mp htorre
  exact (h s ⟨unVuelo 7, hs⟩).antesDeLiberar 0 7 htras hvisto zonas hzonas 0 (by decide) hcero

end Zonas
