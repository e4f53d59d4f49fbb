import Aeropuerto.Procesos.RobotCargaSegura
import Aeropuerto.Procesos.Zonas

/-!
# Who has a zone, and which flights are in the table

Each zone enters `Q_ZONAS` once for each constructor of `ApiCarga`, that of its robot and that of its
control, and from then on it is moved between the queue and the flights that use it.  For that the
load that the robot ends has to be one of a flight that has the zone: the closes on their way to the
robot are of different flights, all of them still in the zone.
-/

namespace Zonas

open Ejecucion RobotCarga

variable {N M z vuelo : Nat} {vuelos : Nat → Nat}

/-! ## One zone -/

def lanzado : PcRobot → Nat
  | .arranque => 0
  | _ => 1

def controlLanzado : PcControl → Nat
  | .arranque => 0
  | _ => 1

/-- The zone is back in the queue and the belt is still to be reset. -/
def libero : PcRobot → Bool
  | .comienza => true
  | _ => false

def avisando : PcControl → List Nat
  | .avisa mensaje => [mensaje.vuelo]
  | _ => []

/-- The flight whose close is on the belt, until the zone is freed for it. -/
def enCinta (s : RobotCarga.Estado) : List Nat :=
  if s.yaMeDesperto then (if libero s.robot then [] else s.visto.toList) else s.cierre.toList

/-- The flights of the closes that are on their way to the robot. -/
def cierres (s : RobotCarga.Estado) : List Nat :=
  enCinta s ++ (avisando s.control ++ s.colaAviso.map MensajeCheckinCerrado.vuelo)

/-- Their closes are of different flights, which have the zone. -/
structure InvZona (x : Zona) : Prop where
  cuenta : x.estado.zonasLibres + x.enUso.length =
    lanzado x.estado.robot + controlLanzado x.estado.control
  anunciado : x.estado.cinta.checkinCerrado = 1 → x.estado.cierre.isSome = true
  visto : x.estado.yaMeDesperto = true → x.estado.visto.isSome = true
  cerro : x.estado.locales.checkinCerro = true → x.estado.yaMeDesperto = true
  terminando : x.estado.robot.terminando = true → x.estado.locales.checkinCerro = true
  sinRepetir : (cierres x.estado).Nodup
  enUso : ∀ v ∈ cierres x.estado, v ∈ x.enUso
  avisado : ∀ v ∈ cierres x.estado, x.estado.vuelo v = .avisado
  vistoAvisado : ∀ v, x.estado.visto = some v → x.estado.vuelo v = .avisado
  conZona : ∀ v, x.estado.vuelo v = .conZona ∨ x.estado.vuelo v = .cerrando → v ∈ x.enUso

theorem invZona_inicial (ranura : Nat → Equipaje) :
    InvZona ⟨RobotCarga.inicial N M ranura vuelo, []⟩ where
  cuenta := rfl
  anunciado := nofun
  visto := nofun
  cerro := nofun
  terminando := nofun
  sinRepetir := List.nodup_nil
  enUso := nofun
  avisado := nofun
  vistoAvisado := nofun
  conZona := by rintro v (h | h) <;> cases h

section UnaZona

variable {x y : Zona} {t : RobotCarga.Estado}

/-- A step of the robot that is neither the first nor touches the close. -/
theorem InvZona.interno (h : InvZona x) {cinta : CintaCarga.Compartido Equipaje} {robot : PcRobot}
    {locales : Locales} {numeroDeVuelo : Nat} {leido : Option Nat}
    (hlanzado : lanzado robot = lanzado x.estado.robot)
    (hlibero : libero robot = libero x.estado.robot)
    (hcerrado : cinta.checkinCerrado = x.estado.cinta.checkinCerrado)
    (hcerro : locales.checkinCerro = true → x.estado.yaMeDesperto = true)
    (hterminando : robot.terminando = true → locales.checkinCerro = true) :
    InvZona ⟨{ x.estado with
      cinta := cinta, robot := robot, locales := locales, numeroDeVuelo := numeroDeVuelo
      leido := leido }, x.enUso⟩ := by
  have hcierres : cierres { x.estado with
      cinta := cinta, robot := robot, locales := locales, numeroDeVuelo := numeroDeVuelo
      leido := leido } = cierres x.estado := by
    simp only [cierres, enCinta, hlibero]
  refine { h with
    cuenta := ?_, anunciado := hcerrado ▸ h.anunciado, cerro := hcerro
    terminando := hterminando, sinRepetir := ?_, enUso := ?_, avisado := ?_ }
  · rw [hlanzado]
    exact h.cuenta
  · rw [hcierres]
    exact h.sinRepetir
  · rw [hcierres]
    exact h.enUso
  · rw [hcierres]
    exact h.avisado

theorem InvZona.sigue (h : InvZona x) {cinta : CintaCarga.Compartido Equipaje} {robot : PcRobot}
    {locales : Locales} {numeroDeVuelo : Nat} {leido : Option Nat}
    (hlanzado : lanzado robot = lanzado x.estado.robot)
    (hlibero : libero robot = libero x.estado.robot)
    (hcerrado : cinta.checkinCerrado = x.estado.cinta.checkinCerrado)
    (hcerro : locales.checkinCerro = true → x.estado.yaMeDesperto = true)
    (hterminando : robot.terminando = false) :
    InvZona ⟨{ x.estado with
      cinta := cinta, robot := robot, locales := locales, numeroDeVuelo := numeroDeVuelo
      leido := leido }, x.enUso⟩ := by
  refine h.interno hlanzado hlibero hcerrado hcerro fun he => ?_
  rw [hterminando] at he
  cases he

/-- Where fewer closes are on their way, the rest keeps its properties. -/
theorem InvZona.menos (h : InvZona x) (hvuelo : t.vuelo = x.estado.vuelo)
    (hmenos : (cierres t).Sublist (cierres x.estado)) :
    (cierres t).Nodup ∧ (∀ v ∈ cierres t, v ∈ x.enUso) ∧ ∀ v ∈ cierres t, t.vuelo v = .avisado :=
  ⟨h.sinRepetir.sublist hmenos, fun v hv => h.enUso v (hmenos.subset hv),
    fun v hv => hvuelo ▸ h.avisado v (hmenos.subset hv)⟩

/-- The flight whose load the robot has ended has the zone, and its close is the only one seen. -/
theorem InvZona.libera (h : InvZona x) (hpc : x.estado.robot = .libera) :
    ∃ v, x.estado.visto = some v ∧ v ∈ x.enUso ∧ x.liberar = x.enUso.erase v ∧
      cierres x.estado =
        v :: (avisando x.estado.control ++ x.estado.colaAviso.map MensajeCheckinCerrado.vuelo) := by
  have hya := h.cerro (h.terminando (by rw [hpc]; rfl))
  obtain ⟨v, hv⟩ := Option.isSome_iff_exists.mp (h.visto hya)
  have hcierres : cierres x.estado =
      v :: (avisando x.estado.control ++ x.estado.colaAviso.map MensajeCheckinCerrado.vuelo) := by
    simp only [cierres, enCinta, hya, hpc, hv, libero]
    rfl
  refine ⟨v, hv, h.enUso v ?_, ?_, hcierres⟩
  · rw [hcierres]
    exact List.mem_cons_self
  · simp only [Zona.liberar, hv]

/-- The constructor of the robot gives the zone to the queue. -/
theorem invZona_arranque (h : InvZona x) (hpc : x.estado.robot = .arranque) :
    InvZona ⟨{ x.estado with zonasLibres := x.estado.zonasLibres + 1, robot := .lazo },
      x.enUso⟩ := by
  have hcuenta := h.cuenta
  rw [hpc, lanzado] at hcuenta
  have hcierres : cierres { x.estado with
      zonasLibres := x.estado.zonasLibres + 1, robot := .lazo } = cierres x.estado := by
    simp only [cierres, enCinta, hpc, libero]
    rfl
  refine { h with
    cuenta := ?_, terminando := by simp [PcRobot.terminando], sinRepetir := ?_, enUso := ?_
    avisado := ?_ }
  · show x.estado.zonasLibres + 1 + x.enUso.length = 1 + controlLanzado x.estado.control
    omega
  · exact hcierres ▸ h.sinRepetir
  · exact hcierres ▸ h.enUso
  · exact hcierres ▸ h.avisado

/-- The dummy: the close on the belt is the one seen from now on. -/
theorem invZona_dummy (h : InvZona x) (hpc : x.estado.robot = .seccion)
    {cinta : CintaCarga.Compartido Equipaje}
    (huno : x.estado.cinta.checkinCerrado = 1) (hya : x.estado.yaMeDesperto = false) :
    InvZona ⟨{ x.estado with
      cinta := cinta, yaMeDesperto := true, robot := .evalua .vacio, visto := x.estado.cierre },
      x.enUso⟩ := by
  obtain ⟨v, hv⟩ := Option.isSome_iff_exists.mp (h.anunciado huno)
  have hcierres : cierres { x.estado with
      cinta := cinta, yaMeDesperto := true, robot := .evalua .vacio,
      visto := x.estado.cierre } = cierres x.estado := by
    simp [cierres, enCinta, hya, libero]
  have hmem : v ∈ cierres x.estado := by
    simp [cierres, enCinta, hya, hv]
  have hcuenta := h.cuenta
  rw [hpc] at hcuenta
  refine { h with
    cuenta := hcuenta, anunciado := fun _ => h.anunciado huno, visto := fun _ => h.anunciado huno
    cerro := fun _ => rfl, terminando := by simp [PcRobot.terminando], sinRepetir := ?_, enUso := ?_
    avisado := ?_, vistoAvisado := fun u hu => ?_ }
  · exact hcierres ▸ h.sinRepetir
  · exact hcierres ▸ h.enUso
  · exact hcierres ▸ h.avisado
  · cases hv.symm.trans hu
    exact h.avisado v hmem

theorem invZona_seccion (h : InvZona x) (hpc : x.estado.robot = .seccion)
    (hs : pasoRobot z x.estado = some t) : InvZona ⟨t, x.enUso⟩ := by
  simp only [pasoRobot, hpc] at hs
  have hcerrado := (seccionSacar_cierre x.estado.cinta x.estado.yaMeDesperto (z + 1)).1
  have hya := seccionSacar_ya x.estado.cinta x.estado.yaMeDesperto (z + 1)
  generalize x.estado.cinta.seccionSacar x.estado.yaMeDesperto (z + 1) = r at hs hcerrado hya
  obtain ⟨cinta, ya, salida⟩ := r
  dsimp only at hs hcerrado hya
  rcases hya with ⟨rfl, rfl, huno, hfalse⟩ | ⟨hno, rfl⟩
  · cases hs
    exact invZona_dummy h hpc huno hfalse
  · cases salida with
    | dummy => exact absurd rfl hno
    | equipaje equipaje =>
      cases hs
      exact h.sigue (by rw [hpc]; rfl) (by rw [hpc]; rfl) hcerrado h.cerro rfl
    | nada =>
      cases hs
      exact h.sigue (by rw [hpc]; rfl) (by rw [hpc]; rfl) hcerrado h.cerro rfl

theorem invZona_evaluar {equipaje : Equipaje} (h : InvZona x)
    (hpc : x.estado.robot = .evalua equipaje) : InvZona ⟨evaluar x.estado equipaje, x.enUso⟩ := by
  rw [evaluar_eq]
  refine h.sigue ?_ ?_ rfl (fun hcerro => ?_) ?_
  · rw [hpc]
    split <;> rfl
  · rw [hpc]
    split <;> rfl
  · rcases (Bool.or_eq_true _ _).mp hcerro with hcerro | hya
    · exact h.cerro hcerro
    · exact hya
  · split <;> rfl

/-- `liberar_zona` for the flight whose close the robot has seen: its close is no longer on its
    way. -/
theorem invZona_libera (h : InvZona x) (hpc : x.estado.robot = .libera) :
    InvZona ⟨{ x.estado with zonasLibres := x.estado.zonasLibres + 1, robot := .comienza },
      x.liberar⟩ := by
  obtain ⟨v, hv, hmem, hliberar, hcierres⟩ := h.libera hpc
  have hya := h.cerro (h.terminando (by rw [hpc]; rfl))
  have hresto : cierres { x.estado with
      zonasLibres := x.estado.zonasLibres + 1, robot := .comienza } =
        avisando x.estado.control ++ x.estado.colaAviso.map MensajeCheckinCerrado.vuelo := by
    simp [cierres, enCinta, hya, libero]
  have hsin := h.sinRepetir
  rw [hcierres, List.nodup_cons] at hsin
  have hcuenta := h.cuenta
  have hpos := List.length_pos_of_mem hmem
  rw [hpc] at hcuenta
  change _ = 1 + _ at hcuenta
  refine { h with
    cuenta := ?_, terminando := fun _ => h.terminando (by rw [hpc]; rfl), sinRepetir := ?_
    enUso := fun u hu => ?_, avisado := fun u hu => ?_, conZona := fun u hu => ?_ }
  · show x.estado.zonasLibres + 1 + x.liberar.length = 1 + controlLanzado x.estado.control
    rw [hliberar, List.length_erase_of_mem hmem]
    omega
  · rw [hresto]
    exact hsin.2
  · rw [hresto] at hu
    have hne : u ≠ v := fun he => hsin.1 (he ▸ hu)
    show u ∈ x.liberar
    rw [hliberar, List.mem_erase_of_ne hne]
    exact h.enUso u (hcierres ▸ List.mem_cons_of_mem _ hu)
  · rw [hresto] at hu
    exact h.avisado u (hcierres ▸ List.mem_cons_of_mem _ hu)
  · have hne : u ≠ v := by
      rintro rfl
      have havisado := h.vistoAvisado u hv
      rcases hu with hu | hu <;> cases havisado.symm.trans hu
    show u ∈ x.liberar
    rw [hliberar, List.mem_erase_of_ne hne]
    exact h.conZona u hu

theorem invZona_comienza (h : InvZona x) (hpc : x.estado.robot = .comienza)
    (hs : pasoRobot z x.estado = some t) : InvZona ⟨t, x.enUso⟩ := by
  simp only [pasoRobot, hpc] at hs
  cases hs
  obtain ⟨hsin, hen, havisado⟩ := h.menos (t := { x.estado with
    cinta := x.estado.cinta.comenzarNuevaCarga
    yaMeDesperto := false
    locales := .iniciales
    robot := .lazo
    cierre := none
    visto := none
    leido := none }) rfl (List.sublist_append_right _ _)
  have hcuenta := h.cuenta
  rw [hpc] at hcuenta
  exact {
    cuenta := hcuenta
    anunciado := by simp [CintaCarga.Compartido.comenzarNuevaCarga]
    visto := by simp
    cerro := by simp [Locales.iniciales]
    terminando := by simp [PcRobot.terminando]
    sinRepetir := hsin, enUso := hen, avisado := havisado
    vistoAvisado := by simp
    conZona := h.conZona }

theorem invZona_pasoRobot (h : InvZona x) (hs : pasoRobot z x.estado = some t) :
    InvZona ⟨t, match x.estado.robot with | .libera => x.liberar | _ => x.enUso⟩ := by
  cases hpc : x.estado.robot with
  | arranque =>
    simp only [pasoRobot, hpc] at hs
    cases hs
    exact invZona_arranque h hpc
  | lazo =>
    simp only [pasoRobot, hpc] at hs
    split at hs <;> cases hs
    · exact h.sigue (by rw [hpc]; rfl) (by rw [hpc]; rfl) rfl h.cerro rfl
    · rename_i hno
      refine h.interno (by rw [hpc]; rfl) (by rw [hpc]; rfl) rfl h.cerro fun _ => ?_
      simpa using (not_or.mp hno).1
  | espera =>
    simp only [pasoRobot, hpc] at hs
    split at hs <;> cases hs
    exact h.sigue (by rw [hpc]; rfl) (by rw [hpc]; rfl) rfl h.cerro rfl
  | seccion => exact invZona_seccion h hpc hs
  | evalua equipaje =>
    simp only [pasoRobot, hpc] at hs
    cases hs
    exact invZona_evaluar h hpc
  | leeTotal =>
    simp only [pasoRobot, hpc] at hs
    cases hs
    exact h.sigue (by rw [hpc]; rfl) (by rw [hpc]; rfl) rfl h.cerro rfl
  | desasigna =>
    simp only [pasoRobot, hpc] at hs
    cases hs
    exact h.interno (by rw [hpc]; rfl) (by rw [hpc]; rfl) rfl h.cerro
      fun _ => h.terminando (by rw [hpc]; rfl)
  | envia =>
    simp only [pasoRobot, hpc] at hs
    cases hs
    exact h.interno (by rw [hpc]; rfl) (by rw [hpc]; rfl) rfl h.cerro
      fun _ => h.terminando (by rw [hpc]; rfl)
  | libera =>
    simp only [pasoRobot, hpc] at hs
    cases hs
    exact invZona_libera h hpc
  | comienza => exact invZona_comienza h hpc hs

theorem invZona_pasoControl (h : InvZona x) (hs : pasoControl x.estado = some t) :
    InvZona ⟨t, x.enUso⟩ := by
  cases hpc : x.estado.control with
  | arranque =>
    simp only [pasoControl, hpc] at hs
    cases hs
    have hcuenta := h.cuenta
    rw [hpc] at hcuenta
    change _ = _ + 0 at hcuenta
    obtain ⟨hsin, hen, havisado⟩ := h.menos (t := { x.estado with
      zonasLibres := x.estado.zonasLibres + 1, control := .esperaAviso }) rfl
      (by simp [cierres, enCinta, hpc, avisando])
    refine { h with cuenta := ?_, sinRepetir := hsin, enUso := hen, avisado := havisado }
    show x.estado.zonasLibres + 1 + x.enUso.length = lanzado x.estado.robot + 1
    omega
  | esperaAviso =>
    simp only [pasoControl, hpc] at hs
    split at hs <;> cases hs
    rename_i mensaje cola hcola
    obtain ⟨hsin, hen, havisado⟩ := h.menos (t := { x.estado with
      colaAviso := cola, control := .avisa mensaje }) rfl
      (by simp [cierres, enCinta, hpc, hcola, avisando])
    have hcuenta := h.cuenta
    rw [hpc] at hcuenta
    exact { h with cuenta := hcuenta, sinRepetir := hsin, enUso := hen, avisado := havisado }
  | avisa mensaje =>
    simp only [pasoControl, hpc] at hs
    cases hs
    have hcuenta := h.cuenta
    rw [hpc] at hcuenta
    -- a close that is already on the belt is lost, or the new one will be
    obtain ⟨hsin, hen, havisado⟩ := h.menos (t := { x.estado with
      cinta := x.estado.cinta.avisarCierreDeCheckin mensaje.cantidadEquipajeTotal
      control := .esperaAviso
      cierre := some mensaje.vuelo }) rfl (by
        cases hya : x.estado.yaMeDesperto <;> simp [cierres, enCinta, hpc, hya, avisando])
    exact { h with
      cuenta := hcuenta, anunciado := fun _ => rfl, sinRepetir := hsin, enUso := hen
      avisado := havisado }

theorem invZona_pedirZona {v : Nat} (h : InvZona x)
    (hs : RobotCarga.paso z x.estado (.pedirZona v) = some t) : InvZona ⟨t, x.enUso ++ [v]⟩ := by
  simp only [RobotCarga.paso] at hs
  split at hs
  case h_2 => cases hs
  rename_i hv
  split at hs <;> cases hs
  rename_i hpos
  have hotro : ∀ {u}, x.estado.vuelo u = .avisado → u ≠ v := by
    rintro u hu rfl
    cases hv.symm.trans hu
  refine { h with
    cuenta := ?_, enUso := fun u hu => List.mem_append_left _ (h.enUso u hu)
    avisado := fun u hu => ?_, vistoAvisado := fun u hu => ?_, conZona := fun u hu => ?_ }
  · have hcuenta := h.cuenta
    rw [List.length_append, List.length_singleton]
    show x.estado.zonasLibres - 1 + (x.enUso.length + 1) =
      lanzado x.estado.robot + controlLanzado x.estado.control
    omega
  · have havisado := h.avisado u hu
    show Function.update x.estado.vuelo v .conZona u = .avisado
    rw [Function.update_of_ne (hotro havisado)]
    exact havisado
  · have havisado := h.vistoAvisado u hu
    show Function.update x.estado.vuelo v .conZona u = .avisado
    rw [Function.update_of_ne (hotro havisado)]
    exact havisado
  · by_cases huv : u = v
    · exact List.mem_append_right _ (List.mem_singleton.mpr huv)
    · change Function.update x.estado.vuelo v .conZona u = _ ∨
        Function.update x.estado.vuelo v .conZona u = _ at hu
      rw [Function.update_of_ne huv] at hu
      exact List.mem_append_left _ (h.conZona u hu)

theorem invZona_cerrarCheckin {v : Nat} (h : InvZona x)
    (hs : RobotCarga.paso z x.estado (.cerrarCheckin v) = some t) : InvZona ⟨t, x.enUso⟩ := by
  simp only [RobotCarga.paso] at hs
  split at hs <;> cases hs
  rename_i hv
  have hotro : ∀ {u}, x.estado.vuelo u = .avisado → u ≠ v := by
    rintro u hu rfl
    cases hv.symm.trans hu
  have hsigue : ∀ {u}, x.estado.vuelo u = .avisado →
      Function.update x.estado.vuelo v .cerrando u = .avisado := by
    intro u hu
    rw [Function.update_of_ne (hotro hu)]
    exact hu
  refine { h with
    avisado := fun u hu => hsigue (h.avisado u hu)
    vistoAvisado := fun u hu => hsigue (h.vistoAvisado u hu), conZona := fun u hu => ?_ }
  by_cases huv : u = v
  · exact huv ▸ h.conZona v (.inl hv)
  · change Function.update x.estado.vuelo v .cerrando u = _ ∨
      Function.update x.estado.vuelo v .cerrando u = _ at hu
    rw [Function.update_of_ne huv] at hu
    exact h.conZona u hu

/-- The close of the flight joins those on their way. -/
theorem invZona_cargarEquipajes {v : Nat} {total : Int} (h : InvZona x)
    (hs : RobotCarga.paso z x.estado (.cargarEquipajes v total) = some t) :
    InvZona ⟨t, x.enUso⟩ := by
  simp only [RobotCarga.paso] at hs
  split at hs <;> cases hs
  rename_i hv
  have hsigue : ∀ {u}, x.estado.vuelo u = .avisado →
      Function.update x.estado.vuelo v .avisado u = .avisado := by
    intro u hu
    by_cases huv : u = v
    · rw [huv, Function.update_self]
    · rw [Function.update_of_ne huv]
      exact hu
  have hcierres : cierres { x.estado with
      colaAviso := x.estado.colaAviso ++ [⟨total, v⟩]
      vuelo := Function.update x.estado.vuelo v .avisado } = cierres x.estado ++ [v] := by
    simp [cierres, enCinta]
  have hnuevo : v ∉ cierres x.estado := fun hmem => by cases hv.symm.trans (h.avisado v hmem)
  refine { h with
    sinRepetir := ?_, enUso := fun u hu => ?_, avisado := fun u hu => ?_
    vistoAvisado := fun u hu => hsigue (h.vistoAvisado u hu), conZona := fun u hu => ?_ }
  · rw [hcierres]
    exact List.nodup_append.mpr ⟨h.sinRepetir, List.nodup_singleton v, fun u hu w hw => by
      rintro rfl
      exact hnuevo (List.mem_singleton.mp hw ▸ hu)⟩
  · rw [hcierres, List.mem_append, List.mem_singleton] at hu
    rcases hu with hu | rfl
    · exact h.enUso u hu
    · exact h.conZona u (.inr hv)
  · rw [hcierres, List.mem_append, List.mem_singleton] at hu
    rcases hu with hu | rfl
    · exact hsigue (h.avisado u hu)
    · exact Function.update_self ..
  · by_cases huv : u = v
    · exact huv ▸ h.conZona v (.inr hv)
    · change Function.update x.estado.vuelo v .avisado u = _ ∨
        Function.update x.estado.vuelo v .avisado u = _ at hu
      rw [Function.update_of_ne huv] at hu
      exact h.conZona u hu

theorem invZona_paso {e : RobotCarga.Evento} (h : InvZona x) (hs : x.paso z e = some y) :
    InvZona y := by
  cases e with
  | robot =>
    obtain ⟨t, ht, rfl⟩ := Option.map_eq_some_iff.mp hs
    exact invZona_pasoRobot h ht
  | control =>
    simp only [Zona.paso] at hs
    split at hs
    · cases hs
    · obtain ⟨t, ht, rfl⟩ := Option.map_eq_some_iff.mp hs
      exact invZona_pasoControl h ht
  | ponerEquipaje equipaje =>
    obtain ⟨t, ht, rfl⟩ := Option.map_eq_some_iff.mp hs
    simp only [RobotCarga.paso] at ht
    split at ht <;> cases ht
    exact { h with }
  | waitDespacho =>
    obtain ⟨t, ht, rfl⟩ := Option.map_eq_some_iff.mp hs
    simp only [RobotCarga.paso] at ht
    split at ht <;> cases ht
    exact { h with }
  | seccionDespacho =>
    obtain ⟨t, ht, rfl⟩ := Option.map_eq_some_iff.mp hs
    simp only [RobotCarga.paso] at ht
    split at ht <;> cases ht
    exact { h with }
  | pedirZona v =>
    obtain ⟨t, ht, rfl⟩ := Option.map_eq_some_iff.mp hs
    exact invZona_pedirZona h ht
  | cerrarCheckin v =>
    obtain ⟨t, ht, rfl⟩ := Option.map_eq_some_iff.mp hs
    exact invZona_cerrarCheckin h ht
  | cargarEquipajes v total =>
    obtain ⟨t, ht, rfl⟩ := Option.map_eq_some_iff.mp hs
    exact invZona_cargarEquipajes h ht

end UnaZona

/-! ## All the zones -/

section Zonas

variable {s s' t : Estado} {e : RobotCarga.Evento} {x : Zona}

theorem paso_zona (hs : paso s (.zona z e) = some s') :
    ∃ x t, (s.zona z).paso z e = some x ∧ efecto s z e = some t ∧
      s' = { t with zona := Function.update t.zona z x } := by
  obtain ⟨x, hx, hs⟩ := Option.bind_eq_some_iff.mp hs
  obtain ⟨t, ht, rfl⟩ := Option.map_eq_some_iff.mp hs
  exact ⟨x, t, hx, ht, rfl⟩

/-- The robot starts once, and gives the zone to the queue when it starts and after each load. -/
theorem pasoRobot_zonasLibres {a b : RobotCarga.Estado} (hs : pasoRobot z a = some b) :
    lanzado b.robot = 1 ∧ b.vuelo = a.vuelo ∧
      b.zonasLibres = a.zonasLibres + match a.robot with
        | .arranque | .libera => 1
        | _ => 0 := by
  cases hpc : a.robot <;> simp only [pasoRobot, hpc] at hs
  case lazo => split at hs <;> cases hs <;> exact ⟨rfl, rfl, rfl⟩
  case espera =>
    split at hs <;> cases hs
    exact ⟨rfl, rfl, rfl⟩
  case seccion => split at hs <;> cases hs <;> exact ⟨rfl, rfl, rfl⟩
  case evalua =>
    cases hs
    rw [evaluar_eq]
    refine ⟨?_, rfl, rfl⟩
    dsimp only
    split <;> rfl
  all_goals
    cases hs
    exact ⟨rfl, rfl, rfl⟩

/-- A step outside of the zones: the queue gains or loses what the zone counts. -/
theorem efecto_qZonas (hx : (s.zona z).paso z e = some x) (ht : efecto s z e = some t) (z' : Nat) :
    t.zona = s.zona ∧ t.qZonas.count z' + (if z' = z then (s.zona z).estado.zonasLibres else 0) =
      s.qZonas.count z' + (if z' = z then x.estado.zonasLibres else 0) := by
  have hmas : (s.qZonas ++ [z]).count z' = s.qZonas.count z' + if z' = z then 1 else 0 := by
    rw [List.count_append, List.count_singleton]
    by_cases h : z' = z
    · simp [h]
    · simp [h, Ne.symm h]
  cases e with
  | robot =>
    obtain ⟨b, hb, rfl⟩ := Option.map_eq_some_iff.mp hx
    obtain ⟨-, -, hlibres⟩ := pasoRobot_zonasLibres hb
    simp only [efecto] at ht
    split at ht
    · rename_i hpc
      cases ht
      rw [hpc] at hlibres
      refine ⟨rfl, ?_⟩
      simp only [hmas, hlibres]
      split <;> omega
    · rename_i hpc
      cases ht
      rw [hpc] at hlibres
      refine ⟨rfl, ?_⟩
      simp only [hmas, hlibres]
      split <;> omega
    · rename_i hpc
      obtain ⟨zonas, -, rfl⟩ := Option.map_eq_some_iff.mp ht
      rw [hpc] at hlibres
      exact ⟨rfl, by simp only [hlibres, Nat.add_zero]⟩
    · rename_i h1 h2 h3
      cases ht
      refine ⟨rfl, ?_⟩
      have hnada : b.zonasLibres = (s.zona z).estado.zonasLibres := by
        rw [hlibres]
        cases hpc : (s.zona z).estado.robot <;> first | rfl | exact absurd hpc ‹_›
      simp only [hnada]
  | control =>
    simp only [Zona.paso] at hx
    split at hx
    · cases hx
    obtain ⟨b, hb, rfl⟩ := Option.map_eq_some_iff.mp hx
    cases hpc : (s.zona z).estado.control <;> simp only [efecto, hpc] at ht <;> cases ht <;>
      simp only [pasoControl, hpc] at hb
    · cases hb
      refine ⟨rfl, ?_⟩
      simp only [hmas]
      split <;> omega
    · split at hb <;> cases hb
      exact ⟨rfl, rfl⟩
    · cases hb
      exact ⟨rfl, rfl⟩
  | pedirZona v =>
    obtain ⟨b, hb, rfl⟩ := Option.map_eq_some_iff.mp hx
    simp only [RobotCarga.paso] at hb
    split at hb
    case h_2 => cases hb
    split at hb <;> cases hb
    rename_i hpos
    simp only [efecto] at ht
    split at ht
    case h_2 => cases ht
    rename_i z₁ qZonas hv hcola
    split at ht <;> cases ht
    rename_i hz
    subst hz
    refine ⟨rfl, ?_⟩
    simp only [hcola, List.count_cons]
    by_cases h : z' = z₁
    · simp only [h, if_true, beq_self_eq_true]
      omega
    · simp [h, Ne.symm h]
  | cerrarCheckin v =>
    obtain ⟨b, hb, rfl⟩ := Option.map_eq_some_iff.mp hx
    simp only [RobotCarga.paso] at hb
    split at hb <;> cases hb
    simp only [efecto] at ht
    split at ht <;> cases ht
    exact ⟨rfl, rfl⟩
  | _ =>
    obtain ⟨b, hb, rfl⟩ := Option.map_eq_some_iff.mp hx
    simp only [RobotCarga.paso] at hb
    split at hb <;> cases hb
    cases ht
    exact ⟨rfl, rfl⟩

/-- The queue has the zones that are free, and a control starts after its robot. -/
structure Inv (s : Estado) : Prop where
  zona : ∀ z, InvZona (s.zona z)
  libres : ∀ z, s.qZonas.count z = (s.zona z).estado.zonasLibres
  orden : ∀ z, controlLanzado (s.zona z).estado.control ≤ lanzado (s.zona z).estado.robot

theorem inv_inicial (ranura : Nat → Equipaje) : Inv (inicial N M ranura vuelos) where
  zona _ := invZona_inicial ranura
  libres _ := rfl
  orden _ := Nat.le_refl 0

/-- The control does not start before the robot, and the robot does not start again. -/
theorem orden_paso (h : controlLanzado (s.zona z).estado.control ≤ lanzado (s.zona z).estado.robot)
    (hx : (s.zona z).paso z e = some x) :
    controlLanzado x.estado.control ≤ lanzado x.estado.robot := by
  have huno : ∀ c : PcControl, controlLanzado c ≤ 1 := fun c => by
    cases c <;> exact Nat.le_of_ble_eq_true rfl
  cases e with
  | robot =>
    obtain ⟨b, hb, rfl⟩ := Option.map_eq_some_iff.mp hx
    exact (pasoRobot_zonasLibres hb).1 ▸ huno _
  | control =>
    simp only [Zona.paso] at hx
    split at hx
    · cases hx
    · rename_i hno
      obtain ⟨b, hb, rfl⟩ := Option.map_eq_some_iff.mp hx
      have hrobot : b.robot = (s.zona z).estado.robot := by
        simp only [pasoControl] at hb
        split at hb <;> [skip; split at hb; skip] <;> cases hb <;> rfl
      have hlanzado : lanzado (s.zona z).estado.robot = 1 := by
        cases hpc : (s.zona z).estado.robot <;> first | rfl | exact absurd hpc hno
      show controlLanzado b.control ≤ lanzado b.robot
      rw [hrobot, hlanzado]
      exact huno _
  | pedirZona v =>
    obtain ⟨b, hb, rfl⟩ := Option.map_eq_some_iff.mp hx
    simp only [RobotCarga.paso] at hb
    split at hb <;> [split at hb; skip] <;> cases hb
    exact h
  | _ =>
    obtain ⟨b, hb, rfl⟩ := Option.map_eq_some_iff.mp hx
    simp only [RobotCarga.paso] at hb
    split at hb <;> cases hb
    exact h

theorem inv_paso {e : Evento} (h : Inv s) (hs : paso s e = some s') : Inv s' := by
  cases e with
  | zona z e =>
    obtain ⟨x, t, hx, ht, rfl⟩ := paso_zona hs
    have hcola := efecto_qZonas hx ht
    have hzona : t.zona = s.zona := (hcola z).1
    refine ⟨?_, fun z' => ?_, ?_⟩
    · exact (Function.forall_update_iff t.zona fun _ x => InvZona x).mpr
        ⟨invZona_paso (h.zona z) hx, fun z' _ => hzona ▸ h.zona z'⟩
    · have hlibres := (hcola z').2
      rw [h.libres z'] at hlibres
      show t.qZonas.count z' = (Function.update t.zona z x z').estado.zonasLibres
      by_cases hz : z' = z
      · subst hz
        rw [if_pos rfl, if_pos rfl] at hlibres
        rw [Function.update_self]
        omega
      · rw [if_neg hz, if_neg hz] at hlibres
        rw [Function.update_of_ne hz, hzona]
        exact hlibres
    · exact (Function.forall_update_iff t.zona fun _ x =>
        controlLanzado x.estado.control ≤ lanzado x.estado.robot).mpr
          ⟨orden_paso (h.orden z) hx, fun z' _ => hzona ▸ h.orden z'⟩
  | asignarVuelo v =>
    simp only [paso] at hs
    split at hs
    · split at hs <;> cases hs <;> exact ⟨h.zona, h.libres, h.orden⟩
    · cases hs

theorem inv_alcanza {ranura : Nat → Equipaje} (h : Alcanza paso (inicial N M ranura vuelos) s) :
    Inv s :=
  h.induccion (inv_inicial ranura) fun _ _ _ => inv_paso

/-- Zone `z` is free and once in the queue, or it is not there and at most one flight has it. -/
def ZonaUnica (s : Estado) (z : Nat) : Prop :=
  (s.qZonas.count z = 1 ∧ (s.zona z).enUso = []) ∨
    (z ∉ s.qZonas ∧ (s.zona z).enUso.length ≤ 1)

/-- A zone is never given to two flights exactly until its `control_carga_contenedores` starts: the
    constructor of its `ApiCarga` gives the zone to the queue again. -/
theorem zona_unica (ranura : Nat → Equipaje) (h : Alcanza paso (inicial N M ranura vuelos) s)
    (z : Nat) :
    ZonaUnica s z ↔ (s.zona z).estado.control = .arranque := by
  have hinv := inv_alcanza h
  have hcuenta := (hinv.zona z).cuenta
  rw [← hinv.libres z] at hcuenta
  have horden := hinv.orden z
  have huno : lanzado (s.zona z).estado.robot ≤ 1 := by
    cases (s.zona z).estado.robot <;> exact Nat.le_of_ble_eq_true rfl
  have hcontrol : (s.zona z).estado.control = .arranque ↔
      controlLanzado (s.zona z).estado.control = 0 := by
    cases (s.zona z).estado.control <;> simp [controlLanzado]
  have hcontrolUno : controlLanzado (s.zona z).estado.control ≤ 1 := by
    cases (s.zona z).estado.control <;> exact Nat.le_of_ble_eq_true rfl
  rw [hcontrol, ZonaUnica, ← List.length_eq_zero_iff, ← List.count_eq_zero]
  omega

end Zonas

/-- A flight has the only zone and no control has started. -/
theorem zona_unica_un_vuelo :
    ∃ s : Estado, (s.zona 0).enUso = [3] ∧ ZonaUnica s 0 :=
  ⟨_, rfl, (zona_unica (fun _ => .vacio) (show Alcanza paso (inicial 10 8 _ fun _ => 0) _ from
    ⟨[.zona 0 .robot, .zona 0 (.pedirZona 3)], rfl⟩) 0).mpr rfl⟩

/-- Robot and control of a zone have started, and two flights ask for a zone: both receive this
    one. -/
theorem zona_dos_vuelos :
    ¬ ∀ s : Estado, Alcanza paso (inicial 10 8 (fun _ => .vacio) fun _ => 0) s →
      ∀ z, ZonaUnica s z := by
  intro h
  rcases h _ ⟨[.zona 0 .robot, .zona 0 .control, .zona 0 (.pedirZona 1), .zona 0 (.pedirZona 2)],
    rfl⟩ 0 with ⟨hcola, -⟩ | ⟨-, huso⟩
  · exact absurd hcola (by decide)
  · exact absurd huso (by decide)

end Zonas
