import Aeropuerto.Procesos.RobotCarga

/-!
# Whose close `comenzar_nueva_carga` resets

The robot gives the zone back before it resets the belt, so the close of the next flight may arrive
in between; and it loads whatever is on the belt, so with two flights in the zone it may end the load
of one with the close of the other.  In the runs in which a close is announced, in a load that has
seen none, for the flight of the bags of that load, and the robot then finds only bags of that flight,
the close reset is always the one observed for the flight just finished.
-/

namespace RobotCarga

open Ejecucion CintaCarga

variable {N M z vuelo : Nat} {s t : Estado}

/-- The robot has left the inner loop and not yet reset the belt. -/
def PcRobot.terminando : PcRobot → Bool
  | .desasigna | .envia | .libera | .comienza => true
  | _ => false

/-- The robot has seen the close and is about to read its total. -/
def PcRobot.lee : PcRobot → Bool
  | .leeTotal => true
  | _ => false

/-- The bag that the robot has taken and not yet loaded. -/
def PcRobot.enMano : PcRobot → List Equipaje
  | .evalua equipaje => [equipaje]
  | _ => []

/-- A bag that the robot does not take for the dummy is of flight `v`. -/
def Equipaje.esDe (v : Nat) (equipaje : Equipaje) : Prop :=
  equipaje.rfid ≠ 0 → equipaje.numeroDeVueloDestino = v

instance (v : Nat) (equipaje : Equipaje) : Decidable (equipaje.esDe v) :=
  inferInstanceAs (Decidable (equipaje.rfid ≠ 0 → equipaje.numeroDeVueloDestino = v))

/-- The last bag of this load, the one in hand and those on the belt are of flight `v`. -/
def Estado.SoloDe (s : Estado) (v : Nat) : Prop :=
  (0 < s.locales.equipajesCargados → s.numeroDeVuelo = v) ∧
    ∀ equipaje ∈ s.robot.enMano ++ s.cinta.anillo.contenido, equipaje.esDe v

instance (s : Estado) (v : Nat) : Decidable (s.SoloDe v) :=
  inferInstanceAs (Decidable ((0 < s.locales.equipajesCargados → s.numeroDeVuelo = v) ∧
    ∀ equipaje ∈ s.robot.enMano ++ s.cinta.anillo.contenido, equipaje.esDe v))

/-- `control_carga_contenedores` announces a close only in a load that has seen none, of the flight
    of its bags, and which has or will have one; and while the robot loads, `robot_despacho` puts on
    the belt only bags of the flight whose close is there. -/
def cierreDelVueloEnCarga (s : Estado) : Evento → Bool
  | .control =>
    match s.control with
    | .avisa mensaje =>
      !s.yaMeDesperto && decide (s.SoloDe mensaje.vuelo) &&
        (decide (0 < mensaje.cantidadEquipajeTotal) || decide (0 < s.locales.equipajesCargados))
    | _ => true
  | .seccionDespacho =>
    match s.despacho, s.cierre with
    | .seccion equipaje, some v => s.robot.terminando || decide (equipaje.esDe v)
    | _, _ => true
  | _ => true

/-! ## The close -/

/-- What the robot has observed is what the belt carries. -/
structure Inv (s : Estado) : Prop where
  anunciado : s.cinta.checkinCerrado = 1 → s.cierre.isSome = true
  visto : s.yaMeDesperto = true → s.cinta.checkinCerrado = 1 ∧ s.visto = s.cierre
  cerro : s.locales.checkinCerro = true → s.yaMeDesperto = true
  leido : s.locales.checkinCerro = true → s.robot.lee = false →
    s.leido = s.cierre ∧ s.cinta.numeroDeValijasTotales = s.locales.equipajesPorCargar
  terminando : s.robot.terminando = true → s.locales.checkinCerro = true

theorem inv_inicial (ranura : Nat → Equipaje) : Inv (inicial N M ranura vuelo) :=
  ⟨nofun, nofun, nofun, nofun, nofun⟩

/-- A turn of `sacar_equipaje` leaves the notice of the close as it is and sets the flag only on a
    close. -/
theorem seccionSacar_cierre {α : Type} (c : Compartido α) (ya : Bool) (j : Nat) :
    (c.seccionSacar ya j).1.checkinCerrado = c.checkinCerrado ∧
      (c.seccionSacar ya j).1.numeroDeValijasTotales = c.numeroDeValijasTotales := by
  unfold Compartido.seccionSacar
  split
  · split <;> exact ⟨rfl, rfl⟩
  · split <;> exact ⟨rfl, rfl⟩

theorem seccionSacar_ya {α : Type} (c : Compartido α) (ya : Bool) (j : Nat) :
    ((c.seccionSacar ya j).2.2 = .dummy ∧ (c.seccionSacar ya j).2.1 = true ∧ c.checkinCerrado = 1 ∧
        ya = false) ∨
      ((c.seccionSacar ya j).2.2 ≠ .dummy ∧ (c.seccionSacar ya j).2.1 = ya) := by
  unfold Compartido.seccionSacar
  split
  · right
    split <;> exact ⟨nofun, rfl⟩
  · rename_i hno
    split
    · exact .inl ⟨rfl, rfl, ‹_›, by simpa using (not_or.mp hno).1⟩
    · exact .inr ⟨nofun, rfl⟩

/-- All that `evaluar` changes. -/
theorem evaluar_eq (s : Estado) (equipaje : Equipaje) :
    evaluar s equipaje = { s with
      numeroDeVuelo := if equipaje.rfid = 0 then s.numeroDeVuelo else equipaje.numeroDeVueloDestino
      locales := { s.locales with
        equipajesCargados := s.locales.equipajesCargados + if equipaje.rfid = 0 then 0 else 1
        checkinCerro := s.locales.checkinCerro || s.yaMeDesperto }
      robot := if s.locales.checkinCerro = false ∧ s.yaMeDesperto = true then .leeTotal
        else .lazo } := by
  obtain ⟨cinta, ya, robot, ⟨cerro, cargados, porCargar⟩, numeroDeVuelo⟩ := s
  unfold evaluar
  by_cases hrfid : equipaje.rfid = 0 <;> cases cerro <;> cases ya <;> simp [hrfid]

theorem inv_pasoRobot (h : Inv s) (hs : pasoRobot z s = some t) : Inv t := by
  cases hpc : s.robot with
  | arranque =>
    simp only [pasoRobot, hpc] at hs
    cases hs
    exact ⟨h.anunciado, h.visto, h.cerro, fun hc _ => h.leido hc (by rw [hpc]; rfl), nofun⟩
  | lazo =>
    simp only [pasoRobot, hpc] at hs
    split at hs <;> cases hs
    · exact ⟨h.anunciado, h.visto, h.cerro, fun hc _ => h.leido hc (by rw [hpc]; rfl), nofun⟩
    · rename_i hno
      exact ⟨h.anunciado, h.visto, h.cerro, fun hc _ => h.leido hc (by rw [hpc]; rfl),
        fun _ => by simpa using (not_or.mp hno).1⟩
  | espera =>
    simp only [pasoRobot, hpc] at hs
    split at hs <;> cases hs
    exact ⟨h.anunciado, h.visto, h.cerro, fun hc _ => h.leido hc (by rw [hpc]; rfl), nofun⟩
  | seccion =>
    simp only [pasoRobot, hpc] at hs
    obtain ⟨hcerrado, htotal⟩ := seccionSacar_cierre s.cinta s.yaMeDesperto (z + 1)
    have hya := seccionSacar_ya s.cinta s.yaMeDesperto (z + 1)
    generalize s.cinta.seccionSacar s.yaMeDesperto (z + 1) = r at hs hcerrado htotal hya
    obtain ⟨cinta, ya, salida⟩ := r
    dsimp only at hs hcerrado htotal hya
    rcases hya with ⟨rfl, rfl, h1, hfalse⟩ | ⟨hno, rfl⟩
    · -- the dummy: the close in the belt is the one seen
      cases hs
      have hcerro : s.locales.checkinCerro = false := by
        by_contra hc
        have := h.cerro (by simpa using hc)
        rw [hfalse] at this
        cases this
      exact ⟨fun hc => h.anunciado (hcerrado ▸ hc), fun _ => ⟨hcerrado.trans h1, rfl⟩, fun _ => rfl,
        fun hc => absurd hc (by simp [hcerro]), nofun⟩
    · have hleido : s.locales.checkinCerro = true →
          s.leido = s.cierre ∧ cinta.numeroDeValijasTotales = s.locales.equipajesPorCargar :=
        fun hc => htotal ▸ h.leido hc (by rw [hpc]; rfl)
      cases salida with
      | dummy => exact absurd rfl hno
      | equipaje equipaje =>
        cases hs
        exact ⟨fun hc => h.anunciado (hcerrado ▸ hc), fun hy => hcerrado ▸ h.visto hy, h.cerro,
          fun hc _ => hleido hc, nofun⟩
      | nada =>
        cases hs
        exact ⟨fun hc => h.anunciado (hcerrado ▸ hc), fun hy => hcerrado ▸ h.visto hy, h.cerro,
          fun hc _ => hleido hc, nofun⟩
  | evalua equipaje =>
    simp only [pasoRobot, hpc, evaluar_eq] at hs
    cases hs
    cases hcerro : s.locales.checkinCerro with
    | false =>
      cases hya : s.yaMeDesperto with
      | false => exact ⟨h.anunciado, hya ▸ h.visto, nofun, nofun, nofun⟩
      | true => exact ⟨h.anunciado, hya ▸ h.visto, fun _ => rfl, nofun, nofun⟩
    | true =>
      have hya := h.cerro hcerro
      exact ⟨h.anunciado, h.visto, fun _ => hya, fun _ _ => h.leido hcerro (by rw [hpc]; rfl), nofun⟩
  | leeTotal =>
    simp only [pasoRobot, hpc] at hs
    cases hs
    refine ⟨h.anunciado, h.visto, h.cerro, fun hc _ => ⟨rfl, ?_⟩, nofun⟩
    change _ = s.cinta.cantidadValijasTotales s.yaMeDesperto
    rw [h.cerro hc]
    rfl
  | desasigna =>
    simp only [pasoRobot, hpc] at hs
    cases hs
    exact ⟨h.anunciado, h.visto, h.cerro, fun hc _ => h.leido hc (by rw [hpc]; rfl),
      fun _ => h.terminando (by rw [hpc]; rfl)⟩
  | envia =>
    simp only [pasoRobot, hpc] at hs
    cases hs
    exact ⟨h.anunciado, h.visto, h.cerro, fun hc _ => h.leido hc (by rw [hpc]; rfl),
      fun _ => h.terminando (by rw [hpc]; rfl)⟩
  | libera =>
    simp only [pasoRobot, hpc] at hs
    cases hs
    exact ⟨h.anunciado, h.visto, h.cerro, fun hc _ => h.leido hc (by rw [hpc]; rfl),
      fun _ => h.terminando (by rw [hpc]; rfl)⟩
  | comienza =>
    simp only [pasoRobot, hpc] at hs
    cases hs
    exact ⟨nofun, nofun, nofun, nofun, nofun⟩

theorem inv_pasoControl (h : Inv s) (hcond : cierreDelVueloEnCarga s .control = true)
    (hs : pasoControl s = some t) : Inv t := by
  cases hpc : s.control with
  | arranque =>
    simp only [pasoControl, hpc] at hs
    cases hs
    exact ⟨h.anunciado, h.visto, h.cerro, h.leido, h.terminando⟩
  | esperaAviso =>
    simp only [pasoControl, hpc] at hs
    split at hs <;> cases hs
    exact ⟨h.anunciado, h.visto, h.cerro, h.leido, h.terminando⟩
  | avisa mensaje =>
    simp only [pasoControl, hpc] at hs
    cases hs
    have hya : s.yaMeDesperto = false := by
      simp only [cierreDelVueloEnCarga, hpc, Bool.and_eq_true, Bool.not_eq_true'] at hcond
      exact hcond.1.1
    have hcerro : ¬ s.locales.checkinCerro = true := fun hc => by
      have := h.cerro hc
      rw [hya] at this
      cases this
    exact ⟨fun _ => rfl, fun hy => absurd hy (by simp [hya]), h.cerro,
      fun hc => absurd hc hcerro, h.terminando⟩

theorem inv_paso {e : Evento} (h : Inv s) (hcond : cierreDelVueloEnCarga s e = true)
    (hs : paso z s e = some t) : Inv t := by
  cases e with
  | robot => exact inv_pasoRobot h hs
  | control => exact inv_pasoControl h hcond hs
  | ponerEquipaje equipaje =>
    simp only [paso] at hs
    split at hs <;> cases hs
    exact ⟨h.anunciado, h.visto, h.cerro, h.leido, h.terminando⟩
  | waitDespacho =>
    simp only [paso] at hs
    split at hs <;> cases hs
    exact ⟨h.anunciado, h.visto, h.cerro, h.leido, h.terminando⟩
  | seccionDespacho =>
    simp only [paso] at hs
    split at hs <;> cases hs
    exact ⟨h.anunciado, h.visto, h.cerro, h.leido, h.terminando⟩
  | pedirZona v =>
    simp only [paso] at hs
    split at hs <;> [split at hs; skip] <;> cases hs
    exact ⟨h.anunciado, h.visto, h.cerro, h.leido, h.terminando⟩
  | cerrarCheckin v =>
    simp only [paso] at hs
    split at hs <;> cases hs
    exact ⟨h.anunciado, h.visto, h.cerro, h.leido, h.terminando⟩
  | cargarEquipajes v total =>
    simp only [paso] at hs
    split at hs <;> cases hs
    exact ⟨h.anunciado, h.visto, h.cerro, h.leido, h.terminando⟩

/-! ## The flight of the bags -/

/-- The bag that a turn of `sacar_equipaje` takes. -/
def tomado : Salida Equipaje → List Equipaje
  | .equipaje equipaje => [equipaje]
  | _ => []

/-- A turn of `sacar_equipaje` takes at most the oldest bag of the belt. -/
theorem seccionSacar_contenido {c : Compartido Equipaje} (h : c.anillo.Valido) (ya : Bool) (j : Nat) :
    (c.seccionSacar ya j).1.anillo.Valido ∧
      tomado (c.seccionSacar ya j).2.2 ++ (c.seccionSacar ya j).1.anillo.contenido =
        c.anillo.contenido := by
  have hcola : Banda.EnCola c.anillo.tamanio c.anillo c.anillo.contenido [] := ⟨⟨h, rfl⟩, rfl⟩
  have htoma := hcola.seccionSacar j
  unfold Compartido.seccionSacar
  split
  · generalize c.toBanda.seccionSacar j = r at htoma
    obtain ⟨b, _ | equipaje⟩ := r
    · exact ⟨htoma.fifo.valido, htoma.fifo.historia⟩
    · exact ⟨htoma.fifo.valido, htoma.fifo.historia⟩
  · split <;> exact ⟨h, rfl⟩

/-- The close on the belt is of the flight of the bags, of which the load has or will have one. -/
structure DelVuelo (s : Estado) (v : Nat) : Prop where
  soloDe : s.SoloDe v
  alguno : 0 < s.cinta.numeroDeValijasTotales ∨ 0 < s.locales.equipajesCargados

/-- While the robot loads the close is of the flight of its bags, and after that of the flight of the
    last one. -/
structure InvVuelo (s : Estado) : Prop where
  valido : s.cinta.anillo.Valido
  carga : ∀ v, s.cierre = some v → s.robot.terminando = false → DelVuelo s v
  termina : s.robot.terminando = true → s.cierre = some s.numeroDeVuelo

theorem invVuelo_inicial (hN : 1 ≤ N) (ranura : Nat → Equipaje) :
    InvVuelo (inicial N M ranura vuelo) :=
  ⟨Anillo.vacio_valido hN ranura, nofun, nofun⟩

/-- A step of the robot that touches neither the bags nor the close. -/
theorem InvVuelo.interno (h : InvVuelo s) (hanillo : t.cinta.anillo = s.cinta.anillo)
    (htotal : t.cinta.numeroDeValijasTotales = s.cinta.numeroDeValijasTotales)
    (hcargados : t.locales.equipajesCargados = s.locales.equipajesCargados)
    (hvuelo : t.numeroDeVuelo = s.numeroDeVuelo) (hcierre : t.cierre = s.cierre)
    (hmano : t.robot.enMano = s.robot.enMano) (hfin : t.robot.terminando = s.robot.terminando) :
    InvVuelo t where
  valido := hanillo ▸ h.valido
  carga v hv hno := by
    have hdel := h.carga v (hcierre ▸ hv) (hfin ▸ hno)
    refine ⟨⟨fun hpos => hvuelo ▸ hdel.soloDe.1 (hcargados ▸ hpos), ?_⟩,
      htotal ▸ hcargados ▸ hdel.alguno⟩
    rw [hmano, hanillo]
    exact hdel.soloDe.2
  termina htermina := hcierre ▸ hvuelo ▸ h.termina (hfin ▸ htermina)

/-- The robot leaves the inner loop with the bags of the close that it has seen. -/
theorem invVuelo_fin (hinv : Inv s) (h : InvVuelo s) (hpc : s.robot = .lazo)
    (hcerro : s.locales.checkinCerro = true)
    (hcargados : s.locales.equipajesPorCargar ≤ s.locales.equipajesCargados) :
    s.cierre = some s.numeroDeVuelo := by
  have hcerrado := (hinv.visto (hinv.cerro hcerro)).1
  obtain ⟨v, hv⟩ := Option.isSome_iff_exists.mp (hinv.anunciado hcerrado)
  have hdel := h.carga v hv (by rw [hpc]; rfl)
  have htotal := (hinv.leido hcerro (by rw [hpc]; rfl)).2
  have hpos : 0 < s.locales.equipajesCargados := by
    rcases hdel.alguno with hpos | hpos
    · omega
    · exact hpos
  rw [hdel.soloDe.1 hpos]
  exact hv

/-- The bag in hand becomes the last one of the load. -/
theorem invVuelo_evaluar {equipaje : Equipaje} (h : InvVuelo s) (hpc : s.robot = .evalua equipaje) :
    InvVuelo (evaluar s equipaje) := by
  rw [evaluar_eq]
  have hsigue : (if s.locales.checkinCerro = false ∧ s.yaMeDesperto = true then PcRobot.leeTotal
      else .lazo).enMano = [] ∧ (if s.locales.checkinCerro = false ∧ s.yaMeDesperto = true then
        PcRobot.leeTotal else .lazo).terminando = false := by
    split <;> exact ⟨rfl, rfl⟩
  refine ⟨h.valido, fun v hv _ => ?_, fun htermina => by cases hsigue.2.symm.trans htermina⟩
  have hdel := h.carga v hv (by rw [hpc]; rfl)
  have hmano : equipaje.esDe v := hdel.soloDe.2 equipaje (by rw [hpc]; exact List.mem_cons_self)
  have hcinta : ∀ e ∈ s.cinta.anillo.contenido, e.esDe v := fun e he =>
    hdel.soloDe.2 e (List.mem_append_right _ he)
  by_cases hrfid : equipaje.rfid = 0
  · refine ⟨⟨?_, ?_⟩, ?_⟩
    · simpa only [if_pos hrfid, add_zero] using hdel.soloDe.1
    · simpa only [hsigue.1, List.nil_append] using hcinta
    · simpa only [if_pos hrfid, add_zero] using hdel.alguno
  · refine ⟨⟨fun _ => ?_, ?_⟩, ?_⟩
    · simpa only [if_neg hrfid] using hmano hrfid
    · simpa only [hsigue.1, List.nil_append] using hcinta
    · simp only [if_neg hrfid]
      exact hdel.alguno.imp_right fun hpos => Int.lt_add_one_of_le (le_of_lt hpos)

theorem invVuelo_pasoRobot (hinv : Inv s) (h : InvVuelo s) (hs : pasoRobot z s = some t) :
    InvVuelo t := by
  cases hpc : s.robot with
  | lazo =>
    simp only [pasoRobot, hpc] at hs
    split at hs <;> cases hs
    · exact h.interno rfl rfl rfl rfl rfl (by rw [hpc]; rfl) (by rw [hpc]; rfl)
    · rename_i hno
      obtain ⟨hcerro, hcargados⟩ := not_or.mp hno
      have hfin := invVuelo_fin hinv h hpc (by simpa using hcerro) (not_lt.mp hcargados)
      exact ⟨h.valido, nofun, fun _ => hfin⟩
  | espera =>
    simp only [pasoRobot, hpc] at hs
    split at hs <;> cases hs
    exact h.interno rfl rfl rfl rfl rfl (by rw [hpc]; rfl) (by rw [hpc]; rfl)
  | seccion =>
    simp only [pasoRobot, hpc] at hs
    obtain ⟨hvalido, hcontenido⟩ := seccionSacar_contenido h.valido s.yaMeDesperto (z + 1)
    have htotal := (seccionSacar_cierre s.cinta s.yaMeDesperto (z + 1)).2
    generalize s.cinta.seccionSacar s.yaMeDesperto (z + 1) = r at hs hvalido hcontenido htotal
    obtain ⟨cinta, ya, salida⟩ := r
    dsimp only at hs hvalido hcontenido htotal
    have hdel : ∀ v, s.cierre = some v → (0 < s.locales.equipajesCargados → s.numeroDeVuelo = v) ∧
        (∀ equipaje ∈ tomado salida ++ cinta.anillo.contenido, equipaje.esDe v) ∧
        (0 < cinta.numeroDeValijasTotales ∨ 0 < s.locales.equipajesCargados) := by
      intro v hv
      have hdel := h.carga v hv (by rw [hpc]; rfl)
      rw [htotal, hcontenido]
      exact ⟨hdel.soloDe.1, fun e he => hdel.soloDe.2 e (List.mem_append_right _ he), hdel.alguno⟩
    cases salida with
    | equipaje equipaje =>
      cases hs
      exact ⟨hvalido, fun v hv _ => ⟨⟨(hdel v hv).1, (hdel v hv).2.1⟩, (hdel v hv).2.2⟩, nofun⟩
    | dummy =>
      cases hs
      refine ⟨hvalido, fun v hv _ => ⟨⟨(hdel v hv).1, ?_⟩, (hdel v hv).2.2⟩, nofun⟩
      -- the dummy is of every flight
      exact List.forall_mem_cons.mpr ⟨fun hne => absurd rfl hne, (hdel v hv).2.1⟩
    | nada =>
      cases hs
      exact ⟨hvalido, fun v hv _ => ⟨⟨(hdel v hv).1, (hdel v hv).2.1⟩, (hdel v hv).2.2⟩, nofun⟩
  | evalua equipaje =>
    simp only [pasoRobot, hpc] at hs
    cases hs
    exact invVuelo_evaluar h hpc
  | comienza =>
    simp only [pasoRobot, hpc] at hs
    cases hs
    exact ⟨h.valido, nofun, nofun⟩
  | _ =>
    simp only [pasoRobot, hpc] at hs
    cases hs
    exact h.interno rfl rfl rfl rfl rfl (by rw [hpc]; rfl) (by rw [hpc]; rfl)

theorem invVuelo_pasoControl (hinv : Inv s) (h : InvVuelo s)
    (hcond : cierreDelVueloEnCarga s .control = true) (hs : pasoControl s = some t) :
    InvVuelo t := by
  cases hpc : s.control with
  | arranque =>
    simp only [pasoControl, hpc] at hs
    cases hs
    exact h.interno rfl rfl rfl rfl rfl rfl rfl
  | esperaAviso =>
    simp only [pasoControl, hpc] at hs
    split at hs <;> cases hs
    exact h.interno rfl rfl rfl rfl rfl rfl rfl
  | avisa mensaje =>
    simp only [pasoControl, hpc] at hs
    cases hs
    simp only [cierreDelVueloEnCarga, hpc, Bool.and_eq_true, Bool.or_eq_true, Bool.not_eq_true',
      decide_eq_true_eq] at hcond
    obtain ⟨⟨hya, hsolo⟩, halguno⟩ := hcond
    refine ⟨h.valido, fun v hv _ => ?_, fun htermina => ?_⟩
    · cases hv
      exact ⟨hsolo, halguno⟩
    · have := hinv.cerro (hinv.terminando htermina)
      rw [hya] at this
      cases this

/-- A bag put while the robot loads is of the flight whose close is on the belt. -/
theorem invVuelo_seccionDespacho (h : InvVuelo s)
    (hcond : cierreDelVueloEnCarga s .seccionDespacho = true)
    (hs : paso z s .seccionDespacho = some t) : InvVuelo t := by
  simp only [paso] at hs
  split at hs <;> cases hs
  rename_i equipaje hpc
  have hcola : Banda.EnCola s.cinta.anillo.tamanio s.cinta.anillo s.cinta.anillo.contenido [] :=
    ⟨⟨h.valido, rfl⟩, rfl⟩
  have hpone := hcola.seccionPoner equipaje (z + 1)
  refine ⟨hpone.fifo.valido, fun v hv hno => ?_, h.termina⟩
  have hdel := h.carga v hv hno
  have hes : equipaje.esDe v := by
    change s.cierre = some v at hv
    change s.robot.terminando = false at hno
    simpa only [cierreDelVueloEnCarga, hpc, hv, hno, Bool.false_or, decide_eq_true_eq] using hcond
  refine ⟨⟨hdel.soloDe.1, fun e he => ?_⟩, hdel.alguno⟩
  have hhistoria := hpone.fifo.historia
  rw [List.nil_append] at hhistoria
  rcases List.mem_append.mp he with hmano | hcinta
  · exact hdel.soloDe.2 e (List.mem_append_left _ hmano)
  · change e ∈ (s.cinta.toBanda.seccionPoner equipaje (z + 1)).1.anillo.contenido at hcinta
    rw [hhistoria] at hcinta
    split at hcinta
    · rcases List.mem_append.mp hcinta with hcinta | hnuevo
      · exact hdel.soloDe.2 e (List.mem_append_right _ hcinta)
      · exact List.mem_singleton.mp hnuevo ▸ hes
    · exact hdel.soloDe.2 e (List.mem_append_right _ hcinta)

theorem invVuelo_paso {e : Evento} (hinv : Inv s) (h : InvVuelo s)
    (hcond : cierreDelVueloEnCarga s e = true) (hs : paso z s e = some t) : InvVuelo t := by
  cases e with
  | robot => exact invVuelo_pasoRobot hinv h hs
  | control => exact invVuelo_pasoControl hinv h hcond hs
  | seccionDespacho => exact invVuelo_seccionDespacho h hcond hs
  | pedirZona v =>
    simp only [paso] at hs
    split at hs <;> [split at hs; skip] <;> cases hs
    exact h.interno rfl rfl rfl rfl rfl rfl rfl
  | _ =>
    simp only [paso] at hs
    split at hs <;> cases hs
    exact h.interno rfl rfl rfl rfl rfl rfl rfl

/-! ## The end of a load -/

/-- What `comenzar_nueva_carga` is about to reset is the close that the robot has observed, the one
    that `sacar_equipaje` showed it and whose total it read, and it is of the flight that the robot
    has just finished. -/
structure ReseteaLoObservado (s : Estado) : Prop where
  cerrado : s.cinta.checkinCerrado = 1
  total : s.cinta.numeroDeValijasTotales = s.locales.equipajesPorCargar
  delVuelo : s.cierre = some s.numeroDeVuelo
  visto : s.visto = some s.numeroDeVuelo
  leido : s.leido = some s.numeroDeVuelo

/-- In the runs in which every close announced is of the flight being loaded, the robot always resets
    the close it has observed for the flight it has finished. -/
theorem robot_carga_resetea_lo_observado (hN : 1 ≤ N) (ranura : Nat → Equipaje)
    (h : AlcanzaBajo (fun s e => cierreDelVueloEnCarga s e = true) (paso z)
      (inicial N M ranura vuelo) s)
    (hpc : s.robot = .comienza) : ReseteaLoObservado s := by
  have hinv : Inv s ∧ InvVuelo s :=
    h.induccion (I := fun s => Inv s ∧ InvVuelo s)
      ⟨inv_inicial ranura, invVuelo_inicial hN ranura⟩
      fun _ _ _ ha hc hb => ⟨inv_paso ha.1 hc hb, invVuelo_paso ha.1 ha.2 hc hb⟩
  have hcerro := hinv.1.terminando (by rw [hpc]; rfl)
  obtain ⟨hcerrado, hvisto⟩ := hinv.1.visto (hinv.1.cerro hcerro)
  obtain ⟨hleido, htotal⟩ := hinv.1.leido hcerro (by rw [hpc]; rfl)
  have hvuelo := hinv.2.termina (by rw [hpc]; rfl)
  exact ⟨hcerrado, htotal, hvuelo, hvisto.trans hvuelo, hleido.trans hvuelo⟩

/-- Flight `v` uses the zone, puts one bag on the belt of the zone and closes; the control relays
    the close and the robot loads the bag and arrives at `liberar_zona`. -/
def unVuelo (v : Nat) : List Evento :=
  [.pedirZona v, .ponerEquipaje ⟨7, v⟩, .waitDespacho, .seccionDespacho, .robot, .robot, .robot,
    .robot, .cerrarCheckin v, .cargarEquipajes v 1, .control, .control, .robot, .robot, .robot,
    .robot, .robot, .robot, .robot, .robot]

/-- The theorem at the end of the second flight of a zone. -/
theorem robot_carga_resetea_lo_observado_un_vuelo :
    ∃ s, s.robot = .comienza ∧ s.cierre = some 2 ∧ ReseteaLoObservado s :=
  ⟨_, rfl, rfl, robot_carga_resetea_lo_observado (by decide) (fun _ => .vacio)
    (show AlcanzaBajo _ (paso 0) (inicial 10 8 _ 0) _ from
      ⟨[.robot, .control] ++ unVuelo 1 ++ [.robot, .robot] ++ unVuelo 2 ++ [.robot], rfl⟩) rfl⟩

/-- Flight 2 takes the zone that the robot has just given back, and its close is on the belt before
    the robot resets it: the close of flight 2 is erased unseen. -/
theorem robot_carga_borra_cierre_ajeno :
    ¬ ∀ s, Alcanza (paso 0) (inicial 10 8 (fun _ => .vacio) 0) s → s.robot = .comienza →
      ReseteaLoObservado s := by
  intro h
  have hrun := h _
    ⟨[Evento.robot, Evento.control] ++ unVuelo 1 ++ [Evento.robot, Evento.pedirZona 2,
      Evento.cerrarCheckin 2, Evento.cargarEquipajes 2 5, Evento.control, Evento.control], rfl⟩ rfl
  cases hrun.delVuelo

/-- Robot and control have given the zone to flights 1 and 2: the robot loads the bag of flight 1,
    ends that flight with the close of flight 2, and resets it. -/
example : ∃ s, Alcanza (paso 0) (inicial 10 8 (fun _ => .vacio) 0) s ∧ s.robot = .comienza ∧
    s.numeroDeVuelo = 1 ∧ s.visto = some 2 ∧ s.cierre = some 2 :=
  ⟨_, ⟨[.robot, .control, .pedirZona 1, .pedirZona 2, .ponerEquipaje ⟨7, 1⟩, .waitDespacho,
    .seccionDespacho, .robot, .robot, .robot, .robot, .cerrarCheckin 2, .cargarEquipajes 2 1,
    .control, .control, .robot, .robot, .robot, .robot, .robot, .robot, .robot, .robot, .robot],
    rfl⟩, rfl, rfl, rfl, rfl⟩

end RobotCarga
