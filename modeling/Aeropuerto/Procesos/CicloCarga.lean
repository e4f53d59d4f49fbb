import Aeropuerto.Cintas.CintaCarga
import Aeropuerto.Procesos.Contenedores
import Aeropuerto.Procesos.Tractor

/-!
# The luggage of one flight, from the belt to the blocks (`processes/robot_carga.cpp`)

One turn of the main loop of the loading robot, with `robot_despacho` that puts the bags of the flight on
the belt and the control that relays the close of its check-in.
-/

namespace CicloCarga

open Ejecucion CintaCarga Contenedores

variable {ε : Type}

inductive PcRobot (ε : Type) where
  -- the condition of the inner loop
  | lazo
  -- in sacar_equipaje
  | espera
  | seccion
  -- back from it; none is the default element, with rfid 0
  | evalua (equipaje : Option (Equipaje ε))
  | leeTotal
  -- the inner loop has ended
  | desasigna
  | envia
  | enviado
  -- an exception, caught in main
  | excepcion

structure Estado (ε : Type) [LT ε] where
  cinta : Compartido (Equipaje ε)
  -- ya_me_desperto_el_cierre_de_checkin
  yaMeDesperto : Bool
  productor : PcProductor (Equipaje ε)
  -- the bags that robot_despacho has still to put
  porPoner : List (Equipaje ε)
  avisado : Bool
  robot : PcRobot ε
  checkinCerro : Bool
  equipajesCargados : Int
  equipajesPorCargar : Int
  numeroDeVuelo : Int
  -- contenedores_por_escala and the vector of ApiCarga
  carga : Carga ε
  tomados : List (Equipaje ε)
  bloques : List (Tractor.BloqueContenedores Int (Contenedor ε))

inductive Evento where
  | ponerEquipaje
  | waitProductor
  | seccionProductor
  | avisarCierreDeCheckin
  | robot

instance : Inhabited (Contenedor ε) := ⟨.nuevo⟩

/-- What there is at the beginning: the belt, `numero_de_vuelo` and what follows the vector of containers in
    memory. -/
structure Entorno (ε : Type) where
  banda : Banda (Equipaje ε)
  numeroDeVuelo : Int
  despues : Nat → Contenedor ε

section

variable [LinearOrder ε]

def inicial (x : Entorno ε) (bolsos : List (Equipaje ε)) : Estado ε where
  cinta := { x.banda with checkinCerrado := 0, numeroDeValijasTotales := 0 }
  yaMeDesperto := false
  productor := .reposo
  porPoner := bolsos
  avisado := false
  robot := .lazo
  checkinCerro := false
  equipajesCargados := 0
  equipajesPorCargar := 0
  numeroDeVuelo := x.numeroDeVuelo
  carga := .vacia
  tomados := []
  bloques := []

/-- The look at the close, after each bag. -/
def verCierre (s : Estado ε) : Estado ε :=
  if s.checkinCerro = false then
    -- checkin_cerro = api_carga.checkin_cerrado()
    { s with checkinCerro := s.yaMeDesperto, robot := if s.yaMeDesperto then .leeTotal else .lazo }
  else { s with robot := .lazo }

/-- The robot back from `sacar_equipaje`. -/
def evaluar (s : Estado ε) (equipaje : Option (Equipaje ε)) : Estado ε :=
  match equipaje with
  | none => verCierre s
  | some e =>
    if e.rfid ≠ 0 then
      match agregarEquipaje s.carga e with
      | .ok carga =>
        verCierre { s with numeroDeVuelo := e.numeroDeVueloDestino, carga := carga,
                           equipajesCargados := s.equipajesCargados + 1 }
      | .error _ => { s with robot := .excepcion }
    else verCierre s

/-- The robot of the zone `z + 1`. -/
def pasoRobot (x : Entorno ε) (z : Nat) (s : Estado ε) : Option (Estado ε) :=
  match s.robot with
  | .lazo =>
    if s.checkinCerro = false ∨ s.equipajesCargados < s.equipajesPorCargar then
      some { s with robot := .espera }
    else some { s with robot := .desasigna }
  | .espera =>
    match s.cinta.consumidores.waitOn z with
    | some consumidores => some { s with cinta.consumidores := consumidores, robot := .seccion }
    | none => none
  | .seccion =>
    match s.cinta.seccionSacar s.yaMeDesperto (z + 1) with
    | (cinta, yaMeDesperto, .equipaje e) =>
      some { s with cinta := cinta, yaMeDesperto := yaMeDesperto, robot := .evalua (some e),
                    tomados := s.tomados ++ [e] }
    | (cinta, yaMeDesperto, .dummy) =>
      some { s with cinta := cinta, yaMeDesperto := yaMeDesperto, robot := .evalua none }
    | (cinta, yaMeDesperto, .nada) =>
      some { s with cinta := cinta, yaMeDesperto := yaMeDesperto, robot := .espera }
  | .evalua equipaje => some (evaluar s equipaje)
  | .leeTotal =>
    some { s with equipajesPorCargar := s.cinta.cantidadValijasTotales s.yaMeDesperto, robot := .lazo }
  | .desasigna => some { s with robot := .envia }
  | .envia =>
    some { s with
      bloques :=
        Tractor.enviarContenedoresAAvion s.carga.cargarElResto x.despues s.numeroDeVuelo
      robot := .enviado }
  | _ => none

def paso (x : Entorno ε) (z : Nat) (total : Int) (s : Estado ε) : Evento → Option (Estado ε)
  | .ponerEquipaje =>
    match s.productor, s.porPoner with
    | .reposo, e :: es => some { s with productor := .espera e, porPoner := es }
    | _, _ => none
  | .waitProductor =>
    match s.productor, s.cinta.productores.waitOn z with
    | .espera e, some productores =>
      some { s with cinta.productores := productores, productor := .seccion e }
    | _, _ => none
  | .seccionProductor =>
    match s.productor with
    | .seccion e =>
      let (b, coloque) := s.cinta.toBanda.seccionPoner e (z + 1)
      some { s with cinta.toBanda := b, productor := if coloque then .reposo else .espera e }
    | _ => none
  | .avisarCierreDeCheckin =>
    if s.avisado then none
    else some { s with cinta := s.cinta.avisarCierreDeCheckin total, avisado := true }
  | .robot => pasoRobot x z s

/-- The containers in which the bags end. -/
def contenedoresDe (bolsos : List (Equipaje ε)) : List (Contenedor ε) :=
  match agregarEquipajes bolsos with
  | .ok carga => carga.cargarElResto
  | .error _ => []

/-- When the inner loop has ended, the robot has taken the bags and seen the close, and the belt is empty;
    what it sends is sent to the flight, in containers with nothing else. -/
structure CicloBien (bolsos : List (Equipaje ε)) (v : Int) (s : Estado ε) : Prop where
  lazo : s.robot = .desasigna ∨ s.robot = .envia ∨ s.robot = .enviado →
    s.tomados = bolsos ∧ s.checkinCerro = true ∧ s.avisado = true ∧ s.cinta.anillo.cantidad = 0 ∧
      s.porPoner = [] ∧ s.productor = .reposo
  bloques : ∀ b ∈ s.bloques, b.vueloDestino = v ∧ ∀ c ∈ b.primeros, ∀ e ∈ c.equipajes, e ∈ bolsos

end

/-! ## The run -/

variable [LinearOrder ε] {x : Entorno ε} {z N : Nat} {bolsos : List (Equipaje ε)} {v : Int}
  {s t : Estado ε} {ev : Evento}

/-- The bag that the producer has in its hands. -/
def enMano {α : Type} : PcProductor α → List α
  | .reposo => []
  | .espera e => [e]
  | .seccion e => [e]

/-- The bags that have been put in containers and counted. -/
structure Contado (v : Int) (contados : List (Equipaje ε)) (carga : Carga ε) (cargados vuelo : Int) :
    Prop where
  carga : agregarEquipajes contados = .ok carga
  cuantos : cargados = contados.length
  vuelo : contados ≠ [] → vuelo = v

/-- Where the robot is. -/
def EnPunto (bolsos : List (Equipaje ε)) (v : Int) (s : Estado ε) : Prop :=
  match s.robot with
  | .evalua (some e) =>
    (∃ contados, s.tomados = contados ++ [e] ∧
      Contado v contados s.carga s.equipajesCargados s.numeroDeVuelo) ∧
    (s.checkinCerro = true → s.equipajesPorCargar = bolsos.length)
  | .leeTotal => Contado v s.tomados s.carga s.equipajesCargados s.numeroDeVuelo ∧ s.checkinCerro = true
  | .lazo | .espera | .seccion | .evalua none =>
    Contado v s.tomados s.carga s.equipajesCargados s.numeroDeVuelo ∧
    (s.checkinCerro = true → s.equipajesPorCargar = bolsos.length)
  | .desasigna | .envia | .enviado =>
    Contado v s.tomados s.carga s.equipajesCargados s.numeroDeVuelo ∧ s.checkinCerro = true ∧
      (bolsos.length : Int) ≤ s.equipajesCargados
  | .excepcion => False

structure Inv (x : Entorno ε) (N : Nat) (bolsos : List (Equipaje ε)) (v : Int) (s : Estado ε) : Prop where
  puestos : ∃ puestos, Banda.EnCola N s.cinta.anillo puestos s.tomados ∧
    puestos ++ (enMano s.productor ++ s.porPoner) = bolsos
  cerrado : s.cinta.checkinCerrado = if s.avisado then 1 else 0
  total : s.avisado = true → s.cinta.numeroDeValijasTotales = bolsos.length
  visto : s.yaMeDesperto = true → s.avisado = true
  cerro : s.checkinCerro = true → s.yaMeDesperto = true
  punto : EnPunto bolsos v s
  bloques : s.robot ≠ .enviado → s.bloques = []
  enviados : s.robot = .enviado →
    s.bloques = Tractor.enviarContenedoresAAvion s.carga.cargarElResto x.despues s.numeroDeVuelo

theorem inv_inicial (hbanda : Banda.EnCola N x.banda.anillo [] []) : Inv x N bolsos v (inicial x bolsos) where
  puestos := ⟨[], hbanda, rfl⟩
  cerrado := rfl
  total := by rintro ⟨⟩
  visto := by rintro ⟨⟩
  cerro := by rintro ⟨⟩
  punto := ⟨⟨rfl, rfl, fun h => absurd rfl h⟩, by rintro ⟨⟩⟩
  bloques _ := rfl
  enviados := by rintro ⟨⟩

omit [LinearOrder ε] in
/-- What the robot takes comes out of the belt, and the notice stays. -/
theorem seccionSacar_spec {c : Compartido (Equipaje ε)} {puestos tomados : List (Equipaje ε)} (ya : Bool)
    (j : Nat) (h : Banda.EnCola N c.anillo puestos tomados) :
    (c.seccionSacar ya j).1.checkinCerrado = c.checkinCerrado ∧
      (c.seccionSacar ya j).1.numeroDeValijasTotales = c.numeroDeValijasTotales ∧
      ((c.seccionSacar ya j).2.1 = true → ya = true ∨ c.checkinCerrado = 1) ∧
      (ya = true → (c.seccionSacar ya j).2.1 = true) ∧
      match (c.seccionSacar ya j).2.2 with
      | .equipaje e => Banda.EnCola N (c.seccionSacar ya j).1.anillo puestos (tomados ++ [e])
      | _ => Banda.EnCola N (c.seccionSacar ya j).1.anillo puestos tomados := by
  have hsaca := h.seccionSacar j
  rw [Compartido.seccionSacar]
  split
  · cases hb : c.toBanda.seccionSacar j with
    | mk b elemento =>
      rw [hb] at hsaca
      cases elemento with
      | none =>
        rw [Option.toList_none, List.append_nil] at hsaca
        exact ⟨rfl, rfl, .inl, id, hsaca⟩
      | some e => exact ⟨rfl, rfl, .inl, id, hsaca⟩
  · split
    · rename_i huno
      exact ⟨rfl, rfl, fun _ => .inr huno, fun _ => rfl, h⟩
    · exact ⟨rfl, rfl, .inl, id, h⟩

/-- The bag goes to a container. -/
theorem Contado.agrega {contados : List (Equipaje ε)} {e : Equipaje ε} {carga : Carga ε} {n u : Int}
    (h : Contado v contados carga n u) (he : e.numeroDeVueloDestino = v) :
    ∃ carga', agregarEquipaje carga e = .ok carga' ∧
      Contado v (contados ++ [e]) carga' (n + 1) e.numeroDeVueloDestino := by
  obtain ⟨carga₀, hcarga₀, hinv⟩ := inv_agregarEquipajes contados
  cases Except.ok.inj (hcarga₀.symm.trans h.carga)
  obtain ⟨carga', hcarga, -⟩ := inv_agregarEquipaje hinv e
  refine ⟨carga', hcarga, ⟨?_, ?_, fun _ => he⟩⟩
  · have hfold := h.carga
    unfold agregarEquipajes at hfold ⊢
    rw [List.foldlM_append, hfold]
    show [e].foldlM agregarEquipaje carga = _
    rw [List.foldlM_cons, hcarga]
    rfl
  · rw [h.cuantos, List.length_append]
    rfl

theorem Inv.productor (h : Inv x N bolsos v s) (hev : ev ≠ .robot) {total : Int}
    (htotal : total = bolsos.length) (hpaso : paso x z total s ev = some t) : Inv x N bolsos v t := by
  obtain ⟨⟨puestos, hcola, hreparto⟩, hcerrado, htot, hvisto, hcerro, hpunto, hbloques, henviados⟩ := h
  cases ev with
  | robot => exact absurd rfl hev
  | ponerEquipaje =>
    simp only [paso] at hpaso
    split at hpaso <;> cases hpaso
    rename_i e es hprod hporPoner
    rw [hprod, hporPoner] at hreparto
    exact ⟨⟨puestos, hcola, hreparto⟩, hcerrado, htot, hvisto, hcerro, hpunto, hbloques, henviados⟩
  | waitProductor =>
    simp only [paso] at hpaso
    split at hpaso <;> cases hpaso
    rename_i e productores hprod hwait
    rw [hprod] at hreparto
    exact ⟨⟨puestos, hcola, hreparto⟩, hcerrado, htot, hvisto, hcerro, hpunto, hbloques, henviados⟩
  | seccionProductor =>
    simp only [paso] at hpaso
    split at hpaso
    case h_2 => cases hpaso
    case h_1 e hprod =>
      cases hpaso
      have hcola' := hcola.seccionPoner e (z + 1)
      rw [hprod] at hreparto
      refine ⟨⟨_, hcola', ?_⟩, hcerrado, htot, hvisto, hcerro, hpunto, hbloques, henviados⟩
      dsimp only
      split
      · rw [← hreparto, List.append_assoc]
        rfl
      · exact hreparto
  | avisarCierreDeCheckin =>
    simp only [paso] at hpaso
    split at hpaso <;> cases hpaso
    exact ⟨⟨puestos, hcola, hreparto⟩, rfl, fun _ => htotal, fun _ => rfl,
      hcerro, hpunto, hbloques, henviados⟩

theorem Inv.verCierre (h : Inv x N bolsos v { s with robot := .lazo }) (hnada : s.bloques = []) :
    Inv x N bolsos v (verCierre s) := by
  obtain ⟨hpuestos, hcerrado, htot, hvisto, hcerro, ⟨hcontado, hporCargar⟩, -, -⟩ := h
  rw [CicloCarga.verCierre]
  split
  · -- the robot has the notice exactly when it goes to read the total
    cases hya : s.yaMeDesperto with
    | true =>
      exact ⟨hpuestos, hcerrado, htot, fun _ => hvisto hya, id, ⟨hcontado, rfl⟩, fun _ => hnada,
        by rintro ⟨⟩⟩
    | false =>
      exact ⟨hpuestos, hcerrado, htot, by rintro ⟨⟩, by rintro ⟨⟩, ⟨hcontado, by rintro ⟨⟩⟩,
        fun _ => hnada, by rintro ⟨⟩⟩
  · exact ⟨hpuestos, hcerrado, htot, hvisto, hcerro, ⟨hcontado, hporCargar⟩, fun _ => hnada, by rintro ⟨⟩⟩

/-- The robot takes only bags that have been put. -/
theorem Inv.mem_bolsos (h : Inv x N bolsos v s) {e : Equipaje ε} (he : e ∈ s.tomados) : e ∈ bolsos := by
  obtain ⟨puestos, hcola, hreparto⟩ := h.puestos
  rw [← hreparto, ← hcola.fifo.historia]
  exact List.mem_append_left _ (List.mem_append_left _ he)

theorem Inv.evalua (h : Inv x N bolsos v s) {equipaje : Option (Equipaje ε)}
    (hrobot : s.robot = .evalua equipaje) (hrfid : ∀ e ∈ bolsos, e.rfid ≠ 0)
    (hvuelo : ∀ e ∈ bolsos, e.numeroDeVueloDestino = v) : Inv x N bolsos v (evaluar s equipaje) := by
  have hnada : s.bloques = [] := h.bloques (by rw [hrobot]; rintro ⟨⟩)
  have hpunto := h.punto
  rw [EnPunto, hrobot] at hpunto
  cases equipaje with
  | none =>
    refine Inv.verCierre ?_ hnada
    exact ⟨h.puestos, h.cerrado, h.total, h.visto, h.cerro, hpunto, fun _ => hnada, by rintro ⟨⟩⟩
  | some e =>
    obtain ⟨⟨contados, htomados, hcontado⟩, hporCargar⟩ := hpunto
    have he : e ∈ bolsos := h.mem_bolsos (by rw [htomados]; exact List.mem_concat_self)
    obtain ⟨carga', hcarga, hcontado'⟩ := hcontado.agrega (hvuelo e he)
    rw [← htomados] at hcontado'
    rw [CicloCarga.evaluar, if_pos (hrfid e he), hcarga]
    refine Inv.verCierre ?_ hnada
    exact ⟨h.puestos, h.cerrado, h.total, h.visto, h.cerro,
      ⟨hcontado', hporCargar⟩, fun _ => hnada, by rintro ⟨⟩⟩

theorem Inv.robot (h : Inv x N bolsos v s) (hrfid : ∀ e ∈ bolsos, e.rfid ≠ 0)
    (hvuelo : ∀ e ∈ bolsos, e.numeroDeVueloDestino = v) (hpaso : pasoRobot x z s = some t) :
    Inv x N bolsos v t := by
  have hpunto := h.punto
  rw [pasoRobot] at hpaso
  rw [EnPunto] at hpunto
  split at hpaso
  case h_1 hrobot =>
    rw [hrobot] at hpunto
    have hnada : s.bloques = [] := h.bloques (by rw [hrobot]; rintro ⟨⟩)
    split at hpaso <;> cases hpaso
    · exact ⟨h.puestos, h.cerrado, h.total, h.visto, h.cerro, hpunto, fun _ => hnada, by rintro ⟨⟩⟩
    · -- the loop ends: the total has been read, and there are as many bags in the containers
      rename_i hfin
      have hcerro : s.checkinCerro = true := by
        by_contra hno
        exact hfin (.inl (Bool.eq_false_iff.mpr hno))
      have htodos : (bolsos.length : Int) ≤ s.equipajesCargados := by
        rw [← hpunto.2 hcerro]
        exact Int.not_lt.mp fun hlt => hfin (.inr hlt)
      exact ⟨h.puestos, h.cerrado, h.total, h.visto, h.cerro,
        ⟨hpunto.1, hcerro, htodos⟩, fun _ => hnada, by rintro ⟨⟩⟩
  case h_2 hrobot =>
    rw [hrobot] at hpunto
    have hnada : s.bloques = [] := h.bloques (by rw [hrobot]; rintro ⟨⟩)
    split at hpaso <;> cases hpaso
    exact ⟨h.puestos, h.cerrado, h.total, h.visto, h.cerro, hpunto, fun _ => hnada, by rintro ⟨⟩⟩
  case h_3 hrobot =>
    rw [hrobot] at hpunto
    have hnada : s.bloques = [] := h.bloques (by rw [hrobot]; rintro ⟨⟩)
    obtain ⟨puestos, hcola, hreparto⟩ := h.puestos
    obtain ⟨hcerrado, htot, haviso, hya, hsaca⟩ := seccionSacar_spec s.yaMeDesperto (z + 1) hcola
    have hvisto : (s.cinta.seccionSacar s.yaMeDesperto (z + 1)).2.1 = true → s.avisado = true := by
      intro hh
      rcases haviso hh with hh | hh
      · exact h.visto hh
      · by_contra hno
        rw [h.cerrado, if_neg hno] at hh
        cases hh
    split at hpaso <;> cases hpaso
    all_goals
      rename_i cinta ya _ heq
      rw [heq] at hcerrado htot hvisto hya hsaca
      have hcerrado' := hcerrado.trans h.cerrado
      have htot' := fun hh => htot.trans (h.total hh)
      have hcerro' := fun hh => hya (h.cerro hh)
    · exact ⟨⟨puestos, hsaca, hreparto⟩, hcerrado', htot', hvisto, hcerro',
        ⟨⟨s.tomados, rfl, hpunto.1⟩, hpunto.2⟩, fun _ => hnada, by rintro ⟨⟩⟩
    · exact ⟨⟨puestos, hsaca, hreparto⟩, hcerrado', htot', hvisto, hcerro', hpunto,
        fun _ => hnada, by rintro ⟨⟩⟩
    · exact ⟨⟨puestos, hsaca, hreparto⟩, hcerrado', htot', hvisto, hcerro', hpunto,
        fun _ => hnada, by rintro ⟨⟩⟩
  case h_4 hrobot =>
    cases hpaso
    exact h.evalua hrobot hrfid hvuelo
  case h_5 hrobot =>
    rw [hrobot] at hpunto
    have hnada : s.bloques = [] := h.bloques (by rw [hrobot]; rintro ⟨⟩)
    cases hpaso
    have hya := h.cerro hpunto.2
    have htotal : s.cinta.cantidadValijasTotales s.yaMeDesperto = bolsos.length := by
      rw [Compartido.cantidadValijasTotales, hya]
      exact h.total (h.visto hya)
    exact ⟨h.puestos, h.cerrado, h.total, h.visto, h.cerro,
      ⟨hpunto.1, fun _ => htotal⟩, fun _ => hnada, by rintro ⟨⟩⟩
  case h_6 hrobot =>
    rw [hrobot] at hpunto
    have hnada : s.bloques = [] := h.bloques (by rw [hrobot]; rintro ⟨⟩)
    cases hpaso
    exact ⟨h.puestos, h.cerrado, h.total, h.visto, h.cerro, hpunto, fun _ => hnada, by rintro ⟨⟩⟩
  case h_7 hrobot =>
    rw [hrobot] at hpunto
    cases hpaso
    exact ⟨h.puestos, h.cerrado, h.total, h.visto, h.cerro, hpunto, fun hno => absurd rfl hno, fun _ => rfl⟩
  case h_8 => cases hpaso

theorem inv_alcanza {total : Int} (hbanda : Banda.EnCola N x.banda.anillo [] [])
    (hrfid : ∀ e ∈ bolsos, e.rfid ≠ 0) (hvuelo : ∀ e ∈ bolsos, e.numeroDeVueloDestino = v)
    (htotal : total = bolsos.length) (hs : Alcanza (paso x z total) (inicial x bolsos) s) :
    Inv x N bolsos v s := by
  refine hs.induccion (inv_inicial hbanda) fun a e b ha hpaso => ?_
  by_cases he : e = .robot
  · subst he
    exact ha.robot hrfid hvuelo hpaso
  · exact ha.productor he htotal hpaso

/-- Past the loop all the bags have been taken, in the order in which they were put. -/
theorem Inv.termino (h : Inv x N bolsos v s)
    (hrobot : s.robot = .desasigna ∨ s.robot = .envia ∨ s.robot = .enviado) :
    Contado v bolsos s.carga s.equipajesCargados s.numeroDeVuelo ∧
      s.tomados = bolsos ∧ s.checkinCerro = true ∧ s.avisado = true ∧ s.cinta.anillo.cantidad = 0 ∧
        s.porPoner = [] ∧ s.productor = .reposo := by
  obtain ⟨puestos, hcola, hreparto⟩ := h.puestos
  have hpunto : Contado v s.tomados s.carga s.equipajesCargados s.numeroDeVuelo ∧
      s.checkinCerro = true ∧ (bolsos.length : Int) ≤ s.equipajesCargados := by
    have := h.punto
    rw [EnPunto] at this
    rcases hrobot with hr | hr | hr <;> rw [hr] at this <;> exact this
  obtain ⟨hcontado, hcerro, htodos⟩ := hpunto
  rw [hcontado.cuantos, Int.ofNat_le] at htodos
  -- what has been taken is as long as what there is, so there is no more
  rw [← hcola.fifo.historia, List.append_assoc] at hreparto
  have hlargo := congrArg List.length hreparto
  rw [List.length_append] at hlargo
  have hresto : s.cinta.anillo.contenido ++ (enMano s.productor ++ s.porPoner) = [] :=
    List.eq_nil_of_length_eq_zero (by omega)
  rw [hresto, List.append_nil] at hreparto
  obtain ⟨hvacia, hmano⟩ := List.append_eq_nil_iff.mp hresto
  obtain ⟨hmano, hporPoner⟩ := List.append_eq_nil_iff.mp hmano
  refine ⟨hreparto ▸ hcontado, hreparto, hcerro, h.visto (h.cerro hcerro), ?_, hporPoner, ?_⟩
  · have hcero := congrArg List.length hvacia
    rw [Anillo.contenido, List.length_map, List.length_range] at hcero
    exact le_antisymm (Int.toNat_eq_zero.mp hcero) hcola.fifo.valido.noNegativa
  · cases hp : s.productor with
    | reposo => rfl
    | espera e => rw [hp] at hmano; cases hmano
    | seccion e => rw [hp] at hmano; cases hmano

/-! ## What is sent -/

omit [LinearOrder ε] in
theorem vueloDestino_enviar {cs : List (Contenedor ε)} {despues : Nat → Contenedor ε} {u : Int}
    {b : Tractor.BloqueContenedores Int (Contenedor ε)}
    (hb : b ∈ Tractor.enviarContenedoresAAvion cs despues u) : b.vueloDestino = u :=
  ((Tractor.enviarContenedores_spec _).2 b (List.mem_cons_of_mem _ hb)).1

/-- The containers hold only bags of the flight. -/
theorem mem_of_contenedoresDe {c : Contenedor ε} {e : Equipaje ε} (hc : c ∈ contenedoresDe bolsos)
    (he : e ∈ c.equipajes) : e ∈ bolsos := by
  obtain ⟨carga, hcarga, hinv⟩ := inv_agregarEquipajes bolsos
  rw [contenedoresDe, hcarga] at hc
  have hcargado : e ∈ cargados carga.cargarElResto e.escala :=
    List.mem_filter.mpr ⟨List.mem_flatMap.mpr ⟨c, hc, he⟩, decide_eq_true rfl⟩
  rw [hinv.cargados_cargarElResto] at hcargado
  exact List.mem_of_mem_filter hcargado

/-- Only the container that follows the vector can have other bags. -/
theorem primeros_enviar_iff (despues : Nat → Contenedor ε) (u : Int) :
    (∀ c ∈ (Tractor.enviarContenedoresAAvion (contenedoresDe bolsos) despues u).flatMap
        Tractor.BloqueContenedores.primeros, ∀ e ∈ c.equipajes, e ∈ bolsos) ↔
      Even (contenedoresDe bolsos).length ∨
        ∀ e ∈ (despues (contenedoresDe bolsos).length).equipajes, e ∈ bolsos := by
  by_cases hpar : Even (contenedoresDe bolsos).length
  · rw [Tractor.primeros_of_even despues u hpar]
    exact ⟨fun _ => .inl hpar, fun _ c hc e he => mem_of_contenedoresDe hc he⟩
  · rw [Tractor.primeros_of_odd despues u hpar]
    constructor
    · intro h
      exact .inr (h _ List.mem_concat_self)
    · rintro (h | h) c hc e he
      · exact absurd h hpar
      · rcases List.mem_append.mp hc with hc | hc
        · exact mem_of_contenedoresDe hc he
        · rw [List.mem_singleton.mp hc] at he
          exact h e he

/-- Once the flight has been sent. -/
theorem Inv.enviado (h : Inv x N bolsos v s) (hrobot : s.robot = .enviado) :
    s.bloques = Tractor.enviarContenedoresAAvion (contenedoresDe bolsos) x.despues v := by
  obtain ⟨hcontado, -⟩ := h.termino (.inr (.inr hrobot))
  have hcs : contenedoresDe bolsos = s.carga.cargarElResto := by
    rw [contenedoresDe, hcontado.carga]
  rw [h.enviados hrobot, ← hcs]
  by_cases hbolsos : bolsos = []
  · -- without bags there are no containers, hence no blocks
    subst hbolsos
    have hnada : contenedoresDe ([] : List (Equipaje ε)) = [] := rfl
    have hcero : Tractor.cantBloques 0 = 0 := rfl
    rw [hnada, Tractor.enviarContenedoresAAvion, Tractor.enviarContenedoresAAvion, List.length_nil, hcero]
    rfl
  · rw [hcontado.vuelo hbolsos]

/-- One turn of the loop takes the luggage of one flight whenever the close comes.  What goes to the
    airplane is that luggage exactly when the containers fill the blocks, or the one that follows them in
    memory has nothing else. -/
theorem cicloBien_iff {total : Int} (hbanda : Banda.EnCola N x.banda.anillo [] [])
    (hrfid : ∀ e ∈ bolsos, e.rfid ≠ 0) (hvuelo : ∀ e ∈ bolsos, e.numeroDeVueloDestino = v)
    (htotal : total = bolsos.length) (hs : Alcanza (paso x z total) (inicial x bolsos) s) :
    CicloBien bolsos v s ↔ (s.robot = .enviado → Even (contenedoresDe bolsos).length ∨
      ∀ e ∈ (x.despues (contenedoresDe bolsos).length).equipajes, e ∈ bolsos) := by
  have hinv := inv_alcanza hbanda hrfid hvuelo htotal hs
  constructor
  · intro h hrobot
    refine (primeros_enviar_iff x.despues v).mp fun c hc => ?_
    rw [← hinv.enviado hrobot] at hc
    obtain ⟨b, hb, hc⟩ := List.mem_flatMap.mp hc
    exact (h.bloques b hb).2 c hc
  · intro h
    refine ⟨fun hr => (hinv.termino hr).2, fun b hb => ?_⟩
    have hrobot : s.robot = .enviado := by
      by_contra hno
      rw [hinv.bloques hno] at hb
      cases hb
    rw [hinv.enviado hrobot] at hb
    refine ⟨vueloDestino_enviar hb, fun c hc => ?_⟩
    exact (primeros_enviar_iff x.despues v).mpr (h hrobot) c (List.mem_flatMap.mpr ⟨b, hb, hc⟩)

/-- A belt with room for one bag, and behind the vector a container with a bag of the flight 2. -/
def unEntorno : Entorno Nat where
  banda := Banda.inicial 1 1 1 fun _ => ⟨0, 0, 0, 0⟩
  numeroDeVuelo := 0
  despues _ := ⟨10, [⟨2, 2, 10, 0⟩]⟩

def unBolso : Equipaje Nat := ⟨1, 1, 10, 0⟩

/-- The bag is put and taken, the close comes, and the robot sends what there is. -/
def unaVuelta : List Evento :=
  [.ponerEquipaje, .waitProductor, .seccionProductor, .robot, .robot, .robot, .robot,
    .avisarCierreDeCheckin, .robot, .robot, .robot, .robot, .robot, .robot, .robot, .robot]

def trasLaVuelta : Estado Nat :=
  (correr (paso unEntorno 0 1) (inicial unEntorno [unBolso]) unaVuelta).getD (inicial unEntorno [])

theorem alcanza_trasLaVuelta : Alcanza (paso unEntorno 0 1) (inicial unEntorno [unBolso]) trasLaVuelta :=
  ⟨unaVuelta, rfl⟩

theorem un_bolso_enviado : CicloBien [unBolso] 1 trasLaVuelta ↔
    (trasLaVuelta.robot = .enviado → Even (contenedoresDe [unBolso]).length ∨
      ∀ e ∈ (unEntorno.despues (contenedoresDe [unBolso]).length).equipajes, e ∈ [unBolso]) :=
  cicloBien_iff ⟨Anillo.fifo_vacio (by decide) _, rfl⟩ (by decide) (by decide) rfl alcanza_trasLaVuelta

/-- The only container goes in a block with another one, of another flight. -/
theorem contenedor_de_otro_vuelo : ∃ s, Alcanza (paso unEntorno 0 1) (inicial unEntorno [unBolso]) s ∧
    s.robot = .enviado ∧ ¬CicloBien [unBolso] 1 s := by
  refine ⟨trasLaVuelta, alcanza_trasLaVuelta, rfl, fun h => ?_⟩
  have hotro := (h.bloques _ List.mem_cons_self).2 ⟨10, [⟨2, 2, 10, 0⟩]⟩
    (List.mem_cons_of_mem _ List.mem_cons_self) ⟨2, 2, 10, 0⟩ List.mem_cons_self
  exact absurd (congrArg Equipaje.rfid (List.mem_singleton.mp hotro)) (by decide)

end CicloCarga
