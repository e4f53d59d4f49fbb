import Aeropuerto.Procesos.CicloCarga

/-!
# From the container belts to the take-off

The loading robots of any number of flights, each at the belt of its zone, the tractors that they share and
the airplanes.  `CicloCarga` is the turn of a robot; the blocks that it makes go to the queue of the tractors
one by one, and what the tractors do is `Tractor`.
-/

namespace CargaVuelo

open Ejecucion Contenedores

variable {φ τ ε : Type} [LinearOrder ε]

/-- The flights: their numbers, the bags that `robot_despacho` has for each and the total that the close of
    its check-in announces. -/
structure Vuelos (φ ε : Type) where
  vuelo : φ → Int
  zona : φ → Nat
  capacidad : φ → Nat
  entorno : φ → CicloCarga.Entorno ε
  bolsos : φ → List (Equipaje ε)
  total : φ → Int
  -- a flight number is a type of msgsnd, no two flights have one, and the belts are empty
  vuelo_pos : ∀ f, 0 < vuelo f
  vuelo_inyectiva : Function.Injective vuelo
  cinta_vacia : ∀ f, Banda.EnCola (capacidad f) (entorno f).banda.anillo [] []
  -- a bag has an rfid, and goes to its flight
  rfid_ne_zero : ∀ f, ∀ e ∈ bolsos f, e.rfid ≠ 0
  destino : ∀ f, ∀ e ∈ bolsos f, e.numeroDeVueloDestino = vuelo f

structure Estado (φ τ ε : Type) [LT ε] where
  ciclo : φ → CicloCarga.Estado ε
  -- the flights are known by their numbers
  reparto : Tractor.Estado Int τ (Contenedor ε)

inductive Evento (φ τ : Type) where
  | ciclo (f : φ) (e : CicloCarga.Evento)
  | reparto (e : Tractor.Evento Int τ)

def inicial (V : Vuelos φ ε) : Estado φ τ ε where
  ciclo f := CicloCarga.inicial (V.entorno f) (V.bolsos f)
  reparto :=
    { porEnviar := fun _ => []
      colaTractores := []
      tractor := fun _ => .espera
      colaAvion := fun _ => []
      avion := fun _ => ⟨0, 0, [], false⟩
      empujados := fun _ => [] }

/-- The blocks that a step of the robot has cut. -/
def cortados (s t : CicloCarga.Estado ε) :
    CicloCarga.Evento → List (Tractor.BloqueContenedores Int (Contenedor ε))
  | .robot =>
    match s.robot with
    | .envia => t.bloques
    | _ => []
  | _ => []

variable [DecidableEq φ] [DecidableEq τ]

def paso (V : Vuelos φ ε) (s : Estado φ τ ε) : Evento φ τ → Option (Estado φ τ ε)
  | .ciclo f e =>
    (CicloCarga.paso (V.entorno f) (V.zona f) (V.total f) (s.ciclo f) e).map fun t =>
      { ciclo := Function.update s.ciclo f t
        reparto := { s.reparto with
          porEnviar := Function.update s.reparto.porEnviar (V.vuelo f)
            (s.reparto.porEnviar (V.vuelo f) ++ cortados (s.ciclo f) t e) } }
  | .reparto e => (Tractor.paso s.reparto e).map fun r => { s with reparto := r }

/-! ## One robot -/

section Ciclo

variable {x : CicloCarga.Entorno ε} {z N : Nat} {total v : Int} {bolsos : List (Equipaje ε)}
  {c t : CicloCarga.Estado ε} {e : CicloCarga.Evento}

theorem bloques_evaluar (c : CicloCarga.Estado ε) (equipaje : Option (Equipaje ε)) :
    (CicloCarga.evaluar c equipaje).bloques = c.bloques := by
  have hverCierre : ∀ c : CicloCarga.Estado ε, (CicloCarga.verCierre c).bloques = c.bloques := by
    intro c
    rw [CicloCarga.verCierre]
    split <;> rfl
  cases equipaje with
  | none => exact hverCierre c
  | some e =>
    rw [CicloCarga.evaluar]
    split
    · split
      · exact hverCierre _
      · rfl
    · exact hverCierre c

/-- The robot makes its blocks in one step. -/
theorem bloques_paso (h : CicloCarga.Inv x N bolsos v c) (hpaso : CicloCarga.paso x z total c e = some t) :
    t.bloques = c.bloques ++ cortados c t e := by
  have hsin : cortados c t e = [] → t.bloques = c.bloques → t.bloques = c.bloques ++ cortados c t e := by
    intro hnada ht
    rw [hnada, List.append_nil, ht]
  cases e with
  | ponerEquipaje =>
    simp only [CicloCarga.paso] at hpaso
    split at hpaso <;> cases hpaso
    exact hsin rfl rfl
  | waitProductor =>
    simp only [CicloCarga.paso] at hpaso
    split at hpaso <;> cases hpaso
    exact hsin rfl rfl
  | seccionProductor =>
    simp only [CicloCarga.paso] at hpaso
    split at hpaso <;> cases hpaso
    exact hsin rfl rfl
  | avisarCierreDeCheckin =>
    simp only [CicloCarga.paso] at hpaso
    split at hpaso <;> cases hpaso
    exact hsin rfl rfl
  | robot =>
    simp only [CicloCarga.paso, CicloCarga.pasoRobot] at hpaso
    rw [cortados] at hsin ⊢
    split at hpaso
    case h_7 hrobot =>
      have hnada : c.bloques = [] := h.bloques (by rw [hrobot]; rintro ⟨⟩)
      rw [hrobot, hnada]
      rfl
    case h_4 equipaje hrobot =>
      cases hpaso
      rw [hrobot]
      rw [hrobot] at hsin
      exact hsin rfl (bloques_evaluar c equipaje)
    case h_8 => cases hpaso
    case h_1 hrobot =>
      rw [hrobot] at hsin ⊢
      split at hpaso <;> cases hpaso <;> exact hsin rfl rfl
    case h_2 hrobot =>
      rw [hrobot] at hsin ⊢
      split at hpaso <;> cases hpaso
      exact hsin rfl rfl
    case h_3 hrobot =>
      rw [hrobot] at hsin ⊢
      split at hpaso <;> cases hpaso <;> exact hsin rfl rfl
    case h_5 hrobot =>
      cases hpaso
      rw [hrobot] at hsin ⊢
      exact hsin rfl rfl
    case h_6 hrobot =>
      cases hpaso
      rw [hrobot] at hsin ⊢
      exact hsin rfl rfl

/-- What the blocks say of themselves. -/
theorem bloques_spec (h : CicloCarga.Inv x N bolsos v c) {b : Tractor.BloqueContenedores Int (Contenedor ε)}
    (hb : b ∈ c.bloques) :
    b.vueloDestino = v ∧ b.cantidadTotalContenedores = (CicloCarga.contenedoresDe bolsos).length := by
  have hrobot : c.robot = .enviado := by
    by_contra hno
    rw [h.bloques hno] at hb
    cases hb
  rw [h.enviado hrobot] at hb
  exact (Tractor.enviarContenedores_spec _).2 b (List.mem_cons_of_mem _ hb)

end Ciclo

/-! ## The tractors -/

section Reparto

variable {φ κ : Type} [DecidableEq φ] {s s' : Tractor.Estado φ τ κ} {e : Tractor.Evento φ τ}

/-- What is still to be pushed for a flight is for that flight. -/
def Propios (s : Tractor.Estado φ τ κ) : Prop := ∀ v, ∀ b ∈ s.porEnviar v, b.vueloDestino = v

/-- How often `c` is in what has been cut for flight `v`, wherever it is now. -/
def veces [Fintype τ] [DecidableEq κ] (s : Tractor.Estado φ τ κ) (v : φ) (c : κ) : Nat :=
  ((s.porEnviar v).map fun b => b.veces v c 0).sum + (s.colaTractores.map fun b => b.veces v c 0).sum +
    (∑ t, (s.tractor t).veces v c) + (s.empujados v).count c

theorem propios_paso (h : Propios s) (hs : Tractor.paso s e = some s') : Propios s' := by
  cases e with
  | robot u =>
    simp only [Tractor.paso] at hs
    split at hs <;> cases hs
    rename_i b bs hcola
    intro v b' hb'
    dsimp only at hb'
    by_cases hv : v = u
    · rw [hv, Function.update_self] at hb'
      rw [hv]
      exact h u b' (hcola ▸ List.mem_cons_of_mem b hb')
    · rw [Function.update_of_ne hv] at hb'
      exact h v b' hb'
  | tractor t =>
    simp only [Tractor.paso] at hs
    split at hs
    · split at hs <;> cases hs
      exact h
    · split at hs <;> cases hs <;> exact h
  | avion u =>
    simp only [Tractor.paso] at hs
    split at hs <;> cases hs
    exact h

theorem veces_paso [Fintype τ] [DecidableEq κ] (h : Propios s) (v : φ) (c : κ)
    (hs : Tractor.paso s e = some s') : veces s' v c = veces s v c := by
  cases e with
  | robot u =>
    simp only [Tractor.paso] at hs
    split at hs <;> cases hs
    rename_i b bs hcola
    simp only [veces, List.map_append, List.sum_append, List.map_singleton, List.sum_singleton]
    by_cases hv : v = u
    · subst hv
      rw [Function.update_self, hcola, List.map_cons, List.sum_cons]
      omega
    · have hnada : b.veces v c 0 = 0 := by
        have hu := h u b (hcola ▸ List.mem_cons_self)
        rw [Tractor.BloqueContenedores.veces, if_neg fun hb => hv (hb.symm.trans hu)]
      rw [Function.update_of_ne hv, hnada]
      omega
  | tractor t =>
    simp only [Tractor.paso] at hs
    split at hs
    · rename_i hpc
      split at hs <;> cases hs
      rename_i b bs hcola
      have hsuma := Sumas.suma_update (fun _ => Tractor.PcTractor.veces v c) s.tractor (Finset.mem_univ t)
        (.carga b 0)
      simp only [hpc, Tractor.veces_espera, Tractor.veces_carga] at hsuma
      simp only [veces, hcola, List.map_cons, List.sum_cons]
      omega
    · rename_i b i hpc
      split at hs <;> cases hs
      · rename_i hi
        have hsuma := Sumas.suma_update (fun _ => Tractor.PcTractor.veces v c) s.tractor
          (Finset.mem_univ t) (.carga b (i + 1))
        simp only [hpc, Tractor.veces_carga] at hsuma
        simp only [veces, Tractor.cargarContenedorEnAvion]
        by_cases hv : b.vueloDestino = v
        · have hbloque : b.veces v c i = b.veces v c (i + 1) + [b.contenedores i].count c := by
            rw [Tractor.BloqueContenedores.veces, Tractor.BloqueContenedores.veces, if_pos hv, if_pos hv,
              Tractor.desde_of_lt hi, List.count_cons, List.count_singleton]
          rw [hv, Function.update_self, List.count_append]
          omega
        · rw [Tractor.BloqueContenedores.veces, Tractor.BloqueContenedores.veces, if_neg hv, if_neg hv] at hsuma
          rw [Function.update_of_ne (Ne.symm hv)]
          omega
      · rename_i hi
        have hsuma := Sumas.suma_update (fun _ => Tractor.PcTractor.veces v c) s.tractor
          (Finset.mem_univ t) .espera
        have hnada : b.veces v c i = 0 := by
          rw [Tractor.BloqueContenedores.veces, Tractor.desde_of_le (Nat.le_of_not_lt hi), List.count_nil,
            ite_self]
        simp only [hpc, Tractor.veces_espera, Tractor.veces_carga, hnada] at hsuma
        simp only [veces]
        omega
  | avion u =>
    simp only [Tractor.paso] at hs
    split at hs <;> cases hs
    rfl

omit [DecidableEq τ] in
/-- More for a flight to push is more on its way for that one. -/
theorem veces_entrega [Fintype τ] [DecidableEq κ] (u v : φ) (bs : List (Tractor.BloqueContenedores φ κ))
    (hbs : ∀ b ∈ bs, b.vueloDestino = u) (c : κ) :
    veces { s with porEnviar := Function.update s.porEnviar u (s.porEnviar u ++ bs) } v c =
      veces s v c + if v = u then (bs.flatMap Tractor.BloqueContenedores.primeros).count c else 0 := by
  simp only [veces]
  by_cases hv : v = u
  · subst hv
    have hveces : (bs.map fun b => b.veces v c 0).sum =
        (bs.flatMap Tractor.BloqueContenedores.primeros).count c := by
      rw [List.count_flatMap]
      refine congrArg List.sum (List.map_congr_left fun b hb => ?_)
      rw [Tractor.BloqueContenedores.veces, if_pos (hbs b hb)]
      rfl
    rw [Function.update_self, if_pos rfl, List.map_append, List.sum_append, hveces]
    omega
  · rw [Function.update_of_ne hv, if_neg hv]
    omega

/-- An airplane does not take more than it waits for. -/
theorem contenedores_paso {cs : φ → List κ} (h : Tractor.Inv cs s)
    (hlargo : ∀ v, (s.avion v).contenedores.length ≤ max (cs v).length 1)
    (hs : Tractor.paso s e = some s') :
    ∀ v, (s'.avion v).contenedores.length ≤ max (cs v).length 1 := by
  cases e with
  | robot u =>
    simp only [Tractor.paso] at hs
    split at hs <;> cases hs
    exact hlargo
  | tractor t =>
    simp only [Tractor.paso] at hs
    split at hs
    · split at hs <;> cases hs
      exact hlargo
    · split at hs <;> cases hs <;> exact hlargo
  | avion u =>
    simp only [Tractor.paso] at hs
    split at hs <;> cases hs
    rename_i m ms hsigue hcola
    intro v
    dsimp only
    by_cases hv : v = u
    · have htermino := (h.avion u).termino
      have hno : ¬(0 < (s.avion u).contenedores.length ∧
          (cs u).length ≤ (s.avion u).contenedores.length) := by
        intro hfin
        rw [htermino.mpr hfin] at hsigue
        cases hsigue
      rw [hv, Function.update_self, Tractor.Avion.recibir, List.length_append, List.length_singleton]
      omega
    · rw [Function.update_of_ne hv]
      exact hlargo v

end Reparto

/-! ## The flights -/

section Vuelos

variable {V : Vuelos φ ε} {s t : Estado φ τ ε} {e : Evento φ τ} {f : φ}

/-- What a close announces are the bags that are put on the belt. -/
def Vuelos.BienContados (V : Vuelos φ ε) : Prop := ∀ f, V.total f = (V.bolsos f).length

/-- The containers of each flight number. -/
noncomputable def Vuelos.contenedores (V : Vuelos φ ε) : Int → List (Contenedor ε) :=
  Function.extend V.vuelo (fun f => CicloCarga.contenedoresDe (V.bolsos f)) fun _ => []

omit [DecidableEq φ] in
theorem contenedores_vuelo (f : φ) : V.contenedores (V.vuelo f) = CicloCarga.contenedoresDe (V.bolsos f) :=
  V.vuelo_inyectiva.extend_apply _ _ f

open scoped Classical in
structure Inv [Fintype τ] (V : Vuelos φ ε) (s : Estado φ τ ε) : Prop where
  ciclo : ∀ f, CicloCarga.Inv (V.entorno f) (V.capacidad f) (V.bolsos f) (V.vuelo f) (s.ciclo f)
  reparto : Tractor.Inv V.contenedores s.reparto
  propios : Propios s.reparto
  largo : ∀ v, (s.reparto.avion v).contenedores.length ≤ max (V.contenedores v).length 1
  -- what has been cut is somewhere on its way
  cortados : ∀ f c, veces s.reparto (V.vuelo f) c =
    ((s.ciclo f).bloques.flatMap Tractor.BloqueContenedores.primeros).count c

omit [DecidableEq φ] [DecidableEq τ] in
theorem inv_inicial [Fintype τ] (V : Vuelos φ ε) : Inv V (inicial V : Estado φ τ ε) where
  ciclo f := CicloCarga.inv_inicial (V.cinta_vacia f)
  reparto :=
    { porEnviar := fun v b hb => by cases hb
      colaTractores := fun b hb => by cases hb
      tractor := fun t b i h => by cases h
      avion := fun v =>
        { mensajes := fun m hm => by cases hm
          empujados := rfl
          cantidadActual := rfl
          termino := by
            show false = true ↔ 0 < 0 ∧ _
            simp } }
  propios v b hb := by cases hb
  largo v := Nat.zero_le _
  cortados f c := by
    simp only [veces, inicial, List.map_nil, List.sum_nil, Tractor.veces_espera, Finset.sum_const_zero,
      List.count_nil, CicloCarga.inicial, List.flatMap_nil, Nat.add_zero]

theorem inv_paso [Fintype τ] (htotal : V.BienContados) (h : Inv V s) (hs : paso V s e = some t) :
    Inv V t := by
  classical
  cases e with
  | ciclo f e =>
    simp only [paso, Option.map_eq_some_iff] at hs
    obtain ⟨c, hc, rfl⟩ := hs
    have hinv : CicloCarga.Inv (V.entorno f) (V.capacidad f) (V.bolsos f) (V.vuelo f) c := by
      by_cases he : e = .robot
      · subst he
        exact (h.ciclo f).robot (V.rfid_ne_zero f) (V.destino f) hc
      · exact (h.ciclo f).productor he (htotal f) hc
    have hbloques := bloques_paso (h.ciclo f) hc
    have hcortados : ∀ b ∈ cortados (s.ciclo f) c e, b.vueloDestino = V.vuelo f ∧
        b.cantidadTotalContenedores = (CicloCarga.contenedoresDe (V.bolsos f)).length := by
      intro b hb
      exact bloques_spec hinv (hbloques ▸ List.mem_append_right _ hb)
    refine ⟨fun u => ?_, ⟨fun v b hb => ?_, h.reparto.colaTractores, h.reparto.tractor, h.reparto.avion⟩,
      fun v b hb => ?_, h.largo, fun u k => ?_⟩
    · dsimp only
      by_cases hu : u = f
      · subst hu
        rw [Function.update_self]
        exact hinv
      · rw [Function.update_of_ne hu]
        exact h.ciclo u
    · dsimp only at hb
      by_cases hv : v = V.vuelo f
      · rw [hv, Function.update_self] at hb
        rcases List.mem_append.mp hb with hb | hb
        · exact h.reparto.porEnviar _ b hb
        · obtain ⟨hvuelo, htotal⟩ := hcortados b hb
          rw [hvuelo, contenedores_vuelo, htotal]
      · rw [Function.update_of_ne hv] at hb
        exact h.reparto.porEnviar v b hb
    · dsimp only at hb
      by_cases hv : v = V.vuelo f
      · rw [hv, Function.update_self] at hb
        rcases List.mem_append.mp hb with hb | hb
        · rw [hv]
          exact h.propios _ b hb
        · rw [hv]
          exact (hcortados b hb).1
      · rw [Function.update_of_ne hv] at hb
        exact h.propios v b hb
    · dsimp only
      rw [veces_entrega _ _ _ (fun b hb => (hcortados b hb).1), h.cortados u k]
      by_cases hu : u = f
      · subst hu
        rw [Function.update_self, if_pos rfl, hbloques, List.flatMap_append, List.count_append]
      · rw [Function.update_of_ne hu, if_neg fun hv => hu (V.vuelo_inyectiva hv), Nat.add_zero]
  | reparto e =>
    simp only [paso, Option.map_eq_some_iff] at hs
    obtain ⟨r, hr, rfl⟩ := hs
    exact ⟨h.ciclo, Tractor.inv_paso h.reparto hr, propios_paso h.propios hr,
      contenedores_paso h.reparto h.largo hr,
      fun f c => (veces_paso h.propios _ c hr).trans (h.cortados f c)⟩

theorem inv_alcanza [Fintype τ] (htotal : V.BienContados) (hs : Alcanza (paso V) (inicial V) s) :
    Inv V s :=
  hs.induccion (inv_inicial V) fun _ _ _ => inv_paso htotal

omit [DecidableEq φ] [DecidableEq τ] in
/-- What the airplane has is part of what has been cut for it. -/
theorem Inv.subperm [Fintype τ] (h : Inv V s) (f : φ) :
    (s.reparto.avion (V.vuelo f)).contenedores.Subperm
      ((s.ciclo f).bloques.flatMap Tractor.BloqueContenedores.primeros) := by
  classical
  rw [List.subperm_iff_count]
  intro c
  rw [← h.cortados f c, veces, (h.reparto.avion (V.vuelo f)).empujados, List.count_append]
  omega

omit [DecidableEq φ] [DecidableEq τ] in
/-- The bags in the containers of a flight are those that a container can take. -/
theorem equipajes_contenedoresDe (bolsos : List (Equipaje ε)) :
    ((CicloCarga.contenedoresDe bolsos).flatMap Contenedor.equipajes).Perm
      (bolsos.filter fun e => e.peso ≤ maxPesoContenedor) := by
  classical
  obtain ⟨carga, hcarga, hinv⟩ := inv_agregarEquipajes bolsos
  rw [CicloCarga.contenedoresDe, hcarga, List.perm_iff_count]
  intro e
  have hescala := congrArg (List.count e) (hinv.cargados_cargarElResto e.escala)
  rw [cargados, cargables,
    List.count_filter (p := fun x : Equipaje ε => decide (x.escala = e.escala)) (decide_eq_true rfl)] at hescala
  dsimp only
  rw [hescala]
  by_cases hpeso : e.peso ≤ maxPesoContenedor
  · rw [List.count_filter (p := fun x : Equipaje ε => decide (x.escala = e.escala ∧ x.peso ≤ maxPesoContenedor))
        (decide_eq_true ⟨rfl, hpeso⟩),
      List.count_filter (p := fun x : Equipaje ε => decide (x.peso ≤ maxPesoContenedor)) (decide_eq_true hpeso)]
  · rw [List.count_eq_zero.mpr, List.count_eq_zero.mpr]
    · intro hmem
      exact hpeso (of_decide_eq_true (List.mem_filter.mp hmem).2)
    · intro hmem
      exact hpeso (of_decide_eq_true (List.mem_filter.mp hmem).2).2

/-- When the closes announce the bags that are put on the belts, no airplane leaves before its robot has seen
    the close of the check-in, taken all the bags that were put on its belt and emptied it.  It has as many
    containers as were loaded for it, all from the blocks of its flight; when these come out even, they are
    those containers, with each bag of the flight that is not too heavy, once, and nothing else. -/
theorem despega_cargado [Fintype τ] (V : Vuelos φ ε) (htotal : V.BienContados) {s : Estado φ τ ε}
    (hs : Alcanza (paso V) (inicial V) s) (f : φ) (hfin : (s.reparto.avion (V.vuelo f)).termino = true) :
    ((s.ciclo f).avisado = true ∧ (s.ciclo f).tomados = V.bolsos f ∧
      (s.ciclo f).cinta.anillo.cantidad = 0 ∧ (s.ciclo f).porPoner = []) ∧
    (0 < (CicloCarga.contenedoresDe (V.bolsos f)).length ∧
      (s.reparto.avion (V.vuelo f)).contenedores.length = (CicloCarga.contenedoresDe (V.bolsos f)).length) ∧
    (s.reparto.avion (V.vuelo f)).contenedores.Subperm
      ((Tractor.enviarContenedoresAAvion (CicloCarga.contenedoresDe (V.bolsos f)) (V.entorno f).despues
        (V.vuelo f)).flatMap Tractor.BloqueContenedores.primeros) ∧
    (Even (CicloCarga.contenedoresDe (V.bolsos f)).length →
      (s.reparto.avion (V.vuelo f)).contenedores.Perm (CicloCarga.contenedoresDe (V.bolsos f)) ∧
      ((s.reparto.avion (V.vuelo f)).contenedores.flatMap Contenedor.equipajes).Perm
        ((V.bolsos f).filter fun e => e.peso ≤ maxPesoContenedor)) := by
  have h := inv_alcanza htotal hs
  have hsub := h.subperm f
  obtain ⟨halgo, hmenos⟩ := (h.reparto.avion (V.vuelo f)).termino.mp hfin
  have hmas := h.largo (V.vuelo f)
  rw [contenedores_vuelo] at hmenos hmas
  -- a container has arrived, so the robot has cut its blocks
  have hrobot : (s.ciclo f).robot = .enviado := by
    by_contra hno
    rw [(h.ciclo f).bloques hno] at hsub
    have hnada := hsub.length_le
    rw [List.flatMap_nil, List.length_nil] at hnada
    omega
  obtain ⟨-, htomados, -, havisado, hcinta, hporPoner, -⟩ := (h.ciclo f).termino (.inr (.inr hrobot))
  rw [(h.ciclo f).enviado hrobot] at hsub
  have hpos : 0 < (CicloCarga.contenedoresDe (V.bolsos f)).length := by
    by_contra hno
    have hcero := List.eq_nil_of_length_eq_zero (Nat.le_zero.mp (Nat.not_lt.mp hno))
    have hnada := hsub.length_le
    rw [hcero, Tractor.primeros_of_even _ _ Even.zero, List.length_nil] at hnada
    omega
  have hlargo : (s.reparto.avion (V.vuelo f)).contenedores.length =
      (CicloCarga.contenedoresDe (V.bolsos f)).length := by
    omega
  refine ⟨⟨havisado, htomados, hcinta, hporPoner⟩, ⟨hpos, hlargo⟩, hsub, fun hpar => ?_⟩
  rw [Tractor.primeros_of_even _ _ hpar] at hsub
  have hperm := hsub.perm_of_length_le hlargo.ge
  exact ⟨hperm, (hperm.flatMap_right _).trans (equipajes_contenedoresDe (V.bolsos f))⟩

end Vuelos

/-- One flight with two bags for two escalas. -/
def unVuelo : Vuelos Unit Nat where
  vuelo _ := 1
  zona _ := 0
  capacidad _ := 1
  entorno _ := CicloCarga.unEntorno
  bolsos _ := [⟨1, 1, 10, 0⟩, ⟨2, 1, 20, 7⟩]
  total _ := 2
  vuelo_pos _ := Int.one_pos
  vuelo_inyectiva _ _ _ := rfl
  cinta_vacia _ := ⟨Anillo.fifo_vacio (Nat.le_refl 1) _, rfl⟩
  rfid_ne_zero _ e he := by
    rcases List.mem_pair.mp he with rfl | rfl
    · exact Int.one_ne_zero
    · exact Int.ofNat_ne_zero.mpr (Nat.succ_ne_zero 1)
  destino _ e he := by
    rcases List.mem_pair.mp he with rfl | rfl <;> rfl

def ponerYTomar : List CicloCarga.Evento :=
  [.ponerEquipaje, .waitProductor, .seccionProductor, .robot, .robot, .robot, .robot]

def cerrarYEnviar : List CicloCarga.Evento :=
  [.avisarCierreDeCheckin, .robot, .robot, .robot, .robot, .robot, .robot, .robot, .robot]

/-- Each bag is put and taken, and then the close comes. -/
def unaCarga : List (Evento Unit Unit) :=
  (ponerYTomar ++ ponerYTomar ++ cerrarYEnviar).map (Evento.ciclo ())

def llevar : List (Tractor.Evento Int Unit) :=
  [.robot 1, .tractor (), .tractor (), .tractor (), .avion 1, .avion 1]

def unViaje : List (Evento Unit Unit) := llevar.map Evento.reparto

theorem correr_unViaje :
    (correr (paso unVuelo) (inicial unVuelo : Estado Unit Unit Nat) (unaCarga ++ unViaje)).map
      (fun s => ((s.reparto.avion 1).termino, (s.reparto.avion 1).contenedores.map Contenedor.peso)) =
    some (true, [10, 20]) := by
  decide +kernel

theorem despega_cargado_unVuelo : ∃ s : Estado Unit Unit Nat, Alcanza (paso unVuelo) (inicial unVuelo) s ∧
    ((s.reparto.avion 1).contenedores.flatMap Contenedor.equipajes).Perm (unVuelo.bolsos ()) := by
  obtain ⟨s, hs, hobs⟩ := Option.map_eq_some_iff.mp correr_unViaje
  have hfin : (s.reparto.avion 1).termino = true := (Prod.mk.inj hobs).1
  exact ⟨s, ⟨_, hs⟩, ((despega_cargado unVuelo (fun _ => rfl) ⟨_, hs⟩ () hfin).2.2.2 (by decide +kernel)).2⟩

/-- An airplane whose close announces one bag less leaves without that bag. -/
example :
    (correr (paso { unVuelo with total := fun _ => 1 }) (inicial unVuelo : Estado Unit Unit Nat)
      ((ponerYTomar ++ cerrarYEnviar).map (Evento.ciclo ()) ++
        [.robot 1, .tractor (), .tractor (), .avion 1].map Evento.reparto)).map
      (fun s => ((s.reparto.avion 1).termino, ((s.ciclo ()).porPoner.map Equipaje.rfid))) =
    some (true, [2]) := by
  decide +kernel

end CargaVuelo
