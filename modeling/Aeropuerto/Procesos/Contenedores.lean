import Aeropuerto.Biblioteca.Mapa
import Mathlib.Algebra.BigOperators.Group.List.Basic
import Mathlib.Algebra.Ring.Nat
import Mathlib.Data.List.Induction

/-!
# How a flight's luggage goes into containers (`processes/robot_carga.cpp`, `api/contenedor.cpp`)

`agregar_equipaje` puts each bag in the open container of its escala, and hands the container to
`ApiCarga` when the bag does not fit; at the end of the flight the open containers are handed over in
the order of the map.  Escalas are of an arbitrary ordered type.
-/

namespace Contenedores

/-- `MAX_PESO_CONTENEDOR`. -/
def maxPesoContenedor : Nat := 3000

/-- `MAX_VALIJAS_POR_CONTENEDOR`. -/
def maxValijasPorContenedor : Nat := 30

/-- What the loading reads of an `Equipaje` and its `Rfid`. -/
structure Equipaje (ε : Type*) where
  rfid : Int
  numeroDeVueloDestino : Int
  peso : Nat
  escala : ε

structure Contenedor (ε : Type*) where
  peso : Nat
  -- the first cant_equipajes cells
  equipajes : List (Equipaje ε)

variable {ε : Type*}

namespace Contenedor

def nuevo : Contenedor ε := ⟨0, []⟩

def cantEquipajes (c : Contenedor ε) : Nat := c.equipajes.length

def hayLugar (c : Contenedor ε) (e : Equipaje ε) : Bool :=
  if c.cantEquipajes = maxValijasPorContenedor then false
  else e.peso + c.peso ≤ maxPesoContenedor

/-- The bag in the next cell. -/
def guardar (c : Contenedor ε) (e : Equipaje ε) : Contenedor ε :=
  ⟨c.peso + e.peso, c.equipajes ++ [e]⟩

def agregarEquipaje (c : Contenedor ε) (e : Equipaje ε) : Except String (Contenedor ε) :=
  if !c.hayLugar e then .error "Contenedor: no hay lugar en el contenedor.exceso de peso"
  else if c.cantEquipajes > maxValijasPorContenedor then
    .error "Contenedor.no hay lugar en el contenedor.sobrepasa la cantidad de equipajes"
  else .ok (c.guardar e)

end Contenedor

/-! ## One container -/

section Contenedor

variable {c : Contenedor ε} {e : Equipaje ε} {escala : ε}

/-- What a container handed over looks like. -/
structure BienCargado (c : Contenedor ε) : Prop where
  algo : 1 ≤ c.cantEquipajes
  cantidad : c.cantEquipajes ≤ maxValijasPorContenedor
  unaEscala : ∃ escala, ∀ e ∈ c.equipajes, e.escala = escala
  suma : c.peso = (c.equipajes.map Equipaje.peso).sum
  peso : c.peso ≤ maxPesoContenedor

/-- What holds of a container of the escala, open and perhaps empty. -/
structure Valido (escala : ε) (c : Contenedor ε) : Prop where
  cantidad : c.cantEquipajes ≤ maxValijasPorContenedor
  deEscala : ∀ e ∈ c.equipajes, e.escala = escala
  suma : c.peso = (c.equipajes.map Equipaje.peso).sum
  peso : c.peso ≤ maxPesoContenedor

theorem Valido.bienCargado (h : Valido escala c) (halgo : 1 ≤ c.cantEquipajes) : BienCargado c where
  algo := halgo
  cantidad := h.cantidad
  unaEscala := ⟨escala, h.deEscala⟩
  suma := h.suma
  peso := h.peso

theorem valido_nuevo (escala : ε) : Valido escala (.nuevo : Contenedor ε) where
  cantidad := Nat.zero_le _
  deEscala := by simp [Contenedor.nuevo]
  suma := rfl
  peso := Nat.zero_le _

theorem hayLugar_iff : c.hayLugar e = true ↔
    c.cantEquipajes ≠ maxValijasPorContenedor ∧ e.peso + c.peso ≤ maxPesoContenedor := by
  unfold Contenedor.hayLugar
  split <;> simp_all

/-- A new container has room for every bag that is not too heavy. -/
theorem hayLugar_nuevo (h : e.peso ≤ maxPesoContenedor) :
    (.nuevo : Contenedor ε).hayLugar e = true :=
  hayLugar_iff.mpr ⟨show 0 ≠ maxValijasPorContenedor by decide, h⟩

/-- With room the bag goes in and nothing is thrown. -/
theorem Valido.agregarEquipaje (h : Valido e.escala c) (hlugar : c.hayLugar e = true) :
    c.agregarEquipaje e = .ok (c.guardar e) ∧ Valido e.escala (c.guardar e) := by
  obtain ⟨hcant, hpeso⟩ := hayLugar_iff.mp hlugar
  have hmenos := h.cantidad
  refine ⟨?_, ?_, fun e' he' => ?_, ?_, ?_⟩
  · unfold Contenedor.agregarEquipaje
    rw [hlugar, Bool.not_true, if_neg Bool.false_ne_true, if_neg (by omega)]
  · show (c.equipajes ++ [e]).length ≤ _
    rw [List.length_append, List.length_singleton]
    unfold Contenedor.cantEquipajes at hcant hmenos
    omega
  · rcases List.mem_append.mp he' with he' | he'
    · exact h.deEscala e' he'
    · rw [List.mem_singleton.mp he']
  · show c.peso + e.peso = ((c.equipajes ++ [e]).map Equipaje.peso).sum
    rw [List.map_append, List.sum_append, h.suma, List.map_singleton, List.sum_singleton]
  · show c.peso + e.peso ≤ _
    omega

theorem length_guardar (c : Contenedor ε) (e : Equipaje ε) : 1 ≤ (c.guardar e).cantEquipajes := by
  unfold Contenedor.cantEquipajes Contenedor.guardar
  rw [List.length_append, List.length_singleton]
  omega

end Contenedor

/-! ## `agregar_equipaje` -/

/-- `contenedores_por_escala` and the vector of `ApiCarga`. -/
structure Carga (ε : Type*) [LT ε] where
  porEscala : Mapa ε (Contenedor ε)
  contenedores : List (Contenedor ε)

variable [LinearOrder ε]

/-- `contenedores_por_escala[escala]`. -/
def Carga.enEscala (s : Carga ε) (escala : ε) : Contenedor ε :=
  (s.porEscala.buscar escala).getD .nuevo

/-- A container for the escala, if there is none. -/
def Carga.pedirContenedor (s : Carga ε) (escala : ε) : Carga ε :=
  if (s.porEscala.buscar escala).isNone then { s with porEscala := s.porEscala.poner escala .nuevo }
  else s

/-- `agregar_contenedor_cargado` and a new container, if the bag does not fit. -/
def Carga.hacerLugar (s : Carga ε) (e : Equipaje ε) : Carga ε :=
  if (s.enEscala e.escala).hayLugar e then s
  else
    { porEscala := s.porEscala.poner e.escala .nuevo
      contenedores := s.contenedores ++ [s.enEscala e.escala] }

def agregarEquipaje (s : Carga ε) (e : Equipaje ε) : Except String (Carga ε) :=
  if e.peso ≤ maxPesoContenedor then do
    let s := (s.pedirContenedor e.escala).hacerLugar e
    let c ← (s.enEscala e.escala).agregarEquipaje e
    return { s with porEscala := s.porEscala.poner e.escala c }
  -- the bag is heavier than a container
  else return s

/-- A flight begins without containers. -/
def Carga.vacia : Carga ε := ⟨.vacio, []⟩

def agregarEquipajes (equipajes : List (Equipaje ε)) : Except String (Carga ε) :=
  equipajes.foldlM agregarEquipaje .vacia

/-- The containers of the flight, once the open ones have been handed over too. -/
def Carga.cargarElResto (s : Carga ε) : List (Contenedor ε) :=
  s.contenedores ++ s.porEscala.valores

/-! ## What is loaded -/

/-- The bags of the escala that a container can take. -/
def cargables (equipajes : List (Equipaje ε)) (escala : ε) : List (Equipaje ε) :=
  equipajes.filter fun e => e.escala = escala ∧ e.peso ≤ maxPesoContenedor

/-- The bags of the escala in the containers, in order. -/
def cargados (contenedores : List (Contenedor ε)) (escala : ε) : List (Equipaje ε) :=
  (contenedores.flatMap Contenedor.equipajes).filter fun e => e.escala = escala

/-! ## The containers of a flight -/

variable {s s' : Carga ε} {e : Equipaje ε} {equipajes : List (Equipaje ε)}

/-- The bags so far, for each escala: first those of the containers handed over, then those of the open
    one. -/
structure Inv (equipajes : List (Equipaje ε)) (s : Carga ε) : Prop where
  abiertos : ∀ escala c, s.porEscala.buscar escala = some c → Valido escala c ∧ 1 ≤ c.cantEquipajes
  cerrados : ∀ c ∈ s.contenedores, BienCargado c
  contenido : ∀ escala, cargados s.contenedores escala ++ (s.enEscala escala).equipajes =
    cargables equipajes escala

theorem inv_vacia : Inv [] (.vacia : Carga ε) where
  abiertos escala c h := by
    cases h
  cerrados c h := by
    cases h
  contenido _ := rfl

/-- A container just asked for is empty, as one that is not there. -/
theorem enEscala_pedirContenedor (s : Carga ε) (escala x : ε) :
    (s.pedirContenedor escala).enEscala x = s.enEscala x := by
  unfold Carga.pedirContenedor
  split
  · rename_i hno
    unfold Carga.enEscala
    by_cases hx : x = escala
    · rw [hx, Mapa.buscar_poner_self, Option.isNone_iff_eq_none.mp hno]
      rfl
    · rw [Mapa.buscar_poner_of_ne hx]
  · rfl

theorem contenedores_pedirContenedor (s : Carga ε) (escala : ε) :
    (s.pedirContenedor escala).contenedores = s.contenedores := by
  unfold Carga.pedirContenedor
  split <;> rfl

theorem buscar_pedirContenedor {escala x : ε} (hx : x ≠ escala) :
    (s.pedirContenedor escala).porEscala.buscar x = s.porEscala.buscar x := by
  unfold Carga.pedirContenedor
  split
  · exact Mapa.buscar_poner_of_ne hx
  · rfl

theorem Inv.valido (h : Inv equipajes s) (escala : ε) : Valido escala (s.enEscala escala) := by
  unfold Carga.enEscala
  cases hc : s.porEscala.buscar escala with
  | none => exact valido_nuevo escala
  | some c => exact (h.abiertos escala c hc).1

/-- The bag goes to a container with room: the open one of its escala, or a new one after the open one
    has been handed over. -/
theorem agregarEquipaje_casos (h : Inv equipajes s) (hpeso : e.peso ≤ maxPesoContenedor) :
    ∃ s', agregarEquipaje s e = .ok s' ∧
      (∀ x, x ≠ e.escala → s'.porEscala.buscar x = s.porEscala.buscar x) ∧
      (s'.porEscala.buscar e.escala = some ((s.enEscala e.escala).guardar e) ∧
          (s.enEscala e.escala).hayLugar e = true ∧ s'.contenedores = s.contenedores ∨
        s'.porEscala.buscar e.escala = some (Contenedor.nuevo.guardar e) ∧
          (s.enEscala e.escala).hayLugar e = false ∧
            s'.contenedores = s.contenedores ++ [s.enEscala e.escala]) := by
  have hen : (s.pedirContenedor e.escala).enEscala e.escala = s.enEscala e.escala :=
    enEscala_pedirContenedor s e.escala e.escala
  unfold agregarEquipaje
  rw [if_pos hpeso]
  by_cases hlugar : (s.enEscala e.escala).hayLugar e = true
  · have hs : (s.pedirContenedor e.escala).hacerLugar e = s.pedirContenedor e.escala := by
      unfold Carga.hacerLugar
      rw [hen, if_pos hlugar]
    dsimp only
    rw [hs, hen, ((h.valido e.escala).agregarEquipaje hlugar).1]
    refine ⟨_, rfl, fun x hx => ?_, .inl ⟨Mapa.buscar_poner_self, hlugar, ?_⟩⟩
    · rw [Mapa.buscar_poner_of_ne hx, buscar_pedirContenedor hx]
    · exact contenedores_pedirContenedor s e.escala
  · have hs : (s.pedirContenedor e.escala).hacerLugar e =
        { porEscala := (s.pedirContenedor e.escala).porEscala.poner e.escala .nuevo
          contenedores := s.contenedores ++ [s.enEscala e.escala] } := by
      unfold Carga.hacerLugar
      rw [hen, if_neg hlugar, contenedores_pedirContenedor]
    dsimp only
    rw [hs]
    unfold Carga.enEscala
    dsimp only
    rw [Mapa.buscar_poner_self, Option.getD_some,
      ((valido_nuevo e.escala).agregarEquipaje (hayLugar_nuevo hpeso)).1]
    refine ⟨_, rfl, fun x hx => ?_, .inr ⟨Mapa.buscar_poner_self,
      Bool.eq_false_iff.mpr hlugar, rfl⟩⟩
    rw [Mapa.buscar_poner_of_ne hx, Mapa.buscar_poner_of_ne hx, buscar_pedirContenedor hx]

/-- Only a container with bags can lack room for one that is not too heavy. -/
theorem Inv.algo (h : Inv equipajes s) (hpeso : e.peso ≤ maxPesoContenedor)
    (hno : (s.enEscala e.escala).hayLugar e = false) : 1 ≤ (s.enEscala e.escala).cantEquipajes := by
  unfold Carga.enEscala at hno ⊢
  cases hc : s.porEscala.buscar e.escala with
  | none =>
    rw [hc, Option.getD_none, hayLugar_nuevo hpeso] at hno
    cases hno
  | some c => exact (h.abiertos e.escala c hc).2

theorem cargados_append (contenedores : List (Contenedor ε)) (c : Contenedor ε) (escala : ε) :
    cargados (contenedores ++ [c]) escala =
      cargados contenedores escala ++ c.equipajes.filter fun e => e.escala = escala := by
  unfold cargados
  rw [List.flatMap_append, List.filter_append, List.flatMap_singleton]

theorem Valido.filter {escala : ε} {c : Contenedor ε} (h : Valido escala c) (x : ε) :
    (c.equipajes.filter fun e => e.escala = x) = if x = escala then c.equipajes else [] := by
  split
  · rename_i hx
    exact List.filter_eq_self.mpr fun e he => decide_eq_true ((h.deEscala e he).trans hx.symm)
  · rename_i hx
    refine List.filter_eq_nil_iff.mpr fun e he hex => hx ?_
    exact (of_decide_eq_true hex).symm.trans (h.deEscala e he)

theorem cargables_append (equipajes : List (Equipaje ε)) (e : Equipaje ε) (x : ε) :
    cargables (equipajes ++ [e]) x =
      cargables equipajes x ++ if e.escala = x ∧ e.peso ≤ maxPesoContenedor then [e] else [] := by
  unfold cargables
  rw [List.filter_append, List.filter_singleton]
  by_cases h : e.escala = x ∧ e.peso ≤ maxPesoContenedor
  · rw [if_pos h, decide_eq_true h]
    rfl
  · rw [if_neg h, decide_eq_false h]
    rfl

/-- No bag makes `agregar_equipaje` throw, and it goes after those of its escala. -/
theorem inv_agregarEquipaje (h : Inv equipajes s) (e : Equipaje ε) :
    ∃ s', agregarEquipaje s e = .ok s' ∧ Inv (equipajes ++ [e]) s' := by
  by_cases hpeso : e.peso ≤ maxPesoContenedor
  · obtain ⟨s', hs', hotras, hcasos⟩ := agregarEquipaje_casos h hpeso
    have hotra : ∀ x, x ≠ e.escala → s'.enEscala x = s.enEscala x := by
      intro x hx
      unfold Carga.enEscala
      rw [hotras x hx]
    refine ⟨s', hs', ?_⟩
    rcases hcasos with ⟨hbuscar, hlugar, hcont⟩ | ⟨hbuscar, hlugar, hcont⟩
    · refine ⟨fun x c hc => ?_, hcont ▸ h.cerrados, fun x => ?_⟩
      · by_cases hx : x = e.escala
        · subst hx
          cases hbuscar.symm.trans hc
          exact ⟨((h.valido _).agregarEquipaje hlugar).2, length_guardar _ e⟩
        · exact h.abiertos x c (hotras x hx ▸ hc)
      · rw [cargables_append, ← h.contenido x, hcont]
        by_cases hx : x = e.escala
        · subst hx
          rw [if_pos ⟨rfl, hpeso⟩, List.append_assoc]
          congr 1
          unfold Carga.enEscala
          rw [hbuscar]
          rfl
        · rw [if_neg fun he => hx he.1.symm, List.append_nil, hotra x hx]
    · refine ⟨fun x c hc => ?_, fun c hc => ?_, fun x => ?_⟩
      · by_cases hx : x = e.escala
        · subst hx
          cases hbuscar.symm.trans hc
          exact ⟨((valido_nuevo _).agregarEquipaje (hayLugar_nuevo hpeso)).2, length_guardar _ e⟩
        · exact h.abiertos x c (hotras x hx ▸ hc)
      · rw [hcont] at hc
        rcases List.mem_append.mp hc with hc | hc
        · exact h.cerrados c hc
        · rw [List.mem_singleton.mp hc]
          exact (h.valido _).bienCargado (h.algo hpeso hlugar)
      · rw [cargables_append, ← h.contenido x, hcont, cargados_append, (h.valido _).filter]
        by_cases hx : x = e.escala
        · subst hx
          rw [if_pos rfl, if_pos ⟨rfl, hpeso⟩, List.append_assoc, List.append_assoc]
          congr 2
          unfold Carga.enEscala
          rw [hbuscar]
          rfl
        · rw [if_neg hx, if_neg fun he => hx he.1.symm, List.append_nil, List.append_nil, hotra x hx]
  · refine ⟨s, if_neg hpeso, h.abiertos, h.cerrados, fun x => ?_⟩
    rw [cargables_append, if_neg fun he => hpeso he.2, List.append_nil, h.contenido x]

theorem inv_agregarEquipajes (equipajes : List (Equipaje ε)) :
    ∃ s, agregarEquipajes equipajes = .ok s ∧ Inv equipajes s := by
  induction equipajes using List.reverseRecOn with
  | nil => exact ⟨.vacia, rfl, inv_vacia⟩
  | append_singleton equipajes e ih =>
    obtain ⟨s, hs, hinv⟩ := ih
    obtain ⟨s', hs', hinv'⟩ := inv_agregarEquipaje hinv e
    refine ⟨s', ?_, hinv'⟩
    unfold agregarEquipajes at hs ⊢
    rw [List.foldlM_append, hs]
    show [e].foldlM agregarEquipaje s = _
    rw [List.foldlM_cons, hs']
    rfl

/-! ## The end of the flight -/

theorem Inv.bienCargado (h : Inv equipajes s) : ∀ c ∈ s.cargarElResto, BienCargado c := by
  intro c hc
  rcases List.mem_append.mp hc with hc | hc
  · exact h.cerrados c hc
  · obtain ⟨⟨escala, c⟩, hentrada, rfl⟩ := List.mem_map.mp hc
    obtain ⟨hvalido, halgo⟩ := h.abiertos escala c (Mapa.buscar_eq_some.mpr hentrada)
    exact hvalido.bienCargado halgo

theorem Inv.cargados_cargarElResto (h : Inv equipajes s) (escala : ε) :
    cargados s.cargarElResto escala = cargables equipajes escala := by
  have hvalido : ∀ e ∈ s.porEscala.entradas, Valido e.1 e.2 := fun e he =>
    (h.abiertos e.1 e.2 (Mapa.buscar_eq_some.mpr he)).1
  have habiertos : cargados s.porEscala.valores escala = (s.enEscala escala).equipajes := by
    unfold cargados Mapa.valores
    rw [List.flatMap_map, List.filter_flatMap, Mapa.flatMap_entradas (k := escala)]
    · unfold Carga.enEscala
      cases hc : s.porEscala.buscar escala with
      | none => rfl
      | some c =>
        have hc' := (hvalido _ (Mapa.buscar_eq_some.mp hc)).filter escala
        rw [if_pos rfl] at hc'
        rw [Option.toList_some, List.flatMap_singleton, hc']
        rfl
    · intro e he hne
      rw [(hvalido e he).filter, if_neg hne.symm]
  rw [← h.contenido escala, ← habiertos]
  unfold cargados Carga.cargarElResto
  rw [List.flatMap_append, List.filter_append]

/-- Packing throws nothing, loses nothing and respects both limits of a container. -/
theorem contenedores_sin_perdidas (equipajes : List (Equipaje ε)) :
    ∃ s, agregarEquipajes equipajes = .ok s ∧ (∀ c ∈ s.cargarElResto, BienCargado c) ∧
      ∀ escala, cargados s.cargarElResto escala = cargables equipajes escala := by
  obtain ⟨s, hs, hinv⟩ := inv_agregarEquipajes equipajes
  exact ⟨s, hs, hinv.bienCargado, hinv.cargados_cargarElResto⟩

end Contenedores
