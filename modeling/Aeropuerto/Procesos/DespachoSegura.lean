import Aeropuerto.Biblioteca.Reparto
import Aeropuerto.Cintas.CintaPrincipalSegura
import Aeropuerto.Procesos.Despacho

/-!
# No bag is lost in the loop of the central belt

A step of the system brings a new bag to the central belt, moves one bag from a place to another, or
moves none.  A robot of despacho extracts what it has read and judged, because it still holds the turn
of the belt; the robot of control extracts whatever reaches it.
-/

namespace Despacho

open Ejecucion

variable {P : Parametros} {s t : Estado} {j : Nat} {v w : Valija} {l₁ l₂ : Lugar} {e : Equipaje}

/-! ## Bags -/

@[simp] theorem numero_anotar (v : Valija) (x : Suceso) : (v.anotar x).numero = v.numero := rfl
@[simp] theorem equipaje_anotar (v : Valija) (x : Suceso) : (v.anotar x).equipaje = v.equipaje := rfl
@[simp] theorem camino_anotar (v : Valija) (x : Suceso) : (v.anotar x).camino = v.camino ++ [x] := rfl

theorem Valija.Viene.anotar {x : Suceso} (h : v.Viene e) (hx : x ≠ .controlado) :
    (v.anotar x).Viene e := by
  unfold Valija.Viene at h ⊢
  have hmem : (.controlado ∈ (v.anotar x).camino) = (.controlado ∈ v.camino) := by
    simp [hx.symm]
  rw [equipaje_anotar, h]
  simp only [hmem]

theorem Valija.Viene.limpiar (h : v.Viene e) : v.limpiar.Viene e := by
  unfold Valija.Viene at h ⊢
  simp [Valija.limpiar, h]

/-- A bag with the mark it came with, or without it. -/
def Traida (entradas : List Equipaje) (v : Valija) : Prop :=
  ∃ e, entradas[v.numero]? = some e ∧ e.rfid ≠ 0 ∧ v.Viene e

/-! ## Conservation -/

def Estado.numeros (s : Estado) (l : Lugar) : Multiset Nat := (s.en l).map Valija.numero

structure Conservado (s : Estado) : Prop where
  reparto : ∃ lugar, Reparto s.numeros lugar ∧ ∀ n, lugar n ≠ none ↔ n < s.entradas.length
  traida : ∀ l, ∀ v ∈ s.en l, Traida s.entradas v

theorem Conservado.igual (h : Conservado s) (hen : ∀ l, t.en l = s.en l)
    (hentradas : t.entradas = s.entradas) : Conservado t where
  reparto := by
    obtain ⟨lugar, hlugar, hn⟩ := h.reparto
    refine ⟨lugar, hlugar.congr fun l => ?_, hentradas ▸ hn⟩
    rw [Estado.numeros, Estado.numeros, hen l]
  traida l v hv := by
    rw [hen l] at hv
    rw [hentradas]
    exact h.traida l v hv

/-- One bag goes from `l₁` to `l₂`. -/
structure Mueve (s t : Estado) (l₁ l₂ : Lugar) (v w : Valija) : Prop where
  distinto : l₁ ≠ l₂
  sale : (s.en l₁ : Multiset Valija) = v ::ₘ (t.en l₁ : Multiset Valija)
  entra : (t.en l₂ : Multiset Valija) = w ::ₘ (s.en l₂ : Multiset Valija)
  resto : ∀ l, l ≠ l₁ → l ≠ l₂ → t.en l = s.en l
  numero : w.numero = v.numero
  entradas : t.entradas = s.entradas

theorem numeros_cons {l : Lugar} (h : (s.en l : Multiset Valija) = v ::ₘ (t.en l : Multiset Valija)) :
    s.numeros l = v.numero ::ₘ t.numeros l := by
  have hmap := congrArg (Multiset.map Valija.numero) h
  rw [Multiset.map_cons, Multiset.map_coe, Multiset.map_coe] at hmap
  exact hmap

theorem Conservado.mueve (h : Conservado s) (l₁ l₂ : Lugar) (v w : Valija) (hm : Mueve s t l₁ l₂ v w)
    (hw : ∀ e, v.Viene e → w.Viene e) : Conservado t := by
  have hv : v ∈ s.en l₁ := by
    rw [← Multiset.mem_coe, hm.sale]
    exact Multiset.mem_cons_self v _
  constructor
  · obtain ⟨lugar, hlugar, hn⟩ := h.reparto
    have hsale := numeros_cons hm.sale
    have hentra := numeros_cons hm.entra
    rw [hm.numero] at hentra
    refine ⟨_, hlugar.mover hm.distinto hsale hentra fun l h₁ h₂ => ?_, fun n => ?_⟩
    · rw [Estado.numeros, hm.resto l h₁ h₂]
      rfl
    · rw [hm.entradas, ← hn]
      by_cases hnv : n = v.numero
      · rw [hnv, Function.update_self]
        have hlv := (hlugar.mem l₁ v.numero).mp (by rw [hsale]; exact Multiset.mem_cons_self _ _)
        rw [hlv]
        simp
      · rw [Function.update_of_ne hnv]
  · intro l u hu
    rw [hm.entradas]
    by_cases h₂ : l = l₂
    · rw [h₂, ← Multiset.mem_coe, hm.entra, Multiset.mem_cons] at hu
      rcases hu with rfl | hu
      · -- the bag that has moved
        obtain ⟨e, he, hrfid, hviene⟩ := h.traida l₁ v hv
        exact ⟨e, by rw [hm.numero]; exact he, hrfid, hw e hviene⟩
      · exact h.traida l₂ u hu
    · by_cases h₁ : l = l₁
      · apply h.traida l₁ u
        rw [← Multiset.mem_coe, hm.sale, Multiset.mem_cons]
        exact .inr (h₁ ▸ hu)
      · rw [hm.resto l h₁ h₂] at hu
        exact h.traida l u hu

/-- The only bag of `l` is annotated where it is. -/
theorem Conservado.anota {l : Lugar} (h : Conservado s) (hv : s.en l = [v]) (hw : t.en l = [w])
    (hresto : ∀ m, m ≠ l → t.en m = s.en m) (hnumero : w.numero = v.numero)
    (hentradas : t.entradas = s.entradas) (hviene : ∀ e, v.Viene e → w.Viene e) : Conservado t := by
  constructor
  · obtain ⟨lugar, hlugar, hn⟩ := h.reparto
    refine ⟨lugar, hlugar.congr fun m => ?_, hentradas ▸ hn⟩
    by_cases hm : m = l
    · rw [hm, Estado.numeros, Estado.numeros, hv, hw, List.map_singleton, List.map_singleton, hnumero]
    · rw [Estado.numeros, Estado.numeros, hresto m hm]
  · intro m u hu
    rw [hentradas]
    by_cases hm : m = l
    · rw [hm, hw] at hu
      rw [List.mem_singleton.mp hu]
      obtain ⟨e, he, hrfid, hve⟩ := h.traida l v (by rw [hv]; exact List.mem_singleton_self v)
      exact ⟨e, by rw [hnumero]; exact he, hrfid, hviene e hve⟩
    · rw [hresto m hm] at hu
      exact h.traida m u hu

theorem coe_concat (vs : List Valija) (v : Valija) :
    ((vs ++ [v] : List Valija) : Multiset Valija) = v ::ₘ (vs : Multiset Valija) := by
  rw [← Multiset.coe_add, Multiset.add_comm]
  rfl

/-- A new bag comes to `l₂`. -/
theorem Conservado.llega (h : Conservado s) (l₂ : Lugar) (he : e.rfid ≠ 0)
    (hentradas : t.entradas = s.entradas ++ [e])
    (hentra : (t.en l₂ : Multiset Valija) =
      ⟨e, s.entradas.length, []⟩ ::ₘ (s.en l₂ : Multiset Valija))
    (hresto : ∀ l, l ≠ l₂ → t.en l = s.en l) : Conservado t := by
  constructor
  · obtain ⟨lugar, hlugar, hn⟩ := h.reparto
    have hnuevo : lugar s.entradas.length = none := by
      by_contra hlejos
      exact absurd ((hn _).mp hlejos) (Nat.lt_irrefl _)
    refine ⟨_, hlugar.agregar hnuevo (numeros_cons hentra) fun l hl => ?_, fun n => ?_⟩
    · rw [Estado.numeros, hresto l hl]
      rfl
    · rw [hentradas, List.length_append, List.length_singleton]
      by_cases hnl : n = s.entradas.length
      · rw [hnl, Function.update_self]
        simp
      · rw [Function.update_of_ne hnl, hn]
        omega
  · -- the others are still at their place in the order
    have hantes : ∀ u, Traida s.entradas u → Traida t.entradas u := by
      rintro u ⟨e', he', hresto'⟩
      refine ⟨e', ?_, hresto'⟩
      rw [hentradas, List.getElem?_append_left (List.getElem?_eq_some_iff.mp he').1]
      exact he'
    intro l u hu
    by_cases hl : l = l₂
    · rw [hl, ← Multiset.mem_coe, hentra, Multiset.mem_cons] at hu
      rcases hu with rfl | hu
      · refine ⟨e, ?_, he, ?_⟩
        · rw [hentradas]
          exact List.getElem?_concat_length
        · simp [Valija.Viene]
      · exact hantes u (h.traida l₂ u hu)
    · rw [hresto l hl] at hu
      exact hantes u (h.traida l u hu)

/-! ## The robots -/

/-- It is about to look up, or to extract, what it has read. -/
def PcDespacho.conLeido : PcDespacho → Bool
  | .consulta | .extrae _ => true
  | _ => false

structure Despachante.Bueno (P : Parametros) (cinta : CintaPrincipal.Estado Valija) (j : Nat)
    (d : Despachante) : Prop where
  leido : d.pc.conLeido = true → cinta.consumidor j = .leido d.api.ultimoEquipajeLeido
  extrae : ∀ z, d.pc = .extrae z → d.api.ultimoEquipajeLeido.equipaje.sospechoso = false ∧
    P.zonaDesde j ≤ z ∧ z ≤ P.zonaHasta j
  coloca : ∀ v z, d.pc = .coloca v z → v.equipaje.sospechoso = false ∧
    P.zonaDesde j ≤ z ∧ z ≤ P.zonaHasta j ∧ ∃ camino, v.camino = camino ++ [.extraido j]

structure Inv (P : Parametros) (s : Estado) : Prop where
  cinta : CintaPrincipal.Inv P.capacidad P.productores P.consumidores s.cinta
  conservado : Conservado s
  despachante : ∀ j < P.despachantes, (s.despachante j).Bueno P s.cinta j
  robotLeido : ∀ v, s.robotControl = .extrae v → s.cinta.consumidor P.despachantes = .leido v
  robotConsulta : ∀ v, s.robotControl = .consulta v →
    ∃ camino, v.camino = camino ++ [.extraido P.despachantes]
  contenedor : ∀ z, ∀ v ∈ s.contenedor z, v.equipaje.sospechoso = false ∧
    ∃ j camino, j < P.despachantes ∧ P.zonaDesde j ≤ z ∧ z ≤ P.zonaHasta j ∧
      v.camino = camino ++ [.extraido j, .colocado z]
  descarte : ∀ v ∈ s.descartados,
    ∃ camino, v.camino = camino ++ [.extraido P.despachantes, .consultado (-1)]

theorem inv_inicial (P : Parametros) : Inv P (inicial P) where
  cinta := CintaPrincipal.inv_inicial P.hayLugar (Nat.succ_pos _) _
  conservado := by
    have hvacio : ∀ l, (inicial P).en l = [] := by
      intro l
      cases l <;> rfl
    refine ⟨⟨fun _ => none, Reparto.vacio.congr fun l => ?_, fun n => by simp [inicial]⟩, fun l v hv => ?_⟩
    · rw [Estado.numeros, hvacio]
      rfl
    · rw [hvacio] at hv
      cases hv
  despachante _ _ := ⟨nofun, nofun, nofun⟩
  robotLeido := nofun
  robotConsulta := nofun
  contenedor := nofun
  descarte := nofun

/-- A step of a robot of despacho that puts nothing on a container belt. -/
theorem Inv.deDespachante {cinta : CintaPrincipal.Estado Valija} {d : Despachante} (hi : Inv P s)
    (hj : j < P.despachantes)
    (hcinta : CintaPrincipal.Inv P.capacidad P.productores P.consumidores cinta)
    (hotros : ∀ l, l ≠ j → cinta.consumidor l = s.cinta.consumidor l) (hd : d.Bueno P cinta j)
    (hcons : Conservado ({ s with cinta := cinta }.irDespachante j d)) :
    Inv P ({ s with cinta := cinta }.irDespachante j d) where
  cinta := hcinta
  conservado := hcons
  despachante := by
    apply (Function.forall_update_iff s.despachante
      fun l d => l < P.despachantes → d.Bueno P cinta l).mpr
    refine ⟨fun _ => hd, fun l hl hlt => ?_⟩
    obtain ⟨hleido, hextrae, hcoloca⟩ := hi.despachante l hlt
    exact ⟨fun hc => (hotros l hl).trans (hleido hc), hextrae, hcoloca⟩
  robotLeido v hv := (hotros _ (Nat.ne_of_gt hj)).trans (hi.robotLeido v hv)
  robotConsulta := hi.robotConsulta
  contenedor := hi.contenedor
  descarte := hi.descarte

/-- In the vector of a robot the belt of a zone of its range is where the robot looks for it. -/
theorem cintasContenedor_getElem? {z : Int} (hdesde : P.zonaDesde j ≤ z) (hhasta : z ≤ P.zonaHasta j) :
    (P.cintasContenedor j)[(z - P.zonaDesde j).toNat]? = some z := by
  unfold Parametros.cintasContenedor
  rw [List.getElem?_map, List.getElem?_range (by omega), Option.map_some]
  congr 1
  omega

theorem decidir_eq_extrae {rfid : Equipaje} {numZona z : Int}
    (h : decidir P j rfid numZona = .extrae z) :
    rfid.sospechoso = false ∧ P.zonaDesde j ≤ z ∧ z ≤ P.zonaHasta j := by
  unfold decidir at h
  split at h
  · cases h
  · rename_i hlimpio
    split at h
    · cases h
    · cases h
      refine ⟨by simpa using hlimpio, ?_, ?_⟩ <;> omega

/-- The hands of the robot were empty and stay so. -/
theorem en_irDespachante {cinta : CintaPrincipal.Estado Valija} {d : Despachante}
    (hcont : cinta.compartido.anillo.contenido = s.cinta.compartido.anillo.contenido)
    (hprod : cinta.productor = s.cinta.productor) (hd : d.pc.manos = (s.despachante j).pc.manos)
    (l : Lugar) : ({ s with cinta := cinta }.irDespachante j d).en l = s.en l := by
  cases l with
  | central => exact hcont
  | productor i =>
    change (cinta.productor i).manos = (s.cinta.productor i).manos
    rw [hprod]
  | despachante m =>
    change (Function.update s.despachante j d m).pc.manos = (s.despachante m).pc.manos
    by_cases hm : m = j
    · rw [hm, Function.update_self, hd]
    · rw [Function.update_of_ne hm]
  | robotControl | cola | control | contenedor _ | descarte => rfl

/-- The robot lets the belt move on, with its hands empty. -/
theorem Inv.avanza {cinta : CintaPrincipal.Estado Valija} {d : Despachante} (hi : Inv P s)
    (hj : j < P.despachantes) (hc : s.cintaPaso P (.avanzarCinta j) = some cinta)
    (hd : d.Bueno P cinta j) (hmanos : d.pc.manos = (s.despachante j).pc.manos) :
    Inv P ({ s with cinta := cinta }.irDespachante j d) := by
  obtain ⟨hanillo, hprod, hcons⟩ := CintaPrincipal.avanzarCinta_eq_some hc
  refine hi.deDespachante hj (CintaPrincipal.inv_paso hi.cinta hc) (fun l hl => ?_) hd
    (hi.conservado.igual (en_irDespachante (by rw [hanillo]) hprod hmanos) rfl)
  rw [hcons, Function.update_of_ne hl]

theorem decidir_manos (rfid : Equipaje) (numZona : Int) :
    (decidir P j rfid numZona).manos = [] := by
  unfold decidir
  split
  · rfl
  · split <;> rfl

theorem inv_extrae {z : Int} {cinta : CintaPrincipal.Estado Valija} (hi : Inv P s)
    (hj : j < P.despachantes) (hpc : (s.despachante j).pc = .extrae z)
    (hc : s.cintaPaso P (.extraerElemento j) = some cinta) :
    Inv P ({ s with cinta := cinta }.irDespachante j
      { pc := .coloca ((s.despachante j).api.ultimoEquipajeLeido.anotar (.extraido j)) z
        api := { (s.despachante j).api with sacoElemento := true } }) := by
  obtain ⟨v, hv, hcont, hprod, hcons⟩ := CintaPrincipal.extraerElemento_eq_some hi.cinta hc
  obtain ⟨hleido, hextrae, -⟩ := hi.despachante j hj
  -- the robot has the turn, so the front is still what it has read
  have hultimo := hleido (by rw [hpc]; rfl)
  rw [hv] at hultimo
  cases hultimo
  obtain ⟨hlimpio, hzona⟩ := hextrae z hpc
  have hcinta := CintaPrincipal.inv_paso hi.cinta hc
  refine hi.deDespachante hj hcinta (fun l hl => ?_) ⟨nofun, nofun, ?_⟩ ?_
  · rw [hcons, Function.update_of_ne hl]
  · rintro v z' ⟨rfl⟩
    exact ⟨hlimpio, hzona.1, hzona.2, _, rfl⟩
  · refine hi.conservado.mueve .central (.despachante j) _
        ((s.despachante j).api.ultimoEquipajeLeido.anotar (.extraido j))
        ⟨nofun, congrArg _ hcont, ?_, fun l h₁ h₂ => ?_, numero_anotar _ _, rfl⟩
      fun e he => he.anotar nofun
    · change ((Function.update s.despachante j _ j).pc.manos : Multiset Valija) =
        _ ::ₘ ((s.despachante j).pc.manos : Multiset Valija)
      rw [Function.update_self, hpc]
      rfl
    · cases l with
      | central => exact absurd rfl h₁
      | productor i =>
        change (cinta.productor i).manos = (s.cinta.productor i).manos
        rw [hprod]
      | despachante m =>
        change (Function.update s.despachante j _ m).pc.manos = (s.despachante m).pc.manos
        rw [Function.update_of_ne fun hm => h₂ (by rw [hm])]
      | robotControl | cola | control | contenedor _ | descarte => rfl

theorem inv_coloca {z : Int} (hi : Inv P s) (hj : j < P.despachantes)
    (hpc : (s.despachante j).pc = .coloca v z) :
    Inv P ({ s with
      contenedor := Function.update s.contenedor z (s.contenedor z ++ [v.anotar (.colocado z)]) }.irDespachante
      j { s.despachante j with pc := .lee }) := by
  obtain ⟨hlimpio, hdesde, hhasta, camino, hcamino⟩ := (hi.despachante j hj).coloca v z hpc
  constructor
  · exact hi.cinta
  · refine hi.conservado.mueve (.despachante j) (.contenedor z) _ (v.anotar (.colocado z))
        ⟨nofun, ?_, ?_, fun l h₁ h₂ => ?_, numero_anotar v _, rfl⟩ fun e he => he.anotar nofun
    · change ((s.despachante j).pc.manos : Multiset Valija) =
        v ::ₘ ((Function.update s.despachante j _ j).pc.manos : Multiset Valija)
      rw [Function.update_self, hpc]
      rfl
    · change (Function.update s.contenedor z _ z : Multiset Valija) =
        _ ::ₘ (s.contenedor z : Multiset Valija)
      rw [Function.update_self]
      exact coe_concat _ _
    · cases l with
      | despachante m =>
        change (Function.update s.despachante j _ m).pc.manos = (s.despachante m).pc.manos
        rw [Function.update_of_ne fun hm => h₁ (by rw [hm])]
      | contenedor z' =>
        change Function.update s.contenedor z _ z' = s.contenedor z'
        rw [Function.update_of_ne fun hz => h₂ (by rw [hz])]
      | central | productor _ | robotControl | cola | control | descarte => rfl
  · apply (Function.forall_update_iff s.despachante
      fun l d => l < P.despachantes → d.Bueno P s.cinta l).mpr
    exact ⟨fun _ => ⟨nofun, nofun, nofun⟩, fun l _ => hi.despachante l⟩
  · exact hi.robotLeido
  · exact hi.robotConsulta
  · refine (Function.forall_update_iff s.contenedor fun z' vs => ∀ v ∈ vs,
      v.equipaje.sospechoso = false ∧ ∃ j camino, j < P.despachantes ∧ P.zonaDesde j ≤ z' ∧
        z' ≤ P.zonaHasta j ∧ v.camino = camino ++ [.extraido j, .colocado z']).mpr
      ⟨fun u hu => ?_, fun z' _ => hi.contenedor z'⟩
    rcases List.mem_append.mp hu with hu | hu
    · exact hi.contenedor z u hu
    · rw [List.mem_singleton.mp hu]
      refine ⟨hlimpio, j, camino, hj, hdesde, hhasta, ?_⟩
      rw [camino_anotar, hcamino, List.append_assoc]
      rfl
  · exact hi.descarte

theorem inv_despacho {numZona : Int} (hi : Inv P s) (hj : j < P.despachantes)
    (hs : pasoDespacho P s j numZona = some t) : Inv P t := by
  obtain ⟨hleido, hextrae, hcoloca⟩ := hi.despachante j hj
  unfold pasoDespacho at hs
  cases hpc : (s.despachante j).pc with
  | lee =>
    simp only [hpc] at hs
    split at hs
    · obtain ⟨cinta, hc, rfl⟩ := Option.map_eq_some_iff.mp hs
      have hcinta := CintaPrincipal.inv_paso hi.cinta hc
      obtain rfl := CintaPrincipal.leerElemento_eq_some hc
      refine hi.deDespachante hj hcinta (fun l hl => Function.update_of_ne hl _ _)
        ⟨nofun, nofun, nofun⟩ (hi.conservado.igual (en_irDespachante rfl rfl ?_) rfl)
      rw [hpc]
      rfl
    · obtain ⟨cinta, hc, rfl⟩ := Option.map_eq_some_iff.mp hs
      refine hi.avanza hj hc ⟨nofun, nofun, nofun⟩ ?_
      rw [hpc]
  | leyendo =>
    simp only [hpc] at hs
    split at hs <;> cases hs
    rename_i v hv
    refine hi.deDespachante hj hi.cinta (fun _ _ => rfl) ⟨fun _ => hv, nofun, nofun⟩
      (hi.conservado.igual (en_irDespachante rfl rfl ?_) rfl)
    rw [hpc]
    rfl
  | consulta =>
    simp only [hpc] at hs
    cases hs
    refine hi.deDespachante hj hi.cinta (fun _ _ => rfl) ⟨fun _ => ?_, fun z hz => ?_, fun v z hz => ?_⟩
      (hi.conservado.igual (en_irDespachante rfl rfl ?_) rfl)
    · exact hleido (by rw [hpc]; rfl)
    · exact decidir_eq_extrae hz
    · have hmanos := decidir_manos (P := P) (j := j) (s.despachante j).api.ultimoEquipajeLeido.equipaje
        numZona
      rw [show decidir P j _ numZona = .coloca v z from hz] at hmanos
      cases hmanos
    · rw [hpc]
      exact decidir_manos _ _
  | avanza =>
    simp only [hpc] at hs
    split at hs
    · cases hs
      refine hi.deDespachante hj hi.cinta (fun _ _ => rfl) ⟨nofun, nofun, nofun⟩
        (hi.conservado.igual (en_irDespachante rfl rfl ?_) rfl)
      rw [hpc]
      rfl
    · obtain ⟨cinta, hc, rfl⟩ := Option.map_eq_some_iff.mp hs
      refine hi.avanza hj hc ⟨nofun, nofun, nofun⟩ ?_
      rw [hpc]
      rfl
  | extrae z =>
    simp only [hpc] at hs
    obtain ⟨cinta, hc, rfl⟩ := Option.map_eq_some_iff.mp hs
    exact inv_extrae hi hj hpc hc
  | coloca v z =>
    simp only [hpc] at hs
    obtain ⟨z', hz', rfl⟩ := Option.map_eq_some_iff.mp hs
    obtain ⟨-, hdesde, hhasta, -⟩ := hcoloca v z hpc
    rw [cintasContenedor_getElem? hdesde hhasta] at hz'
    cases hz'
    exact inv_coloca hi hj hpc

/-! ## The control -/

/-- The robots of despacho do not move, and what they have read stays read. -/
theorem Inv.conCinta {cinta : CintaPrincipal.Estado Valija} {robotControl : PcRobotControl}
    {cola descartados : List Valija} {control : PcControl} {entradas : List Equipaje} (hi : Inv P s)
    (hcinta : CintaPrincipal.Inv P.capacidad P.productores P.consumidores cinta)
    (hleido : ∀ j < P.despachantes, ∀ v, s.cinta.consumidor j = .leido v → cinta.consumidor j = .leido v)
    (hextrae : ∀ v, robotControl = .extrae v → cinta.consumidor P.despachantes = .leido v)
    (hconsulta : ∀ v, robotControl = .consulta v →
      ∃ camino : List Suceso, v.camino = camino ++ [.extraido P.despachantes])
    (hdescarte : ∀ v ∈ descartados,
      ∃ camino : List Suceso, v.camino = camino ++ [.extraido P.despachantes, .consultado (-1)])
    (hcons : Conservado { s with
      cinta := cinta, robotControl := robotControl, cola := cola, control := control
      descartados := descartados, entradas := entradas }) :
    Inv P { s with
      cinta := cinta, robotControl := robotControl, cola := cola, control := control
      descartados := descartados, entradas := entradas } where
  cinta := hcinta
  conservado := hcons
  despachante j hj := by
    obtain ⟨hleidoj, hextraej, hcolocaj⟩ := hi.despachante j hj
    exact ⟨fun hc => hleido j hj _ (hleidoj hc), hextraej, hcolocaj⟩
  robotLeido := hextrae
  robotConsulta := hconsulta
  contenedor := hi.contenedor
  descarte := hdescarte

/-- A step of the last consumer does not touch the others. -/
theorem leido_de_otro {cinta : CintaPrincipal.Estado Valija} {pc : CintaPrincipal.PcConsumidor Valija}
    (hcinta : cinta.consumidor = Function.update s.cinta.consumidor P.despachantes pc) (j : Nat)
    (hj : j < P.despachantes) (v : Valija) (hv : s.cinta.consumidor j = .leido v) :
    cinta.consumidor j = .leido v := by
  rw [hcinta, Function.update_of_ne (Nat.ne_of_lt hj)]
  exact hv

/-- `leer_proximo_equipaje` begins. -/
theorem inv_robotControl_lee {numZona : Int} (hi : Inv P s) (hpc : s.robotControl = .lee)
    (hs : pasoRobotControl P s numZona = some t) : Inv P t := by
  simp only [pasoRobotControl, hpc] at hs
  obtain ⟨cinta, hc, rfl⟩ := Option.map_eq_some_iff.mp hs
  have hcinta := CintaPrincipal.inv_paso hi.cinta hc
  obtain rfl := CintaPrincipal.leerElemento_eq_some hc
  refine hi.conCinta hcinta (leido_de_otro rfl) nofun nofun hi.descarte
    (hi.conservado.igual (fun l => ?_) rfl)
  cases l with
  | robotControl =>
    change ([] : List Valija) = s.robotControl.manos
    rw [hpc]
    rfl
  | central | productor _ | despachante _ | cola | control | contenedor _ | descarte => rfl

/-- It returns a bag. -/
theorem inv_robotControl_leyendo {numZona : Int} (hi : Inv P s) (hpc : s.robotControl = .leyendo)
    (hs : pasoRobotControl P s numZona = some t) : Inv P t := by
  simp only [pasoRobotControl, hpc] at hs
  split at hs <;> cases hs
  rename_i v hv
  refine hi.conCinta hi.cinta (fun _ _ _ => id) ?_ nofun hi.descarte
    (hi.conservado.igual (fun l => ?_) rfl)
  · rintro v' ⟨rfl⟩
    exact hv
  · cases l with
    | robotControl =>
      change ([] : List Valija) = s.robotControl.manos
      rw [hpc]
      rfl
    | central | productor _ | despachante _ | cola | control | contenedor _ | descarte => rfl

/-- The bag comes off the belt. -/
theorem inv_robotControl_extrae {numZona : Int} {v : Valija} (hi : Inv P s) (hpc : s.robotControl = .extrae v)
    (hs : pasoRobotControl P s numZona = some t) : Inv P t := by
  simp only [pasoRobotControl, hpc] at hs
  obtain ⟨cinta, hc, rfl⟩ := Option.map_eq_some_iff.mp hs
  obtain ⟨v', hv', hcont, hprod, hcons⟩ := CintaPrincipal.extraerElemento_eq_some hi.cinta hc
  rw [hi.robotLeido v hpc] at hv'
  cases hv'
  refine hi.conCinta (CintaPrincipal.inv_paso hi.cinta hc) (leido_de_otro hcons) nofun ?_ hi.descarte
    (hi.conservado.mueve .central .robotControl _ (v.anotar (.extraido P.despachantes))
      ⟨nofun, congrArg _ hcont, ?_, fun l h₁ h₂ => ?_, numero_anotar v _, rfl⟩
      fun e he => he.anotar nofun)
  · rintro u ⟨rfl⟩
    exact ⟨v.camino, rfl⟩
  · change _ = _ ::ₘ (s.robotControl.manos : Multiset Valija)
    rw [hpc]
    rfl
  · cases l with
    | central => exact absurd rfl h₁
    | robotControl => exact absurd rfl h₂
    | productor i =>
      change (cinta.productor i).manos = (s.cinta.productor i).manos
      rw [hprod]
    | despachante _ | cola | control | contenedor _ | descarte => rfl

/-- The control answers, and the bag goes on or is discarded. -/
theorem inv_robotControl_consulta {numZona : Int} {v : Valija} (hi : Inv P s)
    (hpc : s.robotControl = .consulta v) (hs : pasoRobotControl P s numZona = some t) : Inv P t := by
  simp only [pasoRobotControl, hpc] at hs
  obtain ⟨camino, hcamino⟩ := hi.robotConsulta v hpc
  have hmanos : s.en .robotControl = [v] := by
    change s.robotControl.manos = [v]
    rw [hpc]
    rfl
  have hen : v ∈ s.en .robotControl := by
    rw [hmanos]
    exact List.mem_singleton_self v
  obtain ⟨e, -, hrfid, hviene⟩ := hi.conservado.traida .robotControl v hen
  split at hs <;> cases hs
  · refine hi.conCinta hi.cinta (fun _ _ _ => id) nofun nofun hi.descarte
      (hi.conservado.anota hmanos (w := v.anotar (.consultado numZona)) rfl (fun l hl => ?_)
        (numero_anotar v _) rfl fun e he => he.anotar nofun)
    cases l with
    | robotControl => exact absurd rfl hl
    | central | productor _ | despachante _ | cola | control | contenedor _ | descarte => rfl
  · rename_i hno
    rw [equipaje_anotar, hviene] at hno
    have hzona : numZona = -1 := by
      by_contra hz
      exact hno ⟨hrfid, hz⟩
    subst hzona
    refine hi.conCinta hi.cinta (fun _ _ _ => id) nofun nofun (fun u hu => ?_)
      (hi.conservado.mueve .robotControl .descarte _ (v.anotar (.consultado (-1)))
      ⟨nofun, ?_, ?_, fun l h₁ h₂ => ?_, numero_anotar v _, rfl⟩ fun e he => he.anotar nofun)
    · rcases List.mem_append.mp hu with hu | hu
      · exact hi.descarte u hu
      · rw [List.mem_singleton.mp hu]
        refine ⟨camino, ?_⟩
        rw [camino_anotar, hcamino, List.append_assoc]
        rfl
    · rw [hmanos]
      rfl
    · exact coe_concat _ _
    · cases l with
      | robotControl => exact absurd rfl h₁
      | descarte => exact absurd rfl h₂
      | central | productor _ | despachante _ | cola | control | contenedor _ => rfl

/-- The bag goes to the queue of the control. -/
theorem inv_robotControl_envia {numZona : Int} {v : Valija} (hi : Inv P s) (hpc : s.robotControl = .envia v)
    (hs : pasoRobotControl P s numZona = some t) : Inv P t := by
  simp only [pasoRobotControl, hpc] at hs
  cases hs
  refine hi.conCinta hi.cinta (fun _ _ _ => id) nofun nofun hi.descarte
    (hi.conservado.mueve .robotControl .cola v v
      ⟨nofun, ?_, ?_, fun l h₁ h₂ => ?_, rfl, rfl⟩ fun e he => he)
  · change (s.robotControl.manos : Multiset Valija) = _
    rw [hpc]
    rfl
  · exact coe_concat _ _
  · cases l with
    | robotControl => exact absurd rfl h₁
    | cola => exact absurd rfl h₂
    | central | productor _ | despachante _ | control | contenedor _ | descarte => rfl

theorem inv_robotControl {numZona : Int} (hi : Inv P s) (hs : pasoRobotControl P s numZona = some t) :
    Inv P t := by
  cases hpc : s.robotControl with
  | lee => exact inv_robotControl_lee hi hpc hs
  | leyendo => exact inv_robotControl_leyendo hi hpc hs
  | extrae v => exact inv_robotControl_extrae hi hpc hs
  | consulta v => exact inv_robotControl_consulta hi hpc hs
  | envia v => exact inv_robotControl_envia hi hpc hs

/-- A producer that was at rest takes a bag in its hands; the belt and the other producers stay. -/
theorem manos_colocarElemento {i : Nat} {cinta : CintaPrincipal.Estado Valija}
    (hs : s.cintaPaso P (.colocarElemento i v) = some cinta) :
    (s.cinta.productor i).manos = [] ∧ (cinta.productor i).manos = [v] ∧
      (∀ l, l ≠ i → cinta.productor l = s.cinta.productor l) ∧
      cinta.compartido = s.cinta.compartido ∧ cinta.consumidor = s.cinta.consumidor := by
  obtain ⟨hreposo, rfl⟩ := CintaPrincipal.colocarElemento_eq_some hs
  refine ⟨by rw [hreposo]; rfl, ?_, fun l hl => Function.update_of_ne hl _ _, rfl, rfl⟩
  dsimp only
  rw [Function.update_self]
  rfl

theorem inv_control (hi : Inv P s) (hs : pasoControl P s = some t) : Inv P t := by
  unfold pasoControl at hs
  cases hpc : s.control with
  | recibe =>
    simp only [hpc] at hs
    split at hs <;> cases hs
    rename_i v cola hcola
    refine hi.conCinta hi.cinta (fun _ _ _ => id) hi.robotLeido hi.robotConsulta hi.descarte
      (hi.conservado.mueve .cola .control v v
        ⟨nofun, congrArg _ hcola, ?_, fun l h₁ h₂ => ?_, rfl, rfl⟩ fun e he => he)
    · change _ = v ::ₘ (s.control.manos : Multiset Valija)
      rw [hpc]
      rfl
    · cases l with
      | cola => exact absurd rfl h₁
      | control => exact absurd rfl h₂
      | central | productor _ | despachante _ | robotControl | contenedor _ | descarte => rfl
  | limpia v =>
    simp only [hpc] at hs
    obtain ⟨cinta, hc, rfl⟩ := Option.map_eq_some_iff.mp hs
    obtain ⟨hantes, hdespues, hotros, hcomp, hcons⟩ := manos_colocarElemento hc
    refine hi.conCinta (CintaPrincipal.inv_paso hi.cinta hc) (fun j _ v hv => by rw [hcons]; exact hv)
      (fun v hv => by rw [hcons]; exact hi.robotLeido v hv) hi.robotConsulta hi.descarte
      (hi.conservado.mueve .control (.productor P.productorControl) v v.limpiar
        ⟨nofun, ?_, ?_, fun l h₁ h₂ => ?_, rfl, rfl⟩ fun e he => he.limpiar)
    · change (s.control.manos : Multiset Valija) = _
      rw [hpc]
      rfl
    · change ((cinta.productor P.productorControl).manos : Multiset Valija) =
        _ ::ₘ ((s.cinta.productor P.productorControl).manos : Multiset Valija)
      rw [hantes, hdespues]
      rfl
    · cases l with
      | control => exact absurd rfl h₁
      | productor i =>
        change (cinta.productor i).manos = (s.cinta.productor i).manos
        rw [hotros i fun hl => h₂ (by rw [hl])]
      | central =>
        change cinta.compartido.anillo.contenido = s.cinta.compartido.anillo.contenido
        rw [hcomp]
      | despachante _ | robotControl | cola | contenedor _ | descarte => rfl
  | coloca =>
    simp only [hpc] at hs
    split at hs <;> cases hs
    refine hi.conCinta hi.cinta (fun _ _ _ => id) hi.robotLeido hi.robotConsulta hi.descarte
      (hi.conservado.igual (fun l => ?_) rfl)
    cases l with
    | control =>
      change ([] : List Valija) = s.control.manos
      rw [hpc]
      rfl
    | central | productor _ | despachante _ | robotControl | cola | contenedor _ | descarte => rfl

/-! ## The belt and the other producers -/

theorem inv_cinta {ev : CintaPrincipal.Evento Valija} {cinta : CintaPrincipal.Estado Valija}
    (hi : Inv P s) (hev : ev.interno = true) (hc : s.cintaPaso P ev = some cinta) :
    Inv P { s with cinta := cinta } := by
  have hleido := fun l (v : Valija) => CintaPrincipal.leido_interno (l := l) (v := v) hev hc
  refine hi.conCinta (CintaPrincipal.inv_paso hi.cinta hc) (fun j _ => hleido j)
    (fun v hv => hleido _ v (hi.robotLeido v hv)) hi.robotConsulta hi.descarte ?_
  rcases CintaPrincipal.interno_cases hi.cinta hev hc with ⟨hcont, hprod⟩ |
    ⟨i, v, hantes, hdespues, hotros, hcont⟩
  · refine hi.conservado.igual (fun l => ?_) rfl
    cases l with
    | central => exact hcont
    | productor i => exact hprod i
    | despachante _ | robotControl | cola | control | contenedor _ | descarte => rfl
  · -- the bag goes from the hands of its producer to the belt
    refine hi.conservado.mueve (.productor i) .central v v
        ⟨nofun, ?_, ?_, fun l h₁ h₂ => ?_, rfl, rfl⟩ fun e he => he
    · change ((s.cinta.productor i).manos : Multiset Valija) =
        v ::ₘ ((cinta.productor i).manos : Multiset Valija)
      rw [hantes, hdespues]
      rfl
    · change (cinta.compartido.anillo.contenido : Multiset Valija) = _
      rw [hcont]
      exact coe_concat _ _
    · cases l with
      | central => exact absurd rfl h₂
      | productor m =>
        change (cinta.productor m).manos = (s.cinta.productor m).manos
        rw [hotros m fun hl => h₁ (by rw [hl])]
      | despachante _ | robotControl | cola | control | contenedor _ | descarte => rfl

theorem inv_pone {i : Nat} {cinta : CintaPrincipal.Estado Valija} (hi : Inv P s) (he : e.rfid ≠ 0)
    (hc : s.cintaPaso P (.colocarElemento i ⟨e, s.entradas.length, []⟩) = some cinta) :
    Inv P { s with cinta := cinta, entradas := s.entradas ++ [e] } := by
  obtain ⟨hantes, hdespues, hotros, hcomp, hcons⟩ := manos_colocarElemento hc
  refine hi.conCinta (CintaPrincipal.inv_paso hi.cinta hc) (fun j _ v hv => by rw [hcons]; exact hv)
    (fun v hv => by rw [hcons]; exact hi.robotLeido v hv) hi.robotConsulta hi.descarte
    (hi.conservado.llega (.productor i) he rfl ?_ fun l hl => ?_)
  · change ((cinta.productor i).manos : Multiset Valija) =
      _ ::ₘ ((s.cinta.productor i).manos : Multiset Valija)
    rw [hantes, hdespues]
    rfl
  · cases l with
    | central =>
      change cinta.compartido.anillo.contenido = s.cinta.compartido.anillo.contenido
      rw [hcomp]
    | productor m =>
      change (cinta.productor m).manos = (s.cinta.productor m).manos
      rw [hotros m fun hm => hl (by rw [hm])]
    | despachante _ | robotControl | cola | control | contenedor _ | descarte => rfl

/-! ## The runs -/

theorem inv_paso {ev : Evento} (hi : Inv P s) (hs : paso P s ev = some t) : Inv P t := by
  cases ev with
  | cinta ev =>
    simp only [paso] at hs
    split at hs
    · obtain ⟨cinta, hc, rfl⟩ := Option.map_eq_some_iff.mp hs
      exact inv_cinta hi ‹_› hc
    · cases hs
  | pone i equipaje =>
    simp only [paso] at hs
    split at hs
    · rename_i hbien
      obtain ⟨cinta, hc, rfl⟩ := Option.map_eq_some_iff.mp hs
      exact inv_pone hi hbien.2 hc
    · cases hs
  | despacho j numZona =>
    simp only [paso] at hs
    split at hs
    · exact inv_despacho hi ‹_› hs
    · cases hs
  | robotControl numZona => exact inv_robotControl hi hs
  | control => exact inv_control hi hs

theorem Conservado.unLugar {n : Nat} (h : Conservado s) (hn : n < s.entradas.length) :
    ∃! l, n ∈ (s.en l).map Valija.numero := by
  obtain ⟨lugar, hlugar, hen⟩ := h.reparto
  exact hlugar.existsUnique ((hen n).mpr hn)

theorem Conservado.unaVez (h : Conservado s) (l : Lugar) : ((s.en l).map Valija.numero).Nodup := by
  obtain ⟨lugar, hlugar, -⟩ := h.reparto
  exact hlugar.nodup l

/-- In every reachable state each bag is in exactly one place; it is out of the loop only on the
    container belt of a zone of the robot that extracted it, not suspicious, or discarded by the robot of
    control after a lookup that answered -1; and a bag that came suspicious reaches a container belt
    through the control. -/
theorem despacho_conserva (P : Parametros) (hs : Alcanza (paso P) (inicial P) s) : Conserva P s := by
  have hi : Inv P s := hs.induccion (inv_inicial P) fun _ _ _ ha hb => inv_paso ha hb
  refine ⟨fun n hn => hi.conservado.unLugar hn, hi.conservado.unaVez, hi.conservado.traida,
    hi.contenedor, hi.descarte, fun z v hv e he hsosp => ?_⟩
  obtain ⟨e', he', -, hviene⟩ := hi.conservado.traida (.contenedor z) v hv
  obtain ⟨hlimpio, -⟩ := hi.contenedor z v hv
  rw [he] at he'
  cases he'
  -- the mark it came with is not there any more
  rw [hviene, hsosp] at hlimpio
  simpa using hlimpio

/-- One robot of despacho with the zones 3 and 4. -/
def unRobot : Parametros where
  capacidad := 2
  productores := 6
  despachantes := 1
  zonaDesde _ := 3
  zonaHasta _ := 4
  productorControl := 4
  hayLugar := by decide

/-- Producer `i` puts what it has called `colocar_elemento` with. -/
def seColoca (i : Nat) : List Evento := [.cinta (.waitProductor i), .cinta (.seccionColocar i)]

/-- Consumer `j` reads what is on the belt. -/
def seLee (j : Nat) : List Evento := [.cinta (.waitConsumidor j), .cinta (.seccionLeer j)]

/-- A suspicious bag passes the robot of despacho, goes through the control and comes back to it. -/
def unaVuelta : List Evento :=
  Evento.pone 0 ⟨7, 12, true⟩ :: seColoca 0 ++
    Evento.despacho 0 3 :: seLee 0 ++
    [Evento.despacho 0 3, Evento.despacho 0 3, Evento.despacho 0 3] ++
    Evento.robotControl 3 :: seLee 1 ++
    [Evento.robotControl 3, Evento.robotControl 3, Evento.robotControl 3, Evento.robotControl 3] ++
    [Evento.control, Evento.control] ++ seColoca 4 ++
    Evento.despacho 0 3 :: seLee 0 ++
    [Evento.despacho 0 3, Evento.despacho 0 3, Evento.despacho 0 3, Evento.despacho 0 3]

theorem despacho_conserva_una_vuelta : ∃ s : Estado, Alcanza (paso unRobot) (inicial unRobot) s ∧
    (s.en (.contenedor 3)).map Valija.numero = [0] ∧ Conserva unRobot s := by
  have hrun : (correr (paso unRobot) (inicial unRobot) unaVuelta).map
      (fun s => (s.en (.contenedor 3)).map Valija.numero) = some [0] := by decide +kernel
  obtain ⟨s, hs, hn⟩ := Option.map_eq_some_iff.mp hrun
  exact ⟨s, ⟨_, hs⟩, hn, despacho_conserva unRobot ⟨_, hs⟩⟩

end Despacho
