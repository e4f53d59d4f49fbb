import Aeropuerto.Biblioteca.Sumas
import Aeropuerto.Procesos.Trasbordo

/-!
# What reaches the belt of transfer luggage

The notices that the generator sends are those of the connections of the flights that have arrived; a
loader is, for each flight, before its notice, in the middle of its bags, or past them.
-/

namespace Trasbordo

open ColaDeMensajes Ejecucion Multimapa

variable {ε : Type} {A : Archivos ε} {s t : Estado ε} {c c' : Cargador ε} {i : Nat} {d e : Int}

/-! ## The generator -/

/-- The destinations that are about to be told of the flight. -/
def Generador.enCurso (g : Generador) (entrante : Int) : List Int :=
  match g with
  | .informando e resto => if e = entrante then resto else []
  | _ => []

structure Informa (A : Archivos ε) (s : Estado ε) : Prop where
  vivo : s.generador ≠ .excepcion ∧ s.generador ≠ .fuera
  interconexion : ∀ p ∈ s.vuelosInterconexion, p ∈ A.interconexion
  resto : ∀ e resto, s.generador = .informando e resto →
    e ∈ s.llegaron ∧ ∀ d ∈ resto, (e, d) ∈ A.interconexion
  avisos : ∀ p ∈ s.avisos, p.1 ∈ s.vuelosLanzados ∧ p.2 ∈ s.llegaron
  porLlegar : ∀ p ∈ A.interconexion, p.1 ∉ s.llegaron → p ∈ s.vuelosInterconexion
  avisado : ∀ p ∈ A.interconexion, p.1 ∈ s.llegaron →
    p.2 ∈ s.generador.enCurso p.1 ∨ (p.2, p.1) ∈ s.avisos

theorem Informa.igual (h : Informa A s) (hg : t.generador = s.generador)
    (hi : t.vuelosInterconexion = s.vuelosInterconexion) (hl : t.vuelosLanzados = s.vuelosLanzados)
    (hll : t.llegaron = s.llegaron) (ha : t.avisos = s.avisos) : Informa A t := by
  obtain ⟨h₁, h₂, h₃, h₄, h₅, h₆⟩ := h
  constructor
  · rwa [hg]
  · rwa [hi]
  · rwa [hg, hll]
  · rwa [ha, hl, hll]
  · rwa [hll, hi]
  · rwa [hll, hg, ha]

theorem Informa.inicial (A : Archivos ε) (llegadas : List Int) : Informa A (inicial A llegadas) where
  vivo := ⟨by rintro ⟨⟩, by rintro ⟨⟩⟩
  interconexion := fun _ hp => hp
  resto := by rintro _ _ ⟨⟩
  avisos := fun _ hp => absurd hp List.not_mem_nil
  porLlegar := fun _ hp _ => hp
  avisado := fun _ _ hp => absurd hp List.not_mem_nil

/-- A flight that has already arrived has no connections left. -/
theorem Informa.llega (h : Informa A s) {es : List Int} (hg : s.generador = .leyendo) :
    Informa A { s with llegadas := es, llegaron := s.llegaron ++ [e],
                       generador := .informando e (rango e s.vuelosInterconexion) } := by
  have hprevio : ∀ p ∈ A.interconexion, p.1 ∈ s.llegaron → (p.2, p.1) ∈ s.avisos := by
    intro p hp hllega
    rcases h.avisado p hp hllega with hcurso | haviso
    · rw [hg] at hcurso
      exact absurd hcurso List.not_mem_nil
    · exact haviso
  constructor
  · exact ⟨by rintro ⟨⟩, by rintro ⟨⟩⟩
  · exact h.interconexion
  · rintro e' resto ⟨⟩
    exact ⟨List.mem_append_right _ (List.mem_singleton_self e),
      fun d hd => h.interconexion _ (mem_rango.mp hd)⟩
  · exact fun p hp => ⟨(h.avisos p hp).1, List.mem_append_left _ (h.avisos p hp).2⟩
  · exact fun p hp hno => h.porLlegar p hp fun hsi => hno (List.mem_append_left _ hsi)
  · intro p hp hllega
    by_cases hantes : p.1 ∈ s.llegaron
    · exact .inr (hprevio p hp hantes)
    · left
      have he : p.1 = e := by
        rcases List.mem_append.mp hllega with hllega | hllega
        · exact absurd hllega hantes
        · exact List.mem_singleton.mp hllega
      show p.2 ∈ if e = p.1 then _ else []
      rw [if_pos he.symm, mem_rango, ← he]
      exact h.porLlegar p hp hantes

theorem Informa.termina (h : Informa A s) (hg : s.generador = .informando e []) :
    Informa A { s with vuelosInterconexion := erase e s.vuelosInterconexion, generador := .leyendo } := by
  obtain ⟨hllego, -⟩ := h.resto e [] hg
  constructor
  · exact ⟨by rintro ⟨⟩, by rintro ⟨⟩⟩
  · exact fun p hp => h.interconexion p (mem_erase.mp hp).1
  · rintro _ _ ⟨⟩
  · exact h.avisos
  · refine fun p hp hno => mem_erase.mpr ⟨h.porLlegar p hp hno, fun heq => hno ?_⟩
    rw [heq]
    exact hllego
  · intro p hp hllega
    rcases h.avisado p hp hllega with hcurso | haviso
    · rw [hg] at hcurso
      refine absurd hcurso ?_
      show p.2 ∉ if e = p.1 then [] else []
      rw [ite_self]
      exact List.not_mem_nil
    · exact .inr haviso

/-- The notice of one connection. -/
theorem Informa.avisa (h : Informa A s) {ds : List Int} {cola : Cola Int}
    (hg : s.generador = .informando e (d :: ds)) (hd : d ∈ s.vuelosLanzados) :
    Informa A { s with cola := cola, avisos := s.avisos ++ [(d, e)], generador := .informando e ds } := by
  obtain ⟨hllego, hresto⟩ := h.resto e (d :: ds) hg
  constructor
  · exact ⟨by rintro ⟨⟩, by rintro ⟨⟩⟩
  · exact h.interconexion
  · rintro _ _ ⟨⟩
    exact ⟨hllego, fun d hd => hresto d (List.mem_cons_of_mem _ hd)⟩
  · intro p hp
    rcases List.mem_append.mp hp with hp | hp
    · exact h.avisos p hp
    · rw [List.mem_singleton.mp hp]
      exact ⟨hd, hllego⟩
  · exact h.porLlegar
  · intro p hp hllega
    rcases h.avisado p hp hllega with hcurso | haviso
    · rw [hg] at hcurso
      change p.2 ∈ (if e = p.1 then d :: ds else []) at hcurso
      show p.2 ∈ (if e = p.1 then ds else []) ∨ _
      split at hcurso
      case isTrue he =>
        rw [if_pos he]
        rcases List.mem_cons.mp hcurso with hd' | hds
        · rw [hd', ← he]
          exact .inr (List.mem_append_right _ (List.mem_singleton_self _))
        · exact .inl hds
      case isFalse => exact absurd hcurso List.not_mem_nil
    · exact .inr (List.mem_append_left _ haviso)

theorem Informa.lanza (h : Informa A s) {cs : List (Cargador ε)} :
    Informa A { s with vuelosLanzados := d :: s.vuelosLanzados, cargadores := cs } where
  vivo := h.vivo
  interconexion := h.interconexion
  resto := h.resto
  avisos := fun p hp => ⟨List.mem_cons_of_mem _ (h.avisos p hp).1, (h.avisos p hp).2⟩
  porLlegar := h.porLlegar
  avisado := h.avisado

theorem Informa.pausa (h : Informa A s) (hg : s.generador = .leyendo) :
    Informa A { s with generador := .pausa } := by
  refine ⟨⟨by rintro ⟨⟩, by rintro ⟨⟩⟩, h.interconexion, by rintro _ _ ⟨⟩, h.avisos, h.porLlegar, ?_⟩
  intro p hp hllega
  have hantes := h.avisado p hp hllega
  rwa [hg] at hantes

/-! ## The loaders -/

/-- How far the loader is with the bags of a flight. -/
inductive Avance (A : Archivos ε) (s : Estado ε) (c : Cargador ε) (e : Int) : Prop where
  | espera (hequipajes : rango e c.equipajesACargar = rango e (A.equipajes c.destino))
      (hpuestos : puestos s c.destino e = []) (hfase : ∀ id resto, c.fase ≠ .cargando id e resto)
      (haviso : (c.destino, e) ∈ s.avisos → ⟨c.destino, [e]⟩ ∈ s.cola)
  | cargando {id : Int} {resto : List ε} (hfase : c.fase = .cargando id e resto)
      (hequipajes : rango e c.equipajesACargar = rango e (A.equipajes c.destino))
      (hpuestos : puestos s c.destino e ++ resto = rango e (A.equipajes c.destino))
      (haviso : (c.destino, e) ∈ s.avisos)
  | cargado (hequipajes : rango e c.equipajesACargar = [])
      (hpuestos : puestos s c.destino e = rango e (A.equipajes c.destino))
      (hfase : ∀ id resto, c.fase = .cargando id e resto → resto = [])
      (haviso : (c.destino, e) ∈ s.avisos)

structure Carga (A : Archivos ε) (s : Estado ε) : Prop where
  nodup : (s.cargadores.map Cargador.destino).Nodup
  lanzados : ∀ d, d ∈ s.vuelosLanzados ↔ d ∈ s.cargadores.map Cargador.destino
  positivos : ∀ c ∈ s.cargadores, 1 ≤ c.destino
  cola : ∀ m ∈ s.cola, ∃ e, m.texto = [e] ∧ (m.tipo, e) ∈ s.avisos
  cinta : ∀ x ∈ s.cinta, (x.destino, x.origen) ∈ s.avisos
  fin : ∀ c ∈ s.cargadores, c.fase = .fin → c.equipajesACargar = []
  avance : ∀ (i : Nat) (c : Cargador ε), s.cargadores[i]? = some c → ∀ e, Avance A s c e

theorem Carga.inicial (A : Archivos ε) (llegadas : List Int) : Carga A (inicial A llegadas) where
  nodup := List.nodup_nil
  lanzados := fun _ => Iff.rfl
  positivos := fun _ hc => absurd hc List.not_mem_nil
  cola := fun _ hm => absurd hm List.not_mem_nil
  cinta := fun _ hx => absurd hx List.not_mem_nil
  fin := fun _ hc => absurd hc List.not_mem_nil
  avance := fun _ _ hc => by cases hc

/-- The bags of a loader are not touched, and its notices stay. -/
theorem Avance.marco (h : Avance A s c e) (hpuestos : puestos t c.destino e = puestos s c.destino e)
    (havisos : ∀ p ∈ s.avisos, p ∈ t.avisos)
    (hnuevo : (c.destino, e) ∈ t.avisos → (c.destino, e) ∈ s.avisos ∨ ⟨c.destino, [e]⟩ ∈ t.cola)
    (hcola : ∀ m ∈ s.cola, m.tipo = c.destino → m ∈ t.cola) : Avance A t c e := by
  cases h with
  | espera hequipajes hp hfase haviso =>
    refine .espera hequipajes (hpuestos.trans hp) hfase fun ht => ?_
    rcases hnuevo ht with hs | hq
    · exact hcola _ (haviso hs) rfl
    · exact hq
  | cargando hfase hequipajes hp haviso =>
    exact .cargando hfase hequipajes (hpuestos ▸ hp) (havisos _ haviso)
  | cargado hequipajes hp hfase haviso =>
    exact .cargado hequipajes (hpuestos.trans hp) hfase (havisos _ haviso)

theorem Carga.igual (h : Carga A s) (hc : t.cargadores = s.cargadores)
    (hl : t.vuelosLanzados = s.vuelosLanzados) (hq : t.cola = s.cola) (ha : t.avisos = s.avisos)
    (hx : t.cinta = s.cinta) : Carga A t := by
  obtain ⟨h₁, h₂, h₃, h₄, h₅, h₆, h₇⟩ := h
  constructor
  · rwa [hc]
  · rwa [hc, hl]
  · rwa [hc]
  · rwa [hq, ha]
  · rwa [hx, ha]
  · rwa [hc]
  · rw [hc]
    refine fun i c hi e => (h₇ i c hi e).marco (by rw [puestos, puestos, hx]) ?_ ?_ ?_
    · rw [ha]
      exact fun _ hp => hp
    · rw [ha]
      exact fun hp => .inl hp
    · rw [hq]
      exact fun _ hm _ => hm

/-- A notice to a loader that has been launched. -/
theorem Carga.avisa (h : Carga A s) (g : Generador) :
    Carga A { s with cola := s.cola ++ [⟨d, [e]⟩], avisos := s.avisos ++ [(d, e)], generador := g } where
  nodup := h.nodup
  lanzados := h.lanzados
  positivos := h.positivos
  fin := h.fin
  cola := by
    intro m hm
    rcases List.mem_append.mp hm with hm | hm
    · obtain ⟨e', htexto, haviso⟩ := h.cola m hm
      exact ⟨e', htexto, List.mem_append_left _ haviso⟩
    · rw [List.mem_singleton.mp hm]
      exact ⟨e, rfl, List.mem_append_right _ (List.mem_singleton_self _)⟩
  cinta := fun x hx => List.mem_append_left _ (h.cinta x hx)
  avance := by
    refine fun i c hc e' => (h.avance i c hc e').marco rfl (fun _ hp => List.mem_append_left _ hp) ?_
      fun _ hm _ => List.mem_append_left _ hm
    intro hp
    rcases List.mem_append.mp hp with hp | hp
    · exact .inl hp
    · obtain ⟨hd, he⟩ := Prod.mk.inj (List.mem_singleton.mp hp)
      refine .inr (List.mem_append_right _ ?_)
      rw [hd, he]
      exact List.mem_singleton_self _

/-- Nothing has been put for a destination before its loader is launched. -/
theorem puestos_eq_nil (h : Carga A s) (hd : (d, e) ∉ s.avisos) : puestos s d e = [] := by
  rw [puestos, List.map_eq_nil_iff, List.filter_eq_nil_iff]
  intro x hx hes
  obtain ⟨rfl, rfl⟩ := of_decide_eq_true hes
  exact hd (h.cinta x hx)

theorem Carga.lanza (hI : Informa A s) (h : Carga A s) (hd : d ∉ s.vuelosLanzados) (hpos : 1 ≤ d) :
    Carga A { s with vuelosLanzados := d :: s.vuelosLanzados,
                     cargadores := s.cargadores ++ [⟨d, .zona, A.equipajes d⟩] } where
  nodup := by
    rw [List.map_append, List.nodup_append]
    refine ⟨h.nodup, List.nodup_singleton d, fun x hx y hy => ?_⟩
    rw [List.mem_singleton.mp hy]
    rintro rfl
    exact hd ((h.lanzados x).mpr hx)
  lanzados := by
    intro x
    rw [List.map_append, List.mem_append, List.mem_cons, h.lanzados x, or_comm]
    exact or_congr_right List.mem_singleton.symm
  positivos := by
    intro c hc
    rcases List.mem_append.mp hc with hc | hc
    · exact h.positivos c hc
    · rw [List.mem_singleton.mp hc]
      exact hpos
  cola := h.cola
  cinta := h.cinta
  fin := by
    intro c hc hfin
    rcases List.mem_append.mp hc with hc | hc
    · exact h.fin c hc hfin
    · rw [List.mem_singleton.mp hc] at hfin
      cases hfin
  avance := by
    intro i c hc e
    rw [List.getElem?_append] at hc
    split at hc
    · exact (h.avance i c hc e).marco rfl (fun _ hp => hp) .inl fun _ hm _ => hm
    · have hnuevo : (⟨d, .zona, A.equipajes d⟩ : Cargador ε) = c :=
        (List.mem_singleton.mp (List.mem_of_getElem? hc)).symm
      subst hnuevo
      have hno : (d, e) ∉ s.avisos := fun hp => hd (hI.avisos _ hp).1
      have hnada : puestos s d e = [] := puestos_eq_nil h hno
      exact .espera rfl hnada (by rintro _ _ ⟨⟩) fun hp => absurd hp hno

theorem map_destino_set {cs : List (Cargador ε)} (hi : cs[i]? = some c) (hd : c'.destino = c.destino) :
    (cs.set i c').map Cargador.destino = cs.map Cargador.destino := by
  rw [List.map_set, hd]
  refine List.ext_getElem? fun j => ?_
  rw [List.getElem?_set]
  split
  case isTrue hij =>
    subst hij
    rw [List.getElem?_map, hi, if_pos (by rw [List.length_map]; exact (List.getElem?_eq_some_iff.mp hi).1)]
    rfl
  case isFalse => rfl

/-- Two loaders have different destinations. -/
theorem Carga.destino_ne (h : Carga A s) {j : Nat} {cj : Cargador ε} (hij : i ≠ j)
    (hi : s.cargadores[i]? = some c) (hj : s.cargadores[j]? = some cj) : cj.destino ≠ c.destino := by
  intro heq
  have hlargo : i < (s.cargadores.map Cargador.destino).length := by
    rw [List.length_map]
    exact (List.getElem?_eq_some_iff.mp hi).1
  refine hij ((List.getElem?_inj hlargo h.nodup).mp ?_)
  rw [List.getElem?_map, List.getElem?_map, hi, hj, Option.map_some, Option.map_some, heq]

/-- A step of one loader, that takes from the queue only its notices and puts only its bags. -/
theorem Carga.cambia (h : Carga A s) (hi : s.cargadores[i]? = some c)
    (hcs : t.cargadores = s.cargadores.set i c') (hd : c'.destino = c.destino)
    (hl : t.vuelosLanzados = s.vuelosLanzados) (ha : t.avisos = s.avisos)
    (hfin : c'.fase = .fin → c'.equipajesACargar = []) (hcola : ∀ m ∈ t.cola, m ∈ s.cola)
    (hotros : ∀ m ∈ s.cola, m.tipo ≠ c.destino → m ∈ t.cola)
    (hcinta : ∀ x ∈ t.cinta, (x.destino, x.origen) ∈ s.avisos)
    (hpuestos : ∀ d e, d ≠ c.destino → puestos t d e = puestos s d e) (havance : ∀ e, Avance A t c' e) :
    Carga A t where
  nodup := by
    rw [hcs, map_destino_set hi hd]
    exact h.nodup
  lanzados := by
    rw [hcs, hl, map_destino_set hi hd]
    exact h.lanzados
  positivos := by
    intro x hx
    rw [hcs] at hx
    rcases List.mem_or_eq_of_mem_set hx with hx | rfl
    · exact h.positivos x hx
    · rw [hd]
      exact h.positivos c (List.mem_of_getElem? hi)
  cola := by
    rw [ha]
    exact fun m hm => h.cola m (hcola m hm)
  cinta := by
    rw [ha]
    exact hcinta
  fin := by
    intro x hx hf
    rw [hcs] at hx
    rcases List.mem_or_eq_of_mem_set hx with hx | rfl
    · exact h.fin x hx hf
    · exact hfin hf
  avance := by
    intro j cj hj e
    rw [hcs, List.getElem?_set] at hj
    split at hj
    case isTrue =>
      split at hj
      · cases hj
        exact havance e
      · cases hj
    case isFalse hij =>
      have hne := h.destino_ne hij hi hj
      refine (h.avance j cj hj e).marco (hpuestos _ e hne) ?_ ?_ ?_
      · rw [ha]
        exact fun _ hp => hp
      · rw [ha]
        exact .inl
      · exact fun m hm htipo => hotros m hm (htipo ▸ hne)

theorem puestos_concat {x : Puesto ε} (h : t.cinta = s.cinta ++ [x]) (d e : Int) :
    puestos t d e = puestos s d e ++ if x.destino = d ∧ x.origen = e then [x.equipaje] else [] := by
  rw [puestos, h, List.filter_append, List.map_append, puestos]
  congr 1
  by_cases hx : x.destino = d ∧ x.origen = e
  · rw [if_pos hx, List.filter_singleton, decide_eq_true hx]
    rfl
  · rw [if_neg hx, List.filter_singleton, decide_eq_false hx]
    rfl

/-- A loader that is not among the bags of a flight changes to another point of its code. -/
theorem Avance.fase (h : Avance A s c e) {f : Fase ε} (hc : ∀ id resto, c.fase ≠ .cargando id e resto)
    (hf : ∀ id resto, f ≠ .cargando id e resto) : Avance A s { c with fase := f } e := by
  cases h with
  | espera hequipajes hp _ haviso => exact .espera hequipajes hp hf haviso
  | cargando hfase => exact absurd hfase (hc _ _)
  | cargado hequipajes hp _ haviso =>
    exact .cargado hequipajes hp (fun id resto heq => absurd heq (hf id resto)) haviso

theorem Carga.asigna (h : Carga A s) (hi : s.cargadores[i]? = some c) (hfase : c.fase = .zona) (id : Int) :
    Carga A { s with cargadores := s.cargadores.set i { c with fase := .esperando id } } := by
  refine h.cambia hi rfl rfl rfl rfl (by rintro ⟨⟩) (fun _ hm => hm) (fun _ hm _ => hm) h.cinta
    (fun _ _ _ => rfl) fun e => ?_
  refine ((h.avance i c hi e).fase (fun _ _ heq => ?_) (by rintro _ _ ⟨⟩)).marco rfl (fun _ hp => hp) .inl
    fun _ hm _ => hm
  rw [hfase] at heq
  cases heq

theorem Carga.acaba (h : Carga A s) (hi : s.cargadores[i]? = some c) {id : Int}
    (hfase : c.fase = .esperando id) (hnada : c.equipajesACargar = []) :
    Carga A { s with cargadores := s.cargadores.set i { c with fase := .fin } } := by
  refine h.cambia hi rfl rfl rfl rfl (fun _ => hnada) (fun _ hm => hm) (fun _ hm _ => hm) h.cinta
    (fun _ _ _ => rfl) fun e => ?_
  refine ((h.avance i c hi e).fase (fun _ _ heq => ?_) (by rintro _ _ ⟨⟩)).marco rfl (fun _ hp => hp) .inl
    fun _ hm _ => hm
  rw [hfase] at heq
  cases heq

/-- The loader takes a notice. -/
theorem Carga.recibe (h : Carga A s) (hi : s.cargadores[i]? = some c) {id : Int} {m : Mensaje Int}
    {cola : Cola Int} (hfase : c.fase = .esperando id) (hm : msgrcv s.cola 1 c.destino = .ok (m, cola)) :
    Carga A { s with cola := cola,
                     cargadores := s.cargadores.set i
                       { c with fase := .cargando id (m.texto.headD 0)
                                          (rango (m.texto.headD 0) c.equipajesACargar) } } := by
  obtain ⟨htipo, hperm⟩ := msgrcv_tipo (h.positivos c (List.mem_of_getElem? hi)) hm
  obtain ⟨e₀, htexto, haviso⟩ := h.cola m (hperm.symm.subset List.mem_cons_self)
  rw [htipo] at haviso
  have hm₀ : m = ⟨c.destino, [e₀]⟩ := by rw [← htipo, ← htexto]
  have hhead : m.texto.headD 0 = e₀ := by rw [htexto, List.headD_cons]
  have hqueda : ∀ x ∈ s.cola, x ≠ m → x ∈ cola := by
    intro x hx hne
    rcases List.mem_cons.mp (hperm.subset hx) with hx | hx
    · exact absurd hx hne
    · exact hx
  rw [hhead]
  refine h.cambia hi rfl rfl rfl rfl (by rintro ⟨⟩)
    (fun x hx => hperm.symm.subset (List.mem_cons_of_mem _ hx)) (fun x hx hne => hqueda x hx ?_) h.cinta
    (fun _ _ _ => rfl) fun e => ?_
  · rintro rfl
    exact hne htipo
  · cases h.avance i c hi e with
    | espera hequipajes hp _ haviso' =>
      by_cases he : e = e₀
      · subst he
        refine .cargando rfl hequipajes ?_ haviso
        show puestos s c.destino e ++ _ = _
        rw [hp, List.nil_append]
        exact hequipajes
      · refine .espera hequipajes hp ?_ fun hs => hqueda _ (haviso' hs) ?_
        · rintro id' resto heq
          cases heq
          exact he rfl
        · rw [hm₀]
          rintro ⟨⟩
          exact he rfl
    | cargando hf =>
      rw [hfase] at hf
      cases hf
    | cargado hequipajes hp _ haviso' =>
      refine .cargado hequipajes hp (fun id' resto heq => ?_) haviso'
      cases heq
      exact hequipajes

/-- The loader puts a bag. -/
theorem Carga.pone (h : Carga A s) (hi : s.cargadores[i]? = some c) {id e₀ : Int} {b : ε} {bs : List ε}
    (hfase : c.fase = .cargando id e₀ (b :: bs)) :
    Carga A { s with cinta := s.cinta ++ [⟨id, c.destino, e₀, b⟩],
                     cargadores := s.cargadores.set i { c with fase := .cargando id e₀ bs } } := by
  have haviso₀ : (c.destino, e₀) ∈ s.avisos := by
    cases h.avance i c hi e₀ with
    | espera _ _ hf => exact absurd hfase (hf _ _)
    | cargando _ _ _ haviso => exact haviso
    | cargado _ _ _ haviso => exact haviso
  refine h.cambia hi rfl rfl rfl rfl (by rintro ⟨⟩) (fun _ hm => hm) (fun _ hm _ => hm) (fun x hx => ?_)
    (fun d e hd => ?_) fun e => ?_
  · rcases List.mem_append.mp hx with hx | hx
    · exact h.cinta x hx
    · rw [List.mem_singleton.mp hx]
      exact haviso₀
  · rw [puestos_concat rfl, if_neg fun hx => hd hx.1.symm, List.append_nil]
  · cases h.avance i c hi e with
    | espera hequipajes hp hf haviso =>
      have he : e₀ ≠ e := by
        rintro rfl
        exact hf _ _ hfase
      refine .espera hequipajes ?_ (by rintro _ _ ⟨⟩; exact he rfl) haviso
      rw [puestos_concat rfl, if_neg fun hx => he hx.2, List.append_nil]
      exact hp
    | cargando hf hequipajes hp haviso =>
      rw [hfase] at hf
      cases hf
      refine .cargando rfl hequipajes ?_ haviso
      rw [puestos_concat rfl, if_pos ⟨rfl, rfl⟩, List.append_assoc]
      exact hp
    | cargado hequipajes hp hf haviso =>
      have he : e₀ ≠ e := by
        rintro rfl
        cases hf _ _ hfase
      refine .cargado hequipajes ?_ (by rintro _ _ ⟨⟩; exact absurd rfl he) haviso
      rw [puestos_concat rfl, if_neg fun hx => he hx.2, List.append_nil]
      exact hp

/-- The loader has put the bags of the flight. -/
theorem Carga.borra (h : Carga A s) (hi : s.cargadores[i]? = some c) {id e₀ : Int}
    (hfase : c.fase = .cargando id e₀ []) :
    Carga A { s with cargadores := s.cargadores.set i
                       { c with fase := .esperando id,
                                equipajesACargar := erase e₀ c.equipajesACargar } } := by
  refine h.cambia hi rfl rfl rfl rfl (by rintro ⟨⟩) (fun _ hm => hm) (fun _ hm _ => hm) h.cinta
    (fun _ _ _ => rfl) fun e => ?_
  cases h.avance i c hi e with
  | espera hequipajes hp hf haviso =>
    have he : e ≠ e₀ := by
      rintro rfl
      exact hf _ _ hfase
    exact .espera ((rango_erase_ne he _).trans hequipajes) hp (by rintro _ _ ⟨⟩) haviso
  | cargando hf hequipajes hp haviso =>
    rw [hfase] at hf
    cases hf
    rw [List.append_nil] at hp
    exact .cargado (rango_erase_self _ _) hp (by rintro _ _ ⟨⟩) haviso
  | cargado hequipajes hp hf haviso =>
    refine .cargado ?_ hp (by rintro _ _ ⟨⟩) haviso
    by_cases he : e = e₀
    · rw [he]
      exact rango_erase_self _ _
    · exact (rango_erase_ne he _).trans hequipajes

/-! ## Runs -/

structure Inv (A : Archivos ε) (s : Estado ε) : Prop where
  informa : Informa A s
  carga : Carga A s

theorem Inv.generador (hA : A.Valido) (h : Inv A s) (hpaso : pasoGenerador A s = some t) : Inv A t := by
  obtain ⟨hI, hC⟩ := h
  rw [pasoGenerador] at hpaso
  split at hpaso
  case h_1 hg =>
    split at hpaso <;> cases hpaso
    · exact ⟨hI.pausa hg, hC.igual rfl rfl rfl rfl rfl⟩
    · exact ⟨hI.llega hg, hC.igual rfl rfl rfl rfl rfl⟩
  case h_2 e hg =>
    cases hpaso
    exact ⟨hI.termina hg, hC.igual rfl rfl rfl rfl rfl⟩
  case h_3 e d ds hg =>
    obtain ⟨hpos, hcabe⟩ := hA _ ((hI.resto _ _ hg).2 d List.mem_cons_self)
    rw [if_pos hcabe] at hpaso
    split at hpaso
    case isTrue hd =>
      have hmsgsnd : msgsnd s.cola d [e] = .ok (s.cola ++ [⟨d, [e]⟩]) := by
        rw [msgsnd, if_neg (by omega)]
      rw [hmsgsnd] at hpaso
      cases hpaso
      exact ⟨hI.avisa hg hd, hC.avisa _⟩
    case isFalse hd =>
      cases hpaso
      exact ⟨hI.lanza, hC.lanza hI hd hpos⟩
  case h_4 => cases hpaso

theorem Inv.cargador (h : Inv A s) (hi : s.cargadores[i]? = some c)
    (hpaso : pasoCargador s i c = some t) : Inv A t := by
  obtain ⟨hI, hC⟩ := h
  rw [pasoCargador] at hpaso
  split at hpaso
  case h_1 id hfase =>
    split at hpaso
    case h_1 hnada =>
      cases hpaso
      exact ⟨hI.igual rfl rfl rfl rfl rfl, hC.acaba hi hfase hnada⟩
    case h_2 =>
      split at hpaso <;> cases hpaso
      rename_i hm
      exact ⟨hI.igual rfl rfl rfl rfl rfl, hC.recibe hi hfase hm⟩
  case h_2 hfase =>
    cases hpaso
    exact ⟨hI.igual rfl rfl rfl rfl rfl, hC.pone hi hfase⟩
  case h_3 hfase =>
    cases hpaso
    exact ⟨hI.igual rfl rfl rfl rfl rfl, hC.borra hi hfase⟩
  case h_4 => cases hpaso

theorem Inv.paso {ev : Evento} (hA : A.Valido) (h : Inv A s) (hpaso : paso A s ev = some t) :
    Inv A t := by
  cases ev with
  | generador => exact h.generador hA hpaso
  | zonaAsignada i id =>
    rw [Trasbordo.paso] at hpaso
    split at hpaso
    case h_2 => cases hpaso
    case h_1 c hi =>
      split at hpaso
      case h_2 => cases hpaso
      case h_1 hfase =>
        split at hpaso <;> cases hpaso
        exact ⟨h.informa.igual rfl rfl rfl rfl rfl, h.carga.asigna hi hfase id⟩
  | cargador i =>
    rw [Trasbordo.paso] at hpaso
    split at hpaso
    case h_1 c hi => exact h.cargador hi hpaso
    case h_2 => cases hpaso

theorem inv_alcanza (hA : A.Valido) {llegadas : List Int}
    (h : Alcanza (paso A) (inicial A llegadas) s) : Inv A s :=
  h.induccion ⟨Informa.inicial A llegadas, Carga.inicial A llegadas⟩ fun _ _ _ hinv hpaso =>
    hinv.paso hA hpaso

/-! ## What has been put -/

theorem Avance.empieza (h : Avance A s c e) : puestos s c.destino e <+: rango e (A.equipajes c.destino) := by
  cases h with
  | espera _ hp => rw [hp]; exact List.nil_prefix
  | cargando _ _ hp => rw [← hp]; exact List.prefix_append _ _
  | cargado _ hp => rw [hp]

theorem Inv.empieza (h : Inv A s) (d e : Int) : puestos s d e <+: rango e (A.equipajes d) := by
  by_cases haviso : (d, e) ∈ s.avisos
  · obtain ⟨c, hc, rfl⟩ := List.mem_map.mp ((h.carga.lanzados d).mp (h.informa.avisos _ haviso).1)
    obtain ⟨i, hi⟩ := List.mem_iff_getElem?.mp hc
    exact (h.carga.avance i c hi e).empieza
  · rw [puestos_eq_nil h.carga haviso]
    exact List.nil_prefix

/-- A loader ends when it has been told of every flight of its table. -/
theorem Inv.fin (h : Inv A s) (hc : c ∈ s.cargadores) (hfin : c.fase = .fin) :
    ∀ p ∈ A.equipajes c.destino, (c.destino, p.1) ∈ s.avisos := by
  intro p hp
  obtain ⟨i, hi⟩ := List.mem_iff_getElem?.mp hc
  have hnada := h.carga.fin c hc hfin
  cases h.carga.avance i c hi p.1 with
  | espera hequipajes =>
    have hv : p.2 ∈ rango p.1 (A.equipajes c.destino) := mem_rango.mpr hp
    rw [← hequipajes, hnada] at hv
    exact absurd hv List.not_mem_nil
  | cargando _ _ _ haviso => exact haviso
  | cargado _ _ _ haviso => exact haviso

/-! ## Where a run ends -/

def Generador.pasos : Generador → Nat
  | .leyendo => 1
  | .informando _ _ => 2
  | _ => 0

/-- The destinations of the notices that may still be sent. -/
def porAvisar (s : Estado ε) : List Int :=
  match s.generador with
  | .leyendo => s.vuelosInterconexion.map Prod.snd
  | .informando e resto => resto ++ (erase e s.vuelosInterconexion).map Prod.snd
  | _ => []

/-- A notice with its loader. -/
def costo (A : Archivos ε) (lanzados : List Int) (d : Int) : Nat :=
  4 + if d ∈ lanzados then 0 else 3 + (A.equipajes d).length

def Cargador.pasos (c : Cargador ε) : Nat :=
  match c.fase with
  | .zona => 2 + c.equipajesACargar.length
  | .esperando _ => 1 + c.equipajesACargar.length
  | .cargando _ e resto => 2 + (erase e c.equipajesACargar).length + resto.length
  | .fin => 0

def medida (A : Archivos ε) (s : Estado ε) : Nat :=
  2 * s.llegadas.length + s.generador.pasos + ((porAvisar s).map (costo A s.vuelosLanzados)).sum +
    3 * s.cola.length + (s.cargadores.map Cargador.pasos).sum

theorem medida_generador (h : pasoGenerador A s = some t) : medida A t < medida A s := by
  rw [pasoGenerador] at h
  split at h
  case h_1 hg =>
    split at h <;> cases h
    case h_1 =>
      simp only [medida, porAvisar, hg, Generador.pasos, List.map_nil, List.sum_nil]
      omega
    case h_2 e es hll =>
      have hreparte := sum_rango_add_erase (costo A s.vuelosLanzados) e s.vuelosInterconexion
      simp only [medida, porAvisar, hg, hll, Generador.pasos, List.map_append, List.sum_append,
        List.length_cons]
      omega
  case h_2 e hg =>
    cases h
    simp only [medida, porAvisar, hg, Generador.pasos, List.nil_append]
    omega
  case h_3 e d ds hg =>
    split at h
    case isTrue hd =>
      have hcosto : costo A s.vuelosLanzados d = 4 := by rw [costo, if_pos hd]
      split at h <;> cases h
      case h_1 cola hm =>
        have hlargo : cola.length = s.cola.length + 1 := msgsnd_length hm
        simp only [medida, porAvisar, hg, hlargo, Generador.pasos, List.cons_append, List.map_cons,
          List.sum_cons, hcosto]
        omega
      case h_2 =>
        simp only [medida, porAvisar, hg, Generador.pasos, List.map_nil, List.sum_nil]
        omega
    case isFalse hd =>
      have hcosto : costo A s.vuelosLanzados d = 7 + (A.equipajes d).length := by
        rw [costo, if_neg hd]
        omega
      split at h <;> cases h
      · have hcosto' : costo A (d :: s.vuelosLanzados) d = 4 := by
          rw [costo, if_pos List.mem_cons_self]
        have hbaja : ∀ x, costo A (d :: s.vuelosLanzados) x ≤ costo A s.vuelosLanzados x := by
          intro x
          rw [costo, costo]
          split
          · omega
          · rename_i hx
            rw [if_neg fun hs => hx (List.mem_cons_of_mem _ hs)]
        have hresto := List.sum_le_sum fun x
          (_ : x ∈ ds ++ (erase e s.vuelosInterconexion).map Prod.snd) => hbaja x
        simp only [medida, porAvisar, hg, Generador.pasos, List.cons_append, List.map_cons, List.sum_cons,
          hcosto, hcosto', List.map_append, List.sum_append, List.map_nil, List.sum_nil,
          Cargador.pasos] at hresto ⊢
        omega
      · simp only [medida, porAvisar, hg, Generador.pasos, List.map_nil, List.sum_nil]
        omega
  case h_4 => cases h

/-- A step of one loader pays for what it changes. -/
theorem medida_set (hi : s.cargadores[i]? = some c) (hcs : t.cargadores = s.cargadores.set i c')
    (hll : t.llegadas = s.llegadas) (hg : t.generador = s.generador)
    (hv : t.vuelosInterconexion = s.vuelosInterconexion) (hl : t.vuelosLanzados = s.vuelosLanzados)
    (hpasos : 3 * t.cola.length + c'.pasos < 3 * s.cola.length + c.pasos) : medida A t < medida A s := by
  have hsuma := Sumas.suma_set Cargador.pasos c' hi
  have havisar : porAvisar t = porAvisar s := by rw [porAvisar, porAvisar, hg, hv]
  rw [medida, medida, hcs, hll, hg, hl, havisar]
  omega

theorem medida_cargador (hi : s.cargadores[i]? = some c) (h : pasoCargador s i c = some t) :
    medida A t < medida A s := by
  rw [pasoCargador] at h
  split at h
  case h_1 id hfase =>
    split at h
    case h_1 hnada =>
      cases h
      refine medida_set hi rfl rfl rfl rfl rfl ?_
      simp only [Cargador.pasos, hfase]
      omega
    case h_2 =>
      split at h <;> cases h
      rename_i m cola hm
      have hlargo : s.cola.length = cola.length + 1 := msgrcv_length_succ hm
      refine medida_set hi rfl rfl rfl rfl rfl ?_
      have hreparte := length_rango_add_erase (m.texto.headD 0) c.equipajesACargar
      simp only [Cargador.pasos, hfase, hlargo]
      omega
  case h_2 id e b bs hfase =>
    cases h
    refine medida_set hi rfl rfl rfl rfl rfl ?_
    simp only [Cargador.pasos, hfase, List.length_cons]
    omega
  case h_3 id e hfase =>
    cases h
    refine medida_set hi rfl rfl rfl rfl rfl ?_
    simp only [Cargador.pasos, hfase, List.length_nil]
    omega
  case h_4 => cases h

theorem medida_paso {ev : Evento} (h : paso A s ev = some t) : medida A t < medida A s := by
  cases ev with
  | generador => exact medida_generador h
  | zonaAsignada i id =>
    rw [paso] at h
    split at h
    case h_2 => cases h
    case h_1 c hi =>
      split at h
      case h_2 => cases h
      case h_1 hfase =>
        split at h <;> cases h
        refine medida_set hi rfl rfl rfl rfl rfl ?_
        simp only [Cargador.pasos, hfase]
        omega
  | cargador i =>
    rw [paso] at h
    split at h
    case h_1 c hi => exact medida_cargador hi h
    case h_2 => cases h

theorem exists_final (A : Archivos ε) (s : Estado ε) :
    ∃ t, Alcanza (paso A) s t ∧ Bloqueado (paso A) t :=
  exists_bloqueado (fun _ _ _ h => medida_paso h) s

/-- What has been read of the file of arrivals. -/
def Leido (llegadas : List Int) (s : Estado ε) : Prop :=
  s.llegaron ++ s.llegadas = llegadas ∧ (s.generador = .pausa → s.llegadas = [])

theorem Leido.igual {llegadas : List Int} (h : Leido llegadas s) (hl : t.llegaron = s.llegaron)
    (hll : t.llegadas = s.llegadas) (hg : t.generador = .pausa → s.generador = .pausa) :
    Leido llegadas t := by
  rw [Leido, hl, hll]
  exact ⟨h.1, fun ht => h.2 (hg ht)⟩

theorem Leido.paso {llegadas : List Int} {ev : Evento} (h : Leido llegadas s)
    (hpaso : paso A s ev = some t) : Leido llegadas t := by
  cases ev with
  | generador =>
    change pasoGenerador A s = some t at hpaso
    rw [pasoGenerador] at hpaso
    split at hpaso
    case h_1 hg =>
      split at hpaso <;> cases hpaso
      case h_1 hnada => exact ⟨h.1, fun _ => hnada⟩
      case h_2 e es hll =>
        refine ⟨?_, by rintro ⟨⟩⟩
        rw [List.append_assoc, List.singleton_append, ← hll]
        exact h.1
    case h_2 =>
      cases hpaso
      exact h.igual rfl rfl (by rintro ⟨⟩)
    case h_3 hg =>
      split at hpaso
      · split at hpaso <;> cases hpaso <;> exact h.igual rfl rfl (by rintro ⟨⟩)
      · split at hpaso <;> cases hpaso
        · exact h.igual rfl rfl id
        · exact h.igual rfl rfl (by rintro ⟨⟩)
    case h_4 => cases hpaso
  | zonaAsignada i id =>
    rw [Trasbordo.paso] at hpaso
    split at hpaso
    case h_2 => cases hpaso
    case h_1 =>
      split at hpaso
      case h_2 => cases hpaso
      case h_1 =>
        split at hpaso <;> cases hpaso
        exact h.igual rfl rfl fun hg => hg
  | cargador i =>
    rw [Trasbordo.paso] at hpaso
    split at hpaso
    case h_2 => cases hpaso
    case h_1 =>
      rw [pasoCargador] at hpaso
      split at hpaso
      case h_1 =>
        split at hpaso
        · cases hpaso
          exact h.igual rfl rfl fun hg => hg
        · split at hpaso <;> cases hpaso
          exact h.igual rfl rfl fun hg => hg
      case h_2 | h_3 =>
        cases hpaso
        exact h.igual rfl rfl fun hg => hg
      case h_4 => cases hpaso

theorem leido_alcanza {llegadas : List Int} (h : Alcanza (paso A) (inicial A llegadas) s) :
    Leido llegadas s :=
  h.induccion (I := Leido llegadas) ⟨rfl, by rintro ⟨⟩⟩ fun _ _ _ hinv hpaso => hinv.paso hpaso

/-- The generator has told of all the connections of all the flights. -/
theorem Inv.generador_bloqueado (h : Inv A s) {llegadas : List Int} (hll : Leido llegadas s)
    (hfin : Bloqueado (Trasbordo.paso A) s) :
    s.llegaron = llegadas ∧ ∀ p ∈ A.interconexion, p.1 ∈ s.llegaron → (p.2, p.1) ∈ s.avisos := by
  have hquieto : pasoGenerador A s = none := hfin .generador
  have hpausa : s.generador = .pausa := by
    rw [pasoGenerador] at hquieto
    cases hg : s.generador with
    | leyendo =>
      rw [hg] at hquieto
      dsimp only at hquieto
      split at hquieto <;> cases hquieto
    | informando e resto =>
      rw [hg] at hquieto
      cases resto with
      | nil => cases hquieto
      | cons d ds =>
        dsimp only at hquieto
        split at hquieto
        · split at hquieto <;> cases hquieto
        · split at hquieto <;> cases hquieto
    | pausa => rfl
    | excepcion => exact absurd hg h.informa.vivo.1
    | fuera => exact absurd hg h.informa.vivo.2
  refine ⟨?_, fun p hp hllego => ?_⟩
  · have hleido := hll.1
    rw [hll.2 hpausa, List.append_nil] at hleido
    exact hleido
  · rcases h.informa.avisado p hp hllego with hcurso | haviso
    · rw [hpausa] at hcurso
      exact absurd hcurso List.not_mem_nil
    · exact haviso

/-- A loader that cannot go on has ended or waits for a notice that is not in the queue. -/
theorem Inv.cargador_bloqueado (h : Inv A s) (hi : s.cargadores[i]? = some c)
    (hfin : Bloqueado (Trasbordo.paso A) s) :
    c.fase = .fin ∨ (∃ id, c.fase = .esperando id) ∧ ∀ e, ⟨c.destino, [e]⟩ ∉ s.cola := by
  have hzona := hfin (.zonaAsignada i 1)
  have hquieto := hfin (.cargador i)
  simp only [Trasbordo.paso, hi] at hzona hquieto
  rw [pasoCargador] at hquieto
  cases hfase : c.fase with
  | zona =>
    rw [hfase] at hzona
    cases hzona
  | fin => exact .inl rfl
  | cargando id e resto =>
    rw [hfase] at hquieto
    cases resto <;> cases hquieto
  | esperando id =>
    refine .inr ⟨⟨id, rfl⟩, fun e he => ?_⟩
    rw [hfase] at hquieto
    dsimp only at hquieto
    split at hquieto
    · cases hquieto
    · have hcabe : ∀ m ∈ s.cola, m.texto.length ≤ 1 := by
        intro m hm
        obtain ⟨e', htexto, -⟩ := h.carga.cola m hm
        rw [htexto]
        exact Nat.le_refl 1
      obtain ⟨⟨m, cola⟩, hm⟩ :=
        msgrcv_listo (h.carga.positivos c (List.mem_of_getElem? hi)) ⟨_, he, rfl⟩ hcabe
      rw [hm] at hquieto
      cases hquieto

/-- The bags of the flights that a blocked loader has been told of have been put. -/
theorem Inv.avance_bloqueado (h : Inv A s) (hi : s.cargadores[i]? = some c)
    (hfin : Bloqueado (Trasbordo.paso A) s) (haviso : (c.destino, e) ∈ s.avisos) :
    rango e c.equipajesACargar = [] ∧ puestos s c.destino e = rango e (A.equipajes c.destino) := by
  have hbloq := h.cargador_bloqueado hi hfin
  cases h.carga.avance i c hi e with
  | espera hequipajes hp _ hcola =>
    rcases hbloq with hf | ⟨-, hno⟩
    · have hnada : rango e c.equipajesACargar = [] := by
        rw [h.carga.fin c (List.mem_of_getElem? hi) hf, rango_nil]
      refine ⟨hnada, ?_⟩
      rw [hp, ← hequipajes, hnada]
    · exact absurd (hcola haviso) (hno e)
  | cargando hf =>
    rcases hbloq with hf' | ⟨⟨id, hf'⟩, -⟩ <;> rw [hf] at hf' <;> cases hf'
  | cargado hequipajes hp => exact ⟨hequipajes, hp⟩

/-- When nobody can go on, each bag of a flight that arrived has been put, and the loaders that have ended
    are those that have been told of every flight of their table. -/
theorem Inv.completo (hC : A.Conectado) (h : Inv A s) {llegadas : List Int} (hll : Leido llegadas s)
    (hfin : Bloqueado (Trasbordo.paso A) s) :
    s.llegaron = llegadas ∧ (∀ d, ∀ e ∈ llegadas, puestos s d e = rango e (A.equipajes d)) ∧
      ∀ c ∈ s.cargadores,
        (c.fase = .fin ↔ ∀ p ∈ A.equipajes c.destino, (c.destino, p.1) ∈ s.avisos) := by
  obtain ⟨hllego, havisado⟩ := h.generador_bloqueado hll hfin
  refine ⟨hllego, fun d e he => ?_, fun c hc => ⟨fun hf => h.fin hc hf, fun htodos => ?_⟩⟩
  · have hempieza := h.empieza d e
    cases hbags : rango e (A.equipajes d) with
    | nil =>
      rw [hbags] at hempieza
      exact List.prefix_nil.mp hempieza
    | cons b bs =>
      have hb : (e, b) ∈ A.equipajes d := mem_rango.mp (by rw [hbags]; exact List.mem_cons_self)
      have haviso := havisado (e, d) (hC d _ hb) (by rw [hllego]; exact he)
      obtain ⟨c, hc, rfl⟩ := List.mem_map.mp ((h.carga.lanzados d).mp (h.informa.avisos _ haviso).1)
      obtain ⟨i, hi⟩ := List.mem_iff_getElem?.mp hc
      rw [← hbags]
      exact (h.avance_bloqueado hi hfin haviso).2
  · obtain ⟨i, hi⟩ := List.mem_iff_getElem?.mp hc
    rcases h.cargador_bloqueado hi hfin with hf | ⟨⟨id, hf⟩, -⟩
    · exact hf
    · -- its table is empty, and it would go on
      have hvacia : c.equipajesACargar = [] := by
        refine eq_nil_of_rango fun p hp => ?_
        by_cases haviso : (c.destino, p.1) ∈ s.avisos
        · exact (h.avance_bloqueado hi hfin haviso).1
        · cases h.carga.avance i c hi p.1 with
          | espera hequipajes =>
            have hv : p.2 ∈ rango p.1 c.equipajesACargar := mem_rango.mpr hp
            rw [hequipajes] at hv
            exact absurd (htodos _ (mem_rango.mp hv)) haviso
          | cargando _ _ _ hs => exact absurd hs haviso
          | cargado hequipajes => exact hequipajes
      have hquieto := hfin (.cargador i)
      simp only [Trasbordo.paso, hi] at hquieto
      rw [pasoCargador, hf, hvacia] at hquieto
      cases hquieto

/-- In every run the loaders are launched once and before their notices, no bag is put twice or before its
    flight arrives, and a loader that has ended has been told of every flight of its table; every run can be
    completed, and then each bag of the flights that arrived has been put once. -/
theorem equipaje_trasbordado (A : Archivos ε) (hA : A.Valido) (hC : A.Conectado) (llegadas : List Int)
    (h : Alcanza (paso A) (inicial A llegadas) s) :
    (s.cargadores.map Cargador.destino).Nodup ∧
    (∀ p ∈ s.avisos, p.1 ∈ s.cargadores.map Cargador.destino) ∧
    (∀ d e, puestos s d e <+: rango e (A.equipajes d)) ∧ (∀ x ∈ s.cinta, x.origen ∈ s.llegaron) ∧
    (∀ c ∈ s.cargadores, c.fase = .fin →
      ∀ p ∈ A.equipajes c.destino, (c.destino, p.1) ∈ s.avisos) ∧
    (∃ t, Alcanza (paso A) s t ∧ Bloqueado (paso A) t) ∧
    (Bloqueado (paso A) s →
      s.llegaron = llegadas ∧ (∀ d, ∀ e ∈ llegadas, puestos s d e = rango e (A.equipajes d)) ∧
        ∀ c ∈ s.cargadores,
          (c.fase = .fin ↔ ∀ p ∈ A.equipajes c.destino, (c.destino, p.1) ∈ s.avisos)) := by
  have hinv := inv_alcanza hA h
  refine ⟨hinv.carga.nodup, fun p hp => ?_, hinv.empieza, fun x hx => ?_, fun c hc hf => hinv.fin hc hf,
    exists_final A s, fun hfin => hinv.completo hC (leido_alcanza h) hfin⟩
  · exact (hinv.carga.lanzados _).mp (hinv.informa.avisos p hp).1
  · exact (hinv.informa.avisos _ (hinv.carga.cinta x hx)).2

/-- Flight 5 has bags to two destinations, and flight 6 one to the second. -/
def tresConexiones : Archivos Nat where
  interconexion := [(5, 3), (5, 4), (6, 4)]
  equipajes := fun d => if d = 3 then [(5, 7)] else if d = 4 then [(5, 8), (6, 9), (5, 10)] else []

theorem tresConexiones_conectado : tresConexiones.Conectado := by
  intro d p hp
  change p ∈ (if d = 3 then [(5, 7)] else if d = 4 then [(5, 8), (6, 9), (5, 10)] else []) at hp
  split at hp
  case isTrue hd =>
    subst hd
    revert p
    decide
  case isFalse =>
    split at hp
    case isTrue hd =>
      subst hd
      revert p
      decide
    case isFalse => exact absurd hp List.not_mem_nil

/-- Flight 5 arrives twice. -/
theorem equipajes_puestos :
    ∃ s, Alcanza (paso tresConexiones) (inicial tresConexiones [5, 6, 5]) s ∧
      Bloqueado (paso tresConexiones) s ∧ puestos s 3 5 = [7] ∧ puestos s 4 5 = [8, 10] ∧
      puestos s 4 6 = [9] := by
  have hA : tresConexiones.Valido := by
    unfold Archivos.Valido
    decide
  have hinicio : Alcanza (paso tresConexiones) (inicial tresConexiones [5, 6, 5]) _ := Alcanza.refl _
  obtain ⟨t, ht, hfin⟩ :=
    (equipaje_trasbordado _ hA tresConexiones_conectado [5, 6, 5] hinicio).2.2.2.2.2.1
  have hpuestos :=
    ((equipaje_trasbordado _ hA tresConexiones_conectado [5, 6, 5] ht).2.2.2.2.2.2 hfin).2.1
  exact ⟨t, ht, hfin, hpuestos 3 5 (by decide), hpuestos 4 5 (by decide), hpuestos 4 6 (by decide)⟩

/-- A bag of the flight 5 to one destination. -/
def unaConexion (destino : Int) : Archivos Nat where
  interconexion := [(5, destino)]
  equipajes := fun d => if d = destino then [(5, 7)] else []

theorem unaConexion_conectado (destino : Int) : (unaConexion destino).Conectado := by
  intro d p hp
  change p ∈ (if d = destino then [(5, 7)] else []) at hp
  split at hp
  case isTrue hd =>
    rw [List.mem_singleton.mp hp, hd]
    exact List.mem_singleton_self _
  case isFalse => exact absurd hp List.not_mem_nil

/-- No message has type 0: the generator ends with an exception, and the loader waits for ever.  And the text
    of a number of ten digits does not fit in `id_vuelo_destino`: no loader is launched. -/
theorem destinos_sin_equipaje :
    ((unaConexion 0).Conectado ∧
      ∃ s, Alcanza (paso (unaConexion 0)) (inicial (unaConexion 0) [5]) s ∧
        Bloqueado (paso (unaConexion 0)) s ∧ s.llegaron = [5] ∧
        puestos s 0 5 ≠ rango 5 ((unaConexion 0).equipajes 0)) ∧
    (unaConexion (10 ^ 9)).Conectado ∧
      ∃ s, Alcanza (paso (unaConexion (10 ^ 9))) (inicial (unaConexion (10 ^ 9)) [5]) s ∧
        Bloqueado (paso (unaConexion (10 ^ 9))) s ∧ s.generador = .fuera ∧ s.llegaron = [5] ∧
        puestos s (10 ^ 9) 5 ≠ rango 5 ((unaConexion (10 ^ 9)).equipajes (10 ^ 9)) := by
  refine ⟨⟨unaConexion_conectado 0,
    ⟨.excepcion, [(5, 0)], [0], [], [5], [⟨0, .esperando 1, [(5, 7)]⟩], [], [], []⟩,
    ⟨[.generador, .generador, .generador, .zonaAsignada 0 1], rfl⟩, ?_, rfl, by decide⟩,
    unaConexion_conectado _, ⟨.fuera, [(5, 10 ^ 9)], [], [], [5], [], [], [], []⟩,
    ⟨[.generador, .generador], rfl⟩, ?_, rfl, rfl, by decide⟩
  · rintro (_ | ⟨i, id⟩ | i)
    · rfl
    · cases i <;> rfl
    · cases i <;> rfl
  · rintro (_ | ⟨i, id⟩ | i) <;> rfl

end Trasbordo
