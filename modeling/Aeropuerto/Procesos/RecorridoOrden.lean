import Aeropuerto.Procesos.RecorridoSegura

/-!
# No bag overtakes another

The bags that one producer brings to the central belt reach the container belt of a zone in that order,
except for those that go through the control, when only one robot of despacho has the zone.  Before that
the bags of one scanner keep the order of the check-in belt, and those of the robot of intercargo the
order of arrival.
-/

/-! ## Increasing positions -/

/-- What a list has at increasing positions is in its order. -/
theorem List.filterMap_getElem?_sublist {α : Type*} {l : List α} {ks : List Nat}
    (h : ks.Pairwise (· < ·)) : (ks.filterMap fun k => l[k]?).Sublist l := by
  induction l generalizing ks with
  | nil =>
    have hnil : (ks.filterMap fun k => ([] : List α)[k]?) = [] := by simp
    rw [hnil]
  | cons a l ih =>
    -- the positions after the first one, seen from the tail
    have hcola : ∀ {ms : List Nat}, (∀ m ∈ ms, 0 < m) → ms.Pairwise (· < ·) →
        (ms.filterMap fun k => (a :: l)[k]?).Sublist l := by
      intro ms hpos hms
      have hpred : (ms.map (· - 1)).Pairwise (· < ·) := by
        rw [List.pairwise_map]
        exact hms.imp_of_mem fun hm hn hlt => by
          have := hpos _ hm
          omega
      have heq : (ms.filterMap fun k => (a :: l)[k]?) = (ms.map (· - 1)).filterMap fun k => l[k]? := by
        rw [List.filterMap_map]
        refine List.filterMap_congr fun m hm => ?_
        obtain ⟨m, rfl⟩ := Nat.exists_eq_add_of_lt (hpos m hm)
        simp
      rw [heq]
      exact ih hpred
    cases ks with
    | nil => exact List.nil_sublist _
    | cons k ks =>
      rw [List.pairwise_cons] at h
      have hpos : ∀ m ∈ ks, 0 < m := fun m hm => Nat.lt_of_le_of_lt (Nat.zero_le k) (h.1 m hm)
      cases k with
      | zero => exact (hcola hpos h.2).cons_cons a
      | succ k =>
        have hpos' : ∀ m ∈ (k + 1) :: ks, 0 < m := by
          intro m hm
          rcases List.mem_cons.mp hm with rfl | hm
          · exact Nat.succ_pos k
          · exact hpos m hm
        exact (hcola hpos' (List.pairwise_cons.mpr h)).cons a

namespace Despacho

open Ejecucion

variable {P : Parametros} {s t : Estado} {ev : Evento} {i j : Nat} {v : Valija} {z : Int}

/-! ## What a step of the central belt moves -/

/-- A step that brings no bag, as far as the bags between their producer and the container belts are
    concerned: it moves none, the control takes up one that it has cleared, one goes to the end of the
    central belt, a robot takes the first one of the belt or puts what it has on a container belt, the
    robot of control takes the first one. -/
inductive Avance (P : Parametros) (s t : Estado) : Prop where
  | quieto (hcont : t.contenedor = s.contenedor)
      (hdesp : ∀ j, t.en (.despachante j) = s.en (.despachante j))
      (hcentral : t.en .central = s.en .central)
      (hprod : ∀ i, t.en (.productor i) = s.en (.productor i))
  | devuelve (v : Valija) (hcont : t.contenedor = s.contenedor)
      (hdesp : ∀ j, t.en (.despachante j) = s.en (.despachante j))
      (hcentral : t.en .central = s.en .central)
      (hdespues : t.en (.productor P.productorControl) = [v.limpiar])
      (hprod : ∀ i, i ≠ P.productorControl → t.en (.productor i) = s.en (.productor i))
  | sube (i : Nat) (v : Valija) (hcont : t.contenedor = s.contenedor)
      (hdesp : ∀ j, t.en (.despachante j) = s.en (.despachante j))
      (hantes : s.en (.productor i) = [v]) (hdespues : t.en (.productor i) = [])
      (hprod : ∀ l, l ≠ i → t.en (.productor l) = s.en (.productor l))
      (hcentral : t.en .central = s.en .central ++ [v])
  | extrae (j : Nat) (v : Valija) (hcont : t.contenedor = s.contenedor)
      (hantes : s.en (.despachante j) = [])
      (hdespues : t.en (.despachante j) = [v.anotar (.extraido j)])
      (hdesp : ∀ m, m ≠ j → t.en (.despachante m) = s.en (.despachante m))
      (hcentral : s.en .central = v :: t.en .central)
      (hprod : ∀ i, t.en (.productor i) = s.en (.productor i))
  | coloca (j : Nat) (v : Valija) (z : Int) (hj : j < P.despachantes) (hdesde : P.zonaDesde j ≤ z)
      (hhasta : z ≤ P.zonaHasta j)
      (hcont : t.contenedor =
        Function.update s.contenedor z (s.contenedor z ++ [v.anotar (.colocado z)]))
      (hantes : s.en (.despachante j) = [v]) (hdespues : t.en (.despachante j) = [])
      (hdesp : ∀ m, m ≠ j → t.en (.despachante m) = s.en (.despachante m))
      (hcentral : t.en .central = s.en .central)
      (hprod : ∀ i, t.en (.productor i) = s.en (.productor i))
  | aparta (v : Valija) (hcont : t.contenedor = s.contenedor)
      (hdesp : ∀ j, t.en (.despachante j) = s.en (.despachante j))
      (hcentral : s.en .central = v :: t.en .central)
      (hprod : ∀ i, t.en (.productor i) = s.en (.productor i))

theorem manos_irDespachante {cinta : CintaPrincipal.Estado Valija} {d : Despachante}
    (hd : d.pc.manos = (s.despachante j).pc.manos) (m : Nat) :
    ({ s with cinta := cinta }.irDespachante j d).en (.despachante m) = s.en (.despachante m) := by
  change (Function.update s.despachante j d m).pc.manos = (s.despachante m).pc.manos
  by_cases hm : m = j
  · rw [hm, Function.update_self, hd]
  · rw [Function.update_of_ne hm]

theorem avance_despacho (hi : Inv P s) (hj : j < P.despachantes) (hs : pasoDespacho P s j z = some t) :
    Avance P s t := by
  unfold pasoDespacho at hs
  cases hpc : (s.despachante j).pc with
  | lee =>
    simp only [hpc] at hs
    split at hs
    · obtain ⟨cinta, hc, rfl⟩ := Option.map_eq_some_iff.mp hs
      obtain rfl := CintaPrincipal.leerElemento_eq_some hc
      exact .quieto rfl (manos_irDespachante (by rw [hpc]; rfl)) rfl fun _ => rfl
    · obtain ⟨cinta, hc, rfl⟩ := Option.map_eq_some_iff.mp hs
      obtain ⟨hanillo, hprod, -⟩ := CintaPrincipal.avanzarCinta_eq_some hc
      exact .quieto rfl (manos_irDespachante (by rw [hpc])) (congrArg Anillo.contenido hanillo)
        fun i => congrArg (fun f => (f i).manos) hprod
  | leyendo =>
    simp only [hpc] at hs
    split at hs <;> cases hs
    exact .quieto rfl (manos_irDespachante (by rw [hpc]; rfl)) rfl fun _ => rfl
  | consulta =>
    simp only [hpc] at hs
    cases hs
    refine .quieto rfl (manos_irDespachante ?_) rfl fun _ => rfl
    rw [hpc]
    exact decidir_manos _ _
  | avanza =>
    simp only [hpc] at hs
    split at hs
    · cases hs
      exact .quieto rfl (manos_irDespachante (by rw [hpc]; rfl)) rfl fun _ => rfl
    · obtain ⟨cinta, hc, rfl⟩ := Option.map_eq_some_iff.mp hs
      obtain ⟨hanillo, hprod, -⟩ := CintaPrincipal.avanzarCinta_eq_some hc
      exact .quieto rfl (manos_irDespachante (by rw [hpc]; rfl)) (congrArg Anillo.contenido hanillo)
        fun i => congrArg (fun f => (f i).manos) hprod
  | extrae zona =>
    simp only [hpc] at hs
    obtain ⟨cinta, hc, rfl⟩ := Option.map_eq_some_iff.mp hs
    obtain ⟨v, hv, hcont, hprod, -⟩ := CintaPrincipal.extraerElemento_eq_some hi.cinta hc
    -- the robot has the turn, so the front is still what it has read
    have hultimo := (hi.despachante j hj).leido (by rw [hpc]; rfl)
    rw [hv] at hultimo
    cases hultimo
    refine .extrae j _ rfl (by change (s.despachante j).pc.manos = []; rw [hpc]; rfl) ?_ (fun m hm => ?_)
      hcont fun i => congrArg (fun f => (f i).manos) hprod
    · change (Function.update s.despachante j _ j).pc.manos = _
      rw [Function.update_self]
      rfl
    · change (Function.update s.despachante j _ m).pc.manos = _
      rw [Function.update_of_ne hm]
      rfl
  | coloca v zona =>
    simp only [hpc] at hs
    obtain ⟨-, hdesde, hhasta, -⟩ := (hi.despachante j hj).coloca v zona hpc
    rw [cintasContenedor_getElem? hdesde hhasta] at hs
    cases hs
    refine .coloca j v zona hj hdesde hhasta rfl (by change (s.despachante j).pc.manos = _; rw [hpc]; rfl)
      ?_ (fun m hm => ?_) rfl fun _ => rfl
    · change (Function.update s.despachante j _ j).pc.manos = _
      rw [Function.update_self]
      rfl
    · change (Function.update s.despachante j _ m).pc.manos = _
      rw [Function.update_of_ne hm]
      rfl

theorem avance_robotControl (hi : Inv P s) (hs : pasoRobotControl P s z = some t) : Avance P s t := by
  unfold pasoRobotControl at hs
  cases hpc : s.robotControl with
  | lee =>
    simp only [hpc] at hs
    obtain ⟨cinta, hc, rfl⟩ := Option.map_eq_some_iff.mp hs
    obtain rfl := CintaPrincipal.leerElemento_eq_some hc
    exact .quieto rfl (fun _ => rfl) rfl fun _ => rfl
  | leyendo =>
    simp only [hpc] at hs
    split at hs <;> cases hs
    exact .quieto rfl (fun _ => rfl) rfl fun _ => rfl
  | extrae v =>
    simp only [hpc] at hs
    obtain ⟨cinta, hc, rfl⟩ := Option.map_eq_some_iff.mp hs
    obtain ⟨v, -, hcont, hprod, -⟩ := CintaPrincipal.extraerElemento_eq_some hi.cinta hc
    exact .aparta v rfl (fun _ => rfl) hcont fun i => congrArg (fun f => (f i).manos) hprod
  | consulta v =>
    simp only [hpc] at hs
    split at hs <;> cases hs <;> exact .quieto rfl (fun _ => rfl) rfl fun _ => rfl
  | envia v =>
    simp only [hpc] at hs
    cases hs
    exact .quieto rfl (fun _ => rfl) rfl fun _ => rfl

theorem avance_control (hs : pasoControl P s = some t) : Avance P s t := by
  unfold pasoControl at hs
  cases hpc : s.control with
  | recibe =>
    simp only [hpc] at hs
    split at hs <;> cases hs
    exact .quieto rfl (fun _ => rfl) rfl fun _ => rfl
  | limpia v =>
    simp only [hpc] at hs
    obtain ⟨cinta, hc, rfl⟩ := Option.map_eq_some_iff.mp hs
    obtain ⟨-, hdespues, hotros, hcomp, -⟩ := manos_colocarElemento hc
    refine .devuelve v rfl (fun _ => rfl) ?_ hdespues
      fun i hne => congrArg CintaPrincipal.PcProductor.manos (hotros i hne)
    change cinta.compartido.anillo.contenido = s.cinta.compartido.anillo.contenido
    rw [hcomp]
  | coloca =>
    simp only [hpc] at hs
    split at hs <;> cases hs
    exact .quieto rfl (fun _ => rfl) rfl fun _ => rfl

theorem avance_paso (hi : Inv P s) (hev : ∀ i e, ev ≠ .pone i e) (hs : paso P s ev = some t) :
    Avance P s t := by
  cases ev with
  | cinta ev =>
    simp only [paso] at hs
    split at hs
    · obtain ⟨cinta, hc, rfl⟩ := Option.map_eq_some_iff.mp hs
      rcases CintaPrincipal.interno_cases hi.cinta ‹_› hc with ⟨hcont, hprod⟩ |
        ⟨i, v, hantes, hdespues, hotros, hcont⟩
      · exact .quieto rfl (fun _ => rfl) hcont hprod
      · exact .sube i v rfl (fun _ => rfl) hantes hdespues
          (fun l hl => congrArg CintaPrincipal.PcProductor.manos (hotros l hl)) hcont
    · cases hs
  | pone i e => exact absurd rfl (hev i e)
  | despacho j z =>
    simp only [paso] at hs
    split at hs
    · exact avance_despacho hi ‹_› hs
    · cases hs
  | robotControl z => exact avance_robotControl hi hs
  | control => exact avance_control hs

/-! ## The line of one producer to one zone -/

/-- The control has not had the bag. -/
def Valija.directa (v : Valija) : Bool := decide (.controlado ∉ v.camino)

/-- The numbers of the bags that the control has not had and whose number is one of `q`. -/
def numerosDe (q : Nat → Bool) (vs : List Valija) : List Nat :=
  (vs.filter fun v => v.directa && q v.numero).map Valija.numero

/-- From the container belt of zone `z` back to producer `i`, through the hands of robot `j`. -/
def Estado.fila (s : Estado) (i j : Nat) (z : Int) : List Valija :=
  s.en (.contenedor z) ++ (s.en (.despachante j) ++ (s.en .central ++ s.en (.productor i)))

variable {q : Nat → Bool}

@[simp] theorem numerosDe_nil (q : Nat → Bool) : numerosDe q [] = [] := rfl

@[simp] theorem numerosDe_append (vs ws : List Valija) :
    numerosDe q (vs ++ ws) = numerosDe q vs ++ numerosDe q ws := by
  simp [numerosDe]

theorem numerosDe_cons (v : Valija) (vs : List Valija) :
    numerosDe q (v :: vs) = numerosDe q [v] ++ numerosDe q vs :=
  numerosDe_append [v] vs

theorem numerosDe_anotar {x : Suceso} (hx : x ≠ .controlado) (v : Valija) :
    numerosDe q [v.anotar x] = numerosDe q [v] := by
  have hdirecta : (v.anotar x).directa = v.directa := by
    unfold Valija.directa
    rw [camino_anotar]
    simp [hx.symm]
  simp only [numerosDe, List.filter_cons, List.filter_nil, hdirecta, numero_anotar]
  split <;> rfl

theorem numerosDe_subset {vs : List Valija} {n : Nat} (h : n ∈ numerosDe q vs) :
    q n = true ∧ ∃ v ∈ vs, v.numero = n := by
  obtain ⟨v, hv, rfl⟩ := List.mem_map.mp h
  obtain ⟨hmem, hcond⟩ := List.mem_filter.mp hv
  rw [Bool.and_eq_true] at hcond
  exact ⟨hcond.2, v, hmem, rfl⟩

/-- A step that brings no bag lets no bag of the line overtake another: what producer `i` brings are the
    numbers of `q`, which no other producer has in its hands. -/
theorem fila_avance (h : Avance P s t) (hi : i ≠ P.productorControl)
    (hunico : ∀ m < P.despachantes, P.zonaDesde m ≤ z → z ≤ P.zonaHasta m → m = j)
    (hotros : ∀ l, l ≠ i → numerosDe q (s.en (.productor l)) = []) :
    (numerosDe q (t.fila i j z)).Sublist (numerosDe q (s.fila i j z)) := by
  have hcontenedor : ∀ {u : Estado}, u.contenedor = s.contenedor →
      u.en (.contenedor z) = s.en (.contenedor z) := fun hu => congrFun hu z
  simp only [Estado.fila, numerosDe_append]
  cases h with
  | quieto hcont hdesp hcentral hprod =>
    rw [hcontenedor hcont, hdesp, hcentral, hprod]
  | devuelve v hcont hdesp hcentral hdespues hprod =>
    rw [hcontenedor hcont, hdesp, hcentral, hprod i hi]
  | sube l v hcont hdesp hantes hdespues hprod hcentral =>
    rw [hcontenedor hcont, hdesp, hcentral, numerosDe_append]
    by_cases hl : l = i
    · rw [← hl, hantes, hdespues, numerosDe_nil, List.append_nil]
    · have hnada := hotros l hl
      rw [hantes] at hnada
      rw [hnada, List.append_nil, hprod i fun h => hl h.symm]
  | extrae m v hcont hantes hdespues hdesp hcentral hprod =>
    rw [hcontenedor hcont, hprod, hcentral, numerosDe_cons]
    by_cases hm : m = j
    · -- from the front of the belt to the hands before it
      rw [← hm, hantes, hdespues, numerosDe_anotar (x := .extraido m) nofun, numerosDe_nil, List.nil_append,
        List.append_assoc]
    · rw [hdesp j fun h => hm h.symm]
      exact ((List.Sublist.refl _).append ((List.Sublist.refl _).append
        ((List.sublist_append_right _ _).append (List.Sublist.refl _))))
  | coloca m v z' hj hdesde hhasta hcont hantes hdespues hdesp hcentral hprod =>
    rw [hprod, hcentral]
    by_cases hz : z' = z
    · -- only robot `j` puts on this container belt
      subst hz
      obtain rfl := hunico m hj hdesde hhasta
      have hpuesto : t.en (.contenedor z') = s.en (.contenedor z') ++ [v.anotar (.colocado z')] := by
        change t.contenedor z' = _
        rw [hcont, Function.update_self]
        rfl
      rw [hpuesto, hantes, hdespues, numerosDe_append, numerosDe_anotar (x := .colocado z') nofun,
        numerosDe_nil, List.nil_append, List.append_assoc]
    · have hotra : t.en (.contenedor z) = s.en (.contenedor z) := by
        change t.contenedor z = _
        rw [hcont, Function.update_of_ne fun h => hz h.symm]
        rfl
      rw [hotra]
      refine (List.Sublist.refl _).append (List.Sublist.append ?_ (List.Sublist.refl _))
      by_cases hm : m = j
      · rw [← hm, hdespues]
        exact List.nil_sublist _
      · rw [hdesp j fun h => hm h.symm]
  | aparta v hcont hdesp hcentral hprod =>
    rw [hcontenedor hcont, hdesp, hprod, hcentral, numerosDe_cons]
    exact ((List.Sublist.refl _).append ((List.Sublist.refl _).append
      ((List.sublist_append_right _ _).append (List.Sublist.refl _))))

/-- What the producers have in their hands: the control what it has cleared, and another one what it
    brought. -/
structure ManosPropias (P : Parametros) (quien : List Nat) (s : Estado) : Prop where
  control : ∀ v ∈ s.en (.productor P.productorControl), v.directa = false
  otros : ∀ i, i ≠ P.productorControl → ∀ v ∈ s.en (.productor i), quien[v.numero]? = some i

/-- The numbers of the bags that producer `i` has brought. -/
def traidosPor (quien : List Nat) (i n : Nat) : Bool := quien[n]? == some i

theorem ManosPropias.sinNumeros {quien : List Nat} {l : Nat} (h : ManosPropias P quien s) (hl : l ≠ i) :
    numerosDe (traidosPor quien i) (s.en (.productor l)) = [] := by
  rw [List.eq_nil_iff_forall_not_mem]
  intro n hn
  obtain ⟨v, hv, rfl⟩ := List.mem_map.mp hn
  obtain ⟨hmem, hcond⟩ := List.mem_filter.mp hv
  rw [Bool.and_eq_true] at hcond
  by_cases hcontrol : l = P.productorControl
  · rw [hcontrol] at hmem
    rw [h.control v hmem] at hcond
    cases hcond.1
  · have hquien := h.otros l hcontrol v hmem
    have hi : quien[v.numero]? = some i := by simpa [traidosPor] using hcond.2
    rw [hquien] at hi
    exact hl (Option.some.inj hi)

theorem ManosPropias.avance {quien : List Nat} (h : ManosPropias P quien s) (ha : Avance P s t) :
    ManosPropias P quien t := by
  -- hands that have not taken up anything
  have hmenos : (∀ i, ∀ v ∈ t.en (.productor i), v ∈ s.en (.productor i)) → ManosPropias P quien t :=
    fun hm => ⟨fun v hv => h.control v (hm _ v hv), fun i hi v hv => h.otros i hi v (hm i v hv)⟩
  cases ha with
  | quieto hcont hdesp hcentral hprod => exact hmenos fun i v hv => by rwa [← hprod i]
  | devuelve v hcont hdesp hcentral hdespues hprod =>
    refine ⟨fun w hw => ?_, fun i hi w hw => h.otros i hi w (by rwa [← hprod i hi])⟩
    rw [hdespues, List.mem_singleton] at hw
    rw [hw]
    simp [Valija.directa, Valija.limpiar]
  | sube l v hcont hdesp hantes hdespues hprod hcentral =>
    refine hmenos fun i w hw => ?_
    by_cases hl : i = l
    · rw [hl, hdespues] at hw
      cases hw
    · rwa [← hprod i hl]
  | extrae j v hcont hantes hdespues hdesp hcentral hprod => exact hmenos fun i v hv => by rwa [← hprod i]
  | coloca j v z hj hdesde hhasta hcont hantes hdespues hdesp hcentral hprod =>
    exact hmenos fun i v hv => by rwa [← hprod i]
  | aparta v hcont hdesp hcentral hprod => exact hmenos fun i v hv => by rwa [← hprod i]

/-- What is put on the central belt by a producer that is not the control. -/
theorem en_pone {e : Equipaje} (hs : paso P s (.pone i e) = some t) :
    s.en (.productor i) = [] ∧ t.en (.productor i) = [⟨e, s.entradas.length, []⟩] ∧
      i ≠ P.productorControl ∧ ∀ l, l ≠ .productor i → t.en l = s.en l := by
  simp only [paso] at hs
  split at hs
  · rename_i hbien
    obtain ⟨cinta, hc, rfl⟩ := Option.map_eq_some_iff.mp hs
    obtain ⟨hantes, hdespues, hotros, hcomp, -⟩ := manos_colocarElemento hc
    refine ⟨hantes, hdespues, hbien.1, fun l hl => ?_⟩
    cases l with
    | central =>
      change cinta.compartido.anillo.contenido = s.cinta.compartido.anillo.contenido
      rw [hcomp]
    | productor m =>
      change (cinta.productor m).manos = (s.cinta.productor m).manos
      rw [hotros m fun hm => hl (by rw [hm])]
    | despachante _ | robotControl | cola | control | contenedor _ | descarte => rfl
  · cases hs

/-- `quien` says which producer brought each bag, and only what producer `i` brought is in its line. -/
structure EnOrden (P : Parametros) (quien : List Nat) (s : Estado) : Prop where
  largo : quien.length = s.entradas.length
  manos : ManosPropias P quien s
  filas : ∀ i j z, i ≠ P.productorControl →
    (∀ m < P.despachantes, P.zonaDesde m ≤ z → z ≤ P.zonaHasta m → m = j) →
    (numerosDe (traidosPor quien i) (s.fila i j z)).Pairwise (· < ·)

theorem enOrden_inicial (P : Parametros) : EnOrden P [] (inicial P) where
  largo := rfl
  manos := by
    constructor
    · intro v hv
      cases hv
    · intro i _ v hv
      cases hv
  filas i j z _ _ := by
    rw [show (inicial P).fila i j z = [] from rfl]
    exact List.Pairwise.nil

theorem EnOrden.avanza {quien : List Nat} (h : EnOrden P quien s) (hi : Inv P s)
    (hev : ∀ i e, ev ≠ .pone i e) (hs : paso P s ev = some t) : EnOrden P quien t where
  largo := by rw [entradas_paso hev hs]; exact h.largo
  manos := h.manos.avance (avance_paso hi hev hs)
  filas i j z hic hunico :=
    (h.filas i j z hic hunico).sublist
      (fila_avance (avance_paso hi hev hs) hic hunico fun _ hl => h.manos.sinNumeros hl)

theorem numerosDe_concat {quien : List Nat} {m : Nat} {vs : List Valija}
    (hvs : ∀ v ∈ vs, v.numero < quien.length) :
    numerosDe (traidosPor (quien ++ [m]) i) vs = numerosDe (traidosPor quien i) vs := by
  unfold numerosDe
  congr 1
  refine List.filter_congr fun v hv => ?_
  unfold traidosPor
  rw [List.getElem?_append_left (hvs v hv)]

theorem EnOrden.pone {quien : List Nat} {m : Nat} {e : Equipaje} (h : EnOrden P quien s) (hi : Inv P s)
    (hs : paso P s (.pone m e) = some t) : EnOrden P (quien ++ [m]) t := by
  obtain ⟨hantes, hdespues, hmc, hresto⟩ := en_pone hs
  obtain ⟨hentradas, -⟩ := pone_eq_some hs
  -- what was there has smaller numbers
  have hmenor : ∀ l, ∀ v ∈ s.en l, v.numero < quien.length := by
    intro l v hv
    obtain ⟨e', he', -⟩ := hi.conservado.traida l v hv
    rw [h.largo]
    exact (List.getElem?_eq_some_iff.mp he').1
  refine ⟨by rw [hentradas, List.length_append, List.length_append, h.largo]; rfl, ⟨fun v hv => ?_,
    fun i hic v hv => ?_⟩, fun i j z hic hunico => ?_⟩
  · rw [hresto _ fun hm => hmc (by cases hm; rfl)] at hv
    exact h.manos.control v hv
  · by_cases him : i = m
    · subst him
      rw [hdespues, List.mem_singleton] at hv
      rw [hv, ← h.largo]
      exact List.getElem?_concat_length
    · rw [hresto _ fun hm => him (by cases hm; rfl)] at hv
      rw [List.getElem?_append_left (hmenor _ v hv)]
      exact h.manos.otros i hic v hv
  · have hfila : ∀ v ∈ s.fila i j z, v.numero < quien.length := by
      intro v hv
      simp only [Estado.fila, List.mem_append] at hv
      rcases hv with hv | hv | hv | hv <;> exact hmenor _ v hv
    have hs' := h.filas i j z hic hunico
    rw [← numerosDe_concat (m := m) hfila] at hs'
    by_cases him : i = m
    · subst him
      have hnueva : t.fila i j z = s.fila i j z ++ [⟨e, s.entradas.length, []⟩] := by
        simp only [Estado.fila, hdespues, hantes, hresto (.contenedor z) nofun,
          hresto (.despachante j) nofun, hresto .central nofun, List.append_nil, List.append_assoc]
      rw [hnueva, numerosDe_append]
      have huna : (numerosDe (traidosPor (quien ++ [i]) i) [⟨e, s.entradas.length, []⟩]).Sublist
          [s.entradas.length] := List.filter_sublist.map Valija.numero
      refine List.pairwise_append.mpr ⟨hs', (List.pairwise_singleton _ _).sublist huna, fun a ha b hb => ?_⟩
      · obtain ⟨-, v, hv, rfl⟩ := numerosDe_subset ha
        obtain ⟨-, w, hw, rfl⟩ := numerosDe_subset hb
        rw [List.mem_singleton] at hw
        rw [hw, ← h.largo]
        exact hfila v hv
    · have hmisma : t.fila i j z = s.fila i j z := by
        simp only [Estado.fila, hresto (.contenedor z) nofun, hresto (.despachante j) nofun,
          hresto .central nofun, hresto (.productor i) fun hm => him (by cases hm; rfl)]
      rw [hmisma]
      exact hs'

end Despacho

namespace Recorrido

open Ejecucion Despacho

variable {P : Parametros} {s t : Estado} {i : Nat} {b : Bulto}

/-! ## Before the central belt -/

/-- The numbers of what producer `i` has brought to the central belt, in order. -/
def Estado.traidos (s : Estado) (i : Nat) : List Nat :=
  (s.entregas.filter fun x => x.1 == i).map fun x => x.2.numero

/-- The numbers of a list of bags. -/
def numeros (bs : List Bulto) : List Nat := bs.map Bulto.numero

@[simp] theorem numeros_append (bs cs : List Bulto) : numeros (bs ++ cs) = numeros bs ++ numeros cs :=
  List.map_append

@[simp] theorem numeros_nil : numeros [] = [] := rfl

/-- What each robot has taken and not yet given is the end of what it has been given. -/
structure EnFila (P : Parametros) (s : Estado) : Prop where
  -- each belt of a scanner has a part of what robot_checkin has taken, in order
  reparte : ∀ i, (numeros (s.scanner.puestos i ++ (s.scanner.productor.manos ++ s.robotCheckin.manos))).Sublist
    (numeros s.checkin.devueltos)
  escanea : ∀ i < P.maxScanners,
    s.traidos i ++ numeros ((s.robotScanner i).manos ++ (s.scanner.escaner i).manos) =
      numeros (s.scanner.sacados i)
  intercargo : (s.traidos (P.maxScanners + 1) ++
    numeros (s.robotIntercargo.manos ++ s.colaIntercargo)).Pairwise (· < ·)

theorem enFila_inicial (P : Parametros) : EnFila P (inicial P) where
  reparte _ := List.Sublist.refl _
  escanea _ _ := rfl
  intercargo := List.Pairwise.nil

theorem traidos_concat {n : Nat} {entregas : List (Nat × Bulto)} (s : Estado)
    (hs : s.entregas = entregas ++ [(n, b)]) (i : Nat) :
    s.traidos i = (entregas.filter fun x => x.1 == i).map (fun x => x.2.numero) ++
      if n = i then [b.numero] else [] := by
  unfold Estado.traidos
  rw [hs, List.filter_append, List.map_append]
  congr 1
  by_cases h : n = i <;> simp [h]

theorem traidos_entrega {s t : Estado} {n : Nat} (hs : t.entregas = s.entregas ++ [(n, b)]) :
    t.traidos i = s.traidos i ++ if n = i then [b.numero] else [] :=
  traidos_concat t hs i

/-- A step of the check-in belt, or of the robot that takes from it. -/
theorem EnFila.deCheckin (h : EnFila P s) (hscanner : t.scanner.puestos = s.scanner.puestos)
    (hprod : ∀ i, (numeros (s.scanner.puestos i ++ (t.scanner.productor.manos ++ t.robotCheckin.manos))).Sublist
      (numeros t.checkin.devueltos))
    (hsac : t.scanner.sacados = s.scanner.sacados) (hesc : t.scanner.escaner = s.scanner.escaner)
    (hrobot : t.robotScanner = s.robotScanner) (hentregas : t.entregas = s.entregas)
    (hinter : t.robotIntercargo = s.robotIntercargo) (hcola : t.colaIntercargo = s.colaIntercargo) :
    EnFila P t where
  reparte i := by
    rw [hscanner]
    exact hprod i
  escanea i hlt := by
    unfold Estado.traidos
    rw [hsac, hesc, hrobot, hentregas]
    exact h.escanea i hlt
  intercargo := by
    unfold Estado.traidos
    rw [hinter, hcola, hentregas]
    exact h.intercargo

theorem enFila_checkin {e : Cinta.Evento Bulto} (h : EnFila P s) (hi : Inv P s) (he : e.interno = true)
    (hs : pasoCheckin P s e = some t) : EnFila P t := by
  obtain ⟨checkin, hc, ht⟩ := Option.map_eq_some_iff.mp hs
  rcases Cinta.interno_cases he hc with ⟨-, hd, -, hsaca⟩ | ⟨-, -, -, -, -, -, hd, hsaca⟩ |
    ⟨b, -, -, hd, hsaca⟩
  · rw [hsaca] at ht
    subst ht
    exact h.deCheckin rfl (fun i => by rw [hd]; exact h.reparte i) rfl rfl rfl rfl rfl rfl
  · rw [hsaca] at ht
    subst ht
    exact h.deCheckin rfl (fun i => by rw [hd]; exact h.reparte i) rfl rfl rfl rfl rfl rfl
  · rw [hsaca] at ht
    subst ht
    obtain ⟨hdentro, -⟩ := Cinta.consumidor_saca hi.checkin he hc hsaca
    have hrobot := hi.sacando hdentro
    -- the robot is in its call, so the bag before has been put
    have hprod : s.scanner.productor.manos = [] := by
      by_contra hman
      have hpon := hi.poniendo hman
      rw [hrobot] at hpon
      cases hpon
    refine h.deCheckin rfl (fun i => ?_) rfl rfl rfl rfl rfl rfl
    have hrep := h.reparte i
    rw [hprod, hrobot] at hrep
    change (numeros (s.scanner.puestos i ++ (s.scanner.productor.manos ++ [b]))).Sublist
      (numeros checkin.devueltos)
    rw [hd, hprod, List.nil_append, numeros_append, numeros_append]
    refine List.Sublist.append ?_ (List.Sublist.refl _)
    rwa [show PcRobotCheckin.sacando.manos = [] from rfl, List.append_nil, List.append_nil] at hrep

theorem enFila_robotCheckin (h : EnFila P s) (hs : pasoRobotCheckin P s = some t) : EnFila P t := by
  unfold pasoRobotCheckin at hs
  cases hpc : s.robotCheckin with
  | saca =>
    simp only [hpc] at hs
    obtain ⟨checkin, hc, rfl⟩ := Option.map_eq_some_iff.mp hs
    obtain rfl := Cinta.sacarEquipaje_eq_some hc
    refine h.deCheckin rfl (fun i => ?_) rfl rfl rfl rfl rfl rfl
    have hrep := h.reparte i
    rwa [hpc] at hrep
  | sacando =>
    simp only [hpc] at hs
    cases hs
  | pone b =>
    simp only [hpc] at hs
    obtain ⟨scanner, hc, rfl⟩ := Option.map_eq_some_iff.mp hs
    obtain ⟨hreposo, rfl⟩ := CintaScanner.ponerEquipaje_eq_some hc
    refine h.deCheckin rfl (fun i => ?_) rfl rfl rfl rfl rfl rfl
    have hrep := h.reparte i
    rwa [hpc, hreposo] at hrep
  | poniendo =>
    simp only [hpc] at hs
    split at hs <;> cases hs
    refine h.deCheckin rfl (fun i => ?_) rfl rfl rfl rfl rfl rfl
    have hrep := h.reparte i
    rwa [hpc] at hrep

theorem enFila_productorScanner (h : EnFila P s) (hi : Inv P s)
    (hs : pasoProductorScanner P s = some t) : EnFila P t := by
  obtain ⟨scanner, hc, rfl⟩ := Option.map_eq_some_iff.mp hs
  obtain ⟨hesc, hsac, ⟨hp, hmanos⟩ | ⟨i, b, hantes, hdespues, hp⟩⟩ := CintaScanner.productor_cases hc
  · exact h.deCheckin hp (fun i => by dsimp only; rw [hmanos]; exact h.reparte i) hsac hesc rfl rfl rfl rfl
  · have hrobot := hi.poniendo (by rw [hantes]; nofun)
    refine ⟨fun m => ?_, fun m hm => ?_, h.intercargo⟩
    · have hrep := h.reparte m
      rw [hantes, hrobot] at hrep
      change (numeros (scanner.puestos m ++ (scanner.productor.manos ++ s.robotCheckin.manos))).Sublist _
      rw [hp, hdespues, hrobot]
      by_cases hmi : m = i
      · -- the bag that was in the hands of the call is now the last one of the belt
        rw [hmi] at hrep ⊢
        rw [Function.update_self]
        simpa only [List.nil_append, List.append_nil, List.append_assoc] using hrep
      · rw [Function.update_of_ne hmi]
        refine List.Sublist.trans ?_ hrep
        simp only [numeros_append]
        exact (List.Sublist.refl _).append ((List.nil_sublist _).append (List.Sublist.refl _))
    · change s.traidos m ++ numeros ((s.robotScanner m).manos ++ (scanner.escaner m).manos) =
        numeros (scanner.sacados m)
      rw [hesc, hsac]
      exact h.escanea m hm

/-- A step of one scanner, on its belt or as a robot. -/
theorem EnFila.deScanner (h : EnFila P s) (hcheckin : t.checkin = s.checkin)
    (hrobotCheckin : t.robotCheckin = s.robotCheckin) (hp : t.scanner.puestos = s.scanner.puestos)
    (hprod : t.scanner.productor = s.scanner.productor)
    (hmismo : i < P.maxScanners →
      t.traidos i ++ numeros ((t.robotScanner i).manos ++ (t.scanner.escaner i).manos) =
        numeros (t.scanner.sacados i))
    (hotros : ∀ m, m ≠ i → t.traidos m = s.traidos m ∧ t.robotScanner m = s.robotScanner m ∧
      t.scanner.escaner m = s.scanner.escaner m ∧ t.scanner.sacados m = s.scanner.sacados m)
    (hinter : (t.traidos (P.maxScanners + 1) ++
      numeros (t.robotIntercargo.manos ++ t.colaIntercargo)).Pairwise (· < ·)) : EnFila P t where
  reparte m := by
    rw [hcheckin, hrobotCheckin, hp, hprod]
    exact h.reparte m
  escanea m hm := by
    by_cases hmi : m = i
    · rw [hmi] at hm ⊢
      exact hmismo hm
    · obtain ⟨h₁, h₂, h₃, h₄⟩ := hotros m hmi
      rw [h₁, h₂, h₃, h₄]
      exact h.escanea m hm
  intercargo := hinter

theorem enFila_escaner (h : EnFila P s) (hi : Inv P s) (hs : pasoEscaner P s i = some t) :
    EnFila P t := by
  obtain ⟨scanner, hc, ht⟩ := Option.map_eq_some_iff.mp hs
  obtain ⟨hprod, hp, hotros, ⟨hsac, hmanos, -, hsaca⟩ |
    ⟨b, hsac, hantes, hdespues, hdentro, hsaca⟩ | ⟨b, hsac, hantes, hfuera, hdentro, hsaca⟩⟩ :=
    CintaScanner.escaner_cases hc
  · rw [hsaca] at ht
    subst ht
    refine h.deScanner (i := i) rfl rfl hp hprod (fun hlt => ?_)
      (fun m hm => ⟨rfl, rfl, hotros m hm, by rw [hsac]⟩) h.intercargo
    change s.traidos i ++ numeros ((s.robotScanner i).manos ++ (scanner.escaner i).manos) = _
    rw [hmanos, hsac]
    exact h.escanea i hlt
  · rw [hsaca] at ht
    subst ht
    refine h.deScanner (i := i) rfl rfl hp hprod (fun hlt => ?_)
      (fun m hm => ⟨rfl, rfl, hotros m hm, by rw [hsac, Function.update_of_ne hm]⟩) h.intercargo
    have hant := h.escanea i hlt
    have hrobot := hi.escaneando i hdentro
    change s.traidos i ++ numeros ((s.robotScanner i).manos ++ (scanner.escaner i).manos) =
      numeros (scanner.sacados i)
    rw [hantes, List.append_nil, numeros, hrobot] at hant
    rw [hdespues, hsac, Function.update_self, numeros_append, numeros_append, ← hant, hrobot]
    simp [PcRobotScanner.manos]
  · rw [hsaca] at ht
    subst ht
    have hrobot := hi.escaneando i hdentro
    refine h.deScanner (i := i) rfl rfl hp hprod (fun hlt => ?_)
      (fun m hm => ⟨rfl, Function.update_of_ne hm _ _, hotros m hm, congrFun hsac m⟩) h.intercargo
    have hant := h.escanea i hlt
    rw [hantes, hrobot] at hant
    change s.traidos i ++ numeros ((Function.update s.robotScanner i (.escanea b) i).manos ++
      (scanner.escaner i).manos) = numeros (scanner.sacados i)
    rw [Function.update_self, hfuera, hsac]
    exact hant

theorem enFila_robotScanner {sospechoso : Bool} (h : EnFila P s) (hi : Inv P s)
    (hlt : i < P.maxScanners) (hs : pasoRobotScanner P s i sospechoso = some t) : EnFila P t := by
  -- the same bag, or none, and the belts as they were
  have higual : ∀ pc : PcRobotScanner, numeros pc.manos = numeros (s.robotScanner i).manos →
      EnFila P (s.irScanner i pc) := by
    intro pc hpc
    refine h.deScanner (i := i) rfl rfl rfl rfl (fun hlt => ?_)
      (fun m hm => ⟨rfl, Function.update_of_ne hm _ _, rfl, rfl⟩) h.intercargo
    change s.traidos i ++ numeros ((Function.update s.robotScanner i pc i).manos ++
      (s.scanner.escaner i).manos) = numeros (s.scanner.sacados i)
    rw [Function.update_self, numeros_append, hpc, ← numeros_append]
    exact h.escanea i hlt
  -- a call with empty hands
  have hllama : ∀ (pc : PcRobotScanner) (pc' : CintaScanner.PcEscaner Bulto),
      pc.manos = (s.robotScanner i).manos → pc'.manos = (s.scanner.escaner i).manos →
      EnFila P ({ s with scanner := s.scanner.irEscaner i pc' }.irScanner i pc) := by
    intro pc pc' hpc hpc'
    refine h.deScanner (i := i) rfl rfl rfl rfl (fun hlt => ?_)
      (fun m hm => ⟨rfl, Function.update_of_ne hm _ _, Function.update_of_ne hm _ _, rfl⟩) h.intercargo
    change s.traidos i ++ numeros ((Function.update s.robotScanner i pc i).manos ++
      (Function.update s.scanner.escaner i pc' i).manos) = numeros (s.scanner.sacados i)
    rw [Function.update_self, Function.update_self, hpc, hpc']
    exact h.escanea i hlt
  unfold pasoRobotScanner at hs
  cases hpc : s.robotScanner i with
  | construye =>
    simp only [hpc] at hs
    obtain ⟨scanner, hc, rfl⟩ := Option.map_eq_some_iff.mp hs
    obtain ⟨hfuera, rfl⟩ := CintaScanner.construir_eq_some hc
    exact hllama _ _ (by rw [hpc]; rfl) (by rw [hfuera]; rfl)
  | construyendo =>
    simp only [hpc] at hs
    split at hs <;> cases hs
    exact higual _ (by rw [hpc]; rfl)
  | saca =>
    simp only [hpc] at hs
    obtain ⟨scanner, hc, rfl⟩ := Option.map_eq_some_iff.mp hs
    obtain ⟨hreposo, rfl⟩ := CintaScanner.sacarEquipaje_eq_some hc
    exact hllama _ _ (by rw [hpc]; rfl) (by rw [hreposo]; rfl)
  | sacando =>
    simp only [hpc] at hs
    cases hs
  | escanea b =>
    simp only [hpc] at hs
    cases hs
    exact higual _ (by rw [hpc]; rfl)
  | coloca b =>
    simp only [hpc] at hs
    obtain ⟨u, hu, rfl⟩ := Option.map_eq_some_iff.mp hs
    obtain ⟨despacho, -, rfl⟩ := Option.map_eq_some_iff.mp hu
    obtain ⟨-, hmanos⟩ := hi.fueraScanner (i := i) (by rw [hpc]; nofun)
    have hant := h.escanea i hlt
    rw [hpc, hmanos, List.append_nil] at hant
    refine h.deScanner (i := i) rfl rfl rfl rfl (fun _ => ?_) (fun m hm => ⟨?_, ?_, rfl, rfl⟩) ?_
    · rw [traidos_entrega (s := s) (n := i) (b := b) rfl, if_pos rfl]
      change s.traidos i ++ [b.numero] ++ numeros ((Function.update s.robotScanner i .colocando i).manos ++
        (s.scanner.escaner i).manos) = numeros (s.scanner.sacados i)
      rw [Function.update_self, hmanos, ← hant]
      exact List.append_nil _
    · rw [traidos_entrega (s := s) (n := i) (b := b) rfl, if_neg fun hm' => hm hm'.symm, List.append_nil]
    · exact Function.update_of_ne hm _ _
    · rw [traidos_entrega (s := s) (n := i) (b := b) rfl, if_neg (by omega), List.append_nil]
      exact h.intercargo
  | colocando =>
    simp only [hpc] at hs
    split at hs <;> cases hs
    exact higual _ (by rw [hpc]; rfl)

theorem enFila_intercargo {e : Equipaje} (h : EnFila P s) (hi : Inv P s) :
    EnFila P { s with
      colaIntercargo := s.colaIntercargo ++ [⟨e, s.llegadas.length⟩]
      llegadas := s.llegadas ++ [e] } := by
  refine ⟨h.reparte, h.escanea, ?_⟩
  have hmenor : ∀ l, ∀ b ∈ s.antes l, b.numero < s.llegadas.length := by
    intro l b hb
    obtain ⟨e', he', -⟩ := hi.inventario.viene l b hb
    exact (List.getElem?_eq_some_iff.mp he').1
  change (s.traidos (P.maxScanners + 1) ++ numeros (s.robotIntercargo.manos ++
    (s.colaIntercargo ++ [⟨e, s.llegadas.length⟩]))).Pairwise (· < ·)
  rw [← List.append_assoc, numeros_append, ← List.append_assoc]
  refine List.pairwise_append.mpr ⟨h.intercargo, List.pairwise_singleton _ _, fun n hn m hm => ?_⟩
  rw [show m = s.llegadas.length from List.mem_singleton.mp hm]
  rcases List.mem_append.mp hn with hn | hn
  · obtain ⟨x, hx, rfl⟩ := List.mem_map.mp hn
    exact hmenor none x.2 (List.mem_map_of_mem (List.mem_filter.mp hx).1)
  · rw [numeros_append, List.mem_append] at hn
    rcases hn with hn | hn <;> obtain ⟨b, hb, rfl⟩ := List.mem_map.mp hn
    · exact hmenor (some .robotIntercargo) b hb
    · exact hmenor (some .colaIntercargo) b hb

theorem enFila_robotIntercargo (h : EnFila P s) (hs : pasoRobotIntercargo P s = some t) :
    EnFila P t := by
  have hint := h.intercargo
  unfold pasoRobotIntercargo at hs
  cases hpc : s.robotIntercargo with
  | recibe =>
    simp only [hpc] at hs
    split at hs <;> cases hs
    rename_i b cola hcola
    rw [hpc, hcola] at hint
    exact ⟨h.reparte, h.escanea, hint⟩
  | pone b =>
    simp only [hpc] at hs
    obtain ⟨u, hu, rfl⟩ := Option.map_eq_some_iff.mp hs
    obtain ⟨despacho, -, rfl⟩ := Option.map_eq_some_iff.mp hu
    refine ⟨h.reparte, fun i hlt => ?_, ?_⟩
    · rw [traidos_entrega (s := s) (n := P.maxScanners + 1) (b := b) rfl, if_neg (by omega),
        List.append_nil]
      exact h.escanea i hlt
    · rw [traidos_entrega (s := s) (n := P.maxScanners + 1) (b := b) rfl, if_pos rfl, List.append_assoc]
      rw [hpc] at hint
      exact hint
  | poniendo =>
    simp only [hpc] at hs
    split at hs <;> cases hs
    rw [hpc] at hint
    exact ⟨h.reparte, h.escanea, hint⟩

/-! ## The runs -/

/-- Which producer has brought each of the bags of the central belt. -/
def Estado.quien (s : Estado) : List Nat := s.entregas.map Prod.fst

structure Ordenado (P : Parametros) (s : Estado) : Prop where
  inv : Inv P s
  enFila : EnFila P s
  enOrden : Despacho.EnOrden P.despacho s.quien s.despacho

theorem ordenado_inicial (P : Parametros) : Ordenado P (inicial P) :=
  ⟨inv_inicial P, enFila_inicial P, Despacho.enOrden_inicial _⟩

theorem Ordenado.coloca {u : Estado} (h : Ordenado P s) (hu : s.colocarElemento P i b = some u) :
    Despacho.EnOrden P.despacho u.quien u.despacho := by
  obtain ⟨despacho, hd, rfl⟩ := Option.map_eq_some_iff.mp hu
  have hquien : (s.entregas ++ [(i, b)]).map Prod.fst = s.quien ++ [i] := List.map_append
  change Despacho.EnOrden P.despacho ((s.entregas ++ [(i, b)]).map Prod.fst) despacho
  rw [hquien]
  exact h.enOrden.pone h.inv.despacho hd

theorem enOrden_robotScanner {sospechoso : Bool} (h : Ordenado P s)
    (hs : pasoRobotScanner P s i sospechoso = some t) :
    Despacho.EnOrden P.despacho t.quien t.despacho := by
  unfold pasoRobotScanner at hs
  split at hs
  · obtain ⟨scanner, -, rfl⟩ := Option.map_eq_some_iff.mp hs
    exact h.enOrden
  · split at hs <;> cases hs
    exact h.enOrden
  · obtain ⟨scanner, -, rfl⟩ := Option.map_eq_some_iff.mp hs
    exact h.enOrden
  · cases hs
  · cases hs
    exact h.enOrden
  · obtain ⟨u, hu, rfl⟩ := Option.map_eq_some_iff.mp hs
    have huno := h.coloca hu
    exact huno
  · split at hs <;> cases hs
    exact h.enOrden

theorem enOrden_robotIntercargo (h : Ordenado P s) (hs : pasoRobotIntercargo P s = some t) :
    Despacho.EnOrden P.despacho t.quien t.despacho := by
  unfold pasoRobotIntercargo at hs
  split at hs
  · split at hs <;> cases hs
    exact h.enOrden
  · obtain ⟨u, hu, rfl⟩ := Option.map_eq_some_iff.mp hs
    have huno := h.coloca hu
    exact huno
  · split at hs <;> cases hs
    exact h.enOrden

theorem ordenado_paso {ev : Evento} (h : Ordenado P s) (hs : paso P s ev = some t) : Ordenado P t := by
  have hinv := inv_paso h.inv hs
  cases ev with
  | registrarEquipaje d e =>
    simp only [paso] at hs
    split at hs
    · obtain ⟨checkin, hc, rfl⟩ := Option.map_eq_some_iff.mp hs
      obtain ⟨-, rfl⟩ := Cinta.ponerEquipaje_eq_some hc
      exact ⟨hinv, h.enFila.deCheckin rfl h.enFila.reparte rfl rfl rfl rfl rfl rfl, h.enOrden⟩
    · cases hs
  | enviarEquipajeIntercargo e =>
    simp only [paso] at hs
    split at hs <;> cases hs
    exact ⟨hinv, enFila_intercargo h.enFila h.inv, h.enOrden⟩
  | checkin e =>
    simp only [paso] at hs
    split at hs
    · refine ⟨hinv, enFila_checkin h.enFila h.inv ‹_› hs, ?_⟩
      obtain ⟨checkin, -, rfl⟩ := Option.map_eq_some_iff.mp hs
      split <;> exact h.enOrden
    · cases hs
  | robotCheckin =>
    refine ⟨hinv, enFila_robotCheckin h.enFila hs, ?_⟩
    simp only [paso, pasoRobotCheckin] at hs
    split at hs
    · obtain ⟨checkin, -, rfl⟩ := Option.map_eq_some_iff.mp hs
      exact h.enOrden
    · cases hs
    · obtain ⟨scanner, -, rfl⟩ := Option.map_eq_some_iff.mp hs
      exact h.enOrden
    · split at hs <;> cases hs
      exact h.enOrden
  | scanner e =>
    cases e with
    | productor =>
      refine ⟨hinv, enFila_productorScanner h.enFila h.inv hs, ?_⟩
      obtain ⟨scanner, -, rfl⟩ := Option.map_eq_some_iff.mp hs
      exact h.enOrden
    | escaner i =>
      refine ⟨hinv, enFila_escaner h.enFila h.inv hs, ?_⟩
      obtain ⟨scanner, -, rfl⟩ := Option.map_eq_some_iff.mp hs
      split <;> exact h.enOrden
    | ponerEquipaje b | construir i | sacarEquipaje i => cases hs
  | robotScanner i sospechoso =>
    simp only [paso] at hs
    split at hs
    · exact ⟨hinv, enFila_robotScanner h.enFila h.inv ‹_› hs, enOrden_robotScanner h hs⟩
    · cases hs
  | robotIntercargo => exact ⟨hinv, enFila_robotIntercargo h.enFila hs, enOrden_robotIntercargo h hs⟩
  | despacho e =>
    cases e with
    | pone i b => cases hs
    | cinta e | despacho j z | robotControl z | control =>
      obtain ⟨despacho, hd, rfl⟩ := Option.map_eq_some_iff.mp hs
      exact ⟨hinv, ⟨h.enFila.reparte, h.enFila.escanea, h.enFila.intercargo⟩,
        h.enOrden.avanza h.inv.despacho (fun _ _ h => by cases h) hd⟩

/-! ## The order -/

theorem EnFila.traidos_sublist (h : EnFila P s) (hi : Inv P s) (hlt : i < P.maxScanners) :
    (s.traidos i).Sublist (numeros s.checkin.puestos) := by
  have hsac : (s.traidos i).Sublist (numeros (s.scanner.sacados i)) := by
    rw [← h.escanea i hlt]
    exact List.sublist_append_left _ _
  have hpuestos : (numeros (s.scanner.sacados i)).Sublist (numeros (s.scanner.puestos i)) := by
    rw [← (hi.scanner.cintas i).fifo.historia, numeros_append]
    exact List.sublist_append_left _ _
  have hdevueltos : (numeros (s.scanner.puestos i)).Sublist (numeros s.checkin.devueltos) := by
    refine List.Sublist.trans ?_ (h.reparte i)
    rw [numeros_append]
    exact List.sublist_append_left _ _
  have hcheckin : (numeros s.checkin.devueltos).Sublist (numeros s.checkin.puestos) := by
    rw [← hi.enCola.fifo.historia, numeros_append]
    exact List.sublist_append_left _ _
  exact ((hsac.trans hpuestos).trans hdevueltos).trans hcheckin

/-- The arrivals that producer `i` brought and that are on the container belt of zone `z` without having
    been through the control, in the order of the belt. -/
def Estado.directos (s : Estado) (i : Nat) (z : Int) : List Nat :=
  ((s.despues (.contenedor z)).filter fun x =>
    x.2.directa && traidosPor s.quien i x.2.numero).map Prod.fst

/-- Only one robot of despacho puts on the container belt of the zone. -/
def Parametros.DeUnRobot (P : Parametros) (z : Int) : Prop :=
  ∃ j, ∀ m < P.despachantes, P.zonaDesde m ≤ z → z ≤ P.zonaHasta m → m = j

theorem directos_eq (s : Estado) (i : Nat) (z : Int) :
    s.directos i z =
      ((numerosDe (traidosPor s.quien i) (s.despacho.en (.contenedor z))).filterMap
        fun k => s.entregas[k]?).map fun x => x.2.numero := by
  unfold Estado.directos Estado.despues numerosDe
  rw [List.map_filterMap, List.filterMap_map]
  induction s.despacho.en (.contenedor z) with
  | nil => rfl
  | cons v vs ih =>
    cases hv : s.entregas[v.numero]? with
    | none =>
      have hno : traidosPor s.quien i v.numero = false := by
        simp [traidosPor, Estado.quien, hv]
      simp only [List.filterMap_cons, hv, Option.map_none, List.filter_cons, hno, Bool.and_false,
        Bool.false_eq_true, if_false]
      exact ih
    | some x =>
      simp only [List.filterMap_cons, hv, Option.map_some, List.filter_cons]
      split
      · simp only [List.map_cons, List.filterMap_cons, Function.comp_apply, hv, Option.map_some]
        exact congrArg _ ih
      · exact ih

theorem Ordenado.directos_sublist {z : Int} (h : Ordenado P s) (hi : i ≠ P.maxScanners)
    (hz : P.DeUnRobot z) : (s.directos i z).Sublist (s.traidos i) := by
  obtain ⟨j, hunico⟩ := hz
  have hks := h.enOrden.filas i j z hi hunico
  rw [Despacho.Estado.fila, numerosDe_append] at hks
  have hsub := List.filterMap_getElem?_sublist (l := s.entregas) (List.pairwise_append.mp hks).1
  rw [directos_eq]
  refine List.Sublist.map _ ?_
  -- all that is in the line was brought by producer `i`
  have hfiltro := hsub.filter fun x => x.1 == i
  rwa [List.filter_eq_self.mpr] at hfiltro
  intro x hx
  obtain ⟨k, hk, hkx⟩ := List.mem_filterMap.mp hx
  obtain ⟨hq, -⟩ := numerosDe_subset hk
  simpa [traidosPor, Estado.quien, hkx] using hq

/-- No bag that the control has not had overtakes another one of the same producer. -/
structure SinAdelantarse (P : Parametros) (s : Estado) : Prop where
  scanner : ∀ i < P.maxScanners, (s.traidos i).Sublist (numeros s.checkin.puestos)
  contenedor : ∀ i < P.maxScanners, ∀ z, P.DeUnRobot z →
    (s.directos i z).Sublist (numeros s.checkin.puestos)
  intercargo : ∀ z, P.DeUnRobot z → (s.directos (P.maxScanners + 1) z).Pairwise (· < ·)

/-- In every reachable state the bags that one scanner has brought to the central belt are in the order in
    which the desks put them on the check-in belt, and so are, on the container belt of a zone of one
    robot, those that did not go through the control; those of the robot of intercargo are there in their
    order of arrival. -/
theorem recorrido_sin_adelantarse (P : Parametros) (hs : Alcanza (paso P) (inicial P) s) :
    SinAdelantarse P s := by
  have h : Ordenado P s := hs.induccion (ordenado_inicial P) fun _ _ _ ha hb => ordenado_paso ha hb
  refine ⟨fun i hlt => h.enFila.traidos_sublist h.inv hlt, fun i hlt z hz => ?_, fun z hz => ?_⟩
  · exact (h.directos_sublist (by omega) hz).trans (h.enFila.traidos_sublist h.inv hlt)
  · refine List.Pairwise.sublist (h.directos_sublist (by omega) hz) ?_
    exact (List.pairwise_append.mp h.enFila.intercargo).1

/-- Two clean bags to zone 3. -/
def dosValijas : List Evento :=
  seRegistra ++ seEmbarca ⟨7, 12, false⟩ ++ seEscanea false ++ seEmbarca ⟨8, 12, false⟩ ++ seDespacha ++
    seEscanea false ++ seDespacha

theorem recorrido_sin_adelantarse_dos_valijas :
    ∃ s : Estado, Alcanza (paso unAeropuerto) (inicial unAeropuerto) s ∧ s.directos 0 3 = [0, 1] ∧
      SinAdelantarse unAeropuerto s := by
  have hrun : (correr (paso unAeropuerto) (inicial unAeropuerto) dosValijas).map
      (fun s => s.directos 0 3) = some [0, 1] := by decide +kernel
  obtain ⟨s, hs, hn⟩ := Option.map_eq_some_iff.mp hrun
  exact ⟨s, ⟨_, hs⟩, hn, recorrido_sin_adelantarse unAeropuerto ⟨_, hs⟩⟩

end Recorrido
