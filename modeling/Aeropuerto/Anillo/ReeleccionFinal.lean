import Aeropuerto.Anillo.ReeleccionSegura

/-!
# Who leads the ring after its links break

Every round of elections ends, and what it leaves depends on the links that broke and not on the order of
the steps.
-/

namespace Reeleccion

open Ejecucion Ronda EleccionLider

variable {n : Nat} {ν : Type} [LinearOrder ν] [NeZero n] {P : Parametros n ν} {g b i k : Fin n}
  {r t : Red n ν} {cortados marcados : Fin n → Bool} {antes : Fin n → ν}

/-! ## The beginning of a round -/

theorem ordenada_vacia (h : ∀ k, tramo r.anillo k = []) (c : Fin n) : Ordenada P c r := by
  have hvacio : ∀ k, hasta P c (tramo r.anillo k) = [] := fun k => by rw [h]; rfl
  constructor
  · intro k m hm
    rw [hvacio] at hm
    cases hm
  · intro k
    rw [hvacio]
    exact List.Pairwise.nil
  · intro i j _ x hx
    rw [hvacio] at hx
    cases hx
  · intro k _ j _ m hm
    rw [hvacio] at hm
    cases hm

theorem vuelta_inicial (P : Parametros n ν) (g : Fin n) :
    Vuelta P (fun _ => true) P.localhostName g (Red.inicial P) where
  conexiones := ⟨fun _ => iff_of_false Conexion.noConfusion Fase.noConfusion, fun _ _ => rfl⟩
  propuestas := ⟨fun _ h => (Bool.noConfusion h), fun _ _ hm => by cases hm⟩
  orden := ordenada_vacia fun _ => rfl
  avisos _ h := Conexion.noConfusion h
  propio := rfl
  conservado _ _ := rfl
  impuesto _ _ _ := .inl (.inl Fase.noConfusion)
  anotados _ := rfl
  otros _ _ := rfl
  electo _ := .inl (.inl Fase.noConfusion)
  parado h := Bool.noConfusion h

omit [LinearOrder ν] in
theorem Quieta.tramo (h : Quieta r) (k : Fin n) : tramo r.anillo k = [] := by
  unfold EleccionLider.tramo
  rw [List.isEmpty_iff.mp (h (k + 1)).2.1, List.isEmpty_iff.mp (h k).2.2]
  rfl

omit [LinearOrder ν] [NeZero n] in
/-- Only the phases change in the nodes. -/
theorem nodo_cortar {β : Type} (marcados : Fin n → Bool) (r : Red n ν) (f : Nodo ν → β)
    (hf : ∀ d : Nodo ν, f { d with fase := .inicio } = f d) (k : Fin n) :
    f ((cortar marcados r).anillo.nodo k) = f (r.anillo.nodo k) := by
  unfold cortar
  dsimp only
  split
  · exact hf _
  · rfl

omit [LinearOrder ν] [NeZero n] in
theorem fase_cortar_pos (hk : marcados k = true) : ((cortar marcados r).anillo.nodo k).fase = .inicio := by
  unfold cortar
  dsimp only
  rw [if_pos hk]

omit [LinearOrder ν] [NeZero n] in
theorem fase_cortar_neg (hk : marcados k = false) :
    ((cortar marcados r).anillo.nodo k).fase = (r.anillo.nodo k).fase := by
  unfold cortar
  dsimp only
  rw [if_neg (by rw [hk]; exact Bool.noConfusion)]

omit [LinearOrder ν] in
theorem tramo_cortar (marcados : Fin n → Bool) (h : Quieta r) (k : Fin n) :
    tramo (cortar marcados r).anillo k = [] := by
  have hcola := nodo_cortar marcados r Nodo.userlandOutboundQueue (fun _ => rfl) k
  have htramo := h.tramo k
  unfold tramo at htramo ⊢
  rw [hcola]
  exact htramo

omit [LinearOrder ν] in
/-- The last node before `k` that lost its link. -/
theorem exists_ultimo (h : ∃ b, marcados b = true) (k : Fin n) :
    ∃ b, marcados b = true ∧ ∀ i, i ≠ b → desde b i ≤ desde b k → marcados i = false := by
  obtain ⟨b₀, hb₀⟩ := h
  obtain ⟨b, hb, hmin⟩ := (Finset.univ.filter fun b => marcados b = true).exists_min_image
    (fun b => desde b k) ⟨b₀, Finset.mem_filter.mpr ⟨Finset.mem_univ _, hb₀⟩⟩
  refine ⟨b, (Finset.mem_filter.mp hb).2, fun i hi hik => ?_⟩
  rw [← Bool.not_eq_true]
  intro hmarcado
  have hle := hmin i (Finset.mem_filter.mpr ⟨Finset.mem_univ _, hmarcado⟩)
  have hsuma := desde_add hik
  exact hi (desde_eq_zero (by omega))

theorem vuelta_cortar (hg : Mayor P g) (h : Vuelta P cortados antes g r) (hr : Quieta r)
    (hmarcado : ∃ b, marcados b = true) :
    Vuelta P marcados (fun k => (r.anillo.nodo k).leaderName) g (cortar marcados r) := by
  have hconexion : ∀ k, r.conexion k = .establecida := fun k => (h.conexiones.establecida k).mpr (hr k).1
  have hT := tramo_cortar marcados hr
  have hinicio : ∀ {k}, marcados k = true → ((cortar marcados r).anillo.nodo k).fase ≠ .passage := by
    intro k hk
    rw [fase_cortar_pos hk]
    exact Fase.noConfusion
  have hname := nodo_cortar marcados r Nodo.leaderName fun _ => rfl
  constructor
  · refine ⟨fun k => ?_, fun k _ => List.isEmpty_iff.mp (hr k).2.1⟩
    show (if marcados k then Conexion.rota else r.conexion k) = _ ↔ _
    cases hk : marcados k with
    | true =>
      rw [if_pos rfl]
      exact iff_of_false Conexion.noConfusion (hinicio hk)
    | false =>
      rw [if_neg Bool.noConfusion, hconexion, fase_cortar_neg hk]
      exact iff_of_true rfl (hr k).1
  · refine ⟨fun k hk => (fase_cortar_neg hk).trans (hr k).1, fun k m hm => ?_⟩
    rw [hT] at hm
    cases hm
  · exact ordenada_vacia hT
  · intro k _
    obtain ⟨b, hb, hsanos⟩ := exists_ultimo hmarcado k
    exact ⟨b, hb, hsanos, .inl ⟨fase_cortar_pos hb, fun i _ => hT i⟩⟩
  · exact h.mayor hg
  · exact fun k _ => hname k
  · exact fun b k hI => .inl (.inl (hinicio hI.cortado))
  · intro k
    rw [nodo_cortar marcados r (anotado (P.localhostName k)) (fun _ => rfl), hname]
    exact h.anotados k
  · intro k hk
    rw [nodo_cortar marcados r Nodo.leaderProcess fun _ => rfl]
    exact h.otros k hk
  · exact fun hk => .inl (.inl (hinicio hk))
  · intro hsano
    obtain ⟨b, hb, hsanos⟩ := exists_ultimo hmarcado g
    refine ⟨b, ?_, hsanos, .inl (.inl (fase_cortar_pos hb))⟩
    rintro rfl
    rw [hb] at hsano
    cases hsano

/-- Whatever has broken before. -/
theorem exists_vuelta (hg : Mayor P g) (hr : Alcanza (paso P) (Red.inicial P) r) :
    ∃ cortados antes, Vuelta P cortados antes g r := by
  refine Alcanza.induccion (I := fun r => ∃ cortados antes, Vuelta P cortados antes g r) hr
    ⟨_, _, vuelta_inicial P g⟩ fun r e t ⟨cortados, antes, hi⟩ h => ?_
  cases e with
  | proceso e => exact ⟨cortados, antes, vuelta_paso hg hi h⟩
  | corte marcados =>
    change (if Quieta r ∧ ∃ b, marcados b = true then some (cortar marcados r) else none) = some t at h
    split at h
    · rename_i hq
      cases h
      exact ⟨_, _, vuelta_cortar hg hi hq.1 hq.2⟩
    · cases h

/-! ## The end of a round -/

theorem Vuelta.resultado (h : Vuelta P cortados (fun k => (r.anillo.nodo k).leaderName) g t) (hg : Mayor P g)
    (ht : Quieta t) : Resultado P cortados r t := by
  have hvacio : ∀ {k m}, m ∉ tramo t.anillo k := by
    intro k m hm
    rw [ht.tramo k] at hm
    cases hm
  have hpropone : ¬ Propone P t g := by
    rintro (hfase | ⟨j, m, hm, -⟩)
    · exact hfase (ht g).1
    · exact hvacio hm
  have himpuesto : ∀ b k, Impone P cortados b k → (t.anillo.nodo k).leaderName = P.localhostName b := by
    intro b k hI
    rcases h.impuesto b k hI with (hfase | ⟨j, -, m, hm, -⟩) | hq
    · exact absurd (ht b).1 hfase
    · exact absurd hm hvacio
    · exact hq.leaderName
  have hproceso : ∀ k, (t.anillo.nodo k).leaderProcess = true ↔ cortados k = true ∧ k = g := by
    intro k
    by_cases hk : k = g
    · subst hk
      cases hcortado : cortados k with
      | true => exact iff_of_true ((h.electo hcortado).resolve_left hpropone).leaderProcess ⟨rfl, rfl⟩
      | false =>
        obtain ⟨b, -, -, (hfase | ⟨j, -, m, hm, -⟩) | hparado⟩ := h.parado hcortado
        · rw [(ht b).1] at hfase
          cases hfase
        · exact absurd hm hvacio
        · rw [hparado]
          exact iff_of_false Bool.noConfusion fun hsi => Bool.noConfusion hsi.1
    · rw [h.otros k hk]
      exact iff_of_false Bool.noConfusion fun hsi => hk hsi.2
  constructor
  · exact fun k => (h.conexiones.establecida k).mpr (ht k).1
  · intro k
    rw [hproceso]
    refine and_congr_right fun _ => ⟨?_, fun hmayor => ?_⟩
    · rintro rfl
      exact hg.mayor
    · exact hg.distintos (le_antisymm (hg.mayor k) (hmayor g))
  · exact himpuesto
  · exact h.conservado
  · intro k
    have hanotado := h.anotados k
    unfold anotado at hanotado
    rw [List.isEmpty_iff.mp (ht k).2.2] at hanotado
    exact hanotado
  · intro g' hg' k
    obtain ⟨hcortado, rfl⟩ := (hproceso g').mp hg'
    by_cases hk : k = g'
    · rw [hk]
      exact h.mayor hg
    · exact himpuesto g' k ⟨hcortado, ⟨Ne.symm hk, supera_mayor hg k⟩, fun c _ _ => hg.mayor c⟩

/-! ## Every round ends -/

/-- As long as something is on its way, some process can move. -/
theorem Vuelta.quieta (h : Vuelta P cortados antes g r) (hb : Bloqueado (pasoRed P) r) : Quieta r := by
  have hin : ∀ k, r.inbound P k = none := fun k => hb (.inbound k)
  have hout : ∀ k, r.outbound P k = none := fun k => hb (.outbound k)
  have hinicio : ∀ k, (r.anillo.nodo k).fase ≠ .inicio := by
    intro k hfase
    have hk := hin k
    unfold Red.inbound pasoInbound at hk
    simp [hfase] at hk
  have henlace : ∀ k, (r.anillo.nodo k).fase = .passage → r.anillo.enlace k = [] := by
    intro k hfase
    have hk := hin k
    unfold Red.inbound pasoInbound toma at hk
    cases hcola : r.anillo.enlace k with
    | nil => rfl
    | cons m resto => simp [hfase, hcola] at hk
  have hvacio : ∀ k, r.anillo.enlace k = [] := by
    intro k
    by_cases hcon : r.conexion k = .establecida
    · exact henlace k ((h.conexiones.establecida k).mp hcon)
    · exact h.conexiones.vacio k hcon
  have hcola : ∀ k, r.conexion (k + 1) ≠ .abierta → (r.anillo.nodo k).userlandOutboundQueue = [] := by
    intro k hcon
    have hk := hout k
    unfold Red.outbound pasoOutbound at hk
    cases hcola : (r.anillo.nodo k).userlandOutboundQueue with
    | nil => rfl
    | cons m resto =>
      cases hcon' : r.conexion (k + 1) with
      | establecida => simp [hcon', hcola] at hk
      | rota => simp [hcon', hcola] at hk
      | abierta => exact absurd hcon' hcon
  -- a LinkBroken is before each broken connection
  have hrota : ∀ k, r.conexion (k + 1) ≠ .rota := by
    intro k hk
    obtain ⟨b, haviso⟩ := h.avisos k hk
    rcases haviso.estado with ⟨hfase, -⟩ | ⟨i, ⟨m, resto, hm, -⟩, hik, -⟩
    · exact hinicio b hfase
    · have hcon : r.conexion (i + 1) ≠ .abierta := by
        by_cases hi : i = k
        · rw [hi, hk]
          exact Conexion.noConfusion
        · have hdist : desde b i ≠ desde b k := fun he => hi (desde_inj he)
          have hib : i + 1 ≠ b := by
            intro he
            have hle := desde_le he k
            omega
          have hsucc := desde_succ hib
          rw [(h.conexiones.establecida _).mpr
            (h.propuestas.fase _ (haviso.sanos (i + 1) hib (by omega)))]
          exact Conexion.noConfusion
      unfold tramo at hm
      rw [hvacio, hcola i hcon] at hm
      cases hm
  have hpassage : ∀ k, (r.anillo.nodo k).fase = .passage := by
    intro k
    obtain ⟨j, rfl⟩ : ∃ j, k = j + 1 := ⟨k - 1, (sub_add_cancel k 1).symm⟩
    cases hfase : (r.anillo.nodo (j + 1)).fase with
    | passage => rfl
    | inicio => exact absurd hfase (hinicio _)
    | tail =>
      have hk := hin (j + 1)
      unfold Red.inbound pasoInbound at hk
      cases hcon : r.conexion (j + 1) with
      | establecida =>
        rw [h.conexiones.establecida, hfase] at hcon
        cases hcon
      | rota => exact absurd hcon (hrota j)
      | abierta => simp [hfase, hcon] at hk
  intro k
  refine ⟨hpassage k, by rw [hvacio]; rfl, ?_⟩
  rw [hcola k]
  · rfl
  · rw [(h.conexiones.establecida _).mpr (hpassage _)]
    exact Conexion.noConfusion

theorem Quieta.bloqueada (h : Quieta r) (hc : Conexiones r) : Bloqueado (pasoRed P) r := by
  intro e
  cases e with
  | inbound k =>
    show r.inbound P k = none
    unfold Red.inbound pasoInbound toma
    simp [(h k).1, List.isEmpty_iff.mp (h k).2.1]
  | outbound k =>
    show r.outbound P k = none
    unfold Red.outbound pasoOutbound
    simp [(hc.establecida _).mpr (h (k + 1)).1, List.isEmpty_iff.mp (h k).2.2]

theorem medida_red {e : Evento n} (h : pasoRed P r e = some t) : medida P t.anillo < medida P r.anillo := by
  cases e with
  | inbound k =>
    change r.inbound P k = some t at h
    unfold Red.inbound at h
    split at h
    · obtain ⟨s, hs, rfl⟩ := Option.map_eq_some_iff.mp h
      exact medida_inbound hs
    · obtain ⟨s, hs, rfl⟩ := Option.map_eq_some_iff.mp h
      exact medida_inbound hs
    · cases h
    · obtain ⟨s, hs, rfl⟩ := Option.map_eq_some_iff.mp h
      exact medida_inbound hs
  | outbound k =>
    change r.outbound P k = some t at h
    unfold Red.outbound at h
    split at h
    · obtain ⟨s, hs, rfl⟩ := Option.map_eq_some_iff.mp h
      exact medida_outbound hs
    · rename_i m resto _ hcola
      cases h
      have hpierde : ∀ d : Nodo ν, d.fase = (r.anillo.nodo k).fase → d.userlandOutboundQueue = resto →
          medida P (r.anillo.pon k d) < medida P r.anillo := by
        intro d hfase hresto
        have hsuma := medida_pon P r.anillo k d
        have hantes : pesoDe P (r.anillo.nodo k) = pesoDe P d + (2 * m.ttl + 2) := by
          unfold pesoDe
          rw [hcola, hresto, hfase, List.map_cons, List.sum_cons]
          omega
        omega
      obtain ⟨hmismo, hresto, -⟩ := handleOutbound_mismo (P.localhostName k)
        { r.anillo.nodo k with userlandOutboundQueue := resto } m
      exact hpierde _ hmismo.fase hresto
    · cases h
    · cases h

/-- What the nodes may still push and send. -/
def tope (P : Parametros n ν) : Nat := n * (2 * (2 * P.ttl + 3))

omit [LinearOrder ν] [NeZero n] in
theorem medida_cortar (P : Parametros n ν) (h : Quieta r) : medida P (cortar marcados r).anillo ≤ tope P := by
  have hnodo : ∀ k, pesoDe P ((cortar marcados r).anillo.nodo k) ≤ 2 * (2 * P.ttl + 3) := by
    intro k
    have hcola := nodo_cortar marcados r Nodo.userlandOutboundQueue (fun _ => rfl) k
    unfold pesoDe
    rw [hcola, List.isEmpty_iff.mp (h k).2.2]
    cases ((cortar marcados r).anillo.nodo k).fase with
    | inicio => exact Nat.le_refl _
    | tail =>
      show 2 * P.ttl + 3 + 0 ≤ _
      omega
    | passage => exact Nat.zero_le _
  have henlace : ∀ k, (((cortar marcados r).anillo.enlace k).map fun m => 2 * m.ttl + 1).sum = 0 := by
    intro k
    have hvacio : (cortar marcados r).anillo.enlace k = [] := List.isEmpty_iff.mp (h k).2.1
    rw [hvacio]
    rfl
  unfold medida total tope
  rw [Finset.sum_congr rfl fun k _ => henlace k, Finset.sum_const_zero, Nat.add_zero]
  refine (Finset.sum_le_card_nsmul _ _ _ fun k _ => hnodo k).trans (Nat.le_of_eq ?_)
  rw [Finset.card_univ, Fintype.card_fin, smul_eq_mul]

theorem medida_le (hr : Alcanza (paso P) (Red.inicial P) r) : medida P r.anillo ≤ tope P := by
  refine Alcanza.induccion (I := fun r => medida P r.anillo ≤ tope P) hr
    (Nat.le_of_eq (medida_inicial P)) fun r e t hi h => ?_
  cases e with
  | proceso e => exact Nat.le_trans (Nat.le_of_lt (medida_red h)) hi
  | corte marcados =>
    change (if Quieta r ∧ ∃ b, marcados b = true then some (cortar marcados r) else none) = some t at h
    split at h
    · rename_i hq
      cases h
      exact medida_cortar P hq.1
    · cases h

/-- However often links break while the ring is quiet, and whichever they are: the ring becomes quiet again
    in a bounded number of steps, only the node with the greatest name ever runs a leader process, and what
    each node has at the end is told by the links that broke last. -/
theorem reeleccion (P : Parametros n ν) (hdistintos : Function.Injective P.localhostName)
    (httl : n ≤ P.ttl) (r : Red n ν) (hr : Alcanza (paso P) (Red.inicial P) r) :
    (∀ es t, correr (pasoRed P) r es = some t → es.length ≤ n * (2 * (2 * P.ttl + 3))) ∧
    (Bloqueado (pasoRed P) r ↔ Quieta r) ∧
    (∀ k, (r.anillo.nodo k).leaderProcess = true → ∀ j, P.localhostName j ≤ P.localhostName k) ∧
    ∀ cortados s t, paso P r (.corte cortados) = some s → Alcanza (pasoRed P) s t → Quieta t →
      Resultado P cortados r t := by
  obtain ⟨g, hmayor⟩ := Finite.exists_max P.localhostName
  have hg : Mayor P g := ⟨hdistintos, hmayor, httl⟩
  obtain ⟨cortados, antes, hv⟩ := exists_vuelta hg hr
  refine ⟨fun es t hes => ?_, ⟨hv.quieta, fun hq => hq.bloqueada hv.conexiones⟩, fun k hk j => ?_,
    fun marcados s t hs ht hq => ?_⟩
  · have hlargo := length_add_le (fun _ _ _ => medida_red) hes
    have hmedida := medida_le hr
    unfold tope at hmedida
    omega
  · by_cases hkg : k = g
    · rw [hkg]
      exact hmayor j
    · rw [hv.otros k hkg] at hk
      cases hk
  · change (if Quieta r ∧ ∃ b, marcados b = true then some (cortar marcados r) else none) = some s at hs
    split at hs
    · rename_i hcorte
      cases hs
      have hvuelta : Vuelta P marcados (fun k => (r.anillo.nodo k).leaderName) g t :=
        Alcanza.induccion (I := Vuelta P marcados _ g) ht (vuelta_cortar hg hv hcorte.1 hcorte.2)
          fun _ _ _ ha => vuelta_paso hg ha
      exact hvuelta.resultado hg hq
    · cases hs

theorem alcanza_procesos (h : Alcanza (pasoRed P) r t) : Alcanza (paso P) r t :=
  h.induccion (Alcanza.refl r) fun _ e _ ha he => ha.siguiente (e := .proceso e) he

/-- Three nodes in descending order, with the TTL of the configuration. -/
def tresDescendentes : Parametros 3 Nat := ⟨fun k => 2 - k.val, 65025⟩

/-- The first is elected; then the link to the second breaks.  Nobody leads, and the third follows the
    second. -/
theorem reeleccion_tres : ∃ r t : Red 3 Nat,
    Alcanza (paso tresDescendentes) (Red.inicial tresDescendentes) r ∧
    (r.anillo.nodo 0).leaderProcess = true ∧ Alcanza (paso tresDescendentes) r t ∧
    (∀ k, (t.anillo.nodo k).leaderProcess = false) ∧ (t.anillo.nodo 2).leaderName = 1 := by
  have hdistintos : Function.Injective tresDescendentes.localhostName := by
    intro i j h
    have hij : 2 - i.val = 2 - j.val := h
    omega
  have hrun : ((correr (pasoRed tresDescendentes) (Red.inicial tresDescendentes)
      [.inbound 0, .inbound 0, .inbound 1, .inbound 1, .inbound 2, .inbound 2, .outbound 0, .inbound 1,
        .outbound 0, .inbound 1, .outbound 1, .inbound 2, .outbound 1, .inbound 2, .outbound 1, .inbound 2,
        .outbound 1, .inbound 2, .outbound 2, .inbound 0, .outbound 0, .inbound 1, .outbound 1, .inbound 2,
        .outbound 2, .inbound 0, .outbound 2, .inbound 0, .outbound 0, .inbound 1, .outbound 2, .inbound 0,
        .outbound 2, .inbound 0, .outbound 2, .inbound 0]).bind fun r =>
      (paso tresDescendentes r (.corte fun k => decide (k = 1))).bind fun s =>
        (correr (pasoRed tresDescendentes) s
          [.inbound 1, .outbound 1, .inbound 2, .outbound 2, .inbound 0, .outbound 0, .inbound 1,
            .outbound 1, .inbound 2, .outbound 2, .inbound 0]).bind fun t =>
          if (r.anillo.nodo 0).leaderProcess ∧ Quieta t then some () else none) = some () := by
    decide +kernel
  obtain ⟨r, hr, hrun⟩ := Option.bind_eq_some_iff.mp hrun
  obtain ⟨s, hs, hrun⟩ := Option.bind_eq_some_iff.mp hrun
  obtain ⟨t, ht, hrun⟩ := Option.bind_eq_some_iff.mp hrun
  split at hrun
  case isFalse => cases hrun
  rename_i hquieta
  have hr : Alcanza (paso tresDescendentes) (Red.inicial tresDescendentes) r := alcanza_procesos ⟨_, hr⟩
  have ht : Alcanza (pasoRed tresDescendentes) s t := ⟨_, ht⟩
  obtain ⟨-, -, -, hresultado⟩ := reeleccion tresDescendentes hdistintos (by decide) r hr
  have h := hresultado _ s t hs ht hquieta.2
  refine ⟨r, t, hr, hquieta.1, ?_, fun k => ?_, h.impuesto 1 2 ⟨rfl, ?_, fun c hc _ => ?_⟩⟩
  · obtain ⟨es, hes⟩ := alcanza_procesos ht
    exact ⟨.corte (fun k => decide (k = 1)) :: es, by simp [correr, hs, hes]⟩
  · rw [← Bool.not_eq_true, h.leaderProcess]
    rintro ⟨hk, hmayor⟩
    rw [of_decide_eq_true hk] at hmayor
    exact absurd (hmayor 0) (by decide)
  · refine ⟨by decide, fun i hi hle => ?_⟩
    revert i
    decide
  · rw [of_decide_eq_true hc]

end Reeleccion
