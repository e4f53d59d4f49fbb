import Aeropuerto.Broker.ArranqueGrupo

/-!
# Who creates the token of a group (`local_broker/group_receiver.cpp`)

A broker that is told that it is the leader, and has not heard of the token, creates it with
`inicializar_grupo`.  The token is never lost here.
-/

namespace ArranqueGrupo

open Ejecucion

variable {n : Nat}

/-- `inicializar_grupo` is executed by at most one broker. -/
def UnaCreacion (s : Estado n) : Prop :=
  ∀ j k, 0 < (s.nodo j).creaciones → 0 < (s.nodo k).creaciones → j = k

/-- The broker becomes the leader and has not heard of the token. -/
def creaToken (b : Broker n) (m : Mensaje n) : Bool :=
  m = .leader && (!b.leader && !b.tokenInicializado)

/-- A broker that has not heard of the token becomes the leader only if no other one is. -/
def sinOtroLider (s : Estado n) : Evento n → Bool
  | .recibe k =>
    match (s.nodo k).cola with
    | m :: _ => !creaToken (s.nodo k) m || decide (∀ j, j ≠ k → (s.nodo j).leader = false)
    | [] => true
  | _ => true

/-! ## The invariant -/

/-- A broker is the leader from its first notice on. -/
structure Bien (b : Broker n) : Prop where
  arranque : b.fase ≠ .loopToken → b.leader = false
  creador : 0 < b.creaciones → b.leader = true

def Mensaje.sinToken : Mensaje n → Prop
  | .initialization _ | .leader => True
  | _ => False

/-- Nothing that the broker holds says that the token exists. -/
structure SinToken (b : Broker n) : Prop where
  leader : b.leader = false
  tokenInicializado : b.tokenInicializado = false
  tokens : b.tokens = 0
  cola : ∀ m ∈ b.cola, m.sinToken

structure Inv (s : Estado n) : Prop where
  bien : ∀ k, Bien (s.nodo k)
  -- while nobody has created the token, nobody has heard of it
  sinToken : (∀ k, (s.nodo k).creaciones = 0) → Ronda.Todos SinToken Mensaje.sinToken s

theorem inv_inicial : Inv (inicial : Estado n) where
  bien _ := ⟨fun _ => rfl, nofun⟩
  sinToken _ := ⟨fun _ => ⟨rfl, rfl, rfl, nofun⟩, fun _ => nofun⟩

variable {s t : Estado n} {k j : Fin n} {b : Broker n} {m : Mensaje n} {r : Broker n × List (Mensaje n)}

/-! ## A message -/

theorem serLider_creaciones (b : Broker n) :
    (serLider b).creaciones = b.creaciones + if b.tokenInicializado then 0 else 1 := by
  unfold serLider
  split <;> rfl

theorem despacha_creaciones (hb : Bien b) (h : despacha k b m = some r) :
    r.1.creaciones = b.creaciones + if creaToken b m then 1 else 0 := by
  have hleader : creaToken b .leader = (!b.leader && !b.tokenInicializado) := by
    unfold creaToken
    rw [decide_eq_true rfl, Bool.true_and]
  rcases despacha_eq_some h with ⟨hfase, rfl⟩ | ⟨hfase, rfl⟩
  · cases m with
    | leader =>
      have hno := hb.arranque (by rw [hfase]; nofun)
      show (serLider b).creaciones = _
      rw [serLider_creaciones, hleader, hno]
      cases b.tokenInicializado <;> rfl
    | initialization data =>
      unfold inicializando
      dsimp only
      split <;> rfl
    | leaderElected data => rfl
    | tokenDeliver => rfl
  · cases m with
    | leader =>
      rw [hleader]
      unfold procesarMensaje
      dsimp only
      split
      · rename_i hsi
        rw [hsi]
        rfl
      · rename_i hno
        rw [Bool.not_eq_true] at hno
        rw [serLider_creaciones, hno]
        cases b.tokenInicializado <;> rfl
    | initialization data =>
      unfold procesarMensaje
      dsimp only
      split <;> rfl
    | leaderElected data => rfl
    | tokenDeliver => rfl

theorem serLider_leader (b : Broker n) : (serLider b).leader = true := by
  unfold serLider
  split <;> rfl

theorem Bien.despacha (hb : Bien b) (h : despacha k b m = some r) : Bien r.1 := by
  rcases despacha_eq_some h with ⟨hfase, rfl⟩ | ⟨hfase, rfl⟩
  · cases m with
    | leader => exact ⟨fun hno => absurd rfl hno, fun _ => serLider_leader b⟩
    | initialization data =>
      unfold inicializando
      dsimp only
      split
      · exact ⟨fun hno => absurd rfl hno, hb.creador⟩
      · exact hb
    | leaderElected data =>
      -- it has created nothing, since it was not the leader
      have hno := hb.arranque (by rw [hfase]; nofun)
      refine ⟨fun _ => rfl, fun hpos => ?_⟩
      rw [hb.creador hpos] at hno
      cases hno
    | tokenDeliver => exact hb
  · cases m with
    | leader =>
      unfold procesarMensaje
      dsimp only
      split
      · exact hb
      · refine ⟨fun hno => absurd ?_ hno, fun _ => serLider_leader b⟩
        unfold serLider
        split <;> exact hfase
    | initialization data =>
      unfold procesarMensaje
      dsimp only
      split <;> exact hb
    | leaderElected data => exact hb
    | tokenDeliver => exact ⟨hb.arranque, hb.creador⟩

theorem SinToken.despacha (hb : SinToken b) (hm : m.sinToken) (h : despacha k b m = some r)
    (hno : r.1.creaciones = 0) : SinToken r.1 ∧ ∀ m' ∈ r.2, m'.sinToken := by
  have hlider : (serLider b).creaciones ≠ 0 := by
    rw [serLider_creaciones, hb.tokenInicializado]
    exact Nat.succ_ne_zero _
  rcases despacha_eq_some h with ⟨hfase, rfl⟩ | ⟨hfase, rfl⟩
  · cases m with
    | leader => exact absurd hno hlider
    | initialization data =>
      unfold inicializando
      dsimp only
      split
      · exact ⟨⟨hb.leader, hb.tokenInicializado, hb.tokens, hb.cola⟩, nofun⟩
      · exact ⟨hb, nofun⟩
    | leaderElected data => exact hm.elim
    | tokenDeliver => exact hm.elim
  · cases m with
    | leader =>
      unfold procesarMensaje at hno ⊢
      dsimp only at hno ⊢
      rw [hb.leader] at hno ⊢
      exact absurd hno hlider
    | initialization data =>
      unfold procesarMensaje
      dsimp only
      split
      · rw [hb.leader]
        refine ⟨hb, fun m' hm' => ?_⟩
        rw [List.mem_singleton.mp hm']
        exact trivial
      · exact ⟨hb, nofun⟩
    | leaderElected data => exact hm.elim
    | tokenDeliver => exact hm.elim

/-! ## One step -/

variable [NeZero n]

/-- What a step in which the broker handles no message leaves in it. -/
structure Conserva (b b' : Broker n) : Prop where
  leader : b'.leader = b.leader
  creaciones : b'.creaciones = b.creaciones
  fase : b.fase = .loopToken → b'.fase = .loopToken

omit [NeZero n] in
theorem Conserva.bien {b' : Broker n} (h : Conserva b b') (hb : Bien b) : Bien b' where
  arranque hfase := by
    rw [h.leader]
    exact hb.arranque fun hloop => hfase (h.fase hloop)
  creador hpos := by
    rw [h.leader]
    exact hb.creador (h.creaciones ▸ hpos)

/-- Every broker, after a step in which none handles a message. -/
theorem conserva_paso {e : Evento n} (he : ∀ k, e ≠ .recibe k) (h : paso s e = some t) (j : Fin n) :
    Conserva (s.nodo j) (t.nodo j) := by
  have hpon : ∀ {k : Fin n} {b : Broker n}, Conserva (s.nodo k) b →
      Conserva (s.nodo j) ((s.pon k b).nodo j) := by
    intro k b hb
    by_cases hj : j = k
    · rw [hj, Ronda.nodo_pon_self]
      exact hb
    · rw [Ronda.nodo_pon_of_ne hj]
      exact ⟨rfl, rfl, fun h => h⟩
  cases e with
  | construye k =>
    unfold paso at h
    dsimp only at h
    split at h <;> cases h
    rename_i hfase
    refine hpon ⟨rfl, rfl, fun hloop => ?_⟩
    rw [hfase] at hloop
    cases hloop
  | arranca k =>
    unfold paso at h
    dsimp only at h
    split at h <;> cases h
    rename_i hfase
    refine hpon ⟨rfl, rfl, fun hloop => ?_⟩
    rw [hfase] at hloop
    cases hloop
  | leader k =>
    unfold paso at h
    cases h
    exact hpon ⟨rfl, rfl, fun h => h⟩
  | multiplexor k =>
    unfold paso multiplexar at h
    obtain ⟨⟨m, u⟩, hu, rfl⟩ := Option.map_eq_some_iff.mp h
    dsimp only
    have hnodo := Ronda.nodo_toma hu
    split
    · rw [Ronda.nodo_envia, hnodo]
      exact ⟨rfl, rfl, fun h => h⟩
    · have hmismo : (u.pon k (encolar (s.nodo k) m)).nodo = (s.pon k (encolar (s.nodo k) m)).nodo := by
        unfold Ronda.pon
        rw [hnodo]
      rw [hmismo]
      exact hpon ⟨rfl, rfl, fun h => h⟩
  | recibe k => exact absurd rfl (he k)
  | sendToken k =>
    unfold paso at h
    dsimp only at h
    split at h <;> cases h
    exact hpon ⟨rfl, rfl, fun h => h⟩

theorem sinToken_otros {e : Evento n} (he : ∀ k, e ≠ .recibe k)
    (hs : Ronda.Todos SinToken Mensaje.sinToken s) (h : paso s e = some t) :
    Ronda.Todos SinToken Mensaje.sinToken t := by
  have hcola : ∀ {b : Broker n} {m : Mensaje n}, SinToken b → m.sinToken →
      ∀ m' ∈ b.cola ++ [m], m'.sinToken := by
    intro b m hb hm m' hm'
    rcases List.mem_append.mp hm' with hm' | hm'
    · exact hb.cola m' hm'
    · rw [List.mem_singleton.mp hm']
      exact hm
  cases e with
  | construye k =>
    unfold paso at h
    dsimp only at h
    split at h <;> cases h
    have hb := hs.nodo k
    have hnodo : SinToken (registrar (s.nodo k)) := by
      refine ⟨hb.leader, hb.tokenInicializado, hb.tokens, ?_⟩
      unfold registrar
      dsimp only
      split
      · exact hcola hb trivial
      · exact hb.cola
    exact hs.pon hnodo k
  | arranca k =>
    unfold paso at h
    dsimp only at h
    split at h <;> cases h
    have hb := hs.nodo k
    have hnodo : SinToken { s.nodo k with fase := .inicializando } :=
      ⟨hb.leader, hb.tokenInicializado, hb.tokens, hb.cola⟩
    refine (hs.pon hnodo k).envia (fun m hm => ?_) k
    rw [List.mem_singleton.mp hm]
    exact trivial
  | leader k =>
    unfold paso at h
    cases h
    have hb := hs.nodo k
    have hnodo : SinToken (avisarLeader (s.nodo k)) := by
      refine ⟨hb.leader, hb.tokenInicializado, hb.tokens, ?_⟩
      unfold avisarLeader
      dsimp only
      split
      · exact hb.cola
      · exact hcola hb trivial
    exact hs.pon hnodo k
  | multiplexor k =>
    unfold paso multiplexar at h
    obtain ⟨⟨m, u⟩, hu, rfl⟩ := Option.map_eq_some_iff.mp h
    obtain ⟨hm, htodos⟩ := hs.toma hu
    have hb := hs.nodo k
    dsimp only
    split
    · refine htodos.envia (fun m' hm' => ?_) k
      rw [List.mem_singleton.mp hm']
      exact hm
    · have hnodo : SinToken (encolar (s.nodo k) m) :=
        ⟨hb.leader, hb.tokenInicializado, hb.tokens, hcola hb hm⟩
      exact htodos.pon hnodo k
  | recibe k => exact absurd rfl (he k)
  | sendToken k =>
    unfold paso at h
    dsimp only at h
    rw [(hs.nodo k).tokens, if_neg (Nat.lt_irrefl 0)] at h
    cases h

/-- What handling a message does to the creations. -/
theorem creaciones_recibir (hi : Inv s) (h : recibir s k = some t) :
    ∃ m resto, (s.nodo k).cola = m :: resto ∧
      (∀ j, j ≠ k → t.nodo j = s.nodo j) ∧ Bien (t.nodo k) ∧
        (t.nodo k).creaciones = (s.nodo k).creaciones + if creaToken (s.nodo k) m then 1 else 0 := by
  obtain ⟨m, resto, r, hcola, hr, rfl, -⟩ := recibir_eq_some h
  have hb : Bien { s.nodo k with cola := resto } := ⟨(hi.bien k).arranque, (hi.bien k).creador⟩
  refine ⟨m, resto, hcola, fun j hj => ?_, ?_, ?_⟩
  · rw [Ronda.nodo_envia, Ronda.nodo_pon_of_ne hj]
  · rw [Ronda.nodo_envia, Ronda.nodo_pon_self]
    exact hb.despacha hr
  · rw [Ronda.nodo_envia, Ronda.nodo_pon_self]
    have hcreaciones := despacha_creaciones hb hr
    exact hcreaciones

theorem inv_recibir (hi : Inv s) (h : recibir s k = some t) : Inv t := by
  obtain ⟨m, resto, hcola, hotros, hbien, hcreaciones⟩ := creaciones_recibir hi h
  constructor
  · intro j
    by_cases hj : j = k
    · rw [hj]
      exact hbien
    · rw [hotros j hj]
      exact hi.bien j
  · intro hcero
    have hantes : ∀ j, (s.nodo j).creaciones = 0 := by
      intro j
      by_cases hj : j = k
      · have hk := hcero k
        rw [hj]
        omega
      · rw [← hotros j hj]
        exact hcero j
    have hs := hi.sinToken hantes
    obtain ⟨m, resto, r, hcola, hr, rfl, -⟩ := recibir_eq_some h
    have hb := hs.nodo k
    have hm : m.sinToken := hb.cola m (by rw [hcola]; exact List.mem_cons_self)
    have hresto : SinToken { s.nodo k with cola := resto } :=
      ⟨hb.leader, hb.tokenInicializado, hb.tokens, fun m' hm' =>
        hb.cola m' (by rw [hcola]; exact List.mem_cons_of_mem m hm')⟩
    have hk := hcero k
    rw [Ronda.nodo_envia, Ronda.nodo_pon_self] at hk
    obtain ⟨hnodo, hpush⟩ := hresto.despacha hm hr hk
    exact (hs.pon hnodo k).envia hpush k

theorem inv_paso {e : Evento n} (hi : Inv s) (h : paso s e = some t) : Inv t := by
  cases e with
  | recibe k => exact inv_recibir hi h
  | _ =>
    have hconserva := conserva_paso (by nofun) h
    refine ⟨fun j => (hconserva j).bien (hi.bien j), fun hcero => sinToken_otros (by nofun) ?_ h⟩
    exact hi.sinToken fun j => (hconserva j).creaciones ▸ hcero j

/-! ## The token is created once -/

omit [NeZero n] in
/-- If some broker is the leader, some broker has created the token, and it is a leader too. -/
theorem Inv.creador (hi : Inv s) (hj : (s.nodo j).leader = true) :
    ∃ i, 0 < (s.nodo i).creaciones ∧ (s.nodo i).leader = true := by
  by_contra hno
  push Not at hno
  have hcero : ∀ i, (s.nodo i).creaciones = 0 := by
    intro i
    by_contra hpos
    exact hno i (Nat.pos_of_ne_zero hpos) ((hi.bien i).creador (Nat.pos_of_ne_zero hpos))
  have hsin := (hi.sinToken hcero).nodo j
  rw [hsin.leader] at hj
  cases hj

theorem unaCreacion_recibir (hi : Inv s) (hs : UnaCreacion s) (h : recibir s k = some t) :
    UnaCreacion t ↔ sinOtroLider s (.recibe k) = true := by
  obtain ⟨m, resto, hcola, hotros, -, hcreaciones⟩ := creaciones_recibir hi h
  unfold sinOtroLider
  simp only [hcola]
  cases hcrea : creaToken (s.nodo k) m with
  | false =>
    rw [hcrea] at hcreaciones
    have hmismas : ∀ j, (t.nodo j).creaciones = (s.nodo j).creaciones := by
      intro j
      by_cases hj : j = k
      · rw [hj]
        exact hcreaciones
      · rw [hotros j hj]
    refine ⟨fun _ => rfl, fun _ i j hpi hpj => ?_⟩
    rw [hmismas] at hpi hpj
    exact hs i j hpi hpj
  | true =>
    rw [hcrea, if_pos rfl] at hcreaciones
    have hpos : 0 < (t.nodo k).creaciones := by omega
    have hno : (s.nodo k).leader = false := by
      simp only [creaToken, Bool.and_eq_true, Bool.not_eq_true'] at hcrea
      exact hcrea.2.1
    rw [Bool.not_true, Bool.false_or, decide_eq_true_eq]
    constructor
    · -- another leader means that the token had been created
      intro huna j hj
      rw [← Bool.not_eq_true]
      intro hleader
      obtain ⟨i, hpi, hli⟩ := hi.creador hleader
      have hik : i ≠ k := by
        intro he
        rw [he, hno] at hli
        cases hli
      exact hik (huna i k (by rw [hotros i hik]; exact hpi) hpos)
    · intro hsolo
      have hsoloK : ∀ i, 0 < (t.nodo i).creaciones → i = k := by
        intro i hpi
        by_contra hik
        rw [hotros i hik] at hpi
        have hleader := (hi.bien i).creador hpi
        rw [hsolo i hik] at hleader
        cases hleader
      intro i j hpi hpj
      rw [hsoloK i hpi, hsoloK j hpj]

theorem unaCreacion_paso {e : Evento n} (hi : Inv s) (hs : UnaCreacion s) (h : paso s e = some t) :
    UnaCreacion t ↔ sinOtroLider s e = true := by
  cases e with
  | recibe k => exact unaCreacion_recibir hi hs h
  | _ =>
    have hconserva := conserva_paso (by nofun) h
    refine ⟨fun _ => rfl, fun _ i j hpi hpj => ?_⟩
    rw [(hconserva _).creaciones] at hpi hpj
    exact hs i j hpi hpj

/-- In the runs in which a broker that has not heard of the token becomes the leader only if no other one
    is, one broker at most creates it; and a step out of the condition creates it again. -/
theorem una_creacion
    (h : AlcanzaBajo (fun (s : Estado n) e => sinOtroLider s e = true) paso inicial s) :
    UnaCreacion s ∧ ∀ e t, paso s e = some t → (UnaCreacion t ↔ sinOtroLider s e = true) := by
  have hs : Inv s ∧ UnaCreacion s :=
    AlcanzaBajo.induccion (I := fun s => Inv s ∧ UnaCreacion s) h ⟨inv_inicial, nofun⟩
      fun a e b ha hc hb => ⟨inv_paso ha.1 hb, (unaCreacion_paso ha.1 ha.2 hb).mpr hc⟩
  exact ⟨hs.2, fun e t => unaCreacion_paso hs.1 hs.2⟩

/-! ## Two leaders -/

/-- The second leader has been answered before it is elected. -/
theorem una_creacion_lider_nuevo : ∃ s : Estado 2,
    AlcanzaBajo (fun (s : Estado 2) e => sinOtroLider s e = true) paso inicial s ∧
      (s.nodo 0).creaciones = 1 ∧ (s.nodo 1).leader = true ∧ UnaCreacion s := by
  have hrun : (correr (pasoBajo (fun (s : Estado 2) e => sinOtroLider s e = true) paso) inicial
      [.construye 0, .leader 0, .arranca 0, .recibe 0, .multiplexor 1, .multiplexor 0, .recibe 0,
        .construye 1, .arranca 1, .multiplexor 0, .recibe 0, .multiplexor 1, .recibe 1, .leader 1,
        .recibe 1]).map (fun s => ((s.nodo 0).creaciones, (s.nodo 1).leader)) = some (1, true) := by
    decide +kernel
  obtain ⟨s, hs, hvalores⟩ := Option.map_eq_some_iff.mp hrun
  simp only [Prod.mk.injEq] at hvalores
  exact ⟨s, ⟨_, hs⟩, hvalores.1, hvalores.2, (una_creacion ⟨_, hs⟩).1⟩

/-- A broker that starts is elected before its announcement is answered: it creates another token. -/
theorem dos_creaciones : ¬ ∀ s : Estado 2, Alcanza paso inicial s → UnaCreacion s := by
  intro h
  have hrun : (correr paso (inicial : Estado 2)
      [.construye 0, .leader 0, .arranca 0, .recibe 0, .construye 1, .arranca 1, .leader 1,
        .recibe 1]).map (fun s => ((s.nodo 0).creaciones, (s.nodo 1).creaciones)) = some (1, 1) := by
    decide +kernel
  obtain ⟨s, hs, hvalores⟩ := Option.map_eq_some_iff.mp hrun
  simp only [Prod.mk.injEq] at hvalores
  have hmismo := h s ⟨_, hs⟩ 0 1 (by rw [hvalores.1]; exact Nat.one_pos)
    (by rw [hvalores.2]; exact Nat.one_pos)
  cases hmismo

end ArranqueGrupo
