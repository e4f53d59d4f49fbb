import Aeropuerto.Biblioteca.Ejecucion
import Aeropuerto.Biblioteca.Ronda

/-!
# Brokers that start a group (`local_broker/group_receiver.cpp`, `group_multiplexer.cpp`)

Each broker of the ring starts a `GroupReceiver` for the group.  It announces itself with a message
INITIALIZATION and leaves `inicializando` on a notice LEADER, on LEADER_ELECTED or when its message comes
back.  The names of the brokers are their places in the ring; the token travels in one message.
-/

namespace ArranqueGrupo

open Ejecucion

variable {n : Nat}

inductive Mensaje (n : Nat) where
  -- with the name of the broker that starts
  | initialization (data : Fin n)
  | leaderElected (data : Fin n)
  | leader
  | tokenDeliver
  deriving DecidableEq

inductive Fase where
  -- the multiplexer has no queue for the group
  | sinGrupo
  | construido
  | inicializando
  | loopToken
  deriving DecidableEq

/-- The receiver of the group in a broker. -/
structure Broker (n : Nat) where
  fase : Fase
  leader : Bool
  tokenInicializado : Bool
  -- *lider of the multiplexer
  lider : Bool
  -- its messages in cola_espera_grupos
  cola : List (Mensaje n)
  -- the tokens of the group in the broker
  tokens : Nat
  -- the calls of inicializar_grupo
  creaciones : Nat

/-- The links are the queues of the interface with the ring. -/
abbrev Estado (n : Nat) := Ronda n (Broker n) (Mensaje n)

def inicial : Estado n where
  nodo := fun _ => ⟨.sinGrupo, false, false, false, [], 0, 0⟩
  enlace := fun _ => []

/-- `inicializar_grupo`, with `crear_token`. -/
def inicializarGrupo (b : Broker n) : Broker n :=
  { b with tokens := b.tokens + 1, creaciones := b.creaciones + 1 }

def serLider (b : Broker n) : Broker n :=
  if b.tokenInicializado then { b with leader := true }
  else inicializarGrupo { b with leader := true }

/-- The loop of `inicializando` on a message, with what it pushes. -/
def inicializando (k : Fin n) (b : Broker n) : Mensaje n → Broker n × List (Mensaje n)
  | .leader => ({ serLider b with fase := .loopToken }, [])
  | .initialization data => if data = k then ({ b with fase := .loopToken }, []) else (b, [])
  | .leaderElected _ =>
    ({ b with leader := false, tokenInicializado := true, fase := .loopToken }, [])
  | .tokenDeliver => (b, [.tokenDeliver])

/-- `recv_token` and `procesar_mensaje` on a message. -/
def procesarMensaje (k : Fin n) (b : Broker n) : Mensaje n → Broker n × List (Mensaje n)
  | .tokenDeliver => ({ b with tokenInicializado := true, tokens := b.tokens + 1 }, [])
  | .initialization data =>
    if data ≠ k then (b, [if b.leader then .leaderElected data else .initialization data]) else (b, [])
  | .leader => if b.leader then (b, []) else (serLider b, [])
  | .leaderElected _ => (b, [])

def despacha (k : Fin n) (b : Broker n) (m : Mensaje n) : Option (Broker n × List (Mensaje n)) :=
  match b.fase with
  | .inicializando => some (inicializando k b m)
  | .loopToken => some (procesarMensaje k b m)
  | _ => none

inductive Evento (n : Nat) where
  -- the constructor of GroupReceiver
  | construye (k : Fin n)
  -- run
  | arranca (k : Fin n)
  -- the multiplexer hears that its node is the leader
  | leader (k : Fin n)
  -- the multiplexer takes a message of the group from the ring
  | multiplexor (k : Fin n)
  | recibe (k : Fin n)
  -- GroupSender
  | sendToken (k : Fin n)

def Evento.broker : Evento n → Fin n
  | .construye k | .arranca k | .leader k | .multiplexor k | .recibe k | .sendToken k => k

/-- A queue for the group, with the notice that has already come. -/
def registrar (b : Broker n) : Broker n :=
  { b with fase := .construido, cola := if b.lider then b.cola ++ [.leader] else b.cola }

def encolar (b : Broker n) (m : Mensaje n) : Broker n :=
  { b with cola := b.cola ++ [m] }

def avisarLeader (b : Broker n) : Broker n :=
  { b with lider := true, cola := if b.fase = .sinGrupo then b.cola else b.cola ++ [.leader] }

variable [NeZero n]

def recibir (s : Estado n) (k : Fin n) : Option (Estado n) :=
  match (s.nodo k).cola with
  | m :: resto =>
    (despacha k { s.nodo k with cola := resto } m).map fun r => (s.pon k r.1).envia k r.2
  | [] => none

def multiplexar (s : Estado n) (k : Fin n) : Option (Estado n) :=
  (s.toma k).map fun r =>
    if (s.nodo k).fase = .sinGrupo then r.2.envia k [r.1]
    else r.2.pon k (encolar (s.nodo k) r.1)

def paso (s : Estado n) : Evento n → Option (Estado n)
  | .construye k =>
    if (s.nodo k).fase = .sinGrupo then some (s.pon k (registrar (s.nodo k))) else none
  | .arranca k =>
    if (s.nodo k).fase = .construido then
      some ((s.pon k { s.nodo k with fase := .inicializando }).envia k [.initialization k])
    else none
  | .leader k => some (s.pon k (avisarLeader (s.nodo k)))
  | .multiplexor k => multiplexar s k
  | .recibe k => recibir s k
  | .sendToken k =>
    if 0 < (s.nodo k).tokens then
      some ((s.pon k { s.nodo k with tokens := (s.nodo k).tokens - 1 }).envia k [.tokenDeliver])
    else none

/-! ## Announcements in flight -/

/-- The announcement of broker `i`, or the answer to it. -/
def anuncio (i : Fin n) (m : Mensaje n) : Nat :=
  if m = .initialization i ∨ m = .leaderElected i then 1 else 0

def enCola (i : Fin n) (b : Broker n) : Nat := (b.cola.map (anuncio i)).sum

def enVuelo (i : Fin n) (s : Estado n) : Nat := s.total (enCola i) (anuncio i)

/-- The broker does not lose an announcement of another one with the message. -/
def noPierde (k : Fin n) (b : Broker n) : Mensaje n → Bool
  | .initialization data => data = k ∨ b.fase ≠ .inicializando
  | .leaderElected data => data = k
  | _ => true

/-- No INITIALIZATION of another broker is handled inside `inicializando`, and LEADER_ELECTED is handled
    only by the broker that it answers. -/
def sinPerdida (s : Estado n) : Evento n → Bool
  | .recibe k =>
    match (s.nodo k).cola with
    | m :: _ => noPierde k (s.nodo k) m
    | [] => true
  | _ => true

variable {s t : Estado n} {k i : Fin n} {b : Broker n} {m : Mensaje n} {r : Broker n × List (Mensaje n)}

omit [NeZero n] in
theorem anuncio_of_ne {data : Fin n} (h : i ≠ data) :
    anuncio i (.initialization data) = 0 ∧ anuncio i (.leaderElected data) = 0 := by
  constructor
  · exact if_neg fun he => he.elim (fun he => h (Mensaje.initialization.inj he).symm) nofun
  · exact if_neg fun he => he.elim nofun (fun he => h (Mensaje.leaderElected.inj he).symm)

omit [NeZero n] in
theorem anuncio_self (i : Fin n) : anuncio i (.initialization i) = 1 ∧ anuncio i (.leaderElected i) = 1 :=
  ⟨if_pos (.inl rfl), if_pos (.inr rfl)⟩

omit [NeZero n] in
theorem serLider_cola (b : Broker n) : (serLider b).cola = b.cola := by
  unfold serLider
  split <;> rfl

omit [NeZero n] in
theorem despacha_eq_some (h : despacha k b m = some r) :
    b.fase = .inicializando ∧ r = inicializando k b m ∨ b.fase = .loopToken ∧ r = procesarMensaje k b m := by
  unfold despacha at h
  split at h <;> cases h
  · exact .inl ⟨‹_›, rfl⟩
  · exact .inr ⟨‹_›, rfl⟩

omit [NeZero n] in
theorem despacha_cola (h : despacha k b m = some r) : r.1.cola = b.cola := by
  rcases despacha_eq_some h with ⟨-, rfl⟩ | ⟨-, rfl⟩
  · cases m with
    | leader => exact serLider_cola b
    | initialization data =>
      unfold inicializando
      dsimp only
      split <;> rfl
    | leaderElected data => rfl
    | tokenDeliver => rfl
  · cases m with
    | leader =>
      unfold procesarMensaje
      dsimp only
      split
      · rfl
      · exact serLider_cola b
    | initialization data =>
      unfold procesarMensaje
      dsimp only
      split <;> rfl
    | leaderElected data => rfl
    | tokenDeliver => rfl

omit [NeZero n] in
/-- The announcement of another broker is lost when nothing is sent. -/
theorem not_ajenos_nil {data : Fin n} {enviados : List (Mensaje n)} (hne : data ≠ k)
    (huno : anuncio data m = 1) (hvacia : enviados = []) :
    ¬ ∀ i, i ≠ k → (enviados.map (anuncio i)).sum = anuncio i m := by
  intro htodos
  have hcero := htodos data hne
  rw [hvacia, huno] at hcero
  cases hcero

omit [NeZero n] in
/-- `LEADER_ELECTED` goes no further, whatever the broker is doing. -/
theorem ajenos_leaderElected (b : Broker n) (data : Fin n) :
    (∀ i, i ≠ k → (([] : List (Mensaje n)).map (anuncio i)).sum = anuncio i (.leaderElected data)) ↔
      noPierde k b (.leaderElected data) = true := by
  simp only [noPierde, decide_eq_true_eq]
  by_cases hdata : data = k
  · refine ⟨fun _ => hdata, fun _ i hi => ?_⟩
    rw [(anuncio_of_ne (hdata ▸ hi)).2]
    rfl
  · exact ⟨fun htodos => absurd htodos (not_ajenos_nil hdata (anuncio_self data).2 rfl),
      fun he => absurd he hdata⟩

omit [NeZero n] in
/-- What a broker does with the announcements of the others. -/
theorem despacha_ajenos (h : despacha k b m = some r) :
    (∀ i, i ≠ k → (r.2.map (anuncio i)).sum = anuncio i m) ↔ noPierde k b m = true := by
  rcases despacha_eq_some h with ⟨hfase, rfl⟩ | ⟨hfase, rfl⟩
  · cases m with
    | leader => exact ⟨fun _ => rfl, fun _ _ _ => rfl⟩
    | tokenDeliver => exact ⟨fun _ => rfl, fun _ _ _ => rfl⟩
    | initialization data =>
      simp only [noPierde, hfase, ne_eq, not_true_eq_false, or_false, decide_eq_true_eq]
      by_cases hdata : data = k
      · refine ⟨fun _ => hdata, fun _ i hi => ?_⟩
        unfold inicializando
        dsimp only
        rw [if_pos hdata, (anuncio_of_ne (hdata ▸ hi)).1]
        rfl
      · refine ⟨fun htodos => absurd htodos (not_ajenos_nil hdata (anuncio_self data).1 ?_),
          fun he => absurd he hdata⟩
        unfold inicializando
        dsimp only
        rw [if_neg hdata]
    | leaderElected data => exact ajenos_leaderElected b data
  · cases m with
    | leader =>
      refine ⟨fun _ => rfl, fun _ i _ => ?_⟩
      unfold procesarMensaje
      dsimp only
      split <;> rfl
    | tokenDeliver => exact ⟨fun _ => rfl, fun _ _ _ => rfl⟩
    | initialization data =>
      simp only [noPierde, hfase, ne_eq, reduceCtorEq, not_false_eq_true, or_true, decide_true, iff_true]
      intro i hi
      unfold procesarMensaje
      dsimp only
      split
      · split
        · simp [anuncio]
        · simp
      · rename_i hdata
        rw [not_not] at hdata
        rw [(anuncio_of_ne (hdata ▸ hi)).1]
        rfl
    | leaderElected data => exact ajenos_leaderElected b data

omit [NeZero n] in
/-- A broker that stays in its start has not lost its own. -/
theorem despacha_propio (h : despacha k b m = some r) (hfase : r.1.fase = .inicializando)
    (hno : noPierde k b m = true) :
    b.fase = .inicializando ∧ (r.2.map (anuncio k)).sum = anuncio k m := by
  rcases despacha_eq_some h with ⟨hantes, rfl⟩ | ⟨hantes, rfl⟩
  · refine ⟨hantes, ?_⟩
    cases m with
    | leader => cases hfase
    | tokenDeliver => rfl
    | initialization data =>
      have hdata : data = k := by simpa [noPierde, hantes] using hno
      unfold inicializando at hfase
      dsimp only at hfase
      rw [if_pos hdata] at hfase
      cases hfase
    | leaderElected data => cases hfase
  · exfalso
    have hmismo : (procesarMensaje k b m).1.fase = b.fase := by
      unfold procesarMensaje serLider
      split
      · rfl
      · split <;> rfl
      · split
        · rfl
        · split <;> rfl
      · rfl
    rw [hmismo, hantes] at hfase
    cases hfase

/-! ## One step -/

omit [NeZero n] in
theorem enVuelo_pon (i : Fin n) (s : Estado n) (k : Fin n) (b : Broker n) :
    enVuelo i (s.pon k b) + enCola i (s.nodo k) = enVuelo i s + enCola i b :=
  s.total_pon k b

theorem enVuelo_envia (i : Fin n) (s : Estado n) (k : Fin n) (l : List (Mensaje n)) :
    enVuelo i (s.envia k l) = enVuelo i s + (l.map (anuncio i)).sum :=
  s.total_envia k l

/-- The account of a message that is handled. -/
theorem recibir_eq_some (h : recibir s k = some t) :
    ∃ m resto r, (s.nodo k).cola = m :: resto ∧
      despacha k { s.nodo k with cola := resto } m = some r ∧ t = (s.pon k r.1).envia k r.2 ∧
        ∀ i, enVuelo i t + anuncio i m = enVuelo i s + (r.2.map (anuncio i)).sum := by
  unfold recibir at h
  split at h
  case h_2 => cases h
  rename_i m resto hcola
  obtain ⟨r, hr, rfl⟩ := Option.map_eq_some_iff.mp h
  refine ⟨m, resto, r, hcola, hr, rfl, fun i => ?_⟩
  have hpon := enVuelo_pon i s k r.1
  have hantes : enCola i (s.nodo k) = anuncio i m + (resto.map (anuncio i)).sum := by
    unfold enCola
    rw [hcola, List.map_cons, List.sum_cons]
  have hdespues : enCola i r.1 = (resto.map (anuncio i)).sum := by
    unfold enCola
    rw [despacha_cola hr]
  rw [enVuelo_envia]
  omega

theorem enVuelo_multiplexar (h : multiplexar s k = some t) (i : Fin n) : enVuelo i t = enVuelo i s := by
  unfold multiplexar at h
  obtain ⟨⟨m, u⟩, hu, rfl⟩ := Option.map_eq_some_iff.mp h
  have htoma : enVuelo i u + anuncio i m = enVuelo i s := Ronda.total_toma hu
  dsimp only
  split
  · rw [enVuelo_envia, List.map_singleton, List.sum_singleton, htoma]
  · have hpon := enVuelo_pon i u k (encolar (s.nodo k) m)
    rw [Ronda.nodo_toma hu] at hpon
    have hcola : enCola i (encolar (s.nodo k) m) = enCola i (s.nodo k) + anuncio i m := by
      unfold enCola encolar
      rw [List.map_append, List.sum_append, List.map_singleton, List.sum_singleton]
    omega

omit [NeZero n] in
/-- The notice LEADER is not an announcement. -/
theorem enCola_leader (i : Fin n) {b b' : Broker n} {c : Prop} [Decidable c]
    (h : b'.cola = if c then b.cola ++ [.leader] else b.cola) : enCola i b' = enCola i b := by
  unfold enCola
  rw [h]
  split
  · rw [List.map_append, List.sum_append]
    rfl
  · rfl

/-- What a step in which no broker handles a message does. -/
structure SinRecibir (k : Fin n) (s t : Estado n) : Prop where
  ajenos : ∀ i, i ≠ k → enVuelo i t = enVuelo i s
  propio : enVuelo k s ≤ enVuelo k t
  fase : ∀ i, (t.nodo i).fase = .inicializando → (s.nodo i).fase = .inicializando ∨ 0 < enVuelo i t

omit [NeZero n] in
theorem SinRecibir.of_eq (h : ∀ i, enVuelo i t = enVuelo i s)
    (hfase : ∀ i, (t.nodo i).fase = .inicializando → (s.nodo i).fase = .inicializando) :
    SinRecibir k s t :=
  ⟨fun i _ => h i, (h k).ge, fun i hi => .inl (hfase i hi)⟩

omit [NeZero n] in
theorem fase_pon {i : Fin n} (h : b.fase = .inicializando → (s.nodo k).fase = .inicializando)
    (hi : ((s.pon k b).nodo i).fase = .inicializando) : (s.nodo i).fase = .inicializando := by
  by_cases hk : i = k
  · subst hk
    rw [Ronda.nodo_pon_self] at hi
    exact h hi
  · rwa [Ronda.nodo_pon_of_ne hk] at hi

theorem sinRecibir {e : Evento n} (he : ∀ k, e ≠ .recibe k) (h : paso s e = some t) :
    SinRecibir e.broker s t := by
  cases e with
  | construye k =>
    unfold paso at h
    dsimp only at h
    split at h <;> cases h
    refine .of_eq (fun i => ?_) fun i => fase_pon nofun
    have hpon := enVuelo_pon i s k (registrar (s.nodo k))
    have hcola : enCola i (registrar (s.nodo k)) = enCola i (s.nodo k) :=
      enCola_leader i (c := (s.nodo k).lider = true) rfl
    omega
  | arranca k =>
    unfold paso at h
    dsimp only at h
    split at h <;> cases h
    have hcuenta : ∀ i, enVuelo i ((s.pon k { s.nodo k with fase := .inicializando }).envia k
        [.initialization k]) = enVuelo i s + anuncio i (.initialization k) := by
      intro i
      have hpon := enVuelo_pon i s k { s.nodo k with fase := .inicializando }
      rw [enVuelo_envia, List.map_singleton, List.sum_singleton]
      exact congrArg (· + _) (Nat.add_right_cancel hpon)
    refine ⟨fun i hi => ?_, ?_, fun i hi => ?_⟩
    · have hcero : anuncio i (.initialization k) = 0 := (anuncio_of_ne hi).1
      rw [hcuenta, hcero, Nat.add_zero]
    · rw [show (Evento.arranca k).broker = k from rfl, hcuenta]
      exact Nat.le_add_right _ _
    · by_cases hk : i = k
      · right
        rw [hcuenta, hk, (anuncio_self k).1]
        exact Nat.succ_pos _
      · left
        rwa [Ronda.nodo_envia, Ronda.nodo_pon_of_ne hk] at hi
  | leader k =>
    unfold paso at h
    cases h
    refine .of_eq (fun i => ?_) fun i => fase_pon fun h => h
    have hpon := enVuelo_pon i s k (avisarLeader (s.nodo k))
    have hcola : enCola i (avisarLeader (s.nodo k)) = enCola i (s.nodo k) := by
      apply enCola_leader i (c := (s.nodo k).fase ≠ .sinGrupo)
      unfold avisarLeader
      rw [ite_not]
    omega
  | multiplexor k =>
    refine .of_eq (enVuelo_multiplexar h) fun i hi => ?_
    unfold paso multiplexar at h
    obtain ⟨⟨m, u⟩, hu, rfl⟩ := Option.map_eq_some_iff.mp h
    rw [← Ronda.nodo_toma hu] at *
    dsimp only at hi
    split at hi
    · exact hi
    · exact fase_pon (b := encolar (u.nodo k) m) (fun h => h) hi
  | recibe k => exact absurd rfl (he k)
  | sendToken k =>
    unfold paso at h
    dsimp only at h
    split at h <;> cases h
    refine .of_eq (fun i => ?_) fun i => fase_pon fun h => h
    have hpon := enVuelo_pon i s k { s.nodo k with tokens := (s.nodo k).tokens - 1 }
    rw [enVuelo_envia]
    exact Nat.add_right_cancel hpon

/-- A broker inside `inicializando` has its announcement in flight. -/
def EnCamino (s : Estado n) : Prop :=
  ∀ i, (s.nodo i).fase = .inicializando → 0 < enVuelo i s

omit [NeZero n] in
theorem SinRecibir.enCamino (h : SinRecibir k s t) (hs : EnCamino s) : EnCamino t := by
  intro i hi
  rcases h.fase i hi with hantes | hpos
  · have hpos := hs i hantes
    by_cases hk : i = k
    · subst hk
      exact Nat.lt_of_lt_of_le hpos h.propio
    · rwa [h.ajenos i hk]
  · exact hpos

theorem enCamino_paso {e : Evento n} (hs : EnCamino s) (hc : sinPerdida s e = true)
    (h : paso s e = some t) : EnCamino t := by
  cases e with
  | recibe k =>
    obtain ⟨m, resto, r, hcola, hr, rfl, hcuenta⟩ := recibir_eq_some h
    have hno : noPierde k { s.nodo k with cola := resto } m = true := by
      unfold sinPerdida at hc
      simp only [hcola] at hc
      exact hc
    intro i hi
    have hci := hcuenta i
    by_cases hk : i = k
    · subst hk
      rw [Ronda.nodo_envia, Ronda.nodo_pon_self] at hi
      obtain ⟨hantes, hsuma⟩ := despacha_propio hr hi hno
      have hpos := hs i hantes
      omega
    · rw [Ronda.nodo_envia, Ronda.nodo_pon_of_ne hk] at hi
      have hsuma := (despacha_ajenos hr).mpr hno i hk
      have hpos := hs i hi
      omega
  | _ => exact (sinRecibir (by nofun) h).enCamino hs

/-- The step loses no announcement of another broker exactly if it meets the condition. -/
theorem ajenos_paso {e : Evento n} (h : paso s e = some t) :
    (∀ i, i ≠ e.broker → enVuelo i t = enVuelo i s) ↔ sinPerdida s e = true := by
  cases e with
  | recibe k =>
    obtain ⟨m, resto, r, hcola, hr, rfl, hcuenta⟩ := recibir_eq_some h
    unfold sinPerdida
    simp only [hcola]
    change _ ↔ noPierde k { s.nodo k with cola := resto } m = true
    rw [← despacha_ajenos hr]
    constructor
    · intro htodos i hi
      have hci := hcuenta i
      have hmismo := htodos i hi
      omega
    · intro htodos i hi
      have hci := hcuenta i
      have hmismo := htodos i hi
      omega
  | _ => exact ⟨fun _ => rfl, fun _ => (sinRecibir (by nofun) h).ajenos⟩

/-- In the runs in which no broker handles the announcement of another one in its own start, nor an
    answer to another one, a broker that starts has its announcement or the answer in flight; and these
    are the steps in which no announcement of another broker is lost. -/
theorem anuncio_en_vuelo
    (h : AlcanzaBajo (fun (s : Estado n) e => sinPerdida s e = true) paso inicial s) :
    EnCamino s ∧ ∀ e t, paso s e = some t →
      ((∀ i, i ≠ e.broker → enVuelo i t = enVuelo i s) ↔ sinPerdida s e = true) := by
  have hcamino : EnCamino s := h.induccion nofun fun _ _ _ => enCamino_paso
  exact ⟨hcamino, fun e t => ajenos_paso⟩

/-! ## Two brokers -/

/-- The second broker starts when the first one is the leader, and is answered. -/
theorem anuncio_en_vuelo_con_lider : ∃ s : Estado 2,
    AlcanzaBajo (fun (s : Estado 2) e => sinPerdida s e = true) paso inicial s ∧
      (s.nodo 1).fase = .inicializando ∧ s.enlace 1 = [.leaderElected 1] ∧ 0 < enVuelo 1 s := by
  have hrun : (correr (pasoBajo (fun (s : Estado 2) e => sinPerdida s e = true) paso) inicial
      [.construye 0, .leader 0, .arranca 0, .recibe 0, .multiplexor 1, .multiplexor 0, .recibe 0,
        .construye 1, .arranca 1, .multiplexor 0, .recibe 0]).map
        (fun s => ((s.nodo 1).fase, s.enlace 1)) = some (.inicializando, [.leaderElected 1]) := by
    decide +kernel
  obtain ⟨s, hs, hvalores⟩ := Option.map_eq_some_iff.mp hrun
  simp only [Prod.mk.injEq] at hvalores
  exact ⟨s, ⟨_, hs⟩, hvalores.1, hvalores.2, (anuncio_en_vuelo ⟨_, hs⟩).1 1 hvalores.1⟩

/-- The two start at once: each one drops the announcement of the other and waits for ever. -/
theorem anuncio_descartado :
    ¬ ∀ s : Estado 2, Alcanza paso inicial s → EnCamino s := by
  intro h
  have hrun : (correr paso (inicial : Estado 2)
      [.construye 0, .arranca 0, .construye 1, .arranca 1, .multiplexor 0, .multiplexor 1, .recibe 0,
        .recibe 1]).map (fun s => ((s.nodo 0).fase, enVuelo 0 s)) = some (.inicializando, 0) := by
    decide +kernel
  obtain ⟨s, hs, hvalores⟩ := Option.map_eq_some_iff.mp hrun
  simp only [Prod.mk.injEq] at hvalores
  have hpos := h s ⟨_, hs⟩ 0 hvalores.1
  rw [hvalores.2] at hpos
  exact absurd hpos (Nat.lt_irrefl 0)

end ArranqueGrupo
