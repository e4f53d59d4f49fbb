import Aeropuerto.Biblioteca.Ejecucion
import Aeropuerto.Biblioteca.Ronda

/-!
# A query for the token around the ring (`GroupReceiver::recv_token`)

The leader's TOKEN_DISCOVER goes from broker to broker.  Where the token is, what else the processes of a
broker push and when they do it are events of the environment.
-/

namespace ConsultaRonda

open Ejecucion

variable {n : Nat}

-- GROUP_MSG_T
def tokenDiscover : Nat := 8

def tokenOk : Nat := 9

def tokenInTransit : Nat := 9

structure Mensaje where
  tipo : Nat
  -- the query that it is, or that it answers
  consulta : Option Nat
  -- the brokers that have passed it on
  saltos : Nat
  deriving DecidableEq

inductive Fase where
  -- the multiplexer passes on what is of a group without a queue
  | sinGrupo
  | inicializando
  | loopToken
  deriving DecidableEq

structure Broker where
  fase : Fase
  -- tengo_token_grupo, token_enviado and avisar_envio
  tengoElToken : Bool
  tokenEnviado : Bool
  avisarEnvio : Bool
  deriving DecidableEq

structure Estado (n : Nat) where
  ronda : Ronda n Broker Mensaje
  -- what the receiver of the leader has pushed for Lider
  leaderQ : List Mensaje
  preguntas : Nat

/-- `forward_mensaje`. -/
def Mensaje.pasa (m : Mensaje) : Mensaje := { m with saltos := m.saltos + 1 }

/-- `avisar_si_se_esta_enviando_token`. -/
def Broker.avisarSiSeEnvia (b : Broker) : Broker :=
  if !b.tengoElToken && !b.tokenEnviado then { b with avisarEnvio := true } else b

/-- What a broker does with the next message: what it pushes to the ring and to Lider. -/
def recvToken (leader : Bool) (b : Broker) (m : Mensaje) : Broker × List Mensaje × List Mensaje :=
  match b.fase with
  | .sinGrupo | .inicializando => (b, [m.pasa], [])
  | .loopToken =>
    if m.tipo = tokenInTransit then
      if b.tengoElToken then (b, [{ m with tipo := tokenOk }.pasa], [])
      else (b.avisarSiSeEnvia, [], [])
    else if m.tipo = tokenDiscover then
      if leader then (b, [], [m])
      else if b.tengoElToken then (b, [{ m with tipo := tokenOk }.pasa], [])
      else (b.avisarSiSeEnvia, [], [])
    else (b, [], [])

inductive Evento (n : Nat) where
  -- Lider sends a TOKEN_DISCOVER
  | pregunta
  | recibe (k : Fin n)
  -- the group of a broker is created, and its receiver leaves inicializando
  | avanza (k : Fin n)
  -- the clients, the token manager and the sender change the flags of the group and push messages
  | grupo (k : Fin n) (tengoElToken tokenEnviado avisarEnvio : Bool)
  | empuja (k : Fin n) (tipo : Nat)

def Fase.siguiente : Fase → Fase
  | .sinGrupo => .inicializando
  | .inicializando | .loopToken => .loopToken

variable [NeZero n]

def recibir (g : Fin n) (s : Estado n) (k : Fin n) : Option (Estado n) :=
  (s.ronda.toma k).map fun r =>
    let x := recvToken (decide (k = g)) (s.ronda.nodo k) r.1
    { s with
      ronda := (r.2.pon k x.1).envia k x.2.1
      leaderQ := s.leaderQ ++ x.2.2 }

/-- The leader is the broker `g`. -/
def paso (g : Fin n) (s : Estado n) : Evento n → Option (Estado n)
  | .pregunta =>
    some
      { s with
        ronda := s.ronda.envia g [⟨tokenDiscover, some s.preguntas, 0⟩]
        preguntas := s.preguntas + 1 }
  | .recibe k => recibir g s k
  | .avanza k =>
    let b := s.ronda.nodo k
    some { s with ronda := s.ronda.pon k { b with fase := b.fase.siguiente } }
  | .grupo k tengoElToken tokenEnviado avisarEnvio =>
    let b := s.ronda.nodo k
    some { s with ronda := s.ronda.pon k ⟨b.fase, tengoElToken, tokenEnviado, avisarEnvio⟩ }
  | .empuja k tipo => some { s with ronda := s.ronda.envia k [⟨tipo, none, 0⟩] }

def inicial (brokers : Fin n → Broker) : Estado n := ⟨⟨brokers, fun _ => []⟩, [], 0⟩

/-! ## Queries that are not lost -/

/-- It has been handed to Lider, or it is on its way and has not gone past the leader. -/
def Viva (s : Estado n) (i : Nat) : Prop :=
  (∃ m ∈ s.leaderQ, m.consulta = some i) ∨
    ∃ k, ∃ m ∈ s.ronda.enlace k, m.consulta = some i ∧ m.saltos < n

/-- The broker passes a query or an answer on, or hands it to Lider. -/
def conserva (leader : Bool) (b : Broker) (m : Mensaje) : Bool :=
  m.consulta.isNone || b.fase != .loopToken ||
    if m.tipo = tokenInTransit then b.tengoElToken && !leader else leader || b.tengoElToken

def condicion (g : Fin n) (s : Estado n) : Evento n → Bool
  | .recibe k =>
    match s.ronda.enlace k with
    | m :: _ => conserva (decide (k = g)) (s.ronda.nodo k) m
    | [] => true
  | _ => true

variable {g k : Fin n} {s s' : Estado n} {e : Evento n} {m : Mensaje} {b : Broker} {i : Nat} {leader : Bool}

def enVuelo (n i : Nat) (m : Mensaje) : Nat := if m.consulta = some i ∧ m.saltos < n then 1 else 0

def entregado (i : Nat) (m : Mensaje) : Nat := if m.consulta = some i then 1 else 0

def cuenta (i : Nat) (s : Estado n) : Nat :=
  s.ronda.total (fun _ => 0) (enVuelo n i) + (s.leaderQ.map (entregado i)).sum

theorem exists_of_sum_pos {f : Mensaje → Nat} {l : List Mensaje} (h : 0 < (l.map f).sum) :
    ∃ m ∈ l, 0 < f m := by
  induction l with
  | nil => cases h
  | cons m l ih =>
    rw [List.map_cons, List.sum_cons] at h
    by_cases hm : 0 < f m
    · exact ⟨m, List.mem_cons_self, hm⟩
    · obtain ⟨m', hm', hf⟩ := ih (by omega)
      exact ⟨m', List.mem_cons_of_mem m hm', hf⟩

theorem le_sum_of_mem {f : Mensaje → Nat} {l : List Mensaje} (h : m ∈ l) : f m ≤ (l.map f).sum :=
  List.single_le_sum (fun _ _ => Nat.zero_le _) _ (List.mem_map_of_mem h)

omit [NeZero n] in
theorem viva_iff : Viva s i ↔ 0 < cuenta i s := by
  constructor
  · rintro (⟨m, hm, hc⟩ | ⟨k, m, hm, hc, hs⟩)
    · have hle := le_sum_of_mem (f := entregado i) hm
      rw [entregado, if_pos hc] at hle
      exact Nat.add_pos_right _ hle
    · have hle := le_sum_of_mem (f := enVuelo n i) hm
      rw [enVuelo, if_pos ⟨hc, hs⟩] at hle
      have hsuma := Finset.single_le_sum (f := fun k => ((s.ronda.enlace k).map (enVuelo n i)).sum)
        (fun _ _ => Nat.zero_le _) (Finset.mem_univ k)
      refine Nat.add_pos_left (Nat.add_pos_right _ ?_) _
      exact lt_of_lt_of_le hle hsuma
  · intro h
    rcases Nat.eq_zero_or_pos (s.leaderQ.map (entregado i)).sum with hcero | hpos
    · have htotal : 0 < ∑ k, ((s.ronda.enlace k).map (enVuelo n i)).sum := by
        unfold cuenta Ronda.total at h
        rw [Finset.sum_const_zero] at h
        omega
      obtain ⟨k, -, hk⟩ := Finset.exists_ne_zero_of_sum_ne_zero htotal.ne'
      obtain ⟨m, hm, hf⟩ := exists_of_sum_pos (Nat.pos_of_ne_zero hk)
      have hvuela : m.consulta = some i ∧ m.saltos < n := by
        by_contra hno
        rw [enVuelo, if_neg hno] at hf
        cases hf
      exact .inr ⟨k, m, hm, hvuela⟩
    · obtain ⟨m, hm, hf⟩ := exists_of_sum_pos hpos
      have hconsulta : m.consulta = some i := by
        by_contra hno
        rw [entregado, if_neg hno] at hf
        cases hf
      exact .inl ⟨m, hm, hconsulta⟩

/-- Under the condition each query has one message, and it has been passed on by the brokers between the
    leader and the link where it is. -/
structure Inv (g : Fin n) (s : Estado n) : Prop where
  leader : (s.ronda.nodo g).fase = .loopToken
  enlace : ∀ k, ∀ m ∈ s.ronda.enlace k, m.consulta.isSome →
    (m.tipo = tokenDiscover ∨ m.tipo = tokenOk) ∧ m.saltos = Ronda.desde (g + 1) k
  una : ∀ i, cuenta i s = if i < s.preguntas then 1 else 0

omit [NeZero n] in
theorem cuenta_congr {ronda : Ronda n Broker Mensaje} (h : ronda.enlace = s.ronda.enlace) (i : Nat) :
    cuenta i { s with ronda := ronda } = cuenta i s := by
  unfold cuenta Ronda.total
  dsimp only
  rw [h]

omit [NeZero n] in
theorem cuenta_inicial (brokers : Fin n → Broker) (i : Nat) : cuenta i (inicial brokers) = 0 := by
  simp [cuenta, Ronda.total, inicial]

theorem inv_inicial {brokers : Fin n → Broker} (h : (brokers g).fase = .loopToken) :
    Inv g (inicial brokers) where
  leader := h
  enlace _ _ hm := nomatch hm
  una i := by
    rw [cuenta_inicial]
    rfl

/-- What a broker pushes, and what it hands to Lider, of query `i`. -/
def queda (n i : Nat) (x : Broker × List Mensaje × List Mensaje) : Nat :=
  (x.2.1.map (enVuelo n i)).sum + (x.2.2.map (entregado i)).sum

theorem fase_recvToken (leader : Bool) (b : Broker) (m : Mensaje) :
    (recvToken leader b m).1.fase = b.fase := by
  have havisar : b.avisarSiSeEnvia.fase = b.fase := by
    unfold Broker.avisarSiSeEnvia
    split_ifs <;> rfl
  unfold recvToken
  split
  · rfl
  · rfl
  · split_ifs
    all_goals first | rfl | exact havisar

theorem cuenta_recibir {t : Ronda n Broker Mensaje} (h : s.ronda.toma k = some (m, t)) (i : Nat)
    (x : Broker × List Mensaje × List Mensaje) :
    cuenta i { s with ronda := (t.pon k x.1).envia k x.2.1, leaderQ := s.leaderQ ++ x.2.2 } + enVuelo n i m =
      cuenta i s + queda n i x := by
  have htoma := Ronda.total_toma (f := fun _ => 0) (g := enVuelo n i) h
  have hpon := Ronda.total_pon (f := fun _ => 0) (g := enVuelo n i) t k x.1
  have henvia := Ronda.total_envia (f := fun _ => 0) (g := enVuelo n i) (t.pon k x.1) k x.2.1
  unfold cuenta queda
  dsimp only
  rw [List.map_append, List.sum_append, henvia]
  omega

omit [NeZero n] in
theorem enVuelo_eq (h : m.saltos < n) (i : Nat) : enVuelo n i m = entregado i m := by
  unfold enVuelo entregado
  simp only [h, and_true]

omit [NeZero n] in
theorem enVuelo_none (h : m.consulta = none) (i : Nat) : enVuelo n i m = 0 := by
  rw [enVuelo, h, if_neg (by simp)]

theorem desde_leader (g : Fin n) : Ronda.desde (g + 1) g + 1 = n := by
  rcases Ronda.val_succ (g - (g + 1)) with ⟨-, hval⟩ | ⟨hno, -⟩
  · exact hval
  · rw [sub_add_eq_add_sub, sub_self] at hno
    exact absurd rfl hno

/-- Before the leader a message that is passed on is still on its way, and behind it no longer. -/
theorem enVuelo_pasa (hs : m.saltos = Ronda.desde (g + 1) k) (tipo i : Nat) :
    enVuelo n i { m with tipo }.pasa = if k = g then 0 else enVuelo n i m := by
  by_cases hk : k = g
  · have hlejos : ¬m.saltos + 1 < n := by
      rw [hs, hk, desde_leader]
      exact Nat.lt_irrefl n
    rw [if_pos hk, enVuelo, if_neg fun h => hlejos h.2]
  · have hno : k + 1 ≠ g + 1 := fun h => hk (add_right_cancel h)
    have hlt : m.saltos + 1 < n := by
      rw [hs, ← Ronda.desde_succ hno]
      exact Ronda.desde_lt _ _
    rw [if_neg hk, enVuelo_eq hlt, enVuelo_eq (Nat.lt_of_succ_lt hlt)]
    rfl

theorem recvToken_discover (hfase : b.fase = .loopToken) (htipo : m.tipo = tokenDiscover) :
    recvToken leader b m = if leader then (b, [], [m])
      else if b.tengoElToken then (b, [{ m with tipo := tokenOk }.pasa], [])
      else (b.avisarSiSeEnvia, [], []) := by
  rw [recvToken, hfase]
  dsimp only
  rw [if_neg (by rw [htipo]; decide), if_pos htipo]

/-- `TOKEN_OK` and `TOKEN_IN_TRANSIT` are the same number. -/
theorem recvToken_ok (hfase : b.fase = .loopToken) (htipo : m.tipo = tokenOk) :
    recvToken leader b m = if b.tengoElToken then (b, [{ m with tipo := tokenOk }.pasa], [])
      else (b.avisarSiSeEnvia, [], []) := by
  rw [recvToken, hfase]
  dsimp only
  rw [if_pos (show m.tipo = tokenInTransit from htipo)]

theorem recvToken_pasa (hfase : b.fase ≠ .loopToken) : recvToken leader b m = (b, [m.pasa], []) := by
  rw [recvToken]
  cases hf : b.fase with
  | loopToken => exact absurd hf hfase
  | sinGrupo => rfl
  | inicializando => rfl

theorem conserva_discover (hfase : b.fase = .loopToken) (htipo : m.tipo = tokenDiscover)
    (hm : m.consulta.isSome) :
    conserva leader b m = (leader || b.tengoElToken) := by
  have hnone : m.consulta.isNone = false := by simpa using hm
  rw [conserva, hnone, hfase, if_neg (by rw [htipo]; decide)]
  rfl

theorem conserva_ok (hfase : b.fase = .loopToken) (htipo : m.tipo = tokenOk) (hm : m.consulta.isSome) :
    conserva leader b m = (b.tengoElToken && !leader) := by
  have hnone : m.consulta.isNone = false := by simpa using hm
  rw [conserva, hnone, hfase, if_pos (show m.tipo = tokenInTransit from htipo)]
  rfl

theorem conserva_pasa (hfase : b.fase ≠ .loopToken) : conserva leader b m = true := by
  simp [conserva, hfase]

omit [NeZero n] in
theorem queda_uno (b : Broker) (m : Mensaje) (i : Nat) : queda n i (b, [m], []) = enVuelo n i m := by
  simp [queda]

omit [NeZero n] in
theorem queda_nada (b : Broker) (i : Nat) : queda n i (b, [], []) = 0 := rfl

/-- A broker keeps the query, or loses it. -/
theorem queda_recvToken (htipo : m.tipo = tokenDiscover ∨ m.tipo = tokenOk)
    (hs : m.saltos = Ronda.desde (g + 1) k) (hb : k = g → b.fase = .loopToken)
    (hm : m.consulta.isSome) (i : Nat) :
    queda n i (recvToken (decide (k = g)) b m) =
      if conserva (decide (k = g)) b m then enVuelo n i m else 0 := by
  have hlt : m.saltos < n := hs ▸ Ronda.desde_lt _ _
  have hpasa := fun tipo => enVuelo_pasa (i := i) hs tipo
  by_cases hfase : b.fase = .loopToken
  · rcases htipo with htipo | htipo
    · rw [recvToken_discover hfase htipo, conserva_discover hfase htipo hm]
      by_cases hk : k = g
      · simp [hk, queda, enVuelo_eq hlt]
      · cases htoken : b.tengoElToken with
        | true => simp [hk, queda_uno, hpasa]
        | false => simp [hk, queda_nada]
    · rw [recvToken_ok hfase htipo, conserva_ok hfase htipo hm]
      cases htoken : b.tengoElToken with
      | true => by_cases hk : k = g <;> simp [hk, queda_uno, hpasa]
      | false => simp [queda_nada]
  · have hk : k ≠ g := fun h => hfase (hb h)
    rw [recvToken_pasa hfase, conserva_pasa hfase, if_pos rfl, queda_uno]
    exact (hpasa m.tipo).trans (if_neg hk)

omit [NeZero n] in
/-- What is not a query is not counted. -/
theorem queda_none (h : m.consulta = none) (i : Nat) : queda n i (recvToken leader b m) = 0 := by
  have hpasa : ∀ tipo, enVuelo n i { m with tipo }.pasa = 0 :=
    fun tipo => enVuelo_none (m := { m with tipo }.pasa) h i
  have hentregado : entregado i m = 0 := by
    rw [entregado, h, if_neg (by simp)]
  have hpasa' : enVuelo n i m.pasa = 0 := hpasa m.tipo
  unfold recvToken
  split
  · rw [queda_uno, hpasa']
  · rw [queda_uno, hpasa']
  · split_ifs
    all_goals simp [queda, hpasa, hentregado]

/-- What is passed on is passed on once more. -/
theorem mem_recvToken {m' : Mensaje} (h : m' ∈ (recvToken leader b m).2.1) :
    m'.consulta = m.consulta ∧ m'.saltos = m.saltos + 1 ∧ (m'.tipo = m.tipo ∨ m'.tipo = tokenOk) := by
  unfold recvToken at h
  split at h
  · cases List.mem_singleton.mp h
    exact ⟨rfl, rfl, .inl rfl⟩
  · cases List.mem_singleton.mp h
    exact ⟨rfl, rfl, .inl rfl⟩
  · split_ifs at h
    all_goals first
      | cases List.mem_singleton.mp h
        exact ⟨rfl, rfl, .inr rfl⟩
      | cases h

/-! ## One step -/

theorem recibir_eq_some (h : recibir g s k = some s') : ∃ m t, s.ronda.toma k = some (m, t) ∧
    s' =
      { s with
        ronda := (t.pon k (recvToken (decide (k = g)) (s.ronda.nodo k) m).1).envia k
          (recvToken (decide (k = g)) (s.ronda.nodo k) m).2.1
        leaderQ := s.leaderQ ++ (recvToken (decide (k = g)) (s.ronda.nodo k) m).2.2 } := by
  obtain ⟨⟨m, t⟩, htoma, rfl⟩ := Option.map_eq_some_iff.mp h
  exact ⟨m, t, htoma, rfl⟩

omit [NeZero n] in
theorem mem_of_toma {t : Ronda n Broker Mensaje} (h : s.ronda.toma k = some (m, t)) :
    m ∈ s.ronda.enlace k := by
  obtain ⟨resto, hcola, -⟩ := Ronda.toma_eq_some h
  rw [hcola]
  exact List.mem_cons_self

omit [NeZero n] in
theorem condicion_recibe {t : Ronda n Broker Mensaje} (h : s.ronda.toma k = some (m, t)) :
    condicion g s (.recibe k) = conserva (decide (k = g)) (s.ronda.nodo k) m := by
  obtain ⟨resto, hcola, -⟩ := Ronda.toma_eq_some h
  rw [condicion, hcola]

/-- The message of query `i` is kept exactly if the step meets the condition. -/
theorem Inv.cuenta_recibir (hi : Inv g s) {t : Ronda n Broker Mensaje} (h : s.ronda.toma k = some (m, t))
    (hs' : recibir g s k = some s') (i : Nat) :
    cuenta i s' + (if condicion g s (.recibe k) then 0 else enVuelo n i m) = cuenta i s := by
  obtain ⟨m', t', htoma, rfl⟩ := recibir_eq_some hs'
  obtain ⟨rfl, rfl⟩ := Prod.mk.inj (Option.some.inj (htoma.symm.trans h))
  have hcuenta := ConsultaRonda.cuenta_recibir htoma i (recvToken (decide (k = g)) (s.ronda.nodo k) m')
  rw [condicion_recibe htoma]
  cases hm : m'.consulta with
  | none =>
    rw [queda_none hm, enVuelo_none hm] at hcuenta
    rw [enVuelo_none hm, ite_self]
    exact hcuenta
  | some j =>
    have hsome : m'.consulta.isSome := by rw [hm]; rfl
    obtain ⟨htipo, hsaltos⟩ := hi.enlace k m' (mem_of_toma htoma) hsome
    rw [queda_recvToken htipo hsaltos (fun hk => hk ▸ hi.leader) hsome] at hcuenta
    split_ifs at hcuenta ⊢ <;> omega

theorem Inv.recibe (hi : Inv g s) (hc : condicion g s (.recibe k) = true) (h : recibir g s k = some s') :
    Inv g s' := by
  obtain ⟨m, t, htoma, heq⟩ := recibir_eq_some h
  have hcuenta := hi.cuenta_recibir htoma h
  rw [condicion_recibe htoma] at hc
  have hnodo := Ronda.nodo_toma htoma
  have hfase : ∀ j, (s'.ronda.nodo j).fase = (s.ronda.nodo j).fase := by
    intro j
    rw [heq, ← hnodo]
    exact Ronda.nodo_pon_congr Broker.fase (by rw [fase_recvToken]) j
  refine ⟨(hfase g).trans hi.leader, fun j m' hm' hsome => ?_, fun i => ?_⟩
  · rw [heq] at hm'
    rcases Ronda.mem_envia hm' with hm' | ⟨hj, hfuera⟩
    · exact hi.enlace j m' (Ronda.mem_toma htoma hm') hsome
    · subst hj
      obtain ⟨hconsulta, hsaltos, htipo'⟩ := mem_recvToken hfuera
      rw [hconsulta] at hsome
      obtain ⟨htipo, hdesde⟩ := hi.enlace k m (mem_of_toma htoma) hsome
      have hk : k ≠ g := by
        rintro rfl
        rw [decide_eq_true rfl] at hfuera hc
        rcases htipo with htipo | htipo
        · rw [recvToken_discover hi.leader htipo] at hfuera
          cases hfuera
        · rw [conserva_ok hi.leader htipo hsome, Bool.not_true, Bool.and_false] at hc
          cases hc
      refine ⟨htipo'.elim (fun h => h ▸ htipo) .inr, ?_⟩
      rw [hsaltos, hdesde, Ronda.desde_succ fun h => hk (add_right_cancel h)]
  · have hcuenta := hcuenta i
    rw [condicion_recibe htoma, hc, if_pos rfl, Nat.add_zero] at hcuenta
    rw [hcuenta, hi.una i, heq]

theorem Inv.pregunta (hi : Inv g s) : Inv g
    { s with
      ronda := s.ronda.envia g [⟨tokenDiscover, some s.preguntas, 0⟩]
      preguntas := s.preguntas + 1 } := by
  refine ⟨hi.leader, fun j m hm hsome => ?_, fun i => ?_⟩
  · rcases Ronda.mem_envia hm with hm | ⟨hj, hnuevo⟩
    · exact hi.enlace j m hm hsome
    · rw [hj, List.mem_singleton.mp hnuevo]
      exact ⟨.inl rfl, (Ronda.desde_self (g + 1)).symm⟩
  · have henvia := Ronda.total_envia (f := fun _ => 0) (g := enVuelo n i) s.ronda g
      [⟨tokenDiscover, some s.preguntas, 0⟩]
    have hpeso : enVuelo n i ⟨tokenDiscover, some s.preguntas, 0⟩ = if s.preguntas = i then 1 else 0 := by
      simp [enVuelo, Nat.pos_of_ne_zero (NeZero.ne n)]
    have huna := hi.una i
    unfold cuenta at huna ⊢
    rw [List.map_singleton, List.sum_singleton, hpeso] at henvia
    dsimp only
    rw [henvia]
    split_ifs at huna ⊢ <;> omega

theorem Inv.paso {e : Evento n} (hi : Inv g s) (hc : condicion g s e = true) (h : paso g s e = some s') :
    Inv g s' := by
  cases e with
  | pregunta =>
    cases h
    exact hi.pregunta
  | recibe k => exact hi.recibe hc h
  | avanza k =>
    cases h
    refine ⟨?_, hi.enlace, fun i => (cuenta_congr rfl i).trans (hi.una i)⟩
    by_cases hk : g = k
    · rw [← hk]
      simp [hi.leader, Fase.siguiente]
    · exact (congrArg Broker.fase (Ronda.nodo_pon_of_ne hk _)).trans hi.leader
  | grupo k a b c =>
    cases h
    refine ⟨?_, hi.enlace, fun i => (cuenta_congr rfl i).trans (hi.una i)⟩
    have hfase := Ronda.nodo_pon_congr (s := s.ronda) (k := k) (a := ⟨(s.ronda.nodo k).fase, a, b, c⟩)
      Broker.fase rfl g
    exact hfase.trans hi.leader
  | empuja k tipo =>
    cases h
    refine ⟨hi.leader, fun j m hm hsome => ?_, fun i => ?_⟩
    · rcases Ronda.mem_envia hm with hm | ⟨-, hnuevo⟩
      · exact hi.enlace j m hm hsome
      · rw [List.mem_singleton.mp hnuevo] at hsome
        cases hsome
    · have henvia := Ronda.total_envia (f := fun _ => 0) (g := enVuelo n i) s.ronda k [⟨tipo, none, 0⟩]
      have huna := hi.una i
      unfold cuenta at huna ⊢
      rw [List.map_singleton, List.sum_singleton, enVuelo_none rfl] at henvia
      dsimp only
      rw [henvia]
      exact huna

/-! ## The runs -/

theorem inv_alcanza {brokers : Fin n → Broker} (hg : (brokers g).fase = .loopToken)
    (h : AlcanzaBajo (fun s e => condicion g s e = true) (paso g) (inicial brokers) s) : Inv g s :=
  AlcanzaBajo.induccion h (inv_inicial hg) fun _ _ _ hi hc hb => hi.paso hc hb

theorem Inv.viva (hi : Inv g s) (h : i < s.preguntas) : Viva s i := by
  rw [viva_iff, hi.una i, if_pos h]
  exact Nat.one_pos

/-- A step that does not meet the condition loses a query. -/
theorem Inv.condicion_of_viva (hi : Inv g s) (h : ConsultaRonda.paso g s e = some s')
    (hviva : ∀ i < s'.preguntas, Viva s' i) : condicion g s e = true := by
  cases e with
  | recibe k =>
    obtain ⟨m, t, htoma, heq⟩ := recibir_eq_some h
    by_contra hno
    have hconserva := condicion_recibe (g := g) htoma
    rw [Bool.eq_false_iff.mpr hno] at hconserva
    cases hm : m.consulta with
    | none => simp [conserva, hm] at hconserva
    | some i =>
      have hlt : m.saltos < n := by
        rw [(hi.enlace k m (mem_of_toma htoma) (by rw [hm]; rfl)).2]
        exact Ronda.desde_lt _ _
      have huna := hi.una i
      have hcuenta := hi.cuenta_recibir htoma h i
      rw [if_neg hno, enVuelo, if_pos ⟨hm, hlt⟩, huna] at hcuenta
      have hi' : i < s.preguntas := by
        by_contra hi'
        rw [if_neg hi'] at hcuenta
        omega
      rw [if_pos hi'] at hcuenta
      have hpos := viva_iff.mp (hviva i (heq ▸ hi'))
      omega
  | _ => rfl

/-- In a ring whose receivers are all in their loops the query stays at its first link and an answer is
    never taken for one. -/
structure Perdidas (g : Fin n) (s : Estado n) : Prop where
  fases : ∀ k, (s.ronda.nodo k).fase = .loopToken
  enlace : ∀ k, ∀ m ∈ s.ronda.enlace k, m.consulta.isSome →
    m.tipo = tokenOk ∨ m.tipo = tokenDiscover ∧ k = g + 1
  leaderQ : ∀ m ∈ s.leaderQ, m.consulta = none

theorem succ_ne (hn : 2 ≤ n) (g : Fin n) : g + 1 ≠ g := by
  intro h
  have hlejos := desde_leader g
  rw [h, Ronda.desde_self] at hlejos
  omega

/-- What is of a query and is pushed has the type of an answer, and nothing of it is for Lider. -/
theorem Perdidas.recvToken (hn : 2 ≤ n) (hi : Perdidas g s) (hm : m ∈ s.ronda.enlace k) {m' : Mensaje} :
    (m' ∈ (recvToken (decide (k = g)) (s.ronda.nodo k) m).2.1 → m'.consulta.isSome → m'.tipo = tokenOk) ∧
      (m' ∈ (recvToken (decide (k = g)) (s.ronda.nodo k) m).2.2 → m'.consulta = none) := by
  cases hc : m.consulta with
  | none =>
    refine ⟨fun hfuera hsome => ?_, fun hlider => ?_⟩
    · rw [(mem_recvToken hfuera).1, hc] at hsome
      cases hsome
    · unfold ConsultaRonda.recvToken at hlider
      rw [hi.fases k] at hlider
      dsimp only at hlider
      split_ifs at hlider
      all_goals first
        | rw [List.mem_singleton.mp hlider]
          exact hc
        | cases hlider
  | some i =>
    rcases hi.enlace k m hm (by rw [hc]; rfl) with htipo | ⟨htipo, hk⟩
    · rw [recvToken_ok (hi.fases k) htipo]
      split_ifs
      · exact ⟨fun hfuera _ => by rw [List.mem_singleton.mp hfuera]; rfl, nofun⟩
      · exact ⟨nofun, nofun⟩
    · have hno : ¬decide (k = g) = true := by
        rw [decide_eq_true_iff, hk]
        exact succ_ne hn g
      rw [recvToken_discover (hi.fases k) htipo, if_neg hno]
      split_ifs
      · exact ⟨fun hfuera _ => by rw [List.mem_singleton.mp hfuera]; rfl, nofun⟩
      · exact ⟨nofun, nofun⟩

theorem Perdidas.paso (hn : 2 ≤ n) (hi : Perdidas g s) (h : paso g s e = some s') : Perdidas g s' := by
  cases e with
  | pregunta =>
    cases h
    refine ⟨hi.fases, fun j m hm hsome => ?_, hi.leaderQ⟩
    rcases Ronda.mem_envia hm with hm | ⟨hj, hnuevo⟩
    · exact hi.enlace j m hm hsome
    · rw [List.mem_singleton.mp hnuevo]
      exact .inr ⟨rfl, hj⟩
  | recibe k =>
    obtain ⟨m, t, htoma, rfl⟩ := recibir_eq_some h
    have hm := mem_of_toma htoma
    refine ⟨fun j => ?_, fun j m' hm' hsome => ?_, fun m' hm' => ?_⟩
    · rw [← hi.fases j, ← Ronda.nodo_toma htoma]
      exact Ronda.nodo_pon_congr Broker.fase (by rw [fase_recvToken]) j
    · rcases Ronda.mem_envia hm' with hm' | ⟨-, hfuera⟩
      · exact hi.enlace j m' (Ronda.mem_toma htoma hm') hsome
      · exact .inl ((hi.recvToken hn hm).1 hfuera hsome)
    · rcases List.mem_append.mp hm' with hm' | hlider
      · exact hi.leaderQ m' hm'
      · exact (hi.recvToken hn hm).2 hlider
  | avanza k =>
    cases h
    refine ⟨fun j => ?_, hi.enlace, hi.leaderQ⟩
    rw [← hi.fases j]
    exact Ronda.nodo_pon_congr Broker.fase (by rw [hi.fases k]; rfl) j
  | grupo k a b c =>
    cases h
    refine ⟨fun j => ?_, hi.enlace, hi.leaderQ⟩
    rw [← hi.fases j]
    exact Ronda.nodo_pon_congr Broker.fase (by rfl) j
  | empuja k tipo =>
    cases h
    refine ⟨hi.fases, fun j m hm hsome => ?_, hi.leaderQ⟩
    rcases Ronda.mem_envia hm with hm | ⟨-, hnuevo⟩
    · exact hi.enlace j m hm hsome
    · rw [List.mem_singleton.mp hnuevo] at hsome
      cases hsome

theorem perdidas_alcanza {brokers : Fin n → Broker} (hn : 2 ≤ n) (hb : ∀ k, (brokers k).fase = .loopToken)
    (h : Alcanza (paso g) (inicial brokers) s) : Perdidas g s :=
  Alcanza.induccion h ⟨hb, fun _ _ hm => (nomatch hm), fun _ hm => (nomatch hm)⟩
    fun _ _ _ hi hpaso => hi.paso hn hpaso

/-- A query is not lost exactly as long as the brokers that take it or its answer pass it on, and in a ring
    of two or more brokers whose receivers are in their loops none ever gets back to Lider. -/
theorem consultas_iff {n : Nat} [NeZero n] (hn : 2 ≤ n) (g : Fin n) (brokers : Fin n → Broker)
    (hg : (brokers g).fase = .loopToken) :
    (∀ s, AlcanzaBajo (fun s e => condicion g s e = true) (paso g) (inicial brokers) s →
      (∀ i < s.preguntas, Viva s i) ∧
      ∀ e s', paso g s e = some s' → ((∀ i < s'.preguntas, Viva s' i) ↔ condicion g s e = true)) ∧
    ((∀ k, (brokers k).fase = .loopToken) → ∀ s, Alcanza (paso g) (inicial brokers) s →
      ∀ m ∈ s.leaderQ, m.consulta = none) := by
  refine ⟨fun s h => ?_, fun hb s h => (perdidas_alcanza hn hb h).leaderQ⟩
  have hi := inv_alcanza hg h
  exact ⟨fun i hlt => hi.viva hlt, fun e s' hpaso => ⟨hi.condicion_of_viva hpaso,
    fun hc i hlt => (hi.paso hc hpaso).viva hlt⟩⟩

/-! ## Two brokers -/

def enLoop (tengoElToken : Bool) : Broker := ⟨.loopToken, tengoElToken, false, false⟩

/-- The broker 1 has no token and takes the query; it has the token, and the leader takes its answer. -/
theorem consulta_perdida :
    (∃ s, Alcanza (paso 0) (inicial fun _ : Fin 2 => enLoop false) s ∧ s.preguntas = 1 ∧ ¬Viva s 0) ∧
    ∃ s, Alcanza (paso 0) (inicial fun k : Fin 2 => enLoop (k = 1)) s ∧ s.preguntas = 1 ∧ ¬Viva s 0 := by
  refine ⟨⟨_, ⟨[.pregunta, .recibe 1], rfl⟩, rfl, ?_⟩, ⟨_, ⟨[.pregunta, .recibe 1, .recibe 0], rfl⟩, rfl, ?_⟩⟩
  · rw [viva_iff]
    decide
  · rw [viva_iff]
    decide

/-- The receiver of the broker 1 is in `inicializando`, and the query comes back. -/
theorem consulta_vuelve : ∃ s, s.leaderQ = [⟨tokenDiscover, some 0, 1⟩] ∧ s.preguntas = 1 ∧
    ∀ i < s.preguntas, Viva (n := 2) s i := by
  have hrun : (correr (pasoBajo (fun s e => condicion 0 s e = true) (paso 0))
      (inicial fun k : Fin 2 => ⟨if k = 0 then .loopToken else .inicializando, false, false, false⟩)
      [.pregunta, .recibe 1, .recibe 0]).map (fun s => (s.leaderQ, s.preguntas)) =
      some ([⟨tokenDiscover, some 0, 1⟩], 1) := by
    decide
  obtain ⟨s, hs, hvalores⟩ := Option.map_eq_some_iff.mp hrun
  obtain ⟨hcola, hpreguntas⟩ := Prod.mk.inj hvalores
  exact ⟨s, hcola, hpreguntas, ((consultas_iff (by decide) 0 _ rfl).1 s ⟨_, hs⟩).1⟩

end ConsultaRonda
