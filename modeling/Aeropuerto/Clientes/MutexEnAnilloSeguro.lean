import Aeropuerto.Clientes.MutexEnAnillo
import Aeropuerto.Clientes.MutexDistribuidoSeguro

/-!
# The mutexes of the ring exclude

The airports refine the ring of `ArranqueGrupo`: the tokens of one of its brokers are those of an airport,
in whatever process, socket or queue they are.  There the tokens in the brokers and on their way add up to
the creations, which are one at most; so in no airport there is more than one, and what holds of a mutex
in one broker with one token holds in each of them.
-/

namespace ArranqueGrupo

open Ejecucion

variable {n : Nat} {s t : Estado n} {k j : Fin n} {b : Broker n} {m : Mensaje n} {e : Evento n}
  {r : Broker n × List (Mensaje n)}

/-! ## Tokens and creations -/

/-- The tokens that are in a broker or wait there. -/
def Broker.enBroker (b : Broker n) : Nat := b.tokens + b.cola.count .tokenDeliver

def unToken (m : Mensaje n) : Nat := if m = .tokenDeliver then 1 else 0

/-- The tokens, wherever they are. -/
def enTotal (s : Estado n) : Nat := s.total Broker.enBroker unToken

def creados (s : Estado n) : Nat := ∑ k, (s.nodo k).creaciones

theorem count_tokenDeliver (l : List (Mensaje n)) : l.count .tokenDeliver = (l.map unToken).sum := by
  induction l with
  | nil => rfl
  | cons m l ih =>
    rw [List.count_cons, ih, List.map_cons, List.sum_cons, Nat.add_comm]
    congr 1
    unfold unToken
    by_cases hm : m = .tokenDeliver
    · rw [hm]
      rfl
    · rw [if_neg hm, beq_eq_false_iff_ne.mpr hm]
      rfl

theorem serLider_tokens (b : Broker n) :
    (serLider b).tokens + b.creaciones = b.tokens + (serLider b).creaciones ∧
      b.tokens ≤ (serLider b).tokens ∧ (serLider b).tokens ≤ b.tokens + 1 := by
  unfold serLider inicializarGrupo
  split
  · exact ⟨rfl, Nat.le_refl _, Nat.le_succ _⟩
  · refine ⟨?_, Nat.le_succ _, Nat.le_refl _⟩
    dsimp only
    omega

/-- A broker makes a token of each creation and of each message that brings one. -/
theorem despacha_tokens (h : despacha k b m = some r) :
    r.1.tokens + (r.2.map unToken).sum + b.creaciones = b.tokens + unToken m + r.1.creaciones ∧
      b.tokens ≤ r.1.tokens ∧ r.1.tokens ≤ b.tokens + 1 := by
  obtain ⟨hcuenta, hmin, hmax⟩ := serLider_tokens b
  rcases despacha_eq_some h with ⟨-, rfl⟩ | ⟨-, rfl⟩
  · cases m with
    | leader => exact ⟨hcuenta, hmin, hmax⟩
    | initialization data =>
      unfold inicializando
      dsimp only
      split <;> exact ⟨rfl, Nat.le_refl _, Nat.le_succ _⟩
    | leaderElected data => exact ⟨rfl, Nat.le_refl _, Nat.le_succ _⟩
    | tokenDeliver => exact ⟨rfl, Nat.le_refl _, Nat.le_succ _⟩
  · cases m with
    | leader =>
      unfold procesarMensaje
      dsimp only
      split
      · exact ⟨rfl, Nat.le_refl _, Nat.le_succ _⟩
      · exact ⟨hcuenta, hmin, hmax⟩
    | initialization data =>
      unfold procesarMensaje
      dsimp only
      split
      · split <;> exact ⟨rfl, Nat.le_refl _, Nat.le_succ _⟩
      · exact ⟨rfl, Nat.le_refl _, Nat.le_succ _⟩
    | leaderElected data => exact ⟨rfl, Nat.le_refl _, Nat.le_succ _⟩
    | tokenDeliver => exact ⟨rfl, Nat.le_succ _, Nat.le_refl _⟩

theorem creados_pon (s : Estado n) (k : Fin n) (b : Broker n) :
    creados (s.pon k b) + (s.nodo k).creaciones = creados s + b.creaciones := by
  have hsuma := Sumas.suma_update (fun _ (b : Broker n) => b.creaciones) s.nodo (Finset.mem_univ k) b
  unfold creados Ronda.pon
  dsimp only
  omega

/-- A node in which the tokens and the creations go together. -/
theorem cuadra_pon (hs : enTotal s = creados s)
    (hb : b.enBroker + (s.nodo k).creaciones = (s.nodo k).enBroker + b.creaciones) :
    enTotal (s.pon k b) = creados (s.pon k b) := by
  have htotal : enTotal (s.pon k b) + (s.nodo k).enBroker = enTotal s + b.enBroker := s.total_pon k b
  have hcreados := creados_pon s k b
  omega

theorem enBroker_leader {b' : Broker n} {c : Prop} [Decidable c] (htokens : b'.tokens = b.tokens)
    (hcola : b'.cola = if c then b.cola ++ [.leader] else b.cola) : b'.enBroker = b.enBroker := by
  unfold Broker.enBroker
  rw [htokens, hcola]
  split
  · rw [List.count_append]
    rfl
  · rfl

variable [NeZero n]

theorem cuadra_envia {l : List (Mensaje n)} (hs : enTotal s = creados s)
    (hb : b.enBroker + (l.map unToken).sum + (s.nodo k).creaciones =
      (s.nodo k).enBroker + b.creaciones) :
    enTotal ((s.pon k b).envia k l) = creados ((s.pon k b).envia k l) := by
  have htotal : enTotal (s.pon k b) + (s.nodo k).enBroker = enTotal s + b.enBroker := s.total_pon k b
  have henvia : enTotal ((s.pon k b).envia k l) = enTotal (s.pon k b) + (l.map unToken).sum :=
    (s.pon k b).total_envia k l
  have hcreados := creados_pon s k b
  have hmismos : creados ((s.pon k b).envia k l) = creados (s.pon k b) := rfl
  omega

/-- The tokens in the brokers, in their queues and on the ring are those that have been created. -/
theorem cuadra_paso (hs : enTotal s = creados s) (h : paso s e = some t) : enTotal t = creados t := by
  cases e with
  | construye k =>
    unfold paso at h
    dsimp only at h
    split at h <;> cases h
    refine cuadra_pon hs (congrArg (· + _) ?_)
    exact enBroker_leader (c := (s.nodo k).lider = true) rfl rfl
  | arranca k =>
    unfold paso at h
    dsimp only at h
    split at h <;> cases h
    exact cuadra_envia (b := { s.nodo k with fase := .inicializando }) hs rfl
  | leader k =>
    unfold paso at h
    cases h
    refine cuadra_pon hs (congrArg (· + _) ?_)
    refine enBroker_leader (c := (s.nodo k).fase ≠ .sinGrupo) rfl ?_
    unfold avisarLeader
    rw [ite_not]
  | multiplexor k =>
    unfold paso multiplexar at h
    obtain ⟨⟨m, u⟩, hu, rfl⟩ := Option.map_eq_some_iff.mp h
    have htoma : enTotal u + unToken m = enTotal s := Ronda.total_toma hu
    have hnodo := Ronda.nodo_toma hu
    have hcreados : creados u = creados s := by
      unfold creados
      rw [hnodo]
    dsimp only
    split
    · have henvia : enTotal (u.envia k [m]) = enTotal u + unToken m := u.total_envia k [m]
      rw [henvia, htoma]
      exact hs.trans hcreados.symm
    · have htotal : enTotal (u.pon k (encolar (s.nodo k) m)) + (u.nodo k).enBroker =
          enTotal u + (encolar (s.nodo k) m).enBroker := u.total_pon k _
      have hpon := creados_pon u k (encolar (s.nodo k) m)
      have hencola : (encolar (s.nodo k) m).enBroker = (s.nodo k).enBroker + unToken m := by
        unfold Broker.enBroker encolar
        rw [List.count_append, count_tokenDeliver [m], List.map_singleton, List.sum_singleton,
          Nat.add_assoc]
      have hcreo : (encolar (s.nodo k) m).creaciones = (s.nodo k).creaciones := rfl
      rw [hnodo] at htotal hpon
      omega
  | recibe k =>
    obtain ⟨m, resto, r, hcola, hr, rfl, -⟩ := recibir_eq_some h
    have htokens := (despacha_tokens hr).1
    dsimp only at htokens
    have hresto : r.1.cola = resto := despacha_cola hr
    refine cuadra_envia hs ?_
    unfold Broker.enBroker
    rw [hresto, hcola, List.count_cons]
    have hm : unToken m = if m == .tokenDeliver then 1 else 0 := by
      unfold unToken
      simp only [beq_iff_eq]
    omega
  | sendToken k =>
    unfold paso at h
    dsimp only at h
    split at h <;> cases h
    refine cuadra_envia hs ?_
    have huno : ([Mensaje.tokenDeliver].map (unToken (n := n))).sum = 1 := rfl
    unfold Broker.enBroker
    rw [huno]
    dsimp only
    omega

/-- A step of a receiver or of the multiplexer brings one token to its broker at most. -/
theorem tokens_paso (he : ∀ k, e ≠ .sendToken k) (h : paso s e = some t) :
    (∀ j, j ≠ e.broker → (t.nodo j).tokens = (s.nodo j).tokens) ∧
      (s.nodo e.broker).tokens ≤ (t.nodo e.broker).tokens ∧
      (t.nodo e.broker).tokens ≤ (s.nodo e.broker).tokens + 1 := by
  have hpon : ∀ {u : Estado n} {k : Fin n} {b : Broker n}, u.nodo = s.nodo →
      (s.nodo k).tokens ≤ b.tokens ∧ b.tokens ≤ (s.nodo k).tokens + 1 →
      (∀ j, j ≠ k → ((u.pon k b).nodo j).tokens = (s.nodo j).tokens) ∧
        (s.nodo k).tokens ≤ ((u.pon k b).nodo k).tokens ∧
        ((u.pon k b).nodo k).tokens ≤ (s.nodo k).tokens + 1 := by
    intro u k b hu hb
    rw [Ronda.nodo_pon_self]
    refine ⟨fun j hj => ?_, hb⟩
    rw [Ronda.nodo_pon_of_ne hj, hu]
  have hmismo : ∀ k, (s.nodo k).tokens ≤ (s.nodo k).tokens ∧ (s.nodo k).tokens ≤ (s.nodo k).tokens + 1 :=
    fun k => ⟨Nat.le_refl _, Nat.le_succ _⟩
  cases e with
  | construye k =>
    unfold paso at h
    dsimp only at h
    split at h <;> cases h
    exact hpon rfl (hmismo k)
  | arranca k =>
    unfold paso at h
    dsimp only at h
    split at h <;> cases h
    exact hpon (b := { s.nodo k with fase := .inicializando }) rfl (hmismo k)
  | leader k =>
    unfold paso at h
    cases h
    exact hpon rfl (hmismo k)
  | multiplexor k =>
    unfold paso multiplexar at h
    obtain ⟨⟨m, u⟩, hu, rfl⟩ := Option.map_eq_some_iff.mp h
    have hnodo := Ronda.nodo_toma hu
    dsimp only
    split
    · rw [Ronda.nodo_envia, hnodo]
      exact ⟨fun _ _ => rfl, hmismo k⟩
    · exact hpon (b := encolar (s.nodo k) m) hnodo (hmismo k)
  | recibe k =>
    obtain ⟨m, resto, r, hcola, hr, rfl, -⟩ := recibir_eq_some h
    exact hpon rfl (despacha_tokens hr).2
  | sendToken k => exact absurd rfl (he k)

/-! ## One token -/

/-- A ring whose brokers have created one token at most, with its invariant. -/
structure Unico (s : Estado n) : Prop where
  inv : Inv s
  una : UnaCreacion s
  cadaUno : ∀ k, (s.nodo k).creaciones ≤ 1
  cuadra : enTotal s = creados s

omit [NeZero n] in
theorem unico_inicial : Unico (inicial : Estado n) where
  inv := inv_inicial
  una j k hj := absurd hj (Nat.lt_irrefl 0)
  cadaUno k := Nat.zero_le 1
  cuadra := by
    have htotal : enTotal (inicial : Estado n) = (∑ _k : Fin n, 0) + ∑ _k : Fin n, 0 := rfl
    have hcreados : creados (inicial : Estado n) = ∑ _k : Fin n, 0 := rfl
    rw [htotal, hcreados, Finset.sum_const_zero, Nat.add_zero]

/-- A broker creates the token when it becomes the leader, and it is the leader only once. -/
theorem cadaUno_paso (hi : Inv s) (hs : ∀ k, (s.nodo k).creaciones ≤ 1) (h : paso s e = some t) (j : Fin n) :
    (t.nodo j).creaciones ≤ 1 := by
  cases e with
  | recibe k =>
    obtain ⟨m, resto, -, hotros, -, hcreaciones⟩ := creaciones_recibir hi h
    by_cases hj : j = k
    · subst hj
      rw [hcreaciones]
      cases hcrea : creaToken (s.nodo j) m with
      | false => exact hs j
      | true =>
        have hleader : (s.nodo j).leader = false := by
          simp only [creaToken, Bool.and_eq_true, Bool.not_eq_true'] at hcrea
          exact hcrea.2.1
        have hcero : (s.nodo j).creaciones = 0 := by
          by_contra hpos
          rw [(hi.bien j).creador (Nat.pos_of_ne_zero hpos)] at hleader
          cases hleader
        rw [hcero, if_pos rfl]
    · rw [hotros j hj]
      exact hs j
  | construye k | arranca k | leader k | multiplexor k | sendToken k =>
    rw [(conserva_paso (by rintro k ⟨⟩) h j).creaciones]
    exact hs j

theorem unico_paso (hs : Unico s) (hc : sinOtroLider s e = true) (h : paso s e = some t) : Unico t where
  inv := inv_paso hs.inv h
  una := (unaCreacion_paso hs.inv hs.una h).mpr hc
  cadaUno := cadaUno_paso hs.inv hs.cadaUno h
  cuadra := cuadra_paso hs.cuadra h

omit [NeZero n] in
theorem Unico.creados_le (hs : Unico s) : creados s ≤ 1 := by
  by_cases hcero : ∀ k, (s.nodo k).creaciones = 0
  · unfold creados
    rw [Finset.sum_congr rfl fun k _ => hcero k, Finset.sum_const_zero]
    exact Nat.zero_le 1
  · obtain ⟨k, hk⟩ := not_forall.mp hcero
    have hsolo : creados s = (s.nodo k).creaciones := by
      refine Finset.sum_eq_single k (fun j _ hj => ?_) fun hno => absurd (Finset.mem_univ k) hno
      by_contra hpos
      exact hj (hs.una j k (Nat.pos_of_ne_zero hpos) (Nat.pos_of_ne_zero hk))
    rw [hsolo]
    exact hs.cadaUno k

omit [NeZero n] in
theorem Unico.tokens_le (hs : Unico s) (k : Fin n) : (s.nodo k).tokens ≤ 1 := by
  have huno := hs.cuadra ▸ hs.creados_le
  have hbroker : (s.nodo k).enBroker ≤ ∑ j, (s.nodo j).enBroker :=
    Finset.single_le_sum (f := fun j => (s.nodo j).enBroker) (fun _ _ => Nat.zero_le _) (Finset.mem_univ k)
  unfold enTotal Ronda.total at huno
  unfold Broker.enBroker at hbroker huno
  omega

end ArranqueGrupo

/-! ## The token manager of groups without memory -/

namespace Broker

variable {ν : Type} {M : Nat} [NeZero M] {cfg : Config ν} {b b' : Broker M ν}

/-- The names of the brokers tell one group from another only in `replicar_brokers` and in the marks of
    `pasar_token_a_proximo_cliente`. -/
def sinNombres (cfg : Config ν) : Config ν := { cfg with esBroker := fun _ => false }

theorem pasoTokenManager_sinNombres (hpasa : ∀ g, b.tokenManager ≠ .pasa g)
    (hreplica : ∀ g, b.tokenManager ≠ .replica g) :
    b.pasoTokenManager (sinNombres cfg) = b.pasoTokenManager cfg := by
  unfold pasoTokenManager
  cases htm : b.tokenManager with
  | pasa g => exact absurd htm (hpasa g)
  | replica g => exact absurd htm (hreplica g)
  | procesa m => cases m <;> rfl
  | pide | libera g | inicializa g | espera g => rfl

/-- Where no group has memory nothing is replicated, and the tokens stay what they are. -/
theorem pasoTokenManager_sinMemoria (hb : b.Bien (sinNombres cfg)) (hcero : ∀ g, cfg.tamanio g = 0)
    (hreplica : ∀ g, b.tokenManager ≠ .replica g) (hs : b.pasoTokenManager cfg = some b') :
    b'.Bien (sinNombres cfg) ∧ (∀ g, b'.tokenManager ≠ .replica g) ∧
      ∀ h, b'.saldo cfg h = b.saldo cfg h := by
  by_cases hpasa : ∃ g, b.tokenManager = .pasa g
  · obtain ⟨g, htm⟩ := hpasa
    simp only [pasoTokenManager, htm] at hs
    cases hs
    have hcreado : b.creado g = true := hb.enTraspaso g (by rw [htm]; rfl)
    have hlisto : b.listo g := by
      refine ⟨hcreado, fun he => ?_⟩
      rw [htm] at he
      cases he
    have hgrupo : (b.setGrupo g ((b.grupo g).pasarTokenAProximoCliente cfg.esBroker)).Bien
        (sinNombres cfg) :=
      hb.setGrupo (hb.sinBrokers g) rfl fun hno => absurd hlisto hno
    refine ⟨hgrupo.siguiente (fun h he => ?_) fun h he => ?_, fun h he => ?_, saldo_pasa htm⟩
    · cases he
    · cases he
    · cases he
  · have hno : ∀ g, b.tokenManager ≠ .pasa g := fun g hg => hpasa ⟨g, hg⟩
    have hs' := hs
    rw [← pasoTokenManager_sinNombres hno hreplica] at hs'
    have hsaldo := saldo_pasoTokenManager hb hs'
    refine ⟨hb.pasoTokenManager hs', fun g hg => ?_, hsaldo⟩
    -- a token of a group without memory goes on to `espera`
    cases htm : b.tokenManager with
    | procesa m =>
      cases m with
      | crear k =>
        simp only [pasoTokenManager, htm] at hs
        split at hs
        · cases hs
          cases hg
        · split at hs <;> cases hs <;> cases hg
      | token k =>
        simp only [pasoTokenManager, htm] at hs
        split at hs
        · rename_i hcreado
          have hmem : (b.grupo k).memSize = 0 := (hb.tamanio k hcreado).trans (hcero k)
          rw [if_pos hmem] at hs
          cases hs
          cases hg
        · cases hs
    | pide =>
      simp only [pasoTokenManager, htm] at hs
      split at hs <;> cases hs
      cases hg
    | libera k | inicializa k =>
      simp only [pasoTokenManager, htm] at hs
      cases hs
      cases hg
    | espera k =>
      simp only [pasoTokenManager, htm] at hs
      obtain ⟨gr, -, rfl⟩ := Option.map_eq_some_iff.mp hs
      cases hg
    | replica k => exact hreplica k htm
    | pasa k => exact hno k htm

end Broker

/-! ## The airports -/

namespace MutexEnAnillo

open Ejecucion

variable {n : Nat} {ι ν : Type} {M : Nat} {A : Aeropuertos n ι ν} {k j : Fin n} {g h : Nat}

/-- The airport, where the names of the brokers are not looked at. -/
def sinNombres (P : Clientes ι ν) : Clientes ι ν :=
  { P with esBroker := fun _ => false, sinBrokers := fun _ => rfl }

theorem tamanio_local (A : Aeropuertos n ι ν) (k : Fin n) (g : Nat) : (A.local k).tamanio g = 0 := by
  unfold Config.tamanio Aeropuertos.local
  cases hg : (A.clientes k).grupos g with
  | none =>
    dsimp only
    rw [hg]
    rfl
  | some x =>
    dsimp only
    rw [hg]
    exact (A.sonMutex k g x.1 x.2 hg).1

theorem valorInicial_local (A : Aeropuertos n ι ν) (k : Fin n) (g : Nat) : (A.local k).valorInicial g = 0 := by
  unfold Config.valorInicial Aeropuertos.local
  cases hg : (A.clientes k).grupos g with
  | none =>
    dsimp only
    rw [hg]
    rfl
  | some x =>
    dsimp only
    rw [hg]
    rfl

section Inv

variable [Fintype ι] [NeZero n]

/-- What holds of the airports and of their ring. -/
structure Inv (A : Aeropuertos n ι ν) (s : Estado n ι M ν) : Prop where
  bien : ∀ k, (s.broker k).Bien (sinNombres (A.local k)).toConfig
  sinReplica : ∀ k g, (s.broker k).tokenManager ≠ .replica g
  atento : ∀ k, MutexDistribuido.Atento (s.aeropuerto k)
  tokens : ∀ k g, (((s.anillo g).nodo k).tokens : Int) =
    (s.aeropuerto k).total (A.local k) g + (s.sender (k, g)).fichas
  refina : ∀ g, AlcanzaBajo (fun (r : ArranqueGrupo.Estado n) e => ArranqueGrupo.sinOtroLider r e = true)
    ArranqueGrupo.paso ArranqueGrupo.inicial (s.anillo g)

variable {s t : Estado n ι M ν}

theorem Inv.unico (hi : Inv A s) (g : Nat) : ArranqueGrupo.Unico (s.anillo g) :=
  (hi.refina g).induccion ArranqueGrupo.unico_inicial fun _ _ _ hu hc hb => ArranqueGrupo.unico_paso hu hc hb

theorem total_nonneg {x : MutexDistribuido.Estado ι M ν} {P : Clientes ι ν} (hx : MutexDistribuido.Atento x) :
    0 ≤ x.total P g := by
  have hsuma : 0 ≤ ∑ a, x.tomados (a, g) := Finset.sum_nonneg fun a _ => hx.tomados a g
  unfold MutexDistribuido.Estado.total
  omega

/-- The airport with another broker. -/
def conBroker (x : MutexDistribuido.Estado ι M ν) (b : Broker M ν) : MutexDistribuido.Estado ι M ν :=
  { x with red := { x.red with broker := b } }

omit [NeZero n] in
theorem total_conBroker (P : Clientes ι ν) (x : MutexDistribuido.Estado ι M ν) (b : Broker M ν) (g : Nat) :
    (conBroker x b).total P g + x.red.broker.saldo P.toConfig g = x.total P g + b.saldo P.toConfig g := by
  have hmismos : (conBroker x b).red.enClientes g = x.red.enClientes g := rfl
  unfold MutexDistribuido.Estado.total
  rw [hmismos]
  unfold conBroker
  dsimp only
  omega

/-- In an airport there is one token at most. -/
theorem Inv.total_le (hi : Inv A s) (k : Fin n) (g : Nat) : (s.aeropuerto k).total (A.local k) g ≤ 1 := by
  have htokens := hi.tokens k g
  have huno := (hi.unico g).tokens_le k
  omega

/-- A step in one airport, of one of its senders and of the ring of that group. -/
theorem Inv.cambia {x : MutexDistribuido.Estado ι M ν} {q : PcSender M} {r : ArranqueGrupo.Estado n}
    (hi : Inv A s) (hbien : x.red.broker.Bien (sinNombres (A.local k)).toConfig)
    (hreplica : ∀ g, x.red.broker.tokenManager ≠ .replica g) (hatento : MutexDistribuido.Atento x)
    (hotros : ∀ j, j ≠ k → (r.nodo j).tokens = ((s.anillo g).nodo j).tokens)
    (hpropio : ((r.nodo k).tokens : Int) = x.total (A.local k) g + q.fichas)
    (hresto : ∀ h, h ≠ g → x.total (A.local k) h = (s.aeropuerto k).total (A.local k) h)
    (hr : AlcanzaBajo (fun (r : ArranqueGrupo.Estado n) e => ArranqueGrupo.sinOtroLider r e = true)
      ArranqueGrupo.paso ArranqueGrupo.inicial r) :
    Inv A ⟨Function.update s.aeropuerto k x, Function.update s.sender (k, g) q,
      Function.update s.anillo g r⟩ := by
  have hcada : ∀ {p : Fin n → MutexDistribuido.Estado ι M ν → Prop}, (∀ j, p j (s.aeropuerto j)) → p k x →
      ∀ j, p j (Function.update s.aeropuerto k x j) := by
    intro p hp hx j
    by_cases hj : j = k
    · rw [hj, Function.update_self]
      exact hx
    · rw [Function.update_of_ne hj]
      exact hp j
  refine ⟨hcada (p := fun j y => y.red.broker.Bien (sinNombres (A.local j)).toConfig) hi.bien hbien,
    hcada (p := fun _ y => ∀ g, y.red.broker.tokenManager ≠ .replica g) hi.sinReplica hreplica,
    hcada (p := fun _ y => MutexDistribuido.Atento y) hi.atento hatento, fun j h => ?_, fun h => ?_⟩
  · have htokens := hi.tokens j h
    dsimp only
    by_cases hj : j = k
    · subst hj
      by_cases hh : h = g
      · subst hh
        rw [Function.update_self, Function.update_self, Function.update_self]
        exact hpropio
      · rw [Function.update_of_ne hh, Function.update_self,
          Function.update_of_ne fun he => hh (Prod.mk.inj he).2, hresto h hh]
        exact htokens
    · rw [Function.update_of_ne hj, Function.update_of_ne fun he => hj (Prod.mk.inj he).1]
      by_cases hh : h = g
      · subst hh
        rw [Function.update_self, hotros j hj]
        exact htokens
      · rw [Function.update_of_ne hh]
        exact htokens
  · dsimp only
    by_cases hh : h = g
    · rw [hh, Function.update_self]
      exact hr
    · rw [Function.update_of_ne hh]
      exact hi.refina h

/-- The same without the ring, where what the broker loses the sender gets. -/
theorem Inv.soloBroker {b : Broker M ν} {q : PcSender M} (hi : Inv A s)
    (hbien : b.Bien (sinNombres (A.local k)).toConfig) (hreplica : ∀ g, b.tokenManager ≠ .replica g)
    (hsaldo : ∀ h, b.saldo (A.local k).toConfig h + (if h = g then q.fichas else 0) =
      (s.broker k).saldo (A.local k).toConfig h + if h = g then (s.sender (k, g)).fichas else 0) :
    Inv A ((s.setBroker k b).setSender k g q) := by
  have hcambia := hi.cambia (k := k) (g := g) (q := q) (r := s.anillo g)
    (x := conBroker (s.aeropuerto k) b) hbien hreplica
    ⟨(hi.atento k).tomados, (hi.atento k).espera, (hi.atento k).entrega⟩ (fun _ _ => rfl) ?_ (fun h hh => ?_)
    (hi.refina g)
  · rw [Function.update_eq_self] at hcambia
    exact hcambia
  · have htokens := hi.tokens k g
    have hsaldo := hsaldo g
    rw [if_pos rfl, if_pos rfl] at hsaldo
    have htotal := total_conBroker (A.local k) (s.aeropuerto k) b g
    unfold Estado.broker at hsaldo
    omega
  · have hsaldo := hsaldo h
    rw [if_neg hh, if_neg hh, Nat.add_zero, Nat.add_zero] at hsaldo
    have htotal := total_conBroker (A.local k) (s.aeropuerto k) b h
    unfold Estado.broker at hsaldo
    omega

/-! ## The steps of an airport -/

variable [DecidableEq ι] [DecidableEq ν] [NeZero M]

section Red

variable {P : Clientes ι ν} {r u : SemaphoreSetDistribuido.Estado ι M ν}
  {x : SemaphoreSetDistribuido.Evento ι}

omit [Fintype ι] [NeZero n] in
/-- Only the token manager looks at the groups file. -/
theorem paso_sinNombres (hx : x ≠ .tokenManager) :
    SemaphoreSetDistribuido.paso (sinNombres P) r x = SemaphoreSetDistribuido.paso P r x := by
  cases x with
  | tokenManager => exact absurd rfl hx
  | _ => rfl

omit [Fintype ι] [NeZero n] in
theorem tokenManager_proceso (hx : x ≠ .tokenManager) (hproceso : MutexDistribuido.deProceso x = true)
    (hs : SemaphoreSetDistribuido.paso P r x = some u) : u.broker.tokenManager = r.broker.tokenManager := by
  cases x with
  | tokenManager => exact absurd rfl hx
  | waitOn a g | tomar a | limpiar a | signalize a g | senalar a => cases hproceso
  | commPadre a g | commHijo a g =>
    obtain ⟨c, -, rfl⟩ := Option.map_eq_some_iff.mp hs
    rfl
  | conectar a g | comm a g =>
    simp only [SemaphoreSetDistribuido.paso] at hs
    split at hs <;> cases hs
    rfl
  | manejador a g =>
    simp only [SemaphoreSetDistribuido.paso, SemaphoreSetDistribuido.pasoManejador] at hs
    have hjoin : ∀ {b pc res}, r.broker.pasoJoin g (P.nombre a) pc = some (b, res) →
        b.tokenManager = r.broker.tokenManager := by
      intro b pc res hj
      obtain rfl | rfl | ⟨gr, rfl, -⟩ := Broker.pasoJoin_cases hj <;> rfl
    split at hs
    · split at hs <;> cases hs
      · exact hjoin ‹_›
      · exact hjoin ‹_›
      · exact hjoin ‹_›
    · cases hs
  | manejadorPadre a g =>
    simp only [SemaphoreSetDistribuido.paso, SemaphoreSetDistribuido.pasoManejadorPadre] at hs
    split at hs
    · split at hs <;> cases hs
      rfl
    · cases hs
      rfl
    · cases hs
  | manejadorHijo a g =>
    simp only [SemaphoreSetDistribuido.paso, SemaphoreSetDistribuido.pasoManejadorHijo] at hs
    split at hs
    · obtain ⟨b, hb, rfl⟩ := Option.map_eq_some_iff.mp hs
      obtain ⟨_, -, rfl⟩ := Option.map_eq_some_iff.mp hb
      rfl
    · cases hs
      rfl
    · cases hs

end Red

theorem inv_aeropuerto {e : MutexDistribuido.Evento ι} {x : MutexDistribuido.Estado ι M ν} (hi : Inv A s)
    (hd : MutexDistribuido.Disciplina (s.aeropuerto k) e)
    (hs : MutexDistribuido.paso (A.local k) (s.aeropuerto k) e = some x) : Inv A (s.setAeropuerto k x) := by
  have hatento := MutexDistribuido.atento_paso (hi.atento k)
    (fun a g => (hi.atento k).unaFicha (hi.total_le k g) a) hd hs
  suffices h : x.red.broker.Bien (sinNombres (A.local k)).toConfig ∧
      (∀ g, x.red.broker.tokenManager ≠ .replica g) ∧
        ∀ g, x.total (A.local k) g = (s.aeropuerto k).total (A.local k) g by
    obtain ⟨hbien, hreplica, htotal⟩ := h
    have hcambia := hi.cambia (g := 0) (q := s.sender (k, 0)) hbien hreplica hatento (fun _ _ => rfl)
      (by rw [htotal]; exact hi.tokens k 0) (fun h _ => htotal h) (hi.refina 0)
    rw [Function.update_eq_self, Function.update_eq_self] at hcambia
    exact hcambia
  cases e with
  | proceso y =>
    simp only [MutexDistribuido.paso] at hs
    split at hs
    case isFalse => cases hs
    rename_i hproceso
    obtain ⟨red, hr, rfl⟩ := Option.map_eq_some_iff.mp hs
    by_cases hy : y = .tokenManager
    · subst hy
      obtain ⟨b, hb, rfl⟩ := Option.map_eq_some_iff.mp hr
      obtain ⟨hbien, hreplica, hsaldo⟩ := Broker.pasoTokenManager_sinMemoria (hi.bien k) (tamanio_local A k)
        (hi.sinReplica k) hb
      refine ⟨hbien, hreplica, fun g => ?_⟩
      have hsaldo : b.saldo (A.local k).toConfig g =
        (s.aeropuerto k).red.broker.saldo (A.local k).toConfig g := hsaldo g
      have htotal := total_conBroker (A.local k) (s.aeropuerto k) b g
      change (conBroker (s.aeropuerto k) b).total (A.local k) g = _
      omega
    · have hr' := hr
      rw [← paso_sinNombres hy] at hr'
      obtain ⟨hbien, hsaldo⟩ := MutexDistribuido.saldo_proceso (hi.bien k) hproceso hr'
      refine ⟨hbien, fun g hg => ?_, fun g => ?_⟩
      · rw [tokenManager_proceso hy hproceso hr] at hg
        exact hi.sinReplica k g hg
      · have hsaldo : red.broker.saldo (A.local k).toConfig g + red.enClientes g =
            (s.aeropuerto k).red.broker.saldo (A.local k).toConfig g +
              (s.aeropuerto k).red.enClientes g := hsaldo g
        unfold MutexDistribuido.Estado.total
        dsimp only
        omega
  | lock a g | tomar a | unlock a g | devolver a =>
    have hllamada := MutexDistribuido.total_llamada (by rintro y ⟨⟩) hs
    have hbroker : x.red.broker = s.broker k := (hllamada 0).1
    rw [hbroker]
    exact ⟨hi.bien k, hi.sinReplica k, fun h => (hllamada h).2⟩

/-! ## The steps of the ring -/

omit [Fintype ι] [DecidableEq ι] [DecidableEq ν] [NeZero M] in
/-- The step of the ring and what its receiver releases. -/
theorem pasoAnillo_eq_some {e : ArranqueGrupo.Evento n} (hs : pasoAnillo s g e = some t) :
    (∀ k, e ≠ .sendToken k) ∧ ∃ r, ArranqueGrupo.paso (s.anillo g) e = some r ∧
      t = if ((s.anillo g).nodo e.broker).tokens < (r.nodo e.broker).tokens then
        (s.setAnillo g r).setBroker e.broker ((s.broker e.broker).releaseToken g)
      else s.setAnillo g r := by
  unfold pasoAnillo at hs
  cases e with
  | sendToken k => cases hs
  | construye k =>
    dsimp only at hs
    split at hs
    · obtain ⟨r, hr, rfl⟩ := Option.map_eq_some_iff.mp hs
      exact ⟨by rintro k ⟨⟩, r, hr, rfl⟩
    · cases hs
  | arranca k | leader k | multiplexor k | recibe k =>
    obtain ⟨r, hr, rfl⟩ := Option.map_eq_some_iff.mp hs
    exact ⟨by rintro k ⟨⟩, r, hr, rfl⟩

omit [DecidableEq ι] [DecidableEq ν] [NeZero M] in
theorem inv_anillo {e : ArranqueGrupo.Evento n} (hi : Inv A s)
    (hd : ArranqueGrupo.sinOtroLider (s.anillo g) e = true) (hs : pasoAnillo s g e = some t) : Inv A t := by
  obtain ⟨he, r, hr, rfl⟩ := pasoAnillo_eq_some hs
  obtain ⟨hotros, hmin, hmax⟩ := ArranqueGrupo.tokens_paso he hr
  have hrefina := (hi.refina g).siguiente (pasoBajo_eq_some.mpr ⟨hd, hr⟩)
  have htokens := hi.tokens e.broker g
  split
  · -- the token that the ring brings is released in the broker
    rename_i hmas
    have hsuelta : ∀ h, ((s.broker e.broker).releaseToken g).saldo (A.local e.broker).toConfig h =
        (s.aeropuerto e.broker).red.broker.saldo (A.local e.broker).toConfig h + if h = g then 1 else 0 :=
      Broker.saldo_releaseToken g
    have htotal := total_conBroker (A.local e.broker) (s.aeropuerto e.broker)
      ((s.broker e.broker).releaseToken g)
    have hcambia := hi.cambia (k := e.broker) (g := g) (q := s.sender (e.broker, g)) (r := r)
      (x := conBroker (s.aeropuerto e.broker) ((s.broker e.broker).releaseToken g))
      ((hi.bien e.broker).enviar _) (hi.sinReplica e.broker)
      ⟨(hi.atento _).tomados, (hi.atento _).espera, (hi.atento _).entrega⟩ hotros ?_ (fun h hh => ?_) hrefina
    · rw [Function.update_eq_self] at hcambia
      exact hcambia
    · have hsuelta := hsuelta g
      have htotal := htotal g
      rw [if_pos rfl] at hsuelta
      omega
    · have hsuelta := hsuelta h
      have htotal := htotal h
      rw [if_neg hh] at hsuelta
      omega
  · rename_i hno
    have hcambia := hi.cambia (k := e.broker) (g := g) (q := s.sender (e.broker, g)) (r := r)
      (x := s.aeropuerto e.broker) (hi.bien e.broker) (hi.sinReplica e.broker) (hi.atento e.broker) hotros
      (by omega) (fun _ _ => rfl) hrefina
    rw [Function.update_eq_self, Function.update_eq_self] at hcambia
    exact hcambia

/-! ## The steps of a sender -/

omit [DecidableEq ι] [NeZero M] in
theorem inv_sender (hi : Inv A s) (hs : pasoSender A s k g = some t) : Inv A t := by
  unfold pasoSender at hs
  have hjoin : ∀ {b pc res} {pc' : PcSender M}, s.sender (k, g) = .une pc → pc'.fichas = 0 →
      (s.broker k).pasoJoin g (A.nombreBroker k) pc = some (b, res) →
      Inv A ((s.setBroker k b).setSender k g pc') := by
    intro b pc res pc' hpc hpc' hj
    refine hi.soloBroker ((hi.bien k).pasoJoin rfl hj) (fun g' hg => ?_) fun h => ?_
    · have hmismo : b.tokenManager = (s.broker k).tokenManager := by
        obtain rfl | rfl | ⟨gr, rfl, -⟩ := Broker.pasoJoin_cases hj <;> rfl
      rw [hmismo] at hg
      exact hi.sinReplica k g' hg
    · rw [Broker.saldo_pasoJoin hj, hpc, hpc']
      rfl
  -- a step in which only the table of the group changes
  have htabla : ∀ {gr : Grupo M ν} {pc' : PcSender M}, pc'.fichas = (s.sender (k, g)).fichas →
      gr.cola = ((s.broker k).grupo g).cola →
      ((s.broker k).setGrupo g gr).Bien (sinNombres (A.local k)).toConfig →
      Inv A ((s.setBroker k ((s.broker k).setGrupo g gr)).setSender k g pc') := by
    intro gr pc' hpc' hcola hbien
    refine hi.soloBroker hbien (hi.sinReplica k) fun h => ?_
    rw [Broker.saldo_setGrupo hcola, hpc']
  split at hs
  · rename_i hpc
    split at hs <;> cases hs
    have htokens := hi.tokens k g
    rw [hpc] at htokens
    have hcambia := hi.cambia (k := k) (g := g) (q := .une .esperaGrupo) (x := s.aeropuerto k)
      (r := s.anillo g) (hi.bien k) (hi.sinReplica k) (hi.atento k) (fun _ _ => rfl) htokens
      (fun _ _ => rfl) (hi.refina g)
    rw [Function.update_eq_self, Function.update_eq_self] at hcambia
    exact hcambia
  · rename_i pc hpc
    split at hs <;> cases hs
    · exact hjoin hpc rfl ‹_›
    · exact hjoin hpc rfl ‹_›
    · exact hjoin hpc rfl ‹_›
  · cases hs
  · rename_i i hpc
    obtain ⟨b, hb, rfl⟩ := Option.map_eq_some_iff.mp hs
    refine hi.soloBroker ((hi.bien k).lockToken hb) (fun g' hg => ?_) fun h => ?_
    · obtain ⟨_, -, rfl⟩ := Option.map_eq_some_iff.mp hb
      exact hi.sinReplica k g' hg
    · have hespera : (PcSender.espera i).fichas = 0 := rfl
      have henvia : (PcSender.envia i).fichas = 1 := rfl
      rw [Broker.saldo_lockToken hb h, hpc, hespera, henvia]
      split <;> omega
  · rename_i i hpc
    cases hs
    -- the broker of the ring has the token that the sender pushes
    have htokens := hi.tokens k g
    have hmin := total_nonneg (P := A.local k) (g := g) (hi.atento k)
    have henvia : (PcSender.envia i).fichas = 1 := rfl
    have hmarca : (PcSender.marca i).fichas = 0 := rfl
    rw [hpc, henvia] at htokens
    have hpos : 0 < ((s.anillo g).nodo k).tokens := by omega
    have hr : ArranqueGrupo.paso (s.anillo g) (.sendToken k) = some (enviarToken (s.anillo g) k) := if_pos hpos
    have hcambia := hi.cambia (k := k) (g := g) (q := .marca i) (x := s.aeropuerto k)
      (r := enviarToken (s.anillo g) k) (hi.bien k) (hi.sinReplica k) (hi.atento k) (fun j hj => ?_) ?_
      (fun _ _ => rfl) ((hi.refina g).siguiente (pasoBajo_eq_some.mpr ⟨rfl, hr⟩))
    · rw [Function.update_eq_self] at hcambia
      exact hcambia
    · unfold enviarToken
      rw [Ronda.nodo_envia, Ronda.nodo_pon_of_ne hj]
    · unfold enviarToken
      rw [Ronda.nodo_envia, Ronda.nodo_pon_self, hmarca]
      dsimp only
      omega
  · rename_i i hpc
    obtain ⟨gr, hgr, rfl⟩ := Option.map_eq_some_iff.mp hs
    exact htabla (by rw [hpc]; rfl) (Grupo.waitOn_eq_some hgr).1 (Broker.bien_waitOn (hi.bien k) hgr)
  · rename_i i hpc
    cases hs
    refine htabla (by rw [hpc]; rfl) rfl ?_
    exact (hi.bien k).setGrupo ((hi.bien k).sinBrokers g) rfl ((hi.bien k).sinCola g)

theorem inv_paso {e : Evento n ι} (hi : Inv A s) (hd : Disciplina s e) (hs : paso A s e = some t) :
    Inv A t := by
  cases e with
  | aeropuerto k e =>
    obtain ⟨x, hx, rfl⟩ := Option.map_eq_some_iff.mp hs
    exact inv_aeropuerto hi hd hx
  | anillo g e => exact inv_anillo hi hd hs
  | sender k g => exact inv_sender hi hs

omit [DecidableEq ι] [DecidableEq ν] in
theorem inv_inicial (A : Aeropuertos n ι ν) : Inv A (inicial : Estado n ι M ν) where
  bien _ := Broker.bien_inicial
  sinReplica k g h := by cases h
  atento _ := MutexDistribuido.atento_inicial
  tokens k g := by
    have hinv := (MutexDistribuido.inv_inicial (M := M) (A.local k)).total g
    rw [valorInicial_local] at hinv
    show (0 : Int) = (MutexDistribuido.inicial : MutexDistribuido.Estado ι M ν).total (A.local k) g + 0
    rw [hinv]
    rfl
  refina _ := Alcanza.refl _

/-! ## Exclusion -/

omit [DecidableEq ι] [DecidableEq ν] [NeZero M] in
theorem Inv.exclusion (hi : Inv A s) (g : Nat) : Exclusion A s g := by
  have hunico := hi.unico g
  have htokens : ∀ k, (((s.anillo g).nodo k).tokens : Int) = s.fichas A k g := by
    intro k
    have htokens := hi.tokens k g
    have hsaldo : (s.aeropuerto k).red.broker.saldo (A.local k).toConfig g =
        (s.aeropuerto k).red.broker.fichas (A.local k).toConfig g := by
      unfold Broker.saldo
      rw [valorInicial_local, ite_self, Nat.add_zero]
    unfold MutexDistribuido.Estado.total at htokens
    unfold Estado.fichas SemaphoreSetDistribuido.Estado.fichas
    push_cast
    omega
  refine ⟨hi.refina g, htokens, ?_, hunico.creados_le, fun k a => (hi.atento k).tomados a g,
    fun k l a b ha hb => ?_, fun k a hpos => (hi.atento k).entrega a g (.inr hpos)⟩
  · have hcuadra := hunico.cuadra
    have hviaje : ArranqueGrupo.enTotal (s.anillo g) =
        ∑ k, ((s.anillo g).nodo k).tokens + enViaje (s.anillo g) := by
      unfold ArranqueGrupo.enTotal enViaje Ronda.total ArranqueGrupo.Broker.enBroker
      rw [Finset.sum_add_distrib, Nat.add_assoc]
      rfl
    rw [← Finset.sum_congr rfl fun k _ => htokens k]
    unfold ArranqueGrupo.creados at hcuadra
    rw [hviaje] at hcuadra
    exact_mod_cast hcuadra
  · -- two holders in two airports are two tokens of the ring
    have hmas : ∀ {k a}, 0 < (s.aeropuerto k).tomados (a, g) → 0 < ((s.anillo g).nodo k).tokens := by
      intro k a ha
      have htokens := hi.tokens k g
      have hle := (hi.atento k).tomado_le a g
      unfold MutexDistribuido.Estado.total at htokens
      omega
    have hkl : k = l := by
      by_contra hne
      have hdos : ((s.anillo g).nodo k).tokens + ((s.anillo g).nodo l).tokens ≤
          ∑ j, ((s.anillo g).nodo j).tokens := by
        rw [← Finset.sum_pair hne (f := fun j => ((s.anillo g).nodo j).tokens)]
        exact Finset.sum_le_sum_of_subset (Finset.subset_univ _)
      have huno := hunico.cuadra ▸ hunico.creados_le
      have hbroker : ∑ j, ((s.anillo g).nodo j).tokens ≤ ArranqueGrupo.enTotal (s.anillo g) :=
        le_trans (Finset.sum_le_sum fun j _ => Nat.le_add_right _ _) (Nat.le_add_right _ _)
      have hk := hmas ha
      have hl := hmas hb
      omega
    subst hkl
    exact ⟨rfl, (hi.atento k).uno (hi.total_le k g) ha hb⟩

/-- In every run of the ring, the airports have the tokens that the abstract brokers have, one for each
    mutex, and it is held by one application at a time, wherever it is. -/
theorem mutex_en_anillo_excluye (A : Aeropuertos n ι ν)
    (hs : AlcanzaBajo Disciplina (paso A) (inicial : Estado n ι M ν) s) (g : Nat) : Exclusion A s g :=
  have hi : Inv A s := hs.induccion (inv_inicial A) fun _ _ _ ha hd hb => inv_paso ha hd hb
  hi.exclusion g

end Inv

/-! ## Two airports -/

/-- Each with one application and one mutex. -/
def dosAeropuertos : Aeropuertos 2 (Fin 1) Nat where
  clientes _ :=
    { esBroker := fun nombre => nombre = 7
      grupos := fun g => if g = 0 then some (0, 1) else none
      nombre := fun a => a
      sinBrokers := fun a => by
        rw [decide_eq_false_iff_not]
        omega }
  nombreBroker _ := 7
  sonMutex k g tamanio valor hg := by
    dsimp only at hg
    split at hg <;> cases hg
    exact ⟨rfl, rfl⟩

def procesos (k : Fin 2) (es : List (SemaphoreSetDistribuido.Evento (Fin 1))) : List (Evento 2 (Fin 1)) :=
  es.map fun e => .aeropuerto k (.proceso e)

/-- The application of an airport asks for the group, and the token manager creates it. -/
def seCrea (k : Fin 2) : List (Evento 2 (Fin 1)) :=
  procesos k ([.conectar 0 0, .manejador 0 0] ++ List.replicate 4 .tokenManager)

def origen : Fin 2 := ⟨0, Nat.zero_lt_two⟩

def destino : Fin 2 := ⟨1, Nat.one_lt_two⟩

/-- The origin is the leader, and the destination hears of it. -/
def seArranca : List (Evento 2 (Fin 1)) :=
  List.map (Evento.anillo 0)
    [.construye origen, .leader origen, .arranca origen, .recibe origen, .construye destino,
      .arranca destino, .multiplexor destino, .recibe destino, .multiplexor origen, .recibe origen,
      .multiplexor destino, .recibe destino]

/-- The sender of the origin joins the group and is given the token. -/
def seEnvia : List (Evento 2 (Fin 1)) :=
  List.replicate 5 (Evento.sender origen 0) ++ procesos origen (List.replicate 4 .tokenManager) ++
    List.replicate 2 (Evento.sender origen 0) ++
    [Evento.anillo 0 (.multiplexor destino), Evento.anillo 0 (.recibe destino)]

/-- The application of the destination joins the group, locks and gets the token. -/
def seToma : List (Evento 2 (Fin 1)) :=
  procesos destino (List.replicate 4 (.manejador 0 0) ++ [.comm 0 0] ++ List.replicate 4 .tokenManager) ++
    [Evento.aeropuerto destino (.lock 0 0)] ++
    procesos destino (List.replicate 2 (.manejadorHijo 0 0) ++ List.replicate 3 (.commPadre 0 0)) ++
    [Evento.aeropuerto destino (.tomar 0)]

/-- The theorem where the token has gone from one airport to the other. -/
theorem mutex_en_anillo_excluye_otro_aeropuerto :
    ∃ s : Estado 2 (Fin 1) 2 Nat,
      (s.aeropuerto destino).tomados (0, 0) = 1 ∧ Exclusion dosAeropuertos s 0 := by
  have hrun : (correr (pasoBajo Disciplina (paso dosAeropuertos)) (inicial : Estado 2 (Fin 1) 2 Nat)
      (seCrea origen ++ seCrea destino ++ seArranca ++ seEnvia ++ seToma)).map
      (fun s => (s.aeropuerto destino).tomados (0, 0)) = some 1 := by decide +kernel
  obtain ⟨s, hs, hn⟩ := Option.map_eq_some_iff.mp hrun
  exact ⟨s, hn, mutex_en_anillo_excluye dosAeropuertos ⟨_, hs⟩ 0⟩

end MutexEnAnillo
