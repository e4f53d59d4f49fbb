import Aeropuerto.Broker.Grupo

/-!
# The token manager and the groups of a local broker (`local_broker/token_manager.cpp`)

The token manager creates the groups its client handlers ask for and passes the token of a group on
each time it is released.  Its queue is read in order, whatever the type of the message.  The names
of the groups are numbers.  A handler enters a group with `join_group`
(`local_broker/client_handler.cpp`).
-/

/-- What the broker reads: which names begin with `localbroker`, and the groups file, with the size
    of the memory and the initial value of each group. -/
structure Config (ν : Type) where
  esBroker : ν → Bool
  grupos : Nat → Option (Nat × Nat)

/-- `traspaso_token_t` on the queue of the token manager. -/
inductive Mensaje where
  -- tipo 3
  | crear (g : Nat)
  | token (g : Nat)
deriving DecidableEq

inductive PcTokenManager where
  | pide
  | procesa (m : Mensaje)
  -- in crear_grupo, after the constructor of Grupo
  | libera (g : Nat)
  | inicializa (g : Nat)
  -- inside the section of replicar_brokers
  | replica (g : Nat)
  | espera (g : Nat)
  -- inside the section of pasar_token_a_proximo_cliente
  | pasa (g : Nat)

structure Broker (M : Nat) (ν : Type) where
  grupo : Nat → Grupo M ν
  creado : Nat → Bool
  colaTokenManager : List Mensaje
  tokenManager : PcTokenManager

/-- The handler in `join_group`, with the slot that it is about to take. -/
inductive PcJoin (M : Nat) where
  | avisa
  | esperaGrupo
  | esperaMutex
  | verifica
  | ocupa (i : Fin M)

inductive ResultadoJoin (M : Nat) where
  | sigue (pc : PcJoin M)
  | unido (i : Fin M)
  | rechazado

/-- The first token of a group is released if its value is exactly 1. -/
def Config.valorInicial {ν : Type} (cfg : Config ν) (g : Nat) : Nat :=
  match cfg.grupos g with
  | some (_, valor) => if valor = 1 then 1 else 0
  | none => 0

def Config.tamanio {ν : Type} (cfg : Config ν) (g : Nat) : Nat :=
  match cfg.grupos g with
  | some (tamanio, _) => tamanio
  | none => 0

/-- The connections of a run, with the name each client registers, which no broker uses. -/
structure Clientes (ι ν : Type) extends Config ν where
  nombre : ι → ν
  sinBrokers : ∀ a, esBroker (nombre a) = false

namespace Broker

variable {ν : Type} {M : Nat}

def setGrupo (b : Broker M ν) (g : Nat) (grupo : Grupo M ν) : Broker M ν :=
  { b with grupo := Function.update b.grupo g grupo }

def enviar (b : Broker M ν) (m : Mensaje) : Broker M ν :=
  { b with colaTokenManager := b.colaTokenManager ++ [m] }

/-- `Grupo::release_token`. -/
def releaseToken (b : Broker M ν) (g : Nat) : Broker M ν := b.enviar (.token g)

/-- `Grupo::lock_token`; its result is not looked at by the handlers. -/
def lockToken (b : Broker M ν) (g : Nat) (k : Fin M) : Option (Broker M ν) :=
  ((b.grupo g).lockToken k).map fun r => b.setGrupo g r.1

section Paso

variable [NeZero M]

def inicial : Broker M ν where
  grupo := fun _ => Grupo.crear 0
  creado := fun _ => false
  colaTokenManager := []
  tokenManager := .pide

/-- The loop of `TokenManager::run`; `none` while it blocks, and after the exception of a token of a
    group that does not exist. -/
def pasoTokenManager (cfg : Config ν) (b : Broker M ν) : Option (Broker M ν) :=
  match b.tokenManager with
  | .pide =>
    match b.colaTokenManager with
    | m :: cola => some { b with colaTokenManager := cola, tokenManager := .procesa m }
    | [] => none
  | .procesa (.crear g) =>
    if b.creado g then some { b with tokenManager := .pide }
    else
      match cfg.grupos g with
      | some (tamanio, _) =>
        some { b with
          grupo := Function.update b.grupo g (Grupo.crear tamanio)
          creado := Function.update b.creado g true
          tokenManager := .libera g }
      | none => some { b with tokenManager := .pide }
  | .libera g =>
    some { (if cfg.valorInicial g = 1 then b.releaseToken g else b) with
      tokenManager := .inicializa g }
  -- the memory itself is not in the broker
  | .inicializa _ => some { b with tokenManager := .pide }
  | .procesa (.token g) =>
    if b.creado g then
      if (b.grupo g).memSize = 0 then some { b with tokenManager := .espera g }
      else (b.grupo g).waitOn.map fun gr => { b.setGrupo g gr with tokenManager := .replica g }
    else none
  | .replica g =>
    some { b.setGrupo g ((b.grupo g).replicarBrokers cfg.esBroker) with tokenManager := .espera g }
  | .espera g => (b.grupo g).waitOn.map fun gr => { b.setGrupo g gr with tokenManager := .pasa g }
  | .pasa g =>
    some { b.setGrupo g ((b.grupo g).pasarTokenAProximoCliente cfg.esBroker) with
      tokenManager := .pide }

variable [DecidableEq ν]

/-- One step of `join_group`. -/
def pasoJoin (b : Broker M ν) (g : Nat) (nombre : ν) :
    PcJoin M → Option (Broker M ν × ResultadoJoin M)
  | .avisa => some (b.enviar (.crear g), .sigue .esperaGrupo)
  | .esperaGrupo => if b.creado g then some (b, .sigue .esperaMutex) else none
  | .esperaMutex => (b.grupo g).waitOn.map fun gr => (b.setGrupo g gr, .sigue .verifica)
  | .verifica =>
    match (b.grupo g).joinVerificar nombre with
    | (gr, some i) => some (b.setGrupo g gr, .sigue (.ocupa i))
    | (gr, none) => some (b.setGrupo g gr, .rechazado)
  | .ocupa i => some (b.setGrupo g ((b.grupo g).joinOcupar nombre i), .unido i)

end Paso

/-! ## Where the token of a group is -/

/-- The token that the token manager has in its hands, or is about to issue. -/
def fichaEnMano (cfg : Config ν) (g : Nat) : PcTokenManager → Nat
  | .procesa (.token h) | .replica h | .espera h | .pasa h => if h = g then 1 else 0
  | .libera h => if h = g then cfg.valorInicial g else 0
  | _ => 0

/-- The tokens of group `g` inside the broker. -/
def fichas (cfg : Config ν) (b : Broker M ν) (g : Nat) : Nat :=
  b.colaTokenManager.count (.token g) + fichaEnMano cfg g b.tokenManager + (b.grupo g).encolados

/-- The same, with the token that the creation of the group will bring. -/
def saldo (cfg : Config ν) (b : Broker M ν) (g : Nat) : Nat :=
  b.fichas cfg g + if b.creado g then 0 else cfg.valorInicial g

/-- The group that `crear_grupo` has created and not finished with. -/
def enCreacion : PcTokenManager → Option Nat
  | .libera g | .inicializa g => some g
  | _ => none

/-- The group exists and its memory has its initial image. -/
def listo (b : Broker M ν) (g : Nat) : Prop :=
  b.creado g = true ∧ enCreacion b.tokenManager ≠ some g

/-- The group whose token is being passed on. -/
def enTraspaso : PcTokenManager → Option Nat
  | .replica g | .espera g | .pasa g => some g
  | _ => none

/-- The group in whose section the token manager is. -/
def enSeccion : PcTokenManager → Option Nat
  | .replica g | .pasa g => some g
  | _ => none

/-- What holds of the broker between two steps. -/
structure Bien (cfg : Config ν) (b : Broker M ν) : Prop where
  sinBrokers : ∀ g, (b.grupo g).SinBrokers cfg.esBroker
  enTraspaso : ∀ g, enTraspaso b.tokenManager = some g → b.creado g = true
  tamanio : ∀ g, b.creado g = true → (b.grupo g).memSize = cfg.tamanio g
  -- nothing is passed before the group is complete
  sinCola : ∀ g, ¬ b.listo g → ∀ k, (b.grupo g).cola k = []

variable {cfg : Config ν} {b b' : Broker M ν} {g h : Nat} {k : Fin M}

@[simp] theorem setGrupo_same (gr : Grupo M ν) : (b.setGrupo g gr).grupo g = gr :=
  Function.update_self ..

theorem setGrupo_ne (gr : Grupo M ν) (hne : h ≠ g) : (b.setGrupo g gr).grupo h = b.grupo h :=
  Function.update_of_ne hne ..

/-- A new table of group `g` is seen by what is stated of all groups only if it changes `P`. -/
theorem setGrupo_forall {P : Nat → Grupo M ν → Prop} {gr : Grupo M ν}
    (hP : ∀ h, P h (b.grupo h)) (hg : P g gr) (h : Nat) : P h ((b.setGrupo g gr).grupo h) := by
  by_cases hh : h = g
  · rw [hh, setGrupo_same]
    exact hg
  · rw [setGrupo_ne gr hh]
    exact hP h

/-- Changing the table of a group and not its queues moves no token. -/
theorem encolados_setGrupo (gr : Grupo M ν) (hcola : gr.cola = (b.grupo g).cola) (h : Nat) :
    ((b.setGrupo g gr).grupo h).encolados = (b.grupo h).encolados :=
  setGrupo_forall (P := fun h gr => gr.encolados = (b.grupo h).encolados) (fun _ => rfl)
    (Grupo.encolados_congr hcola) h

theorem valorInicial_le (cfg : Config ν) (g : Nat) : cfg.valorInicial g ≤ 1 := by
  unfold Config.valorInicial
  split
  · split <;> omega
  · omega

theorem encolados_eq_zero (hcola : ∀ k, (b.grupo g).cola k = []) :
    (b.grupo g).encolados = 0 := by
  unfold Grupo.encolados
  apply Finset.sum_eq_zero
  intro k _
  rw [hcola k, List.length_nil]

/-! ## The invariant -/

theorem Bien.setGrupo {gr : Grupo M ν} (hb : b.Bien cfg) (hno : gr.SinBrokers cfg.esBroker)
    (hmem : gr.memSize = (b.grupo g).memSize) (hcola : ¬ b.listo g → ∀ k, gr.cola k = []) :
    (b.setGrupo g gr).Bien cfg where
  sinBrokers := setGrupo_forall (P := fun _ gr => gr.SinBrokers cfg.esBroker) hb.sinBrokers hno
  enTraspaso := hb.enTraspaso
  tamanio := setGrupo_forall (P := fun h gr => b.creado h = true → gr.memSize = cfg.tamanio h)
    hb.tamanio fun hc => hmem.trans (hb.tamanio g hc)
  sinCola := setGrupo_forall (P := fun h gr => ¬ b.listo h → ∀ k, gr.cola k = []) hb.sinCola hcola

/-- Nothing but the queue and the step of the token manager changes. -/
theorem Bien.siguiente (hb : b.Bien cfg) {cola : List Mensaje} {tm : PcTokenManager}
    (hpasa : ∀ g, Broker.enTraspaso tm = some g → b.creado g = true)
    (hcrea : ∀ g, enCreacion tm = some g → enCreacion b.tokenManager = some g) :
    Bien cfg { b with colaTokenManager := cola, tokenManager := tm } where
  sinBrokers := hb.sinBrokers
  enTraspaso := hpasa
  tamanio := hb.tamanio
  sinCola g hno := hb.sinCola g fun hl => hno ⟨hl.1, fun he => hl.2 (hcrea g he)⟩

theorem Bien.enviar (hb : b.Bien cfg) (m : Mensaje) : (b.enviar m).Bien cfg :=
  hb.siguiente hb.enTraspaso fun _ h => h

/-- Only a complete group has a token to take. -/
theorem Bien.listo_of_lockToken (hb : b.Bien cfg) (h : b.lockToken g k = some b') : b.listo g := by
  obtain ⟨⟨gr, tipo⟩, hr, -⟩ := Option.map_eq_some_iff.mp h
  obtain ⟨resto, hcola, -⟩ := Grupo.lockToken_eq_some hr
  by_contra hno
  rw [hb.sinCola g hno k] at hcola
  cases hcola

theorem Bien.lockToken (hb : b.Bien cfg) (h : b.lockToken g k = some b') : b'.Bien cfg := by
  have hlisto := hb.listo_of_lockToken h
  obtain ⟨⟨gr, tipo⟩, hr, rfl⟩ := Option.map_eq_some_iff.mp h
  obtain ⟨resto, -, hgr⟩ := Grupo.lockToken_eq_some hr
  exact hb.setGrupo (by rw [hgr]; exact hb.sinBrokers g) (by rw [hgr])
    fun hno => absurd hlisto hno

theorem listo_lockToken (h : b.lockToken g k = some b') (j : Nat) : b'.listo j ↔ b.listo j := by
  obtain ⟨_, -, rfl⟩ := Option.map_eq_some_iff.mp h
  rfl

theorem bien_waitOn (hb : b.Bien cfg) {gr : Grupo M ν} (h : (b.grupo g).waitOn = some gr) :
    (b.setGrupo g gr).Bien cfg := by
  obtain ⟨hcola, hnames, hmem⟩ := Grupo.waitOn_eq_some h
  apply hb.setGrupo _ hmem
  · rw [hcola]
    exact hb.sinCola g
  · intro k
    rw [hnames]
    exact hb.sinBrokers g k

section Paso

variable [NeZero M]

theorem bien_inicial : (inicial : Broker M ν).Bien cfg :=
  ⟨fun _ _ => rfl, nofun, nofun, fun _ _ _ => rfl⟩

theorem Bien.pasoTokenManager (hb : b.Bien cfg) (hs : b.pasoTokenManager cfg = some b') :
    b'.Bien cfg := by
  cases htm : b.tokenManager with
  | pide =>
    simp only [Broker.pasoTokenManager, htm] at hs
    split at hs <;> cases hs
    exact hb.siguiente nofun nofun
  | procesa m =>
    cases m with
    | crear g =>
      simp only [Broker.pasoTokenManager, htm] at hs
      split at hs
      · cases hs
        exact hb.siguiente nofun nofun
      · split at hs <;> cases hs
        · -- the new group has no clients and no messages
          rename_i tamanio valor hgrupos
          refine ⟨fun h => ?_, nofun, fun h hc => ?_, fun h hno => ?_⟩
          · dsimp only
            by_cases hh : h = g
            · rw [hh, Function.update_self]
              exact fun _ => rfl
            · rw [Function.update_of_ne hh]
              exact hb.sinBrokers h
          · dsimp only at hc ⊢
            by_cases hh : h = g
            · rw [hh, Function.update_self, Config.tamanio, hgrupos]
              rfl
            · rw [Function.update_of_ne hh] at hc ⊢
              exact hb.tamanio h hc
          · dsimp only
            by_cases hh : h = g
            · rw [hh, Function.update_self]
              exact fun _ => rfl
            · rw [Function.update_of_ne hh]
              refine hb.sinCola h fun hl => hno ⟨?_, ?_⟩
              · exact (Function.update_of_ne hh ..).trans hl.1
              · exact fun he => hh (Option.some.inj he).symm
        · exact hb.siguiente nofun nofun
    | token g =>
      simp only [Broker.pasoTokenManager, htm] at hs
      split at hs
      · rename_i hcreado
        have hpasa : ∀ h, some g = some h → b.creado h = true := by
          intro h he
          cases he
          exact hcreado
        split at hs
        · cases hs
          exact hb.siguiente hpasa nofun
        · obtain ⟨gr, hgr, rfl⟩ := Option.map_eq_some_iff.mp hs
          exact (bien_waitOn hb hgr).siguiente hpasa nofun
      · cases hs
  | libera g =>
    simp only [Broker.pasoTokenManager, htm] at hs
    cases hs
    split
    · exact hb.siguiente nofun fun h he => by rw [htm]; exact he
    · exact hb.siguiente nofun fun h he => by rw [htm]; exact he
  | inicializa g =>
    simp only [Broker.pasoTokenManager, htm] at hs
    cases hs
    exact hb.siguiente nofun nofun
  | replica g =>
    simp only [Broker.pasoTokenManager, htm] at hs
    cases hs
    have hpasa := hb.enTraspaso
    rw [htm] at hpasa
    rw [Grupo.replicarBrokers_eq (hb.sinBrokers g)]
    have hgrupo : (b.setGrupo g (b.grupo g).signalize).Bien cfg :=
      hb.setGrupo (hb.sinBrokers g) rfl (hb.sinCola g)
    exact hgrupo.siguiente hpasa nofun
  | espera g =>
    simp only [Broker.pasoTokenManager, htm] at hs
    obtain ⟨gr, hgr, rfl⟩ := Option.map_eq_some_iff.mp hs
    have hpasa := hb.enTraspaso
    rw [htm] at hpasa
    exact (bien_waitOn hb hgr).siguiente hpasa nofun
  | pasa g =>
    simp only [Broker.pasoTokenManager, htm] at hs
    cases hs
    have hlisto : b.listo g := ⟨hb.enTraspaso g (by rw [htm]; rfl), by rw [htm]; nofun⟩
    have hgrupo : (b.setGrupo g
        ((b.grupo g).pasarTokenAProximoCliente cfg.esBroker)).Bien cfg :=
      hb.setGrupo (hb.sinBrokers g) rfl fun hno => absurd hlisto hno
    exact hgrupo.siguiente nofun nofun

/-- What a step of the token manager does to the groups: nothing, one that did not exist, the mutex of
    one, or its token. -/
theorem pasoTokenManager_cases (hb : b.Bien cfg) (hs : b.pasoTokenManager cfg = some b') :
    (b'.grupo = b.grupo ∧ b'.creado = b.creado ∧ enSeccion b.tokenManager = none ∧
      enSeccion b'.tokenManager = none) ∨
    (∃ g tamanio, b.creado g = false ∧ b'.grupo = Function.update b.grupo g (Grupo.crear tamanio) ∧
      b'.creado = Function.update b.creado g true ∧ enSeccion b.tokenManager = none ∧
      enSeccion b'.tokenManager = none) ∨
    (∃ g gr, (b.grupo g).waitOn = some gr ∧ b'.grupo = Function.update b.grupo g gr ∧
      b'.creado = b.creado ∧ enSeccion b.tokenManager = none ∧
      enSeccion b'.tokenManager = some g) ∨
    (∃ g, b.tokenManager = .replica g ∧
      b'.grupo = Function.update b.grupo g (b.grupo g).signalize ∧ b'.creado = b.creado ∧
      b'.tokenManager = .espera g) ∨
    (∃ g, b.tokenManager = .pasa g ∧
      b'.grupo = Function.update b.grupo g ((b.grupo g).pasarTokenAProximoCliente cfg.esBroker) ∧
      b'.creado = b.creado ∧ b'.tokenManager = .pide) := by
  cases htm : b.tokenManager with
  | pide =>
    simp only [Broker.pasoTokenManager, htm] at hs
    split at hs <;> cases hs
    exact .inl ⟨rfl, rfl, rfl, rfl⟩
  | procesa m =>
    cases m with
    | crear g =>
      simp only [Broker.pasoTokenManager, htm] at hs
      split at hs
      · cases hs
        exact .inl ⟨rfl, rfl, rfl, rfl⟩
      · rename_i hno
        split at hs <;> cases hs
        · exact .inr (.inl ⟨g, _, by simpa using hno, rfl, rfl, rfl, rfl⟩)
        · exact .inl ⟨rfl, rfl, rfl, rfl⟩
    | token g =>
      simp only [Broker.pasoTokenManager, htm] at hs
      split at hs
      · split at hs
        · cases hs
          exact .inl ⟨rfl, rfl, rfl, rfl⟩
        · obtain ⟨gr, hgr, rfl⟩ := Option.map_eq_some_iff.mp hs
          exact .inr (.inr (.inl ⟨g, gr, hgr, rfl, rfl, rfl, rfl⟩))
      · cases hs
  | libera g =>
    simp only [Broker.pasoTokenManager, htm] at hs
    cases hs
    split <;> exact .inl ⟨rfl, rfl, rfl, rfl⟩
  | inicializa g =>
    simp only [Broker.pasoTokenManager, htm] at hs
    cases hs
    exact .inl ⟨rfl, rfl, rfl, rfl⟩
  | replica g =>
    simp only [Broker.pasoTokenManager, htm] at hs
    cases hs
    rw [Grupo.replicarBrokers_eq (hb.sinBrokers g)]
    exact .inr (.inr (.inr (.inl ⟨g, rfl, rfl, rfl, rfl⟩)))
  | espera g =>
    simp only [Broker.pasoTokenManager, htm] at hs
    obtain ⟨gr, hgr, rfl⟩ := Option.map_eq_some_iff.mp hs
    exact .inr (.inr (.inl ⟨g, gr, hgr, rfl, rfl, rfl, rfl⟩))
  | pasa g =>
    simp only [Broker.pasoTokenManager, htm] at hs
    cases hs
    exact .inr (.inr (.inr (.inr ⟨g, rfl, rfl, rfl, rfl⟩)))

/-! ## The count -/

omit [NeZero M] in
theorem saldo_enviar_crear (g h : Nat) : (b.enviar (.crear g)).saldo cfg h = b.saldo cfg h := by
  unfold saldo fichas enviar
  dsimp only
  rw [List.count_append, List.count_singleton, if_neg (by simp)]
  rfl

omit [NeZero M] in
/-- A release brings one token of the group into the broker. -/
theorem saldo_releaseToken (g h : Nat) :
    (b.releaseToken g).saldo cfg h = b.saldo cfg h + if h = g then 1 else 0 := by
  unfold saldo fichas releaseToken enviar
  dsimp only
  rw [List.count_append, List.count_singleton]
  by_cases hh : h = g
  · simp only [hh, beq_self_eq_true, if_true]
    omega
  · have hne : (Mensaje.token g == .token h) = false := by simpa using fun he => hh he.symm
    simp only [hh, hne, if_false, Bool.false_eq_true]
    omega

omit [NeZero M] in
theorem saldo_setGrupo {gr : Grupo M ν} (hcola : gr.cola = (b.grupo g).cola) (h : Nat) :
    (b.setGrupo g gr).saldo cfg h = b.saldo cfg h := by
  unfold saldo fichas
  rw [encolados_setGrupo gr hcola h]
  rfl

omit [NeZero M] in
/-- `lock_token` takes one token of the group out of the broker. -/
theorem saldo_lockToken (hs : b.lockToken g k = some b') (h : Nat) :
    b.saldo cfg h = b'.saldo cfg h + if h = g then 1 else 0 := by
  obtain ⟨r, hr, rfl⟩ := Option.map_eq_some_iff.mp hs
  have hquita : (b.grupo g).encolados = r.1.encolados + 1 := Grupo.encolados_lockToken hr
  unfold saldo fichas
  by_cases hh : h = g
  · subst hh
    rw [setGrupo_same, if_pos rfl]
    change b.colaTokenManager.count _ + _ + _ + _ = b.colaTokenManager.count _ + _ + _ +
      (if b.creado h then 0 else _) + 1
    change _ + fichaEnMano cfg h b.tokenManager + _ + _ = _ + fichaEnMano cfg h b.tokenManager + _ +
      _ + 1
    omega
  · rw [setGrupo_ne _ hh, if_neg hh]
    rfl

omit [NeZero M] in
/-- What is on the queue of the token manager, in its hands and on the queues of the group adds up to
    the same. -/
theorem saldo_congr (hcreado : b'.creado h = b.creado h)
    (henc : (b'.grupo h).encolados = (b.grupo h).encolados)
    (hmano : b'.colaTokenManager.count (.token h) + fichaEnMano cfg h b'.tokenManager =
      b.colaTokenManager.count (.token h) + fichaEnMano cfg h b.tokenManager) :
    b'.saldo cfg h = b.saldo cfg h := by
  unfold saldo fichas
  rw [hmano, henc, hcreado]

/-- The token that the creation of a group brings is in the hands of `crear_grupo`. -/
theorem saldo_crear {tamanio : Nat} (hb : b.Bien cfg) (htm : b.tokenManager = .procesa (.crear g))
    (hcreado : ¬ b.creado g = true) (h : Nat) :
    saldo cfg { b with
      grupo := Function.update b.grupo g (Grupo.crear tamanio)
      creado := Function.update b.creado g true
      tokenManager := .libera g } h = b.saldo cfg h := by
  by_cases hh : h = g
  · subst hh
    have hvacia := encolados_eq_zero (hb.sinCola h fun hl => hcreado hl.1)
    have hnueva : (Grupo.crear tamanio : Grupo M ν).encolados = 0 := Finset.sum_const_zero
    simp [saldo, fichas, htm, fichaEnMano, hvacia, hnueva, hcreado]
  · apply saldo_congr
    · exact Function.update_of_ne hh ..
    · exact congrArg Grupo.encolados (Function.update_of_ne hh ..)
    · simp [htm, fichaEnMano, Ne.symm hh]

/-- Passing the token on takes it from the hands of the token manager to a queue. -/
theorem saldo_pasa (htm : b.tokenManager = .pasa g) (h : Nat) :
    saldo cfg { b.setGrupo g ((b.grupo g).pasarTokenAProximoCliente cfg.esBroker) with
      tokenManager := .pide } h = b.saldo cfg h := by
  by_cases hh : h = g
  · subst hh
    have hmas : ((b.grupo h).pasarTokenAProximoCliente cfg.esBroker).encolados =
        (b.grupo h).encolados + 1 := Grupo.encolados_pasarToken
    refine congrArg₂ (· + ·) ?_ rfl
    unfold fichas
    rw [setGrupo_same, hmas, htm]
    simp only [fichaEnMano, if_true, setGrupo]
    omega
  · refine saldo_congr rfl ?_ ?_
    · rw [setGrupo_ne _ hh]
    · simp [htm, fichaEnMano, setGrupo, Ne.symm hh]

theorem saldo_inicial (cfg : Config ν) (g : Nat) :
    (inicial : Broker M ν).saldo cfg g = cfg.valorInicial g := by
  have hvacia : ((inicial : Broker M ν).grupo g).encolados = 0 := Finset.sum_const_zero
  unfold saldo fichas
  rw [hvacia]
  exact Nat.zero_add _

/-- The token manager neither makes nor loses a token. -/
theorem saldo_pasoTokenManager (hb : b.Bien cfg) (hs : b.pasoTokenManager cfg = some b')
    (h : Nat) : b'.saldo cfg h = b.saldo cfg h := by
  cases htm : b.tokenManager with
  | pide =>
    simp only [Broker.pasoTokenManager, htm] at hs
    split at hs <;> cases hs
    rename_i m cola hcola
    refine saldo_congr rfl rfl ?_
    rw [hcola, htm, List.count_cons]
    cases m with
    | crear g => simp [fichaEnMano]
    | token g => simp [fichaEnMano]
  | procesa m =>
    cases m with
    | crear g =>
      simp only [Broker.pasoTokenManager, htm] at hs
      split at hs
      · cases hs
        exact saldo_congr rfl rfl (by rw [htm]; rfl)
      · split at hs <;> cases hs
        · exact saldo_crear hb htm ‹_› h
        · exact saldo_congr rfl rfl (by rw [htm]; rfl)
    | token g =>
      simp only [Broker.pasoTokenManager, htm] at hs
      split at hs
      · split at hs
        · cases hs
          exact saldo_congr rfl rfl (by rw [htm]; rfl)
        · obtain ⟨gr, hgr, rfl⟩ := Option.map_eq_some_iff.mp hs
          exact saldo_congr rfl (encolados_setGrupo gr (Grupo.waitOn_eq_some hgr).1 h)
            (by rw [htm]; rfl)
      · cases hs
  | libera g =>
    simp only [Broker.pasoTokenManager, htm] at hs
    cases hs
    have hvalor := valorInicial_le cfg g
    split
    · rename_i h1
      refine saldo_congr rfl rfl ?_
      rw [htm]
      change (b.colaTokenManager ++ [Mensaje.token g]).count (Mensaje.token h) + 0 = _
      rw [List.count_append, List.count_singleton]
      by_cases hh : h = g
      · subst hh
        simp [fichaEnMano, h1]
      · simp [fichaEnMano, Ne.symm hh]
    · rename_i h1
      refine saldo_congr rfl rfl ?_
      rw [htm]
      by_cases hh : h = g
      · subst hh
        simp only [fichaEnMano, if_true]
        omega
      · simp [fichaEnMano, Ne.symm hh]
  | inicializa g =>
    simp only [Broker.pasoTokenManager, htm] at hs
    cases hs
    exact saldo_congr rfl rfl (by rw [htm]; rfl)
  | replica g =>
    simp only [Broker.pasoTokenManager, htm] at hs
    cases hs
    rw [Grupo.replicarBrokers_eq (hb.sinBrokers g)]
    exact saldo_congr rfl (encolados_setGrupo (b.grupo g).signalize rfl h) (by rw [htm]; rfl)
  | espera g =>
    simp only [Broker.pasoTokenManager, htm] at hs
    obtain ⟨gr, hgr, rfl⟩ := Option.map_eq_some_iff.mp hs
    exact saldo_congr rfl (encolados_setGrupo gr (Grupo.waitOn_eq_some hgr).1 h)
      (by rw [htm]; rfl)
  | pasa g =>
    simp only [Broker.pasoTokenManager, htm] at hs
    cases hs
    exact saldo_pasa htm h

/-- Once complete a group stays so. -/
theorem listo_pasoTokenManager (hl : b.listo h) (hs : b.pasoTokenManager cfg = some b') :
    b'.listo h := by
  obtain ⟨hcreado, hcrea⟩ := hl
  -- the only step into crear_grupo is for a group that does not exist
  cases htm : b.tokenManager with
  | procesa m =>
    cases m with
    | crear g =>
      simp only [Broker.pasoTokenManager, htm] at hs
      split at hs
      · cases hs
        exact ⟨hcreado, nofun⟩
      · rename_i hno
        split at hs <;> cases hs
        · have hh : h ≠ g := fun he => hno (he ▸ hcreado)
          refine ⟨?_, fun he => hh (Option.some.inj he).symm⟩
          exact (Function.update_of_ne hh ..).trans hcreado
        · exact ⟨hcreado, nofun⟩
    | token g =>
      simp only [Broker.pasoTokenManager, htm] at hs
      split at hs
      · split at hs
        · cases hs
          exact ⟨hcreado, nofun⟩
        · obtain ⟨gr, -, rfl⟩ := Option.map_eq_some_iff.mp hs
          exact ⟨hcreado, nofun⟩
      · cases hs
  | pide =>
    simp only [Broker.pasoTokenManager, htm] at hs
    split at hs <;> cases hs
    exact ⟨hcreado, nofun⟩
  | libera g =>
    simp only [Broker.pasoTokenManager, htm] at hs
    cases hs
    rw [htm] at hcrea
    split <;> exact ⟨hcreado, hcrea⟩
  | inicializa g | replica g | pasa g =>
    simp only [Broker.pasoTokenManager, htm] at hs
    cases hs
    exact ⟨hcreado, nofun⟩
  | espera g =>
    simp only [Broker.pasoTokenManager, htm] at hs
    obtain ⟨gr, -, rfl⟩ := Option.map_eq_some_iff.mp hs
    exact ⟨hcreado, nofun⟩

/-- A group is complete after the last step of `crear_grupo`. -/
theorem listo_of_pasoTokenManager (hs : b.pasoTokenManager cfg = some b') (hl : b'.listo h) :
    b.listo h ∨ b.tokenManager = .inicializa h := by
  obtain ⟨hcreado, hcrea⟩ := hl
  cases htm : b.tokenManager with
  | procesa m =>
    left
    refine ⟨?_, by rw [htm]; nofun⟩
    cases m with
    | crear g =>
      simp only [Broker.pasoTokenManager, htm] at hs
      split at hs
      · cases hs
        exact hcreado
      · split at hs <;> cases hs
        · have hh : h ≠ g := fun he => hcrea (by rw [he]; rfl)
          exact (Function.update_of_ne hh ..).symm.trans hcreado
        · exact hcreado
    | token g =>
      simp only [Broker.pasoTokenManager, htm] at hs
      split at hs
      · split at hs
        · cases hs
          exact hcreado
        · obtain ⟨gr, -, rfl⟩ := Option.map_eq_some_iff.mp hs
          exact hcreado
      · cases hs
  | pide =>
    simp only [Broker.pasoTokenManager, htm] at hs
    split at hs <;> cases hs
    exact .inl ⟨hcreado, by rw [htm]; nofun⟩
  | libera g =>
    simp only [Broker.pasoTokenManager, htm] at hs
    cases hs
    refine .inl ⟨?_, by rw [htm]; exact hcrea⟩
    split at hcreado <;> exact hcreado
  | inicializa g =>
    simp only [Broker.pasoTokenManager, htm] at hs
    cases hs
    by_cases hh : g = h
    · exact .inr (by rw [hh])
    · exact .inl ⟨hcreado, by rw [htm]; exact fun he => hh (Option.some.inj he)⟩
  | replica g | pasa g =>
    simp only [Broker.pasoTokenManager, htm] at hs
    cases hs
    exact .inl ⟨hcreado, by rw [htm]; nofun⟩
  | espera g =>
    simp only [Broker.pasoTokenManager, htm] at hs
    obtain ⟨gr, -, rfl⟩ := Option.map_eq_some_iff.mp hs
    exact .inl ⟨hcreado, by rw [htm]; nofun⟩

end Paso

section Join

variable [DecidableEq ν] {nombre : ν} {pc : PcJoin M} {r : ResultadoJoin M}

/-- A step of `join_group` asks for the group, or changes its table and none of its queues. -/
theorem pasoJoin_cases (hs : b.pasoJoin g nombre pc = some (b', r)) :
    b' = b.enviar (.crear g) ∨ b' = b ∨
      ∃ gr, b' = b.setGrupo g gr ∧ gr.cola = (b.grupo g).cola ∧
        gr.memSize = (b.grupo g).memSize ∧
        ∀ esBroker, esBroker nombre = false → (b.grupo g).SinBrokers esBroker →
          gr.SinBrokers esBroker := by
  cases pc with
  | avisa =>
    cases hs
    exact .inl rfl
  | esperaGrupo =>
    simp only [pasoJoin] at hs
    split at hs <;> cases hs
    exact .inr (.inl rfl)
  | esperaMutex =>
    obtain ⟨gr, hgr, he⟩ := Option.map_eq_some_iff.mp hs
    cases he
    obtain ⟨hcola, hnames, hmem⟩ := Grupo.waitOn_eq_some hgr
    refine .inr (.inr ⟨gr, rfl, hcola, hmem, fun _ _ hno k => ?_⟩)
    rw [hnames]
    exact hno k
  | verifica =>
    obtain ⟨hcola, hnames, hmem⟩ := (b.grupo g).joinVerificar_cola nombre
    simp only [pasoJoin] at hs
    refine .inr (.inr ⟨((b.grupo g).joinVerificar nombre).1, ?_, hcola, hmem, fun _ _ hno k => ?_⟩)
    · split at hs
      · rename_i gr i hv
        cases hs
        rw [hv]
      · rename_i gr hv
        cases hs
        rw [hv]
    · rw [hnames]
      exact hno k
  | ocupa i =>
    cases hs
    exact .inr (.inr ⟨_, rfl, rfl, rfl, fun _ hno h => h.joinOcupar hno i⟩)

theorem Bien.pasoJoin (hb : b.Bien cfg) (hno : cfg.esBroker nombre = false)
    (hs : b.pasoJoin g nombre pc = some (b', r)) : b'.Bien cfg := by
  obtain rfl | rfl | ⟨gr, rfl, hcola, hmem, hnames⟩ := pasoJoin_cases hs
  · exact hb.enviar _
  · exact hb
  · refine hb.setGrupo (hnames _ hno (hb.sinBrokers g)) hmem ?_
    rw [hcola]
    exact hb.sinCola g

/-- The section of `leave`. -/
theorem Bien.leave (hb : b.Bien cfg) (g : Nat) (nombre : ν) :
    (b.setGrupo g ((b.grupo g).leave nombre)).Bien cfg := by
  refine hb.setGrupo ((hb.sinBrokers g).leave nombre) (Grupo.leave_cola nombre).2 ?_
  rw [(Grupo.leave_cola nombre).1]
  exact hb.sinCola g

theorem saldo_pasoJoin (hs : b.pasoJoin g nombre pc = some (b', r)) (h : Nat) :
    b'.saldo cfg h = b.saldo cfg h := by
  obtain rfl | rfl | ⟨gr, rfl, hcola, -, -⟩ := pasoJoin_cases hs
  · exact saldo_enviar_crear g h
  · rfl
  · exact saldo_setGrupo hcola h

theorem listo_pasoJoin (hs : b.pasoJoin g nombre pc = some (b', r)) (h : Nat) :
    b'.listo h ↔ b.listo h := by
  obtain rfl | rfl | ⟨gr, rfl, -, -, -⟩ := pasoJoin_cases hs
  all_goals rfl

end Join

end Broker
