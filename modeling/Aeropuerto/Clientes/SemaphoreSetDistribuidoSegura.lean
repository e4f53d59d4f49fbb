import Aeropuerto.Clientes.SemaphoreSetDistribuido

/-!
# The distributed semaphore counts

A token of a group is in the broker, in one of the four processes or on one of the two sockets or
semaphores of a connection, or in the hands of an application that is leaving `wait_on` or in
`signalize`.  Every step moves a token from one of these places to the next, but for the return of
`wait_on`, which ends one, and the call of `signalize`, which brings one.
-/

namespace SemaphoreSetDistribuido

open Ejecucion

variable {ι ν : Type} {M : Nat}

/-! ## The tokens outside the broker -/

def PcManejadorPadre.fichas : PcManejadorPadre → Nat
  | .recibe => 0
  | .libera => 1

def PcManejadorHijo.fichas : PcManejadorHijo → Nat
  | .pide => 0
  | .envia => 1

def PcCommPadre.fichas : PcCommPadre → Nat
  | .recibe => 0
  | .compara | .entrega | .forwardea => 1

def PcCommHijo.fichas : PcCommHijo → Nat
  | .espera => 0
  | .envia => 1

def Conexion.fichas (c : Conexion M) : Nat :=
  c.manejadorHijo.fichas + c.bajada + c.commPadre.fichas + c.entrega + c.devolucion +
    c.commHijo.fichas + c.subida + c.manejadorPadre.fichas

def App.fichas (p : App) (g : Nat) : Nat :=
  if p.pc = .limpiando g ∨ p.pc = .senalando g then 1 else 0

theorem fichas_pasoCommPadre {c c' : Conexion M} {e : Bool} (h : c.pasoCommPadre e = some c') :
    c'.fichas = c.fichas := by
  unfold Conexion.pasoCommPadre at h
  split at h
  · rename_i hpc
    split at h <;> cases h
    simp only [Conexion.fichas, hpc, PcCommPadre.fichas]
    omega
  · rename_i hpc
    cases h
    cases e <;> simp [Conexion.fichas, hpc, PcCommPadre.fichas]
  · rename_i hpc
    cases h
    simp only [Conexion.fichas, hpc, PcCommPadre.fichas]
    omega
  · rename_i hpc
    cases h
    simp only [Conexion.fichas, hpc, PcCommPadre.fichas]
    omega
  · cases h

theorem fichas_pasoCommHijo {c c' : Conexion M} (h : c.pasoCommHijo = some c') :
    c'.fichas = c.fichas := by
  unfold Conexion.pasoCommHijo at h
  split at h
  · rename_i hpc
    split at h <;> cases h
    simp only [Conexion.fichas, hpc, PcCommHijo.fichas]
    omega
  · rename_i hpc
    cases h
    simp only [Conexion.fichas, hpc, PcCommHijo.fichas]
    omega
  · cases h

section Cuenta

variable [Fintype ι] {P : Clientes ι ν} {s t : Estado ι M ν} {a : ι} {g : Nat}

def Estado.enClientes (s : Estado ι M ν) (g : Nat) : Nat :=
  ∑ a, ((s.conexion (a, g)).fichas + (s.app a).fichas g)

/-- The tokens of group `g` anywhere in the system. -/
def Estado.fichas (P : Clientes ι ν) (s : Estado ι M ν) (g : Nat) : Nat :=
  s.broker.fichas P.toConfig g + s.enClientes g

/-- The system between two steps. -/
structure Inv (P : Clientes ι ν) (s : Estado ι M ν) : Prop where
  bien : s.broker.Bien P.toConfig
  cuenta : ∀ g, s.broker.saldo P.toConfig g + s.enClientes g + s.vueltas g =
    P.valorInicial g + s.senales g

variable [DecidableEq ι]

/-- The change of one application and of one of its connections. -/
theorem enClientes_update (s : Estado ι M ν) (a : ι) (g : Nat) (p : App) (c : Conexion M)
    (h : Nat) :
    (∑ x, ((Function.update s.conexion (a, g) c (x, h)).fichas +
        (Function.update s.app a p x).fichas h)) +
        ((if h = g then (s.conexion (a, g)).fichas else 0) + (s.app a).fichas h) =
      s.enClientes h + ((if h = g then c.fichas else 0) + p.fichas h) := by
  have hcon := Sumas.suma_update_par (fun c : Conexion M => c.fichas) s.conexion
    (Finset.mem_univ a) g h c
  have happ := Sumas.suma_update (fun _ (p : App) => p.fichas h) s.app (Finset.mem_univ a) p
  unfold Estado.enClientes
  rw [Finset.sum_add_distrib, Finset.sum_add_distrib]
  omega

/-- A step keeps the count if what it takes from one place it puts in another. -/
theorem Inv.cambiar {b : Broker M ν} {p : App} {c : Conexion M} {v n : Nat → Nat} (hi : Inv P s)
    (hb : b.Bien P.toConfig)
    (hcuenta : ∀ h, b.saldo P.toConfig h + (if h = g then c.fichas else 0) + p.fichas h + v h +
        s.senales h =
      s.broker.saldo P.toConfig h + (if h = g then (s.conexion (a, g)).fichas else 0) +
        (s.app a).fichas h + s.vueltas h + n h) :
    Inv P ⟨b, Function.update s.app a p, Function.update s.conexion (a, g) c, v, n⟩ := by
  refine ⟨hb, fun h => ?_⟩
  have hclientes := enClientes_update s a g p c h
  have hantes := hi.cuenta h
  have hpaso := hcuenta h
  show b.saldo P.toConfig h + (∑ x, ((Function.update s.conexion (a, g) c (x, h)).fichas +
    (Function.update s.app a p x).fichas h)) + v h = P.valorInicial h + n h
  omega

/-- A step of one of the four processes. -/
theorem Inv.proceso {b : Broker M ν} {c : Conexion M} (hi : Inv P s) (hb : b.Bien P.toConfig)
    (hcuenta : ∀ h, b.saldo P.toConfig h + (if h = g then c.fichas else 0) =
      s.broker.saldo P.toConfig h + if h = g then (s.conexion (a, g)).fichas else 0) :
    Inv P ({ s with broker := b }.setConexion a g c) := by
  have hcambio := hi.cambiar (a := a) (g := g) (p := s.app a) (c := c) (v := s.vueltas)
    (n := s.senales) hb fun h => by
      have := hcuenta h
      omega
  rw [Function.update_eq_self] at hcambio
  exact hcambio

/-- A step of the application that leaves its semaphores as they are. -/
theorem Inv.soloApp {p : App} {v n : Nat → Nat} (hi : Inv P s)
    (hcuenta : ∀ h, p.fichas h + v h + s.senales h = (s.app a).fichas h + s.vueltas h + n h) :
    Inv P ⟨s.broker, Function.update s.app a p, s.conexion, v, n⟩ := by
  have hcambio := hi.cambiar (a := a) (g := 0) (p := p) (c := s.conexion (a, 0)) (v := v)
    (n := n) hi.bien fun h => by
      have := hcuenta h
      omega
  rw [Function.update_eq_self] at hcambio
  exact hcambio

/-- A token that crosses between an application and its semaphores. -/
theorem Inv.ambos {p : App} {c : Conexion M} (hi : Inv P s)
    (hcuenta : ∀ h, (if h = g then c.fichas else 0) + p.fichas h =
      (if h = g then (s.conexion (a, g)).fichas else 0) + (s.app a).fichas h) :
    Inv P ((s.setConexion a g c).setApp a p) :=
  hi.cambiar (b := s.broker) (p := p) (c := c) (v := s.vueltas) (n := s.senales) hi.bien
    fun h => by
      have := hcuenta h
      omega

section Pasos

variable [NeZero M] [DecidableEq ν]

omit [DecidableEq ι] [DecidableEq ν] in
theorem inv_inicial (P : Clientes ι ν) : Inv P (inicial : Estado ι M ν) where
  bien := Broker.bien_inicial
  cuenta g := by
    have hclientes : (inicial : Estado ι M ν).enClientes g = 0 := Finset.sum_const_zero
    rw [hclientes]
    show (Broker.inicial : Broker M ν).saldo P.toConfig g + 0 + 0 = P.valorInicial g + 0
    rw [Broker.saldo_inicial]

omit [NeZero M] in
theorem inv_manejador (hi : Inv P s) (hs : pasoManejador P s a g = some t) : Inv P t := by
  unfold pasoManejador at hs
  split at hs
  · rename_i pc hm
    have hune : ∀ {b r m}, s.broker.pasoJoin g (P.nombre a) pc = some (b, r) →
        Inv P ({ s with broker := b }.setConexion a g { s.conexion (a, g) with manejador := m }) :=
      fun hj => hi.proceso (hi.bien.pasoJoin (P.sinBrokers a) hj)
        fun h => by rw [Broker.saldo_pasoJoin hj]; rfl
    split at hs <;> cases hs
    · exact hune ‹_›
    · exact hune ‹_›
    · exact hune ‹_›
  · cases hs

omit [NeZero M] [DecidableEq ν] in
theorem inv_manejadorPadre (hi : Inv P s) (hs : pasoManejadorPadre s a g = some t) : Inv P t := by
  unfold pasoManejadorPadre at hs
  dsimp only at hs
  split at hs
  · rename_i hpc
    split at hs <;> cases hs
    refine hi.proceso hi.bien fun h => ?_
    simp only [Conexion.fichas, hpc, PcManejadorPadre.fichas]
    split <;> omega
  · rename_i hpc
    cases hs
    refine hi.proceso (hi.bien.enviar _) fun h => ?_
    rw [Broker.saldo_releaseToken]
    simp only [Conexion.fichas, hpc, PcManejadorPadre.fichas]
    split <;> omega
  · cases hs

omit [NeZero M] [DecidableEq ν] in
theorem inv_manejadorHijo (hi : Inv P s) (hs : pasoManejadorHijo s a g = some t) : Inv P t := by
  unfold pasoManejadorHijo at hs
  dsimp only at hs
  split at hs
  · rename_i hpc
    obtain ⟨b, hb, rfl⟩ := Option.map_eq_some_iff.mp hs
    refine hi.proceso (hi.bien.lockToken hb) fun h => ?_
    rw [Broker.saldo_lockToken hb h]
    simp only [Conexion.fichas, hpc, PcManejadorHijo.fichas]
    split <;> omega
  · rename_i hpc
    cases hs
    refine hi.proceso hi.bien fun h => ?_
    simp only [Conexion.fichas, hpc, PcManejadorHijo.fichas]
    split <;> omega
  · cases hs

theorem inv_paso {e : Evento ι} (hi : Inv P s) (hs : paso P s e = some t) : Inv P t := by
  cases e with
  | tokenManager =>
    obtain ⟨b, hb, rfl⟩ := Option.map_eq_some_iff.mp hs
    refine ⟨hi.bien.pasoTokenManager hb, fun g => ?_⟩
    show b.saldo P.toConfig g + s.enClientes g + s.vueltas g = _
    rw [Broker.saldo_pasoTokenManager hi.bien hb]
    exact hi.cuenta g
  | conectar a g =>
    simp only [paso] at hs
    split at hs <;> cases hs
    exact hi.proceso hi.bien fun _ => rfl
  | manejador a g => exact inv_manejador hi hs
  | manejadorPadre a g => exact inv_manejadorPadre hi hs
  | manejadorHijo a g => exact inv_manejadorHijo hi hs
  | comm a g =>
    simp only [paso] at hs
    split at hs <;> cases hs
    exact hi.proceso hi.bien fun _ => rfl
  | commPadre a g =>
    obtain ⟨c, hc, rfl⟩ := Option.map_eq_some_iff.mp hs
    exact hi.proceso hi.bien fun h => by rw [fichas_pasoCommPadre hc]
  | commHijo a g =>
    obtain ⟨c, hc, rfl⟩ := Option.map_eq_some_iff.mp hs
    exact hi.proceso hi.bien fun h => by rw [fichas_pasoCommHijo hc]
  | waitOn a g =>
    simp only [paso] at hs
    split at hs <;> cases hs
    rename_i hpc
    exact hi.soloApp fun h => by simp [App.fichas, hpc]
  | tomar a =>
    simp only [paso] at hs
    split at hs
    · rename_i g hpc
      split at hs <;> cases hs
      refine hi.ambos fun h => ?_
      simp only [Conexion.fichas, App.fichas, hpc, reduceCtorEq, or_self, or_false, if_false,
        PcApp.limpiando.injEq]
      split <;> split <;> omega
    · cases hs
  | limpiar a =>
    simp only [paso] at hs
    split at hs <;> cases hs
    rename_i g hpc
    refine hi.soloApp fun h => ?_
    by_cases hh : h = g
    · simp [App.fichas, hpc, hh]
      omega
    · simp [App.fichas, hpc, hh, Ne.symm hh]
  | signalize a g =>
    simp only [paso] at hs
    split at hs <;> cases hs
    rename_i hpc
    refine hi.soloApp fun h => ?_
    by_cases hh : h = g
    · simp [App.fichas, hpc, hh]
      omega
    · simp [App.fichas, hpc, hh, Ne.symm hh]
  | senalar a =>
    simp only [paso] at hs
    split at hs
    · rename_i g hpc
      cases hs
      refine hi.ambos fun h => ?_
      simp only [Conexion.fichas, App.fichas, hpc, reduceCtorEq, or_self, false_or, if_false,
        PcApp.senalando.injEq]
      split <;> split <;> omega
    · cases hs

/-! ## Tokens delivered to an application that does not wait -/

/-- Where the slot of an application names `g`, and where a token of `g` is being delivered. -/
structure EnEspera (g : Nat) (s : Estado ι M ν) : Prop where
  espera : ∀ a, (s.app a).tokenEsperando = some g →
    (s.app a).pc = .esperando g ∨ (s.app a).pc = .limpiando g
  entrega : ∀ a, (s.conexion (a, g)).commPadre = .entrega ∨ 0 < (s.conexion (a, g)).entrega →
    (s.app a).pc = .esperando g

variable {k : Nat}

omit [Fintype ι] [NeZero M] [DecidableEq ν] in
/-- A step of a process that leaves the delivery of tokens as it is. -/
theorem EnEspera.proceso {b : Broker M ν} {c : Conexion M} (h : EnEspera g s)
    (hc : c.commPadre = .entrega ∨ 0 < c.entrega →
      (s.conexion (a, k)).commPadre = .entrega ∨ 0 < (s.conexion (a, k)).entrega) :
    EnEspera g ({ s with broker := b }.setConexion a k c) := by
  refine ⟨h.espera, fun x hx => ?_⟩
  dsimp only [Estado.setConexion] at hx
  by_cases hxk : (x, g) = (a, k)
  · cases hxk
    rw [Function.update_self] at hx
    exact h.entrega a (hc hx)
  · rw [Function.update_of_ne hxk] at hx
    exact h.entrega x hx

omit [Fintype ι] [NeZero M] [DecidableEq ν] in
/-- A step of an application that no token is being delivered to. -/
theorem EnEspera.setApp {p : App} {v n : Nat → Nat} {c : ι × Nat → Conexion M} (h : EnEspera g s)
    (hc : ∀ x, (c (x, g)).commPadre = .entrega ∨ 0 < (c (x, g)).entrega →
      (s.conexion (x, g)).commPadre = .entrega ∨ 0 < (s.conexion (x, g)).entrega)
    (hpc : (s.app a).pc ≠ .esperando g)
    (hp : p.tokenEsperando = some g → p.pc = .esperando g ∨ p.pc = .limpiando g) :
    EnEspera g ⟨s.broker, Function.update s.app a p, c, v, n⟩ := by
  refine ⟨fun x hx => ?_, fun x hx => ?_⟩ <;> dsimp only at *
  · by_cases hxa : x = a
    · rw [hxa, Function.update_self] at hx ⊢
      exact hp hx
    · rw [Function.update_of_ne hxa] at hx ⊢
      exact h.espera x hx
  · have hespera := h.entrega x (hc x hx)
    by_cases hxa : x = a
    · exact absurd (hxa ▸ hespera) hpc
    · rw [Function.update_of_ne hxa]
      exact hespera

omit [DecidableEq ι] [NeZero M] [DecidableEq ν] in
/-- The tokens of one application and of its connection are among those of the group. -/
theorem fichas_le (P : Clientes ι ν) (s : Estado ι M ν) (a : ι) (g : Nat) :
    (s.conexion (a, g)).fichas + (s.app a).fichas g ≤ s.fichas P g := by
  have hsub := Finset.single_le_sum
    (f := fun x => (s.conexion (x, g)).fichas + (s.app x).fichas g) (fun _ _ => Nat.zero_le _)
    (Finset.mem_univ a)
  unfold Estado.fichas Estado.enClientes
  omega

/-- A token is delivered only to an application that waits for it, if it is the only one. -/
theorem enEspera_commPadre (h : EnEspera g s) (huna : s.fichas P g ≤ 1)
    (hs : paso P s (.commPadre a k) = some t) : EnEspera g t := by
  obtain ⟨c, hc, rfl⟩ := Option.map_eq_some_iff.mp hs
  by_cases hk : k = g
  · subst hk
    refine ⟨h.espera, fun x hx => ?_⟩
    dsimp only [Estado.setConexion] at hx ⊢
    by_cases hxa : x = a
    · subst hxa
      rw [Function.update_self] at hx
      unfold Conexion.pasoCommPadre at hc
      split at hc
      · rename_i hpc
        split at hc <;> cases hc
        exact h.entrega x (.inr (hx.resolve_left nofun))
      · -- the slot names the group: the application has not got a token yet, it would be a second
        rename_i hcomm hpc
        cases hc
        rcases hx with hx | hx
        · by_cases hslot : (s.app x).tokenEsperando = some k
          · rcases h.espera x hslot with hw | hl
            · exact hw
            · have hle := fichas_le P s x k
              simp only [Conexion.fichas, App.fichas, hpc, hl, PcCommPadre.fichas, true_or,
                if_true] at hle
              omega
          · simp [hslot] at hx
        · exact h.entrega x (.inr hx)
      · rename_i hcomm hpc
        cases hc
        exact h.entrega x (.inl hpc)
      · cases hc
        exact h.entrega x (.inr (hx.resolve_left nofun))
      · cases hc
    · rw [Function.update_of_ne fun he => hxa (Prod.mk.inj he).1] at hx
      exact h.entrega x hx
  · refine ⟨h.espera, fun x hx => ?_⟩
    dsimp only [Estado.setConexion] at hx
    rw [Function.update_of_ne fun he => hk (Prod.mk.inj he).2.symm] at hx
    exact h.entrega x hx

omit [Fintype ι] [NeZero M] in
theorem enEspera_manejador (h : EnEspera g s) (hs : pasoManejador P s a k = some t) :
    EnEspera g t := by
  unfold pasoManejador at hs
  split at hs
  · split at hs <;> cases hs
    · exact h.proceso id
    · exact h.proceso id
    · exact h.proceso id
  · cases hs

/-- The application takes the only token that was being delivered. -/
theorem enEspera_tomar (h : EnEspera g s) (huna : s.fichas P g ≤ 1)
    (hs : paso P s (.tomar a) = some t) : EnEspera g t := by
  simp only [paso] at hs
  split at hs
  · rename_i k hpc
    split at hs <;> cases hs
    rename_i hpos
    refine ⟨fun x hx => ?_, fun x hx => ?_⟩
    · dsimp only [Estado.setApp, Estado.setConexion] at hx ⊢
      by_cases hxa : x = a
      · subst hxa
        rw [Function.update_self] at hx ⊢
        rcases h.espera x hx with hw | hl
        · rw [hpc] at hw
          cases hw
          exact .inr rfl
        · rw [hpc] at hl
          cases hl
      · rw [Function.update_of_ne hxa] at hx ⊢
        exact h.espera x hx
    · dsimp only [Estado.setApp, Estado.setConexion] at hx ⊢
      by_cases hxa : x = a
      · subst hxa
        exfalso
        by_cases hk : k = g
        · -- what is still being delivered would be a second token
          subst hk
          rw [Function.update_self] at hx
          have hle := fichas_le P s x k
          unfold Conexion.fichas at hle
          rcases hx with hx | hx
          · dsimp only at hx
            rw [hx, PcCommPadre.fichas] at hle
            omega
          · dsimp only at hx
            omega
        · rw [Function.update_of_ne fun he => hk (Prod.mk.inj he).2.symm] at hx
          have hw := h.entrega x hx
          rw [hpc] at hw
          exact hk (PcApp.esperando.inj hw)
      · rw [Function.update_of_ne fun he => hxa (Prod.mk.inj he).1] at hx
        rw [Function.update_of_ne hxa]
        exact h.entrega x hx
  · cases hs

theorem enEspera_paso {e : Evento ι} (h : EnEspera g s) (huna : s.fichas P g ≤ 1)
    (hs : paso P s e = some t) : EnEspera g t := by
  cases e with
  | tokenManager =>
    obtain ⟨b, hb, rfl⟩ := Option.map_eq_some_iff.mp hs
    exact ⟨h.espera, h.entrega⟩
  | conectar a k =>
    simp only [paso] at hs
    split at hs <;> cases hs
    exact h.proceso id
  | manejador a k => exact enEspera_manejador h hs
  | manejadorPadre a k =>
    simp only [paso, pasoManejadorPadre] at hs
    split at hs
    · split at hs <;> cases hs
      exact h.proceso id
    · cases hs
      exact h.proceso id
    · cases hs
  | manejadorHijo a k =>
    simp only [paso, pasoManejadorHijo] at hs
    split at hs
    · obtain ⟨b, hb, rfl⟩ := Option.map_eq_some_iff.mp hs
      exact h.proceso id
    · cases hs
      exact h.proceso id
    · cases hs
  | comm a k =>
    simp only [paso] at hs
    split at hs <;> cases hs
    exact h.proceso id
  | commPadre a k => exact enEspera_commPadre h huna hs
  | commHijo a k =>
    obtain ⟨c, hc, rfl⟩ := Option.map_eq_some_iff.mp hs
    refine h.proceso fun hx => ?_
    unfold Conexion.pasoCommHijo at hc
    split at hc
    · split at hc <;> cases hc
      exact hx
    · cases hc
      exact hx
    · cases hc
  | waitOn a k =>
    simp only [paso] at hs
    split at hs <;> cases hs
    rename_i hpc
    exact h.setApp (fun _ => id) (by rw [hpc]; nofun) fun hslot =>
      .inl (congrArg PcApp.esperando (Option.some.inj hslot))
  | tomar a => exact enEspera_tomar h huna hs
  | limpiar a =>
    simp only [paso] at hs
    split at hs <;> cases hs
    rename_i k hpc
    exact h.setApp (fun _ => id) (by rw [hpc]; nofun) nofun
  | signalize a k =>
    simp only [paso] at hs
    split at hs <;> cases hs
    rename_i hpc
    exact h.setApp (fun _ => id) (by rw [hpc]; nofun) nofun
  | senalar a =>
    simp only [paso] at hs
    split at hs <;> cases hs
    rename_i k hpc
    have hno : (s.app a).tokenEsperando ≠ some g := by
      intro hslot
      rcases h.espera a hslot with hw | hl
      · rw [hpc] at hw
        cases hw
      · rw [hpc] at hl
        cases hl
    refine h.setApp (fun x hx => ?_) (by rw [hpc]; nofun) fun hslot => absurd hslot hno
    dsimp only [Estado.setConexion] at hx
    by_cases hxk : (x, g) = (a, k)
    · cases hxk
      rw [Function.update_self] at hx
      exact hx
    · rwa [Function.update_of_ne hxk] at hx

/-! ## The semaphore -/

/-- The tokens of a group and the calls that have ended or brought one. -/
structure Cuenta (P : Clientes ι ν) (s : Estado ι M ν) (g : Nat) : Prop where
  creado : s.broker.creado g = true →
    s.fichas P g + s.vueltas g = P.valorInicial g + s.senales g
  sinCrear : s.broker.creado g = false → s.fichas P g + s.vueltas g = s.senales g

/-- The distributed semaphore counts, and while a group has at most one token none of them waits at
    an application that does not. -/
theorem semaforo_distribuido_cuenta (P : Clientes ι ν) :
    (∀ s, Alcanza (paso P) (inicial : Estado ι M ν) s → ∀ g, Cuenta P s g) ∧
    ∀ g s, AlcanzaBajo (fun (s : Estado ι M ν) _ => s.fichas P g ≤ 1) (paso P) inicial s →
      ∀ a, 0 < (s.conexion (a, g)).entrega → (s.app a).pc = .esperando g := by
  refine ⟨fun s hs g => ?_, fun g s hs a hpos => ?_⟩
  · have hi : Inv P s := hs.induccion (inv_inicial P) fun _ _ _ => inv_paso
    have hcuenta := hi.cuenta g
    unfold Broker.saldo at hcuenta
    refine ⟨fun hc => ?_, fun hc => ?_⟩
    · rw [if_pos hc] at hcuenta
      unfold Estado.fichas
      omega
    · rw [if_neg (by rw [hc]; nofun)] at hcuenta
      unfold Estado.fichas
      omega
  · have h0 : EnEspera g (inicial : Estado ι M ν) :=
      ⟨nofun, fun _ h => absurd h (not_or.mpr ⟨nofun, Nat.lt_irrefl 0⟩)⟩
    have hi : EnEspera g s := hs.induccion h0 fun _ _ _ ha hc hb => enEspera_paso ha hc hb
    exact hi.entrega a (.inr hpos)

end Pasos

end Cuenta

/-- Two applications and one semaphore of value 1. -/
def dosApps : Clientes (Fin 2) Nat where
  esBroker := fun _ => false
  grupos := fun g => if g = 0 then some (0, 1) else none
  nombre := fun a => a
  sinBrokers := fun _ => rfl

/-- Application `a` joins, waits and is about to take the token. -/
def primeraEspera (a : ι) : List (Evento ι) :=
  [.conectar a 0, .manejador a 0, .tokenManager, .tokenManager, .tokenManager, .tokenManager,
    .manejador a 0, .manejador a 0, .manejador a 0, .manejador a 0, .comm a 0,
    .tokenManager, .tokenManager, .tokenManager, .tokenManager, .waitOn a 0,
    .manejadorHijo a 0, .manejadorHijo a 0, .commPadre a 0, .commPadre a 0, .commPadre a 0]

/-- The theorem where the only token has been delivered to the application that waits for it. -/
theorem semaforo_distribuido_cuenta_una_espera :
    ∃ s : Estado (Fin 2) 2 Nat, 0 < (s.conexion (0, 0)).entrega ∧
      (s.app 0).pc = .esperando 0 ∧ Cuenta dosApps s 0 := by
  have hrun : (correr (pasoBajo (fun (s : Estado (Fin 2) 2 Nat) _ => s.fichas dosApps 0 ≤ 1)
      (paso dosApps)) inicial (primeraEspera 0)).map
      (fun s => (s.conexion (0, 0)).entrega) = some 1 := by decide +kernel
  obtain ⟨s, hs, hentrega⟩ := Option.map_eq_some_iff.mp hrun
  have hpos : 0 < (s.conexion (0, 0)).entrega := by
    rw [hentrega]
    exact Nat.one_pos
  have hbajo : AlcanzaBajo (fun (s : Estado (Fin 2) 2 Nat) _ => s.fichas dosApps 0 ≤ 1)
      (paso dosApps) inicial s := ⟨primeraEspera 0, hs⟩
  exact ⟨s, hpos, (semaforo_distribuido_cuenta dosApps).2 0 s hbajo 0 hpos,
    (semaforo_distribuido_cuenta dosApps).1 s hbajo.alcanza 0⟩

/-- Application `b` signals while `a`, which has its token, has not cleared its slot; the second token
    is delivered to `a` too, which then leaves `wait_on`. -/
def segundaSenal (a b : ι) : List (Evento ι) :=
  [.tomar a, .conectar b 0, .manejador b 0, .manejador b 0, .manejador b 0, .manejador b 0,
    .manejador b 0, .comm b 0, .signalize b 0, .senalar b, .commHijo b 0, .commHijo b 0,
    .manejadorPadre b 0, .manejadorPadre b 0, .tokenManager, .tokenManager, .tokenManager,
    .tokenManager, .tokenManager, .tokenManager, .manejadorHijo b 0, .manejadorHijo b 0,
    .commPadre b 0, .commPadre b 0, .commPadre b 0, .commHijo b 0, .commHijo b 0,
    .manejadorPadre b 0, .manejadorPadre b 0, .tokenManager, .tokenManager, .tokenManager,
    .tokenManager, .manejadorHijo a 0, .manejadorHijo a 0, .commPadre a 0, .commPadre a 0,
    .commPadre a 0, .limpiar a]

/-- A single token, parked at an application that is not inside `wait_on`. -/
theorem semaforo_distribuido_token_estacionado :
    ¬ ∀ s : Estado (Fin 2) 2 Nat, Alcanza (paso dosApps) inicial s → ∀ g a,
      s.fichas dosApps g ≤ 1 → 0 < (s.conexion (a, g)).entrega →
        (s.app a).pc = .esperando g ∨ (s.app a).pc = .limpiando g := by
  intro h
  have hrun : (correr (paso dosApps) (inicial : Estado (Fin 2) 2 Nat)
      (primeraEspera 0 ++ segundaSenal 0 1)).map
      (fun s => (s.fichas dosApps 0, (s.conexion (0, 0)).entrega, (s.app 0).pc)) =
        some (1, 1, .reposo) := by decide +kernel
  obtain ⟨s, hs, hvalores⟩ := Option.map_eq_some_iff.mp hrun
  obtain ⟨hfichas, hentrega, hpc⟩ : _ ∧ _ ∧ _ := by simpa only [Prod.mk.injEq] using hvalores
  rcases h s ⟨_, hs⟩ 0 0 hfichas.le (by rw [hentrega]; exact Nat.one_pos) with hw | hl
  · rw [hpc] at hw
    cases hw
  · rw [hpc] at hl
    cases hl

end SemaphoreSetDistribuido
