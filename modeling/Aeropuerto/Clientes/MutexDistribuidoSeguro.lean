import Aeropuerto.Clientes.MutexDistribuido

/-!
# The distributed mutex excludes

The count of the semaphores holds of the mutexes too: the tokens of a group and the calls of `lock` that
have returned and not been undone add up to its initial value, which is at most 1.  So a token that is
compared with the slot of an application finds there the group that it is waiting for, or another
group: while the slot still names the group of a mutex that is held, there is no token to compare.
-/

namespace MutexDistribuido

open Ejecucion SemaphoreSetDistribuido

variable {ι ν : Type} {M : Nat} {P : Clientes ι ν} {a b : ι} {g h : Nat}

/-! ## What the processes leave alone -/

section Procesos

variable [DecidableEq ι] [DecidableEq ν] [NeZero M] {s t : SemaphoreSetDistribuido.Estado ι M ν}
  {e : SemaphoreSetDistribuido.Evento ι}

/-- A process moves no application. -/
theorem app_proceso (he : deProceso e = true) (hs : SemaphoreSetDistribuido.paso P s e = some t) :
    t.app = s.app ∧ t.vueltas = s.vueltas ∧ t.senales = s.senales := by
  cases e with
  | waitOn a g | tomar a | limpiar a | signalize a g | senalar a => cases he
  | tokenManager | commPadre a g | commHijo a g =>
    obtain ⟨c, -, rfl⟩ := Option.map_eq_some_iff.mp hs
    exact ⟨rfl, rfl, rfl⟩
  | conectar a g | comm a g =>
    simp only [SemaphoreSetDistribuido.paso] at hs
    split at hs <;> cases hs
    exact ⟨rfl, rfl, rfl⟩
  | manejador a g =>
    simp only [SemaphoreSetDistribuido.paso, pasoManejador] at hs
    split at hs
    · split at hs <;> cases hs <;> exact ⟨rfl, rfl, rfl⟩
    · cases hs
  | manejadorPadre a g =>
    simp only [SemaphoreSetDistribuido.paso, pasoManejadorPadre] at hs
    split at hs
    · split at hs <;> cases hs
      exact ⟨rfl, rfl, rfl⟩
    · cases hs
      exact ⟨rfl, rfl, rfl⟩
    · cases hs
  | manejadorHijo a g =>
    simp only [SemaphoreSetDistribuido.paso, pasoManejadorHijo] at hs
    split at hs
    · obtain ⟨b, -, rfl⟩ := Option.map_eq_some_iff.mp hs
      exact ⟨rfl, rfl, rfl⟩
    · cases hs
      exact ⟨rfl, rfl, rfl⟩
    · cases hs

/-- A token of the connection is being delivered to its application, or waits there. -/
def Entregada (c : Conexion M) : Prop := c.commPadre = .entrega ∨ 0 < c.entrega

omit [DecidableEq ν] [NeZero M] in
theorem entregada_setConexion {x : ι} {k : Nat} {c : Conexion M} {br : Broker M ν}
    (hx : Entregada (({ s with broker := br }.setConexion a k c).conexion (x, g)))
    (hc : Entregada c → Entregada (s.conexion (a, k))) :
    Entregada (s.conexion (x, g)) := by
  dsimp only [Estado.setConexion] at hx
  by_cases hxk : (x, g) = (a, k)
  · rw [hxk, Function.update_self] at hx
    rw [hxk]
    exact hc hx
  · rwa [Function.update_of_ne hxk] at hx

/-- A process brings a token to an application only when it has found the group in its slot. -/
theorem entregada_proceso (he : deProceso e = true) (hs : SemaphoreSetDistribuido.paso P s e = some t)
    (hx : Entregada (t.conexion (a, g))) :
    Entregada (s.conexion (a, g)) ∨
      ((s.conexion (a, g)).commPadre = .compara ∧ (s.app a).tokenEsperando = some g) := by
  cases e with
  | waitOn a g | tomar a | limpiar a | signalize a g | senalar a => cases he
  | tokenManager =>
    obtain ⟨c, -, rfl⟩ := Option.map_eq_some_iff.mp hs
    exact .inl hx
  | conectar b k | comm b k =>
    simp only [SemaphoreSetDistribuido.paso] at hs
    split at hs <;> cases hs
    exact .inl (entregada_setConexion hx id)
  | manejador b k =>
    simp only [SemaphoreSetDistribuido.paso, pasoManejador] at hs
    split at hs
    · split at hs <;> cases hs <;> exact .inl (entregada_setConexion hx id)
    · cases hs
  | manejadorPadre b k =>
    simp only [SemaphoreSetDistribuido.paso, pasoManejadorPadre] at hs
    split at hs
    · split at hs <;> cases hs
      exact .inl (entregada_setConexion hx id)
    · cases hs
      exact .inl (entregada_setConexion hx id)
    · cases hs
  | manejadorHijo b k =>
    simp only [SemaphoreSetDistribuido.paso, pasoManejadorHijo] at hs
    split at hs
    · obtain ⟨br, -, rfl⟩ := Option.map_eq_some_iff.mp hs
      exact .inl (entregada_setConexion hx id)
    · cases hs
      exact .inl (entregada_setConexion hx id)
    · cases hs
  | commHijo b k =>
    obtain ⟨c, hc, rfl⟩ := Option.map_eq_some_iff.mp hs
    refine .inl (entregada_setConexion hx fun h => ?_)
    unfold Conexion.pasoCommHijo at hc
    split at hc
    · split at hc <;> cases hc
      exact h
    · cases hc
      exact h
    · cases hc
  | commPadre b k =>
    obtain ⟨c, hc, rfl⟩ := Option.map_eq_some_iff.mp hs
    dsimp only [Estado.setConexion] at hx
    by_cases hxk : (a, g) = (b, k)
    · cases hxk
      rw [Function.update_self] at hx
      unfold Conexion.pasoCommPadre at hc
      split at hc
      · split at hc <;> cases hc
        exact .inl (.inr (hx.resolve_left fun hent => by cases hent))
      · rename_i hcomm hpc
        cases hc
        by_cases hslot : (s.app a).tokenEsperando = some g
        · exact .inr ⟨hpc, hslot⟩
        · refine .inl (.inr (hx.resolve_left fun hent => ?_))
          simp [hslot] at hent
      · rename_i hcomm hpc
        exact .inl (.inl hpc)
      · cases hc
        exact .inl (.inr (hx.resolve_left fun hent => by cases hent))
      · cases hc
    · rw [Function.update_of_ne hxk] at hx
      exact .inl hx

end Procesos

/-! ## The tokens and the mutexes that are held -/

theorem suma_tomados [Fintype ι] [DecidableEq ι] (f : ι × Nat → Int) (a : ι) (g h : Nat) (d : Int) :
    ∑ x, Function.update f (a, g) (f (a, g) + d) (x, h) =
      (∑ x, f (x, h)) + if h = g then d else 0 := by
  have hcada : ∀ x, Function.update f (a, g) (f (a, g) + d) (x, h) =
      f (x, h) + if x = a then (if h = g then d else 0) else 0 := by
    intro x
    by_cases hx : (x, h) = (a, g)
    · cases hx
      rw [Function.update_self, if_pos rfl, if_pos rfl]
    · rw [Function.update_of_ne hx]
      by_cases hxa : x = a
      · rw [if_pos hxa, if_neg fun hhg => hx (by rw [hxa, hhg]), add_zero]
      · rw [if_neg hxa, add_zero]
  rw [Finset.sum_congr rfl fun x _ => hcada x, Finset.sum_add_distrib, Finset.sum_ite_eq' Finset.univ a,
    if_pos (Finset.mem_univ a)]

section Pasos

variable [Fintype ι] {s t : Estado ι M ν} {e : Evento ι}

/-- The tokens of a mutex, with the one that its creation will bring, and those that hold it. -/
def Estado.total (P : Clientes ι ν) (s : Estado ι M ν) (g : Nat) : Int :=
  s.red.broker.saldo P.toConfig g + s.red.enClientes g + ∑ a, s.tomados (a, g)

/-- A token is on its way to an application only if that one waits for it. -/
structure Atento (s : Estado ι M ν) : Prop where
  tomados : ∀ a g, 0 ≤ s.tomados (a, g)
  espera : ∀ a g, (s.red.app a).tokenEsperando = some g →
    (s.red.app a).pc = .esperando g ∨ 0 < s.tomados (a, g)
  entrega : ∀ a g, Entregada (s.red.conexion (a, g)) → (s.red.app a).pc = .esperando g

omit [Fintype ι] in
theorem atento_inicial [NeZero M] : Atento (inicial : Estado ι M ν) where
  tomados _ _ := le_refl _
  espera a g hslot := by cases hslot
  entrega a g hent := by
    rcases hent with hcomm | hpos
    · cases hcomm
    · exact absurd hpos (Nat.lt_irrefl 0)

theorem Atento.tomado_le (hi : Atento s) (a : ι) (g : Nat) : s.tomados (a, g) ≤ ∑ x, s.tomados (x, g) :=
  Finset.single_le_sum (f := fun x => s.tomados (x, g)) (fun x _ => hi.tomados x g) (Finset.mem_univ a)

/-- A token at a connection is the only one, and nobody holds the mutex. -/
theorem Atento.unaFicha (hi : Atento s) (huno : s.total P g ≤ 1) (a : ι) :
    ((s.red.conexion (a, g)).fichas : Int) + (s.red.app a).fichas g + s.tomados (a, g) ≤ 1 := by
  have hle := fichas_le P s.red a g
  have htom := hi.tomado_le a g
  have hfichas : s.red.fichas P g ≤ s.red.broker.saldo P.toConfig g + s.red.enClientes g := by
    unfold SemaphoreSetDistribuido.Estado.fichas Broker.saldo
    omega
  unfold Estado.total at huno
  omega

/-- Two that hold the mutex are two of the total. -/
theorem Atento.uno (hi : Atento s) (huno : s.total P g ≤ 1) (ha : 0 < s.tomados (a, g))
    (hb : 0 < s.tomados (b, g)) : a = b := by
  classical
  by_contra hab
  have hdos : s.tomados (a, g) + s.tomados (b, g) ≤ ∑ x, s.tomados (x, g) := by
    rw [← Finset.sum_pair hab (f := fun x => s.tomados (x, g))]
    exact Finset.sum_le_sum_of_subset_of_nonneg (Finset.subset_univ _) fun x _ _ => hi.tomados x g
  unfold Estado.total at huno
  omega

variable [DecidableEq ι] [DecidableEq ν] [NeZero M]

/-! ## The count -/

section Red

variable {r u : SemaphoreSetDistribuido.Estado ι M ν} {x : SemaphoreSetDistribuido.Evento ι}

omit [Fintype ι] in
/-- No process reads the counters. -/
theorem paso_contadores (hx : deProceso x = true) (v n : Nat → Nat) :
    SemaphoreSetDistribuido.paso P { r with vueltas := v, senales := n } x =
      (SemaphoreSetDistribuido.paso P r x).map fun u => { u with vueltas := v, senales := n } := by
  cases x with
  | waitOn a g | tomar a | limpiar a | signalize a g | senalar a => cases hx
  | tokenManager | commPadre a g | commHijo a g =>
    simp only [SemaphoreSetDistribuido.paso, Option.map_map]
    rfl
  | conectar a g | comm a g =>
    simp only [SemaphoreSetDistribuido.paso]
    split <;> rfl
  | manejador a g =>
    simp only [SemaphoreSetDistribuido.paso, pasoManejador]
    split
    · split <;> rfl
    · rfl
  | manejadorPadre a g =>
    simp only [SemaphoreSetDistribuido.paso, pasoManejadorPadre]
    split
    · split <;> rfl
    · rfl
    · rfl
  | manejadorHijo a g =>
    simp only [SemaphoreSetDistribuido.paso, pasoManejadorHijo]
    split
    · rw [Option.map_map]
      rfl
    · rfl
    · rfl

/-- A process moves the tokens from one place to another. -/
theorem saldo_proceso (hb : r.broker.Bien P.toConfig) (hx : deProceso x = true)
    (hr : SemaphoreSetDistribuido.paso P r x = some u) :
    u.broker.Bien P.toConfig ∧ ∀ g, u.broker.saldo P.toConfig g + u.enClientes g =
      r.broker.saldo P.toConfig g + r.enClientes g := by
  -- the count of the semaphores, from counters with which it holds
  have hi : SemaphoreSetDistribuido.Inv P { r with
      vueltas := P.valorInicial, senales := fun g => r.broker.saldo P.toConfig g + r.enClientes g } :=
    ⟨hb, fun g => Nat.add_comm _ _⟩
  have hpaso := paso_contadores (P := P) (r := r) hx P.valorInicial
    fun g => r.broker.saldo P.toConfig g + r.enClientes g
  rw [hr, Option.map_some] at hpaso
  have hi' := SemaphoreSetDistribuido.inv_paso hi hpaso
  refine ⟨hi'.bien, fun g => ?_⟩
  have hcuenta : u.broker.saldo P.toConfig g + u.enClientes g + P.valorInicial g =
      P.valorInicial g + (r.broker.saldo P.toConfig g + r.enClientes g) := hi'.cuenta g
  omega

end Red

omit [DecidableEq ν] [NeZero M] in
/-- What one application does with its semaphores. -/
theorem total_cambia {p : App} {c : Conexion M} {v n : Nat → Nat} {d : Int}
    (hcuenta : ((if h = g then c.fichas else 0 : Nat) : Int) + p.fichas h + (if h = g then d else 0) =
      ((if h = g then (s.red.conexion (a, g)).fichas else 0 : Nat) : Int) + (s.red.app a).fichas h) :
    Estado.total P ⟨⟨s.red.broker, Function.update s.red.app a p,
      Function.update s.red.conexion (a, g) c, v, n⟩,
      Function.update s.tomados (a, g) (s.tomados (a, g) + d)⟩ h = s.total P h := by
  have hclientes := enClientes_update s.red a g p c h
  have hsuma := suma_tomados s.tomados a g h d
  show ((s.red.broker.saldo P.toConfig h : Nat) : Int) +
    ((∑ x, ((Function.update s.red.conexion (a, g) c (x, h)).fichas +
      (Function.update s.red.app a p x).fichas h) : Nat) : Int) +
    (∑ x, Function.update s.tomados (a, g) (s.tomados (a, g) + d) (x, h)) =
      (s.red.broker.saldo P.toConfig h : Int) + s.red.enClientes h + ∑ x, s.tomados (x, h)
  omega

omit [DecidableEq ν] [NeZero M] in
/-- The same, in a step that leaves its semaphores and the mutexes that it holds. -/
theorem total_setApp {p : App} {v n : Nat → Nat} (hp : p.fichas h = (s.red.app a).fichas h) :
    Estado.total P ⟨⟨s.red.broker, Function.update s.red.app a p, s.red.conexion, v, n⟩, s.tomados⟩ h =
      s.total P h := by
  have hcambia := total_cambia (P := P) (s := s) (a := a) (g := 0) (h := h) (p := p) (d := 0)
    (c := s.red.conexion (a, 0)) (v := v) (n := n) (by rw [hp]; simp)
  rw [add_zero, Function.update_eq_self, Function.update_eq_self] at hcambia
  exact hcambia

/-- The calls of the applications keep the tokens and the holders together. -/
theorem total_llamada (he : ∀ x, e ≠ .proceso x) (hs : paso P s e = some t) (h : Nat) :
    t.red.broker = s.red.broker ∧ t.total P h = s.total P h := by
  cases e with
  | proceso x => exact absurd rfl (he x)
  | lock a g =>
    obtain ⟨red, hr, rfl⟩ := Option.map_eq_some_iff.mp hs
    simp only [SemaphoreSetDistribuido.paso] at hr
    split at hr <;> cases hr
    rename_i hpc
    exact ⟨rfl, total_setApp (by simp [App.fichas, hpc])⟩
  | tomar a =>
    simp only [paso] at hs
    split at hs
    · rename_i g hpc
      split at hs <;> cases hs
      rename_i hpos
      -- the token that was there is the mutex that is held now
      refine ⟨rfl, total_cambia ?_⟩
      by_cases hh : h = g
      · subst hh
        simp only [if_true, Conexion.fichas, App.fichas, hpc, reduceCtorEq, or_self, if_false]
        omega
      · simp [App.fichas, hpc, hh]
    · cases hs
  | unlock a g =>
    obtain ⟨red, hr, rfl⟩ := Option.map_eq_some_iff.mp hs
    simp only [SemaphoreSetDistribuido.paso] at hr
    split at hr <;> cases hr
    rename_i hpc
    have hcambia := total_cambia (P := P) (s := s) (a := a) (g := g) (h := h) (d := -1)
      (p := { pc := .senalando g, tokenEsperando := none }) (c := s.red.conexion (a, g))
      (v := s.red.vueltas) (n := Function.update s.red.senales g (s.red.senales g + 1)) (by
        by_cases hh : h = g
        · simp [App.fichas, hpc, hh]
        · simp [App.fichas, hpc, hh, Ne.symm hh])
    rw [Function.update_eq_self] at hcambia
    exact ⟨rfl, hcambia⟩
  | devolver a =>
    obtain ⟨red, hr, rfl⟩ := Option.map_eq_some_iff.mp hs
    simp only [SemaphoreSetDistribuido.paso] at hr
    split at hr <;> cases hr
    rename_i g hpc
    have hcambia := total_cambia (P := P) (s := s) (a := a) (g := g) (h := h) (d := 0)
      (p := { s.red.app a with pc := .reposo }) (v := s.red.vueltas) (n := s.red.senales)
      (c := { s.red.conexion (a, g) with devolucion := (s.red.conexion (a, g)).devolucion + 1 }) (by
        by_cases hh : h = g
        · simp only [hh, if_true, Conexion.fichas, App.fichas, hpc, reduceCtorEq, or_self, or_true,
            if_false]
          omega
        · simp [App.fichas, hpc, hh, Ne.symm hh])
    rw [add_zero, Function.update_eq_self (a, g) s.tomados] at hcambia
    exact ⟨rfl, hcambia⟩

/-! ## The slot of an application -/

omit [Fintype ι] in
theorem atento_proceso {x : SemaphoreSetDistribuido.Evento ι} {red : SemaphoreSetDistribuido.Estado ι M ν}
    (hi : Atento s)
    (huna : ∀ a g, ((s.red.conexion (a, g)).fichas : Int) + (s.red.app a).fichas g + s.tomados (a, g) ≤ 1)
    (hx : deProceso x = true) (hs : SemaphoreSetDistribuido.paso P s.red x = some red) :
    Atento { s with red := red } := by
  obtain ⟨happ, -, -⟩ := app_proceso hx hs
  refine ⟨hi.tomados, fun a g hslot => ?_, fun a g hent => ?_⟩
  · dsimp only at hslot ⊢
    rw [happ] at hslot ⊢
    exact hi.espera a g hslot
  · dsimp only at hent ⊢
    rw [happ]
    rcases entregada_proceso hx hs hent with hantes | ⟨hcompara, hslot⟩
    · exact hi.entrega a g hantes
    · rcases hi.espera a g hslot with hpc | htomado
      · exact hpc
      · -- the mutex is held, so there is no token to compare
        have huna := huna a g
        unfold Conexion.fichas at huna
        rw [hcompara, show PcCommPadre.compara.fichas = 1 from rfl] at huna
        omega

omit [Fintype ι] [DecidableEq ν] [NeZero M] in
/-- A call that changes the point and the slot of an application to which no token is being delivered. -/
theorem Atento.entrega_setApp {app : ι → App} {conexion : ι × Nat → Conexion M} (hi : Atento s)
    (hotros : ∀ x, x ≠ a → app x = s.red.app x)
    (hcon : ∀ x g, Entregada (conexion (x, g)) → Entregada (s.red.conexion (x, g)))
    (hpc : ∀ g, (s.red.app a).pc ≠ .esperando g) (x : ι) (g : Nat) (hx : Entregada (conexion (x, g))) :
    (app x).pc = .esperando g := by
  have hpc' := hi.entrega x g (hcon x g hx)
  by_cases hxa : x = a
  · rw [hxa] at hpc'
    exact absurd hpc' (hpc g)
  · rw [hotros x hxa]
    exact hpc'

omit [Fintype ι] in
theorem atento_lock (hi : Atento s) (hs : paso P s (.lock a g) = some t) : Atento t := by
  obtain ⟨red, hr, rfl⟩ := Option.map_eq_some_iff.mp hs
  simp only [SemaphoreSetDistribuido.paso] at hr
  split at hr <;> cases hr
  rename_i hpc
  have hfuera : ∀ k, (s.red.app a).pc ≠ .esperando k := by
    intro k hk
    rw [hpc] at hk
    cases hk
  refine ⟨hi.tomados, fun x k hslot => ?_,
    hi.entrega_setApp (fun x hx => Function.update_of_ne hx _ _) (fun _ _ => id) hfuera⟩
  dsimp only [SemaphoreSetDistribuido.Estado.setApp] at hslot ⊢
  by_cases hxa : x = a
  · rw [hxa, Function.update_self] at hslot ⊢
    exact .inl (congrArg PcApp.esperando (Option.some.inj hslot))
  · rw [Function.update_of_ne hxa] at hslot ⊢
    exact hi.espera x k hslot

omit [Fintype ι] in
theorem atento_tomar (hi : Atento s)
    (huna : ∀ a g, ((s.red.conexion (a, g)).fichas : Int) + (s.red.app a).fichas g + s.tomados (a, g) ≤ 1)
    (hs : paso P s (.tomar a) = some t) : Atento t := by
  simp only [paso] at hs
  split at hs
  · rename_i g hpc
    split at hs <;> cases hs
    rename_i hpos
    have htomados : ∀ x k, s.tomados (x, k) ≤
        Function.update s.tomados (a, g) (s.tomados (a, g) + 1) (x, k) := by
      intro x k
      by_cases hxk : (x, k) = (a, g)
      · cases hxk
        rw [Function.update_self]
        omega
      · rw [Function.update_of_ne hxk]
    refine ⟨fun x k => (hi.tomados x k).trans (htomados x k), fun x k hslot => ?_, fun x k hx => ?_⟩
    · dsimp only [Estado.tomar, SemaphoreSetDistribuido.Estado.setApp] at hslot ⊢
      by_cases hxa : x = a
      · subst hxa
        rw [Function.update_self] at hslot
        right
        rcases hi.espera x k hslot with hesp | htom
        · rw [hpc] at hesp
          cases hesp
          have hno := hi.tomados x g
          rw [Function.update_self]
          omega
        · exact htom.trans_le (htomados x k)
      · rw [Function.update_of_ne hxa] at hslot ⊢
        exact (hi.espera x k hslot).imp id fun htom => htom.trans_le (htomados x k)
    · dsimp only [Estado.tomar, SemaphoreSetDistribuido.Estado.setApp,
        SemaphoreSetDistribuido.Estado.setConexion] at hx ⊢
      by_cases hxk : (x, k) = (a, g)
      · -- what is still being delivered would be a second token
        cases hxk
        exfalso
        rw [Function.update_self] at hx
        have huna := huna a g
        have hno := hi.tomados a g
        unfold Conexion.fichas at huna
        rcases hx with hx | hx
        · dsimp only at hx
          rw [hx, show PcCommPadre.entrega.fichas = 1 from rfl] at huna
          omega
        · dsimp only at hx
          omega
      · rw [Function.update_of_ne hxk] at hx
        have hesp := hi.entrega x k hx
        by_cases hxa : x = a
        · rw [hxa, hpc] at hesp
          exact absurd (by rw [hxa, PcApp.esperando.inj hesp]) hxk
        · rw [Function.update_of_ne hxa]
          exact hesp
  · cases hs

omit [Fintype ι] in
theorem atento_unlock (hi : Atento s) (hd : 0 < s.tomados (a, g)) (hs : paso P s (.unlock a g) = some t) :
    Atento t := by
  obtain ⟨red, hr, rfl⟩ := Option.map_eq_some_iff.mp hs
  simp only [SemaphoreSetDistribuido.paso] at hr
  split at hr <;> cases hr
  rename_i hpc
  have hfuera : ∀ k, (s.red.app a).pc ≠ .esperando k := by
    intro k hk
    rw [hpc] at hk
    cases hk
  refine ⟨fun x k => ?_, fun x k hslot => ?_,
    hi.entrega_setApp (fun x hx => Function.update_of_ne hx _ _) (fun _ _ => id) hfuera⟩
  · dsimp only
    have hx := hi.tomados x k
    by_cases hxk : (x, k) = (a, g)
    · cases hxk
      rw [Function.update_self]
      omega
    · rw [Function.update_of_ne hxk]
      exact hx
  · dsimp only [SemaphoreSetDistribuido.Estado.setApp] at hslot ⊢
    by_cases hxa : x = a
    · rw [hxa, Function.update_self] at hslot
      cases hslot
    · rw [Function.update_of_ne hxa] at hslot ⊢
      rw [Function.update_of_ne fun hxk => hxa (Prod.mk.inj hxk).1]
      exact hi.espera x k hslot

omit [Fintype ι] in
theorem atento_devolver (hi : Atento s) (hs : paso P s (.devolver a) = some t) : Atento t := by
  obtain ⟨red, hr, rfl⟩ := Option.map_eq_some_iff.mp hs
  simp only [SemaphoreSetDistribuido.paso] at hr
  split at hr <;> cases hr
  rename_i g hpc
  have hfuera : ∀ k, (s.red.app a).pc ≠ .esperando k := by
    intro k hk
    rw [hpc] at hk
    cases hk
  refine ⟨hi.tomados, fun x k hslot => ?_,
    hi.entrega_setApp (fun x hx => Function.update_of_ne hx _ _) (fun x k hx => ?_) hfuera⟩
  · dsimp only [SemaphoreSetDistribuido.Estado.setApp] at hslot ⊢
    by_cases hxa : x = a
    · subst hxa
      rw [Function.update_self] at hslot
      exact .inr ((hi.espera x k hslot).resolve_left (hfuera k))
    · rw [Function.update_of_ne hxa] at hslot ⊢
      exact hi.espera x k hslot
  · dsimp only [SemaphoreSetDistribuido.Estado.setApp] at hx
    exact entregada_setConexion hx id

omit [Fintype ι] in
theorem atento_paso (hi : Atento s)
    (huna : ∀ a g, ((s.red.conexion (a, g)).fichas : Int) + (s.red.app a).fichas g + s.tomados (a, g) ≤ 1)
    (hd : Disciplina s e) (hs : paso P s e = some t) : Atento t := by
  cases e with
  | proceso x =>
    simp only [paso] at hs
    split at hs
    · obtain ⟨red, hr, rfl⟩ := Option.map_eq_some_iff.mp hs
      exact atento_proceso hi huna ‹_› hr
    · cases hs
  | lock a g => exact atento_lock hi hs
  | tomar a => exact atento_tomar hi huna hs
  | unlock a g => exact atento_unlock hi hd hs
  | devolver a => exact atento_devolver hi hs

/-! ## One broker -/

structure Inv (P : Clientes ι ν) (s : Estado ι M ν) : Prop where
  bien : s.red.broker.Bien P.toConfig
  total : ∀ g, s.total P g = P.valorInicial g
  atento : Atento s

omit [DecidableEq ι] [DecidableEq ν] in
theorem inv_inicial (P : Clientes ι ν) : Inv P (inicial : Estado ι M ν) where
  bien := Broker.bien_inicial
  total g := by
    have hred := (SemaphoreSetDistribuido.inv_inicial (M := M) P).cuenta g
    have hsuma : ∑ _a : ι, (0 : Int) = 0 := Finset.sum_const_zero
    show ((_ : Nat) : Int) + (_ : Nat) + ∑ _a : ι, (0 : Int) = _
    rw [hsuma, add_zero]
    exact_mod_cast hred
  atento := atento_inicial

omit [DecidableEq ι] [DecidableEq ν] [NeZero M] in
theorem Inv.total_le (hi : Inv P s) (g : Nat) : s.total P g ≤ 1 := by
  rw [hi.total]
  exact_mod_cast Broker.valorInicial_le P.toConfig g

theorem inv_paso (hi : Inv P s) (hd : Disciplina s e) (hs : paso P s e = some t) : Inv P t := by
  have hatento := atento_paso hi.atento (fun a g => hi.atento.unaFicha (hi.total_le g) a) hd hs
  cases e with
  | proceso x =>
    simp only [paso] at hs
    split at hs
    · obtain ⟨red, hr, rfl⟩ := Option.map_eq_some_iff.mp hs
      obtain ⟨hbien, hsaldo⟩ := saldo_proceso hi.bien ‹_› hr
      refine ⟨hbien, fun g => ?_, hatento⟩
      have htotal := hi.total g
      have hsaldo := hsaldo g
      unfold Estado.total at htotal ⊢
      dsimp only
      omega
    · cases hs
  | _ =>
    have hllamada := total_llamada (by rintro x ⟨⟩) hs
    refine ⟨(hllamada 0).1 ▸ hi.bien, fun g => ?_, hatento⟩
    rw [(hllamada g).2]
    exact hi.total g

omit [DecidableEq ι] [DecidableEq ν] [NeZero M] in
theorem Inv.exclusion (hi : Inv P s) (g : Nat) : Exclusion P s g := by
  have htotal := hi.total g
  have hvalor := Broker.valorInicial_le P.toConfig g
  unfold Estado.total Broker.saldo at htotal
  have hsuma : 0 ≤ ∑ a, s.tomados (a, g) := Finset.sum_nonneg fun a _ => hi.atento.tomados a g
  have hfichas : s.red.fichas P g = s.red.broker.fichas P.toConfig g + s.red.enClientes g := rfl
  refine ⟨fun a => hi.atento.tomados a g, fun hc => ?_, fun hc => ?_,
    fun a b => hi.atento.uno (hi.total_le g), fun a ha => ?_,
    fun a hpos => hi.atento.entrega a g (.inr hpos)⟩
  · rw [if_pos hc] at htotal
    omega
  · have hno : ¬ s.red.broker.creado g = true := by
      rw [hc]
      exact Bool.false_ne_true
    rw [if_neg hno] at htotal
    refine ⟨by omega, fun a => ?_⟩
    have hle := hi.atento.tomado_le a g
    have hpos := hi.atento.tomados a g
    omega
  · have hle := hi.atento.tomado_le a g
    split at htotal <;> omega

/-- In every run whose applications unlock what they have locked, a group has its one token in the system
    or held by one application, no two applications are between `lock` and `unlock` at a time, and
    a token that has been brought to an application is waited for there. -/
theorem mutex_distribuido_excluye (P : Clientes ι ν)
    (hs : AlcanzaBajo Disciplina (paso P) (inicial : Estado ι M ν) s) (g : Nat) : Exclusion P s g :=
  have hi : Inv P s := hs.induccion (inv_inicial P) fun _ _ _ ha hd hb => inv_paso ha hd hb
  hi.exclusion g

end Pasos

/-- Application 0 joins the group, locks and gets the token. -/
def unLock : List (Evento (Fin 2)) :=
  [Evento.proceso (.conectar 0 0), Evento.proceso (.manejador 0 0)] ++
    List.replicate 4 (Evento.proceso .tokenManager) ++
    List.replicate 4 (Evento.proceso (.manejador 0 0)) ++ [Evento.proceso (.comm 0 0)] ++
    List.replicate 4 (Evento.proceso .tokenManager) ++ [Evento.lock 0 0] ++
    List.replicate 2 (Evento.proceso (.manejadorHijo 0 0)) ++
    List.replicate 3 (Evento.proceso (.commPadre 0 0)) ++ [Evento.tomar 0]

/-- The theorem where one of two applications has the mutex. -/
theorem mutex_distribuido_excluye_un_lock :
    ∃ s : Estado (Fin 2) 2 Nat, s.tomados (0, 0) = 1 ∧ Exclusion dosApps s 0 := by
  have hrun : (correr (pasoBajo Disciplina (paso dosApps)) (inicial : Estado (Fin 2) 2 Nat) unLock).map
      (fun s => s.tomados (0, 0)) = some 1 := by decide +kernel
  obtain ⟨s, hs, hn⟩ := Option.map_eq_some_iff.mp hrun
  exact ⟨s, hn, mutex_distribuido_excluye dosApps ⟨_, hs⟩ 0⟩

end MutexDistribuido
