import Aeropuerto.Biblioteca.Candados
import Aeropuerto.Biblioteca.Ejecucion
import Aeropuerto.Biblioteca.Sumas

/-!
# Clients that wait for a group (`local_broker/grupo.cpp`, its constructors)

A client that does not find its group in the table counts itself in `cantidad_clientes_esperando`,
releases semaphore 0 and waits on semaphore 1.  A creation signals semaphore 1 once for each of them,
whatever the group that they wait for.
-/

namespace EsperaGrupo

open Ejecucion Candados Sumas

variable {ι ν : Type}

/-- The constructor of a client. -/
inductive PcCliente where
  -- at semaforos.wait_on(0)
  | entra
  -- at the search, with semaphore 0
  | busca
  -- about to count itself
  | cuenta
  -- about to release semaphore 0, counted
  | suelta
  -- at semaforos.wait_on(1)
  | espera
  -- about to release semaphore 0, with its group
  | encontro
  | listo
  deriving DecidableEq

/-- The token manager and its create constructor. -/
inductive PcManager (ν : Type) where
  | libre
  -- at semaforos.wait_on(0)
  | pide (n : ν)
  -- about to write the name in the table
  | inserta (n : ν)
  -- after `i` signals
  | despierta (i : Nat)
  -- about to release semaphore 0
  | suelta
  deriving DecidableEq

structure Estado (ι ν : Type) where
  sem0 : Nat
  sem1 : Nat
  cantidadClientesEsperando : Nat
  gruposCreados : List ν
  cliente : ι → PcCliente
  manager : PcManager ν

/-- After the master constructor. -/
def inicial : Estado ι ν where
  sem0 := 1
  sem1 := 0
  cantidadClientesEsperando := 0
  gruposCreados := []
  cliente := fun _ => .entra
  manager := .libre

inductive Evento (ι ν : Type) where
  | cliente (c : ι)
  -- a request for a group that does not exist
  | crear (n : ν)
  | manager

section

variable [DecidableEq ι] [DecidableEq ν] {nombre : ι → ν}

def Estado.mueve (s : Estado ι ν) (c : ι) (pc : PcCliente) : Estado ι ν :=
  { s with cliente := Function.update s.cliente c pc }

def pasoCliente (nombre : ι → ν) (s : Estado ι ν) (c : ι) : Option (Estado ι ν) :=
  match s.cliente c with
  | .entra => if 0 < s.sem0 then some { s.mueve c .busca with sem0 := s.sem0 - 1 } else none
  | .busca => some (s.mueve c (if nombre c ∈ s.gruposCreados then .encontro else .cuenta))
  | .cuenta =>
    some { s.mueve c .suelta with cantidadClientesEsperando := s.cantidadClientesEsperando + 1 }
  | .suelta => some { s.mueve c .espera with sem0 := s.sem0 + 1 }
  | .espera => if 0 < s.sem1 then some { s.mueve c .entra with sem1 := s.sem1 - 1 } else none
  | .encontro => some { s.mueve c .listo with sem0 := s.sem0 + 1 }
  | .listo => none

def pasoManager (s : Estado ι ν) : Option (Estado ι ν) :=
  match s.manager with
  | .libre => none
  | .pide n => if 0 < s.sem0 then some { s with manager := .inserta n, sem0 := s.sem0 - 1 } else none
  | .inserta n => some { s with manager := .despierta 0, gruposCreados := s.gruposCreados ++ [n] }
  | .despierta i =>
    if i < s.cantidadClientesEsperando then
      some { s with manager := .despierta (i + 1), sem1 := s.sem1 + 1 }
    else some { s with manager := .suelta, cantidadClientesEsperando := 0 }
  | .suelta => some { s with manager := .libre, sem0 := s.sem0 + 1 }

def paso (nombre : ι → ν) (s : Estado ι ν) : Evento ι ν → Option (Estado ι ν)
  | .cliente c => pasoCliente nombre s c
  | .crear n =>
    if s.manager = .libre ∧ n ∉ s.gruposCreados then some { s with manager := .pide n } else none
  | .manager => pasoManager s

/-! ## Who waits, and for what -/

/-- The constructor has not begun to write. -/
def PcManager.sinCrear : PcManager ν → Bool
  | .libre => true
  | .pide _ => true
  | .inserta _ => true
  | .despierta _ => false
  | .suelta => false

/-- A client that is blocked on semaphore 1 waits for a group that does not exist. -/
def EsperaConRazon (nombre : ι → ν) (s : Estado ι ν) : Prop :=
  s.manager.sinCrear = true → s.sem1 = 0 → ∀ c, s.cliente c = .espera → nombre c ∉ s.gruposCreados

variable [Fintype ι]

def esperaExistente (nombre : ι → ν) (creados : List ν) (c : ι) (pc : PcCliente) : Nat :=
  if pc = .espera ∧ nombre c ∈ creados then 1 else 0

/-- The clients at semaphore 1 whose group exists. -/
def porDespertar (nombre : ι → ν) (s : Estado ι ν) : Nat :=
  ∑ c, esperaExistente nombre s.gruposCreados c (s.cliente c)

/-- While no creation writes, a client takes a signal for a group that does not exist only if there are
    more signals than clients waiting for a group that exists. -/
def senialSobrante (nombre : ι → ν) (s : Estado ι ν) : Evento ι ν → Bool
  | .cliente c =>
    s.cliente c ≠ .espera ∨ nombre c ∈ s.gruposCreados ∨ s.manager.sinCrear = false ∨
      porDespertar nombre s < s.sem1
  | _ => true

/-! ## The invariant -/

/-- The clients in the count or with a signal to come. -/
def PcCliente.contado : PcCliente → Nat
  | .suelta => 1
  | .espera => 1
  | _ => 0

def contados (s : Estado ι ν) : Nat := ∑ c, (s.cliente c).contado

/-- The signals that a creation has given but not yet taken from the count. -/
def PcManager.dadas : PcManager ν → Nat
  | .despierta i => i
  | _ => 0

def PcCliente.dentro : PcCliente → Bool
  | .busca => true
  | .cuenta => true
  | .suelta => true
  | .encontro => true
  | _ => false

def PcManager.dentro : PcManager ν → Bool
  | .inserta _ => true
  | .despierta _ => true
  | .suelta => true
  | _ => false

/-- The processes with semaphore 0; the token manager is `none`. -/
def Dentro (s : Estado ι ν) : Option ι → Prop
  | none => s.manager.dentro = true
  | some c => (s.cliente c).dentro = true

structure Inv (nombre : ι → ν) (s : Estado ι ν) : Prop where
  excluye : Excluye s.sem0 (Dentro s)
  cuentas : contados s + s.manager.dadas = s.cantidadClientesEsperando + s.sem1
  dadas : s.manager.dadas ≤ s.cantidadClientesEsperando
  todas : s.manager = .suelta → s.cantidadClientesEsperando = 0
  sinGrupo : ∀ c, s.cliente c = .cuenta ∨ s.cliente c = .suelta → nombre c ∉ s.gruposCreados
  alcanzan : s.manager.sinCrear = true → porDespertar nombre s ≤ s.sem1

omit [DecidableEq ι] in
theorem inv_inicial : Inv nombre (inicial : Estado ι ν) where
  excluye := by
    have hnadie : ∀ q, ¬ Dentro (inicial : Estado ι ν) q := by
      intro q
      cases q <;> nofun
    exact ⟨Nat.le_refl 1, fun q hq => absurd hq (hnadie q), fun q _ hq => absurd hq (hnadie q)⟩
  cuentas := by simp [contados, inicial, PcCliente.contado, PcManager.dadas]
  dadas := Nat.le_refl 0
  todas := nofun
  sinGrupo _ h := by rcases h with h | h <;> cases h
  alcanzan _ := by simp [porDespertar, esperaExistente, inicial]

variable {s t : Estado ι ν} {c : ι} {pc : PcCliente} {n : ν}

/-! ## A client moves -/

omit [DecidableEq ν] in
theorem contados_mueve (h : s.cliente c = pc) (pc' : PcCliente) :
    contados (s.mueve c pc') + pc.contado = contados s + pc'.contado := by
  subst h
  exact suma_update (fun _ => PcCliente.contado) s.cliente (Finset.mem_univ c) pc'

theorem porDespertar_mueve (h : s.cliente c = pc) (pc' : PcCliente) :
    porDespertar nombre (s.mueve c pc') + esperaExistente nombre s.gruposCreados c pc =
      porDespertar nombre s + esperaExistente nombre s.gruposCreados c pc' := by
  subst h
  exact suma_update (esperaExistente nombre s.gruposCreados) s.cliente (Finset.mem_univ c) pc'

omit [DecidableEq ν] [Fintype ι] in
theorem dentro_mueve (q : Option ι) (h : Dentro (s.mueve c pc) q) :
    q = some c ∧ pc.dentro = true ∨ q ≠ some c ∧ Dentro s q := by
  cases q with
  | none => exact .inr ⟨nofun, h⟩
  | some d =>
    by_cases hd : d = c
    · subst hd
      refine .inl ⟨rfl, ?_⟩
      simpa [Dentro, Estado.mueve] using h
    · refine .inr ⟨fun he => hd (Option.some.inj he), ?_⟩
      simpa [Dentro, Estado.mueve, Function.update_of_ne hd] using h

/-- What a move of one client has to say to keep the invariant. -/
theorem Inv.mueve (hi : Inv nombre s) (hpc : s.cliente c = pc) {pc' : PcCliente} {sem0 sem1 cantidad : Nat}
    (hexcluye : Excluye sem0 (Dentro (s.mueve c pc')))
    (hcuentas : cantidad + sem1 + pc.contado = s.cantidadClientesEsperando + s.sem1 + pc'.contado)
    (hdadas : s.manager.dadas ≤ cantidad) (htodas : s.manager = .suelta → cantidad = 0)
    (hsinGrupo : pc' = .cuenta ∨ pc' = .suelta → nombre c ∉ s.gruposCreados)
    (halcanzan : s.manager.sinCrear = true →
      porDespertar nombre s + esperaExistente nombre s.gruposCreados c pc' ≤
        sem1 + esperaExistente nombre s.gruposCreados c pc) :
    Inv nombre { s.mueve c pc' with sem0 := sem0, sem1 := sem1, cantidadClientesEsperando := cantidad } where
  excluye := hexcluye
  cuentas := by
    have hcontados := contados_mueve hpc pc'
    have hantes := hi.cuentas
    show contados (s.mueve c pc') + s.manager.dadas = cantidad + sem1
    omega
  dadas := hdadas
  todas := htodas
  sinGrupo d := by
    show Function.update s.cliente c pc' d = _ ∨ Function.update s.cliente c pc' d = _ → _
    by_cases hd : d = c
    · subst hd
      rw [Function.update_self]
      exact hsinGrupo
    · rw [Function.update_of_ne hd]
      exact hi.sinGrupo d
  alcanzan hm := by
    have hporDespertar : porDespertar nombre (s.mueve c pc') + _ = _ := porDespertar_mueve hpc pc'
    have hantes := halcanzan hm
    show porDespertar nombre (s.mueve c pc') ≤ sem1
    omega

omit [DecidableEq ι] in
/-- The token manager is not in its constructor while a client holds semaphore 0. -/
theorem Inv.manager_fuera (hi : Inv nombre s) (hpc : (s.cliente c).dentro = true) :
    s.manager.dentro = false := by
  rw [← Bool.not_eq_true]
  intro hm
  exact absurd (hi.excluye.unico (some c) none hpc hm) nofun

theorem Inv.entrar (hi : Inv nombre s) (hsem : 0 < s.sem0) (c : ι) (pc : PcCliente) :
    Excluye (s.sem0 - 1) (Dentro (s.mueve c pc)) := by
  apply hi.excluye.entrar (p := some c) hsem
  intro q hq
  rcases dentro_mueve q hq with ⟨rfl, -⟩ | ⟨-, hq⟩
  · exact .inr rfl
  · exact .inl hq

theorem Inv.quedar (hi : Inv nombre s) (hpc : pc.dentro = true → (s.cliente c).dentro = true) :
    Excluye s.sem0 (Dentro (s.mueve c pc)) := by
  apply hi.excluye.congr
  intro q hq
  rcases dentro_mueve q hq with ⟨rfl, hdentro⟩ | ⟨-, hq⟩
  · exact hpc hdentro
  · exact hq

theorem Inv.salir (hi : Inv nombre s) (hpc : (s.cliente c).dentro = true) (hpc' : pc.dentro = false) :
    Excluye (s.sem0 + 1) (Dentro (s.mueve c pc)) := by
  apply hi.excluye.salir (p := some c) hpc
  intro q hq
  rcases dentro_mueve q hq with ⟨-, hdentro⟩ | ⟨hne, hq⟩
  · rw [hpc'] at hdentro
    cases hdentro
  · exact ⟨hq, hne⟩

omit [DecidableEq ι] [Fintype ι] in
theorem esperaExistente_of_ne (nombre : ι → ν) (creados : List ν) (c : ι) (h : pc ≠ .espera) :
    esperaExistente nombre creados c pc = 0 :=
  if_neg fun he => h he.1

omit [DecidableEq ι] in
/-- A client that is not at semaphore 1 stays out of it. -/
theorem Inv.alcanzan_of_ne (hi : Inv nombre s) {pc' : PcCliente} (h' : pc' ≠ .espera)
    (hm : s.manager.sinCrear = true) :
    porDespertar nombre s + esperaExistente nombre s.gruposCreados c pc' ≤
      s.sem1 + esperaExistente nombre s.gruposCreados c pc := by
  rw [esperaExistente_of_ne nombre _ c h']
  exact Nat.le_add_right_of_le (hi.alcanzan hm)

theorem inv_cliente (hi : Inv nombre s) (hc : senialSobrante nombre s (.cliente c) = true)
    (h : pasoCliente nombre s c = some t) : Inv nombre t := by
  unfold pasoCliente at h
  cases hpc : s.cliente c with
  | entra =>
    simp only [hpc] at h
    split at h
    case isFalse => cases h
    rename_i hsem
    cases h
    exact hi.mueve hpc (hi.entrar hsem c .busca) rfl hi.dadas hi.todas (by nofun) (hi.alcanzan_of_ne nofun)
  | busca =>
    simp only [hpc] at h
    cases h
    split
    · exact hi.mueve hpc (hi.quedar (by rw [hpc]; exact fun _ => rfl)) rfl hi.dadas hi.todas (by nofun)
        (hi.alcanzan_of_ne nofun)
    · rename_i hno
      exact hi.mueve hpc (hi.quedar (by rw [hpc]; exact fun _ => rfl)) rfl hi.dadas hi.todas (fun _ => hno)
        (hi.alcanzan_of_ne nofun)
  | cuenta =>
    simp only [hpc] at h
    cases h
    have hfuera := hi.manager_fuera (c := c) (by rw [hpc]; rfl)
    refine hi.mueve hpc (hi.quedar (by rw [hpc]; exact fun _ => rfl)) ?_ ?_ ?_
      (fun _ => hi.sinGrupo c (.inl hpc)) (hi.alcanzan_of_ne nofun)
    · show s.cantidadClientesEsperando + 1 + s.sem1 + 0 = s.cantidadClientesEsperando + s.sem1 + 1
      omega
    · exact Nat.le_succ_of_le hi.dadas
    · intro hm
      rw [hm] at hfuera
      cases hfuera
  | suelta =>
    simp only [hpc] at h
    cases h
    refine hi.mueve hpc (hi.salir (by rw [hpc]; rfl) rfl) rfl hi.dadas hi.todas (by nofun) fun hm => ?_
    -- its group has not been created since the search
    have hno : esperaExistente nombre s.gruposCreados c .espera = 0 :=
      if_neg fun he => hi.sinGrupo c (.inr hpc) he.2
    rw [hno]
    exact Nat.le_add_right_of_le (hi.alcanzan hm)
  | espera =>
    simp only [hpc] at h
    split at h
    case isFalse => cases h
    rename_i hsem
    cases h
    refine hi.mueve hpc (hi.quedar (by nofun)) ?_ hi.dadas hi.todas (by nofun) fun hm => ?_
    · show s.cantidadClientesEsperando + (s.sem1 - 1) + 1 = s.cantidadClientesEsperando + s.sem1 + 0
      omega
    · have halcanzan := hi.alcanzan hm
      have hcero : esperaExistente nombre s.gruposCreados c .entra = 0 := if_neg nofun
      rw [hcero]
      by_cases hgrupo : nombre c ∈ s.gruposCreados
      · have huno : esperaExistente nombre s.gruposCreados c .espera = 1 := if_pos ⟨rfl, hgrupo⟩
        omega
      · -- the signal was not for this client
        have hsobra : porDespertar nombre s < s.sem1 := by
          simpa [senialSobrante, hpc, hgrupo, hm] using hc
        omega
  | encontro =>
    simp only [hpc] at h
    cases h
    exact hi.mueve hpc (hi.salir (by rw [hpc]; rfl) rfl) rfl hi.dadas hi.todas (by nofun)
      (hi.alcanzan_of_ne nofun)
  | listo =>
    simp only [hpc] at h
    cases h

/-! ## The token manager moves -/

omit [DecidableEq ι] in
/-- Every client that waits for a group that exists is in the count. -/
theorem porDespertar_le (nombre : ι → ν) (s : Estado ι ν) : porDespertar nombre s ≤ contados s := by
  apply Finset.sum_le_sum
  intro c _
  unfold esperaExistente
  split
  · rename_i h
    rw [h.1]
    exact Nat.le_refl 1
  · exact Nat.zero_le _

omit [DecidableEq ι] in
/-- The clients stay where they are. -/
theorem inv_manager (hi : Inv nombre s) (h : pasoManager s = some t) : Inv nombre t := by
  have hadentro : s.manager.dentro = true → ∀ c, (s.cliente c).dentro = false := by
    intro hm c
    rw [← Bool.not_eq_true]
    intro hc
    exact absurd (hi.excluye.unico none (some c) hm hc) nofun
  have hmismos : ∀ m : PcManager ν, (m.dentro = true → s.manager.dentro = true) → ∀ q : Option ι,
      Dentro { s with manager := m } q → Dentro s q := by
    intro m hm q hq
    cases q with
    | none => exact hm hq
    | some c => exact hq
  have hcuentas := hi.cuentas
  have hdadas := hi.dadas
  unfold pasoManager at h
  cases hpc : s.manager with
  | libre =>
    simp only [hpc] at h
    cases h
  | pide n =>
    simp only [hpc] at h hcuentas hdadas
    split at h
    case isFalse => cases h
    rename_i hsem
    cases h
    refine ⟨hi.excluye.entrar (p := none) hsem fun q hq => ?_, hcuentas, hdadas, nofun,
      hi.sinGrupo, fun _ => ?_⟩
    · cases q with
      | none => exact .inr rfl
      | some c => exact .inl hq
    · exact hi.alcanzan (by rw [hpc]; rfl)
  | inserta n =>
    simp only [hpc] at h hcuentas hdadas
    cases h
    refine ⟨hi.excluye.congr (hmismos _ fun _ => by rw [hpc]; rfl), hcuentas, hdadas, nofun,
      fun c hc => ?_, nofun⟩
    -- a client that has not found its group would have semaphore 0 too
    have hfuera := hadentro (by rw [hpc]; rfl) c
    rcases hc with hc | hc
    · rw [show s.cliente c = _ from hc] at hfuera
      cases hfuera
    · rw [show s.cliente c = _ from hc] at hfuera
      cases hfuera
  | despierta i =>
    simp only [hpc] at h hcuentas hdadas
    split at h
    · rename_i hlt
      cases h
      refine ⟨hi.excluye.congr (hmismos _ fun _ => by rw [hpc]; rfl), ?_, hlt, nofun, hi.sinGrupo, nofun⟩
      show contados s + (i + 1) = s.cantidadClientesEsperando + (s.sem1 + 1)
      simp only [PcManager.dadas] at hcuentas
      omega
    · rename_i hfin
      cases h
      refine ⟨hi.excluye.congr (hmismos _ fun _ => by rw [hpc]; rfl), ?_, Nat.le_refl 0, fun _ => rfl,
        hi.sinGrupo, nofun⟩
      show contados s + 0 = 0 + s.sem1
      simp only [PcManager.dadas] at hcuentas hdadas
      omega
  | suelta =>
    simp only [hpc] at h hcuentas hdadas
    cases h
    have hcero := hi.todas hpc
    refine ⟨hi.excluye.salir (p := none) (by show s.manager.dentro = true; rw [hpc]; rfl) fun q hq => ?_,
      hcuentas, hdadas, nofun, hi.sinGrupo, fun _ => ?_⟩
    · cases q with
      | none => exact absurd hq nofun
      | some c => exact ⟨hq, nofun⟩
    · -- every client that was counted has a signal
      have hle := porDespertar_le nombre s
      show porDespertar nombre s ≤ s.sem1
      simp only [PcManager.dadas] at hcuentas
      omega

theorem inv_crear (hi : Inv nombre s) (h : paso nombre s (.crear n) = some t) : Inv nombre t := by
  unfold paso at h
  dsimp only at h
  split at h
  case isFalse => cases h
  rename_i hlibre
  have hcuentas := hi.cuentas
  have hdadas := hi.dadas
  rw [hlibre.1] at hcuentas hdadas
  cases h
  refine ⟨hi.excluye.congr fun q hq => ?_, hcuentas, hdadas, nofun, hi.sinGrupo, fun _ => ?_⟩
  · cases q with
    | none => exact absurd hq nofun
    | some c => exact hq
  · exact hi.alcanzan (by rw [hlibre.1]; rfl)

theorem inv_paso {e : Evento ι ν} (hi : Inv nombre s) (hc : senialSobrante nombre s e = true)
    (h : paso nombre s e = some t) : Inv nombre t := by
  cases e with
  | cliente c => exact inv_cliente hi hc h
  | crear n => exact inv_crear hi h
  | manager => exact inv_manager hi h

omit [DecidableEq ι] in
theorem Inv.esperaConRazon (hi : Inv nombre s) : EsperaConRazon nombre s := by
  intro hm hsem c hpc hgrupo
  have halcanzan := hi.alcanzan hm
  have huno : esperaExistente nombre s.gruposCreados c (s.cliente c) = 1 := if_pos ⟨hpc, hgrupo⟩
  have hle : esperaExistente nombre s.gruposCreados c (s.cliente c) ≤ porDespertar nombre s :=
    Finset.single_le_sum (f := fun c => esperaExistente nombre s.gruposCreados c (s.cliente c))
      (fun _ _ => Nat.zero_le _) (Finset.mem_univ c)
  omega

/-- In the runs in which no client takes a signal that another one needs, a client that is blocked waits
    for a group that does not exist. -/
theorem espera_con_razon (nombre : ι → ν)
    (h : AlcanzaBajo (fun s e => senialSobrante nombre s e = true) (paso nombre) inicial s) :
    EsperaConRazon nombre s := by
  have hi : Inv nombre s := h.induccion inv_inicial fun _ _ _ => inv_paso
  exact hi.esperaConRazon

end

/-! ## Two clients -/

/-- Client `c` looks for its group, does not find it and waits. -/
def seQueda (c : Bool) : List (Evento Bool Nat) :=
  [.cliente c, .cliente c, .cliente c, .cliente c]

/-- Group 0 is created with two clients in the count. -/
def creaConDos : List (Evento Bool Nat) :=
  [.crear 0, .manager, .manager, .manager, .manager, .manager, .manager]

def nombres (c : Bool) : Nat := if c then 0 else 1

/-- The client of group 0 takes its signal and finds it; the other one takes the second signal, does not find
    its group and is blocked again. -/
theorem espera_con_razon_un_grupo : ∃ s,
    AlcanzaBajo (fun s e => senialSobrante nombres s e = true) (paso nombres) inicial s ∧
      (s.manager, s.sem1, s.cliente true, s.cliente false) = (.libre, 0, .listo, .espera) ∧
      EsperaConRazon nombres s := by
  have hrun : (correr (pasoBajo (fun s e => senialSobrante nombres s e = true) (paso nombres)) inicial
      (seQueda true ++ seQueda false ++ creaConDos ++
        [.cliente true, .cliente true, .cliente true, .cliente true] ++ [.cliente false] ++
        seQueda false)).map (fun s => (s.manager, s.sem1, s.cliente true, s.cliente false)) =
          some (.libre, 0, .listo, .espera) := by
    decide +kernel
  obtain ⟨s, hs, hfin⟩ := Option.map_eq_some_iff.mp hrun
  exact ⟨s, ⟨_, hs⟩, hfin, espera_con_razon nombres ⟨_, hs⟩⟩

/-- The client of group 1 takes a signal, does not find its group, waits again and takes the other
    signal: the client of group 0 stays blocked. -/
theorem espera_sin_razon : ¬ ∀ s, Alcanza (paso nombres) inicial s → EsperaConRazon nombres s := by
  intro h
  have hrun : (correr (paso nombres) inicial (seQueda true ++ seQueda false ++ creaConDos ++
      [.cliente false] ++ seQueda false ++ [.cliente false])).map
        (fun s => (s.manager, s.sem1, s.cliente true, s.gruposCreados)) =
          some (.libre, 0, .espera, [0]) := by
    decide +kernel
  obtain ⟨s, hs, hvalores⟩ := Option.map_eq_some_iff.mp hrun
  simp only [Prod.mk.injEq] at hvalores
  obtain ⟨hmanager, hsem, hcliente, hcreados⟩ := hvalores
  apply h s ⟨_, hs⟩ (by rw [hmanager]; rfl) hsem true hcliente
  rw [hcreados]
  decide

end EsperaGrupo
