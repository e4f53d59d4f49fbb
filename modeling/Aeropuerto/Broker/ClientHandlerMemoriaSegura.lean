import Aeropuerto.Biblioteca.Candados
import Aeropuerto.Broker.ClientHandlerMemoria

/-!
# A memory client that leaves gives the token back

In the runs that avoid the defects of `sinDefecto` every handler that has stopped has its name out of
the table and has released each token queued for it.  The group has one token, so that while a handler
holds it nothing is queued; a handler that a signal takes out of `lock_token` finds its queue empty and
keeps it so until its name is out.
-/

namespace ClientHandlerMemoria

open Ejecucion Candados

variable {ι ν : Type} {M : Nat}

/-! ## Where a handler is -/

/-- In the section of `join` or of `leave`. -/
def Pc.enSeccion : Pc M → Bool
  | .une .verifica | .une (.ocupa _) | .saca => true
  | _ => false

/-- Past the wait for the creation of the group. -/
def Pc.conGrupo : Pc M → Bool
  | .inexistente | .une .avisa | .une .esperaGrupo | .rechazado => false
  | _ => true

theorem conGrupo_of_enSeccion {pc : Pc M} (he : pc.enSeccion = true) : pc.conGrupo = true := by
  cases pc with
  | une pj =>
    cases pj with
    | verifica | ocupa _ => rfl
    | avisa | esperaGrupo | esperaMutex => cases he
  | saca => rfl
  | inexistente | rechazado | responde | pide | envia _ | recibe _ | deja | libera | despide | termino
  | caido => cases he

namespace Manejador

/-- Before it takes the token, or after it has stopped. -/
def sinToken (h : Manejador M) : Bool :=
  match h.pc with
  | .envia _ | .recibe _ | .deja | .saca | .libera => false
  | _ => true

/-- It has joined and its name is out of the table. -/
def fueraDeTabla (h : Manejador M) : Bool :=
  match h.pc with
  | .libera => h.leave
  | .despide | .termino | .caido => true
  | _ => false

def fichas (h : Manejador M) : Nat := if h.tengoElToken then 1 else 0

/-- What holds of a handler by itself. -/
structure Bueno (h : Manejador M) : Prop where
  sinToken : h.sinToken = true → h.tengoElToken = false
  retirados : h.retirados = h.devueltos + h.fichas
  encolados : h.fueraDeTabla = true → h.encolados = h.retirados
  saliendo : h.pc = .deja ∨ h.pc = .saca → h.leave = true

/-- What holds of a handler in its group. -/
structure Ubicado (gr : Grupo M ν) (nombre : ν) (h : Manejador M) : Prop where
  tabla : h.enTabla = true → gr.clientNames h.numeroCola = some nombre
  encolados : h.enTabla = true → h.encolados = h.retirados + (gr.cola h.numeroCola).length
  vacia : h.sinTokenEnTabla = true → gr.cola h.numeroCola = []
  ocupa : ∀ i, h.pc = .une (.ocupa i) →
    gr.clientNames i = none ∧ ∀ k, gr.clientNames k ≠ some nombre

variable {h h' : Manejador M} {gr gr' : Grupo M ν} {nombre : ν}

theorem enTabla_of_sinTokenEnTabla (hs : h.sinTokenEnTabla = true) : h.enTabla = true := by
  unfold sinTokenEnTabla at hs
  unfold enTabla
  split at hs
  · rename_i hpc
    rw [hpc]
  · rename_i hpc
    rw [hpc]
  · rename_i hpc
    rw [hpc]
  · rename_i hpc
    rw [hpc]
  · cases hs

theorem conGrupo_of_enTabla (he : h.enTabla = true) : h.pc.conGrupo = true := by
  unfold enTabla at he
  cases hpc : h.pc with
  | inexistente | une _ | rechazado | despide | termino | caido =>
    rw [hpc] at he
    cases he
  | responde | pide | envia _ | recibe _ | deja | saca | libera => rfl

theorem fichas_le (h : Manejador M) : h.fichas ≤ 1 := by
  unfold fichas
  split <;> omega

theorem fueraDeTabla_of_parado (hp : h.parado = true) :
    h.fueraDeTabla = true ∧ h.sinToken = true ∧ h.enTabla = false := by
  unfold parado at hp
  unfold fueraDeTabla sinToken enTabla
  split at hp
  · rename_i hpc
    rw [hpc]
    exact ⟨rfl, rfl, rfl⟩
  · rename_i hpc
    rw [hpc]
    exact ⟨rfl, rfl, rfl⟩
  · rename_i hpc
    rw [hpc]
    exact ⟨rfl, rfl, rfl⟩
  · cases hp

/-- Only its own slot matters to a handler that is in the table. -/
theorem Ubicado.congr (hu : Ubicado gr nombre h)
    (hranura : h.enTabla = true → gr'.clientNames h.numeroCola = gr.clientNames h.numeroCola ∧
      gr'.cola h.numeroCola = gr.cola h.numeroCola)
    (hocupa : ∀ i, h.pc = .une (.ocupa i) → gr'.clientNames = gr.clientNames) :
    Ubicado gr' nombre h where
  tabla he := (hranura he).1.trans (hu.tabla he)
  encolados he := by
    rw [(hranura he).2]
    exact hu.encolados he
  vacia hs := (hranura (enTabla_of_sinTokenEnTabla hs)).2.trans (hu.vacia hs)
  ocupa i hpc := by
    rw [hocupa i hpc]
    exact hu.ocupa i hpc

end Manejador

/-! ## The invariant -/

/-- Who is in the section of group `g`: a handler, or the token manager. -/
def Estado.dentro (P : Parametros ι ν) (s : Estado ι M ν) (g : Nat) : Option ι → Prop
  | none => Broker.enSeccion s.broker.tokenManager = some g
  | some c => P.grupo c = g ∧ (s.manejador c).pc.enSeccion = true

structure Inv (P : Parametros ι ν) (s : Estado ι M ν) : Prop where
  bien : s.broker.Bien P.toConfig
  bueno : ∀ c, (s.manejador c).Bueno
  ubicado : ∀ c, (s.manejador c).Ubicado (s.broker.grupo (P.grupo c)) (P.nombre c)
  ocupantes : ∀ g k n, (s.broker.grupo g).clientNames k = some n →
    ∃ c, P.grupo c = g ∧ (s.manejador c).enTabla = true ∧ (s.manejador c).numeroCola = k
  nombres : ∀ c d, P.grupo c = P.grupo d → P.nombre c = P.nombre d →
    (s.manejador c).enTabla = true → (s.manejador d).enTabla = true → c = d
  creado : ∀ c, (s.manejador c).pc.conGrupo = true → s.broker.creado (P.grupo c) = true
  excluye : ∀ g, Excluye (s.broker.grupo g).mutexAsignado (s.dentro P g)
  saldo : ∀ g, s.broker.saldo P.toConfig g ≤ 1
  unToken : ∀ c, s.broker.saldo P.toConfig (P.grupo c) + (s.manejador c).fichas ≤ 1
  unToken' : ∀ c d, c ≠ d → P.grupo c = P.grupo d →
    s.broker.saldo P.toConfig (P.grupo c) + (s.manejador c).fichas + (s.manejador d).fichas ≤ 1

variable {P : Parametros ι ν} {s t : Estado ι M ν} {c : ι}

/-- The one who occupies a slot is the one whose name is there. -/
theorem Inv.ocupante (hi : Inv P s) (hc : (s.manejador c).enTabla = true) {d : ι}
    (hg : P.grupo d = P.grupo c) (hd : (s.manejador d).enTabla = true)
    (hk : (s.manejador d).numeroCola = (s.manejador c).numeroCola) : d = c := by
  have hnc := (hi.ubicado c).tabla hc
  have hnd := (hi.ubicado d).tabla hd
  rw [hg, hk, hnc] at hnd
  exact hi.nombres d c hg (Option.some.inj hnd).symm hd hc

/-- While a handler holds the token of its group nothing is queued there. -/
theorem Inv.cola_eq_nil (hi : Inv P s) (ht : (s.manejador c).tengoElToken = true) (k : Fin M) :
    (s.broker.grupo (P.grupo c)).cola k = [] := by
  have hle := hi.unToken c
  have hf : (s.manejador c).fichas = 1 := by rw [Manejador.fichas, if_pos ht]
  have henc : (s.broker.grupo (P.grupo c)).encolados = 0 := by
    unfold Broker.saldo Broker.fichas at hle
    omega
  exact List.eq_nil_of_length_eq_zero (Finset.sum_eq_zero_iff.mp henc k (Finset.mem_univ k))

/-- Two handlers of a group that are in its table have different names. -/
theorem Inv.nombre_ajeno (hi : Inv P s) (hc : (s.manejador c).enTabla = true) (d : ι) (hd : d ≠ c)
    (hg : P.grupo d = P.grupo c) (hn : P.nombre d = P.nombre c) :
    (s.manejador d).enTabla = false := by
  by_contra he
  exact hd (hi.nombres d c hg hn (Bool.eq_true_of_not_eq_false he) hc)

section Paso

variable [DecidableEq ι]

/-- `c` becomes `h` in its group, where the others keep their places. -/
theorem Inv.ubicado_cambiar {b : Broker M ν} {h : Manejador M} (hi : Inv P s)
    (hotro : ∀ g, g ≠ P.grupo c → b.grupo g = s.broker.grupo g)
    (hubicado : h.Ubicado (b.grupo (P.grupo c)) (P.nombre c))
    (hvecinos : ∀ d, d ≠ c → P.grupo d = P.grupo c →
      (s.manejador d).Ubicado (b.grupo (P.grupo c)) (P.nombre d)) (d : ι) :
    (Function.update s.manejador c h d).Ubicado (b.grupo (P.grupo d)) (P.nombre d) := by
  by_cases hd : d = c
  · rw [hd, Function.update_self]
    exact hubicado
  · rw [Function.update_of_ne hd]
    by_cases hg : P.grupo d = P.grupo c
    · rw [hg]
      exact hvecinos d hd hg
    · rw [hotro _ hg]
      exact hi.ubicado d

theorem Inv.ocupantes_cambiar {b : Broker M ν} {h : Manejador M} (hi : Inv P s)
    (hotro : ∀ g, g ≠ P.grupo c → b.grupo g = s.broker.grupo g)
    (hocupantes : ∀ k n, (b.grupo (P.grupo c)).clientNames k = some n →
      h.enTabla = true ∧ h.numeroCola = k ∨
        ∃ d, d ≠ c ∧ P.grupo d = P.grupo c ∧ (s.manejador d).enTabla = true ∧
          (s.manejador d).numeroCola = k) (g : Nat) (k : Fin M) (n : ν)
    (hk : (b.grupo g).clientNames k = some n) :
    ∃ d, P.grupo d = g ∧ (Function.update s.manejador c h d).enTabla = true ∧
      (Function.update s.manejador c h d).numeroCola = k := by
  by_cases hg : g = P.grupo c
  · subst hg
    obtain ⟨he, hk⟩ | ⟨d, hd, hg, he, hk⟩ := hocupantes k n hk
    · exact ⟨c, rfl, by rw [Function.update_self]; exact ⟨he, hk⟩⟩
    · exact ⟨d, hg, by rw [Function.update_of_ne hd]; exact ⟨he, hk⟩⟩
  · rw [hotro g hg] at hk
    obtain ⟨d, hgd, he, hk⟩ := hi.ocupantes g k n hk
    have hd : d ≠ c := fun hd => hg (hgd ▸ hd ▸ rfl)
    exact ⟨d, hgd, by rw [Function.update_of_ne hd]; exact ⟨he, hk⟩⟩

theorem Inv.nombres_cambiar {h : Manejador M} (hi : Inv P s)
    (hnombre : h.enTabla = true → ∀ d, d ≠ c → P.grupo d = P.grupo c → P.nombre d = P.nombre c →
      (s.manejador d).enTabla = false) (d e : ι) (hg : P.grupo d = P.grupo e)
    (hn : P.nombre d = P.nombre e) (hd : (Function.update s.manejador c h d).enTabla = true)
    (he : (Function.update s.manejador c h e).enTabla = true) : d = e := by
  by_cases hdc : d = c
  · by_cases hec : e = c
    · exact hdc.trans hec.symm
    · subst hdc
      rw [Function.update_self] at hd
      rw [Function.update_of_ne hec, hnombre hd e hec hg.symm hn.symm] at he
      cases he
  · by_cases hec : e = c
    · subst hec
      rw [Function.update_self] at he
      rw [Function.update_of_ne hdc, hnombre he d hdc hg hn] at hd
      cases hd
    · rw [Function.update_of_ne hdc] at hd
      rw [Function.update_of_ne hec] at he
      exact hi.nombres d e hg hn hd he

/-- What `c` gives up the queues of its group have, or the other way round. -/
theorem Inv.unToken_cambiar {b : Broker M ν} {h : Manejador M} (hi : Inv P s)
    (hsaldo : ∀ g, g ≠ P.grupo c → b.saldo P.toConfig g = s.broker.saldo P.toConfig g)
    (htoken : b.saldo P.toConfig (P.grupo c) + h.fichas =
      s.broker.saldo P.toConfig (P.grupo c) + (s.manejador c).fichas) (d : ι) :
    b.saldo P.toConfig (P.grupo d) + (Function.update s.manejador c h d).fichas ≤ 1 := by
  by_cases hdc : d = c
  · have huno := hi.unToken c
    subst hdc
    rw [Function.update_self]
    omega
  · rw [Function.update_of_ne hdc]
    by_cases hg : P.grupo d = P.grupo c
    · have hdos := hi.unToken' d c hdc hg
      rw [hg] at hdos ⊢
      omega
    · rw [hsaldo _ hg]
      exact hi.unToken d

theorem Inv.unToken'_cambiar {b : Broker M ν} {h : Manejador M} (hi : Inv P s)
    (hsaldo : ∀ g, g ≠ P.grupo c → b.saldo P.toConfig g = s.broker.saldo P.toConfig g)
    (htoken : b.saldo P.toConfig (P.grupo c) + h.fichas =
      s.broker.saldo P.toConfig (P.grupo c) + (s.manejador c).fichas) (d e : ι) (hde : d ≠ e)
    (hg : P.grupo d = P.grupo e) :
    b.saldo P.toConfig (P.grupo d) + (Function.update s.manejador c h d).fichas +
      (Function.update s.manejador c h e).fichas ≤ 1 := by
  have hdos := hi.unToken' d e hde hg
  by_cases hdc : d = c
  · subst hdc
    rw [Function.update_self, Function.update_of_ne hde.symm]
    omega
  · rw [Function.update_of_ne hdc]
    by_cases hec : e = c
    · subst hec
      rw [Function.update_self, hg]
      rw [hg] at hdos
      omega
    · rw [Function.update_of_ne hec]
      by_cases hgc : P.grupo d = P.grupo c
      · have hdc' := hi.unToken' d c hdc hgc
        have hec' := hi.unToken' e c hec (hg.symm.trans hgc)
        rw [hgc] at hdos hdc' ⊢
        rw [hg.symm.trans hgc] at hec'
        omega
      · rw [hsaldo _ hgc]
        exact hdos

/-- A step of `c` in its group. -/
theorem Inv.cambiar {b : Broker M ν} {h : Manejador M} (hi : Inv P s) (hb : b.Bien P.toConfig)
    (hotro : ∀ g, g ≠ P.grupo c → b.grupo g = s.broker.grupo g)
    (hcreado : b.creado = s.broker.creado) (hbueno : h.Bueno)
    (hubicado : h.Ubicado (b.grupo (P.grupo c)) (P.nombre c))
    (hvecinos : ∀ d, d ≠ c → P.grupo d = P.grupo c →
      (s.manejador d).Ubicado (b.grupo (P.grupo c)) (P.nombre d))
    (hocupantes : ∀ k n, (b.grupo (P.grupo c)).clientNames k = some n →
      h.enTabla = true ∧ h.numeroCola = k ∨
        ∃ d, d ≠ c ∧ P.grupo d = P.grupo c ∧ (s.manejador d).enTabla = true ∧
          (s.manejador d).numeroCola = k)
    (hnombre : h.enTabla = true → ∀ d, d ≠ c → P.grupo d = P.grupo c → P.nombre d = P.nombre c →
      (s.manejador d).enTabla = false)
    (hgrupo : h.pc.conGrupo = true → s.broker.creado (P.grupo c) = true)
    (hexcluye : ∀ g, Excluye (b.grupo g).mutexAsignado (Estado.dentro P ({ s with broker := b }.set c h) g))
    (hsaldo : ∀ g, g ≠ P.grupo c → b.saldo P.toConfig g = s.broker.saldo P.toConfig g)
    (htoken : b.saldo P.toConfig (P.grupo c) + h.fichas =
      s.broker.saldo P.toConfig (P.grupo c) + (s.manejador c).fichas) :
    Inv P ({ s with broker := b }.set c h) where
  bien := hb
  bueno d := by
    show (Function.update s.manejador c h d).Bueno
    by_cases hd : d = c
    · rw [hd, Function.update_self]
      exact hbueno
    · rw [Function.update_of_ne hd]
      exact hi.bueno d
  ubicado := hi.ubicado_cambiar hotro hubicado hvecinos
  ocupantes := hi.ocupantes_cambiar hotro hocupantes
  nombres := hi.nombres_cambiar hnombre
  creado d hd := by
    change (Function.update s.manejador c h d).pc.conGrupo = true at hd
    show b.creado (P.grupo d) = true
    rw [hcreado]
    by_cases hdc : d = c
    · subst hdc
      rw [Function.update_self] at hd
      exact hgrupo hd
    · rw [Function.update_of_ne hdc] at hd
      exact hi.creado d hd
  excluye := hexcluye
  saldo g := by
    show b.saldo P.toConfig g ≤ 1
    by_cases hg : g = P.grupo c
    · have huno := hi.unToken c
      subst hg
      omega
    · rw [hsaldo g hg]
      exact hi.saldo g
  unToken := hi.unToken_cambiar hsaldo htoken
  unToken' := hi.unToken'_cambiar hsaldo htoken

/-- After a step of `c` nobody else has entered a section. -/
theorem dentro_cambiar {b : Broker M ν} {h : Manejador M} {g : Nat}
    (htm : b.tokenManager = s.broker.tokenManager) {q : Option ι}
    (hq : Estado.dentro P ({ s with broker := b }.set c h) g q) :
    q ≠ some c ∧ s.dentro P g q ∨ q = some c ∧ P.grupo c = g ∧ h.pc.enSeccion = true := by
  cases q with
  | none =>
    refine .inl ⟨nofun, ?_⟩
    have hq' : Broker.enSeccion b.tokenManager = some g := hq
    rwa [htm] at hq'
  | some d =>
    obtain ⟨hg, hd⟩ := hq
    change (Function.update s.manejador c h d).pc.enSeccion = true at hd
    by_cases hdc : d = c
    · subst hdc
      rw [Function.update_self] at hd
      exact .inr ⟨rfl, hg, hd⟩
    · rw [Function.update_of_ne hdc] at hd
      exact .inl ⟨fun he => hdc (Option.some.inj he), hg, hd⟩

/-- A step in which `c` enters no section. -/
theorem Inv.excluye_igual {b : Broker M ν} {h : Manejador M} (hi : Inv P s)
    (htm : b.tokenManager = s.broker.tokenManager)
    (hsub : h.pc.enSeccion = true → (s.manejador c).pc.enSeccion = true)
    (hmutex : ∀ g, (b.grupo g).mutexAsignado = (s.broker.grupo g).mutexAsignado) (g : Nat) :
    Excluye (b.grupo g).mutexAsignado (Estado.dentro P ({ s with broker := b }.set c h) g) := by
  rw [hmutex g]
  refine (hi.excluye g).congr fun q hq => ?_
  obtain ⟨-, hq⟩ | ⟨rfl, hg, he⟩ := dentro_cambiar htm hq
  · exact hq
  · exact ⟨hg, hsub he⟩

/-- A step of `c` in its own group: the mutexes of the others stand as they were. -/
theorem Inv.excluye_setGrupo {gr : Grupo M ν} {h : Manejador M} (hi : Inv P s)
    (hmio : Excluye gr.mutexAsignado (Estado.dentro P (s.setGrupo P c gr h) (P.grupo c))) (g : Nat) :
    Excluye ((s.broker.setGrupo (P.grupo c) gr).grupo g).mutexAsignado
      (Estado.dentro P (s.setGrupo P c gr h) g) := by
  by_cases hg : g = P.grupo c
  · subst hg
    rw [Broker.setGrupo_same]
    exact hmio
  · rw [Broker.setGrupo_ne gr hg]
    refine (hi.excluye g).congr fun q hq => ?_
    obtain ⟨-, hq⟩ | ⟨-, hgc, -⟩ := dentro_cambiar rfl hq
    · exact hq
    · exact absurd hgc.symm hg

/-- Where `c` keeps its slot, so does everyone. -/
theorem Inv.ocupantes_igual (hi : Inv P s) {h : Manejador M} {gr : Grupo M ν}
    (hnames : gr.clientNames = (s.broker.grupo (P.grupo c)).clientNames)
    (htabla : h.enTabla = (s.manejador c).enTabla)
    (hcola : h.enTabla = true → h.numeroCola = (s.manejador c).numeroCola) (k : Fin M) (n : ν)
    (hk : gr.clientNames k = some n) :
    h.enTabla = true ∧ h.numeroCola = k ∨
      ∃ d, d ≠ c ∧ P.grupo d = P.grupo c ∧ (s.manejador d).enTabla = true ∧
        (s.manejador d).numeroCola = k := by
  rw [hnames] at hk
  obtain ⟨d, hg, he, hd⟩ := hi.ocupantes _ k n hk
  by_cases hdc : d = c
  · subst hdc
    exact .inl ⟨htabla.trans he, (hcola (htabla.trans he)).trans hd⟩
  · exact .inr ⟨d, hdc, hg, he, hd⟩

/-- A step of `c` that changes no group. -/
theorem Inv.enviar {b : Broker M ν} {h : Manejador M} (hi : Inv P s) (hb : b.Bien P.toConfig)
    (hgrupos : b.grupo = s.broker.grupo) (hcreado : b.creado = s.broker.creado)
    (htm : b.tokenManager = s.broker.tokenManager) (hbueno : h.Bueno)
    (htabla : h.enTabla = (s.manejador c).enTabla)
    (hcola : h.enTabla = true → h.numeroCola = (s.manejador c).numeroCola ∧
      h.encolados = (s.manejador c).encolados ∧ h.retirados = (s.manejador c).retirados)
    (hvacia : h.sinTokenEnTabla = true →
      (s.broker.grupo (P.grupo c)).cola (s.manejador c).numeroCola = [])
    (hocupa : ∀ i, h.pc ≠ .une (.ocupa i))
    (hseccion : h.pc.enSeccion = true → (s.manejador c).pc.enSeccion = true)
    (hgrupo : h.pc.conGrupo = true → s.broker.creado (P.grupo c) = true)
    (hsaldo : ∀ g, g ≠ P.grupo c → b.saldo P.toConfig g = s.broker.saldo P.toConfig g)
    (htoken : b.saldo P.toConfig (P.grupo c) + h.fichas =
      s.broker.saldo P.toConfig (P.grupo c) + (s.manejador c).fichas) :
    Inv P ({ s with broker := b }.set c h) := by
  have hu := hi.ubicado c
  refine hi.cambiar hb (fun _ _ => by rw [hgrupos]) hcreado hbueno ?_ ?_ ?_
    (fun he => hi.nombre_ajeno (htabla ▸ he)) hgrupo
    (hi.excluye_igual htm hseccion fun _ => by rw [hgrupos]) hsaldo htoken
  · rw [hgrupos]
    refine ⟨fun he => ?_, fun he => ?_, fun hs => ?_, fun i hpc => absurd hpc (hocupa i)⟩
    · rw [(hcola he).1]
      exact hu.tabla (htabla ▸ he)
    · obtain ⟨hk, henc, hret⟩ := hcola he
      rw [hk, henc, hret]
      exact hu.encolados (htabla ▸ he)
    · rw [(hcola (Manejador.enTabla_of_sinTokenEnTabla hs)).1]
      exact hvacia hs
  · intro d _ hg
    rw [hgrupos]
    exact hg ▸ hi.ubicado d
  · rw [hgrupos]
    exact hi.ocupantes_igual rfl htabla fun he => (hcola he).1

/-- A step of `c` that changes the mutex of its group and nothing else there. -/
theorem Inv.conMutex {gr : Grupo M ν} {h : Manejador M} (hi : Inv P s) (hbueno : h.Bueno)
    (hnames : gr.clientNames = (s.broker.grupo (P.grupo c)).clientNames)
    (hcolas : gr.cola = (s.broker.grupo (P.grupo c)).cola)
    (hmem : gr.memSize = (s.broker.grupo (P.grupo c)).memSize)
    (htabla : h.enTabla = (s.manejador c).enTabla)
    (hcola : h.enTabla = true → h.numeroCola = (s.manejador c).numeroCola ∧
      h.encolados = (s.manejador c).encolados ∧ h.retirados = (s.manejador c).retirados)
    (hfichas : h.fichas = (s.manejador c).fichas)
    (hvacia : h.sinTokenEnTabla = true → (s.manejador c).sinTokenEnTabla = true)
    (hocupa : ∀ i, h.pc = .une (.ocupa i) → gr.clientNames i = none ∧
      ∀ k, gr.clientNames k ≠ some (P.nombre c))
    (hgrupo : h.pc.conGrupo = true → s.broker.creado (P.grupo c) = true)
    (hexcluye : Excluye gr.mutexAsignado (Estado.dentro P (s.setGrupo P c gr h) (P.grupo c))) :
    Inv P (s.setGrupo P c gr h) := by
  have hu := hi.ubicado c
  have hmio : (s.broker.setGrupo (P.grupo c) gr).grupo (P.grupo c) = gr := Broker.setGrupo_same gr
  have hb : (s.broker.setGrupo (P.grupo c) gr).Bien P.toConfig := by
    refine hi.bien.setGrupo ?_ hmem ?_
    · intro k
      rw [hnames]
      exact hi.bien.sinBrokers _ k
    · rw [hcolas]
      exact hi.bien.sinCola _
  refine hi.cambiar hb (fun g hg => Broker.setGrupo_ne gr hg) rfl hbueno ?_ ?_ ?_
    (fun he => hi.nombre_ajeno (htabla ▸ he)) hgrupo (hi.excluye_setGrupo hexcluye)
    (fun g _ => Broker.saldo_setGrupo hcolas g) (by rw [hfichas, Broker.saldo_setGrupo hcolas])
  · rw [hmio]
    refine ⟨fun he => ?_, fun he => ?_, fun hs => ?_, hocupa⟩
    · rw [hnames, (hcola he).1]
      exact hu.tabla (htabla ▸ he)
    · obtain ⟨hk, henc, hret⟩ := hcola he
      rw [hcolas, hk, henc, hret]
      exact hu.encolados (htabla ▸ he)
    · rw [hcolas, (hcola (Manejador.enTabla_of_sinTokenEnTabla hs)).1]
      exact hu.vacia (hvacia hs)
  · intro d _ hg
    rw [hmio]
    exact (hg ▸ hi.ubicado d).congr (fun _ => by rw [hnames, hcolas]; exact ⟨rfl, rfl⟩)
      fun _ _ => hnames
  · rw [hmio]
    exact hi.ocupantes_igual hnames htabla fun he => (hcola he).1

/-! ## The steps of a handler -/

/-- What a handler is after its last `try`. -/
theorem Manejador.siguiente_spec {h : Manejador M} (hpc : h.pc = .libera)
    (ht : h.tengoElToken = false) :
    h.siguiente.enTabla = h.enTabla ∧ h.siguiente.fueraDeTabla = h.fueraDeTabla ∧
      h.siguiente.sinTokenEnTabla = false ∧ h.siguiente.pc.enSeccion = false ∧
      (∀ pj, h.siguiente.pc ≠ .une pj) ∧ h.siguiente.pc ≠ .deja ∧ h.siguiente.pc ≠ .saca ∧
      h.siguiente = { h with pc := h.siguiente.pc } := by
  obtain ⟨pc, leave, tengoElToken, _, _, _, _, _⟩ := h
  obtain rfl := hpc
  obtain rfl := ht
  cases leave <;> exact ⟨rfl, rfl, rfl, rfl, nofun, nofun, nofun, rfl⟩

/-- A step of `c` that only moves it. -/
theorem Inv.irA {pc : Pc M} {leave : Bool} (hi : Inv P s)
    (hbueno : Manejador.Bueno { s.manejador c with pc := pc, leave := leave })
    (htabla : Manejador.enTabla { s.manejador c with pc := pc, leave := leave } =
      (s.manejador c).enTabla)
    (hvacia : Manejador.sinTokenEnTabla { s.manejador c with pc := pc, leave := leave } = true →
      (s.broker.grupo (P.grupo c)).cola (s.manejador c).numeroCola = [])
    (hune : ∀ i, pc ≠ .une (.ocupa i)) (hsec : pc.enSeccion = false)
    (hgrupo : pc.conGrupo = true → s.broker.creado (P.grupo c) = true) :
    Inv P (s.set c { s.manejador c with pc := pc, leave := leave }) := by
  refine hi.enviar hi.bien rfl rfl rfl hbueno htabla (fun _ => ⟨rfl, rfl, rfl⟩) hvacia hune
    (fun he => ?_) hgrupo (fun _ _ => rfl) rfl
  have he' : pc.enSeccion = true := he
  rw [hsec] at he'
  cases he'

/-- In the loops of `send_token` and `recv_token`. -/
def Pc.enLazo : Pc M → Bool
  | .envia _ | .recibe _ => true
  | _ => false

/-- The next block, or the end of the loops. -/
theorem inv_lazo {pc : Pc M} {leave : Bool} (hi : Inv P s) (hpc : (s.manejador c).pc.enLazo = true)
    (hpc' : pc.enLazo = true ∨ pc = .deja ∧ leave = true) :
    Inv P (s.set c { s.manejador c with pc := pc, leave := leave }) := by
  have hbueno := hi.bueno c
  have hvacia := (hi.ubicado c).vacia
  have hcreado := hi.creado c
  obtain ⟨h, hh⟩ : ∃ h, s.manejador c = h := ⟨_, rfl⟩
  rw [hh] at hpc hbueno hvacia hcreado
  have hviejo : h.enTabla = true ∧ h.sinTokenEnTabla = !h.tengoElToken ∧ h.pc.conGrupo = true := by
    unfold Manejador.enTabla Manejador.sinTokenEnTabla
    cases hp : h.pc with
    | envia _ | recibe _ => exact ⟨rfl, rfl, rfl⟩
    | inexistente | une _ | rechazado | responde | pide | deja | saca | libera | despide | termino
    | caido =>
      rw [hp] at hpc
      cases hpc
  have hnuevo : Manejador.enTabla { h with pc := pc, leave := leave } = true ∧
      Manejador.sinTokenEnTabla { h with pc := pc, leave := leave } = (!h.tengoElToken) ∧
      Manejador.sinToken { h with pc := pc, leave := leave } = false ∧
      Manejador.fueraDeTabla { h with pc := pc, leave := leave } = false ∧
      (pc = .deja ∨ pc = .saca → leave = true) ∧ (∀ i, pc ≠ .une (.ocupa i)) ∧
      pc.enSeccion = false := by
    rcases hpc' with hp | ⟨rfl, rfl⟩
    · cases pc with
      | envia _ | recibe _ => exact ⟨rfl, rfl, rfl, rfl, nofun, nofun, rfl⟩
      | inexistente | une _ | rechazado | responde | pide | deja | saca | libera | despide | termino
      | caido => cases hp
    · exact ⟨rfl, rfl, rfl, rfl, fun _ => rfl, nofun, rfl⟩
  obtain ⟨htabla, hsin, hconToken, hfuera, hsaliendo, hune, hsec⟩ := hnuevo
  refine hi.irA ?_ ?_ ?_ hune hsec fun _ => hcreado hviejo.2.2
  · rw [hh]
    refine ⟨fun h => ?_, hbueno.retirados, fun h => ?_, hsaliendo⟩
    · rw [hconToken] at h
      cases h
    · rw [hfuera] at h
      cases h
  · rw [hh, htabla, hviejo.1]
  · rw [hh, hsin]
    exact fun hs => hvacia (hviejo.2.1.trans hs)

theorem inv_lockToken {gr : Grupo M ν} {tipo : Nat} (hi : Inv P s) (hpc : (s.manejador c).pc = .pide)
    (hs : (s.broker.grupo (P.grupo c)).lockToken (s.manejador c).numeroCola = some (gr, tipo)) :
    Inv P (s.setGrupo P c gr { s.manejador c with
      pc := .envia 0, tengoElToken := true, retirados := (s.manejador c).retirados + 1 }) := by
  have hu := hi.ubicado c
  have hbueno := hi.bueno c
  have htabla : (s.manejador c).enTabla = true := by rw [Manejador.enTabla, hpc]
  have hno : (s.manejador c).tengoElToken = false := hbueno.sinToken (by rw [Manejador.sinToken, hpc])
  have hfichas : (s.manejador c).fichas = 0 := by
    rw [Manejador.fichas, hno]
    rfl
  have hlock : s.broker.lockToken (P.grupo c) (s.manejador c).numeroCola =
      some (s.broker.setGrupo (P.grupo c) gr) := by rw [Broker.lockToken, hs, Option.map_some]
  have hsaldo : ∀ g, s.broker.saldo P.toConfig g =
      (s.broker.setGrupo (P.grupo c) gr).saldo P.toConfig g + if g = P.grupo c then 1 else 0 :=
    Broker.saldo_lockToken hlock
  have hmio : (s.broker.setGrupo (P.grupo c) gr).grupo (P.grupo c) = gr := Broker.setGrupo_same gr
  obtain ⟨resto, hresto, rfl⟩ := Grupo.lockToken_eq_some hs
  refine hi.cambiar (hi.bien.lockToken hlock) (fun g hg => Broker.setGrupo_ne _ hg) rfl ?_ ?_ ?_ ?_
    (fun _ => hi.nombre_ajeno htabla)
    (fun _ => hi.creado c (Manejador.conGrupo_of_enTabla htabla)) ?_ ?_ ?_
  · refine ⟨nofun, ?_, nofun, fun h => ?_⟩
    · have hret := hbueno.retirados
      rw [hfichas] at hret
      show (s.manejador c).retirados + 1 = (s.manejador c).devueltos + 1
      omega
    · rcases h with h | h <;> cases h
  · rw [hmio]
    refine ⟨fun _ => hu.tabla htabla, fun _ => ?_, nofun, nofun⟩
    have henc := hu.encolados htabla
    rw [hresto, List.length_cons] at henc
    show (s.manejador c).encolados = (s.manejador c).retirados + 1 + List.length
      (Function.update (s.broker.grupo (P.grupo c)).cola (s.manejador c).numeroCola resto
        (s.manejador c).numeroCola)
    rw [Function.update_self]
    omega
  · intro d hd hg
    rw [hmio]
    refine (hg ▸ hi.ubicado d).congr (fun he => ⟨rfl, ?_⟩) fun _ _ => rfl
    exact Function.update_of_ne (fun hk => hd (hi.ocupante htabla hg he hk)) ..
  · rw [hmio]
    exact hi.ocupantes_igual rfl htabla.symm fun _ => rfl
  · refine hi.excluye_igual rfl nofun fun g => ?_
    by_cases hg : g = P.grupo c
    · subst hg
      rw [hmio]
    · rw [Broker.setGrupo_ne _ hg]
  · intro g hg
    have h := hsaldo g
    rw [if_neg hg] at h
    exact h.symm
  · have h := hsaldo (P.grupo c)
    rw [if_pos rfl] at h
    rw [hfichas]
    exact h.symm

/-- A release of `c`, or the end of a turn without one. -/
theorem inv_siguiente {b : Broker M ν} {n : Nat} (hi : Inv P s) (hpc : (s.manejador c).pc = .libera)
    (hb : b.Bien P.toConfig) (hgrupos : b.grupo = s.broker.grupo)
    (hcreado : b.creado = s.broker.creado) (htm : b.tokenManager = s.broker.tokenManager)
    (hsaldo : ∀ g, g ≠ P.grupo c → b.saldo P.toConfig g = s.broker.saldo P.toConfig g)
    (hn : n = (s.manejador c).devueltos + (s.manejador c).fichas)
    (htoken : b.saldo P.toConfig (P.grupo c) =
      s.broker.saldo P.toConfig (P.grupo c) + (s.manejador c).fichas) :
    Inv P ({ s with broker := b }.set c
      { s.manejador c with tengoElToken := false, devueltos := n }.siguiente) := by
  have hbueno := hi.bueno c
  obtain ⟨h, hh⟩ : ∃ h : Manejador M,
      { s.manejador c with tengoElToken := false, devueltos := n } = h := ⟨_, rfl⟩
  have hhpc : h.pc = .libera := by rw [← hh]; exact hpc
  have htengo : h.tengoElToken = false := by rw [← hh]
  have htabla : h.enTabla = (s.manejador c).enTabla := by rw [← hh]; rfl
  have hfuera : h.fueraDeTabla = (s.manejador c).fueraDeTabla := by rw [← hh]; rfl
  obtain ⟨htabla', hfuera', hsin, hsec, hune, hdeja, hsaca, heq⟩ :=
    Manejador.siguiente_spec hhpc htengo
  have hfichas : h.siguiente.fichas = 0 := by
    rw [heq, Manejador.fichas, htengo]
    rfl
  rw [hh]
  refine hi.enviar hb hgrupos hcreado htm ⟨fun _ => ?_, ?_, fun he => ?_, fun hp => ?_⟩
    (htabla'.trans htabla) (fun _ => ?_) (fun hs => ?_) (fun i => hune _) (fun hs => ?_) (fun _ => ?_)
    hsaldo (by rw [hfichas, htoken, Nat.add_zero])
  · rw [heq]
    exact htengo
  · rw [hfichas, heq, ← hh]
    exact hbueno.retirados.trans hn.symm
  · rw [heq, ← hh]
    exact hbueno.encolados (hfuera ▸ hfuera' ▸ he)
  · exact absurd hp (not_or.mpr ⟨hdeja, hsaca⟩)
  · rw [heq, ← hh]
    exact ⟨rfl, rfl, rfl⟩
  · rw [hsin] at hs
    cases hs
  · rw [hsec] at hs
    cases hs
  · exact hi.creado c (by rw [hpc]; rfl)

section Leave

variable [DecidableEq ν]

/-- The name of `c` comes off the table, whose mutex is signalled or not. -/
theorem inv_saca {gr : Grupo M ν} {h : Manejador M} (hi : Inv P s)
    (hpc : (s.manejador c).pc = .saca) (hbueno : h.Bueno) (htabla : h.enTabla = false)
    (hune : ∀ pj, h.pc ≠ .une pj) (hsec : h.pc.enSeccion = false)
    (hfichas : h.fichas = (s.manejador c).fichas)
    (hleave : gr.clientNames = ((s.broker.grupo (P.grupo c)).leave (P.nombre c)).clientNames)
    (hcolas : gr.cola = (s.broker.grupo (P.grupo c)).cola)
    (hmem : gr.memSize = (s.broker.grupo (P.grupo c)).memSize)
    (hmutex : gr.mutexAsignado = (s.broker.grupo (P.grupo c)).mutexAsignado ∨
      gr.mutexAsignado = (s.broker.grupo (P.grupo c)).mutexAsignado + 1) :
    Inv P (s.setGrupo P c gr h) := by
  have hu := hi.ubicado c
  have htabla₀ : (s.manejador c).enTabla = true := by rw [Manejador.enTabla, hpc]
  have hsolo : ∀ j, (s.broker.grupo (P.grupo c)).clientNames j = some (P.nombre c) →
      j = (s.manejador c).numeroCola := by
    intro j hj
    obtain ⟨d, hg, he, hk⟩ := hi.ocupantes _ j _ hj
    have hnd := (hi.ubicado d).tabla he
    rw [hg, hk, hj] at hnd
    have hdc := hi.nombres d c hg (Option.some.inj hnd).symm he htabla₀
    rw [← hk, hdc]
  have hdentro : s.dentro P (P.grupo c) (some c) := ⟨rfl, by rw [hpc]; rfl⟩
  have hnames : gr.clientNames = Function.update (s.broker.grupo (P.grupo c)).clientNames
      (s.manejador c).numeroCola none := by
    rw [hleave, Grupo.leave_eq (hu.tabla htabla₀) hsolo]
    rfl
  have hmio : (s.broker.setGrupo (P.grupo c) gr).grupo (P.grupo c) = gr := Broker.setGrupo_same gr
  have hb : (s.broker.setGrupo (P.grupo c) gr).Bien P.toConfig := by
    refine hi.bien.setGrupo (fun k => ?_) hmem ?_
    · rw [hnames]
      by_cases hk : k = (s.manejador c).numeroCola
      · rw [hk, Function.update_self]
        rfl
      · rw [Function.update_of_ne hk]
        exact hi.bien.sinBrokers _ k
    · rw [hcolas]
      exact hi.bien.sinCola _
  refine hi.cambiar hb (fun g hg => Broker.setGrupo_ne gr hg) rfl hbueno ?_ ?_ ?_
    (fun he => ?_) (fun _ => hi.creado c (by rw [hpc]; rfl)) ?_
    (fun g _ => Broker.saldo_setGrupo hcolas g) (by rw [hfichas, Broker.saldo_setGrupo hcolas])
  · refine ⟨fun he => ?_, fun he => ?_, fun hs => ?_, fun i hpc' => absurd hpc' (hune _)⟩
    · rw [htabla] at he
      cases he
    · rw [htabla] at he
      cases he
    · rw [Manejador.enTabla_of_sinTokenEnTabla hs] at htabla
      cases htabla
  · intro d hd hg
    rw [hmio]
    refine (hg ▸ hi.ubicado d).congr (fun he => ⟨?_, by rw [hcolas]⟩) fun i hocupa => ?_
    · rw [hnames]
      exact Function.update_of_ne (fun hk => hd (hi.ocupante htabla₀ hg he hk)) ..
    · -- no other handler is inside the section
      have hdentro' : s.dentro P (P.grupo c) (some d) := ⟨hg, by rw [hocupa]; rfl⟩
      exact absurd (Option.some.inj ((hi.excluye _).unico _ _ hdentro' hdentro)) hd
  · intro k n hk
    rw [hmio, hnames] at hk
    by_cases hkc : k = (s.manejador c).numeroCola
    · rw [hkc, Function.update_self] at hk
      cases hk
    · rw [Function.update_of_ne hkc] at hk
      obtain ⟨d, hg, he, hd⟩ := hi.ocupantes _ k n hk
      exact .inr ⟨d, fun hdc => hkc (hdc ▸ hd.symm), hg, he, hd⟩
  · rw [htabla] at he
    cases he
  · refine hi.excluye_setGrupo ?_
    have hsub : ∀ q, Estado.dentro P (s.setGrupo P c gr h) (P.grupo c) q →
        s.dentro P (P.grupo c) q ∧ q ≠ some c := by
      intro q hq
      obtain ⟨hne, hq⟩ | ⟨-, -, he⟩ := dentro_cambiar rfl hq
      · exact ⟨hq, hne⟩
      · rw [hsec] at he
        cases he
    rcases hmutex with hm | hm
    · rw [hm]
      exact (hi.excluye _).congr fun q hq => (hsub q hq).1
    · rw [hm]
      exact (hi.excluye _).salir hdentro hsub

/-- The answer to JOIN. -/
theorem inv_responde {r : Resultado} (hi : Inv P s) (hpc : (s.manejador c).pc = .responde)
    (hno : (s.manejador c).sinFalla r = true) (hs : pasoManejador P s c r = some t) : Inv P t := by
  have hbueno := hi.bueno c
  have hcreado := hi.creado c
  simp only [pasoManejador, hpc] at hs
  simp only [Manejador.sinFalla, hpc] at hno
  have htabla : (s.manejador c).enTabla = true := by rw [Manejador.enTabla, hpc]
  cases r with
  | ok =>
    cases hs
    show Inv P (s.set c { s.manejador c with pc := .pide, leave := (s.manejador c).leave })
    have hsin : (s.manejador c).tengoElToken = false :=
      hbueno.sinToken (by rw [Manejador.sinToken, hpc])
    exact hi.irA ⟨fun _ => hsin, hbueno.retirados, nofun, nofun⟩ htabla.symm
      nofun nofun rfl fun _ => hcreado (by rw [hpc]; rfl)
  | fin => cases hs
  | error | interrumpido => cases hno

/-- `lock_token`, or a signal that takes it out of there. -/
theorem inv_pide {r : Resultado} (hi : Inv P s) (hpc : (s.manejador c).pc = .pide)
    (hno : (s.manejador c).sinFalla r = true) (hs : pasoManejador P s c r = some t) : Inv P t := by
  have hbueno := hi.bueno c
  have hcreado := hi.creado c
  simp only [pasoManejador, hpc] at hs
  simp only [Manejador.sinFalla, hpc] at hno
  have htabla : (s.manejador c).enTabla = true := by rw [Manejador.enTabla, hpc]
  cases r with
  | ok =>
    obtain ⟨⟨gr, tipo⟩, hlock, rfl⟩ := Option.map_eq_some_iff.mp hs
    exact inv_lockToken hi hpc hlock
  | interrumpido =>
    dsimp only at hs
    split at hs <;> cases hs
    rename_i hvacia
    exact hi.irA ⟨nofun, hbueno.retirados, nofun, nofun⟩ htabla.symm
      (fun _ => hvacia) nofun rfl fun _ => hcreado (by rw [hpc]; rfl)
  | fin => cases hs
  | error => cases hno

/-- A block of `send_token`. -/
theorem inv_envia {r : Resultado} {i : Nat} (hi : Inv P s) (hpc : (s.manejador c).pc = .envia i)
    (hno : (s.manejador c).sinFalla r = true) (hs : pasoManejador P s c r = some t) : Inv P t := by
  simp only [pasoManejador, hpc] at hs
  simp only [Manejador.sinFalla, hpc] at hno
  have hlazo : (s.manejador c).pc.enLazo = true := by rw [hpc]; rfl
  split at hs
  · cases r with
    | ok =>
      cases hs
      exact inv_lazo hi hlazo (.inl rfl)
    | error =>
      cases hs
      exact inv_lazo hi hlazo (.inr ⟨rfl, rfl⟩)
    | interrumpido => cases hno
    | fin => cases hs
  · split at hs <;> cases hs
    exact inv_lazo hi hlazo (.inl rfl)

/-- A block of `recv_token`, or the end of the loop. -/
theorem inv_recibe {r : Resultado} {i : Nat} (hi : Inv P s) (hpc : (s.manejador c).pc = .recibe i)
    (hno : (s.manejador c).sinFalla r = true) (hs : pasoManejador P s c r = some t) : Inv P t := by
  have hbueno := hi.bueno c
  have hcreado := hi.creado c
  simp only [pasoManejador, hpc] at hs
  simp only [Manejador.sinFalla, hpc] at hno
  have htabla : (s.manejador c).enTabla = true := by rw [Manejador.enTabla, hpc]
  have hlazo : (s.manejador c).pc.enLazo = true := by rw [hpc]; rfl
  split at hs
  · cases r with
    | ok =>
      cases hs
      exact inv_lazo hi hlazo (.inl rfl)
    | fin | error =>
      cases hs
      exact inv_lazo hi hlazo (.inr ⟨rfl, rfl⟩)
    | interrumpido => cases hno
  · split at hs <;> cases hs
    obtain ⟨leave, hleave⟩ : ∃ leave, ((s.manejador c).leave ||
      (s.manejador c).cantidadDeBloques * dataSize == 0) = leave := ⟨_, rfl⟩
    rw [hleave]
    cases leave with
    | true => exact inv_lazo hi hlazo (.inr ⟨rfl, rfl⟩)
    | false =>
      exact hi.irA ⟨nofun, hbueno.retirados, nofun, nofun⟩ htabla.symm
        nofun nofun rfl fun _ => hcreado (by rw [hpc]; rfl)

/-- The section of `leave` begins. -/
theorem inv_deja {r : Resultado} (hi : Inv P s) (hpc : (s.manejador c).pc = .deja)
    (hno : (s.manejador c).sinFalla r = true) (hs : pasoManejador P s c r = some t) : Inv P t := by
  have hbueno := hi.bueno c
  have hcreado := hi.creado c
  simp only [pasoManejador, hpc] at hs
  simp only [Manejador.sinFalla, hpc] at hno
  have htabla : (s.manejador c).enTabla = true := by rw [Manejador.enTabla, hpc]
  cases r with
  | ok =>
    obtain ⟨gr, hgr, rfl⟩ := Option.map_eq_some_iff.mp hs
    obtain ⟨hcolas, hnames, hmem⟩ := Grupo.waitOn_eq_some hgr
    obtain ⟨hlibre, hmutex⟩ := Grupo.waitOn_mutex hgr
    refine hi.conMutex ⟨nofun, hbueno.retirados, nofun, fun _ => hbueno.saliendo (.inl hpc)⟩ hnames
      hcolas hmem htabla.symm (fun _ => ⟨rfl, rfl, rfl⟩) rfl
      (fun hs => ?_) nofun (fun _ => hcreado (by rw [hpc]; rfl)) ?_
    · rw [Manejador.sinTokenEnTabla, hpc]
      exact hs
    · rw [hmutex]
      refine (hi.excluye _).entrar (p := some c) hlibre fun q hq => ?_
      obtain ⟨-, hq⟩ | ⟨hq, -⟩ := dentro_cambiar rfl hq
      · exact .inl hq
      · exact .inr hq
  | error | interrumpido => cases hno
  | fin => cases hs

/-- `leave_group`, also when it ends with an exception. -/
theorem inv_dejaLaTabla {r : Resultado} (hi : Inv P s) (hpc : (s.manejador c).pc = .saca)
    (hno : (s.manejador c).sinFalla r = true) (hs : pasoManejador P s c r = some t) : Inv P t := by
  have hbueno := hi.bueno c
  have hu := hi.ubicado c
  simp only [pasoManejador, hpc] at hs
  simp only [Manejador.sinFalla, hpc] at hno
  have hleave : (s.manejador c).leave = true := hbueno.saliendo (.inr hpc)
  have htabla : (s.manejador c).enTabla = true := by rw [Manejador.enTabla, hpc]
  have hret : (s.manejador c).encolados = (s.manejador c).retirados := by
    have henc := hu.encolados htabla
    have hvacia : (s.broker.grupo (P.grupo c)).cola (s.manejador c).numeroCola = [] := by
      cases ht : (s.manejador c).tengoElToken with
      | true => exact hi.cola_eq_nil ht _
      | false => exact hu.vacia (by rw [Manejador.sinTokenEnTabla, hpc, ht]; rfl)
    rw [hvacia] at henc
    exact henc
  have hcola := (Grupo.leave_cola (g := s.broker.grupo (P.grupo c)) (P.nombre c))
  cases r with
  | ok =>
    cases hs
    exact inv_saca hi hpc ⟨nofun, hbueno.retirados, fun _ => hret, nofun⟩
      (by show (!(s.manejador c).leave) = false; rw [hleave]; rfl) nofun rfl rfl rfl hcola.1 hcola.2
      (.inr (Grupo.leave_mutex _))
  | error =>
    cases hs
    have hsin : (s.manejador c).tengoElToken = false := by simpa using hno
    rw [Manejador.siguiente, if_pos hleave]
    exact inv_saca hi hpc ⟨fun _ => hsin, hbueno.retirados, fun _ => hret, nofun⟩ rfl nofun rfl rfl
      rfl hcola.1 hcola.2 (.inl rfl)
  | interrumpido =>
    cases hs
    have hsin : (s.manejador c).tengoElToken = false := by simpa using hno
    exact inv_saca hi hpc ⟨fun _ => hsin, hbueno.retirados, fun _ => hret, nofun⟩ rfl nofun rfl rfl
      rfl hcola.1 hcola.2 (.inl rfl)
  | fin => cases hs

/-- `release_token`, and the next turn. -/
theorem inv_libera {r : Resultado} (hi : Inv P s) (hpc : (s.manejador c).pc = .libera)
    (hno : (s.manejador c).sinFalla r = true) (hs : pasoManejador P s c r = some t) : Inv P t := by
  simp only [pasoManejador, hpc] at hs
  simp only [Manejador.sinFalla, hpc] at hno
  split at hs
  · rename_i ht
    have hfichas : (s.manejador c).fichas = 1 := by rw [Manejador.fichas, if_pos ht]
    have hsaldo : ∀ g, (s.broker.releaseToken (P.grupo c)).saldo P.toConfig g =
        s.broker.saldo P.toConfig g + if g = P.grupo c then 1 else 0 :=
      Broker.saldo_releaseToken (P.grupo c)
    cases r with
    | ok =>
      cases hs
      refine inv_siguiente hi hpc (hi.bien.enviar _) rfl rfl rfl (fun g hg => ?_) ?_ ?_
      · rw [hsaldo g, if_neg hg]
        rfl
      · rw [hfichas]
      · rw [hsaldo, if_pos rfl, hfichas]
    | error => cases hno
    | fin | interrumpido => cases hs
  · split at hs <;> cases hs
    rename_i ht _
    have hsin : (s.manejador c).tengoElToken = false := by simpa using ht
    have hfichas : (s.manejador c).fichas = 0 := by rw [Manejador.fichas, if_neg ht]
    have hmismo : s.manejador c = { s.manejador c with
        tengoElToken := false, devueltos := (s.manejador c).devueltos } := by rw [← hsin]
    rw [hmismo]
    exact inv_siguiente hi hpc hi.bien rfl rfl rfl (fun _ _ => rfl) (by rw [hfichas]; rfl)
      (by rw [hfichas]; rfl)

/-- LEAVE_OK. -/
theorem inv_despide {r : Resultado} (hi : Inv P s) (hpc : (s.manejador c).pc = .despide)
    (hs : pasoManejador P s c r = some t) : Inv P t := by
  have hbueno := hi.bueno c
  have hcreado := hi.creado c
  simp only [pasoManejador, hpc] at hs
  have htabla : (s.manejador c).enTabla = false := by rw [Manejador.enTabla, hpc]
  have hsin : (s.manejador c).tengoElToken = false :=
    hbueno.sinToken (by rw [Manejador.sinToken, hpc])
  have hret : (s.manejador c).encolados = (s.manejador c).retirados :=
    hbueno.encolados (by rw [Manejador.fueraDeTabla, hpc])
  have hir : ∀ pc : Pc M, pc = .termino ∨ pc = .caido →
      Inv P (s.set c { s.manejador c with pc := pc, leave := (s.manejador c).leave }) := by
    rintro _ (rfl | rfl)
    · exact hi.irA ⟨fun _ => hsin, hbueno.retirados, fun _ => hret, nofun⟩
        htabla.symm nofun nofun rfl fun _ => hcreado (by rw [hpc]; rfl)
    · exact hi.irA ⟨fun _ => hsin, hbueno.retirados, fun _ => hret, nofun⟩
        htabla.symm nofun nofun rfl fun _ => hcreado (by rw [hpc]; rfl)
  cases r with
  | ok | error =>
    cases hs
    exact hir .termino (.inl rfl)
  | interrumpido =>
    cases hs
    exact hir .caido (.inr rfl)
  | fin => cases hs

theorem inv_manejador {r : Resultado} (hi : Inv P s) (hno : (s.manejador c).sinFalla r = true)
    (hs : pasoManejador P s c r = some t) : Inv P t := by
  cases hpc : (s.manejador c).pc with
  | responde => exact inv_responde hi hpc hno hs
  | pide => exact inv_pide hi hpc hno hs
  | envia i => exact inv_envia hi hpc hno hs
  | recibe i => exact inv_recibe hi hpc hno hs
  | deja => exact inv_deja hi hpc hno hs
  | saca => exact inv_dejaLaTabla hi hpc hno hs
  | libera => exact inv_libera hi hpc hno hs
  | despide => exact inv_despide hi hpc hs
  | inexistente | une _ | rechazado | termino | caido =>
    simp only [pasoManejador, hpc] at hs
    cases hs

/-! ## Joining -/

/-- The slot and the name that `join` has found free. -/
theorem joinVerificar_libre {gr gr' : Grupo M ν} {nombre : ν} {i : Fin M}
    (h : gr.joinVerificar nombre = (gr', some i)) :
    gr' = gr ∧ gr.clientNames i = none ∧ ∀ k, gr.clientNames k ≠ some nombre := by
  unfold Grupo.joinVerificar at h
  split at h
  · cases h
  · split at h
    · cases h
    · rename_i hno
      split at h <;> cases h
      rename_i hlibre
      refine ⟨rfl, by simpa using List.find?_some hlibre, fun k hk => hno ?_⟩
      exact List.any_eq_true.mpr ⟨k, List.mem_finRange k, by simpa using hk⟩

/-- A join that fails signals once, unless the name is in the table. -/
theorem joinVerificar_none {gr gr' : Grupo M ν} {nombre : ν}
    (h : gr.joinVerificar nombre = (gr', none))
    (hno : (gr.cantClientes = M || !gr.lockedYaEstaCliente nombre) = true) : gr' = gr.signalize := by
  unfold Grupo.joinVerificar at h
  split at h
  · cases h
    rfl
  · rename_i hM
    split at h
    · rename_i hya
      simp [hM, hya] at hno
    · split at h <;> cases h
      rfl

omit [DecidableEq ν] in
theorem inv_ocupa {i : Fin M} {n : Nat} (hi : Inv P s)
    (hpc : (s.manejador c).pc = .une (.ocupa i)) :
    Inv P (s.setGrupo P c ((s.broker.grupo (P.grupo c)).joinOcupar (P.nombre c) i)
      { s.manejador c with
        pc := .responde
        cantidadDeBloques := n
        numeroCola := i
        encolados := ((s.broker.grupo (P.grupo c)).cola i).length
        retirados := 0
        devueltos := 0 }) := by
  have hbueno := hi.bueno c
  obtain ⟨hlibre, hsin⟩ := (hi.ubicado c).ocupa i hpc
  have htabla : (s.manejador c).enTabla = false := by rw [Manejador.enTabla, hpc]
  have htengo : (s.manejador c).tengoElToken = false :=
    hbueno.sinToken (by rw [Manejador.sinToken, hpc])
  have hdentro : s.dentro P (P.grupo c) (some c) := ⟨rfl, by rw [hpc]; rfl⟩
  obtain ⟨gr, hgr⟩ : ∃ gr, (s.broker.grupo (P.grupo c)).joinOcupar (P.nombre c) i = gr := ⟨_, rfl⟩
  have hcolas : gr.cola = (s.broker.grupo (P.grupo c)).cola := by rw [← hgr]; rfl
  have hnames : gr.clientNames = Function.update (s.broker.grupo (P.grupo c)).clientNames i
      (some (P.nombre c)) := by rw [← hgr]; rfl
  have hmutex : gr.mutexAsignado = (s.broker.grupo (P.grupo c)).mutexAsignado + 1 := by
    rw [← hgr]
    rfl
  have hmio : (s.broker.setGrupo (P.grupo c) gr).grupo (P.grupo c) = gr := Broker.setGrupo_same gr
  have hb : (s.broker.setGrupo (P.grupo c) gr).Bien P.toConfig := by
    refine hi.bien.setGrupo ?_ (by rw [← hgr]; rfl) ?_
    · rw [← hgr]
      exact (hi.bien.sinBrokers _).joinOcupar (P.sinBrokers c) i
    · rw [hcolas]
      exact hi.bien.sinCola _
  have hfichas : (s.manejador c).fichas = 0 := by
    rw [Manejador.fichas, htengo]
    rfl
  rw [hgr]
  refine hi.cambiar hb (fun g hg => Broker.setGrupo_ne gr hg) rfl
    ⟨fun _ => htengo, ?_, nofun, nofun⟩ ?_ ?_ ?_ (fun _ d hd hg hn => ?_)
    (fun _ => hi.creado c (by rw [hpc]; rfl)) ?_ (fun g _ => Broker.saldo_setGrupo hcolas g)
    (by rw [Broker.saldo_setGrupo hcolas]; rfl)
  · show 0 = 0 + (s.manejador c).fichas
    rw [hfichas]
  · rw [hmio]
    refine ⟨fun _ => ?_, fun _ => ?_, nofun, nofun⟩
    · rw [hnames]
      exact Function.update_self ..
    · rw [hcolas]
      exact (Nat.zero_add _).symm
  · intro d hd hg
    rw [hmio]
    refine (hg ▸ hi.ubicado d).congr (fun he => ⟨?_, by rw [hcolas]⟩) fun j hocupa => ?_
    · rw [hnames]
      refine Function.update_of_ne (fun hk => ?_) ..
      have hnd := (hi.ubicado d).tabla he
      rw [hg, hk, hlibre] at hnd
      cases hnd
    · -- no other handler is inside the section
      have hdentro' : s.dentro P (P.grupo c) (some d) := ⟨hg, by rw [hocupa]; rfl⟩
      exact absurd (Option.some.inj ((hi.excluye _).unico _ _ hdentro' hdentro)) hd
  · intro k n hk
    rw [hmio, hnames] at hk
    by_cases hki : k = i
    · exact .inl ⟨rfl, hki.symm⟩
    · rw [Function.update_of_ne hki] at hk
      obtain ⟨d, hg, he, hd⟩ := hi.ocupantes _ k n hk
      refine .inr ⟨d, fun hdc => ?_, hg, he, hd⟩
      rw [hdc, htabla] at he
      cases he
  · by_contra he
    have hnd := (hi.ubicado d).tabla (Bool.eq_true_of_not_eq_false he)
    rw [hg, hn] at hnd
    exact hsin _ hnd
  · refine hi.excluye_setGrupo ?_
    rw [hmutex]
    refine (hi.excluye _).salir hdentro fun q hq => ?_
    obtain ⟨hne, hq⟩ | ⟨-, -, he⟩ := dentro_cambiar rfl hq
    · exact ⟨hq, hne⟩
    · cases he

omit [DecidableEq ι] [DecidableEq ν] in
/-- A handler inside its join is out of the table and without the token. -/
theorem Inv.bueno_join {pj : PcJoin M} {pc : Pc M} (hi : Inv P s) (hune : (s.manejador c).pc = .une pj)
    (hpc : pc = .rechazado ∨ ∃ pj, pc = .une pj) :
    Manejador.Bueno { s.manejador c with pc := pc } ∧
      Manejador.enTabla { s.manejador c with pc := pc } = false ∧
      (s.manejador c).enTabla = false := by
  have hbueno := hi.bueno c
  have hsin : (s.manejador c).tengoElToken = false :=
    hbueno.sinToken (by rw [Manejador.sinToken, hune])
  refine ⟨?_, ?_, by rw [Manejador.enTabla, hune]⟩
  · rcases hpc with rfl | ⟨pj, rfl⟩
    · exact ⟨fun _ => hsin, hbueno.retirados, by simp [Manejador.fueraDeTabla], by simp⟩
    · exact ⟨fun _ => hsin, hbueno.retirados, by simp [Manejador.fueraDeTabla], by simp⟩
  · rcases hpc with rfl | ⟨pj, rfl⟩ <;> rfl

omit [DecidableEq ν] in
/-- A step of a join that leaves the groups as they are. -/
theorem Inv.enviar_join {b : Broker M ν} {pj : PcJoin M} {pc : Pc M} (hi : Inv P s)
    (hune : (s.manejador c).pc = .une pj) (hpc : ∃ pj, pc = .une pj) (hb : b.Bien P.toConfig)
    (hgrupos : b.grupo = s.broker.grupo) (hcreado : b.creado = s.broker.creado)
    (htm : b.tokenManager = s.broker.tokenManager) (hocupa : ∀ i, pc ≠ .une (.ocupa i))
    (hseccion : pc.enSeccion = false)
    (hgrupo : pc.conGrupo = true → s.broker.creado (P.grupo c) = true)
    (hsaldo : ∀ g, b.saldo P.toConfig g = s.broker.saldo P.toConfig g) :
    Inv P ({ s with broker := b }.set c { s.manejador c with pc := pc }) := by
  obtain ⟨hbueno, hnueva, htabla⟩ := hi.bueno_join hune (.inr hpc)
  have hfuera : ∀ {p : Prop}, Manejador.enTabla { s.manejador c with pc := pc } = true → p := by
    intro p he
    rw [hnueva] at he
    cases he
  refine hi.enviar hb hgrupos hcreado htm hbueno (hnueva.trans htabla.symm) hfuera
    (fun hs => hfuera (Manejador.enTabla_of_sinTokenEnTabla hs)) hocupa (fun he => ?_) hgrupo
    (fun g _ => hsaldo g) (by rw [hsaldo]; rfl)
  change pc.enSeccion = true at he
  rw [hseccion] at he
  cases he

omit [DecidableEq ν] in
/-- A step of a join that changes the mutex of its group and nothing else there. -/
theorem Inv.conMutex_join {gr : Grupo M ν} {pj : PcJoin M} {pc : Pc M} (hi : Inv P s)
    (hune : (s.manejador c).pc = .une pj) (hpc : pc = .rechazado ∨ ∃ pj, pc = .une pj)
    (hnames : gr.clientNames = (s.broker.grupo (P.grupo c)).clientNames)
    (hcolas : gr.cola = (s.broker.grupo (P.grupo c)).cola)
    (hmem : gr.memSize = (s.broker.grupo (P.grupo c)).memSize)
    (hocupa : ∀ i, pc = .une (.ocupa i) → gr.clientNames i = none ∧
      ∀ k, gr.clientNames k ≠ some (P.nombre c))
    (hgrupo : pc.conGrupo = true → s.broker.creado (P.grupo c) = true)
    (hexcluye : Excluye gr.mutexAsignado
      (Estado.dentro P (s.setGrupo P c gr { s.manejador c with pc := pc }) (P.grupo c))) :
    Inv P (s.setGrupo P c gr { s.manejador c with pc := pc }) := by
  obtain ⟨hbueno, hnueva, htabla⟩ := hi.bueno_join hune hpc
  have hfuera : ∀ {p : Prop}, Manejador.enTabla { s.manejador c with pc := pc } = true → p := by
    intro p he
    rw [hnueva] at he
    cases he
  exact hi.conMutex hbueno hnames hcolas hmem (hnueva.trans htabla.symm) hfuera rfl
    (fun hs => hfuera (Manejador.enTabla_of_sinTokenEnTabla hs)) hocupa hgrupo hexcluye

theorem inv_join (hi : Inv P s) (hno : nombreLibre P s c = true) (hs : pasoJoin P s c = some t) :
    Inv P t := by
  cases hpc : (s.manejador c).pc with
  | une pj =>
    cases pj with
    | avisa =>
      simp only [pasoJoin, hpc, Broker.pasoJoin] at hs
      cases hs
      exact hi.enviar_join hpc ⟨_, rfl⟩ (hi.bien.enviar _) rfl rfl rfl (by simp) rfl
        (by simp [Pc.conGrupo]) fun g => Broker.saldo_enviar_crear _ g
    | esperaGrupo =>
      simp only [pasoJoin, hpc, Broker.pasoJoin] at hs
      by_cases hcreado : s.broker.creado (P.grupo c) = true
      · rw [if_pos hcreado] at hs
        cases hs
        exact hi.enviar_join hpc ⟨_, rfl⟩ hi.bien rfl rfl rfl (by simp) rfl (fun _ => hcreado)
          fun _ => rfl
      · rw [if_neg hcreado] at hs
        cases hs
    | esperaMutex =>
      simp only [pasoJoin, hpc, Broker.pasoJoin] at hs
      cases hgr : (s.broker.grupo (P.grupo c)).waitOn with
      | none =>
        rw [hgr] at hs
        cases hs
      | some gr =>
        rw [hgr] at hs
        cases hs
        obtain ⟨hcolas, hnames, hmem⟩ := Grupo.waitOn_eq_some hgr
        obtain ⟨hlibre, hmutex⟩ := Grupo.waitOn_mutex hgr
        refine hi.conMutex_join hpc (.inr ⟨_, rfl⟩) hnames hcolas hmem (by simp)
          (fun _ => hi.creado c (by rw [hpc]; rfl)) ?_
        rw [hmutex]
        refine (hi.excluye _).entrar (p := some c) hlibre fun q hq => ?_
        obtain ⟨-, hq⟩ | ⟨hq, -⟩ := dentro_cambiar rfl hq
        · exact .inl hq
        · exact .inr hq
    | verifica =>
      have hdentro : s.dentro P (P.grupo c) (some c) := ⟨rfl, by rw [hpc]; rfl⟩
      have hcreado := hi.creado c (by rw [hpc]; rfl)
      simp only [pasoJoin, hpc, Broker.pasoJoin] at hs
      simp only [nombreLibre, hpc] at hno
      obtain ⟨⟨gr, o⟩, hver⟩ : ∃ x, (s.broker.grupo (P.grupo c)).joinVerificar (P.nombre c) = x :=
        ⟨_, rfl⟩
      rw [hver] at hs
      cases o with
      | some i =>
        cases hs
        obtain ⟨rfl, hlibre, hnombre⟩ := joinVerificar_libre hver
        refine hi.conMutex_join hpc (.inr ⟨_, rfl⟩) rfl rfl rfl ?_ (fun _ => hcreado) ?_
        · intro j hj
          cases hj
          exact ⟨hlibre, hnombre⟩
        · refine (hi.excluye _).congr fun q hq => ?_
          obtain ⟨-, hq⟩ | ⟨rfl, -⟩ := dentro_cambiar rfl hq
          · exact hq
          · exact hdentro
      | none =>
        cases hs
        obtain rfl := joinVerificar_none hver hno
        refine hi.conMutex_join hpc (.inl rfl) rfl rfl rfl (by simp) (by simp [Pc.conGrupo]) ?_
        refine (hi.excluye _).salir hdentro fun q hq => ?_
        obtain ⟨hne, hq⟩ | ⟨-, -, he⟩ := dentro_cambiar rfl hq
        · exact ⟨hq, hne⟩
        · cases he
    | ocupa i =>
      simp only [pasoJoin, hpc, Broker.pasoJoin] at hs
      cases hs
      rw [Broker.setGrupo_same]
      exact inv_ocupa hi hpc
  | inexistente | rechazado | responde | pide | envia _ | recibe _ | deja | saca | libera | despide
  | termino | caido =>
    simp only [pasoJoin, hpc] at hs
    cases hs

end Leave

end Paso

/-! ## The steps of the token manager -/

theorem Manejador.enTabla_of_fueraDeTabla {h : Manejador M} (hf : h.fueraDeTabla = true) :
    h.enTabla = false := by
  unfold Manejador.fueraDeTabla at hf
  unfold Manejador.enTabla
  split at hf
  · rename_i hpc
    rw [hpc, hf]
    rfl
  · rename_i hpc
    rw [hpc]
  · rename_i hpc
    rw [hpc]
  · rename_i hpc
    rw [hpc]
  · cases hf

theorem Inv.deBroker {b : Broker M ν} {manejador : ι → Manejador M} (hi : Inv P s)
    (hb : b.Bien P.toConfig)
    (hm : ∀ c, manejador c = { s.manejador c with encolados := (manejador c).encolados })
    (hfuera : ∀ c, (s.manejador c).enTabla = false → manejador c = s.manejador c)
    (hcreado : ∀ g, s.broker.creado g = true → b.creado g = true)
    (hnames : ∀ g, (b.grupo g).clientNames = (s.broker.grupo g).clientNames)
    (hubicado : ∀ c, (manejador c).Ubicado (b.grupo (P.grupo c)) (P.nombre c))
    (hexcluye : ∀ g, Excluye (b.grupo g).mutexAsignado (Estado.dentro P ⟨b, manejador⟩ g))
    (hsaldo : ∀ g, b.saldo P.toConfig g = s.broker.saldo P.toConfig g) :
    Inv P ⟨b, manejador⟩ := by
  have htabla : ∀ c, (manejador c).enTabla = (s.manejador c).enTabla := fun c => by
    rw [hm c]
    rfl
  have hcola : ∀ c, (manejador c).numeroCola = (s.manejador c).numeroCola := fun c => by rw [hm c]
  have hfichas : ∀ c, (manejador c).fichas = (s.manejador c).fichas := fun c => by
    rw [hm c]
    rfl
  refine ⟨hb, fun c => ?_, hubicado, fun g k n hk => ?_, fun c d hg hn hc hd => ?_, fun c hc => ?_,
    hexcluye, fun g => ?_, fun c => ?_, fun c d hcd hg => ?_⟩
  · show (manejador c).Bueno
    have hbueno := hi.bueno c
    refine ⟨?_, ?_, fun hf => ?_, ?_⟩
    · rw [hm c]
      exact hbueno.sinToken
    · rw [hm c]
      exact hbueno.retirados
    · have hf' : (s.manejador c).fueraDeTabla = true := by
        rw [hm c] at hf
        exact hf
      rw [hfuera c (Manejador.enTabla_of_fueraDeTabla hf')]
      exact hbueno.encolados hf'
    · rw [hm c]
      exact hbueno.saliendo
  · have hk' : (b.grupo g).clientNames k = some n := hk
    rw [hnames g] at hk'
    obtain ⟨c, hg, he, hk⟩ := hi.ocupantes g k n hk'
    exact ⟨c, hg, (htabla c).trans he, (hcola c).trans hk⟩
  · exact hi.nombres c d hg hn ((htabla c).symm.trans hc) ((htabla d).symm.trans hd)
  · refine hcreado _ (hi.creado c ?_)
    have hpc : (manejador c).pc = (s.manejador c).pc := by rw [hm c]
    exact hpc ▸ hc
  · show b.saldo P.toConfig g ≤ 1
    rw [hsaldo]
    exact hi.saldo g
  · show b.saldo P.toConfig _ + (manejador c).fichas ≤ 1
    rw [hsaldo, hfichas]
    exact hi.unToken c
  · show b.saldo P.toConfig _ + (manejador c).fichas + (manejador d).fichas ≤ 1
    rw [hsaldo, hfichas, hfichas]
    exact hi.unToken' c d hcd hg

/-- A step that queues nothing. -/
theorem Inv.sinEncolar {b : Broker M ν} (hi : Inv P s) (hb : b.Bien P.toConfig)
    (hcreado : ∀ g, s.broker.creado g = true → b.creado g = true)
    (hnames : ∀ g, (b.grupo g).clientNames = (s.broker.grupo g).clientNames)
    (hcolas : ∀ g, (b.grupo g).cola = (s.broker.grupo g).cola)
    (hexcluye : ∀ g, Excluye (b.grupo g).mutexAsignado (Estado.dentro P ⟨b, s.manejador⟩ g))
    (hsaldo : ∀ g, b.saldo P.toConfig g = s.broker.saldo P.toConfig g) :
    Inv P { s with broker := b } :=
  hi.deBroker hb (fun _ => rfl) (fun _ _ => rfl) hcreado hnames
    (fun c => (hi.ubicado c).congr (fun _ => by rw [hnames, hcolas]; exact ⟨rfl, rfl⟩)
      fun _ _ => hnames _)
    hexcluye hsaldo

/-- While the token manager stays where it was, the sections of the other groups do not change. -/
theorem dentro_broker {b : Broker M ν} {manejador : ι → Manejador M} {g : Nat} {q : Option ι}
    (hm : ∀ c, (manejador c).pc = (s.manejador c).pc)
    (hq : Estado.dentro P ⟨b, manejador⟩ g q) :
    q ≠ none ∧ s.dentro P g q ∨ q = none ∧ Broker.enSeccion b.tokenManager = some g := by
  cases q with
  | none => exact .inr ⟨rfl, hq⟩
  | some c => exact .inl ⟨nofun, hq.1, by rw [← hm c]; exact hq.2⟩

/-- Nobody is in the section of a group that does not exist. -/
theorem Inv.nadie_dentro (hi : Inv P s) {g : Nat} (hg : s.broker.creado g = false) (c : ι) :
    ¬ s.dentro P g (some c) := by
  rintro ⟨rfl, hc⟩
  have hcreado := hi.creado c (conGrupo_of_enSeccion hc)
  rw [hg] at hcreado
  cases hcreado

/-- Nor in its table. -/
theorem Inv.sinNombres (hi : Inv P s) {g : Nat} (hg : s.broker.creado g = false) :
    (s.broker.grupo g).clientNames = fun _ => none := by
  funext k
  cases hk : (s.broker.grupo g).clientNames k with
  | none => rfl
  | some n =>
    obtain ⟨c, rfl, he, -⟩ := hi.ocupantes g k n hk
    have hcreado := hi.creado c (Manejador.conGrupo_of_enTabla he)
    rw [hg] at hcreado
    cases hcreado

section TokenManager

variable [NeZero M]

theorem inv_pasa {b : Broker M ν} {g : Nat} (hi : Inv P s) (hb : b.Bien P.toConfig)
    (hno : ∀ c, (s.manejador c).sinTokenEnTabla = true →
      enPasa s.broker.tokenManager = some (P.grupo c) →
        (s.manejador c).numeroCola ≠ (s.broker.grupo (P.grupo c)).proximoCliente)
    (htm : s.broker.tokenManager = .pasa g)
    (hgrupo : b.grupo = Function.update s.broker.grupo g
      ((s.broker.grupo g).pasarTokenAProximoCliente P.esBroker))
    (hcreado : b.creado = s.broker.creado) (htm' : b.tokenManager = .pide)
    (hsaldo : ∀ g, b.saldo P.toConfig g = s.broker.saldo P.toConfig g) :
    Inv P (Estado.encolar P { s with broker := b } g (s.broker.grupo g).proximoCliente) := by
  have hmio : b.grupo g = (s.broker.grupo g).pasarTokenAProximoCliente P.esBroker := by
    rw [hgrupo, Function.update_self]
  have hotro : ∀ h, h ≠ g → b.grupo h = s.broker.grupo h := fun h hh => by
    rw [hgrupo, Function.update_of_ne hh]
  obtain ⟨k, hk⟩ : ∃ k, (s.broker.grupo g).proximoCliente = k := ⟨_, rfl⟩
  have hcola : (b.grupo g).cola =
      Function.update (s.broker.grupo g).cola k ((s.broker.grupo g).cola k ++ [1]) := by
    rw [hmio, ← hk]
    rfl
  have hnames : ∀ h, (b.grupo h).clientNames = (s.broker.grupo h).clientNames := fun h => by
    by_cases hh : h = g
    · rw [hh, hmio]
      rfl
    · rw [hotro h hh]
  rw [hk]
  refine hi.deBroker hb (fun c => ?_) (fun c hc => ?_) (fun h => by rw [hcreado]; exact id) hnames
    (fun c => ?_) (fun h => ?_) hsaldo
  · dsimp only
    split <;> rfl
  · dsimp only
    rw [if_neg fun h => ?_]
    rw [hc] at h
    exact nomatch h.2.1
  · have hu := hi.ubicado c
    dsimp only
    split
    · -- the slot of `c` gets the token
      rename_i h
      obtain ⟨rfl, he, rfl⟩ := h
      refine ⟨fun _ => ?_, fun _ => ?_, fun hs => ?_, fun i hpc => ?_⟩
      · rw [hnames]
        exact hu.tabla he
      · rw [hcola]
        dsimp only
        rw [Function.update_self, List.length_append, hu.encolados he]
        rfl
      · exact absurd hk.symm (hno c hs (by rw [htm]; rfl))
      · have hpc' : (s.manejador c).pc = .une (.ocupa i) := hpc
        rw [Manejador.enTabla, hpc'] at he
        cases he
    · rename_i h
      refine hu.congr (fun he => ⟨by rw [hnames], ?_⟩) fun _ _ => hnames _
      by_cases hg : P.grupo c = g
      · rw [hg, hcola]
        exact Function.update_of_ne (fun hkc => h ⟨hg, he, hkc⟩) ..
      · rw [hotro _ hg]
  · have hpcs : ∀ c, (Estado.encolar P { s with broker := b } g k |>.manejador c).pc =
        (s.manejador c).pc := fun c => by
      unfold Estado.encolar
      dsimp only
      split <;> rfl
    have hafuera : ∀ q, Estado.dentro P (Estado.encolar P { s with broker := b } g k) h q →
        s.dentro P h q ∧ q ≠ none := by
      intro q hq
      obtain ⟨hne, hq⟩ | ⟨-, hsec⟩ := dentro_broker hpcs hq
      · exact ⟨hq, hne⟩
      · change Broker.enSeccion b.tokenManager = some h at hsec
        rw [htm'] at hsec
        cases hsec
    by_cases hh : h = g
    · subst hh
      have hdentro : s.dentro P h none := by
        show Broker.enSeccion s.broker.tokenManager = some h
        rw [htm]
        rfl
      rw [hmio]
      exact (hi.excluye h).salir hdentro hafuera
    · rw [hotro h hh]
      exact (hi.excluye h).congr fun q hq => (hafuera q hq).1

/-- Outside `pasar_token_a_proximo_cliente` nothing is queued. -/
theorem inv_sinPasa {b : Broker M ν} (hno : ∀ g, s.broker.tokenManager ≠ .pasa g)
    (hi : Inv P { s with broker := b }) :
    Inv P (match s.broker.tokenManager with
      | .pasa g => Estado.encolar P { s with broker := b } g (s.broker.grupo g).proximoCliente
      | _ => { s with broker := b }) := by
  split
  · exact absurd ‹_› (hno _)
  · exact hi

omit [NeZero M] in
/-- A group that changes keeps its clients and its queues. -/
theorem mismos_clientes {grupo grupo' : Nat → Grupo M ν} {g : Nat} {gr : Grupo M ν}
    (hgrupo : grupo' = Function.update grupo g gr) (hnames : gr.clientNames = (grupo g).clientNames)
    (hcola : gr.cola = (grupo g).cola) (h : Nat) :
    (grupo' h).clientNames = (grupo h).clientNames ∧ (grupo' h).cola = (grupo h).cola := by
  rw [hgrupo]
  exact (Function.forall_update_iff grupo fun h gr =>
    gr.clientNames = (grupo h).clientNames ∧ gr.cola = (grupo h).cola).mpr
    ⟨⟨hnames, hcola⟩, fun _ _ => ⟨rfl, rfl⟩⟩ h

omit [NeZero M] in
/-- A step that changes no group. -/
theorem inv_sinGrupos {b : Broker M ν} (hi : Inv P s) (hb : b.Bien P.toConfig)
    (hgrupo : b.grupo = s.broker.grupo) (hcreado : b.creado = s.broker.creado)
    (hsec : Broker.enSeccion b.tokenManager = none)
    (hsaldo : ∀ g, b.saldo P.toConfig g = s.broker.saldo P.toConfig g) :
    Inv P { s with broker := b } := by
  refine hi.sinEncolar hb (fun _ => by rw [hcreado]; exact id) (fun _ => by rw [hgrupo])
    (fun _ => by rw [hgrupo]) (fun h => ?_) hsaldo
  rw [hgrupo]
  refine (hi.excluye h).congr fun q hq => ?_
  obtain ⟨-, hq⟩ | ⟨-, hq⟩ := dentro_broker (fun _ => rfl) hq
  · exact hq
  · rw [hsec] at hq
    cases hq

/-- A new group has no clients and no messages. -/
theorem inv_crea {b : Broker M ν} {g tamanio : Nat} (hi : Inv P s) (hb : b.Bien P.toConfig)
    (hg : s.broker.creado g = false)
    (hgrupo : b.grupo = Function.update s.broker.grupo g (Grupo.crear tamanio))
    (hcreado : b.creado = Function.update s.broker.creado g true)
    (hsec : Broker.enSeccion b.tokenManager = none)
    (hsaldo : ∀ g, b.saldo P.toConfig g = s.broker.saldo P.toConfig g) :
    Inv P { s with broker := b } := by
  have hsinCola : (Grupo.crear tamanio : Grupo M ν).cola = (s.broker.grupo g).cola := by
    refine funext fun k => (hi.bien.sinCola g (fun hl => ?_) k).symm
    have hl' := hl.1
    rw [hg] at hl'
    cases hl'
  have hnuevo := mismos_clientes hgrupo (hi.sinNombres hg).symm hsinCola
  refine hi.sinEncolar hb (fun h hh => ?_) (fun h => (hnuevo h).1) (fun h => (hnuevo h).2)
    (fun h => ?_) hsaldo
  · rw [hcreado]
    by_cases hhg : h = g
    · rw [hhg, Function.update_self]
    · rw [Function.update_of_ne hhg]
      exact hh
  · have hafuera : ∀ q, Estado.dentro P ⟨b, s.manejador⟩ h q → q ≠ none ∧ s.dentro P h q := by
      intro q hq
      obtain hq | ⟨-, hq⟩ := dentro_broker (fun _ => rfl) hq
      · exact hq
      · rw [hsec] at hq
        cases hq
    rw [hgrupo]
    by_cases hhg : h = g
    · subst hhg
      rw [Function.update_self]
      have hnadie : ∀ q, ¬ Estado.dentro P ⟨b, s.manejador⟩ h q := by
        intro q hq
        obtain ⟨hne, hq⟩ := hafuera q hq
        cases q with
        | none => exact hne rfl
        | some c => exact hi.nadie_dentro hg c hq
      exact ⟨Nat.le_refl 1, fun q hq => absurd hq (hnadie q), fun q _ hq => absurd hq (hnadie q)⟩
    · rw [Function.update_of_ne hhg]
      exact (hi.excluye h).congr fun q hq => (hafuera q hq).2

omit [NeZero M] in
/-- The token manager enters the section of `g`. -/
theorem inv_entra {b : Broker M ν} {g : Nat} {gr : Grupo M ν} (hi : Inv P s) (hb : b.Bien P.toConfig)
    (hgr : (s.broker.grupo g).waitOn = some gr) (hgrupo : b.grupo = Function.update s.broker.grupo g gr)
    (hcreado : b.creado = s.broker.creado) (hsec : Broker.enSeccion b.tokenManager = some g)
    (hsaldo : ∀ g, b.saldo P.toConfig g = s.broker.saldo P.toConfig g) :
    Inv P { s with broker := b } := by
  obtain ⟨hcola, hnames, -⟩ := Grupo.waitOn_eq_some hgr
  obtain ⟨hlibre, hmutex⟩ := Grupo.waitOn_mutex hgr
  have hmismo := mismos_clientes hgrupo hnames hcola
  refine hi.sinEncolar hb (fun _ => by rw [hcreado]; exact id) (fun h => (hmismo h).1)
    (fun h => (hmismo h).2) (fun h => ?_) hsaldo
  rw [hgrupo]
  by_cases hhg : h = g
  · subst hhg
    rw [Function.update_self, hmutex]
    refine (hi.excluye h).entrar (p := none) hlibre fun q hq => ?_
    exact (dentro_broker (fun _ => rfl) hq).imp And.right And.left
  · rw [Function.update_of_ne hhg]
    refine (hi.excluye h).congr fun q hq => ?_
    obtain ⟨-, hq⟩ | ⟨-, hq⟩ := dentro_broker (fun _ => rfl) hq
    · exact hq
    · rw [hsec] at hq
      exact absurd (Option.some.inj hq).symm hhg

omit [NeZero M] in
/-- The token manager leaves the section of `replicar_brokers`. -/
theorem inv_replica {b : Broker M ν} {g : Nat} (hi : Inv P s) (hb : b.Bien P.toConfig)
    (htm : s.broker.tokenManager = .replica g)
    (hgrupo : b.grupo = Function.update s.broker.grupo g (s.broker.grupo g).signalize)
    (hcreado : b.creado = s.broker.creado) (htm' : b.tokenManager = .espera g)
    (hsaldo : ∀ g, b.saldo P.toConfig g = s.broker.saldo P.toConfig g) :
    Inv P { s with broker := b } := by
  have hmismo := mismos_clientes hgrupo rfl rfl
  refine hi.sinEncolar hb (fun _ => by rw [hcreado]; exact id) (fun h => (hmismo h).1)
    (fun h => (hmismo h).2) (fun h => ?_) hsaldo
  have hafuera : ∀ q, Estado.dentro P ⟨b, s.manejador⟩ h q → s.dentro P h q ∧ q ≠ none := by
    intro q hq
    obtain ⟨hne, hq⟩ | ⟨-, hq⟩ := dentro_broker (fun _ => rfl) hq
    · exact ⟨hq, hne⟩
    · rw [htm'] at hq
      cases hq
  rw [hgrupo]
  by_cases hhg : h = g
  · subst hhg
    have hdentro : s.dentro P h none := by
      show Broker.enSeccion s.broker.tokenManager = some h
      rw [htm]
      rfl
    rw [Function.update_self]
    exact (hi.excluye h).salir hdentro hafuera
  · rw [Function.update_of_ne hhg]
    exact (hi.excluye h).congr fun q hq => (hafuera q hq).1

variable [DecidableEq ν]

theorem inv_tokenManager (hi : Inv P s) (hno : sinDefecto P s .tokenManager)
    (hs : pasoTokenManager P s = some t) : Inv P t := by
  obtain ⟨b, hb, rfl⟩ := Option.map_eq_some_iff.mp hs
  have hbien := hi.bien.pasoTokenManager hb
  have hsaldo := Broker.saldo_pasoTokenManager hi.bien hb
  have hsinPasa : Broker.enSeccion s.broker.tokenManager = none →
      ∀ g, s.broker.tokenManager ≠ .pasa g := by
    intro hsec g htm
    rw [htm] at hsec
    cases hsec
  rcases Broker.pasoTokenManager_cases hi.bien hb with ⟨hgrupo, hcreado, hsec, hsec'⟩ |
    ⟨g, tamanio, hg, hgrupo, hcreado, hsec, hsec'⟩ | ⟨g, gr, hgr, hgrupo, hcreado, hsec, hsec'⟩ |
    ⟨g, htm, hgrupo, hcreado, htm'⟩ | ⟨g, htm, hgrupo, hcreado, htm'⟩
  · exact inv_sinPasa (hsinPasa hsec) (inv_sinGrupos hi hbien hgrupo hcreado hsec' hsaldo)
  · exact inv_sinPasa (hsinPasa hsec) (inv_crea hi hbien hg hgrupo hcreado hsec' hsaldo)
  · exact inv_sinPasa (hsinPasa hsec) (inv_entra hi hbien hgr hgrupo hcreado hsec' hsaldo)
  · refine inv_sinPasa (fun h hh => ?_) (inv_replica hi hbien htm hgrupo hcreado htm' hsaldo)
    rw [htm] at hh
    cases hh
  · rw [htm]
    exact inv_pasa hi hbien hno htm hgrupo hcreado htm' hsaldo

end TokenManager

/-! ## The runs -/

theorem inv_inicial [NeZero M] (P : Parametros ι ν) : Inv P (inicial : Estado ι M ν) where
  bien := Broker.bien_inicial
  bueno _ := ⟨fun _ => rfl, rfl, nofun, nofun⟩
  ubicado _ := ⟨nofun, nofun, nofun, nofun⟩
  ocupantes := nofun
  nombres := nofun
  creado := nofun
  excluye _ := by
    refine ⟨Nat.le_refl 1, ?_, ?_⟩ <;> rintro (_ | c) <;> nofun
  saldo g := by
    rw [show (inicial : Estado ι M ν).broker = Broker.inicial from rfl, Broker.saldo_inicial]
    exact Broker.valorInicial_le _ g
  unToken c := by
    rw [show (inicial : Estado ι M ν).broker = Broker.inicial from rfl, Broker.saldo_inicial]
    exact Broker.valorInicial_le _ _
  unToken' c d _ _ := by
    rw [show (inicial : Estado ι M ν).broker = Broker.inicial from rfl, Broker.saldo_inicial]
    exact Broker.valorInicial_le _ _

section Paso

variable [DecidableEq ι] [DecidableEq ν] [NeZero M]

theorem inv_paso {e : Evento ι} (hi : Inv P s) (hno : sinDefecto P s e) (hs : paso P s e = some t) :
    Inv P t := by
  cases e with
  | tokenManager => exact inv_tokenManager hi hno hs
  | conectar c =>
    simp only [paso] at hs
    split at hs <;> cases hs
    rename_i hpc
    have hbueno := hi.bueno c
    have hsin : (s.manejador c).tengoElToken = false :=
      hbueno.sinToken (by rw [Manejador.sinToken, hpc])
    have htabla : (s.manejador c).enTabla = false := by rw [Manejador.enTabla, hpc]
    exact hi.irA ⟨fun _ => hsin, hbueno.retirados, nofun, nofun⟩ htabla.symm nofun nofun rfl nofun
  | join c => exact inv_join hi hno hs
  | manejador c r => exact inv_manejador hi hno hs

/-- In every run that avoids the defects a handler that has stopped has not taken the token with it, and
    no handler ever releases a token that it has not pulled. -/
theorem memoria_no_se_lleva_el_token (P : Parametros ι ν)
    [∀ s e, Decidable (sinDefecto (M := M) P s e)] (s : Estado ι M ν)
    (hs : AlcanzaBajo (sinDefecto P) (paso P) inicial s) (c : ι) :
    ((s.manejador c).parado = true → NoSeLlevaElToken P s c) ∧
      (s.manejador c).devueltos ≤ (s.manejador c).retirados := by
  have hi : Inv P s := hs.induccion (inv_inicial P) fun _ _ _ ha hno hb => inv_paso ha hno hb
  have hbueno := hi.bueno c
  refine ⟨fun hp => ?_, by rw [hbueno.retirados]; exact Nat.le_add_right _ _⟩
  obtain ⟨hfuera, hsin, htabla⟩ := Manejador.fueraDeTabla_of_parado hp
  refine ⟨fun k hk => ?_, hbueno.encolados hfuera, ?_⟩
  · obtain ⟨d, hg, he, hd⟩ := hi.ocupantes _ k _ hk
    have hnd := (hi.ubicado d).tabla he
    rw [hg, hd, hk] at hnd
    refine ⟨d, fun hdc => ?_, hg, (Option.some.inj hnd).symm, he, hd⟩
    rw [hdc, htabla] at he
    cases he
  · have hret := hbueno.retirados
    rw [Manejador.fichas, hbueno.sinToken hsin] at hret
    exact hret.symm

/-! ### One client -/

def unCliente : Parametros (Fin 1) Nat where
  esBroker _ := false
  grupos g := if g = 0 then some (300, 1) else none
  nombre _ := 0
  sinBrokers _ := rfl
  grupo _ := 0

/-- The client joins; the token manager creates its group and queues nothing yet. -/
def une (c : ι) : List (Evento ι) :=
  [.conectar c, .join c, .tokenManager, .tokenManager, .tokenManager, .tokenManager,
    .join c, .join c, .join c, .join c, .manejador c .ok]

/-- It gets the token, sends the memory, and the client leaves instead of sending it back. -/
def recibeYDeja (c : ι) : List (Evento ι) :=
  une c ++ List.replicate 5 Evento.tokenManager ++ List.replicate 4 (Evento.manejador c .ok) ++
    Evento.manejador c .fin :: List.replicate 3 (Evento.manejador c .ok)

theorem memoria_no_se_lleva_el_token_un_cliente : ∃ s : Estado (Fin 1) 2 Nat,
    AlcanzaBajo (sinDefecto unCliente) (paso unCliente) inicial s ∧
      (s.manejador 0).parado = true ∧ (s.manejador 0).encolados = 1 ∧
      (((s.manejador 0).parado = true → NoSeLlevaElToken unCliente s 0) ∧
        (s.manejador 0).devueltos ≤ (s.manejador 0).retirados) := by
  have hrun : (correr (pasoBajo (sinDefecto unCliente) (paso unCliente))
      (inicial : Estado (Fin 1) 2 Nat) (recibeYDeja 0)).map
        (fun s => ((s.manejador 0).parado, (s.manejador 0).encolados)) = some (true, 1) := by
    decide +kernel
  obtain ⟨s, hs, hsv⟩ := Option.map_eq_some_iff.mp hrun
  obtain ⟨hp, he⟩ := Prod.mk.inj hsv
  exact ⟨s, ⟨_, hs⟩, hp, he, memoria_no_se_lleva_el_token unCliente s ⟨_, hs⟩ 0⟩

/-- A signal interrupts `send_token` while the handler holds the token: the exception leaves `run`. -/
def interrumpidoConElToken (c : ι) : List (Evento ι) :=
  une c ++ List.replicate 5 Evento.tokenManager ++
    [Evento.manejador c .ok, Evento.manejador c .interrumpido]

theorem memoria_se_lleva_el_token : ¬ ∀ s : Estado (Fin 1) 2 Nat,
    Alcanza (paso unCliente) inicial s → ∀ c, ((s.manejador c).parado = true →
      NoSeLlevaElToken unCliente s c) ∧ (s.manejador c).devueltos ≤ (s.manejador c).retirados := by
  intro h
  have hrun : (correr (paso unCliente) (inicial : Estado (Fin 1) 2 Nat)
      (interrumpidoConElToken 0)).map (fun s => ((s.manejador 0).parado, (s.manejador 0).retirados,
        (s.manejador 0).devueltos)) = some (true, 1, 0) := by
    decide +kernel
  obtain ⟨s, hs, hsv⟩ := Option.map_eq_some_iff.mp hrun
  simp only [Prod.mk.injEq] at hsv
  obtain ⟨hp, hret, hdev⟩ := hsv
  have hno := ((h s ⟨_, hs⟩ 0).1 hp).devueltos
  rw [hret, hdev] at hno
  cases hno

/-- A signal takes the handler out of `lock_token`; the token comes between that and `leave_group`, and
    `tengo_el_token` is false. -/
def tokenTrasLaInterrupcion (c : ι) : List (Evento ι) :=
  une c ++ List.replicate 4 Evento.tokenManager ++
    [Evento.manejador c .interrumpido, Evento.manejador c .ok, Evento.manejador c .ok,
      Evento.tokenManager] ++
    List.replicate 3 (Evento.manejador c .ok)

theorem memoria_deja_el_token_en_la_cola : ∃ s : Estado (Fin 1) 2 Nat,
    Alcanza (paso unCliente) inicial s ∧ (s.manejador 0).parado = true ∧
      (s.manejador 0).encolados = 1 ∧ (s.manejador 0).retirados = 0 := by
  have hrun : (correr (paso unCliente) (inicial : Estado (Fin 1) 2 Nat)
      (tokenTrasLaInterrupcion 0)).map (fun s => ((s.manejador 0).parado,
        (s.manejador 0).encolados, (s.manejador 0).retirados)) = some (true, 1, 0) := by
    decide +kernel
  obtain ⟨s, hs, hsv⟩ := Option.map_eq_some_iff.mp hrun
  simp only [Prod.mk.injEq] at hsv
  exact ⟨s, ⟨_, hs⟩, hsv⟩

end Paso

end ClientHandlerMemoria
