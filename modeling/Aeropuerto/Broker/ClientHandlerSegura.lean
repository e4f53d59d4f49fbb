import Aeropuerto.Broker.ClientHandler

/-!
# When a leaving client does not duplicate the token

A handler owes the group the tokens that its child has pulled and nobody has released since
(`prestadas`).  The tokens that exist on its side are covered by that debt at every step but one: the
release of a child whose client has closed, which looks only at the last slot the token was passed
to.  In the runs in which the child owes a token whenever it makes that release, the debts and the
tokens of the broker together are never more than one.
-/

namespace ClientHandler

open Ejecucion

variable {ι ν : Type} {M : Nat}

/-- The release of `chequear_status_salida_hijo` with `salir == 2` gives back a token that the handler
    has taken. -/
def devuelveLoSuyo (s : Estado ι M ν) : Evento ι → Bool
  | .hijo c _ =>
    match (s.conexion c).hijo.pc with
    | .liberaCierre => 0 < (s.conexion c).prestadas
    | _ => true
  | _ => true

/-! ## The tokens of one connection -/

def Respuesta.fichas : Respuesta → Nat
  | .token => 1
  | _ => 0

def Peticion.fichas : Peticion → Nat
  | .tokenFree | .tokenLeave => 1
  | .leave => 0

def PcPadre.fichas : PcPadre → Nat
  | .libera => 1
  | _ => 0

def PcHijo.fichas : PcHijo → Nat
  | .liberaExtraido => 1
  | _ => 0

def Hijo.fichas (h : Hijo) : Nat :=
  (if h.tengoToken then 1 else 0) + h.pc.fichas

/-- The tokens in the two processes, on the socket and with the client. -/
def Conexion.fichas (con : Conexion M) : Nat :=
  con.padre.pc.fichas + con.hijo.fichas + (con.bajada.map Respuesta.fichas).sum +
    (con.subida.map Peticion.fichas).sum + con.cliente.fichas

/-- The parent has left its loop. -/
def PcPadre.fuera : PcPadre → Bool
  | .recibe | .libera => false
  | _ => true

/-- The child is past the test of `salir == 2`. -/
def PcHijo.enCierre : PcHijo → Bool
  | .verificaCierre | .liberaCierre => true
  | _ => false

/-- Where the child may still have the token that it could not send. -/
def PcHijo.retiene : PcHijo → Bool
  | .lazo | .chequea | .chequeaCierre | .verificaCierre | .liberaCierre => true
  | _ => false

theorem Hijo.senalado_salir (h : Hijo) (interrumpe : Bool) :
    (h.senalado interrumpe).salir = h.senal := by
  unfold Hijo.senalado
  dsimp only
  split <;> rfl

theorem Hijo.senalado_senal (h : Hijo) (interrumpe : Bool) : (h.senalado interrumpe).senal = 0 := by
  unfold Hijo.senalado
  dsimp only
  split <;> rfl

/-- A signal interrupts a system call of the loop or changes nothing else. -/
theorem Hijo.senalado_cases (h : Hijo) (interrumpe : Bool) :
    (h.senalado interrumpe).pc = .lazo ∧
        ((h.pc = .envia → h.tengoToken = true) → (h.senalado interrumpe).fichas ≤ h.fichas) ∨
      (h.senalado interrumpe).pc = h.pc ∧
        (h.senalado interrumpe).tengoToken = h.tengoToken := by
  unfold Hijo.senalado
  dsimp only
  split
  · exact .inl ⟨rfl, fun _ => by simp [Hijo.fichas, PcHijo.fichas]⟩
  · rename_i hpc
    exact .inl ⟨rfl, fun htengo => by simp [Hijo.fichas, PcHijo.fichas, htengo hpc]⟩
  · exact .inr ⟨rfl, rfl⟩

/-- A connection between two steps. -/
structure Conexion.Valida (con : Conexion M) : Prop where
  cubierta : con.fichas ≤ con.prestadas
  cerrado : con.cliente.pc = .cerrado → con.bajada = [] ∧ con.cliente.fichas = 0
  -- the parent has read the end of file
  finDeArchivo : con.padre.salir = 2 →
    con.cliente.pc = .cerrado ∧ con.subida = [] ∧ con.padre.pc.fuera = true
  enEnvio : con.hijo.pc = .envia → con.hijo.tengoToken = true
  senal : con.hijo.senal = 2 → con.padre.salir = 2
  salir : con.hijo.salir = 2 ∨ con.hijo.pc.enCierre = true → con.hijo.pc ≠ .fin →
    con.padre.salir = 2 ∨ con.hijo.tengoToken = true ∧ con.hijo.pc.retiene = true

namespace Conexion.Valida

variable {con con' : Conexion M}

/-- A step of a client that goes on: it makes no token. -/
theorem deCliente (h : con.Valida) {cliente : Cliente} {bajada : List Respuesta}
    {subida : List Peticion} (hantes : con.cliente.pc ≠ .cerrado) (habierto : cliente.pc ≠ .cerrado)
    (hfichas : (bajada.map Respuesta.fichas).sum + (subida.map Peticion.fichas).sum +
        cliente.fichas ≤
      (con.bajada.map Respuesta.fichas).sum + (con.subida.map Peticion.fichas).sum +
        con.cliente.fichas) :
    Conexion.Valida { con with cliente := cliente, bajada := bajada, subida := subida } := by
  refine ⟨?_, fun hc => absurd hc habierto, fun h2 => absurd (h.finDeArchivo h2).1 hantes,
    h.enEnvio, h.senal, h.salir⟩
  have hcub := h.cubierta
  unfold Conexion.fichas at hcub ⊢
  dsimp only
  omega

theorem deManejador (h : con.Valida) {manejador : PcManejador M} {numeroCola : Fin M} :
    Conexion.Valida { con with manejador := manejador, numeroCola := numeroCola } :=
  ⟨h.cubierta, h.cerrado, h.finDeArchivo, h.enEnvio, h.senal, h.salir⟩

theorem cerrar (h : con.Valida) : con.cerrar.Valida := by
  refine ⟨?_, fun _ => ⟨rfl, rfl⟩, fun h2 => ⟨rfl, (h.finDeArchivo h2).2⟩, h.enEnvio, h.senal,
    h.salir⟩
  have hcub := h.cubierta
  unfold Conexion.fichas at hcub ⊢
  unfold Conexion.cerrar
  dsimp only
  rw [List.map_nil, List.sum_nil]
  omega

theorem recibirCliente (h : con.Valida) (hs : con.recibirCliente = some con') : con'.Valida := by
  unfold Conexion.recibirCliente at hs
  split at hs <;> cases hs
  · rename_i bajada hpc hcola
    apply h.deCliente (by rw [hpc]; nofun) (by rw [hpc]; nofun)
    rw [hcola, List.map_cons, List.sum_cons, Respuesta.fichas]
    dsimp only
    omega
  · rename_i bajada hpc hcola
    apply h.deCliente (by rw [hpc]; nofun) (by rw [hpc]; nofun)
    rw [hcola, List.map_cons, List.sum_cons, List.map_append, List.sum_append]
    simp only [Respuesta.fichas, Peticion.fichas, List.map_singleton, List.sum_singleton]
    omega
  · rename_i bajada hpc hcola
    apply h.deCliente (by rw [hpc]; nofun) (by rw [hpc]; nofun)
    rw [hcola, List.map_cons, List.sum_cons, List.map_append, List.sum_append]
    simp only [Respuesta.fichas, Peticion.fichas, List.map_singleton, List.sum_singleton]
    omega
  · exact h.cerrar

/-- A step of the parent. -/
theorem dePadre (h : con.Valida) {padre : Padre} {subida : List Peticion} {n : Nat}
    (hfichas : padre.pc.fichas + (subida.map Peticion.fichas).sum + con.prestadas ≤
      con.padre.pc.fichas + (con.subida.map Peticion.fichas).sum + n)
    (hsalir : con.padre.salir = 2 → padre.salir = 2)
    (hfin : padre.salir = 2 →
      con.cliente.pc = .cerrado ∧ subida = [] ∧ padre.pc.fuera = true) :
    Conexion.Valida { con with padre := padre, subida := subida, prestadas := n } := by
  refine ⟨?_, h.cerrado, hfin, h.enEnvio, fun hs => hsalir (h.senal hs), fun hs hne => ?_⟩
  · have hcub := h.cubierta
    unfold Conexion.fichas at hcub ⊢
    dsimp only
    omega
  · exact (h.salir hs hne).imp hsalir id

/-- A step of the child. -/
theorem deHijo (h : con.Valida) {hijo : Hijo} {bajada : List Respuesta} {subida : List Peticion}
    {n : Nat}
    (hfichas : hijo.fichas + (bajada.map Respuesta.fichas).sum +
        (subida.map Peticion.fichas).sum + con.prestadas ≤
      con.hijo.fichas + (con.bajada.map Respuesta.fichas).sum +
        (con.subida.map Peticion.fichas).sum + n)
    (hbajada : con.cliente.pc = .cerrado → bajada = con.bajada)
    (hsubida : con.subida = [] → subida = [])
    (henvio : hijo.pc = .envia → hijo.tengoToken = true)
    (hsenal : hijo.senal = 2 → con.padre.salir = 2)
    (hsalir : hijo.salir = 2 ∨ hijo.pc.enCierre = true → hijo.pc ≠ .fin →
      con.padre.salir = 2 ∨ hijo.tengoToken = true ∧ hijo.pc.retiene = true) :
    Conexion.Valida
      { con with hijo := hijo, bajada := bajada, subida := subida, prestadas := n } := by
  refine ⟨?_, fun hc => ?_, fun h2 => ?_, henvio, hsenal, hsalir⟩
  · have hcub := h.cubierta
    unfold Conexion.fichas at hcub ⊢
    dsimp only
    omega
  · exact ⟨(hbajada hc).trans (h.cerrado hc).1, (h.cerrado hc).2⟩
  · obtain ⟨hc, hvacia, hfuera⟩ := h.finDeArchivo h2
    exact ⟨hc, hsubida hvacia, hfuera⟩

/-- A step of the child where it has sent or dropped what it held. -/
theorem deHijoSinFicha (h : con.Valida) {hijo : Hijo} {bajada : List Respuesta}
    {subida : List Peticion} {n : Nat} (hretiene : con.hijo.pc.retiene = false)
    (hfin : con.hijo.pc ≠ .fin)
    (hfichas : hijo.fichas + (bajada.map Respuesta.fichas).sum +
        (subida.map Peticion.fichas).sum + con.prestadas ≤
      con.hijo.fichas + (con.bajada.map Respuesta.fichas).sum +
        (con.subida.map Peticion.fichas).sum + n)
    (hbajada : con.cliente.pc = .cerrado → bajada = con.bajada)
    (hsubida : con.subida = [] → subida = [])
    (henvio : hijo.pc = .envia → hijo.tengoToken = true)
    (hsenal : hijo.senal = con.hijo.senal) (hsalir : hijo.salir = con.hijo.salir)
    (hcierre : hijo.pc.enCierre = false) :
    Conexion.Valida
      { con with hijo := hijo, bajada := bajada, subida := subida, prestadas := n } := by
  refine h.deHijo hfichas hbajada hsubida henvio (by rw [hsenal]; exact h.senal) ?_
  rintro (h2 | hc) -
  · -- only the parent can have met the end of the file
    refine .inl ((h.salir (.inl (hsalir ▸ h2)) hfin).resolve_right fun ht => ?_)
    rw [hretiene] at ht
    exact nomatch ht.2
  · rw [hcierre] at hc
    cases hc

theorem avanzar (h : con.Valida) {pc : PcHijo} (hretiene : con.hijo.pc.retiene = false)
    (hfin : con.hijo.pc ≠ .fin) (hfichas : pc.fichas ≤ con.hijo.pc.fichas) (henvio : pc ≠ .envia)
    (hcierre : pc.enCierre = false) : Conexion.Valida { con with hijo.pc := pc } := by
  refine h.deHijoSinFicha hretiene hfin ?_ (fun _ => rfl) id (fun he => absurd he henvio) rfl rfl
    hcierre
  simp only [Hijo.fichas]
  omega

theorem debe (h : con.Valida) (hfichas : 1 ≤ con.hijo.fichas) : 0 < con.prestadas := by
  have hcub := h.cubierta
  unfold Conexion.fichas at hcub
  omega

/-- A step of the child that only goes on. -/
theorem mover (h : con.Valida) {pc : PcHijo}
    (hfichas : pc.fichas ≤ con.hijo.pc.fichas) (henvio : pc ≠ .envia)
    (hsalir : con.hijo.salir = 2 ∨ pc.enCierre = true → pc ≠ .fin →
      con.padre.salir = 2 ∨ con.hijo.tengoToken = true ∧ pc.retiene = true) :
    Conexion.Valida { con with hijo.pc := pc } := by
  refine h.deHijo ?_ (fun _ => rfl) id (fun he => absurd he henvio) h.senal hsalir
  simp only [Hijo.fichas]
  omega

/-- A child that has not been told of the end of the file. -/
theorem sinCierre (h : con.Valida) {pc : PcHijo} (hsalir : con.hijo.salir ≠ 2)
    (hfichas : pc.fichas ≤ con.hijo.pc.fichas) (henvio : pc ≠ .envia)
    (hcierre : pc.enCierre = false) : Conexion.Valida { con with hijo.pc := pc } := by
  refine h.mover hfichas henvio ?_
  rintro (h2 | hc) -
  · exact absurd h2 hsalir
  · rw [hcierre] at hc
    cases hc

/-- A child that has been told keeps the token that it could not send. -/
theorem quedarse (h : con.Valida) {pc : PcHijo} (hfin : con.hijo.pc ≠ .fin)
    (hretiene : pc.retiene = true)
    (hcierre : pc.enCierre = true → con.hijo.salir = 2 ∨ con.hijo.pc.enCierre = true)
    (hfichas : pc.fichas ≤ con.hijo.pc.fichas) (henvio : pc ≠ .envia) :
    Conexion.Valida { con with hijo.pc := pc } := by
  refine h.mover hfichas henvio fun h2 _ => ?_
  exact (h.salir (h2.elim .inl hcierre) hfin).imp_right fun ht => ⟨ht.1, hretiene⟩

theorem terminar (h : con.Valida) : Conexion.Valida { con with hijo.pc := .fin } :=
  h.mover (Nat.zero_le _) nofun fun _ hne => absurd rfl hne

theorem decidir {p : Prop} [Decidable p] {pc pc' : PcHijo}
    (hsi : p → Conexion.Valida { con with hijo.pc := pc })
    (hno : ¬ p → Conexion.Valida { con with hijo.pc := pc' }) :
    Conexion.Valida { con with hijo.pc := if p then pc else pc' } := by
  split
  · exact hsi ‹_›
  · exact hno ‹_›

/-- The release after a close takes back what the handler owed: nothing of it is left elsewhere. -/
theorem recuperar (h : con.Valida) (hpc : con.hijo.pc = .liberaCierre) (hpos : 0 < con.prestadas) :
    Conexion.Valida
      { con with
        hijo.tengoToken := false
        hijo.pc := .fin
        prestadas := con.prestadas - 1 } := by
  cases htengo : con.hijo.tengoToken with
  | true =>
    refine h.deHijo ?_ (fun _ => rfl) id nofun h.senal fun _ hne => absurd rfl hne
    simp only [Hijo.fichas, PcHijo.fichas, htengo, hpc, if_true, Bool.false_eq_true, if_false]
    omega
  | false =>
    have h2 : con.padre.salir = 2 := by
      have hsalir := h.salir (.inr (by rw [hpc]; rfl)) (by rw [hpc]; nofun)
      rw [htengo] at hsalir
      exact hsalir.resolve_right fun ht => nomatch ht.1
    obtain ⟨hcerrado, hsubida, hfuera⟩ := h.finDeArchivo h2
    obtain ⟨hbajada, hcliente⟩ := h.cerrado hcerrado
    have hpadre : con.padre.pc.fichas = 0 := by
      cases hp : con.padre.pc with
      | libera =>
        rw [hp] at hfuera
        cases hfuera
      | recibe | deja | saca | senala | termina => rfl
    refine ⟨?_, h.cerrado, h.finDeArchivo, nofun, h.senal, fun _ hne => absurd rfl hne⟩
    simp [Conexion.fichas, Hijo.fichas, PcHijo.fichas, hpadre, hbajada, hsubida, hcliente]

/-- In its loop the parent has not met the end of the file. -/
theorem salir_ne_dos (h : con.Valida) (hpc : con.padre.pc.fuera = false) :
    con.padre.salir ≠ 2 := by
  intro h2
  have hfuera := (h.finDeArchivo h2).2.2
  rw [hpc] at hfuera
  cases hfuera

/-- The parent sends the signal of its own `salir`. -/
theorem senalar (h : con.Valida) :
    Conexion.Valida
      { con with hijo.senal := con.padre.salir, padre.pc := .termina } := by
  refine ⟨?_, h.cerrado, fun h2 => ?_, h.enEnvio, id, h.salir⟩
  · have hcub := h.cubierta
    unfold Conexion.fichas at hcub ⊢
    dsimp only [PcPadre.fichas, Hijo.fichas] at hcub ⊢
    omega
  · exact ⟨(h.finDeArchivo h2).1, (h.finDeArchivo h2).2.1, rfl⟩

/-- The delivery of the signal: the child keeps the token that it was about to send. -/
theorem senalado (h : con.Valida) (interrumpe : Bool) :
    Conexion.Valida { con with hijo := con.hijo.senalado interrumpe } := by
  rcases con.hijo.senalado_cases interrumpe with ⟨hpc, hfichas⟩ | ⟨hpc, htengo⟩
  · apply h.deHijo (n := con.prestadas) _ (fun _ => rfl) id
    · rw [hpc]
      nofun
    · rw [con.hijo.senalado_senal]
      nofun
    · rintro (hs | hs) -
      · rw [con.hijo.senalado_salir] at hs
        exact .inl (h.senal hs)
      · rw [hpc] at hs
        cases hs
    · have := hfichas h.enEnvio
      omega
  · apply h.deHijo (n := con.prestadas) _ (fun _ => rfl) id
    · rw [hpc, htengo]
      exact h.enEnvio
    · rw [con.hijo.senalado_senal]
      nofun
    · rw [hpc, htengo]
      rintro (hs | hs) hne
      · rw [con.hijo.senalado_salir] at hs
        exact .inl (h.senal hs)
      · exact h.salir (.inr hs) hne
    · unfold Hijo.fichas
      rw [hpc, htengo]

end Conexion.Valida

theorem prestadas_recibirCliente {con con' : Conexion M} (h : con.recibirCliente = some con') :
    con'.prestadas = con.prestadas := by
  unfold Conexion.recibirCliente at h
  split at h <;> cases h <;> rfl

/-- What is sent arrives at the client, unless it has closed. -/
theorem sendsome_eq_some {con con' : Conexion M} {r : Respuesta} {falla error : Bool}
    (h : con.sendsome r falla = some (con', error)) :
    ∃ bajada, con' = { con with bajada := bajada } ∧
      (con.cliente.pc = .cerrado → bajada = con.bajada) ∧
      (error = true → bajada = con.bajada) ∧
      (bajada.map Respuesta.fichas).sum ≤ (con.bajada.map Respuesta.fichas).sum + r.fichas := by
  unfold Conexion.sendsome at h
  split at h
  · cases h
    exact ⟨con.bajada, rfl, fun _ => rfl, fun _ => rfl, Nat.le_add_right _ _⟩
  · split at h <;> cases h
    rename_i hcerrado _
    refine ⟨_, rfl, fun hc => absurd hc hcerrado, nofun, ?_⟩
    rw [List.map_append, List.sum_append, List.map_singleton, List.sum_singleton]

/-! ## The invariant -/

section Inv

variable [Fintype ι] {P : Parametros ι ν} {s t : Estado ι M ν} {c : ι}

/-- The system between two steps. -/
structure Inv (P : Parametros ι ν) (s : Estado ι M ν) : Prop where
  bien : s.broker.Bien P.toConfig
  valida : ∀ c, (s.conexion c).Valida
  cuenta : ∀ g, s.broker.saldo P.toConfig g +
    ∑ c, (if P.grupo c = g then (s.conexion c).prestadas else 0) ≤ 1

variable [DecidableEq ι]

theorem Inv.cambiar {b : Broker M ν} {con : Conexion M} (hi : Inv P s)
    (hb : b.Bien P.toConfig) (hval : con.Valida)
    (hcuenta : ∀ g, b.saldo P.toConfig g + (if P.grupo c = g then con.prestadas else 0) ≤
      s.broker.saldo P.toConfig g +
        if P.grupo c = g then (s.conexion c).prestadas else 0) :
    Inv P ({ s with broker := b }.set c con) := by
  refine ⟨hb, fun x => ?_, fun g => ?_⟩
  · show (Function.update s.conexion c con x).Valida
    by_cases hx : x = c
    · rw [hx, Function.update_self]
      exact hval
    · rw [Function.update_of_ne hx]
      exact hi.valida x
  · have hsuma := Sumas.suma_update
      (fun c (con : Conexion M) => if P.grupo c = g then con.prestadas else 0) s.conexion
      (Finset.mem_univ c) con
    have hantes := hi.cuenta g
    have hpaso := hcuenta g
    show b.saldo P.toConfig g +
      ∑ x, (if P.grupo x = g then (Function.update s.conexion c con x).prestadas else 0) ≤ 1
    omega

/-- A step that takes or gives back no token. -/
theorem Inv.local {con : Conexion M} (hi : Inv P s) (hval : con.Valida)
    (hprestadas : con.prestadas = (s.conexion c).prestadas) : Inv P (s.set c con) :=
  hi.cambiar hi.bien hval fun _ => by rw [hprestadas]

/-- `lock_token` takes one from the broker. -/
theorem Inv.lockToken {con : Conexion M} (hi : Inv P s) (hs : s.lockToken P c con = some t)
    (hval : Conexion.Valida { con with prestadas := con.prestadas + 1 })
    (hprestadas : con.prestadas = (s.conexion c).prestadas) : Inv P t := by
  obtain ⟨b, hb, rfl⟩ := Option.map_eq_some_iff.mp hs
  refine hi.cambiar (hi.bien.lockToken hb) hval fun g => ?_
  rw [Broker.saldo_lockToken hb g]
  dsimp only
  rw [hprestadas]
  by_cases hg : P.grupo c = g
  · rw [if_pos hg, if_pos hg, if_pos hg.symm]
    omega
  · rw [if_neg hg, if_neg hg, if_neg (Ne.symm hg)]

/-- `release_token` of a token that the handler has taken. -/
theorem Inv.releaseToken {con : Conexion M} (hi : Inv P s)
    (hval : Conexion.Valida { con with prestadas := con.prestadas - 1 })
    (hprestadas : con.prestadas = (s.conexion c).prestadas)
    (hpos : 0 < (s.conexion c).prestadas) : Inv P (s.releaseToken P c con) := by
  refine hi.cambiar (b := s.broker.releaseToken (P.grupo c)) (hi.bien.enviar _) hval fun g => ?_
  rw [Broker.saldo_releaseToken]
  dsimp only
  rw [hprestadas]
  by_cases hg : P.grupo c = g
  · rw [if_pos hg, if_pos hg, if_pos hg.symm]
    omega
  · rw [if_neg hg, if_neg hg, if_neg (Ne.symm hg)]

/-- A message without a token, and its error or not. -/
theorem Inv.enviar {con : Conexion M} {r : Respuesta} {falla error : Bool} {pc : PcHijo}
    (hi : Inv P s) (hsend : (s.conexion c).sendsome r falla = some (con, error))
    (hr : r.fichas = 0) (hretiene : (s.conexion c).hijo.pc.retiene = false)
    (hfin : (s.conexion c).hijo.pc ≠ .fin) (hfichas : pc.fichas = 0) (henvio : pc ≠ .envia)
    (hcierre : pc.enCierre = false) : Inv P (s.set c { con with hijo.pc := pc }) := by
  obtain ⟨bajada, rfl, hcerrado, -, hsuma⟩ := sendsome_eq_some hsend
  refine hi.local ((hi.valida c).deHijoSinFicha hretiene hfin ?_ hcerrado id
    (fun he => absurd he henvio) rfl rfl hcierre) rfl
  rw [hr] at hsuma
  simp only [Hijo.fichas, hfichas]
  omega

section Pasos

variable [NeZero M] [DecidableEq ν]

omit [NeZero M] in
theorem inv_padre {falla : Bool} (hi : Inv P s) (hs : pasoPadre P s c falla = some t) :
    Inv P t := by
  have hval := hi.valida c
  unfold pasoPadre at hs
  dsimp only at hs
  split at hs
  · -- recibe
    rename_i hpc
    have hno2 := hval.salir_ne_dos (by rw [hpc]; rfl)
    split at hs
    · split at hs <;> cases hs
      refine hi.local (hval.dePadre ?_ id fun h2 => absurd h2 hno2) rfl
      rw [hpc]
      exact le_refl _
    · split at hs
      · rename_i subida hcola
        cases hs
        refine hi.local (hval.dePadre ?_ (fun h2 => absurd h2 hno2) nofun) rfl
        rw [hpc, hcola, List.map_cons, List.sum_cons]
        simp only [PcPadre.fichas, Peticion.fichas]
        omega
      · rename_i peticion subida hno hcola
        cases hs
        refine hi.local (hval.dePadre ?_ id fun h2 => absurd h2 hno2) rfl
        rw [hpc, hcola, List.map_cons, List.sum_cons]
        cases peticion with
        | leave => exact absurd rfl hno
        | tokenFree | tokenLeave =>
          simp only [PcPadre.fichas, Peticion.fichas]
          omega
      · rename_i hcola
        split at hs <;> cases hs
        rename_i hcerrado
        refine hi.local (hval.dePadre ?_ (fun _ => rfl) fun _ => ⟨hcerrado, hcola, rfl⟩) rfl
        rw [hpc]
        exact le_refl _
  · -- libera
    rename_i hpc
    cases hs
    have hno2 := hval.salir_ne_dos (by rw [hpc]; rfl)
    have hpos : 0 < (s.conexion c).prestadas := by
      have hcub := hval.cubierta
      unfold Conexion.fichas at hcub
      rw [hpc] at hcub
      simp only [PcPadre.fichas] at hcub
      omega
    refine hi.releaseToken (hval.dePadre ?_ id fun h2 => absurd h2 hno2) rfl hpos
    rw [hpc]
    simp only [PcPadre.fichas]
    omega
  · -- deja
    rename_i hpc
    obtain ⟨gr, hgr, rfl⟩ := Option.map_eq_some_iff.mp hs
    refine hi.cambiar (Broker.bien_waitOn hi.bien hgr) (hval.dePadre ?_ id fun h2 => ?_)
      fun g => ?_
    · rw [hpc]
      exact le_refl _
    · exact ⟨(hval.finDeArchivo h2).1, (hval.finDeArchivo h2).2.1, rfl⟩
    · rw [Broker.saldo_setGrupo (Grupo.waitOn_eq_some hgr).1]
  · -- saca
    rename_i hpc
    cases hs
    refine hi.cambiar (hi.bien.leave _ _) (hval.dePadre ?_ id fun h2 => ?_) fun g => ?_
    · rw [hpc]
      exact le_refl _
    · exact ⟨(hval.finDeArchivo h2).1, (hval.finDeArchivo h2).2.1, rfl⟩
    · rw [Broker.saldo_setGrupo (Grupo.leave_cola _).1]
  · -- senala
    cases hs
    exact hi.local hval.senalar rfl
  · cases hs

omit [NeZero M] [DecidableEq ν] in
/-- `send_token_sem`. -/
theorem inv_envia {falla : Bool} (hi : Inv P s) (hpc : (s.conexion c).hijo.pc = .envia)
    (hs : pasoHijo P s c falla = some t) : Inv P t := by
  have hval := hi.valida c
  have hfichas : (s.conexion c).hijo.fichas = 1 := by
    rw [Hijo.fichas, hpc, hval.enEnvio hpc]
    rfl
  simp only [pasoHijo, hpc] at hs
  split at hs
  · rename_i con hsend
    cases hs
    obtain ⟨bajada, rfl, hcerrado, -, hsuma⟩ := sendsome_eq_some hsend
    refine hi.local (hval.deHijoSinFicha (by rw [hpc]; rfl) (by rw [hpc]; nofun) ?_ hcerrado id
      nofun rfl rfl rfl) rfl
    rw [hfichas]
    simp only [Hijo.fichas, PcHijo.fichas, Bool.false_eq_true, if_false]
    rw [Respuesta.fichas] at hsuma
    omega
  · -- the token that could not be sent stays with the child
    rename_i con hsend
    cases hs
    obtain ⟨bajada, rfl, hcerrado, hnada, -⟩ := sendsome_eq_some hsend
    refine hi.local (hval.deHijo ?_ hcerrado id nofun hval.senal fun _ _ => .inr ⟨rfl, rfl⟩) rfl
    rw [hfichas, hnada rfl]
    exact Nat.le_refl _
  · cases hs

omit [NeZero M] [DecidableEq ν] in
/-- The answer to R_TOKEN_CHECK. -/
theorem inv_recibeCheck {falla : Bool} (hi : Inv P s)
    (hpc : (s.conexion c).hijo.pc = .recibeCheck) (hs : pasoHijo P s c falla = some t) :
    Inv P t := by
  have hval := hi.valida c
  have hretiene : (s.conexion c).hijo.pc.retiene = false := by rw [hpc]; rfl
  have hfin : (s.conexion c).hijo.pc ≠ .fin := by rw [hpc]; nofun
  simp only [pasoHijo, hpc] at hs
  split at hs
  · split at hs <;> cases hs
    exact hi.local (hval.avanzar hretiene hfin (Nat.zero_le _) nofun rfl) rfl
  · split at hs
    · rename_i peticion subida hcola
      cases hs
      refine hi.local (hval.deHijoSinFicha hretiene hfin ?_ (fun _ => rfl) (fun hv => ?_) nofun rfl
        rfl rfl) rfl
      · rw [hcola, List.map_cons, List.sum_cons]
        cases peticion <;> simp [Hijo.fichas, PcHijo.fichas, Peticion.fichas] <;> omega
      · rw [hcola] at hv
        cases hv
    · split at hs <;> cases hs
      refine hi.local (hval.deHijoSinFicha hretiene hfin ?_ (fun _ => rfl) id nofun rfl rfl rfl) rfl
      simp only [Hijo.fichas, PcHijo.fichas, Bool.false_eq_true, if_false]
      omega

omit [NeZero M] [DecidableEq ν] in
theorem inv_decide {falla : Bool} (hi : Inv P s) (hpc : (s.conexion c).hijo.pc = .decide)
    (hs : pasoHijo P s c falla = some t) : Inv P t := by
  have hval := hi.valida c
  have hretiene : (s.conexion c).hijo.pc.retiene = false := by rw [hpc]; rfl
  have hfin : (s.conexion c).hijo.pc ≠ .fin := by rw [hpc]; nofun
  simp only [pasoHijo, hpc] at hs
  split at hs <;> cases hs
  · rename_i htengo
    have hfichas : (s.conexion c).hijo.fichas = 1 := by
      rw [Hijo.fichas, hpc, htengo]
      rfl
    have hpos := hval.debe (Nat.le_of_eq hfichas.symm)
    refine hi.releaseToken (hval.deHijoSinFicha hretiene hfin ?_ (fun _ => rfl) id nofun rfl rfl
      rfl) rfl hpos
    rw [hfichas]
    simp only [Hijo.fichas, PcHijo.fichas, Bool.false_eq_true, if_false]
    omega
  · refine hi.local (.decidir (fun _ => ?_) fun _ => hval.terminar) rfl
    exact hval.avanzar hretiene hfin (Nat.zero_le _) nofun rfl

omit [NeZero M] [DecidableEq ν] in
theorem inv_hijo {falla : Bool} (hi : Inv P s)
    (hdevuelve : devuelveLoSuyo s (.hijo c falla) = true) (hs : pasoHijo P s c falla = some t) :
    Inv P t := by
  have hval := hi.valida c
  cases hpc : (s.conexion c).hijo.pc with
  | lazo =>
    simp only [pasoHijo, hpc] at hs
    cases hs
    refine hi.local (.decidir (fun h0 => ?_) fun _ => ?_) rfl
    · exact hval.sinCierre (by omega) (Nat.zero_le _) nofun rfl
    · exact hval.quedarse (by rw [hpc]; nofun) rfl nofun (Nat.zero_le _) nofun
  | pide =>
    simp only [pasoHijo, hpc] at hs
    refine hi.lockToken hs (hval.deHijoSinFicha (by rw [hpc]; rfl) (by rw [hpc]; nofun) ?_
      (fun _ => rfl) id (fun _ => rfl) rfl rfl rfl) rfl
    simp only [Hijo.fichas, PcHijo.fichas, if_true]
    omega
  | envia => exact inv_envia hi hpc hs
  | chequea =>
    simp only [pasoHijo, hpc] at hs
    cases hs
    refine hi.local (.decidir (fun h1 => ?_) fun _ => ?_) rfl
    · exact hval.sinCierre (by omega) (Nat.zero_le _) nofun rfl
    · exact hval.quedarse (by rw [hpc]; nofun) rfl nofun (Nat.zero_le _) nofun
  | verifica =>
    simp only [pasoHijo, hpc] at hs
    obtain ⟨tengo, -, rfl⟩ := Option.map_eq_some_iff.mp hs
    refine hi.local (.decidir (fun _ => ?_) fun _ => hval.terminar) rfl
    exact hval.avanzar (by rw [hpc]; rfl) (by rw [hpc]; nofun) (Nat.zero_le _) nofun rfl
  | enviaCheck =>
    simp only [pasoHijo, hpc] at hs
    split at hs <;> cases hs
    all_goals
      exact hi.enviar ‹_› rfl (by rw [hpc]; rfl) (by rw [hpc]; nofun) rfl nofun rfl
  | recibeCheck => exact inv_recibeCheck hi hpc hs
  | enviaOk =>
    simp only [pasoHijo, hpc] at hs
    split at hs <;> cases hs
    exact hi.enviar ‹_› rfl (by rw [hpc]; rfl) (by rw [hpc]; nofun) rfl nofun rfl
  | decide => exact inv_decide hi hpc hs
  | extrae =>
    simp only [pasoHijo, hpc] at hs
    refine hi.lockToken hs (hval.deHijoSinFicha (by rw [hpc]; rfl) (by rw [hpc]; nofun) ?_
      (fun _ => rfl) id nofun rfl rfl rfl) rfl
    simp only [Hijo.fichas, PcHijo.fichas]
    omega
  | liberaExtraido =>
    simp only [pasoHijo, hpc] at hs
    cases hs
    have hpos : 0 < (s.conexion c).prestadas := by
      apply hval.debe
      rw [Hijo.fichas, hpc]
      exact Nat.le_add_left _ _
    refine hi.releaseToken (hval.deHijoSinFicha (by rw [hpc]; rfl) (by rw [hpc]; nofun) ?_
      (fun _ => rfl) id nofun rfl rfl rfl) rfl hpos
    simp only [Hijo.fichas, PcHijo.fichas, hpc]
    omega
  | chequeaCierre =>
    simp only [pasoHijo, hpc] at hs
    cases hs
    refine hi.local (.decidir (fun h2 => ?_) fun _ => hval.terminar) rfl
    exact hval.quedarse (by rw [hpc]; nofun) rfl (fun _ => .inl h2) (Nat.zero_le _) nofun
  | verificaCierre =>
    simp only [pasoHijo, hpc] at hs
    obtain ⟨tengo, -, rfl⟩ := Option.map_eq_some_iff.mp hs
    refine hi.local (.decidir (fun _ => ?_) fun _ => hval.terminar) rfl
    exact hval.quedarse (by rw [hpc]; nofun) rfl (fun _ => .inr (by rw [hpc]; rfl))
      (Nat.zero_le _) nofun
  | liberaCierre =>
    simp only [pasoHijo, hpc] at hs
    cases hs
    have hpos : 0 < (s.conexion c).prestadas := by
      simp only [devuelveLoSuyo, hpc, decide_eq_true_eq] at hdevuelve
      exact hdevuelve
    exact hi.releaseToken (hval.recuperar hpc hpos) rfl hpos
  | fin =>
    simp only [pasoHijo, hpc] at hs
    cases hs

omit [NeZero M] in
theorem inv_manejador (hi : Inv P s) (hs : pasoManejador P s c = some t) : Inv P t := by
  have hval := hi.valida c
  unfold pasoManejador at hs
  dsimp only at hs
  split at hs
  · rename_i pc hpc
    have hune : ∀ {b r con}, s.broker.pasoJoin (P.grupo c) (P.nombre c) pc = some (b, r) →
        con.Valida → con.prestadas = (s.conexion c).prestadas →
        Inv P ({ s with broker := b }.set c con) := fun hj hcon hprestadas =>
      hi.cambiar (hi.bien.pasoJoin (P.sinBrokers c) hj) hcon fun g => by
        rw [Broker.saldo_pasoJoin hj, hprestadas]
    split at hs <;> cases hs
    · exact hune ‹_› hval.deManejador rfl
    · exact hune ‹_› hval.deManejador rfl
    · exact hune ‹_› hval.deManejador rfl
  · cases hs

theorem inv_paso {e : Evento ι} (hi : Inv P s) (hdevuelve : devuelveLoSuyo s e = true)
    (hs : paso P s e = some t) : Inv P t := by
  cases e with
  | tokenManager =>
    obtain ⟨b, hb, rfl⟩ := Option.map_eq_some_iff.mp hs
    refine ⟨hi.bien.pasoTokenManager hb, hi.valida, fun g => ?_⟩
    have hcuenta := hi.cuenta g
    rw [← Broker.saldo_pasoTokenManager hi.bien hb g] at hcuenta
    exact hcuenta
  | conectar c =>
    simp only [paso] at hs
    split at hs <;> cases hs
    exact hi.local (hi.valida c).deManejador rfl
  | manejador c => exact inv_manejador hi hs
  | recibir c =>
    obtain ⟨con, hcon, rfl⟩ := Option.map_eq_some_iff.mp hs
    exact hi.local ((hi.valida c).recibirCliente hcon) (prestadas_recibirCliente hcon)
  | liberar c =>
    simp only [paso] at hs
    split at hs <;> cases hs
    rename_i hguarda
    obtain ⟨hactivo, hpos⟩ := hguarda
    refine hi.local ((hi.valida c).deCliente (by rw [hactivo]; nofun) (by rw [hactivo]; nofun) ?_)
      rfl
    -- what the client held is on its socket
    rw [List.map_append, List.sum_append, List.map_singleton, List.sum_singleton]
    simp only [Peticion.fichas]
    omega
  | leave c =>
    simp only [paso] at hs
    split at hs <;> cases hs
    rename_i hactivo
    refine hi.local ((hi.valida c).deCliente (by rw [hactivo]; nofun) nofun ?_) rfl
    rw [List.map_append, List.sum_append, List.map_singleton, List.sum_singleton]
    simp only [Peticion.fichas]
    omega
  | cerrar c =>
    simp only [paso] at hs
    split at hs <;> cases hs
    exact hi.local (hi.valida c).cerrar rfl
  | padre c falla =>
    simp only [paso] at hs
    split at hs
    · exact inv_padre hi hs
    · cases hs
  | hijo c falla =>
    simp only [paso] at hs
    split at hs
    · exact inv_hijo hi hdevuelve hs
    · cases hs
  | senal c interrumpe =>
    simp only [paso] at hs
    split at hs
    · cases hs
    · split at hs <;> cases hs
      exact hi.local ((hi.valida c).senalado interrumpe) rfl

omit [DecidableEq ι] [DecidableEq ν] in
theorem inv_inicial (P : Parametros ι ν) : Inv P (inicial : Estado ι M ν) where
  bien := Broker.bien_inicial
  valida _ := ⟨Nat.le_refl _, nofun, nofun, nofun, nofun, nofun⟩
  cuenta g := by
    have hprestadas : ∑ c, (if P.grupo c = g then
        ((inicial : Estado ι M ν).conexion c).prestadas else 0) = 0 :=
      Finset.sum_eq_zero fun _ _ => ite_self 0
    rw [hprestadas]
    show (Broker.inicial : Broker M ν).saldo P.toConfig g + 0 ≤ 1
    rw [Broker.saldo_inicial]
    exact Broker.valorInicial_le _ g

end Pasos

/-- The tokens of group `g` that exist. -/
def Estado.fichas (P : Parametros ι ν) (s : Estado ι M ν) (g : Nat) : Nat :=
  s.broker.fichas P.toConfig g + ∑ c, if P.grupo c = g then (s.conexion c).fichas else 0

omit [DecidableEq ι] in
/-- Every token of a connection is one that its handler owes. -/
theorem Inv.fichas_le (hi : Inv P s) (g : Nat) : s.fichas P g ≤ 1 := by
  have hbroker : s.broker.fichas P.toConfig g ≤ s.broker.saldo P.toConfig g :=
    Nat.le_add_right _ _
  have hconexiones : ∑ c, (if P.grupo c = g then (s.conexion c).fichas else 0) ≤
      ∑ c, if P.grupo c = g then (s.conexion c).prestadas else 0 := by
    apply Finset.sum_le_sum
    intro c _
    split
    · exact (hi.valida c).cubierta
    · exact Nat.le_refl _
  have hcuenta := hi.cuenta g
  unfold Estado.fichas
  omega

/-- A release of a token that no process or client holds makes one. -/
theorem Estado.fichas_releaseToken {con : Conexion M}
    (hfichas : Conexion.fichas { con with prestadas := con.prestadas - 1 } =
      (s.conexion c).fichas) :
    (s.releaseToken P c con).fichas P (P.grupo c) = s.fichas P (P.grupo c) + 1 := by
  have hsaldo : (s.broker.releaseToken (P.grupo c)).saldo P.toConfig (P.grupo c) =
      s.broker.saldo P.toConfig (P.grupo c) + 1 := by
    rw [Broker.saldo_releaseToken, if_pos rfl]
  unfold Broker.saldo at hsaldo
  change _ + (if s.broker.creado (P.grupo c) then 0 else _) = _ at hsaldo
  have hsuma := Sumas.suma_update
    (fun x (con : Conexion M) => if P.grupo x = P.grupo c then con.fichas else 0) s.conexion
    (Finset.mem_univ c) { con with prestadas := con.prestadas - 1 }
  rw [if_pos rfl, if_pos rfl, hfichas] at hsuma
  unfold Estado.fichas Estado.releaseToken Estado.set
  dsimp only at hsuma ⊢
  omega

/-- The release that the condition leaves out makes a token. -/
theorem Inv.releaseToken_de_mas [DecidableEq ν] [NeZero M] {falla : Bool}
    (hi : Inv P s) (hpc : (s.conexion c).hijo.pc = .liberaCierre)
    (hnada : (s.conexion c).prestadas = 0) (hs : paso P s (.hijo c falla) = some t) :
    t.fichas P (P.grupo c) = s.fichas P (P.grupo c) + 1 := by
  have hcub := (hi.valida c).cubierta
  simp only [paso] at hs
  split at hs
  case h_2 => cases hs
  simp only [pasoHijo, hpc] at hs
  cases hs
  apply Estado.fichas_releaseToken
  rw [hnada, Conexion.fichas, Hijo.fichas, hpc] at hcub
  simp only [Conexion.fichas, Hijo.fichas, PcHijo.fichas, hpc, Bool.false_eq_true, if_false] at hcub ⊢
  omega

/-- There is at most one token in every run in which no child gives back a token that its handler
    does not owe. -/
theorem semaforo_una_ficha [NeZero M] [DecidableEq ν] (P : Parametros ι ν) (s : Estado ι M ν)
    (hs : AlcanzaBajo (fun s e => devuelveLoSuyo s e = true) (paso P) inicial s) (g : Nat) :
    s.fichas P g ≤ 1 := by
  have hi : Inv P s := by
    apply AlcanzaBajo.induccion hs (inv_inicial P)
    intro a e b ha hdevuelve hb
    exact inv_paso ha hdevuelve hb
  exact hi.fichas_le g

end Inv

/-! ## A client that closes after it has freed the token -/

def unCliente : Parametros (Fin 1) Nat where
  esBroker _ := false
  grupos g := if g = 0 then some (0, 1) else none
  nombre _ := 0
  sinBrokers _ := rfl
  grupo _ := 0

/-- The client has the token and closes; the child gives it back. -/
def cierraConFicha (c : ι) : List (Evento ι) :=
  [.conectar c, .manejador c, .tokenManager, .tokenManager, .tokenManager, .tokenManager,
    .manejador c, .manejador c, .manejador c, .manejador c, .tokenManager, .tokenManager,
    .tokenManager, .tokenManager, .hijo c false, .hijo c false, .hijo c false, .recibir c,
    .hijo c false, .cerrar c, .padre c false, .padre c false, .padre c false, .padre c false,
    .senal c true, .hijo c false, .hijo c false, .hijo c false, .hijo c false, .hijo c false]

theorem semaforo_una_ficha_cierra_con_ficha :
    ∃ s : Estado (Fin 1) 2 Nat, s.broker.colaTokenManager = [.token 0] ∧
      s.fichas unCliente 0 ≤ 1 := by
  have hrun : (correr (pasoBajo (fun (s : Estado (Fin 1) 2 Nat) e => devuelveLoSuyo s e = true)
      (paso unCliente)) inicial (cierraConFicha 0)).map (fun s => s.broker.colaTokenManager) =
      some [.token 0] := by decide +kernel
  obtain ⟨s, hs, hcola⟩ := Option.map_eq_some_iff.mp hrun
  exact ⟨s, hcola, semaforo_una_ficha unCliente s ⟨cierraConFicha 0, hs⟩ 0⟩

/-- The client frees the token before it closes.  The token manager has not passed it on yet, so the
    slot of the client is still the last one, and the child gives it back once more. -/
def cierraSinFicha (c : ι) : List (Evento ι) :=
  [.conectar c, .manejador c, .tokenManager, .tokenManager, .tokenManager, .tokenManager,
    .manejador c, .manejador c, .manejador c, .manejador c, .tokenManager, .tokenManager,
    .tokenManager, .tokenManager, .hijo c false, .hijo c false, .hijo c false, .recibir c,
    .hijo c false, .liberar c, .padre c false, .padre c false, .cerrar c, .padre c false,
    .padre c false, .padre c false, .padre c false, .senal c true, .hijo c false, .hijo c false,
    .hijo c false, .hijo c false, .hijo c false]

theorem semaforo_dos_fichas :
    ¬ ∀ s : Estado (Fin 1) 2 Nat, Alcanza (paso unCliente) inicial s →
      s.fichas unCliente 0 ≤ 1 := by
  intro h
  have hrun : (correr (paso unCliente) (inicial : Estado (Fin 1) 2 Nat)
      (cierraSinFicha 0)).map
      (fun s => s.fichas unCliente 0) = some 2 := by decide +kernel
  obtain ⟨s, hs, hfichas⟩ := Option.map_eq_some_iff.mp hrun
  have hle := h s ⟨cierraSinFicha 0, hs⟩
  omega

end ClientHandler
