import Aeropuerto.Biblioteca.Bloques
import Aeropuerto.Biblioteca.Ejecucion
import Aeropuerto.Broker.Fragmentacion
import Aeropuerto.Broker.GrupoMutex

/-!
# Queries about a token that is being sent (`GroupSender`, `GroupReceiver`, `grupo.cpp`)

The sender of a group is the client of its `localbroker` slot.  It sends the token, and the replicas of
the memory, with `send_token`.  The receiver asks in `avisar_si_se_esta_enviando_token` for a notice
TOKEN_IN_TRANSIT if the token is being sent.  Each section of the mutex of the group is one step.
-/

namespace ConsultaToken

open Ejecucion Bloques
open Fragmentacion (dataSize)
open GrupoMutex (Operacion Objeto Resultado)

inductive Tipo where
  | tokenDeliver
  | memoryUpdate
  | tokenInTransit
  | tokenOk
  deriving DecidableEq

/-- `GroupSender::loop_token` and `send_token`. -/
inductive PcSender where
  -- at lock_token
  | espera
  -- at the test of the loop, after `i` blocks
  | bloque (tipo i : Nat)
  -- at tengo_que_avisar_envio
  | pregunta
  -- about to push TOKEN_IN_TRANSIT
  | avisa
  -- at el_token_se_envio
  | termina
  deriving DecidableEq

/-- `GroupReceiver::recv_token` on a query. -/
inductive PcReceptor where
  | libre
  -- tengo_el_token was false
  | avisa
  deriving DecidableEq

/-- The names that are of brokers, the slot of the sender and the size of the memory. -/
structure Parametros (M : Nat) (ν : Type) where
  esBroker : ν → Bool
  slot : Fin M
  tamanio : Nat

structure Estado (M : Nat) (ν : Type) where
  grupo : Grupo M ν
  -- the object Grupo of the token manager
  manager : Objeto M
  sender : PcSender
  -- mensaje.tipo of the sender
  tipo : Tipo
  receptor : PcReceptor
  -- what the sender and the receiver have pushed
  anillo : List Tipo

/-- The client table when the run begins: the sender has joined. -/
structure Tabla {M : Nat} {ν : Type} (P : Parametros M ν) where
  clientNames : Fin M → Option ν
  cantClientes : Nat
  solo : ∀ k, (clientNames k).any P.esBroker = true ↔ k = P.slot

inductive Evento (ν : Type) where
  -- the token manager, for a token that was released
  | replicarBrokers
  | pasarTokenAProximoCliente
  | sender
  -- the receiver, on a query that is not for a leader
  | receptor
  -- another client joins or leaves
  | cliente (op : Operacion ν)

section

variable {M : Nat} {ν : Type} [DecidableEq ν] [NeZero M] {P : Parametros M ν}

def inicial (tabla : Tabla P) : Estado M ν where
  grupo := { (Grupo.crear P.tamanio : Grupo M ν) with
    clientNames := tabla.clientNames
    cantClientes := tabla.cantClientes }
  manager := ⟨0, 0⟩
  sender := .espera
  tipo := .tokenDeliver
  receptor := .libre
  anillo := []

/-- A whole section: what it leaves in the group, in the object of the caller and in its hands. -/
def seccion (P : Parametros M ν) (s : Estado M ν) (op : Operacion ν) :
    Option (Grupo M ν × Objeto M × Resultado M) :=
  s.grupo.waitOn.map fun g => op.seccion P.esBroker g s.manager

/-- The type of the blocks of `send_token`. -/
def tipoDe (tipo : Nat) (anterior : Tipo) : Tipo :=
  if tipo = 1 then .tokenDeliver else if tipo = 2 then .memoryUpdate else anterior

def Resultado.esCierto : Resultado M → Bool
  | .valor b => b
  | _ => false

/-- `cantidad_de_bloques_por_token`. -/
def Parametros.bloques (P : Parametros M ν) : Nat := cantidad dataSize P.tamanio

def pasoSender (P : Parametros M ν) (s : Estado M ν) : Option (Estado M ν) :=
  match s.sender with
  | .espera =>
    (s.grupo.lockToken P.slot).map fun r =>
      { s with grupo := r.1, sender := .bloque r.2 0, tipo := tipoDe r.2 s.tipo }
  | .bloque tipo i =>
    if i < P.bloques then some { s with sender := .bloque tipo (i + 1), anillo := s.anillo ++ [s.tipo] }
    else some { s with sender := .pregunta }
  | .pregunta =>
    (seccion P s .tengoQueAvisarEnvio).map fun r =>
      { s with grupo := r.1, sender := if Resultado.esCierto r.2.2 then .avisa else .termina }
  | .avisa =>
    some { s with
      sender := .termina
      tipo := .tokenInTransit
      anillo := s.anillo ++ [.tokenInTransit] }
  | .termina =>
    (seccion P s .elTokenSeEnvio).map fun r => { s with grupo := r.1, sender := .espera }

def pasoReceptor (P : Parametros M ν) (s : Estado M ν) : Option (Estado M ν) :=
  match s.receptor with
  | .libre =>
    (seccion P s .tengoElToken).map fun r =>
      if Resultado.esCierto r.2.2 then { s with grupo := r.1, anillo := s.anillo ++ [.tokenOk] }
      else { s with grupo := r.1, receptor := .avisa }
  | .avisa =>
    (seccion P s .avisarSiSeEstaEnviandoToken).map fun r =>
      { s with grupo := r.1, receptor := .libre }

/-- The calls of the clients that are not brokers; a name is registered once. -/
def deCliente (P : Parametros M ν) (g : Grupo M ν) : Operacion ν → Bool
  | .join nombre => !P.esBroker nombre && !g.lockedYaEstaCliente nombre
  | .leave nombre => !P.esBroker nombre
  | _ => false

def paso (P : Parametros M ν) (s : Estado M ν) : Evento ν → Option (Estado M ν)
  | .replicarBrokers =>
    if Operacion.replicarBrokers.sinSeccion s.grupo then some s
    else (seccion P s .replicarBrokers).map fun r => { s with grupo := r.1 }
  | .pasarTokenAProximoCliente =>
    (seccion P s .pasarTokenAProximoCliente).map fun r => { s with grupo := r.1, manager := r.2.1 }
  | .sender => pasoSender P s
  | .receptor => pasoReceptor P s
  | .cliente op =>
    if deCliente P s.grupo op then (seccion P s op).map fun r => { s with grupo := r.1 } else none

/-! ## Announced sends -/

/-- The blocks of a token are not all pushed. -/
def PcSender.enviando (P : Parametros M ν) : PcSender → Bool
  | .bloque tipo i => tipo = 1 && decide (i < P.bloques)
  | _ => false

/-- The slot of the sender has been selected and the blocks are not all pushed. -/
def pendiente (P : Parametros M ν) (s : Estado M ν) : Bool :=
  decide (1 ∈ s.grupo.cola P.slot) || s.sender.enviando P

/-- While a token is to be sent, `token_enviado` says so. -/
def EnvioAnunciado (P : Parametros M ν) (s : Estado M ν) : Prop :=
  pendiente P s = true → s.grupo.tokenEnviado = 0

/-- The notices pushed. -/
def avisos (s : Estado M ν) : Nat := s.anillo.count .tokenInTransit

/-- The receiver is at a call of `avisar_si_se_esta_enviando_token` that sets `avisar_envio`. -/
def pideAviso (s : Estado M ν) : Bool :=
  s.receptor = .avisa && (s.grupo.tengoTokenGrupo = 0 && s.grupo.tokenEnviado = 0)

def Evento.esSender : Evento ν → Bool
  | .sender => true
  | _ => false

/-- After the call: a notice is pushed before `avisar_envio` is clear again, and after some steps of the
    sender, which meanwhile never blocks. -/
def Contestada (P : Parametros M ν) (t : Estado M ν) : Prop :=
  ∀ evs u, correr (paso P) t evs = some u →
    (u.grupo.avisarEnvio = 0 → avisos t < avisos u) ∧
      (P.bloques + 4 ≤ evs.countP Evento.esSender → avisos t < avisos u) ∧
        (avisos t < avisos u ∨ (paso P u .sender).isSome = true)

/-- `el_token_se_envio` does not come while a token is to be sent. -/
def sinPendiente (P : Parametros M ν) (s : Estado M ν) : Evento ν → Bool
  | .sender => s.sender ≠ .termina || !pendiente P s
  | _ => true

/-! ## Sections of the other processes -/

/-- What the group owes to the sender. -/
structure Ajena (P : Parametros M ν) (g g' : Grupo M ν) : Prop where
  mutex : g'.mutexAsignado = 1
  solo : ∀ k, (g'.clientNames k).any P.esBroker = true ↔ k = P.slot
  cola : ∀ tipo ∈ g.cola P.slot, tipo ∈ g'.cola P.slot
  -- either the slot of the sender is not selected, or it is
  token : g'.tokenEnviado = g.tokenEnviado ∧ (1 ∈ g'.cola P.slot → 1 ∈ g.cola P.slot) ∨
    g'.tokenEnviado = 0 ∧ 1 ∈ g'.cola P.slot
  aviso : g'.avisarEnvio = g.avisarEnvio ∨ g'.avisarEnvio = 1 ∧ g.tokenEnviado = 0

variable {s t u : Estado M ν} {g g' : Grupo M ν}

/-- The group between two sections. -/
structure Libre (P : Parametros M ν) (g : Grupo M ν) : Prop where
  mutex : g.mutexAsignado = 1
  solo : ∀ k, (g.clientNames k).any P.esBroker = true ↔ k = P.slot

omit [DecidableEq ν] [NeZero M] in
theorem Libre.signalize (h : Libre P g) : { g with mutexAsignado := 0 }.signalize = g := by
  have hmutex := h.mutex
  cases g
  simp only at hmutex
  subst hmutex
  rfl

theorem Libre.seccion (h : Libre P s.grupo) (op : Operacion ν) :
    seccion P s op = some (op.seccion P.esBroker { s.grupo with mutexAsignado := 0 } s.manager) := by
  unfold ConsultaToken.seccion Grupo.waitOn
  rw [if_pos (by rw [h.mutex]; exact Nat.one_pos), h.mutex]
  rfl

omit [DecidableEq ν] [NeZero M] in
theorem Libre.ajena (h : Libre P g) : Ajena P g g :=
  ⟨h.mutex, h.solo, fun _ h => h, .inl ⟨rfl, fun h => h⟩, .inl rfl⟩

omit [DecidableEq ν] [NeZero M] in
/-- A message of another type, or for another slot. -/
theorem Libre.ajena_push (h : Libre P g) (k : Fin M) (tipo : Nat) (hk : k = P.slot → tipo ≠ 1) :
    Ajena P g (g.push k tipo) where
  mutex := h.mutex
  solo := h.solo
  cola := by
    intro m hm
    show m ∈ Function.update g.cola k (g.cola k ++ [tipo]) P.slot
    by_cases hslot : P.slot = k
    · subst hslot
      rw [Function.update_self]
      exact List.mem_append_left _ hm
    · rwa [Function.update_of_ne hslot]
  token := by
    refine .inl ⟨rfl, fun hm => ?_⟩
    change 1 ∈ Function.update g.cola k (g.cola k ++ [tipo]) P.slot at hm
    by_cases hslot : P.slot = k
    · subst hslot
      rw [Function.update_self, List.mem_append, List.mem_singleton] at hm
      exact hm.resolve_right fun h1 => hk rfl h1.symm
    · rwa [Function.update_of_ne hslot] at hm
  aviso := .inl rfl

theorem Libre.ajena_replicarBrokers (h : Libre P g) (o : Objeto M) :
    Ajena P g (Operacion.replicarBrokers.seccion P.esBroker { g with mutexAsignado := 0 } o).1 := by
  show Ajena P g (({ g with mutexAsignado := 0 } : Grupo M ν).replicarBrokers P.esBroker)
  unfold Grupo.replicarBrokers
  split
  · split
    · rename_i j _
      have hpush := h.ajena_push j 2 fun _ => by decide
      exact ⟨rfl, hpush.solo, hpush.cola, hpush.token, hpush.aviso⟩
    · rw [h.signalize]
      exact h.ajena
  · rw [h.signalize]
    exact h.ajena

theorem Libre.ajena_pasarToken (h : Libre P g) (o : Objeto M) :
    Ajena P g (Operacion.pasarTokenAProximoCliente.seccion P.esBroker { g with mutexAsignado := 0 } o).1 := by
  show Ajena P g (({ g with mutexAsignado := 0, clienteActual := o.clienteActual } :
    Grupo M ν).pasarTokenAProximoCliente P.esBroker)
  unfold Grupo.pasarTokenAProximoCliente
  generalize ({ g with mutexAsignado := 0, clienteActual := o.clienteActual } :
    Grupo M ν).proximoCliente = actual
  by_cases hactual : actual = P.slot
  · -- the slot of the sender is selected
    have hbroker := (h.solo actual).mpr hactual
    simp only [hbroker, if_true]
    have hcola : 1 ∈ Function.update g.cola actual (g.cola actual ++ [1]) P.slot := by
      rw [hactual, Function.update_self]
      exact List.mem_append_right _ (List.mem_singleton_self 1)
    refine ⟨rfl, h.solo, fun tipo htipo => ?_, .inr ⟨rfl, hcola⟩, .inl rfl⟩
    show tipo ∈ Function.update g.cola actual (g.cola actual ++ [1]) P.slot
    rw [hactual, Function.update_self]
    exact List.mem_append_left _ htipo
  · have hno : (g.clientNames actual).any P.esBroker = false := by
      rw [← Bool.not_eq_true]
      exact fun hb => hactual ((h.solo actual).mp hb)
    simp only [hno, Bool.false_eq_true, if_false]
    have hpush := h.ajena_push actual 1 fun he => absurd he hactual
    exact ⟨rfl, hpush.solo, hpush.cola, hpush.token, hpush.aviso⟩

omit [DecidableEq ν] [NeZero M] in
/-- The slot of a client that is not a broker changes hands. -/
theorem Libre.solo_update (h : Libre P g) {i : Fin M} {nombre : Option ν}
    (hantes : (g.clientNames i).any P.esBroker = false) (hnombre : nombre.any P.esBroker = false)
    (k : Fin M) : (Function.update g.clientNames i nombre k).any P.esBroker = true ↔ k = P.slot := by
  by_cases hk : k = i
  · subst hk
    rw [Function.update_self, hnombre, ← h.solo k, hantes]
  · rw [Function.update_of_ne hk]
    exact h.solo k

theorem Libre.ajena_cliente (h : Libre P g) (o : Objeto M) {op : Operacion ν}
    (hop : deCliente P g op = true) :
    Ajena P g (op.seccion P.esBroker { g with mutexAsignado := 0 } o).1 := by
  cases op with
  | join nombre =>
    rw [deCliente, Bool.and_eq_true, Bool.not_eq_true'] at hop
    unfold Operacion.seccion
    dsimp only
    split
    · rw [h.signalize]
      exact h.ajena
    · split
      · rename_i i hi
        unfold Grupo.primeraLibre at hi
        have hlibre : g.clientNames i = none := by simpa using List.find?_some hi
        refine ⟨rfl, h.solo_update ?_ hop.1, fun _ h => h, .inl ⟨rfl, fun h => h⟩, .inl rfl⟩
        rw [hlibre, Option.any_none]
      · rw [h.signalize]
        exact h.ajena
  | leave nombre =>
    rw [deCliente, Bool.not_eq_true'] at hop
    show Ajena P g (({ g with mutexAsignado := 0 } : Grupo M ν).leave nombre)
    unfold Grupo.leave
    split
    · rename_i i hi
      have hnombre : g.clientNames i = some nombre := by simpa using List.find?_some hi
      refine ⟨rfl, h.solo_update ?_ rfl, fun _ h => h, .inl ⟨rfl, fun h => h⟩, .inl rfl⟩
      rw [hnombre, Option.any_some, hop]
    · rw [h.signalize]
      exact h.ajena
  | _ => cases hop

theorem Libre.ajena_avisarSi (h : Libre P g) (o : Objeto M) :
    Ajena P g (Operacion.avisarSiSeEstaEnviandoToken.seccion P.esBroker { g with mutexAsignado := 0 } o).1 := by
  unfold Operacion.seccion
  dsimp only
  split
  · rename_i henvia
    exact ⟨rfl, h.solo, fun _ h => h, .inl ⟨rfl, fun h => h⟩, .inr ⟨rfl, henvia.2⟩⟩
  · rw [h.signalize]
    exact h.ajena

/-! ## One step -/

/-- A step that is not of the sender. -/
structure PasoAjeno (P : Parametros M ν) (s t : Estado M ν) : Prop where
  sender : t.sender = s.sender
  avisos : avisos t = avisos s
  grupo : Ajena P s.grupo t.grupo

omit [DecidableEq ν] [NeZero M] in
theorem avisos_append (tipo : Tipo) (h : tipo ≠ .tokenInTransit) (hanillo : t.anillo = s.anillo ++ [tipo]) :
    avisos t = avisos s := by
  unfold avisos
  rw [hanillo, List.count_append, List.count_singleton, if_neg (by simpa using h), Nat.add_zero]

theorem pasoAjeno {e : Evento ν} (hlibre : Libre P s.grupo) (he : e.esSender = false)
    (h : paso P s e = some t) : PasoAjeno P s t := by
  cases e with
  | sender => cases he
  | replicarBrokers =>
    unfold paso at h
    dsimp only at h
    split at h
    · cases h
      exact ⟨rfl, rfl, hlibre.ajena⟩
    · rw [hlibre.seccion] at h
      cases h
      exact ⟨rfl, rfl, hlibre.ajena_replicarBrokers s.manager⟩
  | pasarTokenAProximoCliente =>
    unfold paso at h
    dsimp only at h
    rw [hlibre.seccion] at h
    cases h
    exact ⟨rfl, rfl, hlibre.ajena_pasarToken s.manager⟩
  | receptor =>
    unfold paso pasoReceptor at h
    dsimp only at h
    split at h
    · rw [hlibre.seccion, Option.map_some] at h
      split at h
      · cases h
        refine ⟨rfl, avisos_append .tokenOk (by simp) rfl, ?_⟩
        show Ajena P s.grupo ({ s.grupo with mutexAsignado := 0 } : Grupo M ν).signalize
        rw [hlibre.signalize]
        exact hlibre.ajena
      · cases h
        refine ⟨rfl, rfl, ?_⟩
        show Ajena P s.grupo ({ s.grupo with mutexAsignado := 0 } : Grupo M ν).signalize
        rw [hlibre.signalize]
        exact hlibre.ajena
    · rw [hlibre.seccion] at h
      cases h
      exact ⟨rfl, rfl, hlibre.ajena_avisarSi s.manager⟩
  | cliente op =>
    unfold paso at h
    dsimp only at h
    split at h
    case isFalse => cases h
    rename_i hop
    rw [hlibre.seccion] at h
    cases h
    exact ⟨rfl, rfl, hlibre.ajena_cliente s.manager hop⟩

theorem pasoSender_pregunta (hlibre : Libre P s.grupo) (hpc : s.sender = .pregunta) :
    pasoSender P s =
      some { s with sender := if s.grupo.avisarEnvio = 1 then .avisa else .termina } := by
  unfold pasoSender
  simp only [hpc]
  rw [hlibre.seccion, Option.map_some]
  congr 1
  show { s with
    grupo := ({ s.grupo with mutexAsignado := 0 } : Grupo M ν).signalize
    sender := if decide (s.grupo.avisarEnvio = 1) = true then PcSender.avisa else .termina } = _
  rw [hlibre.signalize]
  simp only [decide_eq_true_eq]

theorem pasoSender_termina (hlibre : Libre P s.grupo) (hpc : s.sender = .termina) :
    pasoSender P s =
      some { s with grupo := { s.grupo with tokenEnviado := 1, avisarEnvio := 0 }, sender := .espera } := by
  unfold pasoSender
  simp only [hpc]
  rw [hlibre.seccion, Option.map_some]
  have hmutex := hlibre.mutex
  congr 1
  show { s with
    grupo := { s.grupo with mutexAsignado := 1, tokenEnviado := 1, avisarEnvio := 0 }
    sender := .espera } = _
  rw [← hmutex]

/-- The sender before `el_token_se_envio`: the token that it still has to send was pending, and it leaves
    the flags of the group. -/
structure Avanza (P : Parametros M ν) (s t : Estado M ν) : Prop where
  libre : Libre P t.grupo
  pendiente : pendiente P t = true → pendiente P s = true
  tokenEnviado : t.grupo.tokenEnviado = s.grupo.tokenEnviado
  avisarEnvio : t.grupo.avisarEnvio = s.grupo.avisarEnvio
  sender : t.sender ≠ .espera

omit [DecidableEq ν] [NeZero M] in
theorem pendiente_iff : pendiente P s = true ↔ 1 ∈ s.grupo.cola P.slot ∨ s.sender.enviando P = true := by
  unfold pendiente
  rw [Bool.or_eq_true, decide_eq_true_eq]

theorem avanza (hlibre : Libre P s.grupo) (hpc : s.sender ≠ .termina) (h : pasoSender P s = some t) :
    Avanza P s t := by
  cases hs : s.sender with
  | espera =>
    unfold pasoSender at h
    simp only [hs] at h
    obtain ⟨⟨g, tipo⟩, hlock, rfl⟩ := Option.map_eq_some_iff.mp h
    obtain ⟨resto, hcola, rfl⟩ := Grupo.lockToken_eq_some hlock
    refine ⟨⟨hlibre.mutex, hlibre.solo⟩, fun hpend => ?_, rfl, rfl, nofun⟩
    rw [pendiente_iff] at hpend ⊢
    left
    rw [hcola]
    rcases hpend with hmem | henvia
    · dsimp only at hmem
      rw [Function.update_self] at hmem
      exact List.mem_cons_of_mem _ hmem
    · unfold PcSender.enviando at henvia
      dsimp only at henvia
      rw [Bool.and_eq_true, decide_eq_true_eq] at henvia
      rw [henvia.1]
      exact List.mem_cons_self
  | bloque tipo i =>
    unfold pasoSender at h
    simp only [hs] at h
    split at h
    · rename_i hi
      cases h
      refine ⟨hlibre, fun hpend => ?_, rfl, rfl, nofun⟩
      rw [pendiente_iff, hs] at *
      refine hpend.imp_right fun henvia => ?_
      unfold PcSender.enviando at henvia ⊢
      dsimp only at henvia ⊢
      rw [Bool.and_eq_true, decide_eq_true_eq] at henvia ⊢
      exact ⟨henvia.1, decide_eq_true hi⟩
    · cases h
      refine ⟨hlibre, fun hpend => ?_, rfl, rfl, nofun⟩
      rw [pendiente_iff] at *
      exact .inl (hpend.resolve_right nofun)
  | pregunta =>
    rw [pasoSender_pregunta hlibre hs] at h
    cases h
    refine ⟨hlibre, fun hpend => ?_, rfl, rfl, ?_⟩
    · rw [pendiente_iff] at *
      refine .inl (hpend.resolve_right ?_)
      dsimp only
      split <;> nofun
    · dsimp only
      split <;> nofun
  | avisa =>
    unfold pasoSender at h
    simp only [hs] at h
    cases h
    refine ⟨hlibre, fun hpend => ?_, rfl, rfl, nofun⟩
    rw [pendiente_iff] at *
    exact .inl (hpend.resolve_right nofun)
  | termina => exact absurd hs hpc

/-! ## Every run -/

structure Inv (P : Parametros M ν) (s : Estado M ν) : Prop where
  libre : Libre P s.grupo
  -- a token that is being sent is at the sender or in its queue
  porVenir : s.grupo.tokenEnviado = 0 → s.sender = .espera → 1 ∈ s.grupo.cola P.slot
  aviso : s.grupo.avisarEnvio = 1 → s.grupo.tokenEnviado = 0

omit [DecidableEq ν] in
theorem inv_inicial (tabla : Tabla P) : Inv P (inicial tabla) where
  libre := ⟨rfl, tabla.solo⟩
  porVenir := nofun
  aviso := nofun

omit [DecidableEq ν] [NeZero M] in
theorem Inv.ajeno (hi : Inv P s) (h : PasoAjeno P s t) : Inv P t where
  libre := ⟨h.grupo.mutex, h.grupo.solo⟩
  porVenir := by
    intro henvia hpc
    rw [h.sender] at hpc
    rcases h.grupo.token with ⟨hmismo, -⟩ | ⟨-, hmem⟩
    · exact h.grupo.cola 1 (hi.porVenir (hmismo ▸ henvia) hpc)
    · exact hmem
  aviso := by
    intro haviso
    rcases h.grupo.token with ⟨hmismo, -⟩ | ⟨hcero, -⟩
    · rw [hmismo]
      rcases h.grupo.aviso with havisar | ⟨-, henvia⟩
      · exact hi.aviso (havisar ▸ haviso)
      · exact henvia
    · exact hcero

theorem Inv.sender (hi : Inv P s) (h : pasoSender P s = some t) : Inv P t := by
  by_cases hpc : s.sender = .termina
  · rw [pasoSender_termina hi.libre hpc] at h
    cases h
    exact ⟨⟨hi.libre.mutex, hi.libre.solo⟩, nofun, nofun⟩
  · have hav := avanza hi.libre hpc h
    refine ⟨hav.libre, fun _ hesp => absurd hesp hav.sender, fun haviso => ?_⟩
    rw [hav.tokenEnviado]
    exact hi.aviso (hav.avisarEnvio ▸ haviso)

theorem inv_paso {e : Evento ν} (hi : Inv P s) (h : paso P s e = some t) : Inv P t := by
  cases he : e.esSender with
  | false => exact hi.ajeno (pasoAjeno hi.libre he h)
  | true =>
    cases e with
    | sender => exact hi.sender h
    | _ => cases he

/-- The step meets the condition exactly where the sends stay announced. -/
theorem anunciado_paso {e : Evento ν} (hi : Inv P s) (hs : EnvioAnunciado P s)
    (h : paso P s e = some t) : EnvioAnunciado P t ↔ sinPendiente P s e = true := by
  cases he : e.esSender with
  | false =>
    have hajeno := pasoAjeno hi.libre he h
    have hsi : sinPendiente P s e = true := by
      cases e with
      | sender => cases he
      | _ => rfl
    refine ⟨fun _ => hsi, fun _ hpend => ?_⟩
    rcases hajeno.grupo.token with ⟨hmismo, hmem⟩ | ⟨hcero, -⟩
    · rw [hmismo]
      apply hs
      rw [pendiente_iff, hajeno.sender] at *
      exact hpend.imp_left hmem
    · exact hcero
  | true =>
    cases e with
    | sender =>
      unfold sinPendiente
      dsimp only
      by_cases hpc : s.sender = .termina
      · have ht := (pasoSender_termina hi.libre hpc).symm.trans h
        cases ht
        -- now token_enviado is 1, and the queue is what it was
        rw [decide_eq_false (by simpa using hpc), Bool.false_or, Bool.not_eq_true', ← Bool.not_eq_true]
        constructor
        · intro hanuncia hpend
          rw [pendiente_iff, hpc] at hpend
          have hmem := hpend.resolve_right nofun
          exact absurd (hanuncia (pendiente_iff.mpr (.inl hmem))) nofun
        · intro hno hpend
          rw [pendiente_iff] at hpend
          have hmem := hpend.resolve_right nofun
          exact (hno (pendiente_iff.mpr (.inl hmem))).elim
      · rw [decide_eq_true hpc, Bool.true_or]
        have hav := avanza hi.libre hpc h
        refine ⟨fun _ => rfl, fun _ hpend => ?_⟩
        rw [hav.tokenEnviado]
        exact hs (hav.pendiente hpend)
    | _ => cases he

/-! ## The answer to a query -/

/-- The steps of the sender until it has pushed a notice. -/
def PcSender.faltan (P : Parametros M ν) : PcSender → Nat
  | .espera => P.bloques + 4
  | .bloque _ i => (P.bloques - i) + 3
  | .pregunta => 2
  | .avisa => 1
  | .termina => 0

/-- The sender has not passed its test of `avisar_envio`, which is set. -/
structure EnCamino (P : Parametros M ν) (s : Estado M ν) : Prop where
  inv : Inv P s
  avisar : s.grupo.avisarEnvio = 1
  sender : s.sender ≠ .termina

omit [DecidableEq ν] [NeZero M] in
theorem EnCamino.ajeno (h : EnCamino P s) (ha : PasoAjeno P s t) : EnCamino P t where
  inv := h.inv.ajeno ha
  avisar := by
    rcases ha.grupo.aviso with havisar | ⟨huno, -⟩
    · rw [havisar, h.avisar]
    · exact huno
  sender := ha.sender ▸ h.sender

omit [DecidableEq ν] [NeZero M] in
theorem avisos_push (tipo : Tipo) (h : t.anillo = s.anillo ++ [tipo]) :
    avisos t = avisos s + 1 ∨ avisos t = avisos s := by
  by_cases htipo : tipo = .tokenInTransit
  · left
    unfold avisos
    rw [h, htipo, List.count_append, List.count_singleton_self]
  · exact .inr (avisos_append tipo htipo h)

/-- A step of the sender pushes a notice or brings it nearer. -/
theorem EnCamino.paso_sender (h : EnCamino P s) (hs : pasoSender P s = some t) :
    avisos t = avisos s + 1 ∨
      avisos t = avisos s ∧ EnCamino P t ∧ t.sender.faltan P + 1 = s.sender.faltan P := by
  have hinv := h.inv.sender hs
  have havisar : t.grupo.avisarEnvio = 1 :=
    (avanza h.inv.libre h.sender hs).avisarEnvio.trans h.avisar
  cases hpc : s.sender with
  | espera =>
    unfold pasoSender at hs
    simp only [hpc] at hs
    obtain ⟨r, -, rfl⟩ := Option.map_eq_some_iff.mp hs
    exact .inr ⟨rfl, ⟨hinv, havisar, nofun⟩, rfl⟩
  | bloque tipo i =>
    unfold pasoSender at hs
    simp only [hpc] at hs
    split at hs
    · rename_i hi
      cases hs
      refine (avisos_push s.tipo rfl).imp_right fun hmismo => ⟨hmismo, ⟨hinv, havisar, nofun⟩, ?_⟩
      simp only [PcSender.faltan]
      omega
    · rename_i hi
      cases hs
      refine .inr ⟨rfl, ⟨hinv, havisar, nofun⟩, ?_⟩
      simp only [PcSender.faltan]
      omega
  | pregunta =>
    rw [pasoSender_pregunta h.inv.libre hpc, if_pos h.avisar] at hs
    cases hs
    exact .inr ⟨rfl, ⟨hinv, havisar, nofun⟩, rfl⟩
  | avisa =>
    unfold pasoSender at hs
    simp only [hpc] at hs
    cases hs
    left
    unfold avisos
    rw [List.count_append, List.count_singleton_self]
  | termina => exact absurd hpc h.sender

/-- The notices of a run stay pushed. -/
theorem avisos_le {e : Evento ν} (hi : Inv P s) (h : paso P s e = some t) : avisos s ≤ avisos t := by
  cases he : e.esSender with
  | false => exact (pasoAjeno hi.libre he h).avisos.ge
  | true =>
    cases e with
    | sender =>
      change pasoSender P s = some t at h
      cases hpc : s.sender with
      | termina =>
        have ht := (pasoSender_termina hi.libre hpc).symm.trans h
        cases ht
        exact Nat.le_refl _
      | pregunta =>
        have ht := (pasoSender_pregunta hi.libre hpc).symm.trans h
        cases ht
        exact Nat.le_refl _
      | espera =>
        unfold pasoSender at h
        simp only [hpc] at h
        obtain ⟨r, -, rfl⟩ := Option.map_eq_some_iff.mp h
        exact Nat.le_refl _
      | bloque tipo i =>
        unfold pasoSender at h
        simp only [hpc] at h
        split at h
        · cases h
          exact List.Sublist.count_le _ (List.sublist_append_left _ _)
        · cases h
          exact Nat.le_refl _
      | avisa =>
        unfold pasoSender at h
        simp only [hpc] at h
        cases h
        exact List.Sublist.count_le _ (List.sublist_append_left _ _)
    | _ => cases he

theorem avisos_correr {evs : List (Evento ν)} (hi : Inv P s) (h : correr (paso P) s evs = some u) :
    avisos s ≤ avisos u := by
  have hle : Inv P u ∧ avisos s ≤ avisos u :=
    Alcanza.induccion (I := fun u => Inv P u ∧ avisos s ≤ avisos u) ⟨evs, h⟩ ⟨hi, Nat.le_refl _⟩
      fun a e b ha hb => ⟨inv_paso ha.1 hb, Nat.le_trans ha.2 (avisos_le ha.1 hb)⟩
  exact hle.2

/-- Until the notice is pushed, each step of the sender brings it nearer. -/
theorem EnCamino.correr {evs : List (Evento ν)} (hs : EnCamino P s)
    (h : correr (paso P) s evs = some u) :
    avisos s < avisos u ∨
      EnCamino P u ∧ u.sender.faltan P + evs.countP Evento.esSender ≤ s.sender.faltan P := by
  induction evs generalizing s with
  | nil =>
    cases h
    exact .inr ⟨hs, Nat.le_refl _⟩
  | cons e evs ih =>
    obtain ⟨b, hb, hbu⟩ := Option.bind_eq_some_iff.mp h
    have hinv := inv_paso hs.inv hb
    cases he : e.esSender with
    | false =>
      have hajeno := pasoAjeno hs.inv.libre he hb
      have hresto := ih (hs.ajeno hajeno) hbu
      rwa [hajeno.avisos, hajeno.sender, ← List.countP_cons_of_neg (a := e) (by simp [he])] at hresto
    | true =>
      have hsender : e = .sender := by
        cases e <;> first | rfl | cases he
      subst hsender
      rcases hs.paso_sender hb with hmas | ⟨hmismo, hcamino, hfaltan⟩
      · left
        have hle := avisos_correr hinv hbu
        omega
      · have hresto := ih hcamino hbu
        rw [List.countP_cons_of_pos he]
        rw [hmismo] at hresto
        refine hresto.imp_right fun ⟨hu, hle⟩ => ⟨hu, ?_⟩
        omega

/-- The sender is not blocked: what it sends is in its queue. -/
theorem EnCamino.isSome (h : EnCamino P s) : (paso P s .sender).isSome = true := by
  show (pasoSender P s).isSome = true
  cases hpc : s.sender with
  | espera =>
    have hmem := h.inv.porVenir (h.inv.aviso h.avisar) hpc
    unfold pasoSender Grupo.lockToken
    simp only [hpc]
    split
    · rfl
    · rename_i hvacia
      rw [hvacia] at hmem
      cases hmem
  | bloque tipo i =>
    unfold pasoSender
    simp only [hpc]
    split <;> rfl
  | pregunta =>
    rw [pasoSender_pregunta h.inv.libre hpc]
    rfl
  | avisa =>
    unfold pasoSender
    simp only [hpc]
    rfl
  | termina => exact absurd hpc h.sender

/-- What a call that sets `avisar_envio` leaves. -/
theorem consulta_paso (hi : Inv P s) (hpide : pideAviso s = true) (h : paso P s .receptor = some t) :
    t = { s with grupo := { s.grupo with avisarEnvio := 1 }, receptor := .libre } := by
  rw [pideAviso, Bool.and_eq_true, Bool.and_eq_true, decide_eq_true_eq, decide_eq_true_eq,
    decide_eq_true_eq] at hpide
  obtain ⟨hreceptor, htengo, henviado⟩ := hpide
  unfold paso pasoReceptor at h
  simp only [hreceptor] at h
  rw [hi.libre.seccion, Option.map_some] at h
  unfold Operacion.seccion at h
  dsimp only at h
  rw [if_pos ⟨htengo, henviado⟩] at h
  have hmutex := hi.libre.mutex
  cases h
  congr 1
  show { s.grupo with mutexAsignado := 1, avisarEnvio := 1 } = _
  rw [← hmutex]

/-- A call is answered exactly if the sender has not yet looked at `avisar_envio`. -/
theorem contestada_iff (hi : Inv P s) (hpide : pideAviso s = true) (h : paso P s .receptor = some t) :
    Contestada P t ↔ s.sender ≠ .termina := by
  have hinv := inv_paso hi h
  have ht := consulta_paso hi hpide h
  subst ht
  constructor
  · intro hcontesta htermina
    -- the sender clears the flag
    have hpaso := pasoSender_termina hinv.libre htermina
    have hrun := hcontesta [.sender] _ (by rw [correr]; exact Option.bind_eq_some_iff.mpr ⟨_, hpaso, rfl⟩)
    exact absurd (hrun.1 rfl) (Nat.lt_irrefl _)
  · intro hpc evs u hu
    have hcamino : EnCamino P _ := ⟨hinv, rfl, hpc⟩
    rcases hcamino.correr hu with hmas | ⟨hfin, hle⟩
    · exact ⟨fun _ => hmas, fun _ => hmas, .inl hmas⟩
    · refine ⟨fun hcero => ?_, fun hpasos => ?_, .inr hfin.isSome⟩
      · rw [hfin.avisar] at hcero
        cases hcero
      · have hfaltan : s.sender.faltan P ≤ P.bloques + 4 := by
          unfold PcSender.faltan
          split <;> omega
        have hpositivo : 0 < u.sender.faltan P := by
          have hne := hfin.sender
          cases hsender : u.sender with
          | termina => exact absurd hsender hne
          | _ => simp only [PcSender.faltan]; omega
        dsimp only at hle
        omega

/-- In the runs in which `el_token_se_envio` does not come while a token is to be sent, `token_enviado`
    is right, and the step that comes out of the condition makes it wrong.  In every run, the calls that
    are answered are those made before the sender has looked at `avisar_envio`. -/
theorem consultas_contestadas (tabla : Tabla P) :
    (∀ s, AlcanzaBajo (fun s e => sinPendiente P s e = true) (paso P) (inicial tabla) s →
      EnvioAnunciado P s ∧
        ∀ e t, paso P s e = some t → (EnvioAnunciado P t ↔ sinPendiente P s e = true)) ∧
      ∀ s t, Alcanza (paso P) (inicial tabla) s → pideAviso s = true → paso P s .receptor = some t →
        (Contestada P t ↔ s.sender ≠ .termina) := by
  constructor
  · intro s hs
    have hinv : Inv P s ∧ EnvioAnunciado P s :=
      AlcanzaBajo.induccion (I := fun s => Inv P s ∧ EnvioAnunciado P s) hs ⟨inv_inicial tabla, nofun⟩
        fun a e b ha hc hb => ⟨inv_paso ha.1 hb, (anunciado_paso ha.1 ha.2 hb).mpr hc⟩
    exact ⟨hinv.2, fun e t => anunciado_paso hinv.1 hinv.2⟩
  · intro s t hs
    have hinv : Inv P s := hs.induccion (inv_inicial tabla) fun _ _ _ => inv_paso
    exact contestada_iff hinv

end

/-! ## A group whose only client is the sender -/

/-- Name 0 is `localbroker`; the token fits in one block. -/
def unBloque : Parametros 50 Nat := ⟨fun n => n = 0, 0, 4⟩

def soloSender : Tabla unBloque where
  clientNames k := if k = 0 then some 0 else none
  cantClientes := 1
  solo := by decide

/-- The token manager has passed on a token and the sender is at the end of the replica. -/
def replicaEnviada : List (Evento Nat) :=
  [.replicarBrokers, .pasarTokenAProximoCliente, .sender, .sender, .sender, .sender]

/-- Without a replica before it, the token is sent with its flag and a query is answered. -/
theorem consultas_contestadas_sin_replica : ∃ s t,
    AlcanzaBajo (fun s e => sinPendiente unBloque s e = true) (paso unBloque) (inicial soloSender) s ∧
      pendiente unBloque s = true ∧ EnvioAnunciado unBloque s ∧
        paso unBloque s .receptor = some t ∧ Contestada unBloque t := by
  have hrun : (correr (pasoBajo (fun s e => sinPendiente unBloque s e = true) (paso unBloque))
      (inicial soloSender) [.pasarTokenAProximoCliente, .sender, .receptor]).map
        (fun s => (pendiente unBloque s, pideAviso s, decide (s.sender = .termina),
          (paso unBloque s .receptor).isSome)) = some (true, true, false, true) := by
    decide +kernel
  obtain ⟨s, hs, hvalores⟩ := Option.map_eq_some_iff.mp hrun
  simp only [Prod.mk.injEq, decide_eq_false_iff_not] at hvalores
  obtain ⟨hpendiente, hpide, hsender, hpaso⟩ := hvalores
  obtain ⟨t, ht⟩ := Option.isSome_iff_exists.mp hpaso
  have hbajo : AlcanzaBajo (fun s e => sinPendiente unBloque s e = true) (paso unBloque)
      (inicial soloSender) s := ⟨_, hs⟩
  have hconsultas := consultas_contestadas soloSender
  exact ⟨s, t, hbajo, hpendiente, (hconsultas.1 s hbajo).1, ht,
    (hconsultas.2 s t hbajo.alcanza hpide ht).mpr hsender⟩

/-- The replica that goes out first clears `token_enviado` while the token is in the queue; a query that
    arrives when the sender has looked at `avisar_envio` is never answered. -/
theorem replica_borra_los_avisos :
    (¬ ∀ s, Alcanza (paso unBloque) (inicial soloSender) s → EnvioAnunciado unBloque s) ∧
      ¬ ∀ s t, Alcanza (paso unBloque) (inicial soloSender) s → pideAviso s = true →
        paso unBloque s .receptor = some t → Contestada unBloque t := by
  constructor
  · intro h
    have hrun : (correr (paso unBloque) (inicial soloSender) (replicaEnviada ++ [.sender])).map
        (fun s => (pendiente unBloque s, s.grupo.tokenEnviado)) = some (true, 1) := by
      decide +kernel
    obtain ⟨s, hs, hvalores⟩ := Option.map_eq_some_iff.mp hrun
    simp only [Prod.mk.injEq] at hvalores
    have hcero := h s ⟨_, hs⟩ hvalores.1
    rw [hvalores.2] at hcero
    cases hcero
  · intro h
    have hrun : (correr (paso unBloque) (inicial soloSender) (replicaEnviada ++ [.receptor])).map
        (fun s => (pideAviso s, s.sender, (paso unBloque s .receptor).isSome)) =
          some (true, .termina, true) := by
      decide +kernel
    obtain ⟨s, hs, hvalores⟩ := Option.map_eq_some_iff.mp hrun
    simp only [Prod.mk.injEq] at hvalores
    obtain ⟨hpide, hsender, hpaso⟩ := hvalores
    obtain ⟨t, ht⟩ := Option.isSome_iff_exists.mp hpaso
    have hinv : Inv unBloque s :=
      Alcanza.induccion ⟨_, hs⟩ (inv_inicial soloSender) fun _ _ _ => inv_paso
    exact (contestada_iff hinv hpide ht).mp (h s t ⟨_, hs⟩ hpide ht) hsender

end ConsultaToken
