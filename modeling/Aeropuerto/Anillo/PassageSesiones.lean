import Aeropuerto.Anillo.Passage
import Aeropuerto.Biblioteca.Sesiones

/-!
# The loops of `outbound.py` and `inbound.py`

Two neighbours that meet again each time that their connection is lost.  `inbound.py` announces the broken
link and its own name in its output queue; any other exception than those of the connection ends it, and
none ends `outbound.py`.  The output queue of the first node and the two of the second one are used by
others at any moment.
-/

namespace Passage

open Ejecucion Enlace Enteros
open GroupInterface (Tipo maxPayload typeById pack unpack)

/-- `struct.pack(">HBB%is")`, with `none` for an error, and the type of the message. -/
def crearMsj (TTL : Nat) (subtipo : UInt8) (localhostName : List UInt8) : Option (List UInt8) :=
  if TTL < 2 ^ 16 ∧ localhostName.length < 2 ^ 8 then
    some (pack (bytesBE 2 TTL ++ (subtipo :: UInt8.ofNat localhostName.length :: localhostName)) Tipo.loop.id)
  else none

def createLinkbrokenMsj (TTL : Nat) (localhostName : List UInt8) : Option (List UInt8) :=
  crearMsj TTL subtipoLinkBroken localhostName

def createLeaderProposalMsj (TTL : Nat) (localhostName : List UInt8) : Option (List UInt8) :=
  crearMsj TTL subtipoLeader localhostName

/-- The loop of `inbound.py` until it has another connection, with the memory that each push finds. -/
def reinicia (P : Parametros) (TTL : Nat) (d : Entrante) (memoria : (Nat → UInt8) × (Nat → UInt8)) :
    Option Entrante := do
  let linkbroken ← createLinkbrokenMsj TTL P.nombreEntrada
  let q ← push P.msgmax memoria.1 linkbroken d.userlandOutboundQueue
  let d := { d.clean with userlandOutboundQueue := q }
  let leader ← createLeaderProposalMsj TTL P.nombreEntrada
  let q ← push P.msgmax memoria.2 leader d.userlandOutboundQueue
  some { d with userlandOutboundQueue := q }

abbrev EstadoSesiones := Sesiones.Estado Paquete UInt8 (List UInt8) (List UInt8) Entrante

/-- The loops before the first connection. -/
def sinConexion (P : Parametros) (leaderName : List UInt8) (d : Entrante) : EstadoSesiones :=
  Sesiones.inicial (passage P) leaderName d

/-! ## Messages of the users -/

/-- The payload of a package of the queue that is for the users of the next node. -/
def usuario (package : List UInt8) : Option (List UInt8) :=
  match unpack package with
  | .error _ => none
  | .ok (id, payload) => if typeById id = some .user ∧ payload.length ≤ maxPayload then some payload else none

def Paquete.usuario (p : Paquete) : Option (List UInt8) :=
  match p.tipo with
  | .user => some p.payload
  | .loop => none

variable {P : Parametros} {TTL : Nat}

/-- What `outbound.py` sends of a package of the users is its payload, and nothing else is sent as theirs. -/
theorem usuario_enviar (localhostName leaderName package : List UInt8) :
    match enviar localhostName leaderName package with
    | .envia p _ => p.usuario = usuario package
    | .descarta _ => usuario package = none
    | .termina => usuario package = none := by
  unfold enviar usuario
  cases unpack package with
  | error e => rfl
  | ok v =>
    obtain ⟨id, payload⟩ := v
    dsimp only
    cases typeById id with
    | none => rfl
    | some type =>
      dsimp only
      by_cases hlargo : payload.length > maxPayload
      · rw [dif_pos hlargo]
        exact if_neg fun h => absurd h.2 (Nat.not_le.mpr hlargo)
      · rw [dif_neg hlargo]
        cases type with
        | user => exact (if_pos ⟨rfl, Nat.le_of_not_lt hlargo⟩).symm
        | loop =>
          have hno : ¬(some Tipo.loop = some Tipo.user ∧ payload.length ≤ maxPayload) := by
            rintro ⟨⟨⟩, -⟩
          rw [if_neg hno]
          dsimp only
          cases payload[2]? with
          | none => rfl
          | some subtipo =>
            dsimp only
            by_cases hforced : subtipo = subtipoBreakLinkForced
            · rw [if_pos hforced]
            · rw [if_neg hforced]
              cases handleOutbound localhostName leaderName (payload.drop 2) with
              | none => rfl
              | some v =>
                obtain ⟨leaderName, pasa⟩ := v
                cases pasa <;> rfl

/-- The packets of the users are those that they put in the queue, whatever comes between them. -/
theorem emision_usuario (P : Parametros) (leaderName : List UInt8) (cola : List (List UInt8)) :
    (Sesiones.emision (passage P) leaderName cola).filterMap Paquete.usuario = cola.filterMap usuario := by
  induction cola generalizing leaderName with
  | nil => rfl
  | cons package cola ih =>
    have husuario := usuario_enviar P.nombreSalida leaderName package
    have hsaca : enviar P.nombreSalida leaderName package = (passage P).saca leaderName package := rfl
    rw [hsaca] at husuario
    rw [Sesiones.emision]
    cases henviar : (passage P).saca leaderName package with
    | descarta leaderName' =>
      rw [henviar] at husuario
      rw [List.filterMap_cons_none husuario]
      exact ih leaderName'
    | envia p leaderName' =>
      rw [henviar] at husuario
      dsimp only at husuario ⊢
      rw [List.filterMap_cons, List.filterMap_cons, husuario, ih leaderName']
    | termina =>
      rw [henviar] at husuario
      rw [List.filterMap_cons_none husuario]
      exact ih leaderName

/-! ## The receiver does not end -/

theorem crearMsj_ne_none {msgmax : Nat} {localhostName : List UInt8} (subtipo : UInt8)
    (q : ColaDeMensajes.Cola UInt8) (hTTL : TTL < 2 ^ 16) (hnombre : localhostName.length < 128)
    (hmax : 276 ≤ msgmax) :
    ∃ msj, crearMsj TTL subtipo localhostName = some msj ∧ ∀ memoria, push msgmax memoria msj q ≠ none := by
  obtain ⟨y₁, y₂, hy⟩ := List.length_eq_two.mp (length_bytesBE 2 TTL)
  have hlen : (UInt8.ofNat localhostName.length).toNat = localhostName.length := by
    rw [UInt8.toNat_ofNat']
    exact Nat.mod_eq_of_lt (by omega)
  refine ⟨_, if_pos ⟨hTTL, by omega⟩, fun memoria => ?_⟩
  rw [hy]
  exact push_pack_ne_none memoria .loop (by rw [hlen]; exact hnombre) (by omega)

theorem reinicia_ne_none (hTTL : TTL < 2 ^ 16) (hnombre : P.nombreEntrada.length < 128)
    (hmax : 276 ≤ P.msgmax) (d : Entrante) (memoria : (Nat → UInt8) × (Nat → UInt8)) :
    reinicia P TTL d memoria ≠ none := by
  obtain ⟨linkbroken, hlinkbroken, hpush⟩ := crearMsj_ne_none subtipoLinkBroken d.userlandOutboundQueue
    hTTL hnombre hmax
  obtain ⟨q, hq⟩ := Option.ne_none_iff_exists'.mp (hpush memoria.1)
  obtain ⟨leader, hleader, hpush'⟩ := crearMsj_ne_none subtipoLeader q hTTL hnombre hmax
  obtain ⟨q', hq'⟩ := Option.ne_none_iff_exists'.mp (hpush' memoria.2)
  simp only [reinicia, createLinkbrokenMsj, createLeaderProposalMsj, hlinkbroken, hq, hleader, hq',
    Option.bind_eq_bind, Option.bind_some]
  rintro ⟨⟩

/-! ## Over all the sessions -/

/-- However often the connection is lost, the packets arrive in their order and once, those that have been
    acknowledged have arrived, and one is lost at most each time; the users of the second node get what
    those of the first one have put in the queue, but for what has been lost.  The second node goes on as
    long as its queues take what it is to push. -/
theorem entrega_en_sesiones (P : Parametros) (TTL : Nat) (leaderName : List UInt8) (d : Entrante)
    {s : EstadoSesiones}
    (h : Alcanza (Sesiones.paso (passage P) (reinicia P TTL)) (sinConexion P leaderName d) s) :
    (s.todosAcusados.Sublist s.todosRecibidos ∧ s.todosRecibidos.Sublist s.todosEnviados ∧
      s.todosEnviados <+: Sesiones.emision (passage P) leaderName s.encolados) ∧
    s.todosEnviados.length ≤ s.todosAcusados.length + s.reconexiones + 1 ∧
    (s.manejados <+: s.todosRecibidos ∧ s.todosRecibidos.length ≤ s.manejados.length + 1) ∧
    (s.manejados.filterMap Paquete.usuario).Sublist (s.encolados.filterMap usuario) ∧
    (s.enlace.emisor = .listo → s.enlace.cola = [] →
      (s.encolados.filterMap usuario).length ≤
        (s.manejados.filterMap Paquete.usuario).length + s.reconexiones + 1) ∧
    (TTL < 2 ^ 16 → P.nombreEntrada.length < 128 → 276 ≤ P.msgmax →
      (∀ p ∈ Sesiones.emision (passage P) leaderName s.encolados, Manejable P p) → s.salio = false) := by
  obtain ⟨⟨hacusados, hrecibidos, henviados⟩, hperdidos, htodos⟩ := Sesiones.perdidas (correcto P) h
  obtain ⟨hmanejados, huno⟩ := Sesiones.manejados_prefix (correcto P) h
  have hmanejados' := hmanejados.sublist.trans (hrecibidos.trans henviados.sublist)
  refine ⟨⟨hacusados, hrecibidos, henviados⟩, hperdidos, ⟨hmanejados, huno⟩, ?_, fun hem hcola => ?_,
    fun hTTL hnombre hmax hman => ?_⟩
  · rw [← emision_usuario P leaderName]
    exact hmanejados'.filterMap _
  · have hcuenta := htodos hem hcola
    have hfiltro := Sesiones.length_filterMap_le Paquete.usuario hmanejados'
    have hacuses := hacusados.length_le
    rw [emision_usuario] at hfiltro
    omega
  · cases hsalio : s.salio with
    | false => rfl
    | true =>
      rcases Sesiones.salida (correcto P) h hsalio with ⟨r, y, hnada⟩ | ⟨p, hp, r, x, hnada⟩
      · exact absurd hnada (reinicia_ne_none hTTL hnombre hmax r y)
      · exact absurd hnada (hman p (henviados.subset (hrecibidos.subset hp)) r x)

def despedida : Paquete := ⟨.user, [0, 0, 0, 0, 99], by decide⟩

/-- The first frame is on its way when the connection is lost. -/
def corte : List (Sesiones.Evento (List UInt8) Entrante Entorno ((Nat → UInt8) × (Nat → UInt8))) :=
  [.encola (pack saludo.payload Tipo.user.id), .enlace .saca, .enlace (.send 11), .fallaEmisor,
    .fallaReceptor, .conecta (fun _ => 0, fun _ => 0), .encola (pack despedida.payload Tipo.user.id),
    .enlace .saca, .enlace (.send 11), .enlace (.recv 4), .enlace (.recv 2), .enlace (.recv 5), .enlace .acusa,
    .enlace (.maneja default), .enlace .ack]

theorem correr_corte :
    (correr (Sesiones.paso (passage vecinos) (reinicia vecinos 16))
      (sinConexion vecinos vecinos.nombreSalida ⟨vecinos.nombreEntrada, false, [], []⟩) corte).map
        (fun s => (s.encolados, s.todosEnviados.map Paquete.payload, s.manejados.map Paquete.payload,
          s.reconexiones, s.enlace.datos.userlandOutboundQueue.length)) =
      some ([pack saludo.payload Tipo.user.id, pack despedida.payload Tipo.user.id],
        [saludo.payload, despedida.payload], [despedida.payload], 1, 2) := by
  decide +kernel

theorem entrega_en_sesiones_corte : ∃ s,
    Alcanza (Sesiones.paso (passage vecinos) (reinicia vecinos 16))
      (sinConexion vecinos vecinos.nombreSalida ⟨vecinos.nombreEntrada, false, [], []⟩) s ∧
    s.todosEnviados.map Paquete.payload = [saludo.payload, despedida.payload] ∧
    s.manejados.map Paquete.payload = [despedida.payload] ∧ s.reconexiones = 1 ∧
    s.enlace.datos.userlandOutboundQueue.length = 2 ∧ s.salio = false := by
  obtain ⟨s, hs, hobs⟩ := Option.map_eq_some_iff.mp correr_corte
  simp only [Prod.mk.injEq] at hobs
  obtain ⟨hencolados, henviados, hmanejados, hreconexiones, hcola⟩ := hobs
  refine ⟨s, ⟨corte, hs⟩, henviados, hmanejados, hreconexiones, hcola,
    (entrega_en_sesiones vecinos 16 vecinos.nombreSalida _ ⟨corte, hs⟩).2.2.2.2.2 (by decide) (by decide)
      (by decide) fun p hp => ?_⟩
  rw [hencolados] at hp
  have hp : p ∈ [saludo, despedida] := hp
  rcases List.mem_pair.mp hp with rfl | rfl
  · exact manejable_user rfl rfl (by decide)
  · exact manejable_user rfl rfl (by decide)

end Passage
