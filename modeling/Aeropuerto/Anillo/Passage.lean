import Aeropuerto.Anillo.GroupInterface
import Aeropuerto.Biblioteca.Enlace

/-!
# The packets between two nodes of the ring (`group/passage.py`)

`passage_outbound_messages` of a node and `passage_inbound_messages` of the next one, with their drivers
(`outbound.py` and `inbound.py`).  The connection does not fail by itself.  A queue refuses a message of
more than `msgmax` bytes or with a type that is not positive; `Popen` and `stop` always work.
-/

namespace Passage

open Ejecucion Enlace Enteros ColaDeMensajes
open GroupInterface (Tipo maxPayload typeById typeByNombre pack unpack ipcPush)

/-- `ID_BY_TYPE` and the payload, that has passed the check of its length. -/
structure Paquete where
  tipo : Tipo
  payload : List UInt8
  cabe : payload.length ≤ maxPayload

/-- `type+size+payload`. -/
def trama (p : Paquete) : List UInt8 := p.tipo.nombre ++ (bytesBE 2 p.payload.length ++ p.payload)

theorem length_take_le_maxPayload {size payload : List UInt8} (h : ¬valorBE size > maxPayload) :
    (payload.take (valorBE size)).length ≤ maxPayload := by
  rw [List.length_take]
  omega

/-- The calls to `_recv` of `passage_inbound_messages`. -/
def recibir : Lector Paquete UInt8 :=
  .pide 4 fun nombre =>
    match typeByNombre nombre with
    | none => .invalido
    | some type =>
      .pide 2 fun size =>
        if h : valorBE size > maxPayload then .invalido
        else
          .pide (valorBE size) fun payload =>
            -- the payload has as many bytes as it was asked for
            .listo ⟨type, payload.take (valorBE size), length_take_le_maxPayload h⟩

/-! ## The drivers -/

-- LOOP_SUBTYPE_BY_NAME
def subtipoLeader : UInt8 := 0
def subtipoLinkBroken : UInt8 := 1
def subtipoBreakLinkForced : UInt8 := 2

/-- The name in a LOOP payload, with `none` for an `IndexError` or a `struct.error`. -/
def nombre (loopPayload : List UInt8) : Option (List UInt8) :=
  match loopPayload[1]? with
  | none => none
  | some nameLen =>
    let name := (loopPayload.drop 2).take nameLen.toNat
    if name.length = nameLen.toNat then some name else none

/-- `handle_loop_message` of `outbound.py`: its `leader_name` and what it returns. -/
def handleOutbound (localhostName leaderName loopPayload : List UInt8) : Option (List UInt8 × Bool) :=
  match loopPayload.head? with
  | none => none
  | some type =>
    if type = subtipoLeader then
      match nombre loopPayload with
      | none => none
      | some name =>
        if name = localhostName then some (leaderName, true)
        else if name < localhostName then some (leaderName, false)
        else some (name, true)
    else if type = subtipoLinkBroken then some (leaderName, true)
    else none

/-- A package of `userland_outbound_queue`. -/
def enviar (localhostName leaderName package : List UInt8) : Salida Paquete (List UInt8) :=
  match unpack package with
  | .error _ => .termina
  | .ok (id, payload) =>
    match typeById id with
    -- InvalidApplicationMessage
    | none => .descarta leaderName
    | some type =>
      if h : payload.length > maxPayload then .descarta leaderName
      else
        match type with
        | .user => .envia ⟨.user, payload, Nat.le_of_not_lt h⟩ leaderName
        | .loop =>
          match payload[2]? with
          | none => .termina
          | some subtipo =>
            if subtipo = subtipoBreakLinkForced then .termina
            else
              match handleOutbound localhostName leaderName (payload.drop 2) with
              | none => .termina
              | some (leaderName, false) => .descarta leaderName
              | some (leaderName, true) => .envia ⟨.loop, payload, Nat.le_of_not_lt h⟩ leaderName

/-- The driver of `inbound.py` and the queues. -/
structure Entrante where
  leaderName : List UInt8
  leaderProcess : Bool
  userlandInboundQueue : Cola UInt8
  userlandOutboundQueue : Cola UInt8

/-- What a packet finds: `poll()` of the leader process and the memory after the string of a push. -/
structure Entorno where
  vivo : Bool
  memoria : Nat → UInt8

instance : Inhabited Entorno := ⟨⟨true, fun _ => 0⟩⟩

def push (msgmax : Nat) (memoria : Nat → UInt8) (msg : List UInt8) (q : Cola UInt8) :
    Option (Cola UInt8) :=
  if msgmax < msg.length then none else (ipcPush memoria msg q).toOption

def Entrante.clean (d : Entrante) : Entrante := { d with leaderProcess := false }

/-- The message that `handle_loop_message` pushes when the node is the leader. -/
def tokenInicial : List UInt8 := pack (List.replicate (4 * 3 + 256) 0) Tipo.user.id

/-- `handle_loop_message` of `inbound.py`. -/
def handleInbound (localhostName : List UInt8) (msgmax : Nat) (d : Entrante) (loopPayload : List UInt8)
    (x : Entorno) : Option (Entrante × Bool) :=
  match loopPayload.head? with
  | none => none
  | some type =>
    if type = subtipoLeader then
      match nombre loopPayload with
      | none => none
      | some name =>
        if name = localhostName then
          if d.leaderProcess ∧ x.vivo then some ({ d with leaderName := name }, false)
          else
            match push msgmax x.memoria tokenInicial d.userlandInboundQueue with
            | none => none
            | some q =>
              some ({ d with leaderName := name, leaderProcess := true, userlandInboundQueue := q }, false)
        else if name < localhostName then some (d, false)
        else some ({ d.clean with leaderName := name }, true)
    else if type = subtipoLinkBroken then
      match nombre loopPayload with
      | none => none
      | some name => if name = localhostName then some (d, false) else some (d.clean, true)
    else none

/-- A packet that has been acknowledged, with `none` for an exception. -/
def manejar (localhostName : List UInt8) (msgmax : Nat) (d : Entrante) (p : Paquete) (x : Entorno) :
    Option Entrante :=
  match p.tipo with
  | .loop =>
    if p.payload.length < 2 then none
    else
      let ttl := valorBE (p.payload.take 2)
      if ttl ≤ 0 then some d
      else
        match handleInbound localhostName msgmax d (p.payload.drop 2) x with
        | none => none
        | some (d, false) => some d
        | some (d, true) =>
          (push msgmax x.memoria (pack (bytesBE 2 (ttl - 1) ++ p.payload.drop 2) Tipo.loop.id)
            d.userlandOutboundQueue).map fun q => { d with userlandOutboundQueue := q }
  | .user =>
    (push msgmax x.memoria (pack p.payload Tipo.user.id) d.userlandInboundQueue).map
      fun q => { d with userlandInboundQueue := q }

/-- The names of the two nodes and the limit of the queues of the second one. -/
structure Parametros where
  nombreSalida : List UInt8
  nombreEntrada : List UInt8
  msgmax : Nat

-- "A"
def passage (P : Parametros) :
    Protocolo Paquete UInt8 (List UInt8) (List UInt8) Entrante Entorno where
  trama := trama
  lector := recibir
  acuse := 65
  saca := enviar P.nombreSalida
  maneja := manejar P.nombreEntrada P.msgmax

abbrev Estado := Enlace.Estado Paquete UInt8 (List UInt8) (List UInt8) Entrante

/-- Its type id is unknown or its payload too long. -/
def Rechazado (package : List UInt8) : Prop :=
  ∃ id payload, unpack package = .ok (id, payload) ∧
    (typeById id = none ∨ maxPayload < payload.length)

/-- What the receiver does with the packet never raises an exception. -/
def Manejable (P : Parametros) (p : Paquete) : Prop :=
  ∀ d x, manejar P.nombreEntrada P.msgmax d p x ≠ none

/-! ## Frames -/

variable {P : Parametros} {s : Estado} {p : Paquete}

theorem recibir_trama (p : Paquete) : recibir.Espera (trama p) p := by
  intro resto
  have hnombre : p.tipo.nombre.length = 4 := by cases p.tipo <;> rfl
  have hcabe := p.cabe
  have hsize : valorBE (bytesBE 2 p.payload.length) = p.payload.length :=
    valorBE_bytesBE 2 (by unfold maxPayload at hcabe; omega)
  rw [recibir, trama, List.append_assoc, List.append_assoc, Lector.lee_pide _ hnombre,
    GroupInterface.typeByNombre_nombre]
  dsimp only
  rw [Lector.lee_pide _ (length_bytesBE 2 _)]
  split
  case isTrue h => exact absurd hcabe (by omega)
  case isFalse h =>
    rw [Lector.lee_pide _ hsize.symm, Lector.lee]
    congr 3
    rw [hsize, List.take_length]

theorem correcto (P : Parametros) : Correcto (passage P) := ⟨recibir_trama, 3, _, rfl⟩

theorem length_trama_le (p : Paquete) : (trama p).length ≤ maxPayload + 6 := by
  have hnombre : p.tipo.nombre.length = 4 := by cases p.tipo <;> rfl
  have hcabe := p.cabe
  rw [trama, List.length_append, List.length_append, length_bytesBE, hnombre]
  omega

/-- The exception is logged and nothing else happens. -/
theorem enviar_rechazado {package : List UInt8} (localhostName leaderName : List UInt8)
    (h : Rechazado package) : enviar localhostName leaderName package = .descarta leaderName := by
  obtain ⟨id, payload, hunpack, hmal⟩ := h
  rw [enviar, hunpack]
  dsimp only
  rcases hmal with hid | hlargo
  · rw [hid]
  · split
    · rfl
    · rw [dif_pos hlargo]

/-! ## Packets that the receiver handles -/

/-- A queue takes a message whose first eight bytes are a positive number. -/
theorem push_ne_none {msgmax : Nat} {q : Cola UInt8} (memoria : Nat → UInt8)
    (tipo texto : List UInt8) (hlargo : tipo.length = 8) (hpos : 0 < valorLE tipo)
    (hsigno : valorLE tipo < 2 ^ 63) (hmax : (tipo ++ texto).length ≤ msgmax) :
    push msgmax memoria (tipo ++ texto) q ≠ none := by
  have hbuf : (GroupInterface.leer (tipo ++ texto) memoria
      (GroupInterface.sizeofLong + (tipo ++ texto).length)).take GroupInterface.sizeofLong = tipo := by
    rw [GroupInterface.leer, List.take_take, Nat.min_eq_left (Nat.le_add_right _ _), List.append_assoc]
    exact List.take_left' hlargo
  have htipo : conSigno 64 (valorLE tipo) = valorLE tipo := by
    have hnat : (BitVec.ofNat 64 (valorLE tipo)).toNat = valorLE tipo := by
      rw [BitVec.toNat_ofNat]
      exact Nat.mod_eq_of_lt (by omega)
    rw [conSigno, BitVec.toInt_eq_toNat_of_lt (by omega), hnat]
  have hmsgsnd : ∀ t : List UInt8,
      msgsnd q (valorLE tipo : Int) t = .ok (q ++ [⟨valorLE tipo, t⟩]) := by
    intro t
    rw [msgsnd, if_neg (by omega)]
  rw [push, if_neg (Nat.not_lt.mpr hmax), ipcPush, hbuf, htipo, GroupInterface.MessageQueue.push, hmsgsnd]
  rintro ⟨⟩

/-- The type of the queue is the type of the message and four bytes more. -/
theorem push_pack_ne_none {msgmax : Nat} {q : Cola UInt8} (memoria : Nat → UInt8) (t : Tipo)
    {a b c d : UInt8} {payload : List UInt8} (hd : d.toNat < 128) (hmax : payload.length + 8 ≤ msgmax) :
    push msgmax memoria (pack (a :: b :: c :: d :: payload) t.id) q ≠ none := by
  have hpack : pack (a :: b :: c :: d :: payload) t.id =
      [0, 0, 0, UInt8.ofNat t.id, a, b, c, d] ++ payload := by cases t <;> rfl
  have hpos : 0 < (UInt8.ofNat t.id).toNat := by cases t <;> decide
  have hbajo : valorLE [0, 0, 0, UInt8.ofNat t.id, a, b, c] < 256 ^ 7 := valorLE_lt _ rfl
  have htipo : valorLE [0, 0, 0, UInt8.ofNat t.id, a, b, c, d] =
      valorLE [0, 0, 0, UInt8.ofNat t.id, a, b, c] + 256 ^ 7 * valorLE [d] :=
    valorLE_append [0, 0, 0, UInt8.ofNat t.id, a, b, c] [d] rfl
  have hid : valorLE [0, 0, 0, UInt8.ofNat t.id, a, b, c, d] =
      valorLE [0, 0, 0] + 256 ^ 3 * valorLE [UInt8.ofNat t.id, a, b, c, d] :=
    valorLE_append [0, 0, 0] [UInt8.ofNat t.id, a, b, c, d] rfl
  have hd' : valorLE [d] = d.toNat := rfl
  have hid' : valorLE [UInt8.ofNat t.id, a, b, c, d] =
      (UInt8.ofNat t.id).toNat + 256 * valorLE [a, b, c, d] := rfl
  rw [hpack]
  have hmin : 0 < valorLE [0, 0, 0, UInt8.ofNat t.id, a, b, c, d] := by
    rw [hid, hid']
    omega
  have hmax' : valorLE [0, 0, 0, UInt8.ofNat t.id, a, b, c, d] < 2 ^ 63 := by
    rw [htipo, hd']
    omega
  have hlargo : ([0, 0, 0, UInt8.ofNat t.id, a, b, c, d] ++ payload).length ≤ msgmax := by
    rw [List.length_append, Nat.add_comm]
    exact hmax
  exact push_ne_none memoria _ payload rfl hmin hmax' hlargo

/-- A message of the group: it begins with the four zeros that the queue of the sender leaves in front. -/
theorem manejable_user {payload : List UInt8} (h : p.tipo = .user)
    (hpayload : p.payload = [0, 0, 0, 0] ++ payload) (hmax : payload.length + 8 ≤ P.msgmax) :
    Manejable P p := by
  intro d x
  rw [manejar, h, hpayload]
  dsimp only
  rw [Ne, Option.map_eq_none_iff]
  exact push_pack_ne_none x.memoria .user (by decide) hmax

theorem tokenInicial_eq :
    tokenInicial = pack (0 :: 0 :: 0 :: 0 :: List.replicate (4 * 3 + 252) 0) Tipo.user.id := rfl

/-- A proposal or a broken link, with a name of less than 128 bytes. -/
theorem manejable_loop {t₁ t₂ subtipo nameLen : UInt8} {name : List UInt8} (h : p.tipo = .loop)
    (hpayload : p.payload = t₁ :: t₂ :: subtipo :: nameLen :: name)
    (hsubtipo : subtipo = subtipoLeader ∨ subtipo = subtipoLinkBroken) (hname : name.length = nameLen.toNat)
    (hlargo : nameLen.toNat < 128) (hmax : 276 ≤ P.msgmax) : Manejable P p := by
  intro d x
  have hnombre : nombre (subtipo :: nameLen :: name) = some name := by
    show (if (name.take nameLen.toNat).length = nameLen.toNat then some (name.take nameLen.toNat)
      else none) = some name
    rw [← hname, List.take_length, if_pos rfl]
  have htoken : ∀ q, push P.msgmax x.memoria tokenInicial q ≠ none := by
    intro q
    rw [tokenInicial_eq]
    refine push_pack_ne_none x.memoria .user (by decide) ?_
    rw [List.length_replicate]
    omega
  have hhandle : ∃ r, handleInbound P.nombreEntrada P.msgmax d (subtipo :: nameLen :: name) x = some r := by
    rw [handleInbound, List.head?_cons, hnombre]
    dsimp only
    rcases hsubtipo with rfl | rfl
    · rw [if_pos rfl]
      split
      · split
        · exact ⟨_, rfl⟩
        · cases hq : push P.msgmax x.memoria tokenInicial d.userlandInboundQueue with
          | none => exact absurd hq (htoken _)
          | some q => exact ⟨_, rfl⟩
      · split <;> exact ⟨_, rfl⟩
    · rw [if_neg (by decide), if_pos rfl]
      split <;> exact ⟨_, rfl⟩
  obtain ⟨⟨d', pasa⟩, hhandle⟩ := hhandle
  have hdrop : p.payload.drop 2 = subtipo :: nameLen :: name := by rw [hpayload]; rfl
  rw [manejar, h, hdrop, hhandle]
  dsimp only
  rw [if_neg (by rw [hpayload]; simp)]
  split
  · exact Option.some_ne_none _
  · cases pasa with
    | false => exact Option.some_ne_none _
    | true =>
      dsimp only
      rw [Ne, Option.map_eq_none_iff]
      have hdos := length_bytesBE 2 (valorBE (p.payload.take 2) - 1)
      obtain ⟨y₁, y₂, hy⟩ := List.length_eq_two.mp hdos
      rw [hy]
      exact push_pack_ne_none x.memoria .loop hlargo (by omega)

/-! ## The sequence that arrives -/

/-- Whatever part of what they are given or of what has arrived `send` and `recv` take, the packets that
    have been received are the first of those that were sent, no run is longer than the packages allow, and
    when nobody can go on all the packets have been received. -/
theorem entrega (P : Parametros) (cola : List (List UInt8)) (leaderName : List UInt8) (d : Entrante)
    {s : Estado} (h : Alcanza (paso (passage P)) (inicial (passage P) cola leaderName d) s) :
    (s.recibidos <+: s.enviados ∧ s.enviados <+: emision (passage P) leaderName cola ∧
      s.acusados + s.vuelta.length = s.recibidos.length ∧ s.enviados.length ≤ s.acusados + 1) ∧
    s.escritos <+: s.enviados.flatMap trama ∧
    (∀ package resto, s.emisor = .listo → s.cola = package :: resto → Rechazado package →
      paso (passage P) s .saca = some { s with cola := resto }) ∧
    (∀ es t, correr (paso (passage P)) (inicial (passage P) cola leaderName d) es = some t →
      es.length ≤ cola.length * (5 * (maxPayload + 6) + 4) + 2) ∧
    (∃ t, Alcanza (paso (passage P)) s t ∧ Bloqueado (paso (passage P)) t) ∧
    (Bloqueado (paso (passage P)) s →
      (∀ p ∈ (emision (passage P) leaderName cola).dropLast, Manejable P p) →
      s.recibidos = emision (passage P) leaderName cola ∧
        ((∀ p ∈ emision (passage P) leaderName cola, Manejable P p) →
          s.acusados = (emision (passage P) leaderName cola).length)) := by
  refine ⟨prefijos (correcto P) h, escritos_prefix (correcto P) h, ?_, ?_, ?_, ?_⟩
  · intro package resto hem hcola hmal
    have hsaca : (passage P).saca s.driver package = .descarta s.driver := enviar_rechazado _ _ hmal
    simp only [paso, hem, hcola, hsaca]
  · exact fun es t => length_le (correcto P) fun _ _ a _ _ => length_trama_le a
  · exact exists_final (correcto P) (fun _ _ a _ _ => length_trama_le a) s
  · exact fun hfin hman => completo (correcto P) hman h hfin

/-- Names `a:1` and `b:2`. -/
def vecinos : Parametros := ⟨[97, 58, 49], [98, 58, 50], 8192⟩

def saludo : Paquete := ⟨.user, [0, 0, 0, 0, 104], by decide⟩

def arranque (cola : List (List UInt8)) : Estado :=
  inicial (passage vecinos) cola vecinos.nombreSalida ⟨vecinos.nombreEntrada, false, [], []⟩

theorem entrega_saludo : ∃ s, Alcanza (paso (passage vecinos)) (arranque [pack saludo.payload 1]) s ∧
    s.recibidos = [saludo] ∧ s.acusados = 1 := by
  have hsaludo : Manejable vecinos saludo := manejable_user rfl rfl (by decide)
  have hinicio : Alcanza (paso (passage vecinos)) (arranque [pack saludo.payload 1]) _ := Alcanza.refl _
  obtain ⟨t, ht, hfin⟩ := (entrega vecinos _ _ _ hinicio).2.2.2.2.1
  obtain ⟨hrecibidos, hacusados⟩ := (entrega vecinos _ _ _ ht).2.2.2.2.2 hfin
    fun p hp => absurd hp List.not_mem_nil
  refine ⟨t, ht, hrecibidos, hacusados fun p hp => ?_⟩
  rw [List.mem_singleton.mp hp]
  exact hsaludo

/-- A broken link whose name is missing is forwarded, and the receiver fails with it: what comes after is
    never received. -/
def linkBrokenSinNombre : Paquete := ⟨.loop, [0, 5, 1], by decide⟩

theorem saludo_perdido :
    let cola := [pack linkBrokenSinNombre.payload 2, pack saludo.payload 1]
    emision (passage vecinos) vecinos.nombreSalida cola = [linkBrokenSinNombre, saludo] ∧
      ∀ s, Alcanza (paso (passage vecinos)) (arranque cola) s →
        s.recibidos ≠ [linkBrokenSinNombre, saludo] := by
  refine ⟨rfl, fun s h hrecibidos => ?_⟩
  have hman := manejados_dropLast (correcto vecinos) h linkBrokenSinNombre
    (by rw [hrecibidos]; exact List.mem_cons_self)
  obtain ⟨d, x, r, hr⟩ := hman
  cases hr

end Passage
