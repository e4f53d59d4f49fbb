import Aeropuerto.Biblioteca.ColaDeMensajes
import Aeropuerto.Biblioteca.Enteros
import Aeropuerto.Biblioteca.Flujo

/-!
# A message of the group from one node to the next (`group/group_interface.cpp`, `ipc/ipc.i`)

`GroupInterface::push` leaves it in a queue, the outbound process takes it from there through `ipc.i` and
frames it, the inbound process of the next node unframes it and pushes it to the queue that
`GroupInterface::pull` reads.  The host is little-endian and its `long` has 8 bytes.
-/

namespace GroupInterface

open ColaDeMensajes Enteros Flujo

/-- `GROUP_MAX_MESSAGE_SIZE`. -/
def groupMaxMessageSize : Nat := 8192

/-- `MAX_PAYLOAD`. -/
def maxPayload : Nat := 2 ^ 14

def sizeofLong : Nat := 8

inductive Error where
  | valueError
  | osError
  | espera
  | structError
  | invalidApplicationMessage
  | invalidNetworkMessage
  | unstableChannel
  deriving DecidableEq, Repr

/-- `htonl` of a little-endian host. -/
def htonl (n : Nat) : Nat := valorBE (bytesLE 4 n)

/-- Reads that go on after the end of an object find whatever the memory has there. -/
def leer (objeto : List UInt8) (despues : Nat → UInt8) (cuantos : Nat) : List UInt8 :=
  (objeto ++ (List.range cuantos).map despues).take cuantos

/-! ## `MessageQueue` -/

namespace MessageQueue

def push (q : Cola UInt8) (tipo : Int) (texto : List UInt8) : Except Error (Cola UInt8) :=
  match msgsnd q tipo texto with
  | .ok q' => .ok q'
  | .error _ => .error .osError

def pull (q : Cola UInt8) (maxSizeTxt : Nat) (type : Int) :
    Except Error (Mensaje UInt8 × Cola UInt8) :=
  match msgrcv q maxSizeTxt type with
  | .ok mq => .ok mq
  | .error .espera => .error .espera
  | .error _ => .error .osError

end MessageQueue

/-! ## `GroupInterface` -/

/-- `qpack` has the type and then `msg`; what `outbound.push` sends goes on in the stack when it does not
    end in `qpack`. -/
def push (pila : Nat → UInt8) (msg : List UInt8) (outbound : Cola UInt8) : Except Error (Cola UInt8) :=
  if msg.length > groupMaxMessageSize then .error .valueError
  else
    let qpackMsg := msg ++ List.replicate (groupMaxMessageSize - msg.length) 0
    MessageQueue.push outbound (htonl 1) (leer qpackMsg pila (msg.length + sizeofLong))

/-- The buffer of the caller is the memory from its address on. -/
def pull (maxSizeMsg : Nat) (inbound : Cola UInt8) (msg : Nat → UInt8) :
    Except Error (Nat × Cola UInt8 × (Nat → UInt8)) :=
  if maxSizeMsg > groupMaxMessageSize then .error .valueError
  else do
    let (m, inbound) ← MessageQueue.pull inbound (maxSizeMsg + sizeofLong) (htonl 1)
    let recv := m.texto.length
    -- memcpy(msg, &qpack.msg, recv)
    return (recv, inbound, fun i => if i < recv then m.texto.getD i 0 else msg i)

/-! ## `ipc.i` -/

/-- The vector starts with the type. -/
def ipcPull (q : Cola UInt8) : Except Error (List UInt8 × Cola UInt8) := do
  let (m, q) ← MessageQueue.pull q 8192 0
  let v := bytesLE sizeofLong (BitVec.ofInt 64 m.tipo).toNat ++ m.texto
  return (v.take m.texto.length, q)

/-- The type is at the beginning of the string and the text has as many bytes as the string. -/
def ipcPush (memoria : Nat → UInt8) (msg : List UInt8) (q : Cola UInt8) : Except Error (Cola UInt8) :=
  let buf := leer msg memoria (sizeofLong + msg.length)
  MessageQueue.push q (conSigno 64 (valorLE (buf.take sizeofLong))) (buf.drop sizeofLong)

/-! ## `message.py` and the frames of `passage.py` -/

def pack (payload : List UInt8) (type : Nat) : List UInt8 := bytesBE 4 type ++ payload

def unpack (package : List UInt8) : Except Error (Int × List UInt8) :=
  if package.length < 4 then .error .structError
  else .ok (conSigno 32 (valorBE (package.take 4)), package.drop 4)

inductive Tipo where
  | loop
  | user
  deriving DecidableEq

/-- `ID_BY_TYPE`. -/
def Tipo.id : Tipo → Nat
  | .loop => 2
  | .user => 1

def Tipo.nombre : Tipo → List UInt8
  | .loop => [76, 79, 79, 80]
  | .user => [85, 83, 69, 82]

/-- `TYPE_BY_ID`. -/
def typeById (id : Int) : Option Tipo := [Tipo.loop, Tipo.user].find? fun t => t.id = id

def typeByNombre (nombre : List UInt8) : Option Tipo :=
  [Tipo.loop, Tipo.user].find? fun t => t.nombre = nombre

/-- The packet that `passage_outbound_messages` sends; one of type LOOP has to pass the driver first. -/
def trama (id : Int) (payload : List UInt8) : Except Error (List UInt8) :=
  match typeById id with
  | none => .error .invalidApplicationMessage
  | some type =>
    if payload.length > maxPayload then .error .invalidApplicationMessage
    else .ok (type.nombre ++ bytesBE 2 payload.length ++ payload)

/-- `_recv`: the chunks that arrive until there are `length` bytes. -/
def recv (length : Nat) (r : Red UInt8) : Except Error (List UInt8 × Red UInt8) :=
  if length = 0 then .ok ([], r)
  else
    let (chunk, r') := r.receivesome length
    if _ : chunk = [] then .error .unstableChannel
    else do
      let (chunks, r'') ← recv (length - chunk.length) r'
      return (chunk ++ chunks, r'')
termination_by length
decreasing_by
  rename_i hne
  have := List.length_pos_of_ne_nil hne
  omega

/-- The packet that `passage_inbound_messages` receives. -/
def destramar (r : Red UInt8) : Except Error (Tipo × List UInt8 × Red UInt8) := do
  let (nombre, r) ← recv 4 r
  match typeByNombre nombre with
  | none => .error .invalidNetworkMessage
  | some type =>
    let (size, r) ← recv 2 r
    if valorBE size > maxPayload then .error .invalidNetworkMessage
    else
      let (payload, r) ← recv (valorBE size) r
      return (type, payload, r)

/-! ## The trip -/

/-- What the trip finds on its way: the stack past `qpack`, the heap past the string of the inbound
    process and how the network cuts the packet. -/
structure Entorno where
  pila : Nat → UInt8
  heap : Nat → UInt8
  trozos : List Nat

/-- The trip of a message that is alone in the queues. -/
def viaje (e : Entorno) (msg : List UInt8) (maxSizeMsg : Nat) (buf : Nat → UInt8) :
    Except Error (Nat × (Nat → UInt8)) := do
  let outbound ← push e.pila msg []
  let (package, _) ← ipcPull outbound
  let (id, payload) ← unpack package
  let paquete ← trama id payload
  let (type, payload, _) ← destramar ⟨paquete, e.trozos⟩
  let inbound ← ipcPush e.heap (pack payload type.id) []
  let (n, _, buf) ← pull maxSizeMsg inbound buf
  return (n, buf)

/-- `GroupInterface::pull` returns the size of the message, has stored its bytes and has written nothing
    past the buffer. -/
def LlegaIntacto (e : Entorno) (msg : List UInt8) (maxSizeMsg : Nat) (buf : Nat → UInt8) : Prop :=
  ∃ buf', viaje e msg maxSizeMsg buf = .ok (msg.length, buf') ∧
    (∀ i, i < msg.length → buf' i = msg.getD i 0) ∧ ∀ i, maxSizeMsg ≤ i → buf' i = buf i

/-! ## Each stage -/

variable {e : Entorno} {msg payload : List UInt8} {maxSizeMsg : Nat} {buf : Nat → UInt8}

theorem ok_bind {α γ : Type} (a : α) (f : α → Except Error γ) : (Except.ok a >>= f) = f a := (rfl)

theorem criterio_htonl (q : Cola UInt8) (texto : List UInt8) :
    criterio q (htonl 1) ⟨htonl 1, texto⟩ = true := by
  unfold criterio
  rw [if_neg (by decide), if_pos (by decide)]
  exact decide_eq_true rfl

/-- A read that is longer than the object. -/
theorem leer_append (objeto : List UInt8) (despues : Nat → UInt8) (k : Nat) :
    ∃ resto, resto.length = k ∧ leer objeto despues (objeto.length + k) = objeto ++ resto := by
  refine ⟨((List.range (objeto.length + k)).map despues).take k, ?_, List.take_length_add_append k⟩
  rw [List.length_take, List.length_map, List.length_range]
  omega

theorem push_singleton {tipo : Int} (h : 1 ≤ tipo) (texto : List UInt8) :
    MessageQueue.push [] tipo texto = .ok [⟨tipo, texto⟩] := by
  unfold MessageQueue.push msgsnd
  rw [if_neg (by omega)]
  rfl

theorem pull_singleton {m : Mensaje UInt8} {maxSizeTxt : Nat} {type : Int}
    (hcriterio : criterio [m] type m = true) (h : m.texto.length ≤ maxSizeTxt) :
    MessageQueue.pull [m] maxSizeTxt type = .ok (m, []) := by
  unfold MessageQueue.pull
  rw [msgrcv_singleton hcriterio, if_neg (by omega)]

theorem pull_demasiado {m : Mensaje UInt8} {maxSizeTxt : Nat} {type : Int}
    (hcriterio : criterio [m] type m = true) (h : maxSizeTxt < m.texto.length) :
    MessageQueue.pull [m] maxSizeTxt type = .error .osError := by
  unfold MessageQueue.pull
  rw [msgrcv_singleton hcriterio, if_pos h]

/-- The text has 8 bytes more than the message. -/
theorem push_ok (pila : Nat → UInt8) (h : msg.length ≤ groupMaxMessageSize) :
    ∃ relleno, relleno.length = sizeofLong ∧ push pila msg [] = .ok [⟨htonl 1, msg ++ relleno⟩] := by
  have htexto : ∃ relleno, relleno.length = sizeofLong ∧
      leer (msg ++ List.replicate (groupMaxMessageSize - msg.length) 0) pila (msg.length + sizeofLong) =
        msg ++ relleno := by
    unfold leer
    rw [List.append_assoc, List.take_length_add_append]
    refine ⟨_, ?_, rfl⟩
    rw [List.length_take, List.length_append, List.length_map, List.length_range]
    omega
  obtain ⟨relleno, hlargo, htexto⟩ := htexto
  refine ⟨relleno, hlargo, ?_⟩
  unfold push
  rw [if_neg (by omega)]
  show MessageQueue.push [] _ (leer _ _ _) = _
  rw [htexto]
  exact push_singleton (by decide) _

theorem bytes_htonl :
    bytesLE sizeofLong (BitVec.ofInt 64 (htonl 1)).toNat = [0, 0, 0, 1, 0, 0, 0, 0] := by
  decide

/-- Of the type and the text, as many bytes as the text has: the 8 bytes added to it do not fit. -/
theorem ipcPull_ok {relleno : List UInt8} (hrelleno : relleno.length = sizeofLong)
    (h : msg.length + sizeofLong ≤ 8192) :
    ipcPull [⟨htonl 1, msg ++ relleno⟩] = .ok ([0, 0, 0, 1, 0, 0, 0, 0] ++ msg, []) := by
  have hlargo : (msg ++ relleno).length = msg.length + sizeofLong := by
    rw [List.length_append, hrelleno]
  have htake : (([0, 0, 0, 1, 0, 0, 0, 0] : List UInt8) ++ (msg ++ relleno)).take
      (msg.length + sizeofLong) = [0, 0, 0, 1, 0, 0, 0, 0] ++ msg := by
    rw [← List.append_assoc]
    apply List.take_left'
    rw [List.length_append, Nat.add_comm]
    rfl
  unfold ipcPull
  rw [pull_singleton rfl (by rw [hlargo]; exact h)]
  show Except.ok ((bytesLE sizeofLong _ ++ (msg ++ relleno)).take (msg ++ relleno).length, []) = _
  rw [bytes_htonl, hlargo, htake]

theorem ipcPull_demasiado {relleno : List UInt8} (hrelleno : relleno.length = sizeofLong)
    (h : 8192 < msg.length + sizeofLong) :
    ipcPull [⟨htonl 1, msg ++ relleno⟩] = .error .osError := by
  unfold ipcPull
  rw [pull_demasiado rfl (by rw [List.length_append, hrelleno]; exact h)]
  rfl

/-- Half of the type stays in the payload. -/
theorem unpack_ok (msg : List UInt8) :
    unpack ([0, 0, 0, 1, 0, 0, 0, 0] ++ msg) = .ok (1, [0, 0, 0, 0] ++ msg) := by
  unfold unpack
  rw [if_neg (by simp)]
  rfl

theorem recv_ok (bytes resto : List UInt8) (trozos : List Nat) :
    ∃ trozos', recv bytes.length ⟨bytes ++ resto, trozos⟩ = .ok (bytes, ⟨resto, trozos'⟩) := by
  obtain ⟨m, hm⟩ : ∃ m, bytes.length = m := ⟨_, rfl⟩
  -- on what is still to come
  induction m using Nat.strongRecOn generalizing bytes trozos with
  | ind m ih =>
    rw [recv]
    by_cases hfin : bytes.length = 0
    · rw [if_pos hfin, List.length_eq_zero_iff.mp hfin]
      exact ⟨trozos, rfl⟩
    · rw [if_neg hfin]
      obtain ⟨k, hk⟩ : ∃ k, min (max 1 (trozos.headD bytes.length)) bytes.length = k := ⟨_, rfl⟩
      have hk₁ : 0 < k ∧ k ≤ bytes.length := by omega
      have hchunk : (bytes ++ resto).take k = bytes.take k := List.take_append_of_le_length hk₁.2
      have hresto : (bytes ++ resto).drop k = bytes.drop k ++ resto :=
        List.drop_append_of_le_length hk₁.2
      have hlargo : (bytes.take k).length = k := List.length_take_of_le hk₁.2
      have hne : bytes.take k ≠ [] := List.ne_nil_of_length_pos (by omega)
      obtain ⟨trozos', hsigue⟩ := ih (m - k) (by omega) (bytes.drop k) trozos.tail
        (by rw [List.length_drop, hm])
      rw [List.length_drop] at hsigue
      refine ⟨trozos', ?_⟩
      simp only [Red.receivesome, hk, hchunk, hresto, dif_neg hne, hlargo, hsigue]
      show Except.ok (bytes.take k ++ bytes.drop k, _) = _
      rw [List.take_append_drop]

theorem typeByNombre_nombre (type : Tipo) : typeByNombre type.nombre = some type := by
  cases type <;> decide

theorem typeById_id (type : Tipo) : typeById type.id = some type := by
  cases type <;> decide

/-- However the network cuts the packet, the payload arrives. -/
theorem destramar_trama (type : Tipo) {paquete : List UInt8} (trozos : List Nat)
    (h : trama type.id payload = .ok paquete) :
    ∃ r, destramar ⟨paquete, trozos⟩ = .ok (type, payload, r) := by
  unfold trama at h
  rw [typeById_id] at h
  dsimp only at h
  split at h
  · cases h
  rename_i hlargo
  cases h
  have hsize : valorBE (bytesBE 2 payload.length) = payload.length :=
    valorBE_bytesBE 2 (by unfold maxPayload at hlargo; omega)
  obtain ⟨trozos₁, h₁⟩ := recv_ok type.nombre (bytesBE 2 payload.length ++ payload) trozos
  obtain ⟨trozos₂, h₂⟩ := recv_ok (bytesBE 2 payload.length) payload trozos₁
  obtain ⟨trozos₃, h₃⟩ := recv_ok payload [] trozos₂
  have hnombre : type.nombre.length = 4 := by cases type <;> rfl
  rw [hnombre] at h₁
  rw [length_bytesBE] at h₂
  rw [List.append_nil] at h₃
  refine ⟨⟨[], trozos₃⟩, ?_⟩
  unfold destramar
  rw [List.append_assoc, h₁]
  show (match typeByNombre type.nombre with | none => _ | some type => _) = _
  rw [typeByNombre_nombre]
  dsimp only
  rw [h₂]
  show (if valorBE (bytesBE 2 payload.length) > maxPayload then _ else _) = _
  rw [hsize, if_neg hlargo, h₃]
  rfl

/-- The text that the inbound process sends goes on 8 bytes past its string. -/
theorem ipcPush_ok (heap : Nat → UInt8) (msg : List UInt8) :
    ∃ relleno, relleno.length = sizeofLong ∧
      ipcPush heap (pack ([0, 0, 0, 0] ++ msg) Tipo.user.id) [] = .ok [⟨htonl 1, msg ++ relleno⟩] := by
  have hpack : pack ([0, 0, 0, 0] ++ msg) Tipo.user.id = [0, 0, 0, 1, 0, 0, 0, 0] ++ msg := rfl
  obtain ⟨relleno, hlargo, hleer⟩ := leer_append ([0, 0, 0, 1, 0, 0, 0, 0] ++ msg) heap sizeofLong
  have htipo : conSigno 64 (valorLE [0, 0, 0, 1, 0, 0, 0, 0]) = htonl 1 := by decide
  have htake : (([0, 0, 0, 1, 0, 0, 0, 0] : List UInt8) ++ (msg ++ relleno)).take sizeofLong =
      [0, 0, 0, 1, 0, 0, 0, 0] :=
    List.take_left' rfl
  have hdrop : (([0, 0, 0, 1, 0, 0, 0, 0] : List UInt8) ++ (msg ++ relleno)).drop sizeofLong =
      msg ++ relleno :=
    List.drop_left' rfl
  refine ⟨relleno, hlargo, ?_⟩
  unfold ipcPush
  dsimp only
  rw [hpack, Nat.add_comm, hleer, List.append_assoc, htake, hdrop, htipo]
  exact push_singleton (by decide) _

/-- The 8 bytes are counted and copied like those of the message. -/
theorem pull_ok {relleno : List UInt8} (hrelleno : relleno.length = sizeofLong)
    (hmax : maxSizeMsg ≤ groupMaxMessageSize) (h : msg.length ≤ maxSizeMsg) :
    pull maxSizeMsg [⟨htonl 1, msg ++ relleno⟩] buf =
      .ok (msg.length + sizeofLong, [],
        fun i => if i < msg.length + sizeofLong then (msg ++ relleno).getD i 0 else buf i) := by
  have hlargo : (msg ++ relleno).length = msg.length + sizeofLong := by
    rw [List.length_append, hrelleno]
  unfold pull
  rw [if_neg (by omega), pull_singleton (criterio_htonl _ _) (by rw [hlargo]; omega), ← hlargo]
  rfl

/-! ## The whole trip -/

/-- A message of up to 8184 bytes arrives followed by 8 bytes of the heap of another process. -/
theorem viaje_ok (e : Entorno) (buf : Nat → UInt8) (hn : msg.length + sizeofLong ≤ groupMaxMessageSize)
    (h : msg.length ≤ maxSizeMsg) (hmax : maxSizeMsg ≤ groupMaxMessageSize) :
    ∃ relleno, relleno.length = sizeofLong ∧
      viaje e msg maxSizeMsg buf = .ok (msg.length + sizeofLong,
        fun i => if i < msg.length + sizeofLong then (msg ++ relleno).getD i 0 else buf i) := by
  obtain ⟨relleno₁, hlargo₁, hpush⟩ := push_ok e.pila (Nat.le_trans h hmax)
  obtain ⟨paquete, htrama⟩ : ∃ paquete, trama 1 ([0, 0, 0, 0] ++ msg) = .ok paquete := by
    unfold trama
    refine ⟨_, if_neg ?_⟩
    rw [List.length_append]
    unfold groupMaxMessageSize at hmax
    unfold maxPayload
    simp only [List.length_cons, List.length_nil]
    omega
  obtain ⟨r, hdestramar⟩ := destramar_trama .user e.trozos htrama
  obtain ⟨relleno₂, hlargo₂, hipcPush⟩ := ipcPush_ok e.heap msg
  refine ⟨relleno₂, hlargo₂, ?_⟩
  unfold viaje
  simp only [hpush, ipcPull_ok hlargo₁ hn, unpack_ok, htrama, hdestramar, hipcPush,
    pull_ok hlargo₂ hmax h, ok_bind]
  rfl

/-- The outbound process cannot take a longer one out of the queue. -/
theorem viaje_demasiado (e : Entorno) (maxSizeMsg : Nat) (buf : Nat → UInt8)
    (hn : msg.length ≤ groupMaxMessageSize) (h : groupMaxMessageSize < msg.length + sizeofLong) :
    viaje e msg maxSizeMsg buf = .error .osError := by
  obtain ⟨relleno, hlargo, hpush⟩ := push_ok e.pila hn
  unfold viaje
  simp only [hpush, ipcPull_demasiado hlargo h, ok_bind]
  rfl

/-- No message that `push` accepts arrives as the one that was sent. -/
theorem mensaje_no_llega_intacto (e : Entorno) (msg : List UInt8) (maxSizeMsg : Nat) (buf : Nat → UInt8)
    (h : msg.length ≤ maxSizeMsg) (hmax : maxSizeMsg ≤ groupMaxMessageSize) :
    ¬ LlegaIntacto e msg maxSizeMsg buf := by
  rintro ⟨buf', hviaje, -, -⟩
  by_cases hn : msg.length + sizeofLong ≤ groupMaxMessageSize
  · obtain ⟨relleno, -, hviaje'⟩ := viaje_ok e buf hn h hmax
    rw [hviaje'] at hviaje
    -- the size that is returned
    have hsize : msg.length + sizeofLong = msg.length := congrArg Prod.fst (Except.ok.inj hviaje)
    unfold sizeofLong at hsize
    omega
  · rw [viaje_demasiado e maxSizeMsg buf (Nat.le_trans h hmax) (Nat.lt_of_not_le hn)] at hviaje
    cases hviaje

theorem mensaje_no_llega_intacto_un_byte :
    ¬ LlegaIntacto ⟨fun _ => 0, fun _ => 7, []⟩ [65] 1 fun _ => 9 :=
  mensaje_no_llega_intacto _ _ _ _ (by decide) (by decide)

/-- A message of one byte for a buffer of one byte: `pull` says that it has stored 9. -/
theorem mensaje_desborda : ¬ ∀ (e : Entorno) (msg : List UInt8) (maxSizeMsg : Nat) (buf : Nat → UInt8),
    msg.length ≤ maxSizeMsg → maxSizeMsg ≤ groupMaxMessageSize → LlegaIntacto e msg maxSizeMsg buf := by
  intro h
  obtain ⟨buf', hviaje, -, -⟩ :=
    h ⟨fun _ => 0, fun _ => 7, []⟩ [65] 1 (fun _ => 9) (by decide) (by decide)
  obtain ⟨relleno, -, hviaje'⟩ := viaje_ok ⟨fun _ => 0, fun _ => 7, []⟩ (fun _ => 9)
    (show ([65] : List UInt8).length + sizeofLong ≤ _ by decide) (Nat.le_refl 1) (by decide)
  rw [hviaje'] at hviaje
  -- it returns 9
  cases congrArg Prod.fst (Except.ok.inj hviaje)

end GroupInterface
