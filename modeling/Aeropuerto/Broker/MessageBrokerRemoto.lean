import Aeropuerto.Biblioteca.Flujo
import Aeropuerto.Broker.MessageBroker

/-!
# The remote message broker (`message_broker_stub.cpp`, `message_broker_server.cpp`)

`MessageBrokerStub` sends a request, `MessageBrokerServer::client_handler` makes the call on its
`MessageBroker` and sends a response.  Both structures are local variables that nobody initialises, so
what is not assigned is whatever they had before.  With a log, `client_handler` first writes the request
there, which throws for an empty queue id: the process that serves the connection ends, and the stub,
which does not look at how much it receives, goes on with its own response.
-/

namespace MessageBrokerRemoto

open Flujo Enteros MessageBroker
open ColaDeMensajes (Mensaje)

/-- `MAX_MSG_SIZE`. -/
def maxMsgSize : Nat := 16384

def sizeofLong : Nat := 8

/-! ## The structures -/

structure BrokerRequest where
  mtypebroker : Bufer UInt8 4
  senderProcname : Bufer UInt8 255
  queueId : Bufer UInt8 255
  alineacion : Bufer UInt8 6
  sizeTxt : Bufer UInt8 8
  maxSizeTxt : Bufer UInt8 8
  type : Bufer UInt8 8
  msg : Bufer UInt8 maxMsgSize

structure BrokerResponse where
  mtypebroker : Bufer UInt8 4
  msg : Bufer UInt8 maxMsgSize
  alineacion : Bufer UInt8 4
  msgSize : Bufer UInt8 8

def sizeofRequest : Nat := 4 + (255 + (255 + (6 + (8 + (8 + (8 + maxMsgSize))))))

def sizeofResponse : Nat := 4 + (maxMsgSize + (4 + 8))

def brokerCreate : Nat := 0
def brokerPush : Nat := 1
def brokerPull : Nat := 2
def brokerDestroy : Nat := 3
def brokerError : Nat := 4
def brokerOk : Nat := 5

def juntar {n k : Nat} (b : Bufer UInt8 n) (c : Bufer UInt8 k) : Bufer UInt8 (n + k) :=
  ⟨b.datos ++ c.datos, by rw [List.length_append, b.largo, c.largo]⟩

def separar {n k : Nat} (b : Bufer UInt8 (n + k)) : Bufer UInt8 n × Bufer UInt8 k :=
  (⟨b.datos.take n, List.length_take_of_le (by rw [b.largo]; omega)⟩,
    ⟨b.datos.drop n, by rw [List.length_drop, b.largo]; omega⟩)

/-- The bytes of the object. -/
def BrokerRequest.bytes (r : BrokerRequest) : Bufer UInt8 sizeofRequest :=
  juntar r.mtypebroker (juntar r.senderProcname (juntar r.queueId (juntar r.alineacion
    (juntar r.sizeTxt (juntar r.maxSizeTxt (juntar r.type r.msg))))))

def BrokerRequest.deBytes (b : Bufer UInt8 sizeofRequest) : BrokerRequest :=
  let (mtypebroker, b) := separar (n := 4) b
  let (senderProcname, b) := separar (n := 255) b
  let (queueId, b) := separar (n := 255) b
  let (alineacion, b) := separar (n := 6) b
  let (sizeTxt, b) := separar (n := 8) b
  let (maxSizeTxt, b) := separar (n := 8) b
  let (type, msg) := separar (n := 8) b
  { mtypebroker, senderProcname, queueId, alineacion, sizeTxt, maxSizeTxt, type, msg }

def BrokerResponse.bytes (r : BrokerResponse) : Bufer UInt8 sizeofResponse :=
  juntar r.mtypebroker (juntar r.msg (juntar r.alineacion r.msgSize))

def BrokerResponse.deBytes (b : Bufer UInt8 sizeofResponse) : BrokerResponse :=
  let (mtypebroker, b) := separar (n := 4) b
  let (msg, b) := separar (n := maxMsgSize) b
  let (alineacion, msgSize) := separar (n := 4) b
  { mtypebroker, msg, alineacion, msgSize }

theorem separar_juntar {n k : Nat} (b : Bufer UInt8 n) (c : Bufer UInt8 k) :
    separar (juntar b c) = (b, c) := by
  apply Prod.ext
  · exact Bufer.ext (List.take_left' b.largo)
  · exact Bufer.ext (List.drop_left' b.largo)

theorem BrokerRequest.deBytes_bytes (r : BrokerRequest) : deBytes r.bytes = r := by
  unfold deBytes bytes
  simp only [separar_juntar]

theorem BrokerResponse.deBytes_bytes (r : BrokerResponse) : deBytes r.bytes = r := by
  unfold deBytes bytes
  simp only [separar_juntar]

/-- An `int` or a `size_t` of a structure. -/
def valor {n : Nat} (b : Bufer UInt8 n) : Nat := valorLE b.datos

def entero (n v : Nat) : Bufer UInt8 n := ⟨bytesLE n v, length_bytesLE n v⟩

theorem valor_entero {n v : Nat} (h : v < 256 ^ n) : valor (entero n v) = v := valorLE_bytesLE n h

/-- The string that a field holds. -/
def cadena {n : Nat} (b : Bufer UInt8 n) : List UInt8 := b.datos.takeWhile (· != 0)

/-! ## The socket -/

/-- `sendall`: each `sendsome` takes at least one byte. -/
def sendall {n : Nat} (b : Bufer UInt8 n) (trozos : List Nat) : Except Falla (List UInt8) := do
  let (_, salida, _) ← enviar id b (trozos.map fun k => some (k + 1)) 0 []
  return salida

/-- `receiveall`. -/
def receiveall {n : Nat} (b : Bufer UInt8 n) (salida : List UInt8) (trozos : List Nat) :
    Except Falla (Bufer UInt8 n × Bool) := do
  let (b, _, completo) ← recibir (fun _ => false) b ⟨salida, trozos⟩ 0
  return (b, completo)

/-! ## The calls -/

/-- A call with its arguments.  `hayLugar` says whether the system can create one more queue, and
    `memoria` is the memory of the caller from its buffer on. -/
inductive Llamada where
  | createQueue (queueId : List UInt8) (corta : queueId.length < 255 ∧ 0 ∉ queueId) (hayLugar : Bool)
  | destroyQueue (queueId : List UInt8) (corta : queueId.length < 255 ∧ 0 ∉ queueId)
  | push (queueId : List UInt8) (corta : queueId.length < 255 ∧ 0 ∉ queueId) (msg : List UInt8)
      (sizeTxt : Nat) (cabe : sizeTxt + sizeofLong ≤ maxMsgSize) (largo : msg.length = sizeTxt + sizeofLong)
  | pull (queueId : List UInt8) (corta : queueId.length < 255 ∧ 0 ∉ queueId) (memoria : Nat → UInt8)
      (maxSizeTxt : Nat) (cabe : maxSizeTxt + sizeofLong ≤ maxMsgSize) (type : BitVec 64)

def Llamada.queueId : Llamada → List UInt8
  | .createQueue queueId _ _ => queueId
  | .destroyQueue queueId _ => queueId
  | .push queueId _ _ _ _ _ => queueId
  | .pull queueId _ _ _ _ _ => queueId

/-- How a call ends. -/
inductive Resultado where
  | hecho
  | recibido (n : Int) (memoria : Nat → UInt8)
  | error
  | espera

def Resultado.de : Except Error Unit → Resultado
  | .ok () => .hecho
  | .error .messageBrokerError => .error
  | .error .espera => .espera

/-- What `msgsnd` reads and `msgrcv` writes: the type and the text. -/
def bytesMensaje (m : Mensaje UInt8) : List UInt8 :=
  bytesLE sizeofLong (BitVec.ofInt 64 m.tipo).toNat ++ m.texto

def mtype (msg : List UInt8) : Int := conSigno 64 (valorLE (msg.take sizeofLong))

def copiar (memoria : Nat → UInt8) (bytes : List UInt8) : Nat → UInt8 :=
  fun i => if i < bytes.length then bytes.getD i 0 else memoria i

def Resultado.dePull (memoria : Nat → UInt8) : Except Error (Mensaje UInt8) → Resultado
  | .ok m => .recibido m.texto.length (copiar memoria (bytesMensaje m))
  | .error .messageBrokerError => .error
  | .error .espera => .espera

/-- The call on `MessageBroker`. -/
def directa (b : Broker) : Llamada → Broker × Resultado
  | .createQueue queueId _ hayLugar =>
    let (b, r) := b.createQueue queueId hayLugar
    (b, .de r)
  | .destroyQueue queueId _ =>
    let (b, r) := b.destroyQueue queueId
    (b, .de r)
  | .push queueId _ msg _ _ _ =>
    let (b, r) := b.push queueId (mtype msg) (msg.drop sizeofLong)
    (b, .de r)
  | .pull queueId _ memoria maxSizeTxt _ type =>
    let (b, r) := b.pull queueId maxSizeTxt type.toInt
    (b, .dePull memoria r)

/-! ## The server -/

/-- What `client_handler` does with a request: it sends a response, it waits in the call, or it ends with
    an exception, so that the socket is closed. -/
inductive Atencion where
  | responde (response : BrokerResponse)
  | espera
  | termina

def responder (response : BrokerResponse) : Except Error Unit → Atencion
  | .ok () => .responde response
  | .error .messageBrokerError => .responde { response with mtypebroker := entero 4 brokerError }
  | .error .espera => .espera

/-- `operator<<`; `none` is `std::length_error`. -/
def BrokerRequest.volcar (request : BrokerRequest) : Option BrokerRequest :=
  let mtypebroker := valor request.mtypebroker
  let sizeTxt :=
    if mtypebroker = brokerCreate ∨ mtypebroker = brokerPull ∨ mtypebroker = brokerDestroy then
      entero 8 0
    else request.sizeTxt
  -- qname has strlen(queue_id) - 1 characters
  if cadena request.queueId = [] then none else some { request with sizeTxt }

/-- The `switch` of `client_handler` and what follows. -/
def atender (b : Broker) (request : BrokerRequest) (response : BrokerResponse) (hayLugar : Bool) :
    Except Falla (Broker × Atencion) :=
  let queueId := cadena request.queueId
  if valor request.mtypebroker = brokerCreate then
    let (b, r) := b.createQueue queueId hayLugar
    .ok (b, responder response r)
  else if valor request.mtypebroker = brokerPush then do
    let msg ← request.msg.leer 0 (valor request.sizeTxt + sizeofLong)
    let (b, r) := b.push queueId (mtype msg) (msg.drop sizeofLong)
    return (b, responder response r)
  else if valor request.mtypebroker = brokerPull then
    match b.pull queueId (valor request.maxSizeTxt) (conSigno 64 (valor request.type)) with
    | (b, .error .espera) => .ok (b, .espera)
    | (b, .error .messageBrokerError) => .ok (b, responder response (.error .messageBrokerError))
    | (b, .ok m) => do
      -- the size that pull returns is not kept
      let msg ← response.msg.escribir 0 (bytesMensaje m)
      return (b, .responde { response with msg })
  else if valor request.mtypebroker = brokerDestroy then
    let (b, r) := b.destroyQueue queueId
    .ok (b, responder response r)
  else .ok (b, .responde response)

/-- The body of the loop of `client_handler` on a request; `registro` is `log_file.is_open()`. -/
def clientHandler (registro : Bool) (b : Broker) (request : BrokerRequest) (response : BrokerResponse)
    (hayLugar : Bool) : Except Falla (Broker × Atencion) :=
  let response := { response with mtypebroker := entero 4 brokerOk }
  if registro then
    match request.volcar with
    -- out of the two try blocks
    | none => .ok (b, .termina)
    | some request => atender b request response hayLugar
  else atender b request response hayLugar

/-! ## The stub -/

/-- What one call finds: the old contents of the structures on both sides, how the socket cuts what is
    sent and received, and, where the server has closed the connection before the call, whether the
    system reports it. -/
structure Entorno where
  request : BrokerRequest
  response : BrokerResponse
  requestServidor : BrokerRequest
  responseStub : BrokerResponse
  envioRequest : List Nat
  recepcionRequest : List Nat
  envioResponse : List Nat
  recepcionResponse : List Nat
  cortada : Bool

/-- What the stub has after `sendall` and `receiveall`: nothing yet, an `OSError`, or a response. -/
inductive Respuesta where
  | espera
  | error
  | llega (response : BrokerResponse)

/-- Sends the request and receives the response; `viva` says whether the other side is still there. -/
def pedir (registro viva : Bool) (b : Broker) (request : BrokerRequest) (e : Entorno) (hayLugar : Bool) :
    Except Falla (Broker × Bool × Respuesta) :=
  if viva then do
    let salida ← sendall request.bytes e.envioRequest
    let (recibida, completo) ← receiveall e.requestServidor.bytes salida e.recepcionRequest
    if !completo then throw .cerrado
    else
      match ← clientHandler registro b (.deBytes recibida) e.response hayLugar with
      | (b, .espera) => return (b, true, .espera)
      | (b, .termina) =>
        let (recibida, _) ← receiveall e.responseStub.bytes [] e.recepcionResponse
        return (b, false, .llega (.deBytes recibida))
      | (b, .responde response) =>
        let salida ← sendall response.bytes e.envioResponse
        let (recibida, _) ← receiveall e.responseStub.bytes salida e.recepcionResponse
        return (b, true, .llega (.deBytes recibida))
  else .ok (b, false, if e.cortada then .error else .llega e.responseStub)

/-- `create_queue` and `destroy_queue` and `push` only look at whether there was an error. -/
def Resultado.deRespuesta : Respuesta → Resultado
  | .espera => .espera
  | .error => .error
  | .llega response => if valor response.mtypebroker = brokerError then .error else .hecho

/-- The call on `MessageBrokerStub`. -/
def remota (registro viva : Bool) (b : Broker) (e : Entorno) :
    Llamada → Except Falla (Broker × Bool × Resultado)
  | .createQueue queueId _ hayLugar => do
    let queueId ← e.request.queueId.escribir 0 (queueId ++ [0])
    let (b, viva, r) ← pedir registro viva b
      { e.request with mtypebroker := entero 4 brokerCreate, queueId } e hayLugar
    return (b, viva, .deRespuesta r)
  | .destroyQueue queueId _ => do
    let queueId ← e.request.queueId.escribir 0 (queueId ++ [0])
    let (b, viva, r) ← pedir registro viva b
      { e.request with mtypebroker := entero 4 brokerDestroy, queueId } e true
    return (b, viva, .deRespuesta r)
  | .push queueId _ msg sizeTxt _ _ =>
    if sizeTxt + sizeofLong > maxMsgSize then .ok (b, viva, .error)
    else do
      let queueId ← e.request.queueId.escribir 0 (queueId ++ [0])
      let msg ← e.request.msg.escribir 0 msg
      let (b, viva, r) ← pedir registro viva b
        { e.request with mtypebroker := entero 4 brokerPush, queueId, sizeTxt := entero 8 sizeTxt, msg } e true
      return (b, viva, .deRespuesta r)
  | .pull queueId _ memoria maxSizeTxt _ type => do
    let queueId ← e.request.queueId.escribir 0 (queueId ++ [0])
    if maxSizeTxt + sizeofLong > maxMsgSize then return (b, viva, .error)
    else
      let (b, viva, r) ← pedir registro viva b
        { e.request with
          mtypebroker := entero 4 brokerPull, queueId, maxSizeTxt := entero 8 maxSizeTxt,
          type := entero 8 type.toNat } e true
      match r with
      | .espera => return (b, viva, .espera)
      | .error => return (b, viva, .error)
      | .llega response =>
        if valor response.mtypebroker = brokerError then return (b, viva, .error)
        else
          let bytes ← response.msg.leer 0 (maxSizeTxt + sizeofLong)
          return (b, viva, .recibido (conSigno 64 (valor response.msgSize)) (copiar memoria bytes))

/-! ## Sequences of calls -/

def Resultado.esEspera : Resultado → Bool
  | .espera => true
  | _ => false

/-- One call after another, up to one that waits for ever. -/
def directas (b : Broker) : List Llamada → Broker × List Resultado
  | [] => (b, [])
  | c :: cs =>
    let (b, r) := directa b c
    if r.esEspera then (b, [r])
    else
      let (b, rs) := directas b cs
      (b, r :: rs)

def remotas (registro viva : Bool) (b : Broker) :
    List (Llamada × Entorno) → Except Falla (Broker × List Resultado)
  | [] => .ok (b, [])
  | (c, e) :: cs => do
    let (b, viva, r) ← remota registro viva b e c
    if r.esEspera then return (b, [r])
    else
      let (b, rs) ← remotas registro viva b cs
      return (b, r :: rs)

/-- The same results of the calls and the same final broker. -/
def Equivalentes (registro : Bool) (b : Broker) (cs : List (Llamada × Entorno)) : Prop :=
  remotas registro true b cs = .ok (directas b (cs.map Prod.fst))

/-- For a pull that finds a message: the response already had its size, and after the message the bytes
    that the caller has in the rest of the buffer. -/
def YaEstaba (b : Broker) (e : Entorno) : Llamada → Prop
  | .pull queueId _ memoria maxSizeTxt _ type => ∀ b' m, b.pull queueId maxSizeTxt type.toInt = (b', .ok m) →
    conSigno 64 (valor e.response.msgSize) = m.texto.length ∧
      ∀ i, m.texto.length + sizeofLong ≤ i → i < maxSizeTxt + sizeofLong →
        e.response.msg.datos.getD i 0 = memoria i
  | _ => True

/-- What the stub returns when it receives nothing: what its own response had. -/
def Resultado.sinRespuesta (e : Entorno) (cortada : Bool) : Llamada → Resultado
  | .pull _ _ memoria maxSizeTxt _ _ =>
    if cortada ∨ valor e.responseStub.mtypebroker = brokerError then .error
    else .recibido (conSigno 64 (valor e.responseStub.msgSize))
      (copiar memoria (e.responseStub.msg.datos.take (maxSizeTxt + sizeofLong)))
  | _ => if cortada ∨ valor e.responseStub.mtypebroker = brokerError then .error else .hecho

/-- The results of the calls after the server has closed the connection. -/
def perdidas (cs : List (Llamada × Entorno)) : List Resultado :=
  cs.map fun (c, e) => .sinRespuesta e e.cortada c

/-- Every pull that finds a message meets its condition; and where a call with an empty queue id ends the
    server, the calls from it on leave the broker as it is and end as the stub's own responses say. -/
def YaEstaban (registro : Bool) (b : Broker) : List (Llamada × Entorno) → Prop
  | [] => True
  | (c, e) :: cs =>
    if registro ∧ c.queueId = [] then
      directas b (c :: cs.map Prod.fst) = (b, .sinRespuesta e false c :: perdidas cs)
    else YaEstaba b e c ∧ ((directa b c).2.esEspera = false → YaEstaban registro (directa b c).1 cs)

/-! ## The socket is transparent -/

theorem sendall_eq {n : Nat} (b : Bufer UInt8 n) (trozos : List Nat) : sendall b trozos = .ok b.datos := by
  obtain ⟨resto, h⟩ : ∃ resto, enviar id b (trozos.map fun k => some (k + 1)) 0 [] =
      .ok (id b, [] ++ (id b).datos.drop 0, resto) :=
    enviar_ok (fun _ => rfl) (.inr rfl) (Nat.zero_le n)
  unfold sendall
  rw [h]
  rfl

theorem receiveall_eq {n : Nat} (hn : 0 < n) (viejo b : Bufer UInt8 n) (trozos : List Nat) :
    receiveall viejo b.datos trozos = .ok (b, true) := by
  obtain ⟨b', red, h, hdatos, -⟩ : ∃ b' red, recibir (fun _ => false) viejo ⟨b.datos, trozos⟩ 0 =
      .ok (b', red, true) ∧ b'.datos = b.datos ∧ red.bytes = [] :=
    recibir_ok b.largo viejo.largo hn (mezcla_zero _ _).symm (by simp) fun _ _ _ => rfl
  unfold receiveall
  rw [h, Bufer.ext hdatos]
  rfl

theorem receiveall_nil {n : Nat} (viejo : Bufer UInt8 n) (trozos : List Nat) :
    receiveall viejo [] trozos = .ok (viejo, false) := by
  have hnada : viejo.escribir 0 [] = .ok viejo := by
    obtain ⟨b', hb', hdatos⟩ := escribir_cero (b := viejo)
      (show ([] : List UInt8).length ≤ n from Nat.zero_le n)
    have hmismo : b' = viejo := Bufer.ext (by simpa using hdatos)
    rw [hb', hmismo]
  unfold receiveall
  rw [recibir]
  simp only [Red.receivesome, List.take_nil, hnada]
  rfl

variable {registro : Bool} {b b' : Broker} {e : Entorno}

/-- Whether the connection goes on, and what the stub has. -/
def Atencion.enStub (responseStub : BrokerResponse) : Atencion → Bool × Respuesta
  | .responde response => (true, .llega response)
  | .espera => (true, .espera)
  | .termina => (false, .llega responseStub)

/-- However both structures are cut, the stub gets the response of the handler to its request. -/
theorem pedir_eq (registro : Bool) (b : Broker) (request : BrokerRequest) (e : Entorno) (hayLugar : Bool) :
    pedir registro true b request e hayLugar =
      (clientHandler registro b request e.response hayLugar).map fun r =>
        (r.1, r.2.enStub e.responseStub) := by
  unfold pedir
  rw [if_pos rfl, sendall_eq, ok_bind, receiveall_eq (by decide), ok_bind]
  simp only [Bool.not_true, Bool.false_eq_true, if_false, BrokerRequest.deBytes_bytes]
  cases clientHandler registro b request e.response hayLugar with
  | error falla => rfl
  | ok r =>
    rw [ok_bind]
    obtain ⟨b', atencion⟩ := r
    cases atencion with
    | espera => rfl
    | termina =>
      simp only [receiveall_nil, ok_bind, BrokerResponse.deBytes_bytes]
      rfl
    | responde response =>
      simp only [sendall_eq, ok_bind, receiveall_eq (show 0 < sizeofResponse by decide),
        BrokerResponse.deBytes_bytes]
      rfl

/-! ## The fields -/

theorem escribir_cadena {n : Nat} (b : Bufer UInt8 n) {s : List UInt8} (hn : s.length < n) (hs : 0 ∉ s) :
    ∃ b', b.escribir 0 (s ++ [0]) = .ok b' ∧ cadena b' = s := by
  obtain ⟨b', hb', hdatos⟩ := escribir_cero (b := b) (show (s ++ [0]).length ≤ n by simpa using hn)
  refine ⟨b', hb', ?_⟩
  have hne : ∀ x ∈ s, (x != 0) = true := by
    intro x hx
    have hne : x ≠ 0 := fun h => hs (h ▸ hx)
    simpa using hne
  unfold cadena
  rw [hdatos, List.append_assoc, List.takeWhile_append_of_pos hne]
  simp

theorem enStub_responder (response responseStub : BrokerResponse)
    (hok : response.mtypebroker = entero 4 brokerOk) (r : Except Error Unit) :
    ((responder response r).enStub responseStub).1 = true ∧
      Resultado.deRespuesta ((responder response r).enStub responseStub).2 = .de r := by
  have hcodigo : valor response.mtypebroker ≠ brokerError := by
    rw [hok]
    decide
  cases r with
  | ok u => exact ⟨rfl, if_neg hcodigo⟩
  | error error =>
    cases error with
    | messageBrokerError =>
      have herror : valor (entero 4 brokerError) = brokerError := by decide
      refine ⟨rfl, ?_⟩
      show (if valor (entero 4 brokerError) = brokerError then Resultado.error else .hecho) = _
      rw [if_pos herror]
      rfl
    | espera => exact ⟨rfl, rfl⟩

/-! ## The log -/

section

variable {request : BrokerRequest} {response : BrokerResponse} {hayLugar : Bool}

/-- Only a push looks at the size. -/
theorem atender_sizeTxt (h : valor request.mtypebroker ≠ brokerPush) (sizeTxt : Bufer UInt8 8) :
    atender b { request with sizeTxt } response hayLugar = atender b request response hayLugar := by
  unfold atender
  simp only [if_neg h]

/-- The name of the queue is written in the log and the call goes on. -/
theorem clientHandler_atiende (h : ¬ (registro = true ∧ cadena request.queueId = [])) :
    clientHandler registro b request response hayLugar =
      atender b request { response with mtypebroker := entero 4 brokerOk } hayLugar := by
  unfold clientHandler
  cases registro with
  | false => rfl
  | true =>
    have hnombre : cadena request.queueId ≠ [] := fun hvacia => h ⟨rfl, hvacia⟩
    unfold BrokerRequest.volcar
    simp only [if_true, if_neg hnombre]
    split
    · rename_i htipo
      apply atender_sizeTxt
      intro hpush
      rw [hpush] at htipo
      revert htipo
      decide
    · rfl

theorem clientHandler_termina (h : registro = true ∧ cadena request.queueId = []) :
    clientHandler registro b request response hayLugar = .ok (b, .termina) := by
  obtain ⟨rfl, hvacia⟩ := h
  unfold clientHandler BrokerRequest.volcar
  simp only [if_true, if_pos hvacia]

end

/-- Nobody answers: the connection was closed before, or the log ends the server. -/
theorem pedir_sinRespuesta {viva : Bool} (request : BrokerRequest) {hayLugar : Bool}
    (h : viva = false ∨ (registro = true ∧ cadena request.queueId = [])) :
    pedir registro viva b request e hayLugar =
      .ok (b, false, if (!viva && e.cortada) = true then .error else .llega e.responseStub) := by
  cases viva with
  | false => rfl
  | true =>
    have hlog := h.resolve_left Bool.noConfusion
    rw [pedir_eq, clientHandler_termina hlog]
    rfl

theorem deRespuesta_sinRespuesta (cortada : Bool) (responseStub : BrokerResponse) :
    Resultado.deRespuesta (if cortada = true then .error else .llega responseStub) =
      if cortada = true ∨ valor responseStub.mtypebroker = brokerError then .error else .hecho := by
  cases cortada
  · simp [Resultado.deRespuesta]
  · simp [Resultado.deRespuesta]

/-- The stub returns what its own response had. -/
theorem remota_sinRespuesta (viva : Bool) {c : Llamada}
    (h : viva = false ∨ (registro = true ∧ c.queueId = [])) :
    remota registro viva b e c = .ok (b, false, .sinRespuesta e (!viva && e.cortada) c) := by
  cases c with
  | createQueue queueId corta hayLugar =>
    obtain ⟨campo, hcampo, rfl⟩ := escribir_cadena e.request.queueId corta.1 corta.2
    unfold remota
    simp only [hcampo, ok_bind, pedir_sinRespuesta ({ e.request with
      mtypebroker := entero 4 brokerCreate, queueId := campo }) h, deRespuesta_sinRespuesta]
    rfl
  | destroyQueue queueId corta =>
    obtain ⟨campo, hcampo, rfl⟩ := escribir_cadena e.request.queueId corta.1 corta.2
    unfold remota
    simp only [hcampo, ok_bind, pedir_sinRespuesta ({ e.request with
      mtypebroker := entero 4 brokerDestroy, queueId := campo }) h, deRespuesta_sinRespuesta]
    rfl
  | push queueId corta msg sizeTxt cabe largo =>
    obtain ⟨campo, hcampo, rfl⟩ := escribir_cadena e.request.queueId corta.1 corta.2
    obtain ⟨mensaje, hmensaje, -⟩ :=
      escribir_cero (b := e.request.msg) (Nat.le_trans (Nat.le_of_eq largo) cabe)
    have hcabe : ¬ sizeTxt + sizeofLong > maxMsgSize := by omega
    unfold remota
    simp only [if_neg hcabe, hcampo, hmensaje, ok_bind, pedir_sinRespuesta ({ e.request with
      mtypebroker := entero 4 brokerPush, queueId := campo, sizeTxt := entero 8 sizeTxt
      msg := mensaje }) h, deRespuesta_sinRespuesta]
    rfl
  | pull queueId corta memoria maxSizeTxt cabe type =>
    obtain ⟨campo, hcampo, rfl⟩ := escribir_cadena e.request.queueId corta.1 corta.2
    have hcabe : ¬ maxSizeTxt + sizeofLong > maxMsgSize := by omega
    have hleer : e.responseStub.msg.leer 0 (maxSizeTxt + sizeofLong) =
        .ok (e.responseStub.msg.datos.take (maxSizeTxt + sizeofLong)) := by
      rw [leer_ok (by omega), List.drop_zero]
    unfold remota Resultado.sinRespuesta
    simp only [if_neg hcabe, hcampo, ok_bind, pedir_sinRespuesta ({ e.request with
      mtypebroker := entero 4 brokerPull, queueId := campo, maxSizeTxt := entero 8 maxSizeTxt
      type := entero 8 type.toNat }) h]
    cases (!viva && e.cortada) with
    | true => rfl
    | false =>
      by_cases herror : valor e.responseStub.mtypebroker = brokerError
      · simp [herror]
        rfl
      · simp [herror, hleer]

theorem remotas_sinRespuesta (b : Broker) (cs : List (Llamada × Entorno)) :
    remotas registro false b cs = .ok (b, perdidas cs) := by
  induction cs with
  | nil => rfl
  | cons ce cs ih =>
    obtain ⟨c, e⟩ := ce
    have hsigue : (Resultado.sinRespuesta e (!false && e.cortada) c).esEspera = false := by
      unfold Resultado.sinRespuesta
      split <;> split <;> rfl
    simp only [remotas, remota_sinRespuesta false (.inl rfl), ok_bind, hsigue, ih]
    rfl

/-! ## Calls that return no message -/

/-- The response of the handler before the call. -/
def Entorno.conOk (e : Entorno) : BrokerResponse := { e.response with mtypebroker := entero 4 brokerOk }

section

variable {request : BrokerRequest} {hayLugar : Bool}

theorem atender_createQueue (h : request.mtypebroker = entero 4 brokerCreate) :
    atender b request e.conOk hayLugar =
      .ok ((b.createQueue (cadena request.queueId) hayLugar).1,
        responder e.conOk (b.createQueue (cadena request.queueId) hayLugar).2) := by
  unfold atender
  rw [h]
  exact if_pos (by decide)

theorem atender_destroyQueue (h : request.mtypebroker = entero 4 brokerDestroy) :
    atender b request e.conOk hayLugar =
      .ok ((b.destroyQueue (cadena request.queueId)).1,
        responder e.conOk (b.destroyQueue (cadena request.queueId)).2) := by
  unfold atender
  rw [h]
  dsimp only
  rw [if_neg (by decide), if_neg (by decide), if_neg (by decide), if_pos (by decide)]

theorem atender_push (h : request.mtypebroker = entero 4 brokerPush) {msg : List UInt8}
    (hmsg : request.msg.leer 0 (valor request.sizeTxt + sizeofLong) = .ok msg) :
    atender b request e.conOk hayLugar =
      .ok ((b.push (cadena request.queueId) (mtype msg) (msg.drop sizeofLong)).1,
        responder e.conOk (b.push (cadena request.queueId) (mtype msg) (msg.drop sizeofLong)).2) := by
  unfold atender
  rw [h, hmsg]
  dsimp only
  rw [if_neg (by decide), if_pos (by decide)]
  rfl

/-- What the stub makes of the handler's answer to a call that returns no message. -/
theorem remota_deResponder {f : Broker × Except Error Unit} {r : Except Falla (Broker × Atencion)}
    (h : r = .ok (f.1, responder e.conOk f.2)) :
    (r.map fun r => (r.1, r.2.enStub e.responseStub)) >>= (fun r =>
        (.ok (r.1, r.2.1, Resultado.deRespuesta r.2.2) : Except Falla (Broker × Bool × Resultado))) =
      .ok (f.1, true, .de f.2) := by
  obtain ⟨hviva, hresultado⟩ := enStub_responder e.conOk e.responseStub rfl f.2
  subst h
  show Except.ok (_, _, _) = _
  rw [hviva, hresultado]

end

theorem remota_createQueue (queueId : List UInt8) (corta) (hayLugar : Bool)
    (h : ¬ (registro = true ∧ queueId = [])) :
    remota registro true b e (.createQueue queueId corta hayLugar) =
      .ok ((directa b (.createQueue queueId corta hayLugar)).1, true,
        (directa b (.createQueue queueId corta hayLugar)).2) := by
  obtain ⟨campo, hcampo, rfl⟩ := escribir_cadena e.request.queueId corta.1 corta.2
  unfold remota
  simp only [hcampo, ok_bind, pedir_eq]
  rw [clientHandler_atiende h]
  exact remota_deResponder (atender_createQueue rfl)

theorem remota_destroyQueue (queueId : List UInt8) (corta) (h : ¬ (registro = true ∧ queueId = [])) :
    remota registro true b e (.destroyQueue queueId corta) =
      .ok ((directa b (.destroyQueue queueId corta)).1, true,
        (directa b (.destroyQueue queueId corta)).2) := by
  obtain ⟨campo, hcampo, rfl⟩ := escribir_cadena e.request.queueId corta.1 corta.2
  unfold remota
  simp only [hcampo, ok_bind, pedir_eq]
  rw [clientHandler_atiende h]
  exact remota_deResponder (atender_destroyQueue rfl)

theorem remota_push (queueId : List UInt8) (corta) (msg : List UInt8) (sizeTxt : Nat) (cabe) (largo)
    (h : ¬ (registro = true ∧ queueId = [])) :
    remota registro true b e (.push queueId corta msg sizeTxt cabe largo) =
      .ok ((directa b (.push queueId corta msg sizeTxt cabe largo)).1, true,
        (directa b (.push queueId corta msg sizeTxt cabe largo)).2) := by
  obtain ⟨campo, hcampo, rfl⟩ := escribir_cadena e.request.queueId corta.1 corta.2
  obtain ⟨mensaje, hmensaje, hdatos⟩ :=
    escribir_cero (b := e.request.msg) (Nat.le_trans (Nat.le_of_eq largo) cabe)
  have hsize : valor (entero 8 sizeTxt) = sizeTxt :=
    valor_entero (by unfold maxMsgSize at cabe; omega)
  have hleer : mensaje.leer 0 (valor (entero 8 sizeTxt) + sizeofLong) = .ok msg := by
    rw [hsize, leer_ok (by omega), hdatos, List.drop_zero, ← largo, List.take_left]
  have hcabe : ¬ sizeTxt + sizeofLong > maxMsgSize := by omega
  simp only [remota, if_neg hcabe, hcampo, hmensaje, ok_bind, pedir_eq]
  rw [clientHandler_atiende h]
  exact remota_deResponder (atender_push rfl hleer)

/-! ## Pull -/

theorem length_bytesMensaje (m : Mensaje UInt8) : (bytesMensaje m).length = m.texto.length + sizeofLong := by
  rw [bytesMensaje, List.length_append, length_bytesLE, Nat.add_comm]

theorem length_texto_le {queueId : List UInt8} {maxSizeTxt : Nat} {type : Int} {m : Mensaje UInt8}
    (h : b.pull queueId maxSizeTxt type = (b', .ok m)) : m.texto.length ≤ maxSizeTxt := by
  unfold Broker.pull at h
  dsimp only at h
  split at h
  · cases h
  · split at h
    · cases h
    · cases h
    · rename_i hmsgrcv
      cases h
      exact ColaDeMensajes.msgrcv_length hmsgrcv

/-- What the stub copies: the message and then what the response had. -/
def copiado (response : BrokerResponse) (m : Mensaje UInt8) (maxSizeTxt : Nat) : List UInt8 :=
  (bytesMensaje m ++ response.msg.datos.drop (bytesMensaje m).length).take (maxSizeTxt + sizeofLong)

theorem conSigno_toNat (type : BitVec 64) : conSigno 64 (valor (entero 8 type.toNat)) = type.toInt := by
  rw [valor_entero type.isLt, conSigno, BitVec.ofNat_toNat, BitVec.setWidth_eq]

/-- The result of a pull through the stub. -/
def resultadoPull (e : Entorno) (memoria : Nat → UInt8) (maxSizeTxt : Nat) :
    Except Error (Mensaje UInt8) → Resultado
  | .ok m => .recibido (conSigno 64 (valor e.response.msgSize))
      (copiar memoria (copiado e.response m maxSizeTxt))
  | .error .messageBrokerError => .error
  | .error .espera => .espera

theorem remota_pull (queueId : List UInt8) (corta) (memoria : Nat → UInt8) (maxSizeTxt : Nat) (cabe)
    (type : BitVec 64) (h : ¬ (registro = true ∧ queueId = [])) :
    remota registro true b e (.pull queueId corta memoria maxSizeTxt cabe type) =
      .ok ((b.pull queueId maxSizeTxt type.toInt).1, true,
        resultadoPull e memoria maxSizeTxt (b.pull queueId maxSizeTxt type.toInt).2) := by
  obtain ⟨campo, hcampo, rfl⟩ := escribir_cadena e.request.queueId corta.1 corta.2
  have hcabe : ¬ maxSizeTxt + sizeofLong > maxMsgSize := by omega
  have hmax : valor (entero 8 maxSizeTxt) = maxSizeTxt :=
    valor_entero (by unfold maxMsgSize at cabe; omega)
  simp only [remota, if_neg hcabe, hcampo, ok_bind, pedir_eq]
  rw [clientHandler_atiende h]
  simp only [atender, hmax, conSigno_toNat]
  rw [if_neg (by decide), if_neg (by decide), if_pos (by decide)]
  cases hpull : b.pull (cadena campo) maxSizeTxt type.toInt with
  | mk b' r =>
    cases r with
    | error error =>
      cases error with
      | espera => rfl
      | messageBrokerError => rfl
    | ok m =>
      have hlargo := length_bytesMensaje m
      have htexto := length_texto_le hpull
      obtain ⟨msg, hmsg, hdatos⟩ := escribir_cero (b := e.response.msg)
        (show (bytesMensaje m).length ≤ maxMsgSize by omega)
      have hcodigo : ¬ valor (entero 4 brokerOk) = brokerError := by decide
      have hleer : msg.leer 0 (maxSizeTxt + sizeofLong) = .ok (copiado e.response m maxSizeTxt) := by
        rw [leer_ok (by omega), hdatos, List.drop_zero, copiado]
      simp only [hmsg, ok_bind]
      show (if valor (entero 4 brokerOk) = brokerError then Except.ok (b', true, Resultado.error)
        else msg.leer 0 (maxSizeTxt + sizeofLong) >>= fun bytes => Except.ok (b', true,
          .recibido (conSigno 64 (valor e.response.msgSize)) (copiar memoria bytes))) = _
      rw [if_neg hcodigo, hleer]
      rfl

/-- The same bytes are stored when those after the message were there already. -/
theorem copiar_copiado {response : BrokerResponse} {m : Mensaje UInt8} {maxSizeTxt : Nat}
    (memoria : Nat → UInt8) (htexto : m.texto.length ≤ maxSizeTxt)
    (hmax : maxSizeTxt + sizeofLong ≤ maxMsgSize) :
    copiar memoria (copiado response m maxSizeTxt) = copiar memoria (bytesMensaje m) ↔
      ∀ i, m.texto.length + sizeofLong ≤ i → i < maxSizeTxt + sizeofLong →
        response.msg.datos.getD i 0 = memoria i := by
  have hlargo := length_bytesMensaje m
  have hdatos := response.msg.largo
  have hcopiado : (copiado response m maxSizeTxt).length = maxSizeTxt + sizeofLong := by
    unfold copiado
    rw [List.length_take, List.length_append, List.length_drop]
    omega
  have hdespues : ∀ i, m.texto.length + sizeofLong ≤ i → i < maxSizeTxt + sizeofLong →
      (copiado response m maxSizeTxt).getD i 0 = response.msg.datos.getD i 0 := by
    intro i hi hi'
    simp only [copiado, List.getD_eq_getElem?_getD]
    rw [List.getElem?_take_of_lt hi', List.getElem?_append_right (by omega), List.getElem?_drop,
      Nat.add_sub_cancel' (by omega)]
  have hmensaje : ∀ i < (bytesMensaje m).length,
      (copiado response m maxSizeTxt).getD i 0 = (bytesMensaje m).getD i 0 := by
    intro i hi
    simp only [copiado, List.getD_eq_getElem?_getD]
    rw [List.getElem?_take_of_lt (by omega), List.getElem?_append_left hi]
  constructor
  · intro h i hi hi'
    have hpunto := congrFun h i
    unfold copiar at hpunto
    rw [if_pos (by omega), if_neg (by omega), hdespues i hi hi'] at hpunto
    exact hpunto
  · intro h
    funext i
    unfold copiar
    by_cases hi : i < (bytesMensaje m).length
    · rw [if_pos (by omega), if_pos hi, hmensaje i hi]
    · rw [if_neg hi]
      split
      · rw [hdespues i (by omega) (by omega), h i (by omega) (by omega)]
      · rfl

/-! ## One call -/

/-- Where the server makes the call, the brokers agree after it, and so do the calls that wait. -/
theorem remota_ok (b : Broker) (e : Entorno) (c : Llamada) (h : ¬ (registro = true ∧ c.queueId = [])) :
    ∃ r, remota registro true b e c = .ok ((directa b c).1, true, r) ∧
      r.esEspera = (directa b c).2.esEspera ∧ (r = (directa b c).2 ↔ YaEstaba b e c) := by
  cases c with
  | createQueue queueId corta hayLugar =>
    exact ⟨_, remota_createQueue queueId corta hayLugar h, rfl, ⟨fun _ => trivial, fun _ => rfl⟩⟩
  | destroyQueue queueId corta =>
    exact ⟨_, remota_destroyQueue queueId corta h, rfl, ⟨fun _ => trivial, fun _ => rfl⟩⟩
  | push queueId corta msg sizeTxt cabe largo =>
    exact ⟨_, remota_push queueId corta msg sizeTxt cabe largo h, rfl, ⟨fun _ => trivial, fun _ => rfl⟩⟩
  | pull queueId corta memoria maxSizeTxt cabe type =>
    refine ⟨_, remota_pull queueId corta memoria maxSizeTxt cabe type h, ?_⟩
    unfold YaEstaba directa
    dsimp only
    cases hpull : b.pull queueId maxSizeTxt type.toInt with
    | mk b' res =>
      cases res with
      | error error =>
        have hsin : ∀ (b'' : Broker) (m : Mensaje UInt8), (b', Except.error error) ≠ (b'', .ok m) := by
          intro b'' m h
          cases (Prod.mk.inj h).2
        refine ⟨?_, ?_⟩
        · cases error <;> rfl
        · constructor
          · exact fun _ b'' m h => absurd h (hsin b'' m)
          · intro _
            cases error <;> rfl
      | ok m =>
        have htexto := length_texto_le hpull
        constructor
        · rfl
        · show Resultado.recibido _ _ = Resultado.recibido _ _ ↔ _
          rw [Resultado.recibido.injEq, copiar_copiado memoria htexto cabe]
          constructor
          · rintro h b'' m' hm
            cases hm
            exact h
          · exact fun h => h b' m rfl

/-! ## Sequences of calls -/

theorem remotas_ok (registro : Bool) (b : Broker) (cs : List (Llamada × Entorno)) :
    ∃ r, remotas registro true b cs = .ok r ∧
      (r = directas b (cs.map Prod.fst) ↔ YaEstaban registro b cs) := by
  induction cs generalizing b with
  | nil => exact ⟨_, rfl, ⟨fun _ => trivial, fun _ => rfl⟩⟩
  | cons ce cs ih =>
    obtain ⟨c, e⟩ := ce
    by_cases hlog : registro = true ∧ c.queueId = []
    · -- the call that ends the server, and those after it
      have hsigue : (Resultado.sinRespuesta e (!true && e.cortada) c).esEspera = false := by
        unfold Resultado.sinRespuesta
        split <;> split <;> rfl
      simp only [remotas, remota_sinRespuesta true (.inr hlog), ok_bind, hsigue,
        remotas_sinRespuesta, YaEstaban, if_pos hlog]
      exact ⟨_, rfl, eq_comm⟩
    · obtain ⟨r, hremota, hespera, hiff⟩ := remota_ok b e c hlog
      obtain ⟨resto, hresto, hrestoIff⟩ := ih (directa b c).1
      simp only [remotas, hremota, ok_bind, List.map_cons, directas, YaEstaban, if_neg hlog, hespera]
      by_cases hfin : (directa b c).2.esEspera = true
      · rw [if_pos hfin, if_pos hfin]
        refine ⟨_, rfl, ?_⟩
        rw [← hiff]
        constructor
        · intro h
          refine ⟨List.head_eq_of_cons_eq (Prod.mk.inj h).2, fun hno => ?_⟩
          rw [hfin] at hno
          cases hno
        · rintro ⟨h, -⟩
          rw [h]
      · rw [if_neg hfin, if_neg hfin, hresto]
        refine ⟨_, rfl, ?_⟩
        rw [← hiff, ← hrestoIff]
        constructor
        · intro h
          obtain ⟨hb, hrs⟩ := Prod.mk.inj h
          obtain ⟨hr, hrs⟩ := List.cons.inj hrs
          exact ⟨hr, fun _ => Prod.ext hb hrs⟩
        · rintro ⟨hr, hrs⟩
          rw [hr, hrs (by simpa using hfin)]

/-- A sequence of calls through the stub is equivalent to the same calls on the broker exactly when every
    pull that finds a message finds its size and the rest of the caller's buffer in the response, and, if
    the server keeps a log, no call has an empty queue id, unless the stub's own responses happen to have
    the results of the calls from it on. -/
theorem equivalentes_iff (registro : Bool) (b : Broker) (cs : List (Llamada × Entorno)) :
    Equivalentes registro b cs ↔ YaEstaban registro b cs := by
  obtain ⟨r, hremotas, hiff⟩ := remotas_ok registro b cs
  unfold Equivalentes
  rw [hremotas, ← hiff]
  exact ⟨fun h => Except.ok.inj h, fun h => congrArg Except.ok h⟩

/-! ## A pull of one byte -/

def ceros (n : Nat) : Bufer UInt8 n := ⟨List.ofFn fun _ : Fin n => 0, List.length_ofFn⟩

def request : BrokerRequest :=
  ⟨ceros 4, ceros 255, ceros 255, ceros 6, ceros 8, ceros 8, ceros 8, ceros maxMsgSize⟩

/-- The response of a process whose stack has zeros. -/
def response : BrokerResponse := ⟨ceros 4, ceros maxMsgSize, ceros 4, ceros 8⟩

def entorno : Entorno := ⟨request, response, request, response, [], [], [], [], false⟩

/-- The broker with a message of one byte in its queue. -/
def conMensaje : Broker where
  projIdToQueueId p := if p = 0 then [97] else []
  colas p := if p = 0 then some [⟨1, [65]⟩] else none

/-- The size that the stub returns is not that of the message. -/
theorem remota_no_devuelve_el_tamanio : ¬ ∀ registro b cs, Equivalentes registro b cs := by
  intro h
  obtain ⟨r, hremotas, hiff⟩ := remotas_ok false conMensaje
    [(.pull [97] (by decide) (fun _ => 9) 4 (by decide) 0, entorno)]
  have hequivalentes :=
    h false conMensaje [(.pull [97] (by decide) (fun _ => 9) 4 (by decide) 0, entorno)]
  unfold Equivalentes at hequivalentes
  rw [hremotas] at hequivalentes
  have hya := (hiff.mp (Except.ok.inj hequivalentes)).1
  have hpull : (conMensaje.pull [97] 4 (BitVec.toInt (0 : BitVec 64))).2 = .ok ⟨1, [65]⟩ := by decide
  have htamanio : conSigno 64 (valor (ceros 8)) = 1 := (hya _ _ (Prod.ext rfl hpull)).1
  revert htamanio
  decide

/-- With the log, the stub says that it has created the queue of the empty id, which is not there. -/
example : ¬ YaEstaban true ⟨fun _ => [], fun _ => none⟩
    [(.createQueue [] (by decide) true, entorno)] := by
  intro h
  have hcola := congrFun (congrArg (fun r => r.1.colas) h) 0
  revert hcola
  decide

end MessageBrokerRemoto
