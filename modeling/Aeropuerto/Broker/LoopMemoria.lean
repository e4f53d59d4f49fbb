import Aeropuerto.Broker.Fragmentacion
import Mathlib.Algebra.Ring.Nat

/-!
# The calls that fail in `ClientHandler::loop_memoria` (`local_broker/client_handler.cpp`)

One iteration waits for the token, sends the memory, receives it and gives the token back.  Each system
call of it may be interrupted by a signal (`InterruptedSyscall`), fail (`OSError`) or, for a receive, find
the connection closed; neither exception is derived from the other, so a `catch` of one lets the other
pass.  `mem_local` goes to the group in the last line of `recv_token`.
-/

namespace LoopMemoria

open Flujo Bloques Fragmentacion

inductive Excepcion where
  | osError
  | interruptedSyscall
  | falla (f : Falla)
  deriving DecidableEq

/-- What becomes of one call: it takes or brings at most so many bytes, or it throws. -/
inductive Llamada where
  | trozo (k : Nat)
  | interrumpida
  | error
  deriving DecidableEq

/-- The bytes that the client sends before it closes the connection, and the receives to come. -/
structure Socket where
  bytes : List UInt8
  llamadas : List Llamada

/-- A receive brings nothing when the client has closed the connection. -/
def Socket.receivesome (r : Socket) (cuantos : Nat) : Socket × Except Excepcion (List UInt8) :=
  match r.llamadas with
  | .error :: llamadas => ({ r with llamadas }, .error .osError)
  | .interrumpida :: llamadas => ({ r with llamadas }, .error .interruptedSyscall)
  | .trozo k :: llamadas =>
    let j := min (max 1 k) cuantos
    (⟨r.bytes.drop j, llamadas⟩, .ok (r.bytes.take j))
  | [] => (⟨r.bytes.drop cuantos, []⟩, .ok (r.bytes.take cuantos))

/-- The handler, its group and its connection. -/
structure Estado (s n : Nat) where
  h : ClientHandler s
  g : Grupo n
  socket : Socket
  envios : List Llamada
  enviado : List UInt8

namespace Estado

variable {s n : Nat}

/-- What follows a call that does not throw. -/
def luego {α β : Type} (r : Estado s n × Except Excepcion α)
    (f : Estado s n → α → Estado s n × Except Excepcion β) : Estado s n × Except Excepcion β :=
  match r with
  | (e, .error x) => (e, .error x)
  | (e, .ok a) => f e a

/-- An access to a buffer. -/
def acceso {α : Type} (e : Estado s n) : Except Falla α → Estado s n × Except Excepcion α
  | .error f => (e, .error (.falla f))
  | .ok a => (e, .ok a)

/-- The iterations of `send_token` that are left. -/
def sendBloques : List Nat → Estado s n → Estado s n × Except Excepcion Unit
  | [], e => (e, .ok ())
  | i :: is, e =>
    if e.h.leave then (e, .ok ())
    else
      luego (e.acceso (ClientHandler.sendBloque e.g (e.h, e.enviado) i)) fun e hs =>
        match e.envios with
        | .error :: envios => ({ e with h := hs.1, envios }, .error .osError)
        | .interrumpida :: envios => ({ e with h := hs.1, envios }, .error .interruptedSyscall)
        | envios => sendBloques is { e with h := hs.1, enviado := hs.2, envios := envios.tail }

def sendToken (e : Estado s n) : Estado s n × Except Excepcion Unit :=
  sendBloques (List.range e.h.cantidadDeBloquesAEnviar) e

/-- The `do while` of `recv_token`; `false` when it returns 0. -/
def recvMensaje (e : Estado s n) (cant : Nat) : Estado s n × Except Excepcion Bool :=
  match e.socket.receivesome (sizeofMensaje - cant) with
  | (socket, .error x) => ({ e with socket }, .error x)
  | (socket, .ok leidos) =>
    match e.h.mensaje.escribir cant leidos with
    | .error f => ({ e with socket }, .error (.falla f))
    | .ok mensaje =>
      let e := { e with socket, h := { e.h with mensaje } }
      if esLeave mensaje.datos then (e, .ok false)
      else if _ : leidos = [] then (e, .ok false)
      else if cant + leidos.length < sizeofMensaje ∧ e.h.leave = false then
        recvMensaje e (cant + leidos.length)
      else (e, .ok true)
termination_by sizeofMensaje - cant
decreasing_by
  rename_i hne hlt
  have := List.length_pos_of_ne_nil hne
  omega

def recvBloques : List Nat → Estado s n → Estado s n × Except Excepcion Bool
  | [], e => (e, .ok true)
  | i :: is, e =>
    if e.h.leave then (e, .ok true)
    else
      luego (e.recvMensaje 0) fun e entero =>
        if !entero then (e, .ok false)
        else if e.h.tamanioMemoria ≠ 0 then
          luego (e.acceso (e.h.memLocal.memcpy (multiplicar i dataSize) e.h.mensaje posDatos
              (tamanioBloque e.h.tamanioMemoria i))) fun e memLocal =>
            recvBloques is { e with h := { e.h with memLocal } }
        else recvBloques is e

/-- `bzero(mem_local, get_mem_size())`. -/
def bzero (e : Estado s n) : Estado s n × Except Excepcion Unit :=
  if e.h.tamanioMemoria ≠ 0 then
    luego (e.acceso (e.h.memLocal.escribir 0 (List.replicate e.g.memSize 0))) fun e memLocal =>
      ({ e with h := { e.h with memLocal } }, .ok ())
  else (e, .ok ())

/-- The last copy, of `mem_local` to the group, and what `recv_token` returns. -/
def actualizar (e : Estado s n) : Estado s n × Except Excepcion Nat :=
  if e.h.tamanioMemoria ≠ 0 then
    luego (e.acceso (e.g.memoria.memcpy 0 e.h.memLocal 0 e.g.memSize)) fun e memoria =>
      ({ e with g := { e.g with memoria } }, .ok (multiplicar e.h.cantidadDeBloquesAEnviar dataSize))
  else (e, .ok (multiplicar e.h.cantidadDeBloquesAEnviar dataSize))

def recvToken (e : Estado s n) : Estado s n × Except Excepcion Nat :=
  luego e.bzero fun e () =>
    luego (recvBloques (List.range e.h.cantidadDeBloquesAEnviar) e) fun e entero =>
      if !entero then (e, .ok 0) else e.actualizar

end Estado

/-! ## `loop_memoria` -/

/-- What becomes of `lock_token`. -/
inductive Lock where
  | token
  | interrumpida
  | error
  deriving DecidableEq

inductive Operacion where
  | leaveGroup
  | releaseToken
  deriving DecidableEq

/-- After an iteration: what it has asked of the group, and the exception that leaves the loop. -/
structure Iteracion (s n : Nat) where
  e : Estado s n
  operaciones : List Operacion
  excepcion : Option Excepcion

section

variable {s n : Nat}

def ponerLeave (e : Estado s n) : Estado s n := { e with h := { e.h with leave := true } }

/-- `send_token()` and `recv_token()` in the `try` that catches `OSError`. -/
def intercambio (e : Estado s n) : Estado s n × Option Excepcion :=
  match Estado.luego e.sendToken fun e () => e.recvToken with
  | (e, .error .osError) => (ponerLeave e, none)
  | (e, .error x) => (e, some x)
  | (e, .ok recibido) => (if recibido = 0 then ponerLeave e else e, none)

/-- One iteration of `loop_memoria`. -/
def iteracion (lock : Lock) (e : Estado s n) : Iteracion s n :=
  match lock with
  | .error => ⟨e, [], some .osError⟩
  | _ =>
    let tengoElToken := lock == .token
    let e := if tengoElToken then e else ponerLeave e
    match intercambio e with
    | (e, some x) => ⟨e, [], some x⟩
    | (e, none) =>
      ⟨e, (if e.h.leave then [.leaveGroup] else []) ++ (if tengoElToken then [.releaseToken] else []), none⟩

end

/-! ## The image that the client sends -/

/-- Byte `j` of the memory is in the data of message `j / DATA_SIZE`. -/
def imagen (s : Nat) (flujo : List UInt8) : List UInt8 :=
  (List.range s).map fun j => flujo.getD (j / dataSize * sizeofMensaje + posDatos + j % dataSize) 0

/-- A complete set of blocks: that many messages, none of which is a LEAVE. -/
structure Completo (cuantos : Nat) (flujo : List UInt8) : Prop where
  largo : cuantos * sizeofMensaje ≤ flujo.length
  noEsLeave : ∀ i < cuantos, NoEsLeave ((flujo.drop (i * sizeofMensaje)).take sizeofMensaje)

/-- No call of the list throws. -/
def SinFallas (llamadas : List Llamada) : Prop := ∀ l ∈ llamadas, ∃ k, l = .trozo k

/-- At the top of the loop, in the group that `join_group` has left the handler in. -/
structure EnElLoop {s n : Nat} (e : Estado s n) : Prop where
  memSize : e.g.memSize = s
  handler : e.h.DeGrupo

/-- The memory of the group changes only with the token and a whole set of blocks received, to the image
    that they carry, and it does when nothing fails. -/
structure SoloConImagen {s n : Nat} (lock : Lock) (e : Estado s n) : Prop where
  cambia : (iteracion lock e).e.g.memoria.datos ≠ e.g.memoria.datos →
    lock = .token ∧ cantidad dataSize s * sizeofMensaje ≤ e.socket.bytes.length ∧
      (iteracion lock e).e.socket.bytes = e.socket.bytes.drop (cantidad dataSize s * sizeofMensaje) ∧
      (iteracion lock e).e.g.memoria.datos = imagen s e.socket.bytes ++ e.g.memoria.datos.drop s
  completa : lock = .token → SinFallas e.envios → SinFallas e.socket.llamadas →
    Completo (cantidad dataSize s) e.socket.bytes →
      (iteracion lock e).e.g.memoria.datos = imagen s e.socket.bytes ++ e.g.memoria.datos.drop s

/-! ## Receiving one message -/

section

variable {s n cant : Nat} {e : Estado s n}

theorem sinFallas_tail {l : Llamada} {llamadas : List Llamada} (h : SinFallas (l :: llamadas)) :
    SinFallas llamadas :=
  fun x hx => h x (List.mem_cons_of_mem _ hx)

/-- A receive throws, and takes nothing of the stream, or brings the next bytes of it, none only at the
    end. -/
theorem receivesome_cases (r : Socket) {cuantos : Nat} (hcuantos : 0 < cuantos) :
    (∃ llamadas x, r.receivesome cuantos = (⟨r.bytes, llamadas⟩, .error x) ∧ ¬SinFallas r.llamadas) ∨
      ∃ llamadas j, j ≤ cuantos ∧ j ≤ r.bytes.length ∧ (j = 0 → r.bytes = []) ∧
        r.receivesome cuantos = (⟨r.bytes.drop j, llamadas⟩, .ok (r.bytes.take j)) ∧
        (SinFallas r.llamadas → SinFallas llamadas) := by
  have hparte : ∀ k, 0 < k → k ≤ cuantos → ∃ j, j ≤ cuantos ∧ j ≤ r.bytes.length ∧
      (j = 0 → r.bytes = []) ∧ r.bytes.drop k = r.bytes.drop j ∧ r.bytes.take k = r.bytes.take j := by
    intro k hk hk'
    by_cases hle : k ≤ r.bytes.length
    · exact ⟨k, hk', hle, fun h => absurd h (by omega), rfl, rfl⟩
    · refine ⟨r.bytes.length, by omega, le_rfl, List.eq_nil_of_length_eq_zero, ?_, ?_⟩
      · rw [List.drop_eq_nil_of_le (by omega), List.drop_length]
      · rw [List.take_of_length_le (by omega), List.take_length]
  obtain ⟨bytes, llamadas⟩ := r
  cases llamadas with
  | nil =>
    obtain ⟨j, hj, hj', hcero, hdrop, htake⟩ := hparte cuantos hcuantos le_rfl
    exact .inr ⟨[], j, hj, hj', hcero, by rw [Socket.receivesome, hdrop, htake], id⟩
  | cons l llamadas =>
    have hno : ∀ x, (∀ k, x ≠ Llamada.trozo k) → ¬SinFallas (x :: llamadas) := fun x hx h =>
      let ⟨k, hk⟩ := h x List.mem_cons_self
      hx k hk
    cases l with
    | trozo k =>
      obtain ⟨j, hj, hj', hcero, hdrop, htake⟩ := hparte (min (max 1 k) cuantos) (by omega) (by omega)
      exact .inr ⟨llamadas, j, hj, hj', hcero, by simp only [Socket.receivesome, hdrop, htake],
        sinFallas_tail⟩
    | interrumpida => exact .inl ⟨llamadas, _, rfl, hno _ fun k h => by cases h⟩
    | error => exact .inl ⟨llamadas, _, rfl, hno _ fun k h => by cases h⟩

/-- A receive that brings `j` bytes: where they stay, and what the loop does next. -/
theorem recvMensaje_paso {llamadas : List Llamada} {j : Nat} (hcant : cant < sizeofMensaje)
    (hleave : e.h.leave = false) (hj : j ≤ sizeofMensaje - cant) (hj' : j ≤ e.socket.bytes.length)
    (hrec : e.socket.receivesome (sizeofMensaje - cant) =
      (⟨e.socket.bytes.drop j, llamadas⟩, .ok (e.socket.bytes.take j))) :
    ∃ mensaje : Mensaje, ∃ e₁ : Estado s n,
      e₁ = { e with socket := ⟨e.socket.bytes.drop j, llamadas⟩, h := { e.h with mensaje } } ∧
      mensaje.datos.take (cant + j) = e.h.mensaje.datos.take cant ++ e.socket.bytes.take j ∧
      e.recvMensaje cant =
        if esLeave mensaje.datos then (e₁, .ok false)
        else if j = 0 then (e₁, .ok false)
        else if cant + j < sizeofMensaje then e₁.recvMensaje (cant + j)
        else (e₁, .ok true) := by
  have hlargo : (e.socket.bytes.take j).length = j := List.length_take_of_le hj'
  obtain ⟨mensaje, hescribir, htake, hdrop⟩ := escribir_ok (b := e.h.mensaje)
    (show cant + (e.socket.bytes.take j).length ≤ sizeofMensaje by omega)
  rw [hlargo] at hdrop
  refine ⟨mensaje, _, rfl, by rw [List.take_add, htake, hdrop], ?_⟩
  have hvacio : e.socket.bytes.take j = [] ↔ j = 0 := by rw [← List.length_eq_zero_iff, hlargo]
  rw [Estado.recvMensaje, hrec]
  simp only [hescribir, hvacio, hlargo, hleave, and_true, dite_eq_ite]

/-- What `recv_token` does to the state while it receives the rest of a message. -/
structure Recibe (cant : Nat) (e e' : Estado s n) (r : Except Excepcion Bool) : Prop where
  marco : ∃ mensaje socket, e' = { e with socket, h := { e.h with mensaje } }
  -- a whole message has arrived
  entero : r = .ok true → sizeofMensaje - cant ≤ e.socket.bytes.length ∧
    e'.socket.bytes = e.socket.bytes.drop (sizeofMensaje - cant) ∧
    e'.h.mensaje.datos = e.h.mensaje.datos.take cant ++ e.socket.bytes.take (sizeofMensaje - cant)
  llega : SinFallas e.socket.llamadas → SinFallas e'.socket.llamadas ∧
    ∀ m, m.length = sizeofMensaje → NoEsLeave m → e.h.mensaje.datos.take cant = m.take cant →
      e.socket.bytes.take (sizeofMensaje - cant) = m.drop cant → r = .ok true

/-- A message that is not LEAVE is not taken for it while it arrives. -/
theorem noEsLeave_comienzo {m datos : List UInt8} {a : Nat} (hm : NoEsLeave m) (ha : 0 < a)
    (hdatos : datos.take a = m.take a) : esLeave datos = false := by
  have hmezcla : mezcla a m datos = datos := by
    rw [mezcla, ← hdatos, List.take_append_drop]
  rw [← hmezcla]
  exact hm.mezcla a datos ha

/-- By induction on the bytes that the message lacks. -/
theorem recvMensaje_recibe (hcant : cant < sizeofMensaje) (hleave : e.h.leave = false) :
    Recibe cant e (e.recvMensaje cant).1 (e.recvMensaje cant).2 := by
  obtain ⟨falta, hfalta⟩ : ∃ falta, sizeofMensaje - cant = falta := ⟨_, rfl⟩
  induction falta using Nat.strongRecOn generalizing e cant with
  | ind falta ih =>
    rcases receivesome_cases e.socket (Nat.sub_pos_of_lt hcant) with
      ⟨llamadas, x, hrec, hno⟩ | ⟨llamadas, j, hj, hj', hcero, hrec, hsin⟩
    · have heq : e.recvMensaje cant = ({ e with socket := ⟨e.socket.bytes, llamadas⟩ }, .error x) := by
        rw [Estado.recvMensaje, hrec]
      rw [heq]
      exact ⟨⟨e.h.mensaje, _, rfl⟩, fun h => by simp at h, fun h => absurd h hno⟩
    · obtain ⟨mensaje, e₁, he₁, hparte, heq⟩ := recvMensaje_paso hcant hleave hj hj' hrec
      have hmarco : ∃ mensaje socket, e₁ = { e with socket, h := { e.h with mensaje } } := ⟨_, _, he₁⟩
      have hsin₁ : SinFallas e.socket.llamadas → SinFallas e₁.socket.llamadas := by rwa [he₁]
      -- when the message is on its way this part of it is not empty and is not taken for LEAVE
      have hmsg : ∀ m : List UInt8, m.length = sizeofMensaje → NoEsLeave m →
          e.h.mensaje.datos.take cant = m.take cant →
          e.socket.bytes.take (sizeofMensaje - cant) = m.drop cant →
          j ≠ 0 ∧ mensaje.datos.take (cant + j) = m.take (cant + j) := by
        intro m hm hno hantes hresto
        constructor
        · intro hj
          have hfin := congrArg List.length hresto
          rw [hcero hj, List.take_nil, List.length_nil, List.length_drop] at hfin
          omega
        · rw [hparte, hantes, List.take_add, ← hresto, List.take_take, Nat.min_eq_left hj]
      rw [heq]
      split
      · rename_i hes
        refine ⟨hmarco, fun h => by simp at h, fun hs => ⟨hsin₁ hs, fun m hm hno hantes hresto => ?_⟩⟩
        obtain ⟨hj₀, hdatos⟩ := hmsg m hm hno hantes hresto
        have hno' := noEsLeave_comienzo hno (by omega) hdatos
        rw [hes] at hno'
        cases hno'
      split
      · rename_i hj₀
        exact ⟨hmarco, fun h => by simp at h, fun hs => ⟨hsin₁ hs, fun m hm hno hantes hresto =>
          absurd hj₀ (hmsg m hm hno hantes hresto).1⟩⟩
      split
      · rename_i hj₀ hsigue
        have hih := ih (sizeofMensaje - (cant + j)) (by omega) hsigue (show e₁.h.leave = false by rwa [he₁])
          rfl
        obtain ⟨mensaje', socket', hfin⟩ := hih.marco
        have hbytes : e₁.socket.bytes = e.socket.bytes.drop j := by rw [he₁]
        have hdatos₁ : e₁.h.mensaje.datos = mensaje.datos := by rw [he₁]
        have hresta : sizeofMensaje - cant = j + (sizeofMensaje - (cant + j)) := by omega
        refine ⟨⟨mensaje', socket', by rw [hfin, he₁]⟩, fun hok => ?_, fun hs => ?_⟩
        · obtain ⟨hcabe, hresto, hdatos⟩ := hih.entero hok
          rw [hbytes, List.length_drop] at hcabe
          rw [hbytes, List.drop_drop, ← hresta] at hresto
          rw [hdatos₁, hbytes, hparte, List.append_assoc, ← List.take_add, ← hresta] at hdatos
          exact ⟨by omega, hresto, hdatos⟩
        · obtain ⟨hsin', hllega⟩ := hih.llega (hsin₁ hs)
          refine ⟨hsin', fun m hm hno hantes hresto => ?_⟩
          refine hllega m hm hno (by rw [hdatos₁, (hmsg m hm hno hantes hresto).2]) ?_
          rw [hbytes, ← List.drop_drop, ← hresto, hresta, List.drop_take, Nat.add_sub_cancel_left]
      · rename_i hj₀ hfin
        have hjL : sizeofMensaje - cant = j := by omega
        have htodo : cant + j = sizeofMensaje := by omega
        refine ⟨hmarco, fun _ => ⟨by omega, ?_, ?_⟩, fun hs => ⟨hsin₁ hs, fun m _ _ _ _ => rfl⟩⟩
        · rw [he₁, hjL]
        · rw [hjL, ← hparte, htodo, he₁, List.take_of_length_le mensaje.largo.le]

end

/-! ## Receiving the blocks -/

section

variable {s n i : Nat} {e : Estado s n} {flujo viejo : List UInt8}

theorem imagen_length (s : Nat) (flujo : List UInt8) : (imagen s flujo).length = s := by
  rw [imagen, List.length_map, List.length_range]

/-- Message `i` of the stream carries block `i` of the image. -/
theorem lleva_imagen (hi : i < cantidad dataSize s) (hlargo : (i + 1) * sizeofMensaje ≤ flujo.length) :
    Lleva s (imagen s flujo) i ((flujo.drop (i * sizeofMensaje)).take sizeofMensaje) := by
  have hsucc : (i + 1) * sizeofMensaje = i * sizeofMensaje + sizeofMensaje := Nat.succ_mul i sizeofMensaje
  have hle := mul_dataSize_le hi
  have hsize : sizeofMensaje = posDatos + dataSize := rfl
  have himagen := imagen_length s flujo
  refine ⟨by rw [List.length_take, List.length_drop]; omega, List.ext_getElem ?_ fun j hj hj' => ?_⟩
  · simp only [List.length_take, List.length_drop]
    omega
  · simp only [List.length_take, List.length_drop] at hj hj'
    have hdiv : (i * dataSize + j) / dataSize = i := by
      rw [Nat.mul_comm, Nat.mul_add_div (by decide), Nat.div_eq_of_lt (by omega), Nat.add_zero]
    have hmod : (i * dataSize + j) % dataSize = j := by
      rw [Nat.mul_comm, Nat.mul_add_mod, Nat.mod_eq_of_lt (by omega)]
    simp only [imagen, List.getElem_take, List.getElem_drop, List.getElem_map, List.getElem_range, hdiv,
      hmod]
    rw [List.getD_eq_getElem?_getD, List.getElem?_eq_getElem (by omega), Option.getD_some]
    simp only [Nat.add_assoc]

/-- The first `i` blocks of the stream are in `mem_local`. -/
structure Recibidos (flujo viejo : List UInt8) (i : Nat) (e : Estado s n) : Prop where
  loop : EnElLoop e
  largo : i * sizeofMensaje ≤ flujo.length
  socket : e.socket.bytes = flujo.drop (i * sizeofMensaje)
  memLocal : e.h.memLocal.datos = mezcla (hasta dataSize s i) (imagen s flujo) viejo

@[simp] theorem luego_ok {α β : Type} (a : α) (f : Estado s n → α → Estado s n × Except Excepcion β) :
    Estado.luego (e, .ok a) f = f e a := rfl

@[simp] theorem acceso_ok {α : Type} (a : α) : e.acceso (.ok a) = (e, .ok a) := rfl

/-- What is done with a message that has arrived. -/
theorem recvBloques_cons {e' : Estado s n} {is : List Nat} (hleave : e.h.leave = false)
    (hrec : e.recvMensaje 0 = (e', .ok true)) :
    Estado.recvBloques (i :: is) e =
      if e'.h.tamanioMemoria ≠ 0 then
        Estado.luego (e'.acceso (e'.h.memLocal.memcpy (multiplicar i dataSize) e'.h.mensaje posDatos
            (tamanioBloque e'.h.tamanioMemoria i))) fun e memLocal =>
          Estado.recvBloques is { e with h := { e.h with memLocal } }
      else Estado.recvBloques is e' := by
  rw [Estado.recvBloques, hleave, hrec]
  simp only [Bool.false_eq_true, if_false, luego_ok, Bool.not_true]

/-- One iteration of the loop over the blocks, once its message has arrived. -/
theorem copiar_bloque (h : Recibidos flujo viejo i e) (hi : i < cantidad dataSize s)
    (hr : Recibe 0 e (e.recvMensaje 0).1 (e.recvMensaje 0).2) (hok : (e.recvMensaje 0).2 = .ok true) :
    ∃ e' : Estado s n, Recibidos flujo viejo (i + 1) e' ∧ e'.g = e.g ∧
      e'.socket = (e.recvMensaje 0).1.socket ∧
      ∀ is, Estado.recvBloques (i :: is) e = Estado.recvBloques is e' := by
  obtain ⟨mensaje, socket, hmarco⟩ := hr.marco
  obtain ⟨hcabe, hsocket, hdatos⟩ := hr.entero hok
  have hsucc : (i + 1) * sizeofMensaje = i * sizeofMensaje + sizeofMensaje := Nat.succ_mul i sizeofMensaje
  have hlargo : (i + 1) * sizeofMensaje ≤ flujo.length := by
    rw [h.socket, List.length_drop, Nat.sub_zero] at hcabe
    rw [hsucc]
    exact Nat.add_le_of_le_sub' h.largo hcabe
  have hmensaje : mensaje.datos = (flujo.drop (i * sizeofMensaje)).take sizeofMensaje := by
    rw [hmarco, h.socket, List.take_zero, List.nil_append, Nat.sub_zero] at hdatos
    exact hdatos
  have hresto : socket.bytes = flujo.drop ((i + 1) * sizeofMensaje) := by
    rw [hmarco, h.socket, List.drop_drop, Nat.sub_zero, ← hsucc] at hsocket
    exact hsocket
  have hleave := h.loop.handler.leave
  have htamanio := h.loop.handler.tamanio
  have hrec : e.recvMensaje 0 = ({ e with socket, h := { e.h with mensaje } }, .ok true) :=
    Prod.ext hmarco hok
  by_cases hs : s = 0
  · refine ⟨{ e with socket, h := { e.h with mensaje } }, ⟨⟨h.loop.memSize, ⟨h.loop.handler.cantidad,
      htamanio, hleave⟩⟩, hlargo, hresto, ?_⟩, rfl, by rw [hrec], fun is => ?_⟩
    · have hcero : ∀ k, hasta dataSize s k = 0 := fun k =>
        Nat.le_zero.1 ((Nat.min_le_left s _).trans_eq hs)
      have hmem := h.memLocal
      rw [hcero] at hmem ⊢
      exact hmem
    · rw [recvBloques_cons hleave hrec, if_neg fun hno => hno (htamanio.trans hs)]
  · have hsize : s < 2 ^ 64 := by
      rw [← h.loop.memSize]
      exact e.g.esSizeT
    have hlleva : Lleva s (imagen s flujo) i mensaje.datos := by
      rw [hmensaje]
      exact lleva_imagen hi hlargo
    obtain ⟨memLocal, hmemcpy, hmem⟩ := memcpy_memoria hsize le_rfl (imagen_length s flujo).ge hi hlleva
      h.memLocal
    refine ⟨{ e with socket, h := { e.h with mensaje, memLocal } }, ⟨⟨h.loop.memSize,
      ⟨h.loop.handler.cantidad, htamanio, hleave⟩⟩, hlargo, hresto, hmem⟩, rfl, by rw [hrec], fun is => ?_⟩
    have hno : e.h.tamanioMemoria ≠ 0 := fun h => hs (htamanio.symm.trans h)
    rw [recvBloques_cons hleave hrec, if_pos hno]
    simp only [htamanio, hmemcpy, acceso_ok, luego_ok]

/-- What the loop over the blocks leaves, from block `i` on. -/
structure RecibeBloques (flujo viejo : List UInt8) (e e' : Estado s n) (r : Except Excepcion Bool) :
    Prop where
  grupo : e'.g = e.g
  entero : r = .ok true → Recibidos flujo viejo (cantidad dataSize s) e'
  llega : SinFallas e.socket.llamadas → Completo (cantidad dataSize s) flujo → r = .ok true

theorem recvBloques_recibe {k : Nat} (h : Recibidos flujo viejo i e) (hk : i + k = cantidad dataSize s) :
    RecibeBloques flujo viejo e (Estado.recvBloques (List.range' i k) e).1
      (Estado.recvBloques (List.range' i k) e).2 := by
  induction k generalizing i e with
  | zero =>
    obtain rfl : i = cantidad dataSize s := by omega
    exact ⟨rfl, fun _ => h, fun _ _ => rfl⟩
  | succ k ih =>
    have hi : i < cantidad dataSize s := by omega
    have hr := recvMensaje_recibe (e := e) (by decide : 0 < sizeofMensaje) h.loop.handler.leave
    obtain ⟨mensaje, socket, hmarco⟩ := hr.marco
    have hg : (e.recvMensaje 0).1.g = e.g := by rw [hmarco]
    rw [List.range'_succ]
    by_cases hok : (e.recvMensaje 0).2 = .ok true
    · obtain ⟨e', hrec', hg', hsocket', heq⟩ := copiar_bloque h hi hr hok
      have hih := ih hrec' (by omega)
      rw [heq]
      refine ⟨hih.grupo.trans hg', hih.entero, fun hs hc => hih.llega ?_ hc⟩
      rw [hsocket']
      exact (hr.llega hs).1
    · have hcorta : ∃ r, r ≠ .ok true ∧
          Estado.recvBloques (i :: List.range' (i + 1) k) e = ((e.recvMensaje 0).1, r) := by
        rw [Estado.recvBloques, h.loop.handler.leave]
        simp only [Bool.false_eq_true, if_false]
        match e.recvMensaje 0, hok with
        | (e', .error x), _ => exact ⟨.error x, fun h => by simp at h, rfl⟩
        | (e', .ok false), _ => exact ⟨.ok false, fun h => by simp at h, rfl⟩
        | (e', .ok true), hok => exact absurd rfl hok
      obtain ⟨r, hr', heq⟩ := hcorta
      rw [heq]
      refine ⟨hg, fun h => absurd h hr', fun hs hc => absurd ?_ hok⟩
      have hlargo := hc.largo
      have hmas : (i + 1) * sizeofMensaje ≤ cantidad dataSize s * sizeofMensaje :=
        Nat.mul_le_mul_right _ hi
      rw [Nat.succ_mul] at hmas
      refine (hr.llega hs).2 _ ?_ (hc.noEsLeave i hi) rfl (by rw [h.socket]; rfl)
      rw [List.length_take, List.length_drop]
      omega

end

/-! ## Sending -/

section

variable {s n : Nat} {e : Estado s n}

/-- What `send_token` does to the state: the group and what is to be received stay. -/
structure Envia (e e' : Estado s n) (r : Except Excepcion Unit) : Prop where
  marco : ∃ mensaje envios enviado, e' = { e with envios, enviado, h := { e.h with mensaje } }
  llega : SinFallas e.envios → EnElLoop e → r = .ok ()

theorem sendBloque_marco {h : ClientHandler s} {g : Grupo n} {salida : List UInt8}
    {hs : ClientHandler s × List UInt8} {i : Nat}
    (hok : ClientHandler.sendBloque g (h, salida) i = .ok hs) : ∃ mensaje, hs.1 = { h with mensaje } := by
  by_cases hleave : h.leave = true
  · have heq : ClientHandler.sendBloque g (h, salida) i = .ok (h, salida) := if_pos hleave
    obtain rfl := Except.ok.inj (heq.symm.trans hok)
    exact ⟨h.mensaje, rfl⟩
  · simp only [ClientHandler.sendBloque, if_neg hleave] at hok
    cases hrecurso : h.mensaje.escribir posRecurso (strncpy g.nombreRecurso maxNombreRecurso) with
    | error f =>
      rw [hrecurso] at hok
      cases hok
    | ok m =>
      rw [hrecurso, ok_bind] at hok
      split at hok
      · cases hdatos : m.memcpy posDatos g.memoria (multiplicar i dataSize)
          (tamanioBloque h.tamanioMemoria i) with
        | error f =>
          rw [hdatos] at hok
          cases hok
        | ok m' =>
          rw [hdatos, ok_bind] at hok
          obtain rfl := Except.ok.inj hok
          exact ⟨m', rfl⟩
      · obtain rfl := Except.ok.inj hok
        exact ⟨m, rfl⟩

/-- In the group no access of the block leaves its buffer, also when there is no memory. -/
theorem sendBloque_enElLoop {i : Nat} (he : EnElLoop e) (salida : List UInt8)
    (hi : i < cantidad dataSize s) :
    ∃ h' salida', ClientHandler.sendBloque e.g (e.h, salida) i = .ok (h', salida') := by
  by_cases hs : s = 0
  · obtain ⟨m, hm, -, -⟩ := escribir_ok (b := e.h.mensaje) (recurso_cabe e.g.nombreRecurso)
    refine ⟨{ e.h with mensaje := m }, salida ++ m.datos, ?_⟩
    simp only [ClientHandler.sendBloque, he.handler.leave, he.handler.tamanio, hs, hm, ok_bind, ne_eq,
      not_true_eq_false, if_false, Bool.false_eq_true]
    rfl
  · obtain ⟨m, hm, -⟩ : ∃ m, ClientHandler.sendBloque e.g (e.h, salida) i = .ok (_, salida ++ _) ∧ _ :=
      ClientHandler.sendBloque_ok (Nat.pos_of_ne_zero hs) he.memSize he.handler hi
    exact ⟨_, _, hm⟩

theorem sendBloques_envia {is : List Nat} (his : ∀ i ∈ is, i < cantidad dataSize s) :
    Envia e (Estado.sendBloques is e).1 (Estado.sendBloques is e).2 := by
  have hmismo : ∃ mensaje envios enviado, e = { e with envios, enviado, h := { e.h with mensaje } } :=
    ⟨e.h.mensaje, e.envios, e.enviado, rfl⟩
  induction is generalizing e with
  | nil => exact ⟨hmismo, fun _ _ => rfl⟩
  | cons i is ih =>
    rw [Estado.sendBloques]
    split
    · exact ⟨hmismo, fun _ _ => rfl⟩
    cases hb : ClientHandler.sendBloque e.g (e.h, e.enviado) i with
    | error f =>
      refine ⟨hmismo, fun _ he => ?_⟩
      obtain ⟨h', salida', hok⟩ := sendBloque_enElLoop he e.enviado (his i List.mem_cons_self)
      rw [hb] at hok
      cases hok
    | ok hs =>
      obtain ⟨mensaje, hmensaje⟩ := sendBloque_marco hb
      simp only [acceso_ok, luego_ok, hmensaje]
      have hsigue : ∀ envios, (SinFallas e.envios → SinFallas envios) →
          Envia e (Estado.sendBloques is
              { e with h := { e.h with mensaje }, enviado := hs.2, envios }).1
            (Estado.sendBloques is { e with h := { e.h with mensaje }, enviado := hs.2, envios }).2 := by
        intro envios henvios
        have hih := @ih { e with h := { e.h with mensaje }, enviado := hs.2, envios }
          (fun j hj => his j (List.mem_cons_of_mem _ hj)) ⟨mensaje, envios, hs.2, rfl⟩
        obtain ⟨mensaje', envios', enviado', hfin⟩ := hih.marco
        exact ⟨⟨mensaje', envios', enviado', hfin⟩, fun hs he => hih.llega (henvios hs)
          ⟨he.memSize, ⟨he.handler.cantidad, he.handler.tamanio, he.handler.leave⟩⟩⟩
      have htira : ∀ l envios, (∀ k, l ≠ Llamada.trozo k) → e.envios = l :: envios → ∀ r,
          Envia e { e with h := { e.h with mensaje }, envios } r := by
        intro l envios hl heq r
        refine ⟨⟨mensaje, envios, e.enviado, rfl⟩, fun hs => ?_⟩
        obtain ⟨k, hk⟩ := hs l (heq ▸ List.mem_cons_self)
        exact absurd hk (hl k)
      match henv : e.envios with
      | .error :: envios => exact htira _ envios (fun k h => by cases h) henv _
      | .interrumpida :: envios => exact htira _ envios (fun k h => by cases h) henv _
      | .trozo k :: envios => exact hsigue envios fun hs => sinFallas_tail (henv ▸ hs)
      | [] => exact hsigue [] fun _ x hx => absurd hx List.not_mem_nil

/-- With `leave` nothing is sent and nothing is received. -/
theorem sendToken_leave (hleave : e.h.leave = true) : e.sendToken = (e, .ok ()) := by
  rw [Estado.sendToken]
  cases List.range e.h.cantidadDeBloquesAEnviar with
  | nil => rfl
  | cons i is => rw [Estado.sendBloques, if_pos hleave]

theorem recvBloques_leave (hleave : e.h.leave = true) (is : List Nat) :
    Estado.recvBloques is e = (e, .ok true) := by
  cases is with
  | nil => rfl
  | cons i is => rw [Estado.recvBloques, if_pos hleave]

/-! ## The copy to the group -/

/-- `bzero` fills `mem_local` with zeros. -/
theorem bzero_ok (hg : e.g.memSize = s) (htamanio : e.h.tamanioMemoria = s) :
    ∃ memLocal : Bufer UInt8 s, memLocal.datos = List.replicate s 0 ∧
      e.bzero = ({ e with h := { e.h with memLocal } }, .ok ()) := by
  by_cases hs : s = 0
  · refine ⟨e.h.memLocal, ?_, ?_⟩
    · rw [List.eq_replicate_iff]
      exact ⟨e.h.memLocal.largo, fun x hx =>
        absurd (List.length_pos_of_mem hx) (by rw [e.h.memLocal.largo]; omega)⟩
    · rw [Estado.bzero, if_neg (by rw [htamanio]; exact fun h => h hs)]
  · obtain ⟨memLocal, hescribir, hdatos⟩ := escribir_cero (b := e.h.memLocal)
      (show (List.replicate e.g.memSize (0 : UInt8)).length ≤ s by rw [List.length_replicate, hg])
    refine ⟨memLocal, ?_, ?_⟩
    · rw [hdatos, List.length_replicate, hg, List.drop_eq_nil_of_le e.h.memLocal.largo.le,
        List.append_nil]
    · rw [Estado.bzero, if_pos (by rw [htamanio]; exact hs), hescribir, acceso_ok, luego_ok]

/-- The group takes the whole of `mem_local`. -/
theorem actualizar_memoria (hg : e.g.memSize = s) (htamanio : e.h.tamanioMemoria = s) :
    ∃ memoria recibido, e.actualizar = ({ e with g := { e.g with memoria } }, .ok recibido) ∧
      memoria.datos = e.h.memLocal.datos ++ e.g.memoria.datos.drop s := by
  by_cases hs : s = 0
  · refine ⟨e.g.memoria, multiplicar e.h.cantidadDeBloquesAEnviar dataSize, ?_, ?_⟩
    · rw [Estado.actualizar, if_neg (by rw [htamanio]; exact fun h => h hs)]
    · have hdrop : e.g.memoria.datos.drop s = e.g.memoria.datos := by simp only [hs, List.drop_zero]
      rw [List.eq_nil_of_length_eq_zero (e.h.memLocal.largo.trans hs), hdrop, List.nil_append]
  · obtain ⟨memoria, hmemcpy, hdatos⟩ := memcpy_todo e.g.memoria e.h.memLocal hg (hg ▸ e.g.cabe)
    refine ⟨memoria, multiplicar e.h.cantidadDeBloquesAEnviar dataSize, ?_, ?_⟩
    · rw [Estado.actualizar, if_pos (by rw [htamanio]; exact hs), hmemcpy, acceso_ok, luego_ok]
    · rw [hdatos, mezcla, List.take_of_length_le e.h.memLocal.largo.le]

/-- What `recv_token` does to the memory of the group. -/
structure RecibeToken (e e' : Estado s n) (r : Except Excepcion Nat) : Prop where
  cambia : e'.g.memoria ≠ e.g.memoria →
    cantidad dataSize s * sizeofMensaje ≤ e.socket.bytes.length ∧
      e'.socket.bytes = e.socket.bytes.drop (cantidad dataSize s * sizeofMensaje) ∧
      e'.g.memoria.datos = imagen s e.socket.bytes ++ e.g.memoria.datos.drop s
  completa : SinFallas e.socket.llamadas → Completo (cantidad dataSize s) e.socket.bytes →
    e'.g.memoria.datos = imagen s e.socket.bytes ++ e.g.memoria.datos.drop s

theorem recvToken_recibe (he : EnElLoop e) : RecibeToken e e.recvToken.1 e.recvToken.2 := by
  obtain ⟨memLocal, -, hbzero⟩ := bzero_ok he.memSize he.handler.tamanio
  obtain ⟨e₁, he₁⟩ : ∃ e₁ : Estado s n, e₁ = { e with h := { e.h with memLocal } } := ⟨_, rfl⟩
  have hloop : EnElLoop e₁ := by
    subst he₁
    exact ⟨he.memSize, ⟨he.handler.cantidad, he.handler.tamanio, he.handler.leave⟩⟩
  have hinicio : Recibidos e.socket.bytes memLocal.datos 0 e₁ := by
    refine ⟨hloop, by rw [Nat.zero_mul]; exact Nat.zero_le _, ?_, ?_⟩
    · rw [he₁, Nat.zero_mul, List.drop_zero]
    · rw [he₁, hasta, Nat.zero_mul, Nat.min_zero, mezcla_zero]
  have hr := recvBloques_recibe hinicio (Nat.zero_add _)
  rw [← hloop.handler.cantidad, ← List.range_eq_range'] at hr
  have hg₁ : e₁.g = e.g := by rw [he₁]
  have hsin : e₁.socket = e.socket := by rw [he₁]
  rw [Estado.recvToken, hbzero, ← he₁, luego_ok]
  generalize Estado.recvBloques (List.range e₁.h.cantidadDeBloquesAEnviar) e₁ = r at hr ⊢
  obtain ⟨e', x | _ | _⟩ := r
  case error =>
    have hno := congrArg Grupo.memoria (hr.grupo.trans hg₁)
    exact ⟨fun h => absurd hno h, fun hs hc => by
      have := hr.llega (hsin ▸ hs) hc
      simp at this⟩
  case ok.false =>
    have hno := congrArg Grupo.memoria (hr.grupo.trans hg₁)
    exact ⟨fun h => absurd hno h, fun hs hc => by
      have := hr.llega (hsin ▸ hs) hc
      simp at this⟩
  case ok.true =>
    have htodo := hr.entero rfl
    have hg' : e'.g = e.g := hr.grupo.trans hg₁
    obtain ⟨memoria, recibido, heq, hmemoria⟩ :=
      actualizar_memoria htodo.loop.memSize htodo.loop.handler.tamanio
    have hmem := htodo.memLocal
    rw [hasta_cantidad (by decide), mezcla, List.take_of_length_le (imagen_length s _).le,
      List.drop_eq_nil_of_le memLocal.largo.le, List.append_nil] at hmem
    rw [hmem, hg'] at hmemoria
    rw [luego_ok, if_neg (by decide), heq]
    exact ⟨fun _ => ⟨htodo.largo, htodo.socket, hmemoria⟩, fun _ _ => hmemoria⟩

/-! ## One iteration -/

/-- Whatever becomes of the exchange, what is left after it only touches `leave`. -/
theorem intercambio_marco (e : Estado s n) :
    (intercambio e).1.g = (Estado.luego e.sendToken fun e () => e.recvToken).1.g ∧
      (intercambio e).1.socket = (Estado.luego e.sendToken fun e () => e.recvToken).1.socket := by
  rw [intercambio]
  match Estado.luego e.sendToken fun e () => e.recvToken with
  | (e', .error .osError) => exact ⟨rfl, rfl⟩
  | (e', .error .interruptedSyscall) => exact ⟨rfl, rfl⟩
  | (e', .error (.falla f)) => exact ⟨rfl, rfl⟩
  | (e', .ok recibido) =>
    by_cases hcero : recibido = 0
    · simp only [hcero, if_true]
      exact ⟨rfl, rfl⟩
    · simp only [hcero, if_false, and_self]

/-- With the token the exchange obeys what `recv_token` does. -/
theorem intercambio_recibe (he : EnElLoop e) :
    ((intercambio e).1.g.memoria ≠ e.g.memoria →
      cantidad dataSize s * sizeofMensaje ≤ e.socket.bytes.length ∧
        (intercambio e).1.socket.bytes = e.socket.bytes.drop (cantidad dataSize s * sizeofMensaje) ∧
        (intercambio e).1.g.memoria.datos = imagen s e.socket.bytes ++ e.g.memoria.datos.drop s) ∧
    (SinFallas e.envios → SinFallas e.socket.llamadas →
      Completo (cantidad dataSize s) e.socket.bytes →
        (intercambio e).1.g.memoria.datos = imagen s e.socket.bytes ++ e.g.memoria.datos.drop s) := by
  have henvia : Envia e e.sendToken.1 e.sendToken.2 :=
    sendBloques_envia fun i hi => by
      rwa [he.handler.cantidad, List.mem_range] at hi
  obtain ⟨mensaje, envios, enviado, hmarco⟩ := henvia.marco
  obtain ⟨hg, hsocket⟩ := intercambio_marco e
  rw [hg, hsocket]
  match hsend : e.sendToken with
  | (e₁, .error x) =>
    rw [hsend] at hmarco
    obtain rfl : e₁ = _ := hmarco
    refine ⟨fun h => absurd rfl h, fun hs => ?_⟩
    have hok := henvia.llega hs he
    rw [hsend] at hok
    simp at hok
  | (e₁, .ok ()) =>
    rw [hsend] at hmarco
    obtain rfl : e₁ = _ := hmarco
    have hloop : EnElLoop { e with envios, enviado, h := { e.h with mensaje } } :=
      ⟨he.memSize, ⟨he.handler.cantidad, he.handler.tamanio, he.handler.leave⟩⟩
    have hrec := recvToken_recibe hloop
    exact ⟨hrec.cambia, fun _ => hrec.completa⟩

/-- The iteration leaves the memory as the exchange does. -/
theorem iteracion_token (e : Estado s n) : (iteracion .token e).e = (intercambio e).1 := by
  show (match intercambio e with
    | (e, some x) => (⟨e, [], some x⟩ : Iteracion s n)
    | (e, none) => ⟨e, _, none⟩).e = _
  obtain ⟨e', x⟩ := intercambio e
  cases x <;> rfl

/-- Interrupted before it has the token, the handler receives nothing and copies `mem_local`, which
    `bzero` has just cleared. -/
theorem iteracion_interrumpida (he : EnElLoop e) :
    (iteracion .interrumpida e).e.g.memoria.datos =
      List.replicate s 0 ++ e.g.memoria.datos.drop s := by
  obtain ⟨memLocal, hceros, hbzero⟩ := bzero_ok (e := ponerLeave e) he.memSize he.handler.tamanio
  obtain ⟨e₁, he₁⟩ : ∃ e₁ : Estado s n, e₁ = { ponerLeave e with h := { (ponerLeave e).h with memLocal } } :=
    ⟨_, rfl⟩
  have hleave : e₁.h.leave = true := by rw [he₁]; rfl
  obtain ⟨memoria, recibido, hactualizar, hmemoria⟩ := actualizar_memoria (e := e₁)
    (by rw [he₁]; exact he.memSize) (by rw [he₁]; exact he.handler.tamanio)
  have hrec : (ponerLeave e).recvToken = ({ e₁ with g := { e₁.g with memoria } }, .ok recibido) := by
    rw [Estado.recvToken, hbzero, luego_ok, ← he₁, recvBloques_leave hleave, luego_ok,
      if_neg (by decide), hactualizar]
  have hinter : (intercambio (ponerLeave e)).1.g.memoria = memoria := by
    rw [(intercambio_marco (ponerLeave e)).1, sendToken_leave rfl, luego_ok, hrec]
  have hiter : (iteracion .interrumpida e).e = (intercambio (ponerLeave e)).1 := by
    show (match intercambio (ponerLeave e) with
      | (e, some x) => (⟨e, [], some x⟩ : Iteracion s n)
      | (e, none) => ⟨e, _, none⟩).e = _
    obtain ⟨e', x⟩ := intercambio (ponerLeave e)
    cases x <;> rfl
  rw [hiter, hinter, hmemoria, he₁, ← hceros]
  rfl

end

/-- An iteration leaves the memory untouched or with a whole image exactly when the wait for the token is
    not interrupted, or the memory has nothing but zeros. -/
theorem memoria_intacta_iff {s n : Nat} {lock : Lock} {e : Estado s n} (he : EnElLoop e) :
    SoloConImagen lock e ↔ (lock = .interrumpida → ∀ x ∈ e.g.memoria.datos.take s, x = 0) := by
  cases lock with
  | token =>
    refine iff_of_true ⟨fun h => ?_, fun _ => ?_⟩ fun h => by cases h
    · rw [iteracion_token] at h ⊢
      exact ⟨rfl, (intercambio_recibe he).1 fun heq => h (congrArg Bufer.datos heq)⟩
    · rw [iteracion_token]
      exact (intercambio_recibe he).2
  | error =>
    exact iff_of_true ⟨fun h => absurd rfl h, fun h => by cases h⟩ fun h => by cases h
  | interrumpida =>
    have hmem := iteracion_interrumpida he
    have hlargo : (e.g.memoria.datos.take s).length = s := by
      have := e.g.cabe
      have := he.memSize
      rw [List.length_take, e.g.memoria.largo]
      omega
    have hceros : (∀ x ∈ e.g.memoria.datos.take s, x = 0) ↔
        e.g.memoria.datos.take s = List.replicate s 0 := by
      rw [List.eq_replicate_iff]
      exact ⟨fun h => ⟨hlargo, h⟩, And.right⟩
    rw [forall_prop_of_true rfl, hceros]
    constructor
    · intro h
      by_contra hne
      have hcambia := h.cambia (fun heq => hne ?_)
      · cases hcambia.1
      · rw [← heq, hmem, List.take_left' List.length_replicate]
    · intro h
      refine ⟨fun hne => absurd ?_ hne, fun hlock => by cases hlock⟩
      rw [hmem, ← h, List.take_append_drop]

/-- A group of one byte, and the handler that has just joined it. -/
def grupoDeUnByte : Grupo 1 where
  nombreRecurso := []
  memSize := 1
  memoria := relleno 1 7
  cabe := le_rfl
  esSizeT := by decide

def recienUnido (socket : Socket) : Estado 1 1 :=
  ⟨joinGroup grupoDeUnByte (relleno _ 0) (relleno _ 0), grupoDeUnByte, socket, [], []⟩

theorem recienUnido_enElLoop (socket : Socket) : EnElLoop (recienUnido socket) := ⟨rfl, ⟨rfl, rfl, rfl⟩⟩

/-- The wait is interrupted, and the byte of the group is lost. -/
theorem interrumpida_borra_memoria : ¬∀ (s n : Nat) (lock : Lock) (e : Estado s n), EnElLoop e →
    SoloConImagen lock e := by
  intro h
  have he := recienUnido_enElLoop ⟨[], []⟩
  have hmem : (iteracion .interrumpida (recienUnido ⟨[], []⟩)).e.g.memoria.datos = [0] :=
    iteracion_interrumpida he
  have hcambia := (h 1 1 .interrumpida _ he).cambia (by rw [hmem]; decide)
  cases hcambia.1

/-- The client sends a whole message, and with the token it becomes the memory. -/
theorem memoria_intacta_un_byte :
    SoloConImagen .token (recienUnido ⟨List.replicate 328 4, [.trozo 100]⟩) ∧
      ¬SoloConImagen .interrumpida (recienUnido ⟨List.replicate 328 4, [.trozo 100]⟩) := by
  constructor
  · exact (memoria_intacta_iff (recienUnido_enElLoop _)).2 fun h => by cases h
  · intro h
    have hcero := (memoria_intacta_iff (recienUnido_enElLoop _)).1 h rfl 7 (by decide)
    cases hcero

end LoopMemoria
