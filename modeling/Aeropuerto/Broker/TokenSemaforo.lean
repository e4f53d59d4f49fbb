import Aeropuerto.Broker.Fragmentacion
import Mathlib.Algebra.Ring.Nat

/-!
# The token of a semaphore on the socket (`local_broker/client_handler.cpp`,
# `clientes/local_broker_comm.cpp`)

A semaphore or a mutex has no memory, so its token is one message without data: the handler sends it with
`send_token_sem` and waits for it with `recv_token_sem`, the application with `wait_token()` and
`send_token()`.  Each of the two loops that wait reads the stream with a single receive, so what it takes
for a token is whatever part of the stream that receive brings.
-/

namespace TokenSemaforo

open Flujo Fragmentacion

inductive Respuesta where
  | ok
  | error
  | leaveOk
  | rToken
  | rTokenCheck
  deriving DecidableEq

def Respuesta.codigo : Respuesta → UInt8
  | .ok => 0
  | .error => 1
  | .leaveOk => 2
  | .rToken => 3
  | .rTokenCheck => 4

def Respuesta.bytes (r : Respuesta) : List UInt8 := [r.codigo, 0, 0, 0]

/-- `mensaje.respuesta = r`. -/
def ponerRespuesta (r : Respuesta) (m : Fragmentacion.Mensaje) : Fragmentacion.Mensaje :=
  ⟨m.datos.take 4 ++ r.bytes ++ m.datos.drop posRecurso, by
    rw [List.length_append, List.length_append, List.length_drop, List.length_take, m.largo]
    rfl⟩

/-! ## The handler in the broker -/

structure ClientHandler where
  mensaje : Fragmentacion.Mensaje
  tengoToken : Nat
  salir : Nat

namespace ClientHandler

def sendTokenSem (h : ClientHandler) : ClientHandler × List UInt8 :=
  let mensaje := ponerRespuesta .rToken h.mensaje
  ({ h with mensaje }, mensaje.datos)

/-- What the receive brings is `none` when a signal interrupts it. -/
def recvTokenSem (h : ClientHandler) : Option (List UInt8) → Except Falla ClientHandler
  | some leidos => do
    let mensaje ← h.mensaje.escribir 0 leidos
    let h := { h with mensaje, tengoToken := 1 }
    -- the request of the buffer, however much of it has arrived
    let h := if esLeave mensaje.datos then { h with salir := 1, tengoToken := 0 } else h
    if leidos = [] then .error .cerrado else .ok h
  | none => .ok { h with tengoToken := 0, salir := if h.salir ≠ 3 then 2 else h.salir }

/-- What `n` calls of `send_token_sem` put on the socket. -/
def enviarTokens : ClientHandler → Nat → List (List UInt8)
  | _, 0 => []
  | h, n + 1 => h.sendTokenSem.2 :: h.sendTokenSem.1.enviarTokens n

end ClientHandler

/-! ## The process of the application -/

structure LocalBrokerComm where
  mensaje : Fragmentacion.Mensaje
  tengoToken : Nat
  salir : Nat

namespace LocalBrokerComm

def waitToken (b : LocalBrokerComm) (recibido : Option (List UInt8)) : Except Falla LocalBrokerComm :=
  let b := { b with tengoToken := 0 }
  match recibido with
  | some leidos => do
    let mensaje ← b.mensaje.escribir 0 leidos
    let b := { b with mensaje, tengoToken := 1 }
    if leidos = [] then .error .cerrado else .ok b
  | none => .ok { b with tengoToken := 0 }

/-- `while (reintentar)`: the attempts that a signal interrupts send nothing. -/
def reintentar : Nat → Fragmentacion.Mensaje → List UInt8
  | 0, mensaje => mensaje.datos
  | interrumpidos + 1, mensaje => reintentar interrumpidos mensaje

def sendToken (b : LocalBrokerComm) (interrumpidos : Nat) : LocalBrokerComm × List UInt8 :=
  let mensaje := ponerPeticion .tokenFree b.mensaje
  ({ b with mensaje }, reintentar interrumpidos mensaje)

/-- One call of `send_token()` for each element, which says how many attempts are interrupted. -/
def enviarTokens : LocalBrokerComm → List Nat → List (List UInt8)
  | _, [] => []
  | b, i :: interrumpidos => (b.sendToken i).2 :: (b.sendToken i).1.enviarTokens interrumpidos

end LocalBrokerComm

/-! ## The loops that wait -/

section

variable {ρ : Type*}

/-- `while (salir == 0)` over the parts of the stream, one for each receive: after how many bytes of it
    each token is recognised.  `soltar` is what the loop does with the token. -/
def loopPadre (recv : ρ → Option (List UInt8) → Except Falla ρ) (salir tengoToken : ρ → Nat)
    (soltar : ρ → ρ) : ρ → List (List UInt8) → Nat → List Nat
  | _, [], _ => []
  | r, leidos :: trozos, recibidos =>
    if salir r = 0 then
      match recv r (some leidos) with
      | .error _ => []
      | .ok r =>
        let recibidos := recibidos + leidos.length
        if tengoToken r = 1 then
          recibidos :: loopPadre recv salir tengoToken soltar (soltar r) trozos recibidos
        else loopPadre recv salir tengoToken soltar r trozos recibidos
    else []

end

/-- `ClientHandler::loop_semaforo_padre`, which gives the token to the group. -/
def ClientHandler.loopSemaforoPadre (h : ClientHandler) (trozos : List (List UInt8)) : List Nat :=
  loopPadre recvTokenSem salir tengoToken (fun h => { h with tengoToken := 0 }) h trozos 0

/-- `LocalBrokerComm::loop_semaforo_padre`.  The next `wait_token()` clears the flag when the token goes to
    the semaphore of the application, and the loop itself when it is sent back. -/
def LocalBrokerComm.loopSemaforoPadre (b : LocalBrokerComm) (trozos : List (List UInt8)) : List Nat :=
  loopPadre waitToken salir tengoToken id b trozos 0

/-- A way to cut a stream: a receive brings at least one byte and no more than a message. -/
structure Cortado (flujo : List UInt8) (trozos : List (List UInt8)) : Prop where
  todo : trozos.flatten = flujo
  trozo : ∀ t ∈ trozos, t ≠ [] ∧ t.length ≤ sizeofMensaje

/-- Each receive brings a whole message. -/
def Enteros (trozos : List (List UInt8)) : Prop := ∀ t ∈ trozos, t.length = sizeofMensaje

/-- As many tokens as messages, the one of each message once all its bytes have arrived. -/
structure UnoPorMensaje (desde enviados : Nat) (reconocidos : List Nat) : Prop where
  cantidad : reconocidos.length = enviados
  entero : ∀ j p, reconocidos[j]? = some p → desde + (j + 1) * sizeofMensaje ≤ p

/-! ## What one receive does -/

section

variable {n desde recibidos enviados : Nat} {reconocidos : List Nat}

theorem sizeofMensaje_pos : 0 < sizeofMensaje := by decide

theorem unoPorMensaje_nil : UnoPorMensaje desde 0 [] :=
  ⟨rfl, fun _ _ h => by simp at h⟩

/-- The first token, and the rest after the first message. -/
theorem unoPorMensaje_cons :
    UnoPorMensaje desde (enviados + 1) (recibidos :: reconocidos) ↔
      desde + sizeofMensaje ≤ recibidos ∧
        UnoPorMensaje (desde + sizeofMensaje) enviados reconocidos := by
  have hmas : ∀ j, desde + (j + 1 + 1) * sizeofMensaje = desde + sizeofMensaje + (j + 1) * sizeofMensaje := by
    intro j
    rw [Nat.succ_mul (j + 1)]
    omega
  constructor
  · rintro ⟨hcantidad, hentero⟩
    refine ⟨by simpa using hentero 0 recibidos rfl, Nat.succ.inj hcantidad, fun j p hj => ?_⟩
    rw [← hmas j]
    exact hentero (j + 1) p hj
  · rintro ⟨hprimero, hcantidad, hentero⟩
    refine ⟨congrArg Nat.succ hcantidad, fun j p hj => ?_⟩
    cases j with
    | zero =>
      obtain rfl : recibidos = p := by simpa using hj
      simpa using hprimero
    | succ j =>
      rw [hmas j]
      exact hentero j p hj

/-- What arrives of a message, from its beginning, is received over the old bytes of the buffer. -/
theorem escribir_comienzo {b : Fragmentacion.Mensaje} {m : List UInt8} {k : Nat}
    (hm : m.length = sizeofMensaje)
    (hk : k ≤ sizeofMensaje) :
    ∃ b', b.escribir 0 (m.take k) = .ok b' ∧ b'.datos = mezcla k m b.datos := by
  have hlargo : (m.take k).length = k := List.length_take_of_le (by omega)
  obtain ⟨b', hb', hdatos⟩ := escribir_cero (b := b) (hlargo.trans_le hk)
  exact ⟨b', hb', by rw [hdatos, hlargo]; rfl⟩

/-- A receive that begins where a message begins is taken for the token of that message, whatever part
    of it has arrived, and the loop goes on. -/
def Reconoce {ρ : Type*} (recv : ρ → Option (List UInt8) → Except Falla ρ) (salir tengoToken : ρ → Nat)
    (soltar : ρ → ρ) (mensajes : List (List UInt8)) : Prop :=
  ∀ r, ∀ m ∈ mensajes, ∀ k, 0 < k → k ≤ sizeofMensaje → salir r = 0 →
    ∃ r', recv r (some (m.take k)) = .ok r' ∧ tengoToken r' = 1 ∧ salir (soltar r') = 0

theorem recvTokenSem_reconoce {mensajes : List (List UInt8)}
    (hlargo : ∀ m ∈ mensajes, m.length = sizeofMensaje) (hno : ∀ m ∈ mensajes, NoEsLeave m) :
    Reconoce ClientHandler.recvTokenSem ClientHandler.salir ClientHandler.tengoToken
      (fun h => { h with tengoToken := 0 }) mensajes := by
  intro h m hm k hk hk' hsalir
  obtain ⟨b', hb', hdatos⟩ := escribir_comienzo (b := h.mensaje) (hlargo m hm) hk'
  have hleave : esLeave b'.datos = false := hdatos ▸ (hno m hm).mezcla k h.mensaje.datos hk
  have hne : m.take k ≠ [] := by
    have := hlargo m hm
    exact List.ne_nil_of_length_pos (by rw [List.length_take]; omega)
  refine ⟨{ h with mensaje := b', tengoToken := 1 }, ?_, rfl, hsalir⟩
  simp only [ClientHandler.recvTokenSem, hb', ok_bind, hleave, Bool.false_eq_true, if_false, if_neg hne]

theorem waitToken_reconoce {mensajes : List (List UInt8)}
    (hlargo : ∀ m ∈ mensajes, m.length = sizeofMensaje) :
    Reconoce LocalBrokerComm.waitToken LocalBrokerComm.salir LocalBrokerComm.tengoToken id mensajes := by
  intro b m hm k hk hk' hsalir
  obtain ⟨b', hb', -⟩ := escribir_comienzo (b := b.mensaje) (hlargo m hm) hk'
  have hne : m.take k ≠ [] := by
    have := hlargo m hm
    exact List.ne_nil_of_length_pos (by rw [List.length_take]; omega)
  refine ⟨{ b with mensaje := b', tengoToken := 1 }, ?_, rfl, hsalir⟩
  simp only [LocalBrokerComm.waitToken, hb', ok_bind, if_neg hne]

/-! ## The whole stream -/

section

variable {ρ : Type*} {recv : ρ → Option (List UInt8) → Except Falla ρ} {salir tengoToken : ρ → Nat}
  {soltar : ρ → ρ} {r : ρ} {mensajes trozos : List (List UInt8)}

/-- By induction on the parts: while they are whole messages each begins where a message begins, and the
    first one that is shorter is taken for a token before its message has arrived. -/
theorem loopPadre_iff (hrecv : Reconoce recv salir tengoToken soltar mensajes)
    (hlargo : ∀ m ∈ mensajes, m.length = sizeofMensaje) (hcorte : Cortado mensajes.flatten trozos)
    (hr : salir r = 0) :
    UnoPorMensaje desde mensajes.length (loopPadre recv salir tengoToken soltar r trozos desde) ↔
      Enteros trozos := by
  have hpos := sizeofMensaje_pos
  induction trozos generalizing r mensajes desde with
  | nil =>
    obtain rfl : mensajes = [] := by
      cases mensajes with
      | nil => rfl
      | cons m mensajes =>
        have hvacio := congrArg List.length hcorte.todo
        have hm := hlargo m List.mem_cons_self
        simp only [List.flatten_nil, List.flatten_cons, List.length_append, List.length_nil] at hvacio
        omega
    exact iff_of_true unoPorMensaje_nil fun t ht => absurd ht List.not_mem_nil
  | cons t trozos ih =>
    obtain ⟨hne, hcabe⟩ := hcorte.trozo t List.mem_cons_self
    have htodo := hcorte.todo
    cases mensajes with
    | nil =>
      simp only [List.flatten_cons, List.flatten_nil, List.append_eq_nil_iff] at htodo
      exact absurd htodo.1 hne
    | cons m mensajes =>
      have hm := hlargo m List.mem_cons_self
      have ht : t = m.take t.length := by
        have htake := congrArg (List.take t.length) htodo
        rwa [List.flatten_cons, List.flatten_cons, List.take_left' rfl,
          List.take_append_of_le_length (by omega)] at htake
      obtain ⟨r', hr', htengo, hsigue⟩ :=
        hrecv r m List.mem_cons_self t.length (List.length_pos_of_ne_nil hne) hcabe hr
      have hloop : loopPadre recv salir tengoToken soltar r (t :: trozos) desde =
          (desde + t.length) ::
            loopPadre recv salir tengoToken soltar (soltar r') trozos (desde + t.length) := by
        rw [← ht] at hr'
        rw [loopPadre, if_pos hr, hr']
        exact if_pos htengo
      rw [hloop, List.length_cons, unoPorMensaje_cons]
      by_cases hk : t.length = sizeofMensaje
      · have htm : t = m := by rw [ht, hk, ← hm, List.take_length]
        have hresto : Cortado mensajes.flatten trozos := by
          refine ⟨?_, fun u hu => hcorte.trozo u (List.mem_cons_of_mem _ hu)⟩
          rw [List.flatten_cons, List.flatten_cons, htm] at htodo
          exact List.append_cancel_left htodo
        have hih : UnoPorMensaje (desde + sizeofMensaje) mensajes.length _ ↔ Enteros trozos :=
          ih (fun r x hx => hrecv r x (List.mem_cons_of_mem _ hx))
            (fun x hx => hlargo x (List.mem_cons_of_mem _ hx)) hresto hsigue
        rw [hk, hih]
        constructor
        · rintro ⟨-, henteros⟩ u hu
          rcases List.mem_cons.1 hu with rfl | hu
          · exact hk
          · exact henteros u hu
        · exact fun h => ⟨le_rfl, fun u hu => h u (List.mem_cons_of_mem _ hu)⟩
      · refine iff_of_false (fun h => ?_) fun h => hk (h t List.mem_cons_self)
        have hantes := h.1
        omega

end

/-! ## What is sent -/

theorem ClientHandler.length_enviarTokens (h : ClientHandler) (n : Nat) :
    (h.enviarTokens n).length = n := by
  induction n generalizing h with
  | zero => rfl
  | succ n ih => rw [enviarTokens, List.length_cons, ih]

theorem ClientHandler.largo_enviarTokens (h : ClientHandler) (n : Nat) :
    ∀ m ∈ h.enviarTokens n, m.length = sizeofMensaje := by
  induction n generalizing h with
  | zero => exact fun m hm => absurd hm List.not_mem_nil
  | succ n ih =>
    intro m hm
    rcases List.mem_cons.1 hm with rfl | hm
    · exact (ponerRespuesta .rToken h.mensaje).largo
    · exact ih _ m hm

theorem LocalBrokerComm.reintentar_eq (interrumpidos : Nat) (mensaje : Fragmentacion.Mensaje) :
    reintentar interrumpidos mensaje = mensaje.datos := by
  induction interrumpidos with
  | zero => rfl
  | succ interrumpidos ih => exact ih

theorem LocalBrokerComm.length_enviarTokens (b : LocalBrokerComm) (interrumpidos : List Nat) :
    (b.enviarTokens interrumpidos).length = interrumpidos.length := by
  induction interrumpidos generalizing b with
  | nil => rfl
  | cons i interrumpidos ih => rw [enviarTokens, List.length_cons, ih, List.length_cons]

/-- Every message is whole and asks for `TOKEN_FREE`. -/
theorem LocalBrokerComm.enviarTokens_tokenFree (b : LocalBrokerComm) (interrumpidos : List Nat) :
    ∀ m ∈ b.enviarTokens interrumpidos, m.length = sizeofMensaje ∧ NoEsLeave m := by
  induction interrumpidos generalizing b with
  | nil => exact fun m hm => absurd hm List.not_mem_nil
  | cons i interrumpidos ih =>
    intro m hm
    rcases List.mem_cons.1 hm with rfl | hm
    · rw [sendToken, reintentar_eq]
      exact ⟨(ponerPeticion .tokenFree b.mensaje).largo, noEsLeave_ponerPeticion (by decide) b.mensaje⟩
    · exact ih _ m hm

end

/-- A token is one message exactly when each receive brings a whole message. -/
theorem un_token_por_mensaje_iff {h : ClientHandler} {b : LocalBrokerComm} (hh : h.salir = 0)
    (hb : b.salir = 0) :
    (∀ n trozos, Cortado (h.enviarTokens n).flatten trozos →
      (UnoPorMensaje 0 n (b.loopSemaforoPadre trozos) ↔ Enteros trozos)) ∧
    ∀ interrumpidos trozos, Cortado (b.enviarTokens interrumpidos).flatten trozos →
      (UnoPorMensaje 0 interrumpidos.length (h.loopSemaforoPadre trozos) ↔ Enteros trozos) := by
  constructor
  · intro n trozos hcorte
    have hlargo := h.largo_enviarTokens n
    have hiff : UnoPorMensaje 0 _ (b.loopSemaforoPadre trozos) ↔ Enteros trozos :=
      loopPadre_iff (waitToken_reconoce hlargo) hlargo hcorte hb
    rwa [h.length_enviarTokens] at hiff
  · intro interrumpidos trozos hcorte
    have hfree := b.enviarTokens_tokenFree interrumpidos
    have hlargo := fun m hm => (hfree m hm).1
    have hiff : UnoPorMensaje 0 _ (h.loopSemaforoPadre trozos) ↔ Enteros trozos :=
      loopPadre_iff (recvTokenSem_reconoce hlargo fun m hm => (hfree m hm).2) hlargo hcorte hh
    rwa [b.length_enviarTokens] at hiff

/-- A handler and an application that have just begun. -/
def enReposo : ClientHandler × LocalBrokerComm :=
  (⟨relleno sizeofMensaje 0, 0, 0⟩, ⟨relleno sizeofMensaje 0, 0, 0⟩)

/-- One message that arrives in two parts is two tokens, the first of them after one byte. -/
theorem un_mensaje_dos_tokens : ¬∀ (h : ClientHandler) (b : LocalBrokerComm), h.salir = 0 → b.salir = 0 →
    (∀ n trozos, Cortado (h.enviarTokens n).flatten trozos →
      UnoPorMensaje 0 n (b.loopSemaforoPadre trozos)) ∧
    ∀ interrumpidos trozos, Cortado (b.enviarTokens interrumpidos).flatten trozos →
      UnoPorMensaje 0 interrumpidos.length (h.loopSemaforoPadre trozos) := by
  intro hmensajes
  obtain ⟨trozos, htrozos⟩ : ∃ trozos, trozos =
      [(enReposo.1.enviarTokens 1).flatten.take 1, (enReposo.1.enviarTokens 1).flatten.drop 1] := ⟨_, rfl⟩
  have hcorte : Cortado (enReposo.1.enviarTokens 1).flatten trozos := by
    subst htrozos
    refine ⟨by rw [List.flatten_cons, List.flatten_singleton, List.take_append_drop], fun t ht => ?_⟩
    rcases List.mem_pair.1 ht with rfl | rfl
    · exact ⟨by decide +kernel, by decide +kernel⟩
    · exact ⟨by decide +kernel, by decide +kernel⟩
  have hdos : (enReposo.2.loopSemaforoPadre trozos).length = 2 := by
    subst htrozos
    decide +kernel
  have huno := ((hmensajes enReposo.1 enReposo.2 rfl rfl).1 1 trozos hcorte).cantidad
  omega

/-- Three tokens, each in one receive. -/
theorem un_token_por_mensaje_tres :
    UnoPorMensaje 0 3 (enReposo.2.loopSemaforoPadre (enReposo.1.enviarTokens 3)) ∧
      UnoPorMensaje 0 3 (enReposo.1.loopSemaforoPadre (enReposo.2.enviarTokens [0, 2, 1])) := by
  have hpos := sizeofMensaje_pos
  have hiff : _ ∧ ∀ interrumpidos trozos, Cortado (enReposo.2.enviarTokens interrumpidos).flatten trozos →
      (_ ↔ Enteros trozos) := un_token_por_mensaje_iff (h := enReposo.1) (b := enReposo.2) rfl rfl
  have hlargo := enReposo.1.largo_enviarTokens 3
  have hlargo' := fun m hm => (enReposo.2.enviarTokens_tokenFree [0, 2, 1] m hm).1
  refine ⟨(hiff.1 3 _ ⟨rfl, fun t ht => ?_⟩).2 hlargo, (hiff.2 [0, 2, 1] _ ⟨rfl, fun t ht => ?_⟩).2 hlargo'⟩
  · have ht' := hlargo t ht
    exact ⟨List.ne_nil_of_length_pos (by omega), ht'.le⟩
  · have ht' := hlargo' t ht
    exact ⟨List.ne_nil_of_length_pos (by omega), ht'.le⟩

end TokenSemaforo
