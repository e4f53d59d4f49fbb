import Aeropuerto.Biblioteca.Ejecucion
import Aeropuerto.Biblioteca.Enteros
import Aeropuerto.Biblioteca.Tablas
import Aeropuerto.Broker.TransferenciaToken

/-!
# The leader of a group (`local_broker/lider.cpp`)

`Lider::run` waits for a message with an alarm set.  What the kernel answers to the `msgrcv` of each wait
and whether the alarm goes off in it are events of the environment; the messages that the leader pushes
always find room.
-/

namespace Lider

open Ejecucion Enteros Cadenas
open TransferenciaToken (decimal)

def dataSize : Nat := 256

-- GROUP_MSG_T
def groupDiscover : Nat := 2

def tokenLost : Nat := 3

def initialization : Nat := 4

def tokenRecover : Nat := 5

def tokenDiscover : Nat := 8

abbrev Data := {bytes : List UInt8 // bytes.length = dataSize}

theorem length_poner {d : Data} {bs : List UInt8} (h : bs.length ≤ dataSize) :
    (bs ++ d.1.drop bs.length).length = dataSize := by
  rw [List.length_append, List.length_drop, d.2]
  omega

/-- Writes at the beginning; what does not fit is written nowhere. -/
def Data.poner (d : Data) (bs : List UInt8) : Data :=
  if h : bs.length ≤ dataSize then ⟨bs ++ d.1.drop bs.length, length_poner h⟩ else d

/-- `*(int *) data`. -/
def Data.entero (d : Data) : Int := conSigno 32 (valorLE (d.1.take 4))

def Data.ponerEntero (d : Data) (v : Int) : Data := d.poner (bytesLE 4 (v % 2 ^ 32).toNat)

/-- `sprintf(data, "%d", n)`. -/
def Data.sprintf (d : Data) (n : Nat) : Data := d.poner (decimal n)

def cadena (data : List UInt8) : List UInt8 := data.takeWhile (· != 0)

/-- `strcmp(data, "OK") == 0`. -/
def Data.ok (d : Data) : Bool := cadena d.1 = [79, 75]

/-- `sscanf(data, "%d", &entero)`; `none` leaves the variable as it is. -/
def sscanf (data : List UInt8) : Option Int := (Fscanf.leerEntero (Fscanf.saltar (cadena data))).1

structure Mensaje where
  tipo : Nat
  data : Data

structure MensajeEnvio extends Mensaje where
  numeroDeMensaje : Int
  cantidadBytesTotal : Nat

inductive Pc where
  -- wait_msg of the loop
  | espera
  -- wait_msg after a TOKEN_RECOVER
  | respuesta
  -- the loop was left, or an exception that run does not catch ended the process
  | fin
  deriving DecidableEq

structure Estado where
  mensaje : Mensaje
  mensajeEnvio : MensajeEnvio
  alarma : Bool
  cantNodos : Int
  pc : Pc

inductive Accion where
  -- the type on which a message is dispatched
  | despacha (tipo : Nat)
  | envia (tipo : Nat)
  -- a TOKEN_RECOVER, with the number that procesar_mensaje reads in it
  | recupera (nodo : Option Int)
  | releaseToken
  deriving DecidableEq

/-- `procesar_recepcion_token` of the node `nodo` writes its number over the block that it received. -/
def tokenPerdido (nodo : Nat) (bloque : Data) : Mensaje := ⟨tokenLost, bloque.sprintf nodo⟩

inductive Recibido where
  | tokenLost (nodo : Nat) (bloque : Data)
  | otro (m : Mensaje) (h : m.tipo ≠ Lider.tokenLost)

def Recibido.mensaje : Recibido → Mensaje
  | .tokenLost nodo bloque => tokenPerdido nodo bloque
  | .otro m _ => m

inductive Pull where
  | mensaje (r : Recibido)
  -- msgrcv fails
  | osError
  -- a signal interrupts it
  | interruptedSyscall

structure Evento where
  pull : Pull
  -- SIGALRM comes in this wait
  alarma : Bool

/-- `send_msg`. -/
def sendMsg (m : MensajeEnvio) : Accion :=
  if m.tipo = tokenRecover then .recupera (sscanf m.data.1) else .envia m.tipo

/-- `none` is an exception: an `OSError` without the alarm, or an `InterruptedSyscall`, which is not an
    `OSError`. -/
def waitMsg (l : Estado) (e : Evento) : Option Estado :=
  match e.pull with
  | .mensaje r => some { l with mensaje := r.mensaje, alarma := e.alarma }
  | .osError => if e.alarma then some { l with alarma := true } else none
  | .interruptedSyscall => none

/-- The body of the inner loop up to its `wait_msg`. -/
def preguntar (l : Estado) : Estado × List Accion :=
  let v := l.mensajeEnvio.data.entero - 1
  let envio := { l.mensajeEnvio with data := l.mensajeEnvio.data.ponerEntero v }
  if 1 < v then
    let envio := { envio with tipo := tokenRecover }
    ({ l with mensajeEnvio := envio, pc := .respuesta }, [sendMsg envio])
  else ({ l with mensajeEnvio := envio, pc := .espera }, [.releaseToken])

/-- The branches on `mensaje.data.tipo`. -/
def despachar (l : Estado) : Estado × List Accion :=
  if l.mensaje.tipo = groupDiscover then
    ({ l with cantNodos := (sscanf l.mensaje.data.1).getD l.cantNodos }, [])
  else if l.mensaje.tipo = tokenLost then
    preguntar
      { l with
        mensajeEnvio.data := l.mensajeEnvio.data.ponerEntero l.mensaje.data.entero }
  else if l.mensaje.tipo = initialization then ({ l with mensajeEnvio.numeroDeMensaje := 1 }, [])
  else (l, [])

/-- The body of the loop after its `wait_msg`. -/
def vuelta (l : Estado) : Estado × List Accion :=
  if l.alarma then ((despachar l).1, .despacha l.mensaje.tipo :: (despachar l).2)
  else ({ l with mensaje.tipo := tokenDiscover }, [sendMsg l.mensajeEnvio])

/-- The test of the answer. -/
def respuesta (l : Estado) : Estado × List Accion :=
  if l.mensaje.data.ok then ({ l with pc := .espera }, []) else preguntar l

def run (l : Estado) (e : Evento) : Estado × List Accion :=
  match waitMsg l e with
  | none => ({ l with pc := .fin }, [])
  | some l => if l.pc = .respuesta then respuesta l else vuelta l

/-- Behind the first `send_msg`; the buffers have what the memory of the object had. -/
def inicial (mensaje : Mensaje) (memoria : Data) : Estado where
  mensaje := mensaje
  mensajeEnvio :=
    { tipo := groupDiscover
      data := (memoria.ponerEntero 1).sprintf 1
      numeroDeMensaje := 1
      cantidadBytesTotal := 1 }
  alarma := false
  cantNodos := 0
  pc := .espera

/-! ## The recovery of a token -/

inductive Etapa where
  | espera
  -- the last node that was asked
  | recupera (nodo : Nat)
  | fin
  deriving DecidableEq

/-- The nodes before `n` are asked down to 2, and then the token is released. -/
def recuperar (n : Nat) : Etapa × List Accion :=
  if 3 ≤ n then (.recupera (n - 1), [.recupera (some ((n : Int) - 1))]) else (.espera, [.releaseToken])

/-- The dispatch of a message on its type; a TOKEN_LOST begins its recovery. -/
def despachado (etapa : Etapa) : Recibido → Etapa × List Accion
  | .tokenLost n _ => ((recuperar n).1, .despacha tokenLost :: (recuperar n).2)
  | .otro m _ => (etapa, [.despacha m.tipo])

/-- What a leader does: a message is dispatched on its type, also when the alarm goes off in its wait, and
    an alarm without a message sends a TOKEN_DISCOVER.  In a recovery the TOKEN_RECOVER that comes back is
    the answer, any other message is dispatched, and an alarm counts as no answer. -/
def esperado : Etapa → Evento → Etapa × List Accion
  | .espera, ⟨.mensaje r, _⟩ => despachado .espera r
  | .espera, ⟨_, true⟩ => (.espera, [.envia tokenDiscover])
  | .recupera k, ⟨.mensaje r, _⟩ =>
    if r.mensaje.tipo = tokenRecover then
      if r.mensaje.data.ok then (.espera, []) else recuperar k
    else despachado (.recupera k) r
  | .recupera k, ⟨_, true⟩ => recuperar k
  | _, _ => (.fin, [])

def esperados : Etapa → List Evento → Etapa × List Accion
  | etapa, [] => (etapa, [])
  | etapa, e :: es =>
    let r := esperado etapa e
    ((esperados r.1 es).1, r.2 ++ (esperados r.1 es).2)

/-- A TOKEN_RECOVER that is not OK, or an alarm. -/
def Evento.calla (e : Evento) : Bool :=
  match e.pull with
  | .mensaje r => decide (r.mensaje.tipo = tokenRecover) && !r.mensaje.data.ok
  | _ => e.alarma

def Evento.contesta (e : Evento) : Bool :=
  match e.pull with
  | .mensaje r => decide (r.mensaje.tipo = tokenRecover) && r.mensaje.data.ok
  | _ => false

/-- The questions to the `j` nodes before `n`. -/
def preguntas : Nat → Nat → List Accion
  | _, 0 => []
  | n, j + 1 => .recupera (some ((n : Int) - 1)) :: preguntas (n - 1) j

theorem recuperar_of_le {n : Nat} (h : 3 ≤ n) :
    recuperar n = (.recupera (n - 1), [.recupera (some ((n : Int) - 1))]) :=
  if_pos h

theorem recuperar_of_lt {n : Nat} (h : n < 3) : recuperar n = (.espera, [.releaseToken]) :=
  if_neg (by omega)

theorem esperado_calla {e : Evento} {k : Nat} (h : e.calla = true) :
    esperado (.recupera k) e = recuperar k := by
  obtain ⟨pull, alarma⟩ := e
  cases pull with
  | mensaje r =>
    obtain ⟨htipo, hok⟩ := (Bool.and_eq_true _ _).mp h
    rw [esperado, if_pos (of_decide_eq_true htipo), if_neg]
    simpa using hok
  | osError =>
    obtain rfl : alarma = true := h
    rfl
  | interruptedSyscall =>
    obtain rfl : alarma = true := h
    rfl

theorem esperado_contesta {e : Evento} {k : Nat} (h : e.contesta = true) :
    esperado (.recupera k) e = (.espera, []) := by
  obtain ⟨pull, alarma⟩ := e
  cases pull with
  | mensaje r =>
    obtain ⟨htipo, hok⟩ := (Bool.and_eq_true _ _).mp h
    rw [esperado, if_pos (of_decide_eq_true htipo), if_pos hok]
  | osError => cases h
  | interruptedSyscall => cases h

/-- When no node answers OK all are asked and the token is released once. -/
theorem esperados_sin_respuesta (es : List Evento) (h : ∀ e ∈ es, e.calla = true) {n : Nat}
    (hn : es.length = n - 2) :
    (esperados (recuperar n).1 es).1 = .espera ∧
      (recuperar n).2 ++ (esperados (recuperar n).1 es).2 = preguntas n (n - 2) ++ [.releaseToken] := by
  induction es generalizing n with
  | nil =>
    rw [← hn, recuperar_of_lt (by rw [List.length_nil] at hn; omega)]
    exact ⟨rfl, rfl⟩
  | cons e es ih =>
    rw [List.length_cons] at hn
    have hresto := ih (fun e he => h e (List.mem_cons_of_mem _ he)) (n := n - 1) (by omega)
    have hcalla := esperado_calla (k := n - 1) (h e List.mem_cons_self)
    rw [recuperar_of_le (by omega), esperados, hcalla, ← hn]
    rw [show n - 1 - 2 = es.length by omega] at hresto
    exact ⟨hresto.1, congrArg (_ :: ·) hresto.2⟩

/-- The first answer OK ends the recovery and no token is released. -/
theorem esperados_con_respuesta (es : List Evento) (h : ∀ e ∈ es, e.calla = true) {ok : Evento}
    (hok : ok.contesta = true) {n : Nat} (hn : es.length < n - 2) :
    (esperados (recuperar n).1 (es ++ [ok])).1 = .espera ∧
      (recuperar n).2 ++ (esperados (recuperar n).1 (es ++ [ok])).2 = preguntas n (es.length + 1) := by
  induction es generalizing n with
  | nil =>
    rw [recuperar_of_le (by omega), List.nil_append, esperados, esperado_contesta hok]
    exact ⟨rfl, rfl⟩
  | cons e es ih =>
    rw [List.length_cons] at hn ⊢
    have hresto := ih (fun e he => h e (List.mem_cons_of_mem _ he)) (n := n - 1) (by omega)
    have hcalla := esperado_calla (k := n - 1) (h e List.mem_cons_self)
    rw [recuperar_of_le (by omega), List.cons_append, esperados, hcalla]
    exact ⟨hresto.1, congrArg (_ :: ·) hresto.2⟩

/-- A run of the leader beside what is expected of it. -/
structure Corrida where
  lider : Estado
  etapa : Etapa
  acciones : List Accion
  esperadas : List Accion

def comienzo (mensaje : Mensaje) (memoria : Data) : Corrida := ⟨inicial mensaje memoria, .espera, [], []⟩

def paso (c : Corrida) (e : Evento) : Option Corrida :=
  if c.lider.pc = .fin then none
  else
    some
      { lider := (run c.lider e).1
        etapa := (esperado c.etapa e).1
        acciones := c.acciones ++ (run c.lider e).2
        esperadas := c.esperadas ++ (esperado c.etapa e).2 }

/-! ## The numbers in the messages -/

/-- The fourth byte, the one with the sign of the number that the leader reads. -/
def Data.cuarto (d : Data) : UInt8 := d.1.getD 3 0

/-- The number has one digit, a node has to be asked exactly if what the leader reads is positive, and the
    blocks behind the number decide its sign. -/
def Legible (n : Nat) (bloque : Data) : Bool :=
  if 3 ≤ n then n ≤ 9 && bloque.cuarto < 128 else 128 ≤ bloque.cuarto

/-- An alarm goes off outside the `msgrcv` of every message of the outer loop, the number of a TOKEN_LOST is
    legible, only answers come in a recovery, and some node answers OK; no alarm goes off in a `msgrcv`. -/
def condicion : Etapa → Evento → Bool
  | .espera, ⟨.mensaje (.tokenLost n bloque), alarma⟩ => alarma && Legible n bloque
  | .espera, ⟨.mensaje (.otro ..), alarma⟩ => alarma
  | .recupera k, ⟨.mensaje r, _⟩ =>
    decide (r.mensaje.tipo = tokenRecover) && (r.mensaje.data.ok || 3 ≤ k)
  | .recupera k, ⟨.osError, true⟩ => 3 ≤ k
  | _, ⟨_, alarma⟩ => !alarma

variable {d : Data} {b₀ b₁ b₂ b₃ : UInt8} {ds : List UInt8} {l : Estado} {k n : Nat}

theorem Data.exists_bytes (d : Data) : ∃ b₀ b₁ b₂ b₃ ds, d.1 = b₀ :: b₁ :: b₂ :: b₃ :: ds := by
  obtain ⟨bytes, h⟩ := d
  obtain _ | ⟨b₀, _ | ⟨b₁, _ | ⟨b₂, _ | ⟨b₃, ds⟩⟩⟩⟩ := bytes
  case cons.cons.cons.cons => exact ⟨b₀, b₁, b₂, b₃, ds, rfl⟩
  all_goals cases h

theorem Data.poner_bytes {bs : List UInt8} (h : bs.length ≤ dataSize) :
    (d.poner bs).1 = bs ++ d.1.drop bs.length := by
  rw [poner, dif_pos h]

theorem Data.ponerEntero_bytes {v : Int} (h : d.1 = b₀ :: b₁ :: b₂ :: b₃ :: ds) :
    (d.ponerEntero v).1 = bytesLE 4 (v % 2 ^ 32).toNat ++ ds := by
  have hlen := length_bytesLE 4 (v % 2 ^ 32).toNat
  rw [ponerEntero, poner_bytes (hlen.trans_le (by decide)), hlen, h]
  rfl

theorem valorLE_bytes (b₀ b₁ b₂ b₃ : UInt8) : valorLE [b₀, b₁, b₂, b₃] =
    b₀.toNat + 256 * b₁.toNat + 65536 * b₂.toNat + 16777216 * b₃.toNat := by
  simp only [valorLE]
  omega

theorem valorLE_bytes_lt (b₀ b₁ b₂ b₃ : UInt8) : valorLE [b₀, b₁, b₂, b₃] < 2 ^ 32 := by
  have h₀ := b₀.toNat_lt
  have h₁ := b₁.toNat_lt
  have h₂ := b₂.toNat_lt
  have h₃ := b₃.toNat_lt
  rw [valorLE_bytes]
  omega

theorem bytesLE_bytes (b₀ b₁ b₂ b₃ : UInt8) : bytesLE 4 (valorLE [b₀, b₁, b₂, b₃]) = [b₀, b₁, b₂, b₃] :=
  bytesLE_valorLE rfl

theorem Data.entero_bytes (h : d.1 = b₀ :: b₁ :: b₂ :: b₃ :: ds) :
    d.entero = conSigno 32 (valorLE [b₀, b₁, b₂, b₃]) := by
  rw [entero, h]
  rfl

theorem Data.entero_pos (h : d.1 = b₀ :: b₁ :: b₂ :: b₃ :: ds) (h₃ : b₃ < 128) :
    d.entero = valorLE [b₀, b₁, b₂, b₃] := by
  have h₀ := b₀.toNat_lt
  have h₁ := b₁.toNat_lt
  have h₂ := b₂.toNat_lt
  have h₃' : b₃.toNat < 128 := h₃
  rw [entero_bytes h]
  apply conSigno_of_lt
  rw [valorLE_bytes]
  omega

theorem Data.entero_neg (h : d.1 = b₀ :: b₁ :: b₂ :: b₃ :: ds) (h₃ : 128 ≤ b₃) : d.entero < 0 := by
  have h₃' : 128 ≤ b₃.toNat := h₃
  rw [entero_bytes h]
  apply conSigno_neg ?_ (valorLE_bytes_lt ..)
  rw [valorLE_bytes]
  omega

/-- The leader copies the number of a TOKEN_LOST byte by byte. -/
theorem Data.ponerEntero_entero {d' : Data} (h : d.1 = b₀ :: b₁ :: b₂ :: b₃ :: ds)
    {c₀ c₁ c₂ c₃ : UInt8} {es : List UInt8} (h' : d'.1 = c₀ :: c₁ :: c₂ :: c₃ :: es) :
    (d'.ponerEntero d.entero).1 = b₀ :: b₁ :: b₂ :: b₃ :: es := by
  have hbytes : (d.entero % 2 ^ 32).toNat = valorLE [b₀, b₁, b₂, b₃] := by
    rw [entero_bytes h]
    exact toNat_conSigno_emod 32 (valorLE_bytes_lt ..)
  rw [ponerEntero_bytes h', hbytes, bytesLE_bytes]
  rfl

/-- Less one, the first character is the one before. -/
theorem Data.ponerEntero_sub_one (h : d.1 = b₀ :: b₁ :: b₂ :: b₃ :: ds) (h₀ : 1 ≤ b₀) (h₃ : b₃ < 128) :
    (d.ponerEntero (d.entero - 1)).1 = (b₀ - 1) :: b₁ :: b₂ :: b₃ :: ds := by
  have hpos : 1 ≤ b₀.toNat := h₀
  have hresta : (b₀ - 1).toNat = b₀.toNat - 1 := UInt8.toNat_sub_of_le _ _ h₀
  have hvalor : valorLE [b₀, b₁, b₂, b₃] = valorLE [b₀ - 1, b₁, b₂, b₃] + 1 := by
    rw [valorLE_bytes, valorLE_bytes, hresta]
    omega
  have hlt := valorLE_bytes_lt (b₀ - 1) b₁ b₂ b₃
  have hbytes : ((d.entero - 1) % 2 ^ 32).toNat = valorLE [b₀ - 1, b₁, b₂, b₃] := by
    rw [entero_pos h h₃, hvalor]
    omega
  rw [ponerEntero_bytes h, hbytes, bytesLE_bytes]
  rfl

theorem Data.le_entero (h : d.1 = b₀ :: b₁ :: b₂ :: b₃ :: ds) (h₃ : b₃ < 128) :
    (b₀.toNat : Int) ≤ d.entero := by
  rw [entero_pos h h₃, valorLE_bytes]
  omega

/-! ## One question -/

/-- The number that begins with a digit is positive: a node is asked. -/
theorem preguntar_pos (h : l.mensajeEnvio.data.1 = b₀ :: b₁ :: b₂ :: b₃ :: ds) (h₀ : 3 ≤ b₀) (h₃ : b₃ < 128) :
    ∃ envio : MensajeEnvio, envio.data.1 = (b₀ - 1) :: b₁ :: b₂ :: b₃ :: ds ∧
      preguntar l =
        ({ l with mensajeEnvio := envio, pc := .respuesta }, [.recupera (sscanf envio.data.1)]) := by
  have h₀' : 3 ≤ b₀.toNat := h₀
  have hle := Data.le_entero h h₃
  refine ⟨{ l.mensajeEnvio with
    data := l.mensajeEnvio.data.ponerEntero (l.mensajeEnvio.data.entero - 1), tipo := tokenRecover },
    Data.ponerEntero_sub_one h (Nat.le_trans (by decide : 1 ≤ 3) h₀') h₃, ?_⟩
  rw [preguntar, if_pos (by omega)]
  rfl

theorem preguntar_neg (h : l.mensajeEnvio.data.entero < 0) :
    ∃ envio : MensajeEnvio,
      preguntar l = ({ l with mensajeEnvio := envio, pc := .espera }, [.releaseToken]) := by
  refine ⟨{ l.mensajeEnvio with
    data := l.mensajeEnvio.data.ponerEntero (l.mensajeEnvio.data.entero - 1) }, ?_⟩
  rw [preguntar, if_neg (by omega)]

/-- The text of a one-digit number. -/
def Digito (d : Data) (k : Nat) : Prop :=
  ∃ b₂ b₃ ds, d.1 = UInt8.ofNat (48 + k) :: 0 :: b₂ :: b₃ :: ds ∧ b₃ < 128

theorem cadena_append {xs : List UInt8} (h : 0 ∉ xs) (cs : List UInt8) : cadena (xs ++ 0 :: cs) = xs := by
  rw [cadena, List.takeWhile_append_of_pos (ne_of_notMem h), List.takeWhile_cons_of_neg (by decide),
    List.append_nil]

/-- What is behind the zero is not read. -/
theorem sscanf_cifras {ds : List (Fin 10)} (h : ds ≠ []) (cs : List UInt8) :
    sscanf (ds.map cifra ++ 0 :: cs) = some ((ds.foldl (fun n d => 10 * n + d.val) 0 : Nat) : Int) := by
  have hcero : 0 ∉ ds.map cifra := fun h0 => absurd (esDigito_cifras h0) (by decide)
  obtain ⟨c, cs', hc, hdigito⟩ := Fscanf.head_digitos h []
  have hsaltar : Fscanf.saltar (ds.map cifra) = ds.map cifra := by
    rw [← List.append_nil (ds.map cifra), hc]
    exact Fscanf.saltar_cons_of_no (Fscanf.esDigito_espacio c hdigito).1 cs'
  have hfin : ∀ c ∈ ([] : List UInt8).head?, esDigito c = false := nofun
  have hleer := Fscanf.leerEntero_campo ⟨[], none, ds, nofun, h⟩ hfin
  rw [List.append_nil] at hleer
  rw [sscanf, cadena_append hcero, hsaltar]
  exact congrArg Prod.fst hleer

theorem cifra_sub_one : ∀ k : Fin 9, 3 ≤ cifra k.succ ∧ cifra k.succ - 1 = cifra k.castSucc := by
  decide

theorem preguntar_digito (h : Digito l.mensajeEnvio.data (k + 1)) (hk : k ≤ 8) :
    ∃ envio : MensajeEnvio, Digito envio.data k ∧
      preguntar l = ({ l with mensajeEnvio := envio, pc := .respuesta }, [.recupera (some (k : Int))]) := by
  obtain ⟨b₂, b₃, ds, hbytes, h₃⟩ := h
  obtain ⟨h₀, hresta⟩ := cifra_sub_one ⟨k, by omega⟩
  obtain ⟨envio, henvio, heq⟩ := preguntar_pos hbytes h₀ h₃
  have hdata : envio.data.1 = UInt8.ofNat (48 + k) :: 0 :: b₂ :: b₃ :: ds :=
    henvio.trans (congrArg (· :: _) hresta)
  have hnumero : sscanf envio.data.1 = some (k : Int) := by
    rw [hdata]
    exact (sscanf_cifras (List.cons_ne_nil (⟨k, by omega⟩ : Fin 10) []) _).trans (by simp)
  exact ⟨envio, ⟨b₂, b₃, ds, hdata, h₃⟩, hnumero ▸ heq⟩

/-! ## A TOKEN_LOST -/

variable {bloque : Data} {e : Evento} {etapa : Etapa}

theorem digitChar_cifra : ∀ d : Fin 10, UInt8.ofNat (Nat.digitChar d).toNat = cifra d := by
  decide

theorem decimal_uno (d : Fin 10) : decimal d = [cifra d, 0] := by
  rw [decimal, Nat.toDigits_of_lt_base d.isLt, List.map_singleton, digitChar_cifra]
  rfl

/-- One digit more. -/
theorem decimal_mas (xs : List UInt8) (d : Fin 10) (hn : 0 < n) (h : decimal n = xs ++ [0]) :
    decimal (10 * n + d) = xs ++ [cifra d, 0] := by
  rw [decimal] at h
  have hdiv : (10 * n + d.val) / 10 = n := by omega
  have hmod : (10 * n + d.val) % 10 = d.val := by omega
  rw [decimal, Nat.toDigits_of_base_le (by decide) (by omega), hdiv, hmod, List.map_append,
    List.append_cancel_right h, List.map_singleton, digitChar_cifra, List.append_assoc]
  rfl

theorem decimal_dos (a : Fin 9) (b : Fin 10) :
    decimal (10 * a.succ + b) = [cifra a.succ, cifra b, 0] :=
  decimal_mas (n := a.succ.val) [cifra a.succ] b (Nat.succ_pos a) (decimal_uno a.succ)

theorem decimal_tres (a : Fin 9) (b c : Fin 10) :
    decimal (10 * (10 * a.succ + b) + c) = [cifra a.succ, cifra b, cifra c, 0] :=
  decimal_mas [cifra a.succ, cifra b] c (by simp) (decimal_dos a b)

/-- The buffer to send begins with the four first bytes of the message. -/
theorem despachar_tokenPerdido (h : l.mensaje = tokenPerdido n bloque)
    (hbytes : (bloque.sprintf n).1 = b₀ :: b₁ :: b₂ :: b₃ :: ds) :
    ∃ envio : MensajeEnvio, (∃ es, envio.data.1 = b₀ :: b₁ :: b₂ :: b₃ :: es) ∧
      despachar l = preguntar { l with mensajeEnvio := envio } := by
  obtain ⟨c₀, c₁, c₂, c₃, es, hes⟩ := l.mensajeEnvio.data.exists_bytes
  have hdata : l.mensaje.data.1 = b₀ :: b₁ :: b₂ :: b₃ :: ds := by
    rw [h]
    exact hbytes
  refine ⟨{ l.mensajeEnvio with data := l.mensajeEnvio.data.ponerEntero l.mensaje.data.entero },
    ⟨es, Data.ponerEntero_entero hdata hes⟩, ?_⟩
  have htipo : l.mensaje.tipo = tokenLost := by rw [h]; rfl
  rw [despachar, htipo, if_neg (by decide), if_pos rfl]

theorem sprintf_uno (hn : n < 10) (hb : bloque.1 = b₀ :: b₁ :: b₂ :: b₃ :: ds) :
    (bloque.sprintf n).1 = UInt8.ofNat (48 + n) :: 0 :: b₂ :: b₃ :: ds := by
  have htexto : decimal n = [UInt8.ofNat (48 + n), 0] := decimal_uno ⟨n, hn⟩
  have hlen : [UInt8.ofNat (48 + n), 0].length ≤ dataSize := (by decide : 2 ≤ dataSize)
  rw [Data.sprintf, htexto, Data.poner_bytes hlen, hb]
  rfl

theorem ok_uno (hn : n < 10) : (tokenPerdido n bloque).data.ok = false := by
  obtain ⟨b₀, b₁, b₂, b₃, ds, hb⟩ := bloque.exists_bytes
  have hcadena : cadena (tokenPerdido n bloque).data.1 = [UInt8.ofNat (48 + n)] := by
    have hcero : ∀ d : Fin 10, 0 ∉ [UInt8.ofNat (48 + d.val)] := by decide
    exact (congrArg cadena (sprintf_uno hn hb)).trans (cadena_append (hcero ⟨n, hn⟩) (b₂ :: b₃ :: ds))
  rw [Data.ok, hcadena]
  simp

/-- The recovery begins as it should, or the token is released at once, which is right up to node 2. -/
theorem despachar_uno (h : l.mensaje = tokenPerdido n bloque) (hn : n < 10) :
    (bloque.cuarto < 128 → ∃ envio : MensajeEnvio, Digito envio.data n ∧
      despachar l = preguntar { l with mensajeEnvio := envio }) ∧
    (128 ≤ bloque.cuarto → ∃ envio : MensajeEnvio,
      despachar l = ({ l with mensajeEnvio := envio, pc := .espera }, [.releaseToken])) := by
  obtain ⟨b₀, b₁, b₂, b₃, ds, hb⟩ := bloque.exists_bytes
  have hcuarto : bloque.cuarto = b₃ := by
    rw [Data.cuarto, hb]
    rfl
  obtain ⟨envio, ⟨es, henvio⟩, heq⟩ := despachar_tokenPerdido h (sprintf_uno hn hb)
  rw [hcuarto]
  refine ⟨fun h₃ => ⟨envio, ⟨b₂, b₃, es, henvio, h₃⟩, heq⟩, fun h₃ => ?_⟩
  obtain ⟨envio', heq'⟩ := preguntar_neg (l := { l with mensajeEnvio := envio }) (Data.entero_neg henvio h₃)
  exact ⟨envio', heq.trans heq'⟩

theorem release_ne_recuperar (h : 3 ≤ n) : [Accion.releaseToken] ≠ (recuperar n).2 := by
  rw [recuperar, if_pos h]
  simp

/-- The receivers read the bytes of the number that was sent as another number. -/
theorem preguntar_ne_recuperar (h : l.mensajeEnvio.data.1 = b₀ :: b₁ :: b₂ :: b₃ :: ds) (h₀ : 3 ≤ b₀)
    (hn : 3 ≤ n) (hlee : sscanf ((b₀ - 1) :: b₁ :: b₂ :: b₃ :: ds) ≠ some ((n : Int) - 1)) :
    (preguntar l).2 ≠ (recuperar n).2 := by
  by_cases h₃ : b₃ < 128
  · obtain ⟨envio, henvio, heq⟩ := preguntar_pos h h₀ h₃
    rw [heq, recuperar, if_pos hn, henvio]
    simpa using hlee
  · obtain ⟨envio, heq⟩ := preguntar_neg (Data.entero_neg h (UInt8.not_lt.mp h₃))
    rw [heq]
    exact release_ne_recuperar hn

/-- Less one in its first digit, a number of several digits is less by more than one. -/
theorem sscanf_ne {a : Fin 9} (ds : List (Fin 10)) (cs : List UInt8)
    (h : (a.castSucc :: ds).foldl (fun n d => 10 * n + d.val) 0 + 1 ≠ n) :
    sscanf ((cifra a.succ - 1) :: (ds.map cifra ++ 0 :: cs)) ≠ some ((n : Int) - 1) := by
  have hlee := sscanf_cifras (List.cons_ne_nil a.castSucc ds) cs
  rw [List.map_cons, List.cons_append] at hlee
  rw [(cifra_sub_one a).2, hlee]
  intro heq
  have hmas := eq_sub_iff_add_eq.mp (Option.some.inj heq)
  exact h (by exact_mod_cast hmas)

/-- A number of two or three digits is never legible. -/
theorem despachar_largo (h : l.mensaje = tokenPerdido n bloque) (hdos : 10 ≤ n) (htres : n < 1000) :
    (despachar l).2 ≠ (recuperar n).2 := by
  obtain ⟨b₀, b₁, b₂, b₃, ds, hb⟩ := bloque.exists_bytes
  by_cases hcien : n < 100
  · obtain ⟨a, b, rfl⟩ : ∃ (a : Fin 9) (b : Fin 10), n = 10 * a.succ.val + b.val :=
      ⟨⟨n / 10 - 1, by omega⟩, ⟨n % 10, by omega⟩, by simp only [Fin.val_succ]; omega⟩
    have hbytes : (bloque.sprintf (10 * a.succ.val + b.val)).1 =
        cifra a.succ :: cifra b :: 0 :: b₃ :: ds := by
      have hlen : [cifra a.succ, cifra b, 0].length ≤ dataSize := (by decide : 3 ≤ dataSize)
      rw [Data.sprintf, decimal_dos, Data.poner_bytes hlen, hb]
      rfl
    obtain ⟨envio, ⟨es, henvio⟩, heq⟩ := despachar_tokenPerdido h hbytes
    rw [heq]
    refine preguntar_ne_recuperar henvio (cifra_sub_one a).1 (by omega) (sscanf_ne [b] (b₃ :: es) ?_)
    simp only [List.foldl_cons, List.foldl_nil, Fin.val_castSucc, Fin.val_succ]
    omega
  · obtain ⟨a, b, c, rfl⟩ : ∃ (a : Fin 9) (b c : Fin 10), n = 10 * (10 * a.succ.val + b.val) + c.val :=
      ⟨⟨n / 100 - 1, by omega⟩, ⟨n / 10 % 10, by omega⟩, ⟨n % 10, by omega⟩,
        by simp only [Fin.val_succ]; omega⟩
    have hbytes : (bloque.sprintf (10 * (10 * a.succ.val + b.val) + c.val)).1 =
        cifra a.succ :: cifra b :: cifra c :: 0 :: ds := by
      have hlen : [cifra a.succ, cifra b, cifra c, 0].length ≤ dataSize := (by decide : 4 ≤ dataSize)
      rw [Data.sprintf, decimal_tres, Data.poner_bytes hlen, hb]
      rfl
    obtain ⟨envio, ⟨es, henvio⟩, heq⟩ := despachar_tokenPerdido h hbytes
    rw [heq]
    refine preguntar_ne_recuperar henvio (cifra_sub_one a).1 (by omega) (sscanf_ne [b, c] es ?_)
    simp only [List.foldl_cons, List.foldl_nil, Fin.val_castSucc, Fin.val_succ]
    omega

/-! ## One wait -/

/-- The leader is where it should be, and the node that it asks is the one that it should ask. -/
def Sigue (l : Estado) : Etapa → Prop
  | .espera => l.pc = .espera
  | .recupera k => l.pc = .respuesta ∧ 2 ≤ k ∧ k ≤ 8 ∧ Digito l.mensajeEnvio.data k ∧ l.mensaje.data.ok = false
  | .fin => l.pc = .fin

/-- A question to a node that has to be asked. -/
theorem sigue_preguntar (h : Digito l.mensajeEnvio.data n) (hn : 3 ≤ n) (hn' : n ≤ 9)
    (hok : l.mensaje.data.ok = false) :
    Sigue (preguntar l).1 (recuperar n).1 ∧ (preguntar l).2 = (recuperar n).2 := by
  obtain ⟨k, rfl⟩ : ∃ k, n = k + 1 := ⟨n - 1, by omega⟩
  obtain ⟨envio, hdigito, heq⟩ := preguntar_digito h (by omega)
  rw [heq, recuperar_of_le hn, Nat.add_sub_cancel]
  refine ⟨⟨rfl, by omega, by omega, hdigito, hok⟩, ?_⟩
  rw [Int.natCast_add, Int.natCast_one, Int.add_sub_cancel]

/-- The dispatch of a TOKEN_LOST. -/
theorem sigue_despachar (h : l.mensaje = tokenPerdido n bloque) (hn : Legible n bloque = true) :
    Sigue (despachar l).1 (recuperar n).1 ∧ (despachar l).2 = (recuperar n).2 := by
  rw [Legible] at hn
  split_ifs at hn with htres
  · obtain ⟨hnueve, hcuarto⟩ := (Bool.and_eq_true _ _).mp hn
    have hle : n ≤ 9 := of_decide_eq_true hnueve
    obtain ⟨envio, hdigito, heq⟩ := (despachar_uno h (by omega)).1 (of_decide_eq_true hcuarto)
    have hok : l.mensaje.data.ok = false := by
      rw [h]
      exact ok_uno (by omega)
    rw [heq]
    exact sigue_preguntar hdigito htres hle hok
  · obtain ⟨envio, heq⟩ := (despachar_uno h (by omega)).2 (of_decide_eq_true hn)
    rw [heq, recuperar_of_lt (by omega)]
    exact ⟨rfl, rfl⟩

theorem legible_of_despachar (h : l.mensaje = tokenPerdido n bloque) (hn : n < 1000)
    (heq : (despachar l).2 = (recuperar n).2) : Legible n bloque = true := by
  by_cases hdiez : n < 10
  case neg => exact absurd heq (despachar_largo h (by omega) hn)
  obtain ⟨hpos, hneg⟩ := despachar_uno h hdiez
  rw [Legible]
  split_ifs with htres
  · rw [Bool.and_eq_true, decide_eq_true_iff, decide_eq_true_iff]
    refine ⟨by omega, ?_⟩
    by_contra hcuarto
    obtain ⟨envio, hrelease⟩ := hneg (UInt8.not_lt.mp hcuarto)
    rw [hrelease] at heq
    exact release_ne_recuperar htres heq
  · rw [decide_eq_true_iff]
    by_contra hcuarto
    obtain ⟨envio, ⟨b₂, b₃, es, hbytes, h₃⟩, hpregunta⟩ := hpos (UInt8.not_le.mp hcuarto)
    have hcifra : ∀ d : Fin 10, (3 : UInt8) ≤ UInt8.ofNat (48 + d.val) := by decide
    obtain ⟨envio', -, hrecupera⟩ := preguntar_pos (l := { l with mensajeEnvio := envio }) hbytes
      (hcifra ⟨n, hdiez⟩) h₃
    rw [hpregunta, hrecupera, recuperar_of_lt (by omega)] at heq
    simp at heq

theorem despachar_otro (h : l.mensaje.tipo ≠ tokenLost) :
    (despachar l).2 = [] ∧ (despachar l).1.pc = l.pc := by
  rw [despachar]
  split_ifs <;> exact ⟨rfl, rfl⟩

theorem run_espera {r : Recibido} {alarma : Bool} (hpc : l.pc = .espera) :
    run l ⟨.mensaje r, alarma⟩ = vuelta { l with mensaje := r.mensaje, alarma := alarma } :=
  if_neg (by rw [hpc]; decide)

theorem run_respuesta {r : Recibido} {alarma : Bool} (hpc : l.pc = .respuesta) :
    run l ⟨.mensaje r, alarma⟩ = respuesta { l with mensaje := r.mensaje, alarma := alarma } :=
  if_pos hpc

theorem run_osError (hpc : l.pc = .respuesta) (hok : l.mensaje.data.ok = false) :
    run l ⟨.osError, true⟩ = preguntar { l with alarma := true } := by
  have hrun : run l ⟨.osError, true⟩ = respuesta { l with alarma := true } := if_pos hpc
  rw [hrun, respuesta, hok]
  rfl

/-- The last node that was asked has not answered OK. -/
theorem sigue_siguiente {l' : Estado} (hs : Sigue l (.recupera k)) (hk : 3 ≤ k)
    (hdata : l'.mensajeEnvio = l.mensajeEnvio) (hok : l'.mensaje.data.ok = false) :
    Sigue (preguntar l').1 (recuperar k).1 ∧ (preguntar l').2 = (recuperar k).2 := by
  obtain ⟨-, -, hk', hdigito, -⟩ := hs
  exact sigue_preguntar (hdata ▸ hdigito) hk (by omega) hok

theorem sigue_run (hs : Sigue l etapa) (hfin : l.pc ≠ .fin) (hc : condicion etapa e = true) :
    Sigue (run l e).1 (esperado etapa e).1 ∧ (run l e).2 = (esperado etapa e).2 := by
  obtain ⟨pull, alarma⟩ := e
  cases etapa with
  | fin => exact absurd hs hfin
  | espera =>
    have hpc : l.pc = .espera := hs
    cases pull with
    | mensaje r =>
      rw [run_espera hpc]
      cases r with
      | tokenLost n bloque =>
        obtain ⟨halarma, hlegible⟩ := (Bool.and_eq_true _ _).mp hc
        obtain ⟨hsigue, hacciones⟩ := sigue_despachar
          (l := { l with mensaje := tokenPerdido n bloque, alarma := alarma }) rfl hlegible
        rw [vuelta, if_pos halarma]
        exact ⟨hsigue, congrArg (_ :: ·) hacciones⟩
      | otro m h =>
        obtain ⟨hacciones, hsigue⟩ := despachar_otro (l := { l with mensaje := m, alarma := alarma }) h
        rw [vuelta, if_pos (show alarma = true from hc)]
        exact ⟨hsigue.trans hpc, congrArg (_ :: ·) hacciones⟩
    | osError =>
      obtain rfl : alarma = false := by simpa [condicion] using hc
      exact ⟨rfl, rfl⟩
    | interruptedSyscall =>
      obtain rfl : alarma = false := by simpa [condicion] using hc
      exact ⟨rfl, rfl⟩
  | recupera k =>
    have hpc : l.pc = .respuesta := hs.1
    have hok : l.mensaje.data.ok = false := hs.2.2.2.2
    cases pull with
    | mensaje r =>
      obtain ⟨htipo, hc⟩ := (Bool.and_eq_true _ _).mp hc
      rw [run_respuesta hpc, respuesta, esperado, if_pos (of_decide_eq_true htipo)]
      by_cases hr : r.mensaje.data.ok = true
      · rw [if_pos hr, if_pos hr]
        exact ⟨rfl, rfl⟩
      · have hk : 3 ≤ k := by simpa [hr] using hc
        rw [if_neg hr, if_neg hr]
        exact sigue_siguiente hs hk rfl (Bool.eq_false_iff.mpr hr)
    | osError =>
      cases alarma with
      | true =>
        rw [run_osError hpc hok]
        exact sigue_siguiente hs (of_decide_eq_true hc) rfl hok
      | false => exact ⟨rfl, rfl⟩
    | interruptedSyscall =>
      obtain rfl : alarma = false := by simpa [condicion] using hc
      exact ⟨rfl, rfl⟩

theorem sendMsg_ne_despacha (m : MensajeEnvio) (tipo : Nat) : sendMsg m ≠ .despacha tipo := by
  rw [sendMsg]
  split_ifs <;> simp

/-- In a recovery nothing is dispatched. -/
theorem respuesta_ne_despacha (l : Estado) (tipo : Nat) (as : List Accion) :
    (respuesta l).2 ≠ .despacha tipo :: as := by
  intro h
  rw [respuesta] at h
  split_ifs at h
  rw [preguntar] at h
  split_ifs at h
  · exact sendMsg_ne_despacha _ _ (List.head_eq_of_cons_eq h)
  · cases List.head_eq_of_cons_eq h

theorem recuperar_ne_nil (n : Nat) : (recuperar n).2 ≠ [] := by
  rw [recuperar]
  split_ifs <;> simp

/-- The question to node 1, where the token should be released. -/
theorem tres_le_of_preguntar {l' : Estado} (hs : Sigue l (.recupera k))
    (h : (preguntar l').2 = (recuperar k).2) (hdata : l'.mensajeEnvio = l.mensajeEnvio) : 3 ≤ k := by
  obtain ⟨-, hdos, -, hdigito, -⟩ := hs
  by_contra hk
  obtain rfl : k = 2 := by omega
  obtain ⟨envio, -, heq⟩ := preguntar_digito (l := l') (hdata ▸ hdigito) (by decide)
  rw [heq, recuperar_of_lt (by decide)] at h
  simp at h

/-- Where the condition fails, so does the leader; node numbers have at most three digits. -/
theorem condicion_of_run (hs : Sigue l etapa) (hfin : l.pc ≠ .fin)
    (hcorto : ∀ n bloque, e.pull = .mensaje (.tokenLost n bloque) → n < 1000)
    (h : (run l e).2 = (esperado etapa e).2) : condicion etapa e = true := by
  obtain ⟨pull, alarma⟩ := e
  cases etapa with
  | fin => exact absurd hs hfin
  | espera =>
    have hpc : l.pc = .espera := hs
    cases pull with
    | mensaje r =>
      rw [run_espera hpc, vuelta] at h
      cases alarma with
      | false =>
        -- what was sent last is sent again
        cases r <;> exact absurd (List.head_eq_of_cons_eq h) (sendMsg_ne_despacha _ _)
      | true =>
        cases r with
        | tokenLost n bloque =>
          rw [if_pos rfl] at h
          exact legible_of_despachar (l := { l with mensaje := tokenPerdido n bloque, alarma := true }) rfl
            (hcorto n bloque rfl) (List.tail_eq_of_cons_eq h)
        | otro m hm => rfl
    | osError =>
      cases alarma with
      | false => rfl
      | true =>
        have hrun : run l ⟨.osError, true⟩ = vuelta { l with alarma := true } := if_neg (by rw [hpc]; decide)
        rw [hrun, vuelta, if_pos rfl] at h
        cases List.head_eq_of_cons_eq h
    | interruptedSyscall =>
      cases alarma with
      | false => rfl
      | true => cases h
  | recupera k =>
    have hpc : l.pc = .respuesta := hs.1
    have hok : l.mensaje.data.ok = false := hs.2.2.2.2
    cases pull with
    | mensaje r =>
      rw [run_respuesta hpc, esperado] at h
      rw [condicion, Bool.and_eq_true, Bool.or_eq_true, decide_eq_true_iff, decide_eq_true_iff]
      by_cases htipo : r.mensaje.tipo = tokenRecover
      · rw [if_pos htipo, respuesta] at h
        refine ⟨htipo, ?_⟩
        by_cases hr : r.mensaje.data.ok = true
        · exact .inl hr
        · rw [if_neg hr, if_neg hr] at h
          exact .inr (tres_le_of_preguntar hs h rfl)
      · rw [if_neg htipo] at h
        cases r <;> exact absurd h (respuesta_ne_despacha _ _ _)
    | osError =>
      cases alarma with
      | false => rfl
      | true =>
        rw [run_osError hpc hok] at h
        exact decide_eq_true (tres_le_of_preguntar hs h rfl)
    | interruptedSyscall =>
      cases alarma with
      | false => rfl
      | true => exact absurd h.symm (recuperar_ne_nil k)

/-! ## The runs of the leader -/

variable {c : Corrida} {mensaje : Mensaje} {memoria : Data}

/-- The actions so far are those that are expected. -/
def Cumple (c : Corrida) : Prop := c.acciones = c.esperadas

theorem paso_eq_some {c' : Corrida} (h : paso c e = some c') : c.lider.pc ≠ .fin ∧
    c' = ⟨(run c.lider e).1, (esperado c.etapa e).1, c.acciones ++ (run c.lider e).2,
      c.esperadas ++ (esperado c.etapa e).2⟩ := by
  rw [paso] at h
  split_ifs at h with hfin
  exact ⟨hfin, (Option.some.inj h).symm⟩

theorem cumple_alcanza
    (h : AlcanzaBajo (fun c e => condicion c.etapa e = true) paso (comienzo mensaje memoria) c) :
    Cumple c ∧ Sigue c.lider c.etapa := by
  refine AlcanzaBajo.induccion (I := fun c => Cumple c ∧ Sigue c.lider c.etapa) h ⟨rfl, rfl⟩ ?_
  rintro a e b ⟨hacciones, hsigue⟩ hc hb
  obtain ⟨hfin, rfl⟩ := paso_eq_some hb
  obtain ⟨hsigue', heq⟩ := sigue_run hsigue hfin hc
  exact ⟨congrArg₂ (· ++ ·) hacciones heq, hsigue'⟩

/-- The leader does what is expected of it in the runs whose waits all meet the condition, and no longer
    after a wait that does not meet it. -/
theorem recuperacion_iff (mensaje : Mensaje) (memoria : Data) (c : Corrida)
    (h : AlcanzaBajo (fun c e => condicion c.etapa e = true) paso (comienzo mensaje memoria) c) :
    Cumple c ∧ ∀ e c', paso c e = some c' →
      (condicion c.etapa e = true → Cumple c') ∧
      ((∀ n bloque, e.pull = .mensaje (.tokenLost n bloque) → n < 1000) → Cumple c' →
        condicion c.etapa e = true) := by
  obtain ⟨hacciones, hsigue⟩ := cumple_alcanza h
  refine ⟨hacciones, fun e c' hpaso => ?_⟩
  obtain ⟨hfin, rfl⟩ := paso_eq_some hpaso
  refine ⟨fun hc => congrArg₂ (· ++ ·) hacciones (sigue_run hsigue hfin hc).2, fun hcorto hcumple => ?_⟩
  have heq : c.acciones ++ (run c.lider e).2 = c.esperadas ++ (esperado c.etapa e).2 := hcumple
  rw [show c.acciones = c.esperadas from hacciones] at heq
  exact condicion_of_run hsigue hfin hcorto (List.append_cancel_left heq)

/-! ## Runs -/

theorem length_ceros : (List.replicate dataSize (0 : UInt8)).length = dataSize := List.length_replicate

def ceros : Data := ⟨List.replicate dataSize 0, length_ceros⟩

def comienzoEnCeros : Corrida := comienzo ⟨0, ceros⟩ ceros

def respuestaOk : Recibido := .otro ⟨tokenRecover, ceros.poner [79, 75, 0]⟩ (by decide)

def sinRespuesta : Recibido := .otro ⟨tokenRecover, ceros⟩ (by decide)

/-- A TOKEN_LOST is not dispatched, an alarm ends the process, when nobody answers node 1 is asked too and
    the token is not released, and a second TOKEN_LOST is taken for the answer of a node. -/
theorem leader_no_recupera :
    (∃ c, Alcanza paso comienzoEnCeros c ∧ c.acciones = [.envia groupDiscover] ∧
      c.esperadas = [.despacha tokenLost, .recupera (some 4)]) ∧
    (∃ c, Alcanza paso comienzoEnCeros c ∧ c.acciones = [] ∧ c.lider.pc = .fin ∧
      c.esperadas = [.envia tokenDiscover]) ∧
    (∃ c, Alcanza paso comienzoEnCeros c ∧
      c.acciones = [.despacha tokenLost, .recupera (some 2), .recupera (some 1)] ∧
      c.esperadas = [.despacha tokenLost, .recupera (some 2), .releaseToken]) ∧
    ∃ c, Alcanza paso comienzoEnCeros c ∧
      c.acciones = [.despacha tokenLost, .recupera (some 4), .recupera (some 3)] ∧
      c.esperadas = [.despacha tokenLost, .recupera (some 4), .despacha tokenLost, .recupera (some 8)] :=
  ⟨⟨_, ⟨[⟨.mensaje (.tokenLost 5 ceros), false⟩], rfl⟩, by decide, by decide⟩,
    ⟨_, ⟨[⟨.interruptedSyscall, true⟩], rfl⟩, by decide, by decide, by decide⟩,
    ⟨_, ⟨[⟨.mensaje (.tokenLost 3 ceros), true⟩, ⟨.mensaje sinRespuesta, false⟩], rfl⟩, by decide, by decide⟩,
    ⟨_, ⟨[⟨.mensaje (.tokenLost 5 ceros), true⟩, ⟨.mensaje (.tokenLost 9 ceros), true⟩], rfl⟩, by decide,
      by decide⟩⟩

/-- An alarm goes off behind the `msgrcv` of a TOKEN_LOST of node 4, and node 2 answers OK. -/
theorem recuperacion_ok : ∃ c, c.acciones = [.despacha tokenLost, .recupera (some 3), .recupera (some 2)] ∧
    Cumple c := by
  have hrun : (correr (pasoBajo (fun c e => condicion c.etapa e = true) paso) comienzoEnCeros
      [⟨.mensaje (.tokenLost 4 ceros), true⟩, ⟨.mensaje sinRespuesta, false⟩,
        ⟨.mensaje respuestaOk, false⟩]).map (fun c => c.acciones) =
      some [.despacha tokenLost, .recupera (some 3), .recupera (some 2)] := by
    decide
  obtain ⟨c, hc, hacciones⟩ := Option.map_eq_some_iff.mp hrun
  exact ⟨c, hacciones, (recuperacion_iff _ _ c ⟨_, hc⟩).1⟩

end Lider
