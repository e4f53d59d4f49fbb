import Aeropuerto.Biblioteca.Ejecucion
import Aeropuerto.Biblioteca.Ronda

/-!
# The election of a leader in the ring (`group/inbound.py`, `outbound.py`, `passage.py`)

Each node has an inbound process, that receives from the previous node, and an outbound process, that
sends to the next one; the queue between them is `userland_outbound_queue`.  The ring does not change:
no link is broken by force and no leader process asks for another election.  A name is `localhost_name`.
-/

namespace EleccionLider

open Ejecucion

variable {n : Nat} {ν : Type}

/-- The type of a LOOP packet. -/
inductive Tipo where
  | leader
  | linkBroken
  deriving DecidableEq

structure Mensaje (ν : Type) where
  tipo : Tipo
  nombre : ν
  ttl : Nat
  deriving DecidableEq

/-- The main loop of the inbound process. -/
inductive Fase where
  -- about to push LinkBroken
  | inicio
  -- at ring.tail, before it pushes its proposal
  | tail
  -- in passage_inbound_messages
  | passage
  deriving DecidableEq

structure Nodo (ν : Type) where
  fase : Fase
  -- driver.leader_name of inbound
  leaderName : ν
  -- driver.leader_name of outbound
  leaderNameSalida : ν
  -- driver.leader_process is running
  leaderProcess : Bool
  userlandOutboundQueue : List (Mensaje ν)
  -- the leader processes that it has started
  iniciados : Nat

/-- The names of the nodes and the initial TTL. -/
structure Parametros (n : Nat) (ν : Type) where
  localhostName : Fin n → ν
  ttl : Nat

abbrev Estado (n : Nat) (ν : Type) := Ronda n (Nodo ν) (Mensaje ν)

def inicial (P : Parametros n ν) : Estado n ν where
  nodo k := ⟨.inicio, P.localhostName k, P.localhostName k, false, [], 0⟩
  enlace _ := []

def Nodo.push (d : Nodo ν) (m : Mensaje ν) : Nodo ν :=
  { d with userlandOutboundQueue := d.userlandOutboundQueue ++ [m] }

def clean (d : Nodo ν) : Nodo ν := { d with leaderProcess := false }

section

variable [LinearOrder ν]

/-- `handle_loop_message` of inbound: whether the message goes on. -/
def handleInbound (localhostName : ν) (d : Nodo ν) (m : Mensaje ν) : Nodo ν × Bool :=
  match m.tipo with
  | .leader =>
    if m.nombre = localhostName then
      if d.leaderProcess then ({ d with leaderName := m.nombre }, false)
      else
        ({ d with leaderName := m.nombre, leaderProcess := true, iniciados := d.iniciados + 1 }, false)
    else if m.nombre < localhostName then (d, false)
    else ({ clean d with leaderName := m.nombre }, true)
  | .linkBroken => if m.nombre = localhostName then (d, false) else (clean d, true)

/-- `handle_loop_message` of outbound. -/
def handleOutbound (localhostName : ν) (d : Nodo ν) (m : Mensaje ν) : Nodo ν × Bool :=
  match m.tipo with
  | .leader =>
    if m.nombre = localhostName then (d, true)
    else if m.nombre < localhostName then (d, false)
    else ({ d with leaderNameSalida := m.nombre }, true)
  | .linkBroken => (d, true)

/-- A LOOP packet in `passage_inbound_messages`. -/
def recibirLoop (localhostName : ν) (d : Nodo ν) (m : Mensaje ν) : Nodo ν :=
  if m.ttl ≤ 0 then d
  else if (handleInbound localhostName d m).2 then
    (handleInbound localhostName d m).1.push { m with ttl := m.ttl - 1 }
  else (handleInbound localhostName d m).1

def pasoInbound (P : Parametros n ν) (s : Estado n ν) (k : Fin n) : Option (Estado n ν) :=
  match (s.nodo k).fase with
  | .inicio =>
    some (s.pon k
      { clean ((s.nodo k).push ⟨.linkBroken, P.localhostName k, P.ttl⟩) with fase := .tail })
  | .tail =>
    some (s.pon k { (s.nodo k).push ⟨.leader, P.localhostName k, P.ttl⟩ with fase := .passage })
  | .passage => (s.toma k).map fun r => r.2.pon k (recibirLoop (P.localhostName k) (s.nodo k) r.1)

variable [NeZero n]

/-- A LOOP packet in `passage_outbound_messages`, handled. -/
def enviarLoop (s : Estado n ν) (k : Fin n) (m : Mensaje ν) (r : Nodo ν × Bool) : Estado n ν :=
  (s.pon k r.1).envia k (if r.2 then [m] else [])

def pasoOutbound (P : Parametros n ν) (s : Estado n ν) (k : Fin n) : Option (Estado n ν) :=
  match (s.nodo k).userlandOutboundQueue with
  | m :: resto =>
    some (enviarLoop s k m
      (handleOutbound (P.localhostName k) { s.nodo k with userlandOutboundQueue := resto } m))
  | [] => none

inductive Evento (n : Nat) where
  | inbound (k : Fin n)
  | outbound (k : Fin n)

def paso (P : Parametros n ν) (s : Estado n ν) : Evento n → Option (Estado n ν)
  | .inbound k => pasoInbound P s k
  | .outbound k => pasoOutbound P s k

end

end EleccionLider
