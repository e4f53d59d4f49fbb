import Aeropuerto.Anillo.EleccionLider

/-!
# The ring after its links break (`group/inbound.py`, `outbound.py`, `passage.py`, `ring.py`)

A node whose previous one is lost goes back to the loop of `inbound.py`.  The outbound process at the other
end waits for something to send: it finds the connection closed with the first packet, which is lost, and
goes to `ring.head`.  The links break while nothing moves and come back between the same nodes.  `ring.tail`
waits for its connection as long as it takes (after `LISTEN_RETRIES` it raises `UnstableChannel`, and the loop
would push another LinkBroken), and `leader.py` neither asks for another election nor finds another leader.
-/

namespace Reeleccion

open Ejecucion Ronda EleccionLider

variable {n : Nat} {ν : Type}

/-- The connection of an outbound process to the inbound process of the next node. -/
inductive Conexion where
  | establecida
  -- closed by the next node, which the outbound process does not know
  | rota
  -- the outbound process is in ring.head
  | abierta
  deriving DecidableEq

structure Red (n : Nat) (ν : Type) where
  anillo : Estado n ν
  -- the connection to node k
  conexion : Fin n → Conexion

def Red.inicial (P : Parametros n ν) : Red n ν := ⟨EleccionLider.inicial P, fun _ => .abierta⟩

/-- Nothing is on its way. -/
def Quieta (r : Red n ν) : Prop :=
  ∀ k, (r.anillo.nodo k).fase = .passage ∧ (r.anillo.enlace k).isEmpty ∧
    (r.anillo.nodo k).userlandOutboundQueue.isEmpty

instance (r : Red n ν) : Decidable (Quieta r) :=
  inferInstanceAs (Decidable (∀ _, _ ∧ _ ∧ _))

/-- `passage_inbound_messages` ends with `UnstableChannel` in the nodes of `cortados`. -/
def cortar (cortados : Fin n → Bool) (r : Red n ν) : Red n ν where
  anillo :=
    { r.anillo with
      nodo := fun k =>
        if cortados k then { r.anillo.nodo k with fase := .inicio } else r.anillo.nodo k }
  conexion k := if cortados k then .rota else r.conexion k

section

variable [LinearOrder ν]

def Red.inbound (P : Parametros n ν) (r : Red n ν) (k : Fin n) : Option (Red n ν) :=
  match (r.anillo.nodo k).fase, r.conexion k with
  | .inicio, _ => (pasoInbound P r.anillo k).map fun s => { r with anillo := s }
  -- ring.tail accepts the connection of ring.head
  | .tail, .abierta =>
    (pasoInbound P r.anillo k).map fun s => ⟨s, Function.update r.conexion k .establecida⟩
  | .tail, _ => none
  | .passage, _ => (pasoInbound P r.anillo k).map fun s => { r with anillo := s }

variable [NeZero n]

def Red.outbound (P : Parametros n ν) (r : Red n ν) (k : Fin n) : Option (Red n ν) :=
  match r.conexion (k + 1), (r.anillo.nodo k).userlandOutboundQueue with
  | .establecida, _ => (pasoOutbound P r.anillo k).map fun s => { r with anillo := s }
  -- the packet is lost, unless it was not to be sent
  | .rota, m :: resto =>
    let d := handleOutbound (P.localhostName k) { r.anillo.nodo k with userlandOutboundQueue := resto } m
    some ⟨r.anillo.pon k d.1, if d.2 then Function.update r.conexion (k + 1) .abierta else r.conexion⟩
  | .rota, [] => none
  | .abierta, _ => none

/-- The processes. -/
def pasoRed (P : Parametros n ν) (r : Red n ν) : Evento n → Option (Red n ν)
  | .inbound k => r.inbound P k
  | .outbound k => r.outbound P k

inductive Suceso (n : Nat) where
  | proceso (e : Evento n)
  -- the connections to these nodes break
  | corte (cortados : Fin n → Bool)

def paso (P : Parametros n ν) (r : Red n ν) : Suceso n → Option (Red n ν)
  | .proceso e => pasoRed P r e
  | .corte cortados =>
    if Quieta r ∧ ∃ b, cortados b = true then some (cortar cortados r) else none

end

/-! ## What a round of elections leaves -/

section

variable [LinearOrder ν] [NeZero n]

/-- Node `b` has the greatest name from it to node `k`. -/
def Supera (P : Parametros n ν) (b k : Fin n) : Prop :=
  ∀ i, i ≠ b → desde b i ≤ desde b k → P.localhostName i < P.localhostName b

/-- The proposal of node `b` gets to node `k`. -/
def Llega (P : Parametros n ν) (b k : Fin n) : Prop := b ≠ k ∧ Supera P b k

/-- Of the proposals that get to node `k`, the greatest is the one of node `b`. -/
structure Impone (P : Parametros n ν) (cortados : Fin n → Bool) (b k : Fin n) : Prop where
  cortado : cortados b = true
  llega : Llega P b k
  mayor : ∀ c, cortados c = true → Llega P c k → P.localhostName c ≤ P.localhostName b

/-- The ring `t` after the links of `cortados` broke in the ring `r`. -/
structure Resultado (P : Parametros n ν) (cortados : Fin n → Bool) (r t : Red n ν) : Prop where
  conexion : ∀ k, t.conexion k = .establecida
  -- only the node with the greatest name starts a leader process, and only if it lost its link
  leaderProcess : ∀ k, (t.anillo.nodo k).leaderProcess = true ↔
    cortados k = true ∧ ∀ j, P.localhostName j ≤ P.localhostName k
  impuesto : ∀ b k, Impone P cortados b k → (t.anillo.nodo k).leaderName = P.localhostName b
  conservado : ∀ k, (∀ b, cortados b = true → ¬ Llega P b k) →
    (t.anillo.nodo k).leaderName = (r.anillo.nodo k).leaderName
  salida : ∀ k, (t.anillo.nodo k).leaderNameSalida = (t.anillo.nodo k).leaderName
  -- with a leader process, everybody knows its node
  acuerdo : ∀ g, (t.anillo.nodo g).leaderProcess = true →
    ∀ k, (t.anillo.nodo k).leaderName = P.localhostName g

end

end Reeleccion
