import Mathlib.Data.Nat.Basic
import Mathlib.Tactic.Common

/-!
# Choosing a broker (`LocalBrokerComm::reconectar` of `clientes/local_broker_comm.cpp`)

The application connects to the first broker of its list that answers and, when it loses it, to that one
again or to another.  The network is fixed while it tries: `red` says which hosts and services can be
connected to.  Loops take the number of turns they may make, and give nothing when it is not enough.
-/

namespace Reconexion

structure LocalBrokerComm where
  listaDeBrokers : List String
  listaDeServicios : List String
  conectado : Bool
  numeroBrokerConectado : Nat

inductive Fin where
  | conecta (b : LocalBrokerComm)
  | commError

namespace LocalBrokerComm

variable (red : String → String → Bool)

def cantBrokers (b : LocalBrokerComm) : Nat := min b.listaDeBrokers.length b.listaDeServicios.length

/-- `socket_broker->destination(lista_de_brokers[i], lista_de_servicios[i])` does not throw. -/
def destination (b : LocalBrokerComm) (i : Nat) : Bool :=
  match b.listaDeBrokers[i]?, b.listaDeServicios[i]? with
  | some broker, some servicio => red broker servicio
  | _, _ => false

/-- The `do while` of the first connection. -/
def primeraVez (b : LocalBrokerComm) : Nat → Nat → Option Fin
  | 0, _ => none
  | vueltas + 1, i =>
    if b.destination red i then some (.conecta { b with conectado := true, numeroBrokerConectado := i })
    else if (i + 1) % b.cantBrokers = 0 then some .commError
    else b.primeraVez vueltas ((i + 1) % b.cantBrokers)

/-- `for (i = 0; i < 3; i++)`. -/
def mismoBroker (b : LocalBrokerComm) : Bool :=
  (List.range 3).any fun _ => b.destination red b.numeroBrokerConectado

/-- `while (!conecto)`, which computes `i` again in each turn. -/
def otroBroker (b : LocalBrokerComm) : Nat → Option Fin
  | 0 => none
  | vueltas + 1 =>
    let i := (b.numeroBrokerConectado + 1) % b.cantBrokers
    if b.destination red i then some (.conecta { b with numeroBrokerConectado := i })
    else if (i + 1) % b.cantBrokers = b.numeroBrokerConectado then some .commError
    else b.otroBroker vueltas

/-- `reconectar`, up to the registration. -/
def reconectar (b : LocalBrokerComm) (vueltas : Nat) : Option Fin :=
  if !b.conectado then b.primeraVez red vueltas 0
  else if b.mismoBroker red then some (.conecta b)
  else b.otroBroker red vueltas

end LocalBrokerComm

variable {red : String → String → Bool} {b : LocalBrokerComm}

/-- Some broker of the list can be connected to. -/
def HayBroker (red : String → String → Bool) (b : LocalBrokerComm) : Prop :=
  ∃ i < b.cantBrokers, b.destination red i = true

/-- After finitely many turns it is connected to a broker of the list, which it names, when there is one,
    and has thrown when there is none. -/
def Reconecta (red : String → String → Bool) (b : LocalBrokerComm) : Prop :=
  ∃ vueltas fin, b.reconectar red vueltas = some fin ∧
    (HayBroker red b → ∃ i < b.cantBrokers, b.destination red i = true ∧
      fin = .conecta { b with numeroBrokerConectado := i }) ∧
    (¬HayBroker red b → fin = .commError)

/-- The three attempts with the same broker are one question to a network that does not change. -/
theorem mismoBroker_eq (red : String → String → Bool) (b : LocalBrokerComm) :
    b.mismoBroker red = b.destination red b.numeroBrokerConectado := by
  unfold LocalBrokerComm.mismoBroker
  cases b.destination red b.numeroBrokerConectado with
  | true => rfl
  | false => rfl

/-- With three brokers or more the turn that fails at the next broker is made again, and again. -/
theorem otroBroker_none (hmenor : b.numeroBrokerConectado < b.cantBrokers) (htres : 2 < b.cantBrokers)
    (hno : b.destination red ((b.numeroBrokerConectado + 1) % b.cantBrokers) = false) (vueltas : Nat) :
    b.otroBroker red vueltas = none := by
  have hdistinto : ((b.numeroBrokerConectado + 1) % b.cantBrokers + 1) % b.cantBrokers ≠
      b.numeroBrokerConectado := by
    rw [Nat.mod_add_mod]
    by_cases hvuelta : b.numeroBrokerConectado + 1 + 1 < b.cantBrokers
    · rw [Nat.mod_eq_of_lt hvuelta]
      omega
    · rw [Nat.mod_eq_sub_mod (by omega), Nat.mod_eq_of_lt (by omega)]
      omega
  induction vueltas with
  | zero => rfl
  | succ vueltas ih =>
    rw [LocalBrokerComm.otroBroker]
    simp only [hno, Bool.false_eq_true, if_false, if_neg hdistinto, ih]

/-- With one broker or two, the broker that is asked next is the only other one. -/
theorem otroBroker_dos (hmenor : b.numeroBrokerConectado < b.cantBrokers) (hdos : b.cantBrokers ≤ 2) :
    ((b.numeroBrokerConectado + 1) % b.cantBrokers + 1) % b.cantBrokers = b.numeroBrokerConectado ∧
      ∀ i < b.cantBrokers, i = b.numeroBrokerConectado ∨
        i = (b.numeroBrokerConectado + 1) % b.cantBrokers := by
  obtain ⟨c, hc⟩ : ∃ c, b.numeroBrokerConectado = c := ⟨_, rfl⟩
  obtain ⟨n, hn⟩ : ∃ n, b.cantBrokers = n := ⟨_, rfl⟩
  rw [hc, hn] at hmenor ⊢
  rw [hn] at hdos
  have hcasos : n = 1 ∧ c = 0 ∨ n = 2 ∧ c = 0 ∨ n = 2 ∧ c = 1 := by omega
  rcases hcasos with ⟨rfl, rfl⟩ | ⟨rfl, rfl⟩ | ⟨rfl, rfl⟩
  · exact ⟨rfl, by omega⟩
  · exact ⟨rfl, by omega⟩
  · exact ⟨rfl, by omega⟩

/-- The reconnection ends as it should exactly when the broker last connected to answers, or the next one
    does, or there is no third one. -/
theorem reconecta_iff (hconectado : b.conectado = true) (hmenor : b.numeroBrokerConectado < b.cantBrokers) :
    Reconecta red b ↔ b.destination red b.numeroBrokerConectado = true ∨
      b.destination red ((b.numeroBrokerConectado + 1) % b.cantBrokers) = true ∨ b.cantBrokers ≤ 2 := by
  have hsig : (b.numeroBrokerConectado + 1) % b.cantBrokers < b.cantBrokers :=
    Nat.mod_lt _ (by omega)
  have hrec : ∀ vueltas, b.reconectar red vueltas =
      if b.destination red b.numeroBrokerConectado then some (.conecta b) else b.otroBroker red vueltas := by
    intro vueltas
    rw [LocalBrokerComm.reconectar, hconectado, mismoBroker_eq]
    rfl
  by_cases hmismo : b.destination red b.numeroBrokerConectado = true
  · have hhay : HayBroker red b := ⟨_, hmenor, hmismo⟩
    exact iff_of_true ⟨0, .conecta b, by rw [hrec, if_pos hmismo],
      fun _ => ⟨_, hmenor, hmismo, rfl⟩, fun hno => absurd hhay hno⟩ (.inl hmismo)
  by_cases hotro : b.destination red ((b.numeroBrokerConectado + 1) % b.cantBrokers) = true
  · have hhay : HayBroker red b := ⟨_, hsig, hotro⟩
    refine iff_of_true ⟨1, _, ?_, fun _ => ⟨_, hsig, hotro, rfl⟩, fun hno => absurd hhay hno⟩
      (.inr (.inl hotro))
    rw [hrec, if_neg hmismo, LocalBrokerComm.otroBroker]
    simp only [hotro, if_true]
  by_cases hdos : b.cantBrokers ≤ 2
  · obtain ⟨hvuelve, hsolo⟩ := otroBroker_dos hmenor hdos
    have hno : ¬HayBroker red b := by
      rintro ⟨i, hi, hdest⟩
      rcases hsolo i hi with rfl | rfl
      · exact hmismo hdest
      · exact hotro hdest
    refine iff_of_true ⟨1, .commError, ?_, fun hhay => absurd hhay hno, fun _ => rfl⟩ (.inr (.inr hdos))
    rw [hrec, if_neg hmismo, LocalBrokerComm.otroBroker]
    simp only [if_neg hotro, if_pos hvuelve]
  · refine iff_of_false ?_ fun h => h.elim hmismo fun h => h.elim hotro hdos
    rintro ⟨vueltas, fin, hfin, -⟩
    rw [hrec, if_neg hmismo, otroBroker_none hmenor (by omega) (Bool.not_eq_true _ ▸ hotro)] at hfin
    cases hfin

/-- Three brokers, the last of which is the only one that answers. -/
def tresBrokers : LocalBrokerComm := ⟨["a", "b", "c"], ["1", "1", "1"], true, 0⟩

/-- It asks the second broker for ever. -/
theorem reconexion_sin_fin : ¬∀ (red : String → String → Bool) (b : LocalBrokerComm), b.conectado = true →
    b.numeroBrokerConectado < b.cantBrokers → Reconecta red b := by
  intro h
  obtain ⟨vueltas, fin, hfin, -⟩ := h (fun broker _ => broker == "c") tresBrokers rfl (by decide)
  have hno := otroBroker_none (b := tresBrokers) (by decide) (by decide)
    (show tresBrokers.destination (fun broker _ => broker == "c") 1 = false by decide) vueltas
  have hrec : tresBrokers.reconectar (fun broker _ => broker == "c") vueltas =
      tresBrokers.otroBroker (fun broker _ => broker == "c") vueltas := rfl
  rw [hrec, hno] at hfin
  cases hfin

/-- When it is the second one that answers it connects. -/
theorem reconecta_tres_brokers : Reconecta (fun broker _ => broker == "b") tresBrokers :=
  (reconecta_iff rfl (by decide)).2 (.inr (.inl (by decide)))

end Reconexion
