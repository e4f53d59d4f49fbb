import Mathlib.Data.List.Range
import Mathlib.Tactic.Common

/-!
# Sending a memory in blocks

A memory of `tamanio` cells crosses a first-in first-out channel in blocks of `B` cells, the last one
shorter.  While blocks `i` to `j` are on their way the receiver agrees with the sender on the blocks
before `i`, and a sender that is past its last block has sent everything.
-/

namespace Bloques

variable {β : Type*} {B tamanio n i j : Nat} {m m' m'' : Nat → β}

/-- The memories agree on the first `n` cells. -/
def Coincide (n : Nat) (m m' : Nat → β) : Prop :=
  ∀ x < n, m x = m' x

theorem Coincide.refl (n : Nat) (m : Nat → β) : Coincide n m m := fun _ _ => rfl

theorem Coincide.symm (h : Coincide n m m') : Coincide n m' m := fun x hx => (h x hx).symm

theorem Coincide.trans (h : Coincide n m m') (h' : Coincide n m' m'') : Coincide n m m'' :=
  fun x hx => (h x hx).trans (h' x hx)

/-- Copying the first `n` cells. -/
def copiar (n : Nat) (destino origen : Nat → β) : Nat → β :=
  fun x => if x < n then origen x else destino x

theorem coincide_copiar (n : Nat) (m m' : Nat → β) : Coincide n (copiar n m m') m' :=
  fun _ hx => if_pos hx

/-- Block `i` of a memory. -/
def bloque (B tamanio : Nat) (m : Nat → β) (i : Nat) : List β :=
  (List.range (min (tamanio - i * B) B)).map fun k => m (i * B + k)

/-- Writing `datos` where block `i` goes. -/
def guardar (B : Nat) (m : Nat → β) (i : Nat) (datos : List β) : Nat → β :=
  fun x => if i * B ≤ x then datos[x - i * B]?.getD (m x) else m x

/-- Blocks `i` to `j`, without `j`. -/
def bloques (B tamanio : Nat) (m : Nat → β) (i j : Nat) : List (List β) :=
  (List.range' i (j - i)).map (bloque B tamanio m)

@[simp] theorem bloques_self (m : Nat → β) (i : Nat) : bloques B tamanio m i i = [] := by
  simp [bloques]

/-- The next block to arrive. -/
theorem bloques_cons (m : Nat → β) (h : i < j) :
    bloques B tamanio m i j = bloque B tamanio m i :: bloques B tamanio m (i + 1) j := by
  unfold bloques
  rw [show j - i = (j - (i + 1)) + 1 by omega, List.range'_succ, List.map_cons]

/-- The next block to be sent. -/
theorem bloques_snoc (m : Nat → β) (h : i ≤ j) :
    bloques B tamanio m i (j + 1) = bloques B tamanio m i j ++ [bloque B tamanio m j] := by
  unfold bloques
  rw [show j + 1 - i = (j - i) + 1 by omega, List.range'_1_concat, List.map_append,
    show i + (j - i) = j by omega]
  rfl

/-- The number of cells of the first `i` blocks. -/
def hasta (B tamanio i : Nat) : Nat := min tamanio (i * B)

/-- A block that arrives in its turn extends the part received. -/
theorem coincide_guardar (h : Coincide (hasta B tamanio i) m m') :
    Coincide (hasta B tamanio (i + 1)) (guardar B m i (bloque B tamanio m' i)) m' := by
  intro x hx
  have hx' : x < tamanio ∧ x < i * B + B := by
    unfold hasta at hx
    rw [Nat.succ_mul] at hx
    omega
  unfold guardar
  split
  · rename_i hle
    have hk : x - i * B < min (tamanio - i * B) B := by omega
    rw [bloque, List.getElem?_map, List.getElem?_range hk, Option.map_some, Option.getD_some,
      show i * B + (x - i * B) = x by omega]
  · rename_i hlt
    apply h
    unfold hasta
    omega

/-- Nothing has been received yet. -/
theorem coincide_hasta_zero (m m' : Nat → β) : Coincide (hasta B tamanio 0) m m' := by
  intro x hx
  unfold hasta at hx
  omega

/-- How many blocks are sent: at least one, and a last one for the rest. -/
def cantidad (B tamanio : Nat) : Nat :=
  tamanio / B + if tamanio % B ≠ 0 ∨ tamanio = 0 ∨ tamanio < B then 1 else 0

theorem cantidad_pos (hB : 0 < B) : 0 < cantidad B tamanio := by
  unfold cantidad
  split
  · exact Nat.succ_pos _
  · rename_i h
    have := Nat.div_pos (a := tamanio) (b := B) (by omega) hB
    omega

/-- The blocks sent cover the memory. -/
theorem hasta_cantidad (hB : 0 < B) : hasta B tamanio (cantidad B tamanio) = tamanio := by
  have hdiv := Nat.div_add_mod tamanio B
  have hmod := Nat.mod_lt tamanio hB
  have hle : tamanio ≤ cantidad B tamanio * B := by
    unfold cantidad
    split
    · rw [Nat.add_mul, Nat.mul_comm (tamanio / B) B]
      omega
    · rw [Nat.add_zero, Nat.mul_comm]
      omega
  unfold hasta
  omega

end Bloques
