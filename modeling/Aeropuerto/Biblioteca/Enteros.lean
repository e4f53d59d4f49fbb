import Mathlib.Algebra.Ring.Nat
import Mathlib.Data.List.Basic
import Mathlib.Tactic.Common

/-!
# Integers as bytes
-/

namespace Enteros

/-- The `k` low bytes, least significant first. -/
def bytesLE : Nat → Nat → List UInt8
  | 0, _ => []
  | k + 1, n => UInt8.ofNat n :: bytesLE k (n / 256)

def valorLE : List UInt8 → Nat
  | [] => 0
  | b :: bs => b.toNat + 256 * valorLE bs

def bytesBE (k n : Nat) : List UInt8 := (bytesLE k n).reverse

def valorBE (bs : List UInt8) : Nat := valorLE bs.reverse

/-- A two's complement number of `w` bits. -/
def conSigno (w n : Nat) : Int := (BitVec.ofNat w n).toInt

@[simp] theorem length_bytesLE (k n : Nat) : (bytesLE k n).length = k := by
  induction k generalizing n with
  | zero => rfl
  | succ k ih => rw [bytesLE, List.length_cons, ih]

@[simp] theorem length_bytesBE (k n : Nat) : (bytesBE k n).length = k := by
  rw [bytesBE, List.length_reverse, length_bytesLE]

theorem valorLE_bytesLE (k : Nat) {n : Nat} (h : n < 256 ^ k) : valorLE (bytesLE k n) = n := by
  induction k generalizing n with
  | zero => exact (Nat.lt_one_iff.mp h).symm
  | succ k ih =>
    have hdiv : n / 256 < 256 ^ k := Nat.div_lt_of_lt_mul (by rwa [← Nat.pow_succ'])
    have hbyte : (UInt8.ofNat n).toNat = n % 256 := UInt8.toNat_ofNat'
    rw [bytesLE, valorLE, ih hdiv, hbyte, Nat.mod_add_div]

theorem valorBE_bytesBE (k : Nat) {n : Nat} (h : n < 256 ^ k) : valorBE (bytesBE k n) = n := by
  rw [valorBE, bytesBE, List.reverse_reverse, valorLE_bytesLE k h]

theorem valorLE_lt (bs : List UInt8) {n : Nat} (h : bs.length = n) : valorLE bs < 256 ^ n := by
  induction bs generalizing n with
  | nil =>
    subst h
    exact Nat.one_pos
  | cons b bs ih =>
    subst h
    have hb := b.toNat_lt
    have hbs := ih rfl
    rw [valorLE, List.length_cons, Nat.pow_succ]
    omega

theorem valorLE_append (bs bs' : List UInt8) {n : Nat} (h : bs.length = n) :
    valorLE (bs ++ bs') = valorLE bs + 256 ^ n * valorLE bs' := by
  induction bs generalizing n with
  | nil =>
    subst h
    rw [List.nil_append, valorLE, List.length_nil, Nat.pow_zero, Nat.one_mul, Nat.zero_add]
  | cons c bs ih =>
    subst h
    rw [List.cons_append, valorLE, ih rfl, valorLE, List.length_cons, Nat.pow_succ, Nat.mul_add,
      ← Nat.mul_assoc, Nat.mul_comm 256 (256 ^ _), Nat.add_assoc]

theorem bytesLE_valorLE {k : Nat} {bs : List UInt8} (h : bs.length = k) : bytesLE k (valorLE bs) = bs := by
  induction bs generalizing k with
  | nil =>
    subst h
    rfl
  | cons b bs ih =>
    subst h
    have hb : UInt8.ofNat (b.toNat + 256 * valorLE bs) = b := by
      apply UInt8.toNat_inj.mp
      rw [UInt8.toNat_ofNat', Nat.add_mul_mod_self_left, Nat.mod_eq_of_lt b.toNat_lt]
    have hbs : (b.toNat + 256 * valorLE bs) / 256 = valorLE bs := by
      have := b.toNat_lt
      omega
    rw [valorLE, List.length_cons, bytesLE, hb, hbs, ih rfl]

theorem conSigno_of_lt {w n : Nat} (h : 2 * n < 2 ^ w) : conSigno w n = n := by
  have hn : (BitVec.ofNat w n).toNat = n := by
    rw [BitVec.toNat_ofNat, Nat.mod_eq_of_lt (by omega)]
  rw [conSigno, BitVec.toInt_eq_toNat_of_lt (by rwa [hn]), hn]

theorem conSigno_neg {w n : Nat} (h : 2 ^ w ≤ 2 * n) (hlt : n < 2 ^ w) : conSigno w n < 0 := by
  have hn : (BitVec.ofNat w n).toNat = n := by
    rw [BitVec.toNat_ofNat, Nat.mod_eq_of_lt hlt]
  rw [conSigno, BitVec.toInt_eq_toNat_cond, hn, if_neg (by omega)]
  have : (n : Int) < ((2 ^ w : Nat) : Int) := Int.ofNat_lt.mpr hlt
  omega

/-- The number is written back as it was read. -/
theorem toNat_conSigno_emod (w : Nat) {n : Nat} (h : n < 2 ^ w) :
    (conSigno w n % ((2 ^ w : Nat) : Int)).toNat = n := by
  rw [← BitVec.toNat_ofInt, conSigno, BitVec.ofInt_toInt, BitVec.toNat_ofNat, Nat.mod_eq_of_lt h]

end Enteros
