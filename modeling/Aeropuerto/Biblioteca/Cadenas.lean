import Mathlib.Algebra.Ring.Int.Defs
import Mathlib.Algebra.Ring.Nat
import Mathlib.Data.List.Basic
import Mathlib.Tactic.Common

/-!
# C strings in a buffer

A buffer is the list of its bytes, and every access outside it gives nothing.  A string begins at a
position of the buffer and ends before the first zero byte; a loop that looks for a character goes on
until it finds one, wherever the string ends.
-/

namespace Cadenas

-- '\n'
def nl : UInt8 := 10

/-- `isspace`. -/
def esEspacio (c : UInt8) : Bool := c == 32 || (9 ≤ c && c ≤ 13)

def esDigito (c : UInt8) : Bool := 48 ≤ c && c ≤ 57

def natDe (digitos : List UInt8) : Nat := digitos.foldl (fun n c => n * 10 + (c.toNat - 48)) 0

def cifra (d : Fin 10) : UInt8 := UInt8.ofNat (48 + d.val)

def leer (linea : List UInt8) (pos : Nat) : Option UInt8 := linea[pos]?

def poner (linea : List UInt8) (pos : Nat) (c : UInt8) : Option (List UInt8) :=
  if pos < linea.length then some (linea.set pos c) else none

/-- The copy takes the zero byte too, and what is behind it in the buffer stays. -/
def strcpy (linea xs : List UInt8) : Option (List UInt8) :=
  if xs.length + 1 ≤ linea.length then some (xs ++ 0 :: linea.drop (xs.length + 1)) else none

def avanzar (seguir : UInt8 → Bool) : List UInt8 → Nat → Option Nat
  | [], _ => none
  | c :: cs, pos => if seguir c then avanzar seguir cs (pos + 1) else some pos

/-- `while (seguir(linea [pos])) pos++`. -/
def mientras (seguir : UInt8 → Bool) (linea : List UInt8) (pos : Nat) : Option Nat :=
  avanzar seguir (linea.drop pos) pos

/-- The string that begins at `pos`. -/
def cadena (linea : List UInt8) (pos : Nat) : Option (List UInt8) :=
  (mientras (· != 0) linea pos).map fun fin => (linea.drop pos).take (fin - pos)

theorem cifra_digito (d : Fin 10) : esDigito (cifra d) = true ∧ (cifra d).toNat - 48 = d := by
  revert d
  decide

theorem esDigito_cifras {ds : List (Fin 10)} {c : UInt8} (hc : c ∈ ds.map cifra) : esDigito c = true := by
  obtain ⟨d, -, rfl⟩ := List.mem_map.mp hc
  exact (cifra_digito d).1

theorem natDe_cifras (ds : List (Fin 10)) :
    natDe (ds.map cifra) = ds.foldl (fun n d => 10 * n + d.val) 0 := by
  have hpaso : (fun (n : Nat) (d : Fin 10) => n * 10 + ((cifra d).toNat - 48)) =
      fun n d => 10 * n + d.val := by
    funext n d
    rw [(cifra_digito d).2, Nat.mul_comm]
  unfold natDe
  rw [List.foldl_map, hpaso]

variable {seguir : UInt8 → Bool} {antes xs resto : List UInt8} {c d : UInt8} {pos k : Nat}

theorem leer_append (hpos : antes.length = pos) (resto : List UInt8) (c : UInt8) :
    leer (antes ++ c :: resto) pos = some c := by
  subst hpos
  rw [leer, List.getElem?_append_right (Nat.le_refl _), Nat.sub_self, List.getElem?_cons_zero]

theorem poner_append (hpos : antes.length = pos) (resto : List UInt8) (c d : UInt8) :
    poner (antes ++ c :: resto) pos d = some (antes ++ d :: resto) := by
  subst hpos
  have hlt : antes.length < (antes ++ c :: resto).length := by
    rw [List.length_append, List.length_cons]
    omega
  rw [poner, if_pos hlt, List.set_append_right _ _ (Nat.le_refl _), Nat.sub_self, List.set_cons_zero]

/-- The loop runs over the characters that it accepts. -/
theorem avanzar_append (h : ∀ c ∈ xs, seguir c = true) (resto : List UInt8) (pos : Nat) :
    avanzar seguir (xs ++ resto) pos = avanzar seguir resto (pos + xs.length) := by
  induction xs generalizing pos with
  | nil => rfl
  | cons x xs ih =>
    rw [List.cons_append, avanzar, if_pos (h x List.mem_cons_self),
      ih (fun c hc => h c (List.mem_cons_of_mem _ hc)), List.length_cons]
    congr 1
    omega

theorem le_of_avanzar : ∀ {xs : List UInt8} {pos k : Nat}, avanzar seguir xs pos = some k → pos ≤ k
  | [], _, _, h => by cases h
  | x :: xs, pos, k, h => by
    rw [avanzar] at h
    split at h
    · exact Nat.le_of_succ_le (le_of_avanzar h)
    · cases h
      exact Nat.le_refl _

/-- It stops at the first one that it does not accept. -/
theorem mientras_para (hpos : antes.length = pos) (h : ∀ c ∈ xs, seguir c = true) (hc : seguir c = false)
    (resto : List UInt8) :
    mientras seguir (antes ++ (xs ++ c :: resto)) pos = some (pos + xs.length) := by
  subst hpos
  rw [mientras, List.drop_left' rfl, avanzar_append h, avanzar, hc]
  rfl

theorem mientras_para_cero (h : ∀ c ∈ xs, seguir c = true) (hc : seguir c = false)
    (resto : List UInt8) : mientras seguir (xs ++ c :: resto) 0 = some xs.length := by
  rw [mientras, List.drop_zero, avanzar_append h, avanzar, hc, Nat.zero_add]
  rfl

/-- When there is none, it goes past them all. -/
theorem mientras_pasa (hpos : antes.length = pos) (h : ∀ c ∈ xs, seguir c = true)
    (hk : mientras seguir (antes ++ (xs ++ resto)) pos = some k) : pos + xs.length ≤ k := by
  subst hpos
  rw [mientras, List.drop_left' rfl, avanzar_append h] at hk
  exact le_of_avanzar hk

theorem mientras_pasa_cero (h : ∀ c ∈ xs, seguir c = true)
    (hk : mientras seguir (xs ++ resto) 0 = some k) : xs.length ≤ k := by
  rw [mientras, List.drop_zero, avanzar_append h, Nat.zero_add] at hk
  exact le_of_avanzar hk

theorem ne_of_notMem (h : d ∉ xs) : ∀ c ∈ xs, (c != d) = true := by
  intro c hc
  rw [bne_iff_ne]
  rintro rfl
  exact h hc

theorem cadena_append (hpos : antes.length = pos) (h : 0 ∉ xs) (resto : List UInt8) :
    cadena (antes ++ (xs ++ 0 :: resto)) pos = some xs := by
  have hfin : mientras (· != 0) (antes ++ (xs ++ 0 :: resto)) pos = some (pos + xs.length) :=
    mientras_para hpos (ne_of_notMem h) rfl resto
  subst hpos
  rw [cadena, hfin, Option.map_some, List.drop_left' rfl, Nat.add_sub_cancel_left, List.take_left' rfl]

theorem cadena_cero (h : 0 ∉ xs) (resto : List UInt8) : cadena (xs ++ 0 :: resto) 0 = some xs := by
  have hfin : mientras (· != 0) (xs ++ 0 :: resto) 0 = some xs.length :=
    mientras_para_cero (ne_of_notMem h) rfl resto
  rw [cadena, hfin, Option.map_some, List.drop_zero, Nat.sub_zero, List.take_left' rfl]

theorem strcpy_length {linea linea' : List UInt8} (h : strcpy linea xs = some linea') :
    linea'.length = linea.length := by
  rw [strcpy] at h
  split at h <;> cases h
  rw [List.length_append, List.length_cons, List.length_drop]
  omega

/-! ## Lines -/

/-- Lines, each behind its newline, and perhaps a last newline. -/
theorem head_lineas {α : Type*} (texto : α → List UInt8) (lineas : List α) (final : Bool) :
    (lineas.flatMap fun l => nl :: texto l) ++ (if final then [nl] else []) = [] ∨
      ∃ cs, (lineas.flatMap fun l => nl :: texto l) ++ (if final then [nl] else []) = nl :: cs := by
  cases lineas with
  | nil =>
    cases final with
    | true => exact .inr ⟨[], rfl⟩
    | false => exact .inl rfl
  | cons l ls => exact .inr ⟨_, rfl⟩

/-- A text without the character that the lines begin with is cut off before them. -/
theorem partes_append (hnl : seguir nl = false) (h : ∀ c ∈ xs, seguir c = true)
    (hresto : resto = [] ∨ ∃ cs, resto = nl :: cs) :
    (xs ++ resto).takeWhile seguir = xs ∧ (xs ++ resto).dropWhile seguir = resto := by
  have hcabeza : resto.takeWhile seguir = [] ∧ resto.dropWhile seguir = resto := by
    obtain rfl | ⟨cs, rfl⟩ := hresto
    · exact ⟨rfl, rfl⟩
    · rw [List.takeWhile_cons_of_neg (by simp [hnl]), List.dropWhile_cons_of_neg (by simp [hnl])]
      exact ⟨rfl, rfl⟩
  rw [List.takeWhile_append_of_pos h, List.dropWhile_append_of_pos h, hcabeza.1, hcabeza.2,
    List.append_nil]
  exact ⟨rfl, rfl⟩

end Cadenas
