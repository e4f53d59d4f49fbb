import Mathlib.Algebra.Ring.Nat
import Mathlib.Data.List.TakeDrop
import Mathlib.Tactic.Common

/-!
# Packed records

Big-endian records of byte strings of a given length and of unsigned numbers of one or two bytes, as the
`struct` module of Python packs and unpacks them: a string is cut or filled with zeros when it is packed,
a number must fit, and what is unpacked must be as long as its format.
-/

namespace Empaquetado

inductive Campo where
  | s (n : Nat)
  | B
  | H
  deriving DecidableEq, Repr

inductive Valor where
  | cadena (xs : List UInt8)
  | numero (v : Nat)
  deriving DecidableEq, Repr

def Campo.tamanio : Campo → Nat
  | .s n => n
  | .B => 1
  | .H => 2

/-- `struct.calcsize`. -/
def calcsize (formato : List Campo) : Nat := (formato.map Campo.tamanio).sum

def empaquetarCampo : Campo → Valor → Option (List UInt8)
  | .s n, .cadena xs => some (xs.takeD n 0)
  | .B, .numero v => if v < 256 then some [UInt8.ofNat v] else none
  | .H, .numero v => if v < 65536 then some [UInt8.ofNat (v / 256), UInt8.ofNat (v % 256)] else none
  | _, _ => none

/-- The value of a field, given as many bytes as it has. -/
def desempaquetarCampo : Campo → List UInt8 → Valor
  | .s _, bs => .cadena bs
  | .B, bs => .numero (bs.headD 0).toNat
  | .H, bs => .numero ((bs.headD 0).toNat * 256 + (bs.tail.headD 0).toNat)

/-- `struct.pack`, with `none` where it raises `struct.error`. -/
def empaquetar : List (Campo × Valor) → Option (List UInt8)
  | [] => some []
  | (c, v) :: cs => do return (← empaquetarCampo c v) ++ (← empaquetar cs)

/-- `struct.unpack`. -/
def desempaquetar : List Campo → List UInt8 → Option (List Valor)
  | [], [] => some []
  | [], _ :: _ => none
  | c :: cs, bs =>
    if bs.length < c.tamanio then none
    else (desempaquetar cs (bs.drop c.tamanio)).map (desempaquetarCampo c (bs.take c.tamanio) :: ·)

/-- The string is neither cut nor filled. -/
def Exacto : Campo × Valor → Prop
  | (.s n, .cadena xs) => xs.length = n
  | _ => True

variable {c : Campo} {v : Valor} {bs bs' : List UInt8} {cs cs' : List (Campo × Valor)}
  {formato : List Campo}

theorem empaquetarCampo_length (h : empaquetarCampo c v = some bs) : bs.length = c.tamanio := by
  cases c with
  | s n =>
    cases v with
    | cadena xs =>
      cases h
      exact List.takeD_length n xs 0
    | numero v => cases h
  | B =>
    cases v with
    | cadena xs => cases h
    | numero v =>
      rw [empaquetarCampo] at h
      split at h <;> cases h
      rfl
  | H =>
    cases v with
    | cadena xs => cases h
    | numero v =>
      rw [empaquetarCampo] at h
      split at h <;> cases h
      rfl

/-- A field is read back. -/
theorem desempaquetarCampo_empaquetarCampo (hexacto : Exacto (c, v))
    (h : empaquetarCampo c v = some bs) : desempaquetarCampo c bs = v := by
  cases c with
  | s n =>
    cases v with
    | cadena xs =>
      have hn : xs.length = n := hexacto
      cases h
      rw [List.takeD_eq_take 0 (by omega), ← hn, List.take_length]
      rfl
    | numero v => cases h
  | B =>
    cases v with
    | cadena xs => cases h
    | numero v =>
      rw [empaquetarCampo] at h
      split at h <;> cases h
      rename_i hv
      exact congrArg Valor.numero (UInt8.toNat_ofNat_of_lt hv)
  | H =>
    cases v with
    | cadena xs => cases h
    | numero v =>
      rw [empaquetarCampo] at h
      split at h <;> cases h
      rename_i hv
      have halto : (UInt8.ofNat (v / 256)).toNat = v / 256 :=
        UInt8.toNat_ofNat_of_lt (Nat.div_lt_of_lt_mul hv)
      have hbajo : (UInt8.ofNat (v % 256)).toNat = v % 256 :=
        UInt8.toNat_ofNat_of_lt (Nat.mod_lt _ (by decide))
      refine congrArg Valor.numero ?_
      show (UInt8.ofNat (v / 256)).toNat * 256 + (UInt8.ofNat (v % 256)).toNat = v
      rw [halto, hbajo]
      omega

theorem empaquetarCampo_cadena (xs : List UInt8) : empaquetarCampo (.s xs.length) (.cadena xs) = some xs := by
  rw [empaquetarCampo, List.takeD_eq_take 0 (Nat.le_refl _), List.take_length]

theorem empaquetar_cons (h : empaquetarCampo c v = some bs) (hcs : empaquetar cs = some bs') :
    empaquetar ((c, v) :: cs) = some (bs ++ bs') := by
  rw [empaquetar, h, hcs]
  rfl

theorem empaquetar_cons_inv (h : empaquetar ((c, v) :: cs) = some bs) :
    ∃ a b, empaquetarCampo c v = some a ∧ empaquetar cs = some b ∧ bs = a ++ b := by
  rw [empaquetar] at h
  cases ha : empaquetarCampo c v with
  | none =>
    rw [ha] at h
    cases h
  | some a =>
    cases hb : empaquetar cs with
    | none =>
      rw [ha, hb] at h
      cases h
    | some b =>
      rw [ha, hb] at h
      cases h
      exact ⟨a, b, rfl, rfl, rfl⟩

theorem empaquetar_append_inv (h : empaquetar (cs ++ cs') = some bs) :
    ∃ a b, empaquetar cs = some a ∧ empaquetar cs' = some b ∧ bs = a ++ b := by
  induction cs generalizing bs with
  | nil => exact ⟨[], bs, rfl, h, rfl⟩
  | cons p cs ih =>
    obtain ⟨a, resto, ha, hresto, rfl⟩ := empaquetar_cons_inv h
    obtain ⟨a', b, ha', hb, rfl⟩ := ih hresto
    exact ⟨a ++ a', b, empaquetar_cons ha ha', hb, (List.append_assoc _ _ _).symm⟩

theorem empaquetar_length (h : empaquetar cs = some bs) :
    bs.length = calcsize (cs.map Prod.fst) := by
  induction cs generalizing bs with
  | nil =>
    cases h
    rfl
  | cons p cs ih =>
    obtain ⟨a, b, ha, hb, rfl⟩ := empaquetar_cons_inv h
    rw [List.length_append, empaquetarCampo_length ha, ih hb]
    rfl

/-- What was packed is unpacked. -/
theorem desempaquetar_empaquetar (hexacto : ∀ p ∈ cs, Exacto p) (h : empaquetar cs = some bs) :
    desempaquetar (cs.map Prod.fst) bs = some (cs.map Prod.snd) := by
  induction cs generalizing bs with
  | nil =>
    cases h
    rfl
  | cons p cs ih =>
    obtain ⟨c, v⟩ := p
    obtain ⟨a, b, ha, hb, rfl⟩ := empaquetar_cons_inv h
    have hlargo := empaquetarCampo_length ha
    have hcampo := desempaquetarCampo_empaquetarCampo (hexacto _ List.mem_cons_self) ha
    have hresto := ih (fun q hq => hexacto q (List.mem_cons_of_mem _ hq)) hb
    have hcabe : ¬(a ++ b).length < c.tamanio := by
      rw [List.length_append]
      omega
    rw [List.map_cons, List.map_cons, desempaquetar, if_neg hcabe,
      List.drop_left' hlargo, List.take_left' hlargo, hresto, hcampo]
    rfl

/-- Only what is as long as the format is unpacked. -/
theorem desempaquetar_length {vs : List Valor} (h : desempaquetar formato bs = some vs) :
    bs.length = calcsize formato := by
  induction formato generalizing bs vs with
  | nil =>
    cases bs with
    | nil => rfl
    | cons b bs => cases h
  | cons c formato ih =>
    rw [desempaquetar] at h
    split at h
    case isTrue => cases h
    case isFalse hlargo =>
      obtain ⟨resto, hresto, -⟩ := Option.map_eq_some_iff.mp h
      have hresto' := ih hresto
      rw [List.length_drop] at hresto'
      show bs.length = c.tamanio + calcsize formato
      omega

theorem desempaquetar_none (h : bs.length ≠ calcsize formato) : desempaquetar formato bs = none := by
  cases hd : desempaquetar formato bs with
  | none => rfl
  | some vs => exact absurd (desempaquetar_length hd) h

end Empaquetado
