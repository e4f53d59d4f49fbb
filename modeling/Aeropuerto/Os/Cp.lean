import Mathlib.Data.Nat.Basic
import Mathlib.Data.List.Basic
import Mathlib.Tactic.Common

/-!
# Copying a file (`cp` of `os/dir.cpp`)

What each call of `write` answers is given by a sequence: an error, or a count, of which at least one
byte and at most what it was asked to write is accepted.  Loops take the number of turns they may make,
and give nothing when it is not enough.
-/

namespace Cp

/-- `char buf [4096]`. -/
def tamBuf : Nat := 4096

/-- The value that `cp` returns, and what it wrote through `fd_to`. -/
structure Salida where
  codigo : Int
  destino : List UInt8
  deriving DecidableEq, Repr

/-- The answers of `write`, in order. -/
abbrev Escrituras := Nat → Option Nat

variable (write : Escrituras)

/-- The `do while` over one block: `m` counts the calls of `write`. -/
def escribirBloque (buf : List UInt8) : Nat → Nat → Nat → Nat → List UInt8 → Option (Nat × List UInt8)
  | 0, _, _, _, _ => none
  | vueltas + 1, m, nread, outPtr, destino =>
    match write m with
    | none => escribirBloque buf vueltas (m + 1) nread outPtr destino
    | some k =>
      let nwritten := min (max 1 k) nread
      -- `write(fd_to, buf, nread)`: from `buf`, wherever `out_ptr` is
      let destino := destino ++ buf.take nwritten
      if nread - nwritten > 0 then
        escribirBloque buf vueltas (m + 1) (nread - nwritten) (outPtr + nwritten) destino
      else some (m + 1, destino)

/-- `while (nread = read(fd_from, buf, sizeof buf), nread > 0)`. -/
def copiar (vueltas : Nat) : Nat → List UInt8 → Nat → List UInt8 → Option (List UInt8)
  | 0, _, _, _ => none
  | lecturas + 1, origen, m, destino =>
    let buf := origen.take tamBuf
    if buf.length > 0 then
      (escribirBloque write buf vueltas m buf.length 0 destino).bind fun (m, destino) =>
        copiar vueltas lecturas (origen.drop tamBuf) m destino
    else some destino

/-- `from` has no content when it cannot be opened, and `creado` is whether `to` could be created. -/
def cp (creado : Bool) (desde : Option (List UInt8)) (vueltas : Nat) : Option Salida :=
  match desde with
  | none => some ⟨-1, []⟩
  | some origen =>
    if creado then (copiar write vueltas vueltas origen 0 []).map fun destino => ⟨0, destino⟩
    else some ⟨-1, []⟩

/-! ## What the writes accept -/

/-- How much the call of `write` accepts of a source of `total` bytes, `hechos` of which have been
    accepted: not more than what is left of the block. -/
def acepta (total hechos : Nat) : Option Nat → Nat
  | none => 0
  | some k => min (max 1 k) (min (tamBuf - hechos % tamBuf) (total - hechos))

/-- The bytes that the first calls of `write` accept. -/
def aceptados (total : Nat) : Nat → Nat
  | 0 => 0
  | m + 1 => aceptados total m + acepta total (aceptados total m) (write m)

/-- `write` fails from some moment on, with bytes still to be written. -/
def SigueFallando (origen : List UInt8) : Prop :=
  ∃ n, aceptados write origen.length n < origen.length ∧ ∀ m, n ≤ m → write m = none

/-- It returns, with the bytes of the source in the destination when it returns zero, and it does not
    return zero when the writes keep failing. -/
def CopiaExacta (creado : Bool) (desde : Option (List UInt8)) : Prop :=
  ∃ vueltas salida, cp write creado desde vueltas = some salida ∧
    (salida.codigo = 0 → desde = some salida.destino) ∧
    (∀ origen, desde = some origen → SigueFallando write origen → salida.codigo ≠ 0)

/-- The block of the source where a byte is. -/
def bloque (origen : List UInt8) (o : Nat) : List UInt8 := (origen.drop (o / tamBuf * tamBuf)).take tamBuf

/-- What the call of `write` writes, and what it ought to write. -/
def pieza (origen : List UInt8) (m : Nat) : List UInt8 :=
  (bloque origen (aceptados write origen.length m)).take
    (acepta origen.length (aceptados write origen.length m) (write m))

def debida (origen : List UInt8) (m : Nat) : List UInt8 :=
  (origen.drop (aceptados write origen.length m)).take
    (acepta origen.length (aceptados write origen.length m) (write m))

/-- What the first calls of `write` have written. -/
def escrito (origen : List UInt8) : Nat → List UInt8
  | 0 => []
  | m + 1 => escrito origen m ++ pieza write origen m

theorem tamBuf_pos : 0 < tamBuf := by decide

variable {write : Escrituras} {origen : List UInt8} {total m n : Nat}

theorem acepta_le (total hechos : Nat) (r : Option Nat) : acepta total hechos r ≤ total - hechos := by
  cases r with
  | none => exact Nat.zero_le _
  | some k => exact Nat.le_trans (Nat.min_le_right _ _) (Nat.min_le_right _ _)

theorem aceptados_le (write : Escrituras) (total : Nat) : ∀ m, aceptados write total m ≤ total
  | 0 => Nat.zero_le _
  | m + 1 => by
    have hm := aceptados_le write total m
    have hacepta := acepta_le total (aceptados write total m) (write m)
    rw [aceptados]
    omega

theorem aceptados_mono (write : Escrituras) (total : Nat) (h : m ≤ n) :
    aceptados write total m ≤ aceptados write total n := by
  induction h with
  | refl => exact Nat.le_refl _
  | step hmn ih =>
    rw [aceptados]
    omega

/-! ## One block -/

/-- What is read into the buffer in the turn `q` of the outer loop. -/
def leido (origen : List UInt8) (q : Nat) : List UInt8 := (origen.drop (q * tamBuf)).take tamBuf

theorem leido_length (origen : List UInt8) (q : Nat) :
    (leido origen q).length = min tamBuf (origen.length - q * tamBuf) := by
  rw [leido, List.length_take, List.length_drop]

/-- `nread` bytes of the block `q` are still to be accepted after the first `m` answers. -/
structure EnBloque (write : Escrituras) (origen : List UInt8) (q m nread : Nat) : Prop where
  pos : 0 < nread
  cabe : nread ≤ (leido origen q).length
  hechos : aceptados write origen.length m + nread = q * tamBuf + (leido origen q).length

namespace EnBloque

variable {q nread k : Nat} (h : EnBloque write origen q m nread)
include h

theorem resto : ∃ r, r < tamBuf ∧ r + nread = (leido origen q).length ∧
    aceptados write origen.length m = q * tamBuf + r := by
  have hlargo := leido_length origen q
  have hpos := h.pos
  have hcabe := h.cabe
  have hhechos := h.hechos
  refine ⟨(leido origen q).length - nread, ?_, ?_, ?_⟩ <;> omega

theorem acepta_eq (k : Nat) :
    acepta origen.length (aceptados write origen.length m) (some k) = min (max 1 k) nread := by
  obtain ⟨r, hr, hlargo, hm⟩ := h.resto
  rw [leido_length] at hlargo
  have hmod : (q * tamBuf + r) % tamBuf = r := by
    rw [Nat.mul_comm, Nat.mul_add_mod, Nat.mod_eq_of_lt hr]
  rw [hm, acepta, hmod]
  omega

theorem bloque_eq : bloque origen (aceptados write origen.length m) = leido origen q := by
  obtain ⟨r, hr, -, hm⟩ := h.resto
  have hdiv : (q * tamBuf + r) / tamBuf = q := by
    rw [Nat.mul_comm, Nat.mul_add_div tamBuf_pos, Nat.div_eq_of_lt hr, Nat.add_zero]
  rw [hm, bloque, hdiv, leido]

/-- An answer that accepts something writes the piece, and leaves what has not been accepted. -/
theorem escribe (hw : write m = some k) :
    escrito write origen (m + 1) = escrito write origen m ++ (leido origen q).take (min (max 1 k) nread) ∧
      aceptados write origen.length (m + 1) + (nread - min (max 1 k) nread) =
        q * tamBuf + (leido origen q).length := by
  have hhechos := h.hechos
  constructor
  · rw [escrito, pieza, hw, h.bloque_eq, h.acepta_eq]
  · rw [aceptados, hw, h.acepta_eq]
    omega

/-- An error writes nothing. -/
theorem error (hw : write m = none) :
    escrito write origen (m + 1) = escrito write origen m ∧ EnBloque write origen q (m + 1) nread := by
  refine ⟨?_, h.pos, h.cabe, ?_⟩
  · rw [escrito, pieza, hw, acepta, List.take_zero, List.append_nil]
  · rw [aceptados, hw, acepta]
    exact h.hechos

end EnBloque

/-- The inner loop leaves only when the block has been accepted, and has then written the pieces. -/
theorem escribirBloque_sano {q vueltas nread p m' : Nat} {destino : List UInt8}
    (h : EnBloque write origen q m nread)
    (hsale : escribirBloque write (leido origen q) vueltas m nread p (escrito write origen m) =
      some (m', destino)) :
    destino = escrito write origen m' ∧
      aceptados write origen.length m' = q * tamBuf + (leido origen q).length := by
  induction vueltas generalizing m nread p with
  | zero => cases hsale
  | succ vueltas ih =>
    rw [escribirBloque] at hsale
    cases hw : write m with
    | none =>
      obtain ⟨hescrito, h'⟩ := h.error hw
      rw [hw, ← hescrito] at hsale
      exact ih h' hsale
    | some k =>
      obtain ⟨hescrito, hhechos⟩ := h.escribe hw
      simp only [hw, ← hescrito] at hsale
      split at hsale
      case isTrue hqueda =>
        exact ih ⟨hqueda, Nat.le_trans (Nat.sub_le _ _) h.cabe, hhechos⟩ hsale
      case isFalse hnada =>
        cases hsale
        exact ⟨rfl, by omega⟩

/-- When the writes come to accept the whole source, the inner loop leaves. -/
theorem escribirBloque_sale {q vueltas nread M : Nat} (p : Nat) (h : EnBloque write origen q m nread)
    (hM : aceptados write origen.length M = origen.length) (hvueltas : M < m + vueltas) :
    ∃ m', escribirBloque write (leido origen q) vueltas m nread p (escrito write origen m) =
      some (m', escrito write origen m') ∧
        aceptados write origen.length m' = q * tamBuf + (leido origen q).length := by
  suffices hsale : ∃ s, escribirBloque write (leido origen q) vueltas m nread p (escrito write origen m) =
      some s by
    obtain ⟨⟨m', destino⟩, hs⟩ := hsale
    obtain ⟨rfl, hhechos⟩ := escribirBloque_sano h hs
    exact ⟨m', hs, hhechos⟩
  induction vueltas generalizing m nread p with
  | zero =>
    have hmono := aceptados_mono write origen.length (show M ≤ m by omega)
    have hpos := h.pos
    have hhechos := h.hechos
    rw [leido_length] at hhechos
    have hcabe := h.cabe
    rw [leido_length] at hcabe
    omega
  | succ vueltas ih =>
    rw [escribirBloque]
    cases hw : write m with
    | none =>
      obtain ⟨hescrito, h'⟩ := h.error hw
      rw [← hescrito]
      exact ih p h' (by omega)
    | some k =>
      obtain ⟨hescrito, hhechos⟩ := h.escribe hw
      simp only [← hescrito]
      split
      case isTrue hqueda =>
        exact ih _ ⟨hqueda, Nat.le_trans (Nat.sub_le _ _) h.cabe, hhechos⟩ (by omega)
      case isFalse hnada => exact ⟨_, rfl⟩

/-! ## The whole file -/

theorem leido_vacio {q : Nat} (h : ¬(leido origen q).length > 0) : origen.length ≤ q * tamBuf := by
  rw [leido_length] at h
  have hpos := tamBuf_pos
  omega

theorem enBloque_entra {q : Nat} (hleido : (leido origen q).length > 0)
    (hm : aceptados write origen.length m = min (q * tamBuf) origen.length) :
    EnBloque write origen q m (leido origen q).length := by
  refine ⟨hleido, Nat.le_refl _, ?_⟩
  rw [leido_length] at hleido
  omega

theorem bloque_termina {q : Nat}
    (hm : aceptados write origen.length m = q * tamBuf + (leido origen q).length) :
    aceptados write origen.length m = min ((q + 1) * tamBuf) origen.length := by
  have hle := aceptados_le write origen.length m
  rw [leido_length] at hm
  rw [Nat.succ_mul]
  omega

theorem drop_leido (origen : List UInt8) (q : Nat) :
    (origen.drop (q * tamBuf)).drop tamBuf = origen.drop ((q + 1) * tamBuf) := by
  rw [List.drop_drop, Nat.succ_mul]

theorem copiar_sano {q vueltas lecturas : Nat} {destino : List UInt8}
    (hm : aceptados write origen.length m = min (q * tamBuf) origen.length)
    (hsale : copiar write vueltas lecturas (origen.drop (q * tamBuf)) m (escrito write origen m) =
      some destino) :
    ∃ M, aceptados write origen.length M = origen.length ∧ destino = escrito write origen M := by
  induction lecturas generalizing q m with
  | zero => cases hsale
  | succ lecturas ih =>
    rw [copiar] at hsale
    change (if (leido origen q).length > 0 then _ else _) = _ at hsale
    split at hsale
    case isTrue hleido =>
      rw [Option.bind_eq_some_iff] at hsale
      obtain ⟨⟨m', destino'⟩, hbloque, hsigue⟩ := hsale
      obtain ⟨rfl, hm'⟩ := escribirBloque_sano (enBloque_entra hleido hm) hbloque
      rw [drop_leido] at hsigue
      exact ih (bloque_termina hm') hsigue
    case isFalse hleido =>
      cases hsale
      exact ⟨m, by have := leido_vacio hleido; omega, rfl⟩

theorem copiar_sale {q vueltas lecturas M : Nat}
    (hm : aceptados write origen.length m = min (q * tamBuf) origen.length)
    (hM : aceptados write origen.length M = origen.length) (hvueltas : M < vueltas)
    (hq : q ≤ origen.length) (hlecturas : origen.length < q + lecturas) :
    ∃ destino, copiar write vueltas lecturas (origen.drop (q * tamBuf)) m (escrito write origen m) =
      some destino := by
  induction lecturas generalizing q m with
  | zero => omega
  | succ lecturas ih =>
    rw [copiar]
    change ∃ destino, (if (leido origen q).length > 0 then _ else _) = _
    split
    case isTrue hleido =>
      obtain ⟨m', hbloque, hm'⟩ := escribirBloque_sale 0 (enBloque_entra hleido hm) hM
        (show M < m + vueltas by omega)
      have hq' : q + 1 ≤ origen.length := by
        have hbloques : q ≤ q * tamBuf := Nat.le_mul_of_pos_right q tamBuf_pos
        rw [leido_length] at hleido
        omega
      obtain ⟨destino, hdestino⟩ := ih (bloque_termina hm') hq' (by omega)
      refine ⟨destino, ?_⟩
      change (escribirBloque write (leido origen q) _ _ (leido origen q).length _ _).bind _ = _
      rw [hbloque, Option.bind_some, drop_leido]
      exact hdestino
    case isFalse hleido => exact ⟨_, rfl⟩

/-! ## When the copy is exact -/

theorem pieza_length (write : Escrituras) (origen : List UInt8) (m : Nat) :
    (pieza write origen m).length =
      acepta origen.length (aceptados write origen.length m) (write m) := by
  have hle := aceptados_le write origen.length m
  cases hw : write m with
  | none => simp [pieza, hw, acepta]
  | some k =>
    have hbloque := Nat.div_add_mod (aceptados write origen.length m) tamBuf
    rw [Nat.mul_comm] at hbloque
    have hmod := Nat.mod_lt (aceptados write origen.length m) tamBuf_pos
    rw [pieza, bloque, List.length_take, List.length_take, List.length_drop, hw, acepta]
    omega

theorem escrito_length (write : Escrituras) (origen : List UInt8) : ∀ m,
    (escrito write origen m).length = aceptados write origen.length m
  | 0 => rfl
  | m + 1 => by
    rw [escrito, List.length_append, escrito_length write origen m, pieza_length, aceptados]

/-- What has been written is the start of the source while every call writes what it ought to. -/
theorem escrito_eq_take (h : ∀ m, pieza write origen m = debida write origen m) : ∀ m,
    escrito write origen m = origen.take (aceptados write origen.length m)
  | 0 => rfl
  | m + 1 => by rw [escrito, escrito_eq_take h m, h m, debida, aceptados, List.take_add]

theorem escrito_prefix (write : Escrituras) (origen : List UInt8) (h : m ≤ n) :
    escrito write origen m <+: escrito write origen n := by
  induction h with
  | refl => exact List.prefix_rfl
  | step hmn ih => exact ih.trans (List.prefix_append _ _)

/-- Once everything is accepted, what was written is the source exactly when each call wrote its part. -/
theorem escrito_iff {M : Nat} (hM : aceptados write origen.length M = origen.length) :
    escrito write origen M = origen ↔ ∀ m, pieza write origen m = debida write origen m := by
  constructor
  · intro hescrito m
    by_cases hm : m < M
    · have hprefijo : escrito write origen (m + 1) <+: origen := by
        have h := escrito_prefix write origen (show m + 1 ≤ M from hm)
        rwa [hescrito] at h
      obtain ⟨cola, hcola⟩ := hprefijo
      have hresto : origen = escrito write origen m ++ (pieza write origen m ++ cola) := by
        rw [← List.append_assoc]
        exact hcola.symm
      have hdrop : origen.drop (aceptados write origen.length m) = pieza write origen m ++ cola :=
        (congrArg _ hresto).trans (List.drop_left' (escrito_length write origen m))
      rw [debida, hdrop, List.take_left' (pieza_length write origen m)]
    · -- everything has been accepted: both are empty
      have hmono := aceptados_mono write origen.length (show M ≤ m by omega)
      have hacepta := acepta_le origen.length (aceptados write origen.length m) (write m)
      have hcero : acepta origen.length (aceptados write origen.length m) (write m) = 0 := by omega
      rw [pieza, debida, hcero, List.take_zero, List.take_zero]
  · intro h
    rw [escrito_eq_take h, hM, List.take_length]

theorem aceptados_quieto (h : ∀ m, n ≤ m → write m = none) (hm : n ≤ m) :
    aceptados write total m = aceptados write total n := by
  induction hm with
  | refl => rfl
  | step hmn ih => rw [aceptados, h _ hmn, ih, acepta, Nat.add_zero]

theorem aceptados_cero (write : Escrituras) (origen : List UInt8) :
    aceptados write origen.length 0 = min (0 * tamBuf) origen.length := by
  rw [Nat.zero_mul, Nat.zero_min, aceptados]

theorem drop_cero (origen : List UInt8) : origen.drop (0 * tamBuf) = origen := by
  rw [Nat.zero_mul, List.drop_zero]

/-- A copy that is exact has come to its end, each call having written what it ought to. -/
theorem CopiaExacta.piezas (h : CopiaExacta write true (some origen)) :
    (∃ M, aceptados write origen.length M = origen.length) ∧
      ∀ m, pieza write origen m = debida write origen m := by
  obtain ⟨vueltas, salida, hcp, hexacta, -⟩ := h
  obtain ⟨destino, hcopiar, rfl⟩ := Option.map_eq_some_iff.mp hcp
  rw [← drop_cero origen] at hcopiar
  obtain ⟨M, hM, rfl⟩ := copiar_sano (aceptados_cero write origen) hcopiar
  have horigen : escrito write origen M = origen := (Option.some.inj (hexacta rfl)).symm
  exact ⟨⟨M, hM⟩, (escrito_iff hM).mp horigen⟩

/-- The copy is exact, or reports that it is not, exactly when one of the files cannot be opened, or the
    writes come to accept the whole source and the bytes of each accepted piece are those its block
    starts with. -/
theorem copiaExacta_iff (write : Escrituras) (creado : Bool) (desde : Option (List UInt8)) :
    CopiaExacta write creado desde ↔
      creado = false ∨ desde = none ∨ ∃ origen, desde = some origen ∧
        (∃ M, aceptados write origen.length M = origen.length) ∧
        ∀ m, pieza write origen m = debida write origen m := by
  cases desde with
  | none => exact ⟨fun _ => .inr (.inl rfl), fun _ => ⟨0, ⟨-1, []⟩, rfl, by simp, by simp⟩⟩
  | some origen =>
    cases creado with
    | false => exact ⟨fun _ => .inl rfl, fun _ => ⟨0, ⟨-1, []⟩, rfl, by simp, by simp⟩⟩
    | true =>
      constructor
      · exact fun h => .inr (.inr ⟨origen, rfl, h.piezas⟩)
      · rintro (hno | hno | ⟨_, ⟨⟩, ⟨M, hM⟩, hpiezas⟩)
        · cases hno
        · cases hno
        · obtain ⟨destino, hcopiar⟩ := copiar_sale (aceptados_cero write origen) hM
            (show M < M + origen.length + 1 by omega) (Nat.zero_le _)
            (show origen.length < 0 + (M + origen.length + 1) by omega)
          obtain ⟨M', hM', hescrito⟩ := copiar_sano (aceptados_cero write origen) hcopiar
          rw [drop_cero] at hcopiar
          have hdestino : destino = origen := hescrito.trans ((escrito_iff hM').mpr hpiezas)
          refine ⟨M + origen.length + 1, ⟨0, destino⟩, ?_, fun _ => by rw [hdestino], ?_⟩
          · exact Option.map_eq_some_iff.mpr ⟨destino, hcopiar, rfl⟩
          · rintro _ ⟨⟩ ⟨n, hn, hfalla⟩
            -- what fails for ever never comes to accept the whole source
            have hmono := aceptados_mono write origen.length (Nat.le_max_left M n)
            have hquieto : aceptados write origen.length (max M n) = aceptados write origen.length n :=
              aceptados_quieto hfalla (Nat.le_max_right M n)
            have hle := aceptados_le write origen.length (max M n)
            omega

/-- Two bytes that are accepted one at a time: the first is written twice. -/
theorem copiaExacta_corta : ¬CopiaExacta (fun _ => some 1) true (some [1, 2]) := by
  intro h
  have hsegunda := h.piezas.2 1
  revert hsegunda
  decide

end Cp
