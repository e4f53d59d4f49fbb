import Mathlib.Data.List.Induction
import Mathlib.Tactic.Common

/-!
# Paths

A directory is the list of the names from the root to it.  A path is resolved one component after the
other: an empty one and `.` stay, `..` goes up, where the root is its own parent, and any other goes
down.  Nothing is a symbolic link.
-/

namespace Rutas

abbrev Texto := List Char

def paso (dir : List Texto) (c : Texto) : List Texto :=
  if c = [] ∨ c = ['.'] then dir
  else if c = ['.', '.'] then dir.dropLast
  else dir ++ [c]

def recorrer (dir : List Texto) (cs : List Texto) : List Texto := cs.foldl paso dir

/-- What a path denotes from a directory. -/
def resolver (dir : List Texto) (ruta : Texto) : List Texto :=
  recorrer (if ruta.head? = some '/' then [] else dir) (ruta.splitOn '/')

/-- How many directories the components leave, and the names they then go down. -/
def efecto (cs : List Texto) : Nat × List Texto :=
  cs.foldl (fun (k, s) c =>
    if c = [] ∨ c = ['.'] then (k, s)
    else if c = ['.', '.'] then if s = [] then (k + 1, []) else (k, s.dropLast)
    else (k, s ++ [c])) (0, [])

/-- How many directories the path leaves. -/
def sube (ruta : Texto) : Nat := (efecto (ruta.splitOn '/')).1

/-- The directory `k` levels above. -/
def arriba (k : Nat) (dir : List Texto) : List Texto := dir.take (dir.length - k)

variable {dir dir' : List Texto} {ruta : Texto} {cs : List Texto}

theorem recorrer_append (dir : List Texto) (cs cs' : List Texto) :
    recorrer dir (cs ++ cs') = recorrer (recorrer dir cs) cs' := List.foldl_append

theorem arriba_succ (k : Nat) (dir : List Texto) : (arriba k dir).dropLast = arriba (k + 1) dir := by
  unfold arriba
  rw [List.dropLast_eq_take, List.length_take, List.take_take]
  congr 1
  omega

/-- The components leave some directories and then go down, wherever they start. -/
theorem recorrer_eq (dir : List Texto) (cs : List Texto) :
    recorrer dir cs = arriba (efecto cs).1 dir ++ (efecto cs).2 := by
  induction cs using List.reverseRecOn with
  | nil =>
    show dir = arriba 0 dir ++ []
    rw [arriba, Nat.sub_zero, List.take_length, List.append_nil]
  | append_singleton cs c ih =>
    have hefecto : efecto (cs ++ [c]) =
        if c = [] ∨ c = ['.'] then efecto cs
        else if c = ['.', '.'] then
          if (efecto cs).2 = [] then ((efecto cs).1 + 1, []) else ((efecto cs).1, (efecto cs).2.dropLast)
        else ((efecto cs).1, (efecto cs).2 ++ [c]) := by
      unfold efecto
      rw [List.foldl_append]
      rfl
    rw [recorrer_append, ih, hefecto]
    show paso _ c = _
    unfold paso
    split
    · rfl
    · split
      · split
        case isTrue hs => rw [hs, List.append_nil, List.append_nil, arriba_succ]
        case isFalse hs => rw [List.dropLast_append_of_ne_nil hs]
      · rw [List.append_assoc]

/-- Two directories resolve a relative path to the same file exactly when what it does not leave of them
    is the same. -/
theorem recorrer_eq_iff (dir dir' : List Texto) (cs : List Texto) :
    recorrer dir cs = recorrer dir' cs ↔ arriba (efecto cs).1 dir = arriba (efecto cs).1 dir' := by
  rw [recorrer_eq, recorrer_eq dir']
  exact List.append_left_inj _

/-- Directories of different depth have in common only what is above them all. -/
theorem arriba_eq_iff {k : Nat} (h : dir.length < dir'.length) :
    arriba k dir = arriba k dir' ↔ dir'.length ≤ k := by
  constructor
  · intro heq
    have hlargo := congrArg List.length heq
    rw [arriba, arriba, List.length_take, List.length_take] at hlargo
    omega
  · intro hk
    rw [arriba, arriba, Nat.sub_eq_zero_of_le hk, Nat.sub_eq_zero_of_le (by omega), List.take_zero,
      List.take_zero]

/-- Two directories of the same one have in common what is above them. -/
theorem arriba_hermanos {k : Nat} {x y : Texto} (dir : List Texto) :
    arriba k (dir ++ [x]) = arriba k (dir ++ [y]) ↔ x = y ∨ 1 ≤ k := by
  cases k with
  | zero =>
    rw [arriba, arriba, Nat.sub_zero, Nat.sub_zero, List.take_length, List.take_length,
      List.append_right_inj, List.singleton_inj]
    simp
  | succ k =>
    have hcorta : ∀ z : Texto, arriba (k + 1) (dir ++ [z]) = dir.take (dir.length - k) := by
      intro z
      rw [arriba, List.length_append, List.length_singleton, List.take_append_of_le_length (by omega)]
      congr 1
      omega
    rw [hcorta, hcorta]
    simp

/-! ## Texts of directories -/

/-- An absolute path with these components. -/
def texto (cs : List Texto) : Texto := cs.flatMap fun c => '/' :: c

theorem splitOn_texto (cs : List Texto) (h : ∀ c ∈ cs, '/' ∉ c) : (texto cs).splitOn '/' = [] :: cs := by
  induction cs using List.reverseRecOn with
  | nil => rfl
  | append_singleton cs c ih =>
    have htexto : texto (cs ++ [c]) = texto cs ++ '/' :: c := by
      rw [texto, List.flatMap_append, List.flatMap_singleton]
      rfl
    rw [htexto, List.splitOn_append_cons_self, ih fun c hc => h c (List.mem_append_left _ hc),
      List.splitOn_eq_singleton (h c (List.mem_append_right _ (List.mem_singleton_self c)))]
    rfl

theorem head_texto (cs : List Texto) (ruta : Texto) : (texto cs ++ '/' :: ruta).head? = some '/' := by
  cases cs <;> rfl

/-- A path that begins with the text of a directory is resolved from it. -/
theorem resolver_texto (dir : List Texto) {cs : List Texto} (h : ∀ c ∈ cs, '/' ∉ c) (ruta : Texto) :
    resolver dir (texto cs ++ '/' :: ruta) = recorrer (recorrer [] cs) (ruta.splitOn '/') := by
  rw [resolver, if_pos (head_texto cs ruta), List.splitOn_append_cons_self, splitOn_texto cs h,
    recorrer_append]
  rfl

/-- A path that begins with `./` is resolved from the directory where it is. -/
theorem resolver_punto (dir : List Texto) (ruta : Texto) :
    resolver dir ('.' :: '/' :: ruta) = recorrer dir (ruta.splitOn '/') := by
  have hpunto : ('.' :: '/' :: ruta).splitOn '/' = ['.'] :: ruta.splitOn '/' :=
    List.splitOn_append_cons_self ['.'] ruta
  have hcabeza : ('.' :: '/' :: ruta).head? ≠ some '/' := by
    rw [List.head?_cons]
    decide
  rw [resolver, if_neg hcabeza, hpunto]
  rfl

/-- The name of a file: neither empty, nor with a slash, nor one of the two that go nowhere or up. -/
def EsNombre (c : Texto) : Prop := c ≠ [] ∧ '/' ∉ c ∧ c ≠ ['.'] ∧ c ≠ ['.', '.']

instance (c : Texto) : Decidable (EsNombre c) := inferInstanceAs (Decidable (_ ∧ _ ∧ _ ∧ _))

theorem paso_nombre {c : Texto} (h : EsNombre c) (dir : List Texto) : paso dir c = dir ++ [c] := by
  rw [paso, if_neg (by rintro (hc | hc) <;> [exact h.1 hc; exact h.2.2.1 hc]), if_neg h.2.2.2]

theorem recorrer_nombres {cs : List Texto} (h : ∀ c ∈ cs, EsNombre c) (dir : List Texto) :
    recorrer dir cs = dir ++ cs := by
  induction cs generalizing dir with
  | nil => rw [List.append_nil]; rfl
  | cons c cs ih =>
    show recorrer (paso dir c) cs = _
    rw [paso_nombre (h c List.mem_cons_self), ih fun c hc => h c (List.mem_cons_of_mem _ hc),
      List.append_assoc]
    rfl

end Rutas
