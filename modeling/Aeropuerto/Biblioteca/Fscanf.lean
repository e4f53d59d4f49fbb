import Mathlib.Data.List.TakeWhile
import Aeropuerto.Biblioteca.Cadenas

/-!
# `fscanf`

A format is the list of its directives, and a file the list of the bytes that are still to be read.  A
call ends at the first directive that fails and leaves there the first byte that does not match; it
returns `EOF` only when the input has ended before the first conversion.
-/

namespace Fscanf

open Cadenas

inductive Directiva where
  -- %d
  | entero
  -- %[^\n] and %s, with the size of the buffer
  | linea (tamanio : Nat)
  | palabra (tamanio : Nat)
  | literal (c : UInt8)
  -- white space
  | blancos

/-- What the conversions `%d` of a call have given. -/
inductive Resultado where
  | eof
  | leidos (enteros : List Int)

def saltar (archivo : List UInt8) : List UInt8 := archivo.dropWhile esEspacio

-- '+' and '-'
def esSigno (c : UInt8) : Bool := c == 43 || c == 45

def sinSigno : List UInt8 → List UInt8
  | [] => []
  | c :: cs => if esSigno c then cs else c :: cs

/-- `%d` after the white space.  The number is specified when it is an `int`; a sign alone is read too. -/
def leerEntero (archivo : List UInt8) : Option Int × List UInt8 :=
  let digitos := (sinSigno archivo).takeWhile esDigito
  if digitos = [] then (none, sinSigno archivo)
  else
    (some (if archivo.head? = some 45 then -(natDe digitos : Int) else natDe digitos),
      (sinSigno archivo).dropWhile esDigito)

/-- The end of the input. -/
def fin (hechas : Nat) (enteros : List Int) : Resultado := if hechas = 0 then .eof else .leidos enteros

/-- `hechas` and `enteros` are the conversions made so far.  `none` is a text that does not fit in its
    buffer. -/
def fscanf : List Directiva → List UInt8 → Nat → List Int → Option (Resultado × List UInt8)
  | [], archivo, _, enteros => some (.leidos enteros, archivo)
  | .entero :: formato, archivo, hechas, enteros =>
    if saltar archivo = [] then some (fin hechas enteros, [])
    else
      match leerEntero (saltar archivo) with
      | (none, resto) => some (.leidos enteros, resto)
      | (some v, resto) => fscanf formato resto (hechas + 1) (enteros ++ [v])
  | .linea tamanio :: formato, archivo, hechas, enteros =>
    if archivo = [] then some (fin hechas enteros, [])
    else if archivo.takeWhile (· != nl) = [] then some (.leidos enteros, archivo)
    else if (archivo.takeWhile (· != nl)).length < tamanio then
      fscanf formato (archivo.dropWhile (· != nl)) (hechas + 1) enteros
    else none
  | .palabra tamanio :: formato, archivo, hechas, enteros =>
    if saltar archivo = [] then some (fin hechas enteros, [])
    else if ((saltar archivo).takeWhile (!esEspacio ·)).length < tamanio then
      fscanf formato ((saltar archivo).dropWhile (!esEspacio ·)) (hechas + 1) enteros
    else none
  | .literal c :: formato, archivo, hechas, enteros =>
    match archivo with
    | [] => some (fin hechas enteros, [])
    | d :: resto =>
      if d = c then fscanf formato resto hechas enteros else some (.leidos enteros, d :: resto)
  | .blancos :: formato, archivo, hechas, enteros => fscanf formato (saltar archivo) hechas enteros

/-- The conversions go to the variables in order, and those that are not made leave theirs. -/
def asignar (vars enteros : List Int) : List Int := enteros ++ vars.drop enteros.length

/-- `while (fscanf(file, formato, vars) != EOF)`.  The body says whether it breaks out of the loop.
    `none` is a text that does not fit, or no turns left. -/
def mientrasLea {σ : Type*} (formato : List Directiva) (cuerpo : List Int → σ → σ × Bool) :
    Nat → List UInt8 → List Int → σ → Option σ
  | 0, _, _, _ => none
  | vueltas + 1, archivo, vars, s =>
    match fscanf formato archivo 0 [] with
    | none => none
    | some (.eof, _) => some s
    | some (.leidos enteros, archivo) =>
      match cuerpo (asignar vars enteros) s with
      | (s, true) => some s
      | (s, false) => mientrasLea formato cuerpo vueltas archivo (asignar vars enteros) s

/-! ## Numbers with a colon between them -/

def dosPuntos : UInt8 := 58

/-- `%d:%d` and so on, with `n` colons. -/
def campos : Nat → List Directiva
  | 0 => [.entero]
  | n + 1 => .entero :: .literal dosPuntos :: campos n

/-- `%d:%d\n`, or the same without the white space. -/
def formato (n : Nat) (blancos : Bool) : List Directiva :=
  campos n ++ if blancos then [.blancos] else []

/-- Where the reader is in a record, `quedan` numbers before its last one. -/
inductive Fase where
  | numero (quedan : Nat)
  | signo (quedan : Nat)
  | cifras (quedan : Nat)

/-- A number may begin with white space, a sign or a digit. -/
def empezar (quedan : Nat) (c : UInt8) : Option Fase :=
  if esEspacio c then some (.numero quedan)
  else if esSigno c then some (.signo quedan)
  else if esDigito c then some (.cifras quedan)
  else none

def Fase.siguiente (n : Nat) : Fase → UInt8 → Option Fase
  | .numero quedan, c => empezar quedan c
  | .signo quedan, c => if esDigito c then some (.cifras quedan) else empezar n c
  | .cifras quedan, c =>
    if esDigito c then some (.cifras quedan)
    else if c = dosPuntos ∧ 0 < quedan then some (.numero (quedan - 1))
    else empezar n c

/-- There is nothing but white space, signs, digits and colons, and every colon comes right behind a number
    that is not the last one of its record. -/
def legible (n : Nat) : Fase → List UInt8 → Bool
  | _, [] => true
  | fase, c :: cs =>
    match fase.siguiente n c with
    | some fase => legible n fase cs
    | none => false

/-! ## White space -/

variable {n q : Nat} {archivo resto : List UInt8} {c : UInt8}

theorem saltar_cons_of_espacio (hc : esEspacio c = true) (cs : List UInt8) : saltar (c :: cs) = saltar cs :=
  List.dropWhile_cons_of_pos hc

theorem saltar_cons_of_no (hc : esEspacio c = false) (cs : List UInt8) : saltar (c :: cs) = c :: cs :=
  List.dropWhile_cons_of_neg (by rw [hc]; exact Bool.false_ne_true)

theorem saltar_append {blancos : List UInt8} (h : ∀ c ∈ blancos, esEspacio c = true) (resto : List UInt8) :
    saltar (blancos ++ resto) = saltar resto :=
  List.dropWhile_append_of_pos h

theorem saltar_length_le (archivo : List UInt8) : (saltar archivo).length ≤ archivo.length :=
  (List.dropWhile_suffix _).length_le

theorem saltar_saltar (archivo : List UInt8) : saltar (saltar archivo) = saltar archivo := by
  induction archivo with
  | nil => rfl
  | cons c cs ih =>
    cases hc : esEspacio c with
    | true => rw [saltar_cons_of_espacio hc, ih]
    | false => rw [saltar_cons_of_no hc, saltar_cons_of_no hc]

/-- What is left begins with something else. -/
theorem espacio_of_saltar {cs : List UInt8} (h : saltar archivo = c :: cs) : esEspacio c = false := by
  have hsaltar := saltar_saltar archivo
  rw [h] at hsaltar
  cases hc : esEspacio c with
  | false => rfl
  | true =>
    rw [saltar_cons_of_espacio hc] at hsaltar
    have hlargo := saltar_length_le cs
    rw [hsaltar, List.length_cons] at hlargo
    omega

/-! ## What can be read -/

theorem legible_cons (n : Nat) (fase : Fase) (c : UInt8) (cs : List UInt8) :
    legible n fase (c :: cs) =
      match fase.siguiente n c with
      | some fase => legible n fase cs
      | none => false := rfl

theorem legible_saltar (archivo : List UInt8) :
    legible n (.numero q) (saltar archivo) = legible n (.numero q) archivo := by
  induction archivo with
  | nil => rfl
  | cons c cs ih =>
    cases hc : esEspacio c with
    | true =>
      rw [saltar_cons_of_espacio hc, ih, legible_cons, Fase.siguiente, empezar, if_pos hc]
    | false => rw [saltar_cons_of_no hc]

theorem legible_of_saltar_nil (h : saltar archivo = []) : legible n (.numero q) archivo = true := by
  rw [← legible_saltar, h]
  rfl

/-- Digits go to the same number. -/
theorem legible_cifras_append {ds : List UInt8} (h : ∀ c ∈ ds, esDigito c = true) (resto : List UInt8) :
    legible n (.cifras q) (ds ++ resto) = legible n (.cifras q) resto := by
  induction ds with
  | nil => rfl
  | cons d ds ih =>
    rw [List.cons_append, legible_cons, Fase.siguiente, if_pos (h d List.mem_cons_self)]
    exact ih fun c hc => h c (List.mem_cons_of_mem _ hc)

/-- A number that ends its call, or a sign without a number: the next call begins. -/
theorem legible_fin (hdigito : ∀ c ∈ resto.head?, esDigito c = false)
    (hcolon : ∀ c ∈ resto.head?, ¬(c = dosPuntos ∧ 0 < q)) :
    legible n (.cifras q) resto = legible n (.numero n) resto := by
  cases resto with
  | nil => rfl
  | cons c cs =>
    rw [legible_cons, legible_cons, Fase.siguiente, Fase.siguiente,
      if_neg (by rw [hdigito c rfl]; exact Bool.false_ne_true), if_neg (hcolon c rfl)]

theorem legible_signo (h : resto.takeWhile esDigito = []) :
    legible n (.signo q) resto = legible n (.numero n) resto := by
  cases resto with
  | nil => rfl
  | cons c cs =>
    have hc : ¬esDigito c = true := by
      intro hc
      rw [List.takeWhile_cons_of_pos hc] at h
      cases h
    rw [legible_cons, legible_cons, Fase.siguiente, Fase.siguiente, if_neg hc]

theorem esSigno_espacio (c : UInt8) (hc : esSigno c = true) : esEspacio c = false ∧ esDigito c = false := by
  rw [esSigno, Bool.or_eq_true, beq_iff_eq, beq_iff_eq] at hc
  rcases hc with rfl | rfl <;> decide

theorem esDigito_espacio (c : UInt8) (hc : esDigito c = true) : esEspacio c = false ∧ esSigno c = false := by
  rw [esDigito, Bool.and_eq_true, decide_eq_true_eq, decide_eq_true_eq, UInt8.le_iff_toNat_le,
    UInt8.le_iff_toNat_le] at hc
  obtain ⟨hdesde, hhasta⟩ := hc
  change 48 ≤ c.toNat at hdesde
  have hne : ∀ d : UInt8, d.toNat < 48 → (c == d) = false := by
    intro d hd
    rw [beq_eq_false_iff_ne]
    rintro rfl
    omega
  have hno : decide (c ≤ 13) = false := by
    rw [decide_eq_false_iff_not, UInt8.le_iff_toNat_le]
    change ¬c.toNat ≤ 13
    omega
  rw [esEspacio, esSigno, hne 32 (by decide), hno, hne 43 (by decide), hne 45 (by decide)]
  exact ⟨by simp, rfl⟩

theorem empezar_signo (hc : esSigno c = true) (q : Nat) : empezar q c = some (.signo q) := by
  rw [empezar, if_neg (by rw [(esSigno_espacio c hc).1]; exact Bool.false_ne_true), if_pos hc]

theorem empezar_digito (hc : esDigito c = true) (q : Nat) : empezar q c = some (.cifras q) := by
  obtain ⟨hespacio, hsigno⟩ := esDigito_espacio c hc
  rw [empezar, if_neg (by rw [hespacio]; exact Bool.false_ne_true),
    if_neg (by rw [hsigno]; exact Bool.false_ne_true), if_pos hc]

theorem empezar_otro (hespacio : esEspacio c = false) (hsigno : ¬esSigno c = true)
    (hdigito : ¬esDigito c = true)
    (q : Nat) : empezar q c = none := by
  rw [empezar, if_neg (by rw [hespacio]; exact Bool.false_ne_true), if_neg hsigno, if_neg hdigito]

theorem sinSigno_length_le (archivo : List UInt8) : (sinSigno archivo).length ≤ archivo.length := by
  cases archivo with
  | nil => exact Nat.le_refl _
  | cons c cs =>
    rw [sinSigno]
    split
    · exact Nat.le_succ _
    · exact Nat.le_refl _

/-- `%d` makes no number: a sign or nothing is read. -/
theorem legible_of_leerEntero_none (hespacio : ∀ c ∈ archivo.head?, esEspacio c = false)
    (h : leerEntero archivo = (none, resto)) :
    legible n (.numero q) archivo = legible n (.numero n) resto ∧ resto.length ≤ archivo.length ∧
      (resto.length = archivo.length → archivo ≠ [] → legible n (.numero q) archivo = false) := by
  rw [leerEntero] at h
  split at h
  case isFalse => cases h
  case isTrue hdigitos =>
    cases h
    cases archivo with
    | nil => exact ⟨rfl, Nat.le_refl _, fun _ hno => absurd rfl hno⟩
    | cons c cs =>
      rw [sinSigno] at hdigitos ⊢
      by_cases hsigno : esSigno c = true
      · rw [if_pos hsigno] at hdigitos ⊢
        refine ⟨?_, Nat.le_succ _, fun hlargo => ?_⟩
        · rw [legible_cons, Fase.siguiente, empezar_signo hsigno]
          exact legible_signo hdigitos
        · rw [List.length_cons] at hlargo
          omega
      · rw [if_neg hsigno] at hdigitos ⊢
        have hdigito : ¬esDigito c = true := by
          intro hc
          rw [List.takeWhile_cons_of_pos hc] at hdigitos
          cases hdigitos
        have hatasco : ∀ q, legible n (.numero q) (c :: cs) = false := by
          intro q
          rw [legible_cons, Fase.siguiente, empezar_otro (hespacio c rfl) hsigno hdigito]
        exact ⟨(hatasco q).trans (hatasco n).symm, Nat.le_refl _, fun _ _ => hatasco q⟩

theorem head_dropWhile_digito (archivo : List UInt8) :
    ∀ c ∈ (archivo.dropWhile esDigito).head?, esDigito c = false := by
  intro c hc
  have h := List.head?_dropWhile_not esDigito archivo
  rwa [Option.mem_def.mp hc] at h

/-- Without its sign, a number begins with a digit. -/
theorem legible_sinSigno (h : (sinSigno archivo).takeWhile esDigito ≠ []) :
    legible n (.numero q) archivo = legible n (.cifras q) (sinSigno archivo) := by
  cases archivo with
  | nil => exact absurd rfl h
  | cons c cs =>
    rw [sinSigno] at h ⊢
    by_cases hsigno : esSigno c = true
    · rw [if_pos hsigno] at h ⊢
      rw [legible_cons, Fase.siguiente, empezar_signo hsigno]
      cases cs with
      | nil => exact absurd rfl h
      | cons d ds =>
        have hd : esDigito d = true := by
          by_contra hno
          exact h (List.takeWhile_cons_of_neg hno)
        show legible n (.signo q) (d :: ds) = _
        rw [legible_cons, legible_cons, Fase.siguiente, Fase.siguiente, if_pos hd, if_pos hd]
    · rw [if_neg hsigno] at h ⊢
      have hc : esDigito c = true := by
        by_contra hno
        exact h (List.takeWhile_cons_of_neg hno)
      rw [legible_cons, legible_cons, Fase.siguiente, Fase.siguiente, empezar_digito hc, if_pos hc]

/-- It makes one. -/
theorem legible_of_leerEntero_some {v : Int} (h : leerEntero archivo = (some v, resto)) :
    legible n (.numero q) archivo = legible n (.cifras q) resto ∧
      (∀ c ∈ resto.head?, esDigito c = false) ∧ resto.length < archivo.length := by
  rw [leerEntero] at h
  split at h
  case isTrue => cases h
  case isFalse hdigitos =>
    cases h
    have hpartes := List.takeWhile_append_dropWhile (p := esDigito) (l := sinSigno archivo)
    refine ⟨?_, head_dropWhile_digito _, ?_⟩
    · rw [legible_sinSigno hdigitos]
      conv_lhs => rw [← hpartes]
      exact legible_cifras_append (fun c hc => List.mem_takeWhile_imp hc) _
    · have hlargo := congrArg List.length hpartes
      rw [List.length_append] at hlargo
      have hpos : 0 < ((sinSigno archivo).takeWhile esDigito).length := List.length_pos_iff.mpr hdigitos
      have hsigno := sinSigno_length_le archivo
      omega

/-- What can be read stays so, and what cannot does too.  Only at the end the call gives nothing, and when it
    makes no progress there is something that cannot be read. -/
structure UnaLlamada (n q : Nat) (archivo : List UInt8) (hechas : Nat) (enteros : List Int) (r : Resultado)
    (resto : List UInt8) : Prop where
  legible : legible n (.numero q) archivo = Fscanf.legible n (.numero n) resto
  largo : resto.length ≤ archivo.length
  fin : saltar archivo = [] → r = Fscanf.fin hechas enteros
  leidos : saltar archivo ≠ [] → ∃ leidos, r = .leidos leidos
  atasco : saltar archivo ≠ [] → resto.length = archivo.length →
    Fscanf.legible n (.numero q) archivo = false

theorem fscanf_fin (blancos : Bool) (resto : List UInt8) (hechas : Nat) (enteros : List Int) :
    ∃ resto', fscanf (if blancos then [.blancos] else []) resto hechas enteros =
        some (.leidos enteros, resto') ∧
      resto'.length ≤ resto.length ∧ saltar resto' = saltar resto := by
  cases blancos with
  | true => exact ⟨saltar resto, rfl, saltar_length_le resto, saltar_saltar resto⟩
  | false => exact ⟨resto, rfl, Nat.le_refl _, rfl⟩

/-- Nothing but white space. -/
theorem fscanf_entero_fin (h : saltar archivo = []) (formato : List Directiva) (hechas : Nat)
    (enteros : List Int) :
    fscanf (.entero :: formato) archivo hechas enteros = some (fin hechas enteros, []) := by
  rw [fscanf, if_pos h]

theorem unaLlamada_fin (h : saltar archivo = []) (hechas : Nat) (enteros : List Int) :
    UnaLlamada n q archivo hechas enteros (fin hechas enteros) [] where
  legible := legible_of_saltar_nil h
  largo := Nat.zero_le _
  fin _ := rfl
  leidos hno := absurd h hno
  atasco hno := absurd h hno

/-- A number that is not there. -/
theorem unaLlamada_sin_numero (hno : saltar archivo ≠ [])
    (hleer : leerEntero (saltar archivo) = (none, resto))
    (hechas : Nat) (enteros : List Int) :
    UnaLlamada n q archivo hechas enteros (.leidos enteros) resto := by
  have hespacio : ∀ c ∈ (saltar archivo).head?, esEspacio c = false := by
    intro c hc
    obtain ⟨cs, hcs⟩ := List.head?_eq_some_iff.mp hc
    exact espacio_of_saltar hcs
  obtain ⟨hlegible, hlargo, hatasco⟩ := legible_of_leerEntero_none (n := n) (q := q) hespacio hleer
  rw [legible_saltar] at hlegible hatasco
  have hsaltar := saltar_length_le archivo
  exact ⟨hlegible, hlargo.trans hsaltar, fun h => absurd h hno, fun _ => ⟨enteros, rfl⟩,
    fun _ h => hatasco (by omega) hno⟩

theorem unaLlamada_campos (n : Nat) (blancos : Bool) (q : Nat) (archivo : List UInt8) (hechas : Nat)
    (enteros : List Int) :
    ∃ r resto, fscanf (campos q ++ if blancos then [.blancos] else []) archivo hechas enteros =
        some (r, resto) ∧
      UnaLlamada n q archivo hechas enteros r resto := by
  induction q generalizing archivo hechas enteros with
  | zero =>
    show ∃ r resto, fscanf (.entero :: (if blancos then [.blancos] else [])) _ _ _ = some (r, resto) ∧ _
    by_cases hno : saltar archivo = []
    · exact ⟨_, _, fscanf_entero_fin hno _ _ _, unaLlamada_fin hno _ _⟩
    · rw [fscanf, if_neg hno]
      cases hleer : leerEntero (saltar archivo) with
      | mk v resto =>
        cases v with
        | none => exact ⟨_, _, rfl, unaLlamada_sin_numero hno hleer _ _⟩
        | some v =>
          obtain ⟨hlegible, hdigito, hlargo⟩ := legible_of_leerEntero_some (n := n) (q := 0) hleer
          obtain ⟨resto', hfin, hlargo', hsaltar⟩ := fscanf_fin blancos resto (hechas + 1) (enteros ++ [v])
          have hmenos := saltar_length_le archivo
          refine ⟨_, resto', hfin, ?_, by omega, fun h => absurd h hno, fun _ => ⟨_, rfl⟩,
            fun _ h => by omega⟩
          rw [← legible_saltar, hlegible, legible_fin hdigito fun _ _ h => absurd h.2 (Nat.lt_irrefl 0),
            ← legible_saltar resto', hsaltar, legible_saltar]
  | succ q ih =>
    show ∃ r resto, fscanf (.entero :: .literal dosPuntos :: (campos q ++ if blancos then [.blancos] else []))
      _ _ _ = some (r, resto) ∧ _
    by_cases hno : saltar archivo = []
    · exact ⟨_, _, fscanf_entero_fin hno _ _ _, unaLlamada_fin hno _ _⟩
    · rw [fscanf, if_neg hno]
      cases hleer : leerEntero (saltar archivo) with
      | mk v resto =>
        cases v with
        | none => exact ⟨_, _, rfl, unaLlamada_sin_numero hno hleer _ _⟩
        | some v =>
          obtain ⟨hlegible, hdigito, hlargo⟩ := legible_of_leerEntero_some (n := n) (q := q + 1) hleer
          rw [legible_saltar] at hlegible
          have hmenos := saltar_length_le archivo
          cases resto with
          | nil =>
            exact ⟨_, [], rfl, hlegible.trans rfl, Nat.zero_le _, fun h => absurd h hno, fun _ => ⟨_, rfl⟩,
              fun _ h => by rw [← h] at hmenos; exact absurd hlargo (by omega)⟩
          | cons d ds =>
            rw [List.length_cons] at hlargo
            dsimp only
            rw [fscanf]
            by_cases hd : d = dosPuntos
            · obtain ⟨r, resto', hfscanf, hllamada⟩ := ih ds (hechas + 1) (enteros ++ [v])
              have hlargo' := hllamada.largo
              rw [if_pos hd]
              refine ⟨r, resto', hfscanf, ?_, by omega, fun h => absurd h hno, fun _ => ?_,
                fun _ h => by omega⟩
              · rw [hlegible, ← hllamada.legible, legible_cons, Fase.siguiente,
                  if_neg (by rw [hdigito d rfl]; exact Bool.false_ne_true), if_pos ⟨hd, Nat.succ_pos q⟩]
                rfl
              · by_cases hds : saltar ds = []
                · exact ⟨_, hllamada.fin hds⟩
                · exact hllamada.leidos hds
            · rw [if_neg hd]
              refine ⟨_, _, rfl, ?_, by rw [List.length_cons]; omega, fun h => absurd h hno, fun _ => ⟨_, rfl⟩,
                fun _ h => by rw [List.length_cons] at h; omega⟩
              rw [hlegible, legible_fin hdigito]
              rintro c ⟨⟩ h
              exact hd h.1

theorem unaLlamada (n : Nat) (blancos : Bool) (archivo : List UInt8) :
    ∃ r resto, fscanf (formato n blancos) archivo 0 [] = some (r, resto) ∧
      UnaLlamada n n archivo 0 [] r resto :=
  unaLlamada_campos n blancos n archivo 0 []

/-! ## The loop -/

variable {σ : Type*} {blancos : Bool} {cuerpo : List Int → σ → σ × Bool}

section

variable {enteros vars : List Int} {s : σ}
  (hfscanf : fscanf (formato n blancos) archivo 0 [] = some (.leidos enteros, resto))

include hfscanf

theorem termina_ahora (h : (cuerpo (asignar vars enteros) s).2 = true) :
    ∃ vueltas s', mientrasLea (formato n blancos) cuerpo vueltas archivo vars s = some s' := by
  rcases hcuerpo : cuerpo (asignar vars enteros) s with ⟨s', para⟩
  rw [hcuerpo] at h
  subst h
  refine ⟨1, s', ?_⟩
  rw [mientrasLea, hfscanf]
  dsimp only
  rw [hcuerpo]

theorem termina_despues
    (h : ∀ s', ∃ vueltas s'', mientrasLea (formato n blancos) cuerpo vueltas resto (asignar vars enteros) s' =
      some s'') :
    ∃ vueltas s', mientrasLea (formato n blancos) cuerpo vueltas archivo vars s = some s' := by
  rcases hcuerpo : cuerpo (asignar vars enteros) s with ⟨s', para⟩
  cases para with
  | true => exact termina_ahora hfscanf (by rw [hcuerpo])
  | false =>
    obtain ⟨vueltas, s'', hs''⟩ := h s'
    refine ⟨vueltas + 1, s'', ?_⟩
    rw [mientrasLea, hfscanf]
    dsimp only
    rw [hcuerpo]
    exact hs''

end

/-- Every call but the last one makes progress. -/
theorem termina_of_legible (h : legible n (.numero n) archivo = true) (vars : List Int) (s : σ) :
    ∃ vueltas s', mientrasLea (formato n blancos) cuerpo vueltas archivo vars s = some s' := by
  induction hlargo : archivo.length using Nat.strong_induction_on generalizing archivo vars s with
  | _ largo ih =>
    obtain ⟨r, resto, hfscanf, hllamada⟩ := unaLlamada n blancos archivo
    by_cases hno : saltar archivo = []
    · refine ⟨1, s, ?_⟩
      rw [mientrasLea, hfscanf, hllamada.fin hno]
      rfl
    · obtain ⟨enteros, rfl⟩ := hllamada.leidos hno
      have hmenos : resto.length < archivo.length := by
        refine Nat.lt_of_le_of_ne hllamada.largo fun hig => ?_
        rw [hllamada.atasco hno hig] at h
        cases h
      exact termina_despues hfscanf fun s' => ih resto.length (by omega) (hllamada.legible ▸ h) _ s' rfl

/-- What cannot be read is there at every turn. -/
theorem no_termina (h : legible n (.numero n) archivo = false) (hnunca : ∀ vars s, (cuerpo vars s).2 = false)
    (vueltas : Nat) (vars : List Int) (s : σ) :
    mientrasLea (formato n blancos) cuerpo vueltas archivo vars s = none := by
  induction vueltas generalizing archivo vars s with
  | zero => rfl
  | succ vueltas ih =>
    obtain ⟨r, resto, hfscanf, hllamada⟩ := unaLlamada n blancos archivo
    have hno : saltar archivo ≠ [] := by
      intro hfin
      rw [legible_of_saltar_nil hfin] at h
      cases h
    obtain ⟨enteros, rfl⟩ := hllamada.leidos hno
    have hpara := hnunca (asignar vars enteros) s
    rw [mientrasLea, hfscanf]
    dsimp only
    split
    · rename_i hcuerpo
      rw [hcuerpo] at hpara
      cases hpara
    · exact ih (hllamada.legible ▸ h) _ _

/-- Without `break`, the loop ends exactly when everything can be read. -/
theorem termina_iff (hnunca : ∀ vars s, (cuerpo vars s).2 = false) (vars : List Int) (s : σ) :
    (∃ vueltas s', mientrasLea (formato n blancos) cuerpo vueltas archivo vars s = some s') ↔
      legible n (.numero n) archivo = true := by
  constructor
  · rintro ⟨vueltas, s', hs'⟩
    by_contra h
    rw [no_termina (Bool.eq_false_iff.mpr h) hnunca] at hs'
    cases hs'
  · intro h
    exact termina_of_legible h vars s

/-- Some call on the way gives `v` as its first number. -/
inductive SeLee (n : Nat) (blancos : Bool) (v : Int) : List UInt8 → Prop
  | ahora {archivo resto : List UInt8} {enteros : List Int}
      (h : fscanf (formato n blancos) archivo 0 [] = some (.leidos (v :: enteros), resto)) :
      SeLee n blancos v archivo
  | despues {archivo resto : List UInt8} {enteros : List Int}
      (h : fscanf (formato n blancos) archivo 0 [] = some (.leidos enteros, resto))
      (hresto : SeLee n blancos v resto) : SeLee n blancos v archivo

/-- Where a call makes no progress there is nothing else to read. -/
theorem not_seLee_of_atasco {v : Int}
    (hatasco : fscanf (formato n blancos) archivo 0 [] = some (.leidos [], archivo)) :
    ¬SeLee n blancos v archivo := by
  intro h
  induction h with
  | ahora h =>
    rw [hatasco] at h
    cases h
  | despues h hresto ih =>
    rw [hatasco] at h
    cases h
    exact ih hatasco

/-- A loop that breaks when its first variable is `v`: besides the end, it may stop at a call that gives
    `v`, or at one that leaves the variable as it was. -/
theorem termina_hasta_iff {v : Int} (hpara : ∀ vars s, (cuerpo vars s).2 = true ↔ vars.head? = some v)
    (vars : List Int) (s : σ) :
    (∃ vueltas s', mientrasLea (formato n blancos) cuerpo vueltas archivo vars s = some s') ↔
      legible n (.numero n) archivo = true ∨ SeLee n blancos v archivo ∨
        vars.head? = some v ∧ ∃ resto, fscanf (formato n blancos) archivo 0 [] = some (.leidos [], resto) := by
  constructor
  · rintro ⟨vueltas, s', hs'⟩
    induction vueltas generalizing archivo vars s with
    | zero => cases hs'
    | succ vueltas ih =>
      obtain ⟨r, resto, hfscanf, hllamada⟩ := unaLlamada n blancos archivo
      by_cases hno : saltar archivo = []
      · exact .inl (legible_of_saltar_nil hno)
      obtain ⟨enteros, rfl⟩ := hllamada.leidos hno
      have hcabeza := hpara (asignar vars enteros) s
      rw [mientrasLea, hfscanf] at hs'
      dsimp only at hs'
      rcases hcuerpo : cuerpo (asignar vars enteros) s with ⟨s'', para⟩
      rw [hcuerpo] at hcabeza hs'
      cases para with
      | true =>
        -- the variable has just got the value, or had it
        have hv := hcabeza.mp rfl
        cases enteros with
        | nil => exact .inr (.inr ⟨hv, resto, hfscanf⟩)
        | cons w ws =>
          cases hv
          exact .inr (.inl (.ahora hfscanf))
      | false =>
        rcases ih (asignar vars enteros) s'' hs' with hlee | hlee | ⟨hv, -⟩
        · exact .inl (hllamada.legible.trans hlee)
        · exact .inr (.inl (.despues hfscanf hlee))
        · exact absurd (hcabeza.mpr hv) Bool.false_ne_true
  · rintro (h | h | ⟨hv, resto, hfscanf⟩)
    · exact termina_of_legible h vars s
    · induction h generalizing vars s with
      | ahora hfscanf => exact termina_ahora hfscanf ((hpara _ s).mpr rfl)
      | despues hfscanf hresto ih => exact termina_despues hfscanf fun s' => ih _ s'
    · exact termina_ahora hfscanf ((hpara _ s).mpr hv)

end Fscanf
