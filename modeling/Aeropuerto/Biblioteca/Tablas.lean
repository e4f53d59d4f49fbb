import Aeropuerto.Biblioteca.Fscanf

/-!
# Tables of numbers

A header and lines of numbers with a colon between them.  A loop over `fscanf` reads each line once and in
order, whatever white space there is around the numbers.
-/

namespace Fscanf

open Cadenas

variable {n : Nat} {archivo resto : List UInt8} {σ : Type*} {blancos : Bool}
  {cuerpo : List Int → σ → σ × Bool}

/-- What the body does with the records, up to the first `break`. -/
def recorrer (cuerpo : List Int → σ → σ × Bool) : List (List Int) → σ → σ
  | [], s => s
  | registro :: registros, s =>
    match cuerpo registro s with
    | (s, true) => s
    | (s, false) => recorrer cuerpo registros s

/-- A number of a line, with the white space before it. -/
structure Campo where
  blancos : List UInt8
  -- true is a minus
  signo : Option Bool
  digitos : List (Fin 10)
  soloBlancos : ∀ c ∈ blancos, esEspacio c = true ∧ c ≠ nl
  noVacio : digitos ≠ []

namespace Campo

def textoSigno : Option Bool → List UInt8
  | none => []
  | some false => [43]
  | some true => [45]

def texto (c : Campo) : List UInt8 := c.blancos ++ (textoSigno c.signo ++ c.digitos.map cifra)

def natural (c : Campo) : Nat := c.digitos.foldl (fun n d => 10 * n + d.val) 0

def valor (c : Campo) : Int := if c.signo = some true then -(c.natural : Int) else c.natural

end Campo

def textoCampos : List Campo → List UInt8
  | [] => []
  | [c] => c.texto
  | c :: d :: cs => c.texto ++ dosPuntos :: textoCampos (d :: cs)

/-- A line with `n` colons; its numbers are `int`s. -/
structure Renglon (n : Nat) where
  campos : List Campo
  blancos : List UInt8
  cuantos : campos.length = n + 1
  rango : ∀ c ∈ campos, -2 ^ 31 ≤ c.valor ∧ c.valor < 2 ^ 31
  soloBlancos : ∀ c ∈ blancos, esEspacio c = true ∧ c ≠ nl

namespace Renglon

def texto (r : Renglon n) : List UInt8 := textoCampos r.campos ++ r.blancos

def valores (r : Renglon n) : List Int := r.campos.map Campo.valor

end Renglon

/-- The lines behind the header, and perhaps a last newline. -/
def cola (renglones : List (Renglon n)) (final : Bool) : List UInt8 :=
  (renglones.flatMap fun r => nl :: r.texto) ++ if final then [nl] else []

structure Tabla (n : Nat) where
  cabecera : List UInt8
  renglones : List (Renglon n)
  final : Bool
  unaLinea : nl ∉ cabecera

namespace Tabla

def texto (t : Tabla n) : List UInt8 := t.cabecera ++ cola t.renglones t.final

def registros (t : Tabla n) : List (List Int) := t.renglones.map Renglon.valores

end Tabla

theorem head_digitos {ds : List (Fin 10)} (h : ds ≠ []) (resto : List UInt8) :
    ∃ c cs, ds.map cifra ++ resto = c :: cs ∧ esDigito c = true := by
  cases ds with
  | nil => exact absurd rfl h
  | cons d ds => exact ⟨cifra d, ds.map cifra ++ resto, rfl, (cifra_digito d).1⟩

theorem leerEntero_campo (campo : Campo) (h : ∀ c ∈ resto.head?, esDigito c = false) :
    leerEntero (Campo.textoSigno campo.signo ++ campo.digitos.map cifra ++ resto) =
      (some campo.valor, resto) := by
  obtain ⟨c, cs, hc, hdigito⟩ := head_digitos campo.noVacio resto
  have hsin : sinSigno (Campo.textoSigno campo.signo ++ campo.digitos.map cifra ++ resto) =
      campo.digitos.map cifra ++ resto := by
    rw [List.append_assoc, hc]
    cases campo.signo with
    | none =>
      show sinSigno (c :: cs) = _
      rw [sinSigno, if_neg (by rw [(esDigito_espacio c hdigito).2]; exact Bool.false_ne_true)]
    | some menos => cases menos <;> rfl
  have hmenos : (Campo.textoSigno campo.signo ++ campo.digitos.map cifra ++ resto).head? = some 45 ↔
      campo.signo = some true := by
    rw [List.append_assoc, hc]
    cases campo.signo with
    | none =>
      show some c = some 45 ↔ _
      constructor
      · intro h45
        rw [Option.some.inj h45] at hdigito
        exact absurd hdigito (by decide)
      · rintro ⟨⟩
    | some menos =>
      cases menos with
      | true => exact ⟨fun _ => rfl, fun _ => rfl⟩
      | false =>
        show some 43 = some 45 ↔ _
        exact ⟨fun h => absurd (Option.some.inj h) (by decide), by rintro ⟨⟩⟩
  have hpartes : (campo.digitos.map cifra ++ resto).takeWhile esDigito = campo.digitos.map cifra ∧
      (campo.digitos.map cifra ++ resto).dropWhile esDigito = resto := by
    rw [List.takeWhile_append_of_pos fun _ => esDigito_cifras,
      List.dropWhile_append_of_pos fun _ => esDigito_cifras]
    cases resto with
    | nil => exact ⟨List.append_nil _, rfl⟩
    | cons d ds =>
      have hd : ¬esDigito d = true := by
        rw [h d rfl]
        exact Bool.false_ne_true
      rw [List.takeWhile_cons_of_neg hd, List.dropWhile_cons_of_neg hd, List.append_nil]
      exact ⟨rfl, rfl⟩
  have hno : campo.digitos.map cifra ≠ [] := fun h => campo.noVacio (List.map_eq_nil_iff.mp h)
  rw [leerEntero, hsin, hpartes.1, hpartes.2, natDe_cifras, if_neg hno, Campo.valor]
  simp only [hmenos]
  rfl

theorem saltar_campo (campo : Campo) (resto : List UInt8) :
    saltar (campo.texto ++ resto) = Campo.textoSigno campo.signo ++ campo.digitos.map cifra ++ resto := by
  obtain ⟨c, cs, hc, hdigito⟩ := head_digitos campo.noVacio resto
  rw [Campo.texto, List.append_assoc, List.append_assoc,
    saltar_append fun c hc => (campo.soloBlancos c hc).1, hc]
  cases campo.signo with
  | none => exact saltar_cons_of_no (esDigito_espacio c hdigito).1 cs
  | some menos => cases menos <;> rfl

/-- One line is one call. -/
theorem fscanf_textoCampos (fin : List Directiva) (h : ∀ c ∈ resto.head?, esDigito c = false) (q : Nat)
    (cs : List Campo) (hcs : cs.length = q + 1) (hechas : Nat) (enteros : List Int) :
    fscanf (campos q ++ fin) (textoCampos cs ++ resto) hechas enteros =
      fscanf fin resto (hechas + (q + 1)) (enteros ++ cs.map Campo.valor) := by
  induction q generalizing cs hechas enteros with
  | zero =>
    obtain ⟨c, rfl⟩ := List.length_eq_one_iff.mp hcs
    show fscanf (.entero :: fin) (c.texto ++ resto) hechas enteros = _
    have hno : saltar (c.texto ++ resto) ≠ [] := by
      obtain ⟨d, ds, hd, -⟩ := head_digitos c.noVacio resto
      rw [saltar_campo, List.append_assoc, hd]
      exact List.append_ne_nil_of_right_ne_nil _ (List.cons_ne_nil _ _)
    rw [fscanf, if_neg hno, saltar_campo, leerEntero_campo c h]
    rfl
  | succ q ih =>
    obtain _ | ⟨c, _ | ⟨d, cs⟩⟩ := cs
    · cases hcs
    · cases hcs
    case cons.cons =>
      show fscanf (.entero :: .literal dosPuntos :: (campos q ++ fin))
        (c.texto ++ dosPuntos :: textoCampos (d :: cs) ++ resto) hechas enteros = _
      have hno : saltar (c.texto ++ dosPuntos :: textoCampos (d :: cs) ++ resto) ≠ [] := by
        obtain ⟨e, es, he, -⟩ := head_digitos c.noVacio (dosPuntos :: textoCampos (d :: cs) ++ resto)
        rw [List.append_assoc, saltar_campo, List.append_assoc, he]
        exact List.append_ne_nil_of_right_ne_nil _ (List.cons_ne_nil _ _)
      have hcolon : ∀ c ∈ (dosPuntos :: textoCampos (d :: cs) ++ resto).head?, esDigito c = false := by
        rintro c ⟨⟩
        decide
      rw [fscanf, if_neg hno, List.append_assoc, saltar_campo, leerEntero_campo c hcolon]
      dsimp only
      rw [List.cons_append, fscanf, if_pos rfl, ih (d :: cs) (by simpa using hcs), List.append_assoc]
      congr 1
      omega

theorem fscanf_saltar (n : Nat) (blancos : Bool) (archivo : List UInt8) :
    fscanf (formato n blancos) (saltar archivo) 0 [] = fscanf (formato n blancos) archivo 0 [] := by
  have hformato : ∃ ds, formato n blancos = .entero :: ds := by
    cases n with
    | zero => exact ⟨_, rfl⟩
    | succ n => exact ⟨_, rfl⟩
  obtain ⟨ds, hds⟩ := hformato
  rw [hds, fscanf, fscanf, saltar_saltar]

theorem head_cola (renglones : List (Renglon n)) (final : Bool) :
    cola renglones final = [] ∨ ∃ cs, cola renglones final = nl :: cs :=
  head_lineas Renglon.texto renglones final

/-- The call that reads the first line of those that are left. -/
theorem fscanf_renglon (blancos : Bool) (r : Renglon n) (rs : List (Renglon n)) (final : Bool)
    (h : saltar archivo = saltar (cola (r :: rs) final)) :
    ∃ resto, fscanf (formato n blancos) archivo 0 [] = some (.leidos r.valores, resto) ∧
      saltar resto = saltar (cola rs final) := by
  have hcola : cola (r :: rs) final = nl :: (textoCampos r.campos ++ (r.blancos ++ cola rs final)) := by
    rw [cola, cola, List.flatMap_cons, Renglon.texto]
    simp only [List.cons_append, List.append_assoc]
  have hcabeza : ∀ c ∈ (r.blancos ++ cola rs final).head?, esDigito c = false := by
    intro c hc
    have hespacio : esEspacio c = true := by
      cases hb : r.blancos with
      | nil =>
        rw [hb, List.nil_append] at hc
        rcases head_cola rs final with hnada | ⟨cs, hcs⟩
        · rw [hnada] at hc
          cases hc
        · rw [hcs] at hc
          cases hc
          rfl
      | cons d ds =>
        rw [hb] at hc
        cases hc
        exact (r.soloBlancos _ (hb ▸ List.mem_cons_self)).1
    by_contra hno
    rw [(esDigito_espacio c (by simpa using hno)).1] at hespacio
    cases hespacio
  obtain ⟨resto, hfin, -, hsaltar⟩ := fscanf_fin blancos (r.blancos ++ cola rs final) (0 + (n + 1))
    ([] ++ r.campos.map Campo.valor)
  refine ⟨resto, ?_, ?_⟩
  · rw [← fscanf_saltar, h, hcola, saltar_cons_of_espacio rfl, fscanf_saltar, formato,
      fscanf_textoCampos _ hcabeza n r.campos r.cuantos]
    exact hfin
  · rw [hsaltar, saltar_append fun c hc => (r.soloBlancos c hc).1]

theorem asignar_todas {vars enteros : List Int} (h : enteros.length = vars.length) :
    asignar vars enteros = enteros := by
  rw [asignar, h, List.drop_length, List.append_nil]

/-- The loop goes through the records of a table, once and in order. -/
theorem mientrasLea_cola (rs : List (Renglon n)) (final : Bool) (h : saltar archivo = saltar (cola rs final))
    {vars : List Int} (hvars : vars.length = n + 1) {vueltas : Nat} (hvueltas : rs.length < vueltas) (s : σ) :
    mientrasLea (formato n blancos) cuerpo vueltas archivo vars s =
      some (recorrer cuerpo (rs.map Renglon.valores) s) := by
  induction rs generalizing archivo vars vueltas s with
  | nil =>
    obtain ⟨k, rfl⟩ : ∃ k, vueltas = k + 1 := Nat.exists_eq_succ_of_ne_zero (by omega)
    obtain ⟨r, resto, hfscanf, hllamada⟩ := unaLlamada n blancos archivo
    have hfin : saltar archivo = [] := by
      rw [h]
      cases final <;> rfl
    rw [mientrasLea, hfscanf, hllamada.fin hfin]
    rfl
  | cons r rs ih =>
    obtain ⟨k, rfl⟩ : ∃ k, vueltas = k + 1 := Nat.exists_eq_succ_of_ne_zero (by omega)
    obtain ⟨resto, hfscanf, hresto⟩ := fscanf_renglon blancos r rs final h
    have hlargo : r.valores.length = n + 1 := by rw [Renglon.valores, List.length_map, r.cuantos]
    rw [mientrasLea, hfscanf]
    dsimp only
    rw [asignar_todas (hlargo.trans hvars.symm), List.map_cons, recorrer]
    rcases cuerpo r.valores s with ⟨s', para⟩
    cases para with
    | true => rfl
    | false => exact ih hresto hlargo (by rw [List.length_cons] at hvueltas; omega) s'

theorem recorrer_sin_break (f : σ → List Int → σ) (registros : List (List Int)) (s : σ) :
    recorrer (fun vars s => (f s vars, false)) registros s = registros.foldl f s := by
  induction registros generalizing s with
  | nil => rfl
  | cons r rs ih => exact ih (f s r)

end Fscanf
