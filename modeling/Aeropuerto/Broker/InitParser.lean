import Mathlib.Algebra.Ring.Nat
import Aeropuerto.Biblioteca.Cadenas

/-!
# The lines of an init file (`local_broker/init_parser.cpp`)

`parse_line` copies the line to a buffer of its own, which it replaces when the line is longer than
`size`, and cuts it in place.  `none` is an access outside the buffer or an `int` that overflows.  What a
new buffer holds is arbitrary.
-/

namespace InitParser

open Cadenas

-- ' ', '[', ']' and '-'
def blanco : UInt8 := 32
def abre : UInt8 := 91
def cierra : UInt8 := 93
def menos : UInt8 := 45

def bytes (s : String) : List UInt8 := s.toUTF8.data.toList

/-- The conversion to `int`. -/
def aInt (x : Int) : Int := x.bmod (2 ^ 32)

section

variable (sizeofEquipaje : Nat)

/-- The names that `parse_int_val` compares its argument with, and the values of these macros. -/
def constantes : List (String × Nat) := [
  ("CAPACIDAD_CINTA_CHECKIN", 10),
  ("CAPACIDAD_CINTA_SCANNER", 10),
  ("CAPACIDAD_CINTA_CENTRAL", 10),
  ("CANTIDAD_MAX_PRODUCTORES_CINTA_CHECKIN", 4),
  ("CANTIDAD_MAX_CONSUMIDORES_CINTA_CHECKIN", 1),
  ("CANTIDAD_MAX_PRODUCTORES_CINTA_SCANNER", 1),
  ("CANTIDAD_MAX_CONSUMIDORES_CINTA_SCANNER", 1),
  ("CANTIDAD_MAX_PRODUCTORES_CINTA_CONTENEDOR", 1),
  ("CANTIDAD_MAX_CONSUMIDORES_CINTA_CONTENEDOR", 1),
  ("CANTIDAD_MAX_PRODUCTORES_CINTA_CENTRAL", 6),
  ("CANTIDAD_MAX_CONSUMIDORES_CINTA_CENTRAL", 3),
  ("CANTIDAD_MAX_CINTAS_CONTENEDOR", 8),
  ("CAPACIDAD_CINTA_CONTENEDOR", 10),
  ("MAX_SCANNERS", 4),
  ("ZONAS_POR_ROBOT_DESPACHO", 2),
  ("MAX_ROBOTS_INTERCARGO_ESPERANDO_POR_ZONAS", 10),
  ("MAX_CLIENTS", 50),
  ("TAMANIO_MEMORIA_CINTA_PRINCIPAL", (8 + 6 + 3) * 4 + sizeofEquipaje * 10),
  ("TAMANIO_MEMORIA_CINTA_SCANNER", 4 * 5 + 10 * sizeofEquipaje),
  ("TAMANIO_MEMORIA_CONTROL_CINTA_SCANNER", 4 * 2 + 4 * 4 * 2),
  ("TAMANIO_MEMORIA_CINTA_CARGA", 10 * 4 + 4 * (8 + 8) + sizeofEquipaje * 10),
  ("TAMANIO_MEMORIA_CINTA_CHECKIN", 8 * 4 + 4 * (4 + 1) + 10 * sizeofEquipaje),
  ("TAMANIO_MEMORIA_ZONAS_ASIGNADAS", 4 * (10 + 10)),
  ("MAX_INTERCARGOS_ESPERANDO", 10),
  ("CANT_MUTEX_CENTRAL", 1),
  ("Q_ZONAS", 6),
  ("Q_PUESTOS_CHECKIN", 5),
  ("Q_CONTENEDORES", 4),
  ("Q_TRASBORDO_LISTO", 3),
  ("Q_CHECKINS_CERRADO", 2),
  ("Q_CHECKINS_HABILITADOS", 1),
  ("MTX_CENTRAL", 0)]

/-- `atoi` of a sign and digits; what it returns is specified when the number is an `int`. -/
def atoi (val : List UInt8) : Int :=
  if val.head? = some menos then -(natDe (val.tail.takeWhile esDigito) : Int)
  else natDe (val.takeWhile esDigito)

def parseIntVal (val : List UInt8) : Int :=
  let len := val.length
  let signo := if val.head? = some menos then 1 else 0
  let pos := signo + ((val.drop signo).takeWhile esDigito).length
  if pos = len then atoi val
  else
    match (constantes sizeofEquipaje).find? fun c => bytes c.1 == val with
    | some c => aInt c.2
    | none => 0

end

/-- `tipo` has no value until `parse_type` gives it one: it holds any number. -/
structure Parser where
  linea : List UInt8
  size : Int
  valorInt : Int
  cantVector : Int
  tipo : Nat

/-- `T_INT`. -/
def tInt : Nat := 0

section

-- what a buffer of this many bytes holds when it is new
variable (nuevo : Nat → List UInt8)

def nuevoBufer (n : Nat) : List UInt8 := (nuevo n).takeD n 0

/-- The constructor; the other fields hold anything. -/
def Parser.crear (p : Parser) : Parser := { p with size := 100, linea := nuevoBufer nuevo (100 + 1) }

/-- `if (len > size)`. -/
def Parser.reservar (p : Parser) (line : List UInt8) : Option Parser :=
  let len := aInt line.length
  if len > p.size then
    -- len + 1 is an int
    if len + 1 < 2 ^ 31 then some { p with linea := nuevoBufer nuevo (len + 1).toNat, size := len + 1 }
    else none
  else some p

variable (sizeofEquipaje : Nat)

/-- `tipo` after `parse_type`. -/
def Parser.parseType (p : Parser) (tipo : List UInt8) : Nat := if tipo = bytes "int" then tInt else p.tipo

/-- `vector == NULL` stands for one. -/
def cantidad (linea : List UInt8) : Option Nat → Option Int
  | none => some 1
  | some vector => (cadena linea vector).map (parseIntVal sizeofEquipaje)

/-- The values, once the line has been cut. -/
def Parser.valores (p : Parser) (linea : List UInt8) (vector : Option Nat) (valor : Nat) : Option Parser := do
  let tipo := p.parseType (← cadena linea 0)
  let cantVector ← cantidad sizeofEquipaje linea vector
  -- the switch
  let valorInt ←
    if tipo = tInt then (cadena linea valor).map (parseIntVal sizeofEquipaje) else some p.valorInt
  return { p with linea, tipo, cantVector, valorInt }

/-- The scanning loops; the positions where they stopped are the second result. -/
def Parser.cortar (p : Parser) (linea : List UInt8) : Option (Parser × List Nat) := do
  let pos₁ ← mientras (· != blanco) linea 0
  let linea ← poner linea pos₁ 0
  let pos₂ ← mientras (· == blanco) linea (pos₁ + 1)
  let c ← leer linea pos₂
  if c = abre then
    let pos₃ ← mientras (fun c => c != blanco && c != cierra) linea pos₂
    let linea ← poner linea pos₃ 0
    let pos₄ ← mientras (· == blanco) linea (pos₃ + 1)
    let p ← p.valores sizeofEquipaje linea (some (pos₂ + 1)) pos₄
    return (p, [pos₁, pos₂, pos₃, pos₄])
  else
    let p ← p.valores sizeofEquipaje linea none pos₂
    return (p, [pos₁, pos₂])

def Parser.parseLine (p : Parser) (line : List UInt8) : Option (Parser × List Nat) := do
  let p ← p.reservar nuevo line
  let linea ← strcpy p.linea line
  p.cortar sizeofEquipaje linea

end

/-! ## Lines that are cut as they should -/

variable {sizeofEquipaje : Nat} {p : Parser} {tipo blancos blancos' resto tok val viejo : List UInt8}
  {fin : UInt8}

/-- The values of a line with these parts. -/
def Parser.con (p : Parser) (sizeofEquipaje : Nat) (linea tipo : List UInt8) (cantVector : Int)
    (val : List UInt8) : Parser :=
  { p with
    linea, cantVector
    tipo := p.parseType tipo
    valorInt := if p.parseType tipo = tInt then parseIntVal sizeofEquipaje val else p.valorInt }

/-- What stands first in a string that begins with neither a blank nor a bracket, or is empty. -/
theorem cabeza (h : resto.head? ≠ some blanco) (viejo : List UInt8) :
    ∃ c cola, resto ++ 0 :: viejo = c :: cola ∧ (c == blanco) = false ∧
      (c = abre → resto.head? = some abre) := by
  cases resto with
  | nil => exact ⟨0, viejo, rfl, rfl, fun hc => absurd hc (by decide)⟩
  | cons c cola =>
    refine ⟨c, cola ++ 0 :: viejo, rfl, ?_, fun hc => by rw [hc]; rfl⟩
    rw [beq_eq_false_iff_ne]
    rintro rfl
    exact h rfl

theorem valores_eq {linea : List UInt8} {vector : Option Nat} {valor : Nat} {cant : Int}
    (htipo : cadena linea 0 = some tipo) (hcant : cantidad sizeofEquipaje linea vector = some cant)
    (hval : cadena linea valor = some val) :
    p.valores sizeofEquipaje linea vector valor = some (p.con sizeofEquipaje linea tipo cant val) := by
  simp only [Parser.valores, htipo, hcant, hval, Option.bind_eq_bind, Option.bind_some, Option.map_some,
    Parser.con]
  split <;> rfl

/-- The line as it is left, and where the loops stopped, when there is no bracket. -/
theorem cortar_simple (htipo : ∀ c ∈ tipo, c ≠ blanco ∧ c ≠ 0) (hblancos : ∀ c ∈ blancos, c = blanco)
    (hresto : resto.head? ≠ some blanco) (habre : resto.head? ≠ some abre) (hcero : 0 ∉ resto) :
    p.cortar sizeofEquipaje (tipo ++ blanco :: (blancos ++ (resto ++ 0 :: viejo))) =
      some (p.con sizeofEquipaje (tipo ++ 0 :: (blancos ++ (resto ++ 0 :: viejo))) tipo 1 resto,
        [tipo.length, tipo.length + 1 + blancos.length]) := by
  obtain ⟨c, cola, hcola, hc, hcabre⟩ := cabeza hresto viejo
  have h₁ : mientras (· != blanco) (tipo ++ blanco :: (blancos ++ (resto ++ 0 :: viejo))) 0 =
      some tipo.length :=
    mientras_para_cero (fun c hc => bne_iff_ne.mpr (htipo c hc).1) (bne_self_eq_false blanco) _
  have h₂ : mientras (· == blanco) (tipo ++ 0 :: (blancos ++ (resto ++ 0 :: viejo))) (tipo.length + 1) =
      some (tipo.length + 1 + blancos.length) := by
    rw [List.append_cons, hcola]
    exact mientras_para (List.length_append) (fun c hc => beq_iff_eq.mpr (hblancos c hc)) hc cola
  have hleer : leer (tipo ++ 0 :: (blancos ++ (resto ++ 0 :: viejo))) (tipo.length + 1 + blancos.length) =
      some c := by
    rw [List.append_cons, hcola, ← List.append_assoc]
    refine leer_append ?_ cola c
    rw [List.length_append, List.length_append]
    rfl
  have hno : c ≠ abre := fun h => habre (hcabre h)
  have hvalores : p.valores sizeofEquipaje (tipo ++ 0 :: (blancos ++ (resto ++ 0 :: viejo))) none
      (tipo.length + 1 + blancos.length) =
      some (p.con sizeofEquipaje (tipo ++ 0 :: (blancos ++ (resto ++ 0 :: viejo))) tipo 1 resto) := by
    refine valores_eq (cadena_cero (fun h => (htipo 0 h).2 rfl) _) rfl ?_
    rw [List.append_cons, ← List.append_assoc]
    refine cadena_append ?_ hcero viejo
    rw [List.length_append, List.length_append]
    rfl
  simp only [Parser.cortar, h₁, poner_append rfl, h₂, hleer, if_neg hno, hvalores, Option.bind_eq_bind,
    Option.bind_some]
  rfl

/-- The buffer with a count, from the parts before it. -/
theorem partes_vector (tipo blancos tok cola : List UInt8) :
    tipo ++ 0 :: (blancos ++ abre :: (tok ++ cola)) = tipo ++ [0] ++ blancos ++ [abre] ++ tok ++ cola := by
  simp only [List.append_assoc, List.cons_append, List.nil_append]

/-- The line as it is left when there is a count, which ends at `fin`. -/
theorem cortar_vector (htipo : ∀ c ∈ tipo, c ≠ blanco ∧ c ≠ 0) (hblancos : ∀ c ∈ blancos, c = blanco)
    (htok : ∀ c ∈ tok, c ≠ blanco ∧ c ≠ cierra ∧ c ≠ 0) (hfin : fin = blanco ∨ fin = cierra)
    (hblancos' : ∀ c ∈ blancos', c = blanco) (hval : val.head? ≠ some blanco) (hcero : 0 ∉ val) :
    p.cortar sizeofEquipaje
        (tipo ++ blanco :: (blancos ++ abre :: (tok ++ fin :: (blancos' ++ (val ++ 0 :: viejo))))) =
      some (p.con sizeofEquipaje
          (tipo ++ 0 :: (blancos ++ abre :: (tok ++ 0 :: (blancos' ++ (val ++ 0 :: viejo))))) tipo
          (parseIntVal sizeofEquipaje tok) val,
        [tipo.length, tipo.length + 1 + blancos.length, tipo.length + 1 + blancos.length + 1 + tok.length,
          tipo.length + 1 + blancos.length + 1 + tok.length + 1 + blancos'.length]) := by
  obtain ⟨c, cola, hcola, hc, -⟩ := cabeza hval viejo
  have hantes : (tipo ++ [0] ++ blancos).length = tipo.length + 1 + blancos.length := by
    rw [List.length_append, List.length_append, List.length_singleton]
  have hantes' : (tipo ++ [0] ++ blancos ++ [abre] ++ tok).length =
      tipo.length + 1 + blancos.length + 1 + tok.length := by
    rw [List.length_append, List.length_append, hantes, List.length_singleton]
  have h₁ : mientras (· != blanco)
      (tipo ++ blanco :: (blancos ++ abre :: (tok ++ fin :: (blancos' ++ (val ++ 0 :: viejo))))) 0 =
      some tipo.length :=
    mientras_para_cero (fun c hc => bne_iff_ne.mpr (htipo c hc).1) (bne_self_eq_false blanco) _
  have h₂ : mientras (· == blanco)
      (tipo ++ 0 :: (blancos ++ abre :: (tok ++ fin :: (blancos' ++ (val ++ 0 :: viejo)))))
      (tipo.length + 1) = some (tipo.length + 1 + blancos.length) := by
    rw [List.append_cons]
    exact mientras_para List.length_append (fun c hc => beq_iff_eq.mpr (hblancos c hc)) rfl _
  have hleer : leer (tipo ++ 0 :: (blancos ++ abre :: (tok ++ fin :: (blancos' ++ (val ++ 0 :: viejo)))))
      (tipo.length + 1 + blancos.length) = some abre := by
    rw [List.append_cons, ← List.append_assoc]
    exact leer_append hantes _ _
  have h₃ : mientras (fun c => c != blanco && c != cierra)
      (tipo ++ 0 :: (blancos ++ abre :: (tok ++ fin :: (blancos' ++ (val ++ 0 :: viejo)))))
      (tipo.length + 1 + blancos.length) = some (tipo.length + 1 + blancos.length + 1 + tok.length) := by
    rw [List.append_cons, ← List.append_assoc, ← List.cons_append]
    refine (mientras_para hantes ?_ ?_ _).trans ?_
    · intro c hc
      rcases List.mem_cons.mp hc with rfl | hc
      · rfl
      · simp [(htok c hc).1, (htok c hc).2.1]
    · rcases hfin with rfl | rfl <;> rfl
    · rw [List.length_cons]
      congr 1
      omega
  have hponer : poner (tipo ++ 0 :: (blancos ++ abre :: (tok ++ fin :: (blancos' ++ (val ++ 0 :: viejo)))))
      (tipo.length + 1 + blancos.length + 1 + tok.length) 0 =
      some (tipo ++ 0 :: (blancos ++ abre :: (tok ++ 0 :: (blancos' ++ (val ++ 0 :: viejo))))) := by
    rw [partes_vector, partes_vector]
    exact poner_append hantes' _ _ _
  have h₄ : mientras (· == blanco)
      (tipo ++ 0 :: (blancos ++ abre :: (tok ++ 0 :: (blancos' ++ (val ++ 0 :: viejo)))))
      (tipo.length + 1 + blancos.length + 1 + tok.length + 1) =
      some (tipo.length + 1 + blancos.length + 1 + tok.length + 1 + blancos'.length) := by
    rw [partes_vector, List.append_cons, hcola]
    refine mientras_para ?_ (fun c hc => beq_iff_eq.mpr (hblancos' c hc)) hc cola
    rw [List.length_append, hantes', List.length_singleton]
  have hvalores : p.valores sizeofEquipaje
      (tipo ++ 0 :: (blancos ++ abre :: (tok ++ 0 :: (blancos' ++ (val ++ 0 :: viejo)))))
      (some (tipo.length + 1 + blancos.length + 1))
      (tipo.length + 1 + blancos.length + 1 + tok.length + 1 + blancos'.length) =
      some (p.con sizeofEquipaje
        (tipo ++ 0 :: (blancos ++ abre :: (tok ++ 0 :: (blancos' ++ (val ++ 0 :: viejo))))) tipo
        (parseIntVal sizeofEquipaje tok) val) := by
    refine valores_eq (cadena_cero (fun h => (htipo 0 h).2 rfl) _)
      (Option.map_eq_some_iff.mpr ⟨tok, ?_, rfl⟩) ?_
    · rw [partes_vector, List.append_assoc]
      refine cadena_append ?_ (fun h => (htok 0 h).2.2 rfl) _
      rw [List.length_append, hantes, List.length_singleton]
    · rw [partes_vector, List.append_cons, ← List.append_assoc]
      refine cadena_append ?_ hcero viejo
      rw [List.length_append, List.length_append, hantes', List.length_singleton]
  simp only [Parser.cortar, h₁, poner_append rfl, h₂, hleer, if_pos, h₃, hponer, h₄, hvalores,
    Option.bind_eq_bind, Option.bind_some]
  rfl

end InitParser
