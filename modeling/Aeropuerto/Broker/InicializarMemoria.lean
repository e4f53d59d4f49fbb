import Aeropuerto.Biblioteca.Enteros
import Aeropuerto.Biblioteca.Fscanf
import Aeropuerto.Broker.InitParserSegura

/-!
# The initial memory of a group (`Grupo::inicializar_memoria`)

The function reads the init file line after line and writes what each line declares at a pointer that
moves on.  An init file means the concatenation of its declarations, and this is what the memory holds in
the end.
-/

namespace InicializarMemoria

open InitParser Cadenas Fscanf

/-! ## `fscanf` -/

/-- `fscanf(file, "%*[^\n]\n")`, up to where it leaves the file. -/
def primeraLinea (archivo : List UInt8) : List UInt8 :=
  if archivo.head? = some nl then archivo else saltar (archivo.dropWhile (· != nl))

/-- `data` and what is left of the file, unless the input has ended or `data [100]` overflows. -/
inductive Lectura where
  | eof
  | leido (data resto : List UInt8)
  | desborde

/-- `fscanf(file, "%[^\n]\n", data)`. -/
def leerLinea (archivo data : List UInt8) : Lectura :=
  if archivo = [] then .eof
  -- no conversion: data keeps what it had, and nothing is consumed
  else if archivo.head? = some nl then .leido data archivo
  else if (archivo.takeWhile (· != nl)).length < 100 then
    .leido (archivo.takeWhile (· != nl)) (saltar (archivo.dropWhile (· != nl)))
  else .desborde

/-! ## The function -/

/-- The four bytes of an `int`. -/
def bytesDe (v : Int) : List UInt8 := Enteros.bytesLE 4 (v % 2 ^ 32).toNat

/-- `*int_val = v`. -/
def escribir (memoria : List UInt8) (p : Nat) (v : Int) : Option (List UInt8) :=
  if p + 4 ≤ memoria.length then some (memoria.take p ++ bytesDe v ++ memoria.drop (p + 4)) else none

/-- `while (i < vector)`. -/
def escribirVector (v : Int) : Nat → List UInt8 → Nat → Option (List UInt8 × Nat)
  | 0, memoria, p => some (memoria, p)
  | veces + 1, memoria, p => do escribirVector v veces (← escribir memoria p v) (p + 4)

section

variable (nuevo : Nat → List UInt8) (sizeofEquipaje : Nat)

/-- One line; `data` ends at its first zero byte. -/
def linea (parser : Parser) (data memoria : List UInt8) (p : Nat) : Option (Parser × List UInt8 × Nat) := do
  let (parser, _) ← parser.parseLine nuevo sizeofEquipaje (data.takeWhile (· != 0))
  if parser.tipo = tInt then
    let (memoria, p) ← escribirVector parser.valorInt parser.cantVector.toNat memoria p
    return (parser, memoria, p)
  else return (parser, memoria, p)

/-- The reading loop.  `none` is an access outside a buffer or the memory, or no turns left. -/
def bucle : Nat → List UInt8 → List UInt8 → Parser → List UInt8 → Nat → Option (List UInt8)
  | 0, _, _, _, _, _ => none
  | vueltas + 1, archivo, data, parser, memoria, p =>
    match leerLinea archivo data with
    | .eof => some memoria
    | .desborde => none
    | .leido data archivo =>
      (linea nuevo sizeofEquipaje parser data memoria p).bind fun (parser, memoria, p) =>
        bucle vueltas archivo data parser memoria p

inductive Salida where
  | memoria (m : List UInt8)
  -- GenericError
  | noExiste

/-- `inicializar_memoria`; the fields of `parser` that its constructor does not set, and `data`, hold
    anything. -/
def inicializarMemoria (archivo : Option (List UInt8)) (memoria : List UInt8) (parser : Parser)
    (data : List UInt8) (vueltas : Nat) : Option Salida :=
  if memoria.length = 0 then some (.memoria memoria)
  else
    match archivo with
    | none => some .noExiste
    | some archivo =>
      (bucle nuevo sizeofEquipaje vueltas (primeraLinea archivo) data (parser.crear nuevo) memoria 0).map
        .memoria

end

/-! ## What an init file means -/

/-- A decimal number. -/
structure Literal where
  negativo : Bool
  digitos : List (Fin 10)
  noVacio : digitos ≠ []

def Literal.natural (t : Literal) : Nat := t.digitos.foldl (fun n d => 10 * n + d.val) 0

def Literal.valor (t : Literal) : Int := if t.negativo then -t.natural else t.natural

def Literal.texto (t : Literal) : List UInt8 :=
  (if t.negativo then [menos] else []) ++ t.digitos.map fun d => UInt8.ofNat (48 + d.val)

/-- A number that fits in an `int`, or the name of a macro of the table. -/
inductive Tok (sizeofEquipaje : Nat) where
  | literal (t : Literal) (rango : -2 ^ 31 ≤ t.valor ∧ t.valor < 2 ^ 31)
  | constante (i : Fin (constantes sizeofEquipaje).length)

namespace Tok

variable {sizeofEquipaje : Nat}

def valor : Tok sizeofEquipaje → Int
  | .literal t _ => t.valor
  | .constante i => aInt ((constantes sizeofEquipaje).get i).2

def texto : Tok sizeofEquipaje → List UInt8
  | .literal t _ => t.texto
  | .constante i => bytes ((constantes sizeofEquipaje).get i).1

end Tok

/-- `int`, blanks, perhaps a count in brackets with the blanks after it, and a value. -/
structure Declaracion (sizeofEquipaje : Nat) where
  blancos : Nat
  cuenta : Option (Tok sizeofEquipaje × Nat)
  val : Tok sizeofEquipaje
  hayBlancos : 0 < blancos

namespace Declaracion

variable {sizeofEquipaje : Nat}

def textoCuenta : Option (Tok sizeofEquipaje × Nat) → List UInt8
  | none => []
  | some (t, blancos) => abre :: t.texto ++ cierra :: List.replicate blancos blanco

def texto (d : Declaracion sizeofEquipaje) : List UInt8 :=
  bytes "int" ++ List.replicate d.blancos blanco ++ textoCuenta d.cuenta ++ d.val.texto

def veces (d : Declaracion sizeofEquipaje) : Int :=
  match d.cuenta with
  | none => 1
  | some (t, _) => t.valor

/-- The value, as many times as the count says. -/
def denota (d : Declaracion sizeofEquipaje) : List Int := List.replicate d.veces.toNat d.val.valor

end Declaracion

/-- A header, the declarations, each on a line of fewer than 100 characters, and perhaps a last newline. -/
structure Archivo (sizeofEquipaje : Nat) where
  cabecera : List UInt8
  lineas : List (Declaracion sizeofEquipaje)
  final : Bool
  hayCabecera : cabecera ≠ []
  unaLinea : nl ∉ cabecera
  cortas : ∀ d ∈ lineas, d.texto.length < 100

namespace Archivo

variable {sizeofEquipaje : Nat}

def texto (a : Archivo sizeofEquipaje) : List UInt8 :=
  a.cabecera ++ (a.lineas.flatMap fun d => nl :: d.texto) ++ if a.final then [nl] else []

/-- The integers of all its declarations, in order. -/
def denota (a : Archivo sizeofEquipaje) : List Int := a.lineas.flatMap Declaracion.denota

end Archivo

/-! ## The tokens -/

variable {nuevo : Nat → List UInt8} {sizeofEquipaje : Nat}

/-- Neither a delimiter nor a space. -/
def DeToken (c : UInt8) : Prop := esEspacio c = false ∧ c ≠ abre ∧ c ≠ cierra ∧ c ≠ 0

theorem cifra_spec (d : Fin 10) :
    esDigito (cifra d) = true ∧ (cifra d).toNat - 48 = d ∧ cifra d ≠ menos ∧ DeToken (cifra d) := by
  revert d
  unfold DeToken
  decide

theorem takeWhile_cifras (ds : List (Fin 10)) : (ds.map cifra).takeWhile esDigito = ds.map cifra := by
  have happ : (ds.map cifra ++ []).takeWhile esDigito = ds.map cifra ++ [].takeWhile esDigito :=
    List.takeWhile_append_of_pos fun _ => esDigito_cifras
  rwa [List.append_nil, List.takeWhile_nil, List.append_nil] at happ

theorem parseIntVal_literal (t : Literal) : parseIntVal sizeofEquipaje t.texto = t.valor := by
  have hcifras : t.digitos.map (fun d => UInt8.ofNat (48 + d.val)) = t.digitos.map cifra := rfl
  unfold Literal.texto Literal.valor
  rw [hcifras]
  cases hneg : t.negativo with
  | true =>
    show parseIntVal sizeofEquipaje (menos :: t.digitos.map cifra) = _
    have hpos : 1 + ((t.digitos.map cifra).takeWhile esDigito).length =
        (menos :: t.digitos.map cifra).length := by
      rw [takeWhile_cifras, List.length_cons, Nat.add_comm]
    unfold parseIntVal atoi
    simp only [List.head?_cons, if_true, List.drop_one, List.tail_cons]
    rw [if_pos hpos, takeWhile_cifras, natDe_cifras]
    rfl
  | false =>
    show parseIntVal sizeofEquipaje (t.digitos.map cifra) = _
    have hcabeza : (t.digitos.map cifra).head? ≠ some menos := by
      intro h
      rw [List.head?_map, Option.map_eq_some_iff] at h
      obtain ⟨d, -, hd⟩ := h
      exact (cifra_spec d).2.2.1 hd
    unfold parseIntVal atoi
    simp only [if_neg hcabeza, List.drop_zero, Nat.zero_add, takeWhile_cifras, if_true, natDe_cifras]
    rfl

/-- The names of the table, which do not depend on the size of a bag. -/
def nombres : List (List UInt8) := (constantes 0).map fun c => bytes c.1

theorem nombres_nodup : nombres.Nodup := by decide +kernel

theorem nombres_head : ∀ t ∈ nombres, t ≠ [] ∧ t.head? ≠ some menos ∧
    t.head?.map esDigito = some false := by
  decide +kernel

theorem nombres_token : ∀ t ∈ nombres, ∀ c ∈ t, DeToken c := by
  -- over the bytes of the names, not over all bytes
  have htodos : (nombres.all fun t => t.all fun c =>
      !esEspacio c && c != abre && c != cierra && c != 0) = true := by decide +kernel
  intro t ht c hc
  have hbyte := List.all_eq_true.mp (List.all_eq_true.mp htodos t ht) c hc
  simpa only [DeToken, Bool.and_eq_true, Bool.not_eq_true', bne_iff_ne, and_assoc] using hbyte

theorem find_get {α β : Type*} [BEq β] [LawfulBEq β] {f : α → β} {l : List α} (h : (l.map f).Nodup)
    (i : Fin l.length) : l.find? (fun a => f a == f (l.get i)) = some (l.get i) := by
  rw [List.find?_eq_some_iff_getElem]
  refine ⟨beq_self_eq_true _, i, i.2, rfl, fun j hj => ?_⟩
  rw [Bool.not_eq_true', beq_eq_false_iff_ne]
  intro hij
  have hj' : j < (l.map f).length := by rw [List.length_map]; omega
  have hi' : (i : Nat) < (l.map f).length := by rw [List.length_map]; exact i.2
  refine (List.pairwise_iff_getElem.mp h) j i hj' hi' hj ?_
  rw [List.getElem_map, List.getElem_map]
  exact hij

theorem nombre_mem (i : Fin (constantes sizeofEquipaje).length) :
    bytes ((constantes sizeofEquipaje).get i).1 ∈ nombres :=
  List.mem_map_of_mem (f := fun c => bytes c.1) (List.get_mem _ i)

theorem parseIntVal_constante (i : Fin (constantes sizeofEquipaje).length) :
    parseIntVal sizeofEquipaje (bytes ((constantes sizeofEquipaje).get i).1) =
      aInt ((constantes sizeofEquipaje).get i).2 := by
  obtain ⟨hno, hmenos, hdigito⟩ := nombres_head _ (nombre_mem i)
  have hnodup : ((constantes sizeofEquipaje).map fun c => bytes c.1).Nodup := nombres_nodup
  have hfind := find_get hnodup i
  generalize bytes ((constantes sizeofEquipaje).get i).1 = t at hno hmenos hdigito hfind
  cases t with
  | nil => exact absurd rfl hno
  | cons c t =>
    have hc : esDigito c = false := Option.some.inj hdigito
    unfold parseIntVal
    simp only [if_neg hmenos, List.drop_zero, Nat.zero_add]
    rw [List.takeWhile_cons_of_neg (by rw [hc]; exact Bool.false_ne_true),
      if_neg (by rw [List.length_nil, List.length_cons]; omega), hfind]

/-- The parser gives each token its value. -/
theorem parseIntVal_texto (t : Tok sizeofEquipaje) : parseIntVal sizeofEquipaje t.texto = t.valor := by
  cases t with
  | literal t rango => exact parseIntVal_literal t
  | constante i => exact parseIntVal_constante i

theorem texto_token (t : Tok sizeofEquipaje) : t.texto ≠ [] ∧ ∀ c ∈ t.texto, DeToken c := by
  cases t with
  | literal t rango =>
    have hcifras : t.texto = (if t.negativo then [menos] else []) ++ t.digitos.map cifra := rfl
    constructor
    · show t.texto ≠ []
      rw [hcifras]
      exact List.append_ne_nil_of_right_ne_nil _ (by rw [ne_eq, List.map_eq_nil_iff]; exact t.noVacio)
    · intro c hc
      change c ∈ t.texto at hc
      rw [hcifras, List.mem_append] at hc
      rcases hc with hc | hc
      · split at hc
        · rw [List.mem_singleton.mp hc]
          unfold DeToken
          decide
        · cases hc
      · obtain ⟨d, -, rfl⟩ := List.mem_map.mp hc
        exact (cifra_spec d).2.2.2
  | constante i =>
    exact ⟨(nombres_head _ (nombre_mem i)).1, nombres_token _ (nombre_mem i)⟩

/-! ## One line -/

theorem DeToken.ne {c : UInt8} (h : DeToken c) : c ≠ blanco ∧ c ≠ nl := by
  constructor
  · rintro rfl
    exact absurd h.1 (by decide)
  · rintro rfl
    exact absurd h.1 (by decide)

variable {p q : Parser} {m : Nat} {memoria : List UInt8}

theorem reservado_con (h : Reservado q m) {linea tipo val : List UInt8} {cant : Int}
    (hlinea : linea.length = q.linea.length) : Reservado (q.con sizeofEquipaje linea tipo cant val) m := by
  refine ⟨h.menor, fun hm => ?_, fun hm => ?_⟩
  · exact ⟨(h.primero hm).1, hlinea.trans (h.primero hm).2⟩
  · exact ⟨(h.nuevo hm).1, hlinea.trans (h.nuevo hm).2⟩

theorem texto_head (t : Tok sizeofEquipaje) : t.texto.head? ≠ some blanco ∧ t.texto.head? ≠ some abre := by
  obtain ⟨-, htoken⟩ := texto_token t
  constructor
  · intro h
    exact (htoken _ (List.mem_of_head? h)).ne.1 rfl
  · intro h
    exact (htoken _ (List.mem_of_head? h)).2.1 rfl

theorem texto_cero (t : Tok sizeofEquipaje) : 0 ∉ t.texto := fun h => ((texto_token t).2 0 h).2.2.2 rfl

/-- Cutting a declaration. -/
theorem cortar_declaracion (d : Declaracion sizeofEquipaje) (q : Parser) (viejo : List UInt8) :
    ∃ linea fines, q.cortar sizeofEquipaje (d.texto ++ 0 :: viejo) =
        some (q.con sizeofEquipaje linea (bytes "int") d.veces d.val.texto, fines) ∧
      linea.length = (d.texto ++ 0 :: viejo).length := by
  obtain ⟨b, hb⟩ : ∃ b, d.blancos = b + 1 :=
    Nat.exists_eq_succ_of_ne_zero (Nat.pos_iff_ne_zero.mp d.hayBlancos)
  have hint : ∀ c ∈ bytes "int", c ≠ blanco ∧ c ≠ 0 := by decide +kernel
  have hblancos : ∀ k, ∀ c ∈ List.replicate k blanco, c = blanco := fun k c hc => List.eq_of_mem_replicate hc
  obtain ⟨hblanco, habre⟩ := texto_head d.val
  cases hcuenta : d.cuenta with
  | none =>
    have hbuf : d.texto ++ 0 :: viejo =
        bytes "int" ++ blanco :: (List.replicate b blanco ++ (d.val.texto ++ 0 :: viejo)) := by
      rw [Declaracion.texto, hcuenta, hb, List.replicate_succ]
      simp only [Declaracion.textoCuenta, List.append_nil, List.append_assoc, List.cons_append]
    have hveces : d.veces = 1 := by rw [Declaracion.veces, hcuenta]
    rw [hbuf, hveces]
    refine ⟨_, _, cortar_simple hint (hblancos b) hblanco habre (texto_cero d.val), ?_⟩
    simp only [List.length_append, List.length_cons]
  | some tb =>
    obtain ⟨t, blancos⟩ := tb
    have hbuf : d.texto ++ 0 :: viejo =
        bytes "int" ++ blanco :: (List.replicate b blanco ++ abre :: (t.texto ++ cierra ::
          (List.replicate blancos blanco ++ (d.val.texto ++ 0 :: viejo)))) := by
      rw [Declaracion.texto, hcuenta, hb, List.replicate_succ]
      simp only [Declaracion.textoCuenta, List.append_assoc, List.cons_append]
    have hveces : d.veces = parseIntVal sizeofEquipaje t.texto := by
      rw [Declaracion.veces, hcuenta, parseIntVal_texto]
    have htok : ∀ c ∈ t.texto, c ≠ blanco ∧ c ≠ cierra ∧ c ≠ 0 := by
      intro c hc
      have h := (texto_token t).2 c hc
      exact ⟨h.ne.1, h.2.2.1, h.2.2.2⟩
    rw [hbuf, hveces]
    refine ⟨_, _, cortar_vector hint (hblancos b) htok (.inr rfl) (hblancos blancos) hblanco
      (texto_cero d.val), ?_⟩
    simp only [List.length_append, List.length_cons]

/-- What `parse_line` finds in a declaration. -/
theorem parseLine_declaracion (nuevo : Nat → List UInt8) (d : Declaracion sizeofEquipaje)
    (hcorta : d.texto.length < 100) (h : Reservado p m) (hm : m < 100) : ∃ p' fines,
      p.parseLine nuevo sizeofEquipaje d.texto = some (p', fines) ∧ p'.tipo = tInt ∧
        p'.cantVector = d.veces ∧ p'.valorInt = d.val.valor ∧ Reservado p' (max m d.texto.length) := by
  have hcabe : Cabe m d.texto.length := ⟨by omega, by omega⟩
  obtain ⟨q, viejo, hq, hcopia, hlargo, hres, -⟩ := reservar_cabe nuevo h hcabe
  obtain ⟨linea, fines, hcorta, hlinea⟩ := cortar_declaracion d q viejo
  have htipo : q.parseType (bytes "int") = tInt := if_pos rfl
  refine ⟨q.con sizeofEquipaje linea (bytes "int") d.veces d.val.texto, fines, ?_, htipo, rfl, ?_,
    reservado_con hres (hlinea.trans hlargo)⟩
  · rw [Parser.parseLine, hq, Option.bind_eq_bind, Option.bind_some, hcopia, Option.bind_eq_bind,
      Option.bind_some, hcorta]
  · show (if q.parseType (bytes "int") = tInt then parseIntVal sizeofEquipaje d.val.texto
      else q.valorInt) = _
    rw [if_pos htipo, parseIntVal_texto]

/-! ## The memory -/

theorem bytesDe_length (v : Int) : (bytesDe v).length = 4 := Enteros.length_bytesLE 4 _

theorem escribir_eq (hecho resto : List UInt8) (v : Int) (h : 4 ≤ resto.length) :
    escribir (hecho ++ resto) hecho.length v = some (hecho ++ bytesDe v ++ resto.drop 4) := by
  have hcabe : hecho.length + 4 ≤ (hecho ++ resto).length := by
    rw [List.length_append]
    omega
  rw [escribir, if_pos hcabe, List.take_left' rfl, ← List.drop_drop, List.drop_left' rfl]

/-- The integers go one after the other where the pointer was. -/
theorem escribirVector_eq (v : Int) (veces : Nat) (hecho resto : List UInt8) (h : 4 * veces ≤ resto.length) :
    escribirVector v veces (hecho ++ resto) hecho.length =
      some (hecho ++ (List.replicate veces v).flatMap bytesDe ++ resto.drop (4 * veces),
        hecho.length + 4 * veces) := by
  induction veces generalizing hecho resto with
  | zero =>
    rw [escribirVector, List.replicate_zero, List.flatMap_nil, List.append_nil, Nat.mul_zero, List.drop_zero]
    rfl
  | succ veces ih =>
    have hlargo : (hecho ++ bytesDe v).length = hecho.length + 4 := by
      rw [List.length_append, bytesDe_length]
    have hresto : 4 * veces ≤ (resto.drop 4).length := by
      rw [List.length_drop]
      omega
    rw [escribirVector, escribir_eq hecho resto v (by omega), Option.bind_eq_bind, Option.bind_some, ← hlargo,
      ih _ _ hresto, List.replicate_succ, List.flatMap_cons, List.drop_drop, List.append_assoc hecho, hlargo,
      Nat.mul_succ, Nat.add_comm (4 * veces) 4, Nat.add_assoc]

/-- What was written had room, and the pointer is behind it. -/
theorem escribirVector_some {v : Int} {veces pos pos' : Nat} {memoria memoria' : List UInt8}
    (h : escribirVector v veces memoria pos = some (memoria', pos')) :
    pos' = pos + 4 * veces ∧ memoria'.length = memoria.length ∧
      (pos ≤ memoria.length → pos' ≤ memoria.length) := by
  induction veces generalizing memoria pos with
  | zero =>
    cases h
    exact ⟨rfl, rfl, id⟩
  | succ veces ih =>
    obtain ⟨m, hm, h⟩ := Option.bind_eq_some_iff.mp h
    obtain ⟨hpos, hlargo, hdentro⟩ := ih h
    rw [escribir] at hm
    split at hm
    · rename_i hcabe
      cases hm
      have hm : (memoria.take pos ++ bytesDe v ++ memoria.drop (pos + 4)).length = memoria.length := by
        rw [List.length_append, List.length_append, bytesDe_length, List.length_take, List.length_drop]
        omega
      rw [hm] at hlargo hdentro
      exact ⟨by omega, hlargo, fun _ => hdentro hcabe⟩
    · cases hm

/-- The integers are written exactly when they have room. -/
theorem escribirVector_iff (v : Int) (veces : Nat) {memoria : List UInt8} {pos : Nat}
    (hpos : pos ≤ memoria.length) :
    (∃ r, escribirVector v veces memoria pos = some r) ↔ pos + 4 * veces ≤ memoria.length := by
  constructor
  · rintro ⟨⟨memoria', pos'⟩, h⟩
    obtain ⟨rfl, -, hdentro⟩ := escribirVector_some h
    exact hdentro hpos
  · intro h
    have htake : (memoria.take pos).length = pos := List.length_take_of_le hpos
    have hresto : 4 * veces ≤ (memoria.drop pos).length := by
      rw [List.length_drop]
      omega
    have heq := escribirVector_eq v veces (memoria.take pos) (memoria.drop pos) hresto
    rw [htake, List.take_append_drop] at heq
    exact ⟨_, heq⟩

/-! ## The file -/

/-- What follows a line in the file. -/
def cola (lineas : List (Declaracion sizeofEquipaje)) (final : Bool) : List UInt8 :=
  (lineas.flatMap fun d => nl :: d.texto) ++ if final then [nl] else []

theorem bytes_int : bytes "int" = [105, 110, 116] := by decide +kernel

/-- A declaration begins with a letter. -/
theorem texto_cabeza (d : Declaracion sizeofEquipaje) :
    ∃ c resto, d.texto = c :: resto ∧ esEspacio c = false :=
  ⟨105, [110, 116] ++ List.replicate d.blancos blanco ++ Declaracion.textoCuenta d.cuenta ++ d.val.texto,
    by rw [Declaracion.texto, bytes_int]; rfl, rfl⟩

/-- It is on one line. -/
theorem texto_linea (d : Declaracion sizeofEquipaje) : ∀ c ∈ d.texto, c ≠ nl ∧ c ≠ 0 := by
  intro c hc
  have htok : ∀ t : Tok sizeofEquipaje, c ∈ t.texto → c ≠ nl ∧ c ≠ 0 := by
    intro t hc
    have h := (texto_token t).2 c hc
    exact ⟨h.ne.2, h.2.2.2⟩
  have hblanco : ∀ k, c ∈ List.replicate k blanco → c ≠ nl ∧ c ≠ 0 := by
    intro k hc
    rw [List.eq_of_mem_replicate hc]
    decide
  rw [Declaracion.texto, List.mem_append, List.mem_append, List.mem_append] at hc
  rcases hc with ((hc | hc) | hc) | hc
  · have hint : ∀ c ∈ bytes "int", c ≠ nl ∧ c ≠ 0 := by decide +kernel
    exact hint c hc
  · exact hblanco _ hc
  · cases hcuenta : d.cuenta with
    | none =>
      rw [hcuenta] at hc
      cases hc
    | some tb =>
      rw [hcuenta, Declaracion.textoCuenta, List.cons_append, List.mem_cons, List.mem_append,
        List.mem_cons] at hc
      rcases hc with rfl | hc | rfl | hc
      · decide
      · exact htok _ hc
      · decide
      · exact hblanco _ hc
  · exact htok _ hc

theorem saltar_cola_nil (final : Bool) :
    saltar (cola ([] : List (Declaracion sizeofEquipaje)) final) = [] := by
  cases final <;> rfl

theorem saltar_cola_cons (d : Declaracion sizeofEquipaje) (ds : List (Declaracion sizeofEquipaje))
    (final : Bool) : saltar (cola (d :: ds) final) = d.texto ++ cola ds final := by
  obtain ⟨c, resto, hc, hespacio⟩ := texto_cabeza d
  rw [cola, List.flatMap_cons, List.append_assoc, List.cons_append, saltar,
    List.dropWhile_cons_of_pos (by decide)]
  show List.dropWhile esEspacio (d.texto ++ cola ds final) = _
  rw [hc, List.cons_append, List.dropWhile_cons_of_neg (by rw [hespacio]; exact Bool.false_ne_true)]

/-- What begins with a newline or is empty ends the line. -/
theorem partes_cola (h : ∀ c ∈ xs, (c != nl) = true) (ds : List (Declaracion sizeofEquipaje))
    (final : Bool) :
    (xs ++ cola ds final).takeWhile (· != nl) = xs ∧
      (xs ++ cola ds final).dropWhile (· != nl) = cola ds final :=
  partes_append (bne_self_eq_false nl) h (head_lineas Declaracion.texto ds final)

theorem leerLinea_linea (d : Declaracion sizeofEquipaje) (ds : List (Declaracion sizeofEquipaje))
    (final : Bool) (data : List UInt8) (hcorta : d.texto.length < 100) :
    leerLinea (d.texto ++ cola ds final) data = .leido d.texto (saltar (cola ds final)) := by
  obtain ⟨c, resto, hc, hespacio⟩ := texto_cabeza d
  have hlinea : ∀ c ∈ d.texto, (c != nl) = true := fun c hc => bne_iff_ne.mpr (texto_linea d c hc).1
  obtain ⟨htake, hdrop⟩ := partes_cola hlinea ds final
  have hno : (d.texto ++ cola ds final) ≠ [] := by
    rw [hc]
    exact List.cons_ne_nil _ _
  have hcabeza : (d.texto ++ cola ds final).head? ≠ some nl := by
    rw [hc, List.cons_append, List.head?_cons]
    intro h
    rw [Option.some.inj h] at hespacio
    exact absurd hespacio (by decide)
  rw [leerLinea, if_neg hno, if_neg hcabeza, htake, hdrop, if_pos hcorta]

theorem primeraLinea_eq (a : Archivo sizeofEquipaje) :
    primeraLinea a.texto = saltar (cola a.lineas a.final) := by
  have htexto : a.texto = a.cabecera ++ cola a.lineas a.final := by
    rw [Archivo.texto, cola, List.append_assoc]
  have hhead : (a.cabecera ++ cola a.lineas a.final).head? ≠ some nl := by
    cases hc : a.cabecera with
    | nil => exact absurd hc a.hayCabecera
    | cons c resto =>
      rw [List.cons_append, List.head?_cons]
      intro h
      exact a.unaLinea (by rw [hc, Option.some.inj h]; exact List.mem_cons_self)
  rw [primeraLinea, htexto, if_neg hhead, (partes_cola (ne_of_notMem a.unaLinea) _ _).2]

/-! ## The whole file -/

/-- One turn: the declaration is written where the pointer was. -/
theorem linea_eq (nuevo : Nat → List UInt8) (d : Declaracion sizeofEquipaje) (hcorta : d.texto.length < 100)
    (h : Reservado p m) (hm : m < 100) (hecho resto : List UInt8)
    (hcabe : 4 * d.denota.length ≤ resto.length) :
    ∃ p' m', linea nuevo sizeofEquipaje p d.texto (hecho ++ resto) hecho.length =
        some (p', hecho ++ d.denota.flatMap bytesDe ++ resto.drop (4 * d.denota.length),
          (hecho ++ d.denota.flatMap bytesDe).length) ∧ Reservado p' m' ∧ m' < 100 := by
  obtain ⟨p', fines, hparse, htipo, hcant, hval, hres⟩ := parseLine_declaracion nuevo d hcorta h hm
  have hdata : d.texto.takeWhile (· != 0) = d.texto := by
    have happ : (d.texto ++ []).takeWhile (· != 0) = d.texto ++ [].takeWhile (· != 0) :=
      List.takeWhile_append_of_pos fun c hc => bne_iff_ne.mpr (texto_linea d c hc).2
    rwa [List.append_nil, List.takeWhile_nil, List.append_nil] at happ
  have hlargo : ∀ l : List Int, (l.flatMap bytesDe).length = 4 * l.length := by
    intro l
    induction l with
    | nil => rfl
    | cons v l ih =>
      rw [List.flatMap_cons, List.length_append, bytesDe_length, ih, List.length_cons]
      omega
  have hveces : d.denota.length = d.veces.toNat := List.length_replicate
  refine ⟨p', _, ?_, hres, by omega⟩
  rw [hveces] at hcabe
  rw [linea, hdata, hparse, Option.bind_eq_bind, Option.bind_some]
  dsimp only
  rw [if_pos htipo, hcant, hval, escribirVector_eq _ _ _ _ hcabe, Option.bind_eq_bind,
    Option.bind_some, List.length_append, hlargo, hveces]
  rfl

theorem bucle_eq (nuevo : Nat → List UInt8) (ds : List (Declaracion sizeofEquipaje)) (final : Bool)
    (hcortas : ∀ d ∈ ds, d.texto.length < 100) {vueltas : Nat} (hvueltas : ds.length < vueltas)
    (data : List UInt8) (h : Reservado p m) (hm : m < 100) (hecho resto : List UInt8)
    (hcabe : 4 * (ds.flatMap Declaracion.denota).length ≤ resto.length) :
    bucle nuevo sizeofEquipaje vueltas (saltar (cola ds final)) data p (hecho ++ resto) hecho.length =
      some (hecho ++ (ds.flatMap Declaracion.denota).flatMap bytesDe ++
        resto.drop (4 * (ds.flatMap Declaracion.denota).length)) := by
  induction ds generalizing vueltas data p m hecho resto with
  | nil =>
    obtain ⟨v, rfl⟩ : ∃ v, vueltas = v + 1 := Nat.exists_eq_succ_of_ne_zero (by omega)
    rw [saltar_cola_nil, bucle]
    simp [leerLinea]
  | cons d ds ih =>
    obtain ⟨v, rfl⟩ : ∃ v, vueltas = v + 1 := Nat.exists_eq_succ_of_ne_zero (by omega)
    obtain ⟨hd, hds⟩ := List.forall_mem_cons.mp hcortas
    rw [List.flatMap_cons, List.length_append, Nat.mul_add] at hcabe
    obtain ⟨p', m', hlinea, hres, hm'⟩ := linea_eq nuevo d hd h hm hecho resto (by omega)
    rw [saltar_cola_cons, bucle, leerLinea_linea d ds final data hd]
    dsimp only
    rw [hlinea, Option.bind_some]
    dsimp only
    rw [ih hds (by rw [List.length_cons] at hvueltas; omega) _ hres hm' _ _ (by rw [List.length_drop]; omega),
      List.flatMap_cons, List.flatMap_append, List.length_append, List.drop_drop, Nat.mul_add]
    simp only [List.append_assoc]

/-- An init file leaves the memory with the integers of its declarations, in order, and what there was
    behind them. -/
theorem inicializarMemoria_eq (nuevo : Nat → List UInt8) (a : Archivo sizeofEquipaje) (memoria : List UInt8)
    (hcabe : 4 * a.denota.length ≤ memoria.length) (parser : Parser) (data : List UInt8) (vueltas : Nat)
    (hvueltas : a.lineas.length < vueltas) :
    inicializarMemoria nuevo sizeofEquipaje (some a.texto) memoria parser data vueltas =
      some (.memoria (a.denota.flatMap bytesDe ++ memoria.drop (4 * a.denota.length))) := by
  unfold inicializarMemoria
  by_cases hnada : memoria.length = 0
  · -- there is no memory, and the file declares nothing
    have hdenota : a.denota = [] := List.length_eq_zero_iff.mp (by omega)
    rw [if_pos hnada, hdenota, List.flatMap_nil, List.length_nil, Nat.mul_zero,
      List.drop_zero, List.nil_append]
  · rw [if_neg hnada]
    dsimp only
    have hbucle := bucle_eq nuevo a.lineas a.final a.cortas hvueltas data (reservado_crear nuevo parser)
      (by decide) [] memoria hcabe
    rw [List.nil_append, List.length_nil, ← primeraLinea_eq] at hbucle
    rw [hbucle]
    rfl

/-- `int [2] -1` and `int MAX_SCANNERS` after a header of one character. -/
def ejemplo : Archivo 0 where
  cabecera := [35]
  lineas := [
    ⟨1, some (.literal ⟨false, [2], by decide⟩ (by decide), 1), .literal ⟨true, [1], by decide⟩ (by decide),
      by decide⟩,
    ⟨1, none, .constante ⟨13, by decide⟩, by decide⟩]
  final := true
  hayCabecera := by decide
  unaLinea := by decide
  cortas := by decide +kernel

theorem inicializarMemoria_ejemplo :
    inicializarMemoria (fun _ => []) 0 (some ejemplo.texto) (List.replicate 14 7) ⟨[], 0, 0, 0, 1⟩ [] 3 =
      some (.memoria (ejemplo.denota.flatMap bytesDe ++
        (List.replicate 14 7).drop (4 * ejemplo.denota.length))) ∧ ejemplo.denota = [-1, -1, 4] :=
  ⟨inicializarMemoria_eq _ ejemplo _ (by decide) _ _ 3 (by decide), by decide⟩

end InicializarMemoria
