import Aeropuerto.Biblioteca.Tablas
import Aeropuerto.Broker.InicializarMemoria

/-!
# The processes that read tables (`scheduler_vuelos.cpp`, `generador_pasajeros.cpp`,
# `controlador_puesto_checkin.cpp` and `Grupo::inicializar_memoria`)

Each of them reads the header with one `fscanf` and the rest in a loop that ends at `EOF`.  The variables of
the loop hold anything at the beginning.
-/

namespace Lectores

open Cadenas Fscanf

/-! ## The functions -/

/-- `"%[^\n]s\n"`, with `char primera_linea[255]`. -/
def cabeceraLinea : List Directiva := [.linea 255, .literal 115, .blancos]

/-- `"%s"`, with `char primera_linea[MAX_PATH_SIZE]`. -/
def cabeceraPalabra : List Directiva := [.palabra 300]

/-- What the `fscanf` of the header leaves. -/
def leerCabecera (cabecera : List Directiva) (archivo : List UInt8) : Option (List UInt8) :=
  (fscanf cabecera archivo 0 []).map Prod.snd

structure TaskVuelo where
  time : Int
  numVuelo : Int

structure Equipaje where
  rfid : Int
  numeroDeVueloDestino : Int
  peso : Int

def taskVuelo (vars : List Int) : TaskVuelo := ⟨vars.getD 0 0, vars.getD 1 0⟩

/-- `cargar_vuelos` of `scheduler_vuelos.cpp`. -/
def cargarVuelos (time numVuelo : Int) (vueltas : Nat) (archivo : List UInt8) : Option (List TaskVuelo) :=
  (leerCabecera cabeceraLinea archivo).bind fun archivo =>
    mientrasLea (formato 1 true) (fun vars list => (taskVuelo vars :: list, false)) vueltas archivo
      [time, numVuelo] []

/-- `get_pasajeros` of `generador_pasajeros.cpp`. -/
def getPasajeros (numVuelo idPasajero numVueloAsignado : Int) (vueltas : Nat) (archivo : List UInt8) :
    Option (List Int) :=
  (leerCabecera cabeceraLinea archivo).bind fun archivo =>
    mientrasLea (formato 1 true)
      (fun vars idPasajeros =>
        (if vars.getD 1 0 = numVuelo then vars.getD 0 0 :: idPasajeros else idPasajeros, false))
      vueltas archivo [idPasajero, numVueloAsignado] []

/-- `get_equipajes`; `azar k` is what `rand()%TOPE_PESO_VALIJA` gives for the bag `k`. -/
def getEquipajes (numVuelo numPasajero : Int) (azar : Nat → Int) (rfid pasajero vuelo : Int) (vueltas : Nat)
    (archivo : List UInt8) : Option (List Equipaje) :=
  (leerCabecera cabeceraLinea archivo).bind fun archivo =>
    mientrasLea (formato 2 true)
      (fun vars equipajes =>
        (if vars.getD 2 0 = numVuelo ∧ vars.getD 1 0 = numPasajero then
          equipajes ++ [⟨vars.getD 0 0, vars.getD 2 0, azar equipajes.length⟩]
        else equipajes, false))
      vueltas archivo [rfid, pasajero, vuelo] []

/-- `obtener_cantidad_equipaje_intercargo` of `controlador_puesto_checkin.cpp`. -/
def obtenerCantidadEquipajeIntercargo (numeroDeVuelo vueloDestino totalEquipajes : Int) (vueltas : Nat)
    (archivo : List UInt8) : Option Int :=
  (leerCabecera cabeceraPalabra archivo).bind fun archivo =>
    mientrasLea (formato 1 false)
      (fun vars cantidadEquipajes =>
        if vars.head? = some numeroDeVuelo then (vars.getD 1 0, true) else (cantidadEquipajes, false))
      vueltas archivo [vueloDestino, totalEquipajes] 0

/-- The loop of `inicializar_memoria`, behind the first line. -/
def inicializarMemoria (nuevo : Nat → List UInt8) (sizeofEquipaje : Nat) (parser : InitParser.Parser)
    (data memoria : List UInt8) (vueltas : Nat) (archivo : List UInt8) : Option (List UInt8) :=
  InicializarMemoria.bucle nuevo sizeofEquipaje vueltas (InicializarMemoria.primeraLinea archivo) data
    (parser.crear nuevo) memoria 0

/-! ## What a table means for each of them -/

def vuelosDe (registros : List (List Int)) : List TaskVuelo := (registros.map taskVuelo).reverse

def pasajerosDe (numVuelo : Int) (registros : List (List Int)) : List Int :=
  ((registros.filter fun r => r.getD 1 0 = numVuelo).map fun r => r.getD 0 0).reverse

def equipajesDe (numVuelo numPasajero : Int) (azar : Nat → Int) (registros : List (List Int)) :
    List Equipaje :=
  (registros.filter fun r => r.getD 2 0 = numVuelo ∧ r.getD 1 0 = numPasajero).mapIdx fun k r =>
    ⟨r.getD 0 0, r.getD 2 0, azar k⟩

/-- The first match. -/
def cantidadDe (numeroDeVuelo : Int) (registros : List (List Int)) : Int :=
  match registros.find? fun r => r.head? = some numeroDeVuelo with
  | some r => r.getD 1 0
  | none => 0

/-- The reader comes to an end, and of a table it reads each record once and in order. -/
structure LeeBien {ρ : Type} (n : Nat) (leer : Nat → List UInt8 → Option ρ) (de : List (List Int) → ρ)
    (archivo : List UInt8) : Prop where
  termina : ∃ vueltas r, leer vueltas archivo = some r
  registros : ∀ t : Tabla n, t.texto = archivo → ∃ vueltas, leer vueltas archivo = some (de t.registros)

/-- A line of an init file; the white space before it may be in lines of its own. -/
structure LineaInit where
  blancos : List UInt8
  texto : List UInt8
  soloBlancos : ∀ c ∈ blancos, esEspacio c = true
  empieza : ∀ c ∈ texto.head?, esEspacio c = false
  noVacia : texto ≠ []
  unaLinea : nl ∉ texto

def colaInit (lineas : List LineaInit) (final : Bool) : List UInt8 :=
  (lineas.flatMap fun l => nl :: (l.blancos ++ l.texto)) ++ if final then [nl] else []

/-- What `data` holds in the turns of the loop. -/
def lineasLeidas : Nat → List UInt8 → List UInt8 → Option (List (List UInt8))
  | 0, _, _ => none
  | vueltas + 1, archivo, data =>
    match InicializarMemoria.leerLinea archivo data with
    | .eof => some []
    | .desborde => none
    | .leido data archivo => (lineasLeidas vueltas archivo data).map (data :: ·)

/-- `data` ends at its first zero byte. -/
def hastaCero (data : List UInt8) : InitParser.Linea :=
  ⟨data.takeWhile (· != 0), fun h => absurd (List.mem_takeWhile_imp h) (by decide)⟩

/-- What the loop does with these lines, one after the other. -/
def declarar (nuevo : Nat → List UInt8) (sizeofEquipaje : Nat) (parser : InitParser.Parser)
    (memoria : List UInt8) (p : Nat) (lineas : List (List UInt8)) : Option (List UInt8) :=
  (lineas.foldlM (fun (s : InitParser.Parser × List UInt8 × Nat) data =>
    InicializarMemoria.linea nuevo sizeofEquipaje s.1 data s.2.1 s.2.2) (parser, memoria, p)).map fun s => s.2.1

/-- The loop of `inicializar_memoria` comes to an end, `parse_line` keeps to each line that it is given, and
    the lines behind the header are given to it once and in order. -/
structure LeeLineas (nuevo : Nat → List UInt8) (sizeofEquipaje : Nat) (parser : InitParser.Parser)
    (data memoria archivo : List UInt8) : Prop where
  termina : ∃ vueltas m, inicializarMemoria nuevo sizeofEquipaje parser data memoria vueltas archivo = some m
  dentro : ∀ vueltas lineas,
    lineasLeidas vueltas (InicializarMemoria.primeraLinea archivo) data = some lineas →
      InitParser.Dentro nuevo sizeofEquipaje (parser.crear nuevo) (lineas.map hastaCero)
  registros : ∀ cabecera lineas final, nl ∉ cabecera → cabecera ++ colaInit lineas final = archivo →
    ∃ vueltas m, inicializarMemoria nuevo sizeofEquipaje parser data memoria vueltas archivo = some m ∧
      declarar nuevo sizeofEquipaje (parser.crear nuevo) memoria 0 (lineas.map LineaInit.texto) = some m

/-! ## When they do -/

/-- The header fits in `primera_linea`. -/
def CabeCabecera (archivo : List UInt8) : Prop := (archivo.takeWhile (· != nl)).length < 255

/-- Behind the header. -/
def tras (archivo : List UInt8) : List UInt8 := archivo.dropWhile (· != nl)

/-- The first word fits. -/
def CabePalabra (archivo : List UInt8) : Prop :=
  ((saltar archivo).takeWhile (!esEspacio ·)).length < 300

/-- Behind the first word. -/
def trasPalabra (archivo : List UInt8) : List UInt8 := (saltar archivo).dropWhile (!esEspacio ·)

/-- Behind every newline and the white space after it, the line has fewer than 100 bytes. -/
def Cortas : List UInt8 → Prop
  | [] => True
  | c :: cs => (c = nl → ((saltar cs).takeWhile (· != nl)).length < 100) ∧ Cortas cs

/-- The lines behind the header: each begins behind a newline and the white space after it. -/
def lineasDe : List UInt8 → List (List UInt8)
  | [] => []
  | c :: cs =>
    if c = nl ∧ nl ∉ cs.takeWhile esEspacio ∧ saltar cs ≠ [] then
      (saltar cs).takeWhile (· != nl) :: lineasDe cs
    else lineasDe cs

def lineasInit (archivo : List UInt8) : List InitParser.Linea := (lineasDe archivo).map hastaCero

/-- How many integers these lines declare. -/
def enteros (sizeofEquipaje : Nat) : Nat → List InitParser.Linea → Nat
  | _, [] => 0
  | tipo, l :: ls =>
    (if InitParser.tipoDe tipo l.1 = InitParser.tInt then (InitParser.vectorDe sizeofEquipaje l.1).toNat
      else 0) + enteros sizeofEquipaje (InitParser.tipoDe tipo l.1) ls

/-- No empty header, no long line, every line can be cut, and the integers fit in the memory. -/
structure InitLegible (sizeofEquipaje : Nat) (parser : InitParser.Parser) (memoria archivo : List UInt8) :
    Prop where
  cabecera : archivo.head? ≠ some nl
  cortas : Cortas archivo
  cortables : ∀ l ∈ lineasInit archivo, InitParser.Cortable l.1
  caben : 4 * enteros sizeofEquipaje parser.tipo (lineasInit archivo) ≤ memoria.length

/-! ## The headers -/

variable {n : Nat} {archivo : List UInt8}

/-- Behind a line there is nothing or a newline. -/
theorem dropWhile_nl (archivo : List UInt8) :
    archivo.dropWhile (· != nl) = [] ∨ ∃ cs, archivo.dropWhile (· != nl) = nl :: cs := by
  have hcabeza := List.head?_dropWhile_not (· != nl) archivo
  cases hresto : archivo.dropWhile (· != nl) with
  | nil => exact .inl rfl
  | cons c cs =>
    rw [hresto] at hcabeza
    have hc : c = nl := by simpa using hcabeza
    exact .inr ⟨cs, by rw [hc]⟩

theorem leerCabecera_linea (h : CabeCabecera archivo) :
    leerCabecera cabeceraLinea archivo = some (tras archivo) := by
  rw [CabeCabecera] at h
  rw [leerCabecera, cabeceraLinea, fscanf, tras]
  split
  · rename_i hno
    rw [hno]
    rfl
  · split
    · rename_i hcabeza
      cases archivo with
      | nil => rfl
      | cons c cs =>
        have hc : ¬(c != nl) = true := by
          intro hc
          rw [List.takeWhile_cons_of_pos (p := (· != nl)) hc] at hcabeza
          cases hcabeza
        rw [List.dropWhile_cons_of_neg (p := (· != nl)) hc]
        rfl
    · -- the s of the format comes up against the newline
      obtain hresto | ⟨cs, hresto⟩ := dropWhile_nl archivo
      · rw [hresto]
        rfl
      · rw [hresto]
        rfl

theorem leerCabecera_linea_none (h : ¬CabeCabecera archivo) : leerCabecera cabeceraLinea archivo = none := by
  rw [CabeCabecera] at h
  rw [leerCabecera, cabeceraLinea, fscanf]
  split
  · rename_i hno
    rw [hno] at h
    exact absurd (by decide) h
  · split
    · rename_i hcabeza
      rw [hcabeza] at h
      exact absurd (by decide) h
    · rfl

theorem leerCabecera_palabra (h : CabePalabra archivo) :
    leerCabecera cabeceraPalabra archivo = some (trasPalabra archivo) := by
  rw [CabePalabra] at h
  rw [leerCabecera, cabeceraPalabra, fscanf, trasPalabra]
  split
  · rename_i hno
    rw [hno]
    rfl
  · rfl

theorem leerCabecera_palabra_none (h : ¬CabePalabra archivo) :
    leerCabecera cabeceraPalabra archivo = none := by
  rw [CabePalabra] at h
  rw [leerCabecera, cabeceraPalabra, fscanf]
  split
  · rename_i hno
    rw [hno] at h
    exact absurd (by decide) h
  · rfl

theorem tras_texto (t : Tabla n) : tras t.texto = cola t.renglones t.final :=
  (@partes_append (· != nl) t.cabecera _ (bne_self_eq_false nl) (ne_of_notMem t.unaLinea)
    (head_cola t.renglones t.final)).2

/-! ## The loops without `break` -/

theorem leeBien_iff {σ : Type} {cuerpo : List Int → σ → σ × Bool} {vars : List Int} {s : σ}
    {de : List (List Int) → σ} (hnunca : ∀ vars s, (cuerpo vars s).2 = false) (hvars : vars.length = n + 1)
    (hde : ∀ registros, recorrer cuerpo registros s = de registros) :
    LeeBien n (fun vueltas archivo => (leerCabecera cabeceraLinea archivo).bind fun archivo =>
        mientrasLea (formato n true) cuerpo vueltas archivo vars s) de archivo ↔
      CabeCabecera archivo ∧ legible n (.numero n) (tras archivo) = true := by
  constructor
  · rintro ⟨⟨vueltas, r, hr⟩, -⟩
    by_cases hcabe : CabeCabecera archivo
    · rw [leerCabecera_linea hcabe, Option.bind_some] at hr
      exact ⟨hcabe, (termina_iff hnunca vars s).mp ⟨vueltas, r, hr⟩⟩
    · rw [leerCabecera_linea_none hcabe] at hr
      cases hr
  · rintro ⟨hcabe, hlegible⟩
    constructor
    · rw [leerCabecera_linea hcabe]
      exact (termina_iff hnunca vars s).mpr hlegible
    · rintro t rfl
      refine ⟨t.renglones.length + 1, ?_⟩
      rw [leerCabecera_linea hcabe, Option.bind_some, tras_texto,
        mientrasLea_cola t.renglones t.final rfl hvars (Nat.lt_succ_self _)]
      exact congrArg some (hde t.registros)

theorem recorrer_vuelos (registros : List (List Int)) :
    recorrer (fun vars list => (taskVuelo vars :: list, false)) registros [] = vuelosDe registros := by
  rw [recorrer_sin_break (fun list vars => taskVuelo vars :: list),
    List.foldl_flip_cons_eq_append, List.append_nil]
  rfl

theorem foldl_pasajeros (numVuelo : Int) (registros : List (List Int)) (ids : List Int) :
    registros.foldl (fun ids r => if r.getD 1 0 = numVuelo then r.getD 0 0 :: ids else ids) ids =
      pasajerosDe numVuelo registros ++ ids := by
  induction registros generalizing ids with
  | nil => rfl
  | cons r rs ih =>
    rw [List.foldl_cons, ih, pasajerosDe, pasajerosDe]
    by_cases hr : r.getD 1 0 = numVuelo
    · rw [if_pos hr, List.filter_cons, if_pos (decide_eq_true hr), List.map_cons, List.reverse_cons,
        List.append_assoc]
      rfl
    · rw [if_neg hr, List.filter_cons, if_neg (by rwa [decide_eq_true_eq])]

theorem foldl_equipajes (numVuelo numPasajero : Int) (azar : Nat → Int) (registros : List (List Int))
    (equipajes : List Equipaje) :
    registros.foldl (fun equipajes r =>
        if r.getD 2 0 = numVuelo ∧ r.getD 1 0 = numPasajero then
          equipajes ++ [⟨r.getD 0 0, r.getD 2 0, azar equipajes.length⟩]
        else equipajes) equipajes =
      equipajes ++ equipajesDe numVuelo numPasajero (fun k => azar (equipajes.length + k)) registros := by
  induction registros generalizing equipajes with
  | nil => exact (List.append_nil _).symm
  | cons r rs ih =>
    rw [List.foldl_cons, ih, equipajesDe, equipajesDe]
    by_cases hr : r.getD 2 0 = numVuelo ∧ r.getD 1 0 = numPasajero
    · rw [if_pos hr, List.filter_cons, if_pos (decide_eq_true hr), List.mapIdx_cons, List.append_assoc,
        List.length_append, List.length_singleton]
      simp only [Nat.add_zero, Nat.add_assoc, Nat.add_comm 1, List.singleton_append]
    · rw [if_neg hr, List.filter_cons, if_neg (by rwa [decide_eq_true_eq])]

theorem recorrer_cantidad (numeroDeVuelo : Int) (registros : List (List Int)) (cantidad : Int) :
    recorrer (fun vars cantidadEquipajes =>
        if vars.head? = some numeroDeVuelo then (vars.getD 1 0, true) else (cantidadEquipajes, false))
      registros cantidad =
      match registros.find? fun r => r.head? = some numeroDeVuelo with
      | some r => r.getD 1 0
      | none => cantidad := by
  induction registros with
  | nil => rfl
  | cons r rs ih =>
    rw [recorrer]
    by_cases hr : r.head? = some numeroDeVuelo
    · rw [if_pos hr]
      simp only [List.find?_cons, hr, decide_true]
    · rw [if_neg hr]
      simp only [List.find?_cons, hr, decide_false]
      exact ih

/-! ## The lines of an init file -/

variable {data resto : List UInt8}

theorem cortas_append {xs : List UInt8} (h : nl ∉ xs) (resto : List UInt8) :
    Cortas (xs ++ resto) ↔ Cortas resto := by
  induction xs with
  | nil => rfl
  | cons c cs ih =>
    rw [List.mem_cons, not_or] at h
    obtain ⟨hc, hcs⟩ := h
    rw [List.cons_append, Cortas, ih hcs]
    exact ⟨fun h => h.2, fun h => ⟨fun hnl => absurd hnl.symm hc, h⟩⟩

/-- White space has no lines. -/
theorem cortas_saltar (archivo : List UInt8) (h : ((saltar archivo).takeWhile (· != nl)).length < 100) :
    Cortas archivo ↔ Cortas (saltar archivo) := by
  induction archivo with
  | nil => rfl
  | cons c cs ih =>
    cases hc : esEspacio c with
    | false => rw [saltar_cons_of_no hc]
    | true =>
      rw [saltar_cons_of_espacio hc] at h ⊢
      rw [← ih h, Cortas]
      exact ⟨fun h => h.2, fun hcs => ⟨fun _ => h, hcs⟩⟩

/-- The first line of what is left has been read. -/
theorem cortas_iff (archivo : List UInt8) : Cortas archivo ↔
    ((saltar (archivo.dropWhile (· != nl))).takeWhile (· != nl)).length < 100 ∧
      Cortas (saltar (archivo.dropWhile (· != nl))) := by
  have hpartes := List.takeWhile_append_dropWhile (p := (· != nl)) (l := archivo)
  have hsin : nl ∉ archivo.takeWhile (· != nl) := by
    intro hnl
    have h := List.mem_takeWhile_imp hnl
    simp at h
  conv_lhs => rw [← hpartes, cortas_append hsin]
  obtain hresto | ⟨cs, hresto⟩ := dropWhile_nl archivo
  · rw [hresto]
    show True ↔ _
    exact ⟨fun _ => ⟨by decide, trivial⟩, fun _ => trivial⟩
  · rw [hresto, Cortas, saltar_cons_of_espacio rfl]
    constructor
    · rintro ⟨hlinea, hcs⟩
      exact ⟨hlinea rfl, (cortas_saltar cs (hlinea rfl)).mp hcs⟩
    · rintro ⟨hlinea, hcs⟩
      exact ⟨fun _ => hlinea, (cortas_saltar cs hlinea).mpr hcs⟩

/-- An empty line at the front stays there. -/
theorem lineasLeidas_nl (h : archivo.head? = some nl) (vueltas : Nat) (data : List UInt8) :
    lineasLeidas vueltas archivo data = none := by
  have hno : archivo ≠ [] := by
    rintro rfl
    cases h
  induction vueltas generalizing data with
  | zero => rfl
  | succ vueltas ih =>
    rw [lineasLeidas, InicializarMemoria.leerLinea, if_neg hno, if_pos h]
    dsimp only
    rw [ih, Option.map_none]

theorem lineasLeidas_succ (hno : archivo ≠ []) (hnl : archivo.head? ≠ some nl) (vueltas : Nat)
    (data : List UInt8) :
    lineasLeidas (vueltas + 1) archivo data =
      if (archivo.takeWhile (· != nl)).length < 100 then
        (lineasLeidas vueltas (saltar (archivo.dropWhile (· != nl))) (archivo.takeWhile (· != nl))).map
          (archivo.takeWhile (· != nl) :: ·)
      else none := by
  rw [lineasLeidas, InicializarMemoria.leerLinea, if_neg hno, if_neg hnl]
  by_cases h : (archivo.takeWhile (· != nl)).length < 100
  · rw [if_pos h, if_pos h]
  · rw [if_neg h, if_neg h]

theorem head_saltar (archivo : List UInt8) : (saltar archivo).head? ≠ some nl := by
  intro h
  obtain ⟨cs, hcs⟩ := List.head?_eq_some_iff.mp h
  exact absurd (espacio_of_saltar hcs) (by decide)

/-- The lines when the file has come to one of them. -/
def lineasDesde (archivo : List UInt8) : List (List UInt8) :=
  if archivo = [] then [] else archivo.takeWhile (· != nl) :: lineasDe archivo

theorem lineasDe_append {xs : List UInt8} (h : nl ∉ xs) (resto : List UInt8) :
    lineasDe (xs ++ resto) = lineasDe resto := by
  induction xs with
  | nil => rfl
  | cons c cs ih =>
    rw [List.mem_cons, not_or] at h
    obtain ⟨hc, hcs⟩ := h
    rw [List.cons_append, lineasDe, if_neg fun h => hc h.1.symm, ih hcs]

/-- The last newline of the white space begins the line. -/
theorem lineasDe_espacios {ws : List UInt8} (hws : ∀ c ∈ ws, esEspacio c = true) (hnl : nl ∈ ws)
    (hresto : ∀ c ∈ resto.head?, esEspacio c = false) : lineasDe (ws ++ resto) = lineasDesde resto := by
  induction ws with
  | nil => cases hnl
  | cons c ws ih =>
    obtain ⟨-, hws'⟩ := List.forall_mem_cons.mp hws
    have hsaltar : saltar (ws ++ resto) = resto := by
      rw [saltar_append hws']
      cases resto with
      | nil => rfl
      | cons d ds => exact saltar_cons_of_no (hresto d rfl) ds
    have hespacios : (ws ++ resto).takeWhile esEspacio = ws := by
      rw [List.takeWhile_append_of_pos hws']
      cases resto with
      | nil => rw [List.takeWhile_nil, List.append_nil]
      | cons d ds =>
        rw [List.takeWhile_cons_of_neg (by rw [hresto d rfl]; exact Bool.false_ne_true), List.append_nil]
    rw [List.cons_append, lineasDe, hespacios, hsaltar]
    by_cases hmas : nl ∈ ws
    · rw [if_neg fun h => h.2.1 hmas, ih hws' hmas]
    · have hc : c = nl := ((List.mem_cons.mp hnl).resolve_right hmas).symm
      rw [lineasDe_append hmas, lineasDesde]
      by_cases hno : resto = []
      · rw [if_neg fun h => h.2.2 hno, if_pos hno, hno]
        rfl
      · rw [if_pos ⟨hc, hmas, hno⟩, if_neg hno]

theorem lineasDe_eq (archivo : List UInt8) :
    lineasDe archivo = lineasDesde (saltar (archivo.dropWhile (· != nl))) := by
  have hpartes := List.takeWhile_append_dropWhile (p := (· != nl)) (l := archivo)
  have hsin : nl ∉ archivo.takeWhile (· != nl) := fun hnl => absurd (List.mem_takeWhile_imp hnl) (by decide)
  conv_lhs => rw [← hpartes, lineasDe_append hsin]
  obtain hresto | ⟨cs, hresto⟩ := dropWhile_nl archivo
  · rw [hresto]
    rfl
  · rw [hresto]
    have hespacios := List.takeWhile_append_dropWhile (p := esEspacio) (l := nl :: cs)
    conv_lhs => rw [← hespacios]
    refine lineasDe_espacios (fun d hd => List.mem_takeWhile_imp hd) ?_ fun d hd => ?_
    · rw [List.takeWhile_cons_of_pos rfl]
      exact List.mem_cons_self
    · obtain ⟨ds, hds⟩ := List.head?_eq_some_iff.mp hd
      exact espacio_of_saltar hds

theorem lineasLeidas_iff (archivo data : List UInt8) (r : List (List UInt8)) :
    (∃ vueltas, lineasLeidas vueltas archivo data = some r) ↔ archivo.head? ≠ some nl ∧
      (archivo.takeWhile (· != nl)).length < 100 ∧ Cortas archivo ∧ r = lineasDesde archivo := by
  induction hlargo : archivo.length using Nat.strong_induction_on generalizing archivo data r with
  | _ largo ih =>
    by_cases hnl : archivo.head? = some nl
    · constructor
      · rintro ⟨vueltas, hr⟩
        rw [lineasLeidas_nl hnl] at hr
        cases hr
      · exact fun h => absurd hnl h.1
    by_cases hno : archivo = []
    · subst hno
      constructor
      · rintro ⟨vueltas, hr⟩
        cases vueltas with
        | zero => cases hr
        | succ vueltas =>
          cases hr
          exact ⟨hnl, by decide, trivial, rfl⟩
      · rintro ⟨-, -, -, rfl⟩
        exact ⟨1, rfl⟩
    -- the line is not empty, so less is left
    have hmenos : (saltar (archivo.dropWhile (· != nl))).length < archivo.length := by
      have hsaltar := saltar_length_le (archivo.dropWhile (· != nl))
      cases archivo with
      | nil => exact absurd rfl hno
      | cons c cs =>
        have hc : (c != nl) = true := bne_iff_ne.mpr fun hc => hnl (by rw [hc]; rfl)
        rw [List.dropWhile_cons_of_pos (p := (· != nl)) hc] at hsaltar ⊢
        have hsuf := (List.dropWhile_suffix (l := cs) (· != nl)).length_le
        rw [List.length_cons]
        omega
    have hresto (r : List (List UInt8)) :=
      ih _ (hlargo ▸ hmenos) (saltar (archivo.dropWhile (· != nl))) (archivo.takeWhile (· != nl)) r rfl
    rw [cortas_iff archivo, lineasDesde, if_neg hno, lineasDe_eq archivo]
    constructor
    · rintro ⟨vueltas, hr⟩
      cases vueltas with
      | zero => cases hr
      | succ vueltas =>
        rw [lineasLeidas_succ hno hnl] at hr
        split at hr
        · obtain ⟨r', hr', rfl⟩ := Option.map_eq_some_iff.mp hr
          obtain ⟨-, hlinea, hcortas, rfl⟩ := (hresto r').mp ⟨vueltas, hr'⟩
          exact ⟨hnl, ‹_›, ⟨hlinea, hcortas⟩, rfl⟩
        · cases hr
    · rintro ⟨-, hlinea, hcortas, rfl⟩
      obtain ⟨vueltas, hr⟩ := (hresto _).mpr ⟨head_saltar _, hcortas.1, hcortas.2, rfl⟩
      refine ⟨vueltas + 1, ?_⟩
      rw [lineasLeidas_succ hno hnl, if_pos hlinea, hr]
      rfl

/-- From the beginning of the file. -/
theorem lineasLeidas_archivo (archivo data : List UInt8) (r : List (List UInt8)) :
    (∃ vueltas, lineasLeidas vueltas (InicializarMemoria.primeraLinea archivo) data = some r) ↔
      archivo.head? ≠ some nl ∧ Cortas archivo ∧ r = lineasDe archivo := by
  rw [lineasLeidas_iff, InicializarMemoria.primeraLinea]
  by_cases hnl : archivo.head? = some nl
  · rw [if_pos hnl]
    exact ⟨fun h => absurd hnl h.1, fun h => absurd hnl h.1⟩
  · rw [if_neg hnl, cortas_iff archivo, lineasDe_eq archivo]
    exact ⟨fun h => ⟨hnl, ⟨h.2.1, h.2.2.1⟩, h.2.2.2⟩, fun h => ⟨head_saltar _, h.2.1.1, h.2.1.2, h.2.2⟩⟩

theorem corta_of_lineasDe {l : List UInt8} (h : Cortas archivo) (hl : l ∈ lineasDe archivo) :
    l.length < 100 := by
  induction archivo with
  | nil => cases hl
  | cons c cs ih =>
    rw [lineasDe] at hl
    split at hl
    · rename_i hc
      rcases List.mem_cons.mp hl with rfl | hl
      · exact h.1 hc.1
      · exact ih h.2 hl
    · exact ih h.2 hl

/-- A text without newlines before the lines that are left. -/
theorem partes_colaInit {xs : List UInt8} (h : nl ∉ xs) (lineas : List LineaInit) (final : Bool) :
    (xs ++ colaInit lineas final).takeWhile (· != nl) = xs ∧
      (xs ++ colaInit lineas final).dropWhile (· != nl) = colaInit lineas final :=
  partes_append (bne_self_eq_false nl) (ne_of_notMem h)
    (head_lineas (fun l : LineaInit => l.blancos ++ l.texto) lineas final)

/-- Each line is given to `parse_line` once and in order. -/
theorem lineasLeidas_colaInit (lineas : List LineaInit) (final : Bool) {vueltas : Nat} {r : List (List UInt8)}
    (h : lineasLeidas vueltas (saltar (colaInit lineas final)) data = some r) :
    r = lineas.map LineaInit.texto := by
  induction lineas generalizing vueltas data r with
  | nil =>
    have hnada : saltar (colaInit [] final) = [] := by cases final <;> rfl
    rw [hnada] at h
    cases vueltas with
    | zero => cases h
    | succ vueltas =>
      cases h
      rfl
  | cons l ls ih =>
    obtain ⟨c, cs, htexto⟩ : ∃ c cs, l.texto = c :: cs := List.exists_cons_of_ne_nil l.noVacia
    have hcola : saltar (colaInit (l :: ls) final) = l.texto ++ colaInit ls final := by
      have hcons : colaInit (l :: ls) final = nl :: (l.blancos ++ (l.texto ++ colaInit ls final)) := by
        rw [colaInit, colaInit, List.flatMap_cons]
        simp only [List.cons_append, List.append_assoc]
      have hespacio : esEspacio c = false := l.empieza c (by rw [htexto]; rfl)
      rw [hcons, saltar_cons_of_espacio rfl, saltar_append l.soloBlancos, htexto]
      exact saltar_cons_of_no hespacio _
    have hno : l.texto ++ colaInit ls final ≠ [] := by
      rw [htexto]
      exact List.cons_ne_nil _ _
    have hnl : (l.texto ++ colaInit ls final).head? ≠ some nl := by
      rw [← hcola]
      exact head_saltar _
    obtain ⟨htake, hdrop⟩ := partes_colaInit l.unaLinea ls final
    rw [hcola] at h
    cases vueltas with
    | zero => cases h
    | succ vueltas =>
      rw [lineasLeidas_succ hno hnl, htake, hdrop] at h
      split at h
      · obtain ⟨r', hr', rfl⟩ := Option.map_eq_some_iff.mp h
        rw [ih hr', List.map_cons]
      · cases h

/-- The turns of the loop. -/
theorem bucle_eq (nuevo : Nat → List UInt8) (sizeofEquipaje vueltas : Nat) (archivo data : List UInt8)
    (parser : InitParser.Parser) (memoria : List UInt8) (p : Nat) :
    InicializarMemoria.bucle nuevo sizeofEquipaje vueltas archivo data parser memoria p =
      (lineasLeidas vueltas archivo data).bind (declarar nuevo sizeofEquipaje parser memoria p) := by
  induction vueltas generalizing archivo data parser memoria p with
  | zero => rfl
  | succ vueltas ih =>
    rw [InicializarMemoria.bucle, lineasLeidas]
    cases InicializarMemoria.leerLinea archivo data with
    | eof => rfl
    | desborde => rfl
    | leido data archivo =>
      dsimp only
      cases hlinea : InicializarMemoria.linea nuevo sizeofEquipaje parser data memoria p with
      | none =>
        cases lineasLeidas vueltas archivo data with
        | none => rfl
        | some lineas =>
          rw [Option.map_some, Option.bind_some, declarar, List.foldlM_cons, hlinea]
          rfl
      | some s =>
        obtain ⟨parser', memoria', p'⟩ := s
        rw [Option.bind_some]
        dsimp only
        rw [ih]
        cases lineasLeidas vueltas archivo data with
        | none => rfl
        | some lineas =>
          rw [Option.map_some, Option.bind_some, Option.bind_some, declarar, declarar, List.foldlM_cons, hlinea]
          rfl

/-! ## What the lines declare -/

variable {nuevo : Nat → List UInt8} {sizeofEquipaje m pos : Nat} {parser : InitParser.Parser}
  {memoria : List UInt8}

/-- A line that can be cut writes the integers that it declares. -/
theorem linea_cortable (nuevo : Nat → List UInt8) (sizeofEquipaje pos : Nat) (memoria : List UInt8)
    (h : InitParser.Reservado parser m) (hm : m < 100) (hcorta : data.length < 100)
    (hcortable : InitParser.Cortable (hastaCero data).1) : ∃ parser' m',
    InitParser.Reservado parser' m' ∧ m' < 100 ∧
      parser'.tipo = InitParser.tipoDe parser.tipo (hastaCero data).1 ∧
      InicializarMemoria.linea nuevo sizeofEquipaje parser data memoria pos =
        (InicializarMemoria.escribirVector parser'.valorInt
          (if parser'.tipo = InitParser.tInt then
            (InitParser.vectorDe sizeofEquipaje (hastaCero data).1).toNat else 0) memoria pos).map
          fun r => (parser', r.1, r.2) := by
  have hlargo : (hastaCero data).1.length ≤ data.length := (List.takeWhile_prefix _).length_le
  obtain ⟨parser', fines, hparse, -, hres, htipo, hvector⟩ :=
    InitParser.parseLine_dentro nuevo sizeofEquipaje h (hastaCero data).2 ⟨by omega, by omega⟩ hcortable
  refine ⟨parser', _, hres, by omega, htipo, ?_⟩
  have hparse' : parser.parseLine nuevo sizeofEquipaje (data.takeWhile (· != 0)) = some (parser', fines) :=
    hparse
  rw [InicializarMemoria.linea, hparse', Option.bind_eq_bind, Option.bind_some]
  dsimp only
  by_cases hint : parser'.tipo = InitParser.tInt
  · rw [if_pos hint, if_pos hint, hvector]
    cases InicializarMemoria.escribirVector parser'.valorInt
      (InitParser.vectorDe sizeofEquipaje (hastaCero data).1).toNat memoria pos <;> rfl
  · rw [if_neg hint, if_neg hint]
    rfl

/-- No line of fewer than 100 characters replaces the buffer. -/
theorem dentro_cortas (h : InitParser.Reservado parser m) (hm : m < 100) {lineas : List (List UInt8)}
    (hcortas : ∀ l ∈ lineas, l.length < 100)
    (hcortables : ∀ l ∈ lineas.map hastaCero, InitParser.Cortable l.1) :
    InitParser.Dentro nuevo sizeofEquipaje parser (lineas.map hastaCero) := by
  induction lineas generalizing parser m with
  | nil => trivial
  | cons data lineas ih =>
    obtain ⟨hcorta, hcortas⟩ := List.forall_mem_cons.mp hcortas
    rw [List.map_cons] at hcortables ⊢
    obtain ⟨hcortable, hcortables⟩ := List.forall_mem_cons.mp hcortables
    have hlargo : (hastaCero data).1.length ≤ data.length := (List.takeWhile_prefix _).length_le
    obtain ⟨parser', fines, hparse, hfines, hres, -⟩ :=
      InitParser.parseLine_dentro nuevo sizeofEquipaje h (hastaCero data).2 ⟨by omega, by omega⟩ hcortable
    exact ⟨parser', fines, hparse, hfines, ih hres (by omega) hcortas hcortables⟩

/-- Lines that can be cut are declared exactly when their integers have room behind the pointer. -/
theorem declarar_iff (h : InitParser.Reservado parser m) (hm : m < 100) {lineas : List (List UInt8)}
    (hcortas : ∀ l ∈ lineas, l.length < 100)
    (hcortables : ∀ l ∈ lineas.map hastaCero, InitParser.Cortable l.1) (hpos : pos ≤ memoria.length) :
    (∃ m, declarar nuevo sizeofEquipaje parser memoria pos lineas = some m) ↔
      pos + 4 * enteros sizeofEquipaje parser.tipo (lineas.map hastaCero) ≤ memoria.length := by
  induction lineas generalizing parser m memoria pos with
  | nil => exact ⟨fun _ => hpos, fun _ => ⟨memoria, rfl⟩⟩
  | cons data lineas ih =>
    obtain ⟨hcorta, hcortas⟩ := List.forall_mem_cons.mp hcortas
    rw [List.map_cons] at hcortables ⊢
    obtain ⟨hcortable, hcortables⟩ := List.forall_mem_cons.mp hcortables
    obtain ⟨parser', m', hres, hm', htipo, hlinea⟩ :=
      linea_cortable nuevo sizeofEquipaje pos memoria h hm hcorta hcortable
    rw [enteros, ← htipo]
    generalize (if parser'.tipo = InitParser.tInt then
      (InitParser.vectorDe sizeofEquipaje (hastaCero data).1).toNat else 0) = veces at hlinea ⊢
    have hcaben := InicializarMemoria.escribirVector_iff parser'.valorInt veces hpos
    cases hescribe : InicializarMemoria.escribirVector parser'.valorInt veces memoria pos with
    | none =>
      rw [hescribe] at hlinea hcaben
      have hno : ¬pos + 4 * veces ≤ memoria.length := fun h => by cases (hcaben.mpr h).choose_spec
      constructor
      · rintro ⟨r, hr⟩
        rw [declarar, List.foldlM_cons, hlinea] at hr
        cases hr
      · omega
    | some r =>
      obtain ⟨memoria', pos'⟩ := r
      rw [hescribe] at hlinea
      obtain ⟨rfl, hlargo, hdentro⟩ := InicializarMemoria.escribirVector_some hescribe
      have hpos' : pos + 4 * veces ≤ memoria'.length := by
        rw [hlargo]
        exact hdentro hpos
      have hresto := ih hres hm' hcortas hcortables hpos'
      rw [declarar, List.foldlM_cons, hlinea]
      rw [hlargo, declarar] at hresto
      rw [Nat.mul_add, ← Nat.add_assoc]
      exact hresto

theorem inicializarMemoria_lineas (vueltas : Nat) (data memoria archivo : List UInt8) :
    inicializarMemoria nuevo sizeofEquipaje parser data memoria vueltas archivo =
      (lineasLeidas vueltas (InicializarMemoria.primeraLinea archivo) data).bind
        (declarar nuevo sizeofEquipaje (parser.crear nuevo) memoria 0) :=
  bucle_eq nuevo sizeofEquipaje vueltas _ data (parser.crear nuevo) memoria 0

theorem leeLineas_iff (nuevo : Nat → List UInt8) (sizeofEquipaje : Nat) (parser : InitParser.Parser)
    (data memoria archivo : List UInt8) :
    LeeLineas nuevo sizeofEquipaje parser data memoria archivo ↔
      InitLegible sizeofEquipaje parser memoria archivo := by
  have hcrear := InitParser.reservado_crear nuevo parser
  have hcaben (hcortas : Cortas archivo) (hcortables : ∀ l ∈ lineasInit archivo, InitParser.Cortable l.1) :
      (∃ m, declarar nuevo sizeofEquipaje (parser.crear nuevo) memoria 0 (lineasDe archivo) = some m) ↔
        4 * enteros sizeofEquipaje parser.tipo (lineasInit archivo) ≤ memoria.length := by
    rw [declarar_iff hcrear (by decide) (fun l hl => corta_of_lineasDe hcortas hl) hcortables (Nat.zero_le _),
      Nat.zero_add]
    rfl
  constructor
  · intro h
    obtain ⟨vueltas, m, hm⟩ := h.termina
    rw [inicializarMemoria_lineas] at hm
    obtain ⟨lineas, hlineas, hdeclara⟩ := Option.bind_eq_some_iff.mp hm
    obtain ⟨hnl, hcortas, rfl⟩ := (lineasLeidas_archivo archivo data lineas).mp ⟨vueltas, hlineas⟩
    have hcortables : ∀ l ∈ lineasInit archivo, InitParser.Cortable l.1 := fun l hl =>
      (((InitParser.dentro_iff nuevo sizeofEquipaje parser _).mp (h.dentro vueltas _ hlineas)).1 l hl).1
    exact ⟨hnl, hcortas, hcortables, (hcaben hcortas hcortables).mp ⟨m, hdeclara⟩⟩
  · rintro ⟨hnl, hcortas, hcortables, hmemoria⟩
    obtain ⟨vueltas, hlineas⟩ := (lineasLeidas_archivo archivo data _).mpr ⟨hnl, hcortas, rfl⟩
    obtain ⟨m, hdeclara⟩ := (hcaben hcortas hcortables).mpr hmemoria
    have hbucle : inicializarMemoria nuevo sizeofEquipaje parser data memoria vueltas archivo = some m := by
      rw [inicializarMemoria_lineas, hlineas, Option.bind_some, hdeclara]
    refine ⟨⟨vueltas, m, hbucle⟩, fun vueltas' lineas hlineas' => ?_, ?_⟩
    · obtain ⟨-, -, rfl⟩ := (lineasLeidas_archivo archivo data lineas).mp ⟨vueltas', hlineas'⟩
      exact dentro_cortas hcrear (by decide) (fun l hl => corta_of_lineasDe hcortas hl) hcortables
    · rintro cabecera lineas final hcabecera rfl
      rw [InicializarMemoria.primeraLinea, if_neg hnl, (partes_colaInit hcabecera lineas final).2] at hlineas
      refine ⟨vueltas, m, hbucle, ?_⟩
      rw [← lineasLeidas_colaInit lineas final hlineas]
      exact hdeclara

/-! ## The intercargo -/

theorem intercargo_termina_iff (numeroDeVuelo vueloDestino totalEquipajes : Int) (archivo : List UInt8) :
    (∃ vueltas r, obtenerCantidadEquipajeIntercargo numeroDeVuelo vueloDestino totalEquipajes vueltas archivo =
        some r) ↔
      CabePalabra archivo ∧ (legible 1 (.numero 1) (trasPalabra archivo) = true ∨
        SeLee 1 false numeroDeVuelo (trasPalabra archivo) ∨ vueloDestino = numeroDeVuelo ∧
          ∃ resto, fscanf (formato 1 false) (trasPalabra archivo) 0 [] = some (.leidos [], resto)) := by
  have hpara : ∀ (vars : List Int) (cantidadEquipajes : Int),
      (if vars.head? = some numeroDeVuelo then (vars.getD 1 0, true) else (cantidadEquipajes, false)).2 = true ↔
        vars.head? = some numeroDeVuelo := by
    intro vars cantidadEquipajes
    split
    · exact ⟨fun _ => ‹_›, fun _ => rfl⟩
    · exact ⟨fun h => absurd h Bool.false_ne_true, fun h => absurd h ‹_›⟩
  by_cases hcabe : CabePalabra archivo
  · simp only [obtenerCantidadEquipajeIntercargo, leerCabecera_palabra hcabe, Option.bind_some,
      termina_hasta_iff hpara, List.head?_cons, Option.some.injEq, hcabe, true_and]
  · constructor
    · rintro ⟨vueltas, r, hr⟩
      rw [obtenerCantidadEquipajeIntercargo, leerCabecera_palabra_none hcabe] at hr
      cases hr
    · exact fun h => absurd h.1 hcabe

theorem intercargo_tabla (numeroDeVuelo vueloDestino totalEquipajes : Int) (t : Tabla 1)
    (hpalabra : t.cabecera ≠ [] ∧ ∀ c ∈ t.cabecera, esEspacio c = false) (hcabe : t.cabecera.length < 300) :
    ∃ vueltas, obtenerCantidadEquipajeIntercargo numeroDeVuelo vueloDestino totalEquipajes vueltas t.texto =
      some (cantidadDe numeroDeVuelo t.registros) := by
  have hsaltar : saltar t.texto = t.texto := by
    cases hcabecera : t.cabecera with
    | nil => exact absurd hcabecera hpalabra.1
    | cons c cs =>
      rw [Tabla.texto, hcabecera]
      exact saltar_cons_of_no (hpalabra.2 c (hcabecera ▸ List.mem_cons_self)) _
  have hno : ∀ c ∈ t.cabecera, (!esEspacio c) = true := fun c hc => by rw [hpalabra.2 c hc]; rfl
  have hpartes : t.texto.takeWhile (!esEspacio ·) = t.cabecera ∧
      t.texto.dropWhile (!esEspacio ·) = cola t.renglones t.final :=
    partes_append rfl hno (head_cola t.renglones t.final)
  have hpalabraCabe : CabePalabra t.texto := by
    rw [CabePalabra, hsaltar, hpartes.1]
    exact hcabe
  refine ⟨t.renglones.length + 1, ?_⟩
  rw [obtenerCantidadEquipajeIntercargo, leerCabecera_palabra hpalabraCabe,
    Option.bind_some, trasPalabra, hsaltar,
    hpartes.2, mientrasLea_cola t.renglones t.final rfl rfl (Nat.lt_succ_self _), recorrer_cantidad]
  rfl

/-! ## All of them -/

/-- `cargar_vuelos`, `get_pasajeros` and `get_equipajes` come to an end exactly when nothing behind the header
    stops the conversions, and `inicializar_memoria` when the header is not an empty line, its parser finds
    in each line where to stop and the integers fit in the memory; then they read the tables.
    `obtener_cantidad_equipaje_intercargo` may also stop at its flight before that, and needs a header of one
    word. -/
theorem lectores_iff (archivo data : List UInt8) (a b c numVuelo numPasajero : Int) (azar : Nat → Int)
    (nuevo : Nat → List UInt8) (sizeofEquipaje : Nat) (parser : InitParser.Parser) (memoria : List UInt8) :
    (LeeBien 1 (cargarVuelos a b) vuelosDe archivo ↔
      CabeCabecera archivo ∧ legible 1 (.numero 1) (tras archivo) = true) ∧
    (LeeBien 1 (getPasajeros numVuelo a b) (pasajerosDe numVuelo) archivo ↔
      CabeCabecera archivo ∧ legible 1 (.numero 1) (tras archivo) = true) ∧
    (LeeBien 2 (getEquipajes numVuelo numPasajero azar a b c) (equipajesDe numVuelo numPasajero azar) archivo ↔
      CabeCabecera archivo ∧ legible 2 (.numero 2) (tras archivo) = true) ∧
    (LeeLineas nuevo sizeofEquipaje parser data memoria archivo ↔
      InitLegible sizeofEquipaje parser memoria archivo) ∧
    ((∃ vueltas r, obtenerCantidadEquipajeIntercargo numVuelo a b vueltas archivo = some r) ↔
      CabePalabra archivo ∧ (legible 1 (.numero 1) (trasPalabra archivo) = true ∨
        SeLee 1 false numVuelo (trasPalabra archivo) ∨ a = numVuelo ∧
          ∃ resto, fscanf (formato 1 false) (trasPalabra archivo) 0 [] = some (.leidos [], resto))) ∧
    ∀ t : Tabla 1, t.texto = archivo → t.cabecera ≠ [] ∧ (∀ c ∈ t.cabecera, esEspacio c = false) →
      t.cabecera.length < 300 → ∃ vueltas, obtenerCantidadEquipajeIntercargo numVuelo a b vueltas archivo =
        some (cantidadDe numVuelo t.registros) := by
  refine ⟨?_, ?_, ?_, leeLineas_iff nuevo sizeofEquipaje parser data memoria archivo,
    intercargo_termina_iff numVuelo a b archivo, ?_⟩
  · exact leeBien_iff (fun _ _ => rfl) rfl recorrer_vuelos
  · refine leeBien_iff (fun _ _ => rfl) rfl fun registros => ?_
    rw [recorrer_sin_break (fun ids r => if r.getD 1 0 = numVuelo then r.getD 0 0 :: ids else ids),
      foldl_pasajeros, List.append_nil]
  · refine leeBien_iff (fun _ _ => rfl) rfl fun registros => ?_
    rw [recorrer_sin_break (fun equipajes r =>
      if r.getD 2 0 = numVuelo ∧ r.getD 1 0 = numPasajero then
        equipajes ++ [(⟨r.getD 0 0, r.getD 2 0, azar equipajes.length⟩ : Equipaje)]
      else equipajes), foldl_equipajes, List.nil_append]
    simp only [List.length_nil, Nat.zero_add]
  · rintro t rfl hpalabra hcabe
    exact intercargo_tabla numVuelo a b t hpalabra hcabe

/-- A line without numbers, an empty header of an init file, an `int` without a value, and a header of two
    words. -/
theorem lectores_atascados :
    (¬∃ vueltas r, cargarVuelos 0 0 vueltas [72, 10, 120] = some r) ∧
    (∀ memoria, ¬∃ vueltas r, inicializarMemoria (fun _ => []) 0 InitParser.parserSinCrear [] memoria vueltas
      [10, 105] = some r) ∧
    (∀ memoria, ¬∃ vueltas r, inicializarMemoria (fun _ => []) 0 InitParser.parserSinCrear [] memoria vueltas
      [72, 10, 105, 110, 116, 10] = some r) ∧
    ¬∃ vueltas r, obtenerCantidadEquipajeIntercargo 1 0 0 vueltas [65, 32, 66, 10, 49, 58, 50] = some r := by
  refine ⟨?_, ?_, ?_, ?_⟩
  · rintro ⟨vueltas, r, hr⟩
    have hcabe : CabeCabecera [72, 10, 120] := by
      unfold CabeCabecera
      decide
    rw [cargarVuelos, leerCabecera_linea hcabe, Option.bind_some,
      no_termina (by decide) fun _ _ => rfl] at hr
    cases hr
  · rintro memoria ⟨vueltas, r, hr⟩
    rw [inicializarMemoria_lineas, lineasLeidas_nl (by decide)] at hr
    cases hr
  · rintro memoria ⟨vueltas, r, hr⟩
    -- the new buffer has no blank
    have hlinea : InitParser.Parser.parseLine (fun _ => []) 0 (InitParser.parserSinCrear.crear fun _ => [])
        [105, 110, 116] = none := by decide +kernel
    rw [inicializarMemoria_lineas] at hr
    obtain ⟨lineas, hlineas, hdeclara⟩ := Option.bind_eq_some_iff.mp hr
    obtain ⟨-, -, rfl⟩ := (lineasLeidas_archivo _ _ _).mp ⟨vueltas, hlineas⟩
    have hlineas : lineasDe [72, 10, 105, 110, 116, 10] = [[105, 110, 116]] := by decide
    have hcero : List.takeWhile (· != 0) ([105, 110, 116] : List UInt8) = [105, 110, 116] := by decide
    rw [hlineas, declarar, List.foldlM_cons, InicializarMemoria.linea, hcero, hlinea] at hdeclara
    cases hdeclara
  · rw [intercargo_termina_iff]
    rintro ⟨-, hlegible | hlee | ⟨hcero, -⟩⟩
    · exact absurd hlegible (by decide)
    · -- the first call leaves the second word of the header, and the next ones too
      cases hlee with
      | ahora h => cases h
      | despues h hresto =>
        cases h
        exact not_seLee_of_atasco rfl hresto
    · exact absurd hcero (by decide)

end Lectores
