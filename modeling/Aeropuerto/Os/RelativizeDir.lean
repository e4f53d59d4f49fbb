import Aeropuerto.Biblioteca.Rutas

/-!
# Relative paths from another directory (`relativize_dir` of `os/dir.cpp`)

A program that is about to change to `launch_dir` rewrites the paths that are relative to where it is.
The function compares texts, not components.
-/

namespace RelativizeDir

open Rutas

def filenameMax : Nat := 4096

/-- `strrchr(s, '/') + 1`. -/
def desdeUltima (s : Texto) : Option Texto :=
  if '/' ∈ s then some (s.reverse.takeWhile (· != '/')).reverse else none

/-- `*(strrchr(s, '/') + 1) = '\0'`. -/
def hastaUltima (s : Texto) : Option Texto :=
  if '/' ∈ s then some (s.reverse.dropWhile (· != '/')).reverse else none

/-- `strchr(s, '/') + 1`. -/
def desdePrimera (s : Texto) : Option Texto :=
  if '/' ∈ s then some ((s.dropWhile (· != '/')).drop 1) else none

/-- The `while` that leaves what the two texts begin with. -/
def avanzar : Texto → Texto → Texto × Texto
  | [], bs => ([], bs)
  | a :: as, [] => (a :: as, [])
  | a :: as, b :: bs => if a = b then avanzar as bs else (a :: as, b :: bs)

/-- The `for` over `dir_base2`. -/
def recortar : Texto → Texto → Option Texto
  | [], relativo => some relativo
  | c :: dirBase2, relativo =>
    if c = '/' then (hastaUltima relativo).bind (recortar dirBase2) else recortar dirBase2 relativo

inductive Salida where
  | escrito (relativo : Texto)
  -- directorio_relativo stays as it was
  | nada
  -- an access outside a buffer, or through NULL + 1
  | fuera
  deriving DecidableEq

/-- What ends in `directorio_relativo`, when there is room for it. -/
def escribir (relativo : Texto) : Salida :=
  if relativo.length < filenameMax then .escrito relativo else .fuera

/-- The branch that looks for what the two directories begin with. -/
def desdeComun (directorioDeTrabajo launchDir currentDir : Texto) : Salida :=
  let (dirBase1, dirBase2) := avanzar currentDir launchDir
  if launchDir.length < filenameMax then
    let relativo := if dirBase2 ≠ [] then hastaUltima launchDir else some (launchDir ++ ['/'])
    match relativo.bind (recortar dirBase2) with
    | some relativo =>
      escribir (relativo ++ (if dirBase1 ≠ [] then dirBase1 ++ ['/'] else []) ++ directorioDeTrabajo)
    | none => .fuera
  else .fuera

def relativizeDir (directorioDeTrabajo launchDir currentDir : Texto) : Salida :=
  match desdeUltima launchDir, directorioDeTrabajo with
  | some dir, '.' :: '/' :: dirCmp =>
    -- strncmp(dir_cmp, dir, strlen(dir)) == 0
    if dir <+: dirCmp then
      match desdePrimera dirCmp with
      | some dirMove => escribir ('.' :: '/' :: dirMove)
      | none => .fuera
    else desdeComun directorioDeTrabajo launchDir currentDir
  | _, _ => .nada

/-- The current directory is `padre/actual`, and the launch directory `padre/actual/dir` or `padre/dir`, as
    `locate_dir` finds them; the path is `./p`. -/
structure Entrada where
  padre : List Texto
  actual : Texto
  dir : Texto
  anidado : Bool
  p : Texto
  padreNombres : ∀ c ∈ padre, EsNombre c
  actualNombre : EsNombre actual
  dirNombre : EsNombre dir

namespace Entrada

variable (e : Entrada)

def current : List Texto := e.padre ++ [e.actual]

def launch : List Texto := if e.anidado then e.current ++ [e.dir] else e.padre ++ [e.dir]

def ruta : Texto := '.' :: '/' :: e.p

/-- The path that is written denotes from the launch directory what the other denotes from the current
    one. -/
def Relativiza : Prop := ∃ relativo,
  relativizeDir e.ruta (texto e.launch) (texto e.current) = .escrito relativo ∧
    resolver e.launch relativo = resolver e.current e.ruta

/-- What is left of the names of the two directories without their common beginning. -/
def resto₁ : Texto := (avanzar e.actual e.dir).1
def resto₂ : Texto := (avanzar e.actual e.dir).2

/-- How many directories the path must leave, when the names have been taken apart. -/
def niveles : Nat :=
  if e.actual = e.dir ∨ e.resto₁ = e.actual then 0
  else if e.resto₂ ≠ [] then
    if EsNombre e.resto₁ then 1 else e.padre.length + 1
  else if e.resto₁ = ['.'] then 1
  else if e.resto₁ = ['.', '.'] then e.padre.length + 1
  else e.padre.length + 2

/-- The text in front of the path. -/
def prefijo : Texto :=
  if e.anidado then texto e.current ++ ['/']
  else (if e.resto₂ ≠ [] then texto e.padre ++ ['/'] else texto e.launch ++ ['/']) ++
    (if e.resto₁ ≠ [] then e.resto₁ ++ ['/'] else [])

/-- When it does. -/
def Bien : Prop :=
  if e.dir <+: e.p then
    ∃ q r, e.p = q ++ '/' :: r ∧ '/' ∉ q ∧ r.length + 2 < filenameMax ∧
      if e.anidado then q = e.dir ∨ 1 ≤ sube r else e.padre.length + 2 ≤ sube r
  else
    (texto e.launch).length < filenameMax ∧ (e.prefijo ++ e.ruta).length < filenameMax ∧
      (e.anidado ∨ e.niveles ≤ sube e.p)

end Entrada

/-! ## Cutting texts at a slash -/

variable {a b d q r relativo : Texto} {e : Entrada}

theorem ne_barra (h : '/' ∉ d) : ∀ c ∈ d, (c != '/') = true := by
  intro c hc
  rw [bne_iff_ne]
  rintro rfl
  exact h hc

theorem ne_barra_reverse (h : '/' ∉ d) : ∀ c ∈ d.reverse, (c != '/') = true :=
  ne_barra (mt List.mem_reverse.mp h)

theorem desdeUltima_append (a : Texto) (h : '/' ∉ d) : desdeUltima (a ++ '/' :: d) = some d := by
  rw [desdeUltima, if_pos (by simp), List.reverse_append, List.reverse_cons, List.append_assoc,
    List.takeWhile_append_of_pos (ne_barra_reverse h), List.singleton_append,
    List.takeWhile_cons_of_neg (by decide), List.append_nil, List.reverse_reverse]

theorem hastaUltima_append (a : Texto) (h : '/' ∉ d) : hastaUltima (a ++ '/' :: d) = some (a ++ ['/']) := by
  rw [hastaUltima, if_pos (by simp), List.reverse_append, List.reverse_cons, List.append_assoc,
    List.dropWhile_append_of_pos (ne_barra_reverse h), List.singleton_append,
    List.dropWhile_cons_of_neg (by decide), List.reverse_cons, List.reverse_reverse]

theorem desdePrimera_eq (h : '/' ∉ q) (r : Texto) : desdePrimera (q ++ '/' :: r) = some r := by
  rw [desdePrimera, if_pos (by simp), List.dropWhile_append_of_pos (ne_barra h),
    List.dropWhile_cons_of_neg (by decide), List.drop_one, List.tail_cons]

theorem exists_primera (h : '/' ∈ a) : ∃ q r, a = q ++ '/' :: r ∧ '/' ∉ q := by
  obtain ⟨q, r, rfl, hq⟩ := List.eq_append_cons_of_mem h
  exact ⟨q, r, rfl, hq⟩

theorem avanzar_append (a x y : Texto) : avanzar (a ++ x) (a ++ y) = avanzar x y := by
  induction a with
  | nil => rfl
  | cons c a ih => rw [List.cons_append, List.cons_append, avanzar, if_pos rfl, ih]

/-- What is left has a common beginning in front. -/
theorem avanzar_spec : ∀ x y : Texto,
    ∃ c, x = c ++ (avanzar x y).1 ∧ y = c ++ (avanzar x y).2
  | [], y => ⟨[], rfl, rfl⟩
  | x :: xs, [] => ⟨[], rfl, rfl⟩
  | x :: xs, y :: ys => by
    rw [avanzar]
    by_cases hxy : x = y
    · obtain ⟨c, hx, hy⟩ := avanzar_spec xs ys
      rw [if_pos hxy]
      exact ⟨x :: c, congrArg (x :: ·) hx, by rw [← hxy]; exact congrArg (x :: ·) hy⟩
    · rw [if_neg hxy]
      exact ⟨[], rfl, rfl⟩

theorem recortar_sin_barra : ∀ {b : Texto}, '/' ∉ b → ∀ relativo, recortar b relativo = some relativo
  | [], _, _ => rfl
  | c :: b, h, relativo => by
    rw [recortar, if_neg (fun hc => h (by rw [hc]; exact List.mem_cons_self)),
      recortar_sin_barra fun hb => h (List.mem_cons_of_mem _ hb)]

theorem escribir_iff : escribir a = .escrito relativo ↔ relativo = a ∧ a.length < filenameMax := by
  rw [escribir]
  split
  case isTrue h => exact ⟨fun heq => ⟨(Salida.escrito.inj heq).symm, h⟩, fun heq => by rw [heq.1]⟩
  case isFalse h =>
    refine ⟨fun heq => ?_, fun heq => absurd heq.2 h⟩
    cases heq

/-! ## A path that begins with the name of the launch directory -/

theorem texto_append (cs : List Texto) (c : Texto) : texto (cs ++ [c]) = texto cs ++ '/' :: c := by
  rw [texto, List.flatMap_append, List.flatMap_singleton]
  rfl

namespace Entrada

theorem current_nombres (e : Entrada) : ∀ c ∈ e.current, EsNombre c := by
  intro c hc
  rcases List.mem_append.mp hc with hc | hc
  · exact e.padreNombres c hc
  · rw [List.mem_singleton.mp hc]
    exact e.actualNombre

theorem desdeUltima_launch (e : Entrada) : desdeUltima (texto e.launch) = some e.dir := by
  rw [launch]
  split <;> rw [texto_append, desdeUltima_append _ e.dirNombre.2.1]

theorem relativizeDir_pega (h : e.dir <+: e.p) : relativizeDir e.ruta (texto e.launch) (texto e.current) =
    match desdePrimera e.p with
    | some r => escribir ('.' :: '/' :: r)
    | none => .fuera := by
  unfold relativizeDir
  rw [desdeUltima_launch, ruta]
  exact if_pos h

/-- The first component of the path is a name that begins with the other. -/
theorem primera_nombre (h : e.dir <+: e.p) (hp : e.p = q ++ '/' :: r) (hq : '/' ∉ q) : EsNombre q := by
  obtain ⟨hno, hbarra, hpunto, hdos⟩ := e.dirNombre
  obtain ⟨a, rfl⟩ : e.dir <+: q := by
    obtain ⟨t, ht⟩ := h
    rw [hp] at ht
    rcases List.append_eq_append_iff.mp ht with ⟨a, ha, -⟩ | ⟨c, hc, hr⟩
    · exact ⟨a, ha.symm⟩
    · cases c with
      | nil => exact ⟨[], by rw [hc, List.append_nil, List.append_nil]⟩
      | cons x c =>
        cases hr
        exact absurd (by rw [hc]; exact List.mem_append_right _ List.mem_cons_self) hbarra
  refine ⟨fun hnil => hno (List.append_eq_nil_iff.mp hnil).1, hq, fun huno => ?_, fun hcorta => ?_⟩
  · rcases List.append_eq_singleton_iff.mp huno with ⟨hd, -⟩ | ⟨hd, -⟩
    · exact hno hd
    · exact hpunto hd
  · cases hd : e.dir with
    | nil => exact hno hd
    | cons x d =>
      rw [hd, List.cons_append, List.cons.injEq] at hcorta
      obtain ⟨rfl, hresto⟩ := hcorta
      rcases List.append_eq_singleton_iff.mp hresto with ⟨rfl, -⟩ | ⟨rfl, -⟩
      · exact hpunto hd
      · exact hdos hd

/-- What the two directories have in common when the path is taken from one component further. -/
theorem arriba_pega (e : Entrada) (q : Texto) (k : Nat) : arriba k e.launch = arriba k (e.current ++ [q]) ↔
    if e.anidado then q = e.dir ∨ 1 ≤ k else e.padre.length + 2 ≤ k := by
  rw [launch]
  split
  · rw [arriba_hermanos, eq_comm]
  · rw [arriba_eq_iff]
    · rw [List.length_append, current, List.length_append, List.length_singleton, List.length_singleton]
    · rw [List.length_append, List.length_append, current, List.length_append]
      simp only [List.length_singleton]
      omega

theorem relativiza_pega (h : e.dir <+: e.p) : e.Relativiza ↔
    ∃ q r, e.p = q ++ '/' :: r ∧ '/' ∉ q ∧ r.length + 2 < filenameMax ∧
      if e.anidado then q = e.dir ∨ 1 ≤ sube r else e.padre.length + 2 ≤ sube r := by
  rw [Relativiza, relativizeDir_pega h]
  have hiff : ∀ q r, e.p = q ++ '/' :: r → '/' ∉ q →
      ((∃ relativo, escribir ('.' :: '/' :: r) = .escrito relativo ∧
        resolver e.launch relativo = resolver e.current e.ruta) ↔
        r.length + 2 < filenameMax ∧
          if e.anidado then q = e.dir ∨ 1 ≤ sube r else e.padre.length + 2 ≤ sube r) := by
    intro q r hp hq
    have hresuelve : resolver e.launch ('.' :: '/' :: r) = resolver e.current e.ruta ↔
        if e.anidado then q = e.dir ∨ 1 ≤ sube r else e.padre.length + 2 ≤ sube r := by
      rw [ruta, resolver_punto, resolver_punto, hp, List.splitOn_append_cons_self,
        List.splitOn_eq_singleton hq, recorrer_append]
      show recorrer e.launch _ = recorrer (paso e.current q) _ ↔ _
      rw [paso_nombre (primera_nombre h hp hq), recorrer_eq_iff]
      exact arriba_pega e q _
    constructor
    · rintro ⟨relativo, hescribe, hres⟩
      obtain ⟨rfl, hcabe⟩ := escribir_iff.mp hescribe
      exact ⟨hcabe, hresuelve.mp hres⟩
    · rintro ⟨hcabe, hres⟩
      exact ⟨_, escribir_iff.mpr ⟨rfl, hcabe⟩, hresuelve.mpr hres⟩
  constructor
  · intro hrel
    by_cases hbarra : '/' ∈ e.p
    · obtain ⟨q, r, hp, hq⟩ := exists_primera hbarra
      rw [hp, desdePrimera_eq hq] at hrel
      exact ⟨q, r, hp, hq, (hiff q r hp hq).mp hrel⟩
    · -- strchr finds nothing
      rw [desdePrimera, if_neg hbarra] at hrel
      obtain ⟨relativo, hno, -⟩ := hrel
      cases hno
  · rintro ⟨q, r, hp, hq, hbien⟩
    rw [hp, desdePrimera_eq hq]
    exact (hiff q r hp hq).mpr hbien

/-! ## Any other path -/

theorem relativizeDir_no_pega (h : ¬e.dir <+: e.p) :
    relativizeDir e.ruta (texto e.launch) (texto e.current) =
      desdeComun e.ruta (texto e.launch) (texto e.current) := by
  unfold relativizeDir
  rw [desdeUltima_launch, ruta]
  exact if_neg h

/-- In a directory of the current one, the text is that of the current one. -/
theorem desdeComun_anidado (h : e.anidado = true) : desdeComun e.ruta (texto e.launch) (texto e.current) =
    if (texto e.launch).length < filenameMax then escribir (e.prefijo ++ e.ruta) else .fuera := by
  have hlaunch : texto e.launch = texto e.current ++ '/' :: e.dir := by
    rw [launch, if_pos h, texto_append]
  have havanza : avanzar (texto e.current) (texto e.launch) = ([], '/' :: e.dir) := by
    have hcomun := avanzar_append (texto e.current) [] ('/' :: e.dir)
    rwa [List.append_nil, ← hlaunch] at hcomun
  have hhasta : hastaUltima (texto e.launch) = some (texto e.current ++ ['/']) := by
    rw [hlaunch, hastaUltima_append _ e.dirNombre.2.1]
  have hrecorta : recortar ('/' :: e.dir) (texto e.current ++ ['/']) = some (texto e.current ++ ['/']) := by
    rw [recortar, if_pos rfl, hastaUltima_append _ (by simp), Option.bind_some,
      recortar_sin_barra e.dirNombre.2.1]
  rw [desdeComun, havanza]
  have hnada : (if ([] : Texto) ≠ [] then ([] : Texto) ++ ['/'] else []) = [] := rfl
  dsimp only
  rw [if_pos (List.cons_ne_nil _ _), hhasta, Option.bind_some, hrecorta, prefijo, if_pos h, hnada]
  dsimp only
  rw [List.append_nil]

/-- The names of the two directories, taken apart. -/
theorem restos (e : Entrada) : ∃ c, e.actual = c ++ e.resto₁ ∧ e.dir = c ++ e.resto₂ :=
  avanzar_spec e.actual e.dir

theorem resto_sin_barra (e : Entrada) : '/' ∉ e.resto₁ ∧ '/' ∉ e.resto₂ := by
  obtain ⟨c, hactual, hdir⟩ := e.restos
  refine ⟨fun h => e.actualNombre.2.1 ?_, fun h => e.dirNombre.2.1 ?_⟩
  · rw [hactual]
    exact List.mem_append_right _ h
  · rw [hdir]
    exact List.mem_append_right _ h

theorem desdeComun_hermano (h : e.anidado = false) :
    desdeComun e.ruta (texto e.launch) (texto e.current) =
      if (texto e.launch).length < filenameMax then escribir (e.prefijo ++ e.ruta) else .fuera := by
  have hlaunch : texto e.launch = texto e.padre ++ '/' :: e.dir := by
    rw [launch, h, if_neg Bool.false_ne_true, texto_append]
  have havanza : avanzar (texto e.current) (texto e.launch) = (e.resto₁, e.resto₂) := by
    rw [hlaunch, current, texto_append, avanzar_append, avanzar, if_pos rfl]
    rfl
  have hhasta : hastaUltima (texto e.launch) = some (texto e.padre ++ ['/']) := by
    rw [hlaunch, hastaUltima_append _ e.dirNombre.2.1]
  rw [desdeComun, havanza]
  dsimp only
  rw [hhasta, prefijo, h, if_neg Bool.false_ne_true]
  by_cases hresto : e.resto₂ = []
  · rw [if_neg (not_not.mpr hresto), Option.bind_some, recortar_sin_barra e.resto_sin_barra.2,
      if_neg (not_not.mpr hresto)]
  · rw [if_pos hresto, Option.bind_some, recortar_sin_barra e.resto_sin_barra.2, if_pos hresto]

/-- The directory that the text in front of the path denotes. -/
def desde (e : Entrada) : List Texto :=
  if e.anidado then e.current
  else recorrer (if e.resto₂ ≠ [] then e.padre else e.padre ++ [e.dir])
    (if e.resto₁ ≠ [] then [e.resto₁] else [])

/-- The name of the current directory has something of its own when the names are not equal. -/
theorem resto₁_ne_nil (h : e.actual ≠ e.dir) (hresto : e.resto₂ = []) : e.resto₁ ≠ [] := by
  intro hnada
  obtain ⟨c, hactual, hdir⟩ := e.restos
  rw [hnada] at hactual
  rw [hresto] at hdir
  exact h (hactual.trans hdir.symm)

theorem resto₂_ne_nil (h : e.resto₁ = e.actual) : e.resto₂ ≠ [] := by
  intro hnada
  obtain ⟨c, hactual, hdir⟩ := e.restos
  rw [h] at hactual
  rw [List.self_eq_append_left.mp hactual, hnada] at hdir
  exact e.dirNombre.1 hdir

theorem restos_iguales (h : e.actual = e.dir) : e.resto₁ = [] ∧ e.resto₂ = [] := by
  have higuales := avanzar_append e.actual [] []
  rw [List.append_nil] at higuales
  rw [resto₁, resto₂, ← h, higuales]
  exact ⟨rfl, rfl⟩

/-- The text in front of the path is that of directories, and maybe what is left of a name. -/
theorem prefijo_eq (e : Entrada) : ∃ cs : List Texto, (∀ c ∈ cs, '/' ∉ c) ∧
    recorrer [] cs = e.desde ∧ e.prefijo = texto cs ++ ['/'] := by
  have hcurrent := e.current_nombres
  rw [prefijo, desde]
  split
  case isTrue => exact ⟨e.current, fun c hc => (hcurrent c hc).2.1, recorrer_nombres hcurrent [], rfl⟩
  case isFalse hanidado =>
    obtain ⟨base, hbase, htexto⟩ : ∃ base : List Texto, (∀ c ∈ base, EsNombre c) ∧
        (if e.resto₂ ≠ [] then e.padre else e.padre ++ [e.dir]) = base ∧
        (if e.resto₂ ≠ [] then texto e.padre ++ ['/'] else texto e.launch ++ ['/']) =
          texto base ++ ['/'] := by
      split
      · exact ⟨e.padre, e.padreNombres, rfl, rfl⟩
      · refine ⟨e.padre ++ [e.dir], fun c hc => ?_, rfl, by rw [launch, if_neg hanidado]⟩
        rcases List.mem_append.mp hc with hc | hc
        · exact e.padreNombres c hc
        · rw [List.mem_singleton.mp hc]
          exact e.dirNombre
    rw [htexto.1, htexto.2]
    have hdesde := recorrer_nombres hbase []
    rw [List.nil_append] at hdesde
    split
    · refine ⟨base ++ [e.resto₁], fun c hc => ?_, by rw [recorrer_append, hdesde], ?_⟩
      · rcases List.mem_append.mp hc with hc | hc
        · exact (hbase c hc).2.1
        · rw [List.mem_singleton.mp hc]
          exact e.resto_sin_barra.1
      · rw [texto_append, List.append_assoc, List.append_assoc]
        rfl
    · exact ⟨base, fun c hc => (hbase c hc).2.1, hdesde, by rw [List.append_nil]⟩

theorem resolver_prefijo (e : Entrada) (dir : List Texto) :
    resolver dir (e.prefijo ++ e.ruta) = recorrer e.desde (e.p.splitOn '/') := by
  obtain ⟨cs, hbarra, hdesde, htexto⟩ := e.prefijo_eq
  have hpunto : e.ruta.splitOn '/' = ['.'] :: e.p.splitOn '/' := List.splitOn_append_cons_self ['.'] e.p
  rw [htexto, List.append_assoc, List.singleton_append, resolver_texto dir hbarra, hdesde, hpunto]
  rfl

/-- Next to the current directory, what it has in common with the one that the text denotes. -/
theorem arriba_hermano (h : e.anidado = false) (k : Nat) :
    arriba k e.desde = arriba k e.current ↔ e.niveles ≤ k := by
  have hlargo : e.current.length = e.padre.length + 1 := by
    rw [current, List.length_append, List.length_singleton]
  -- the text denotes a directory that is higher than the current one
  have halto : ∀ dir : List Texto, dir.length ≤ e.padre.length →
      (arriba k dir = arriba k e.current ↔ e.padre.length + 1 ≤ k) := by
    intro dir hdir
    rw [arriba_eq_iff (by omega), hlargo]
  rw [desde, h, if_neg Bool.false_ne_true, niveles]
  by_cases higuales : e.actual = e.dir
  · obtain ⟨huno, hdos⟩ := restos_iguales higuales
    rw [if_pos (Or.inl higuales), huno, hdos, if_neg (not_not.mpr rfl), if_neg (not_not.mpr rfl), ← higuales]
    exact ⟨fun _ => Nat.zero_le k, fun _ => rfl⟩
  by_cases hcomun : e.resto₁ = e.actual
  · rw [if_pos (Or.inr hcomun), if_pos (resto₂_ne_nil hcomun), hcomun, if_pos e.actualNombre.1,
      recorrer_nombres (by simpa using e.actualNombre)]
    exact ⟨fun _ => Nat.zero_le k, fun _ => rfl⟩
  rw [if_neg (not_or.mpr ⟨higuales, hcomun⟩)]
  by_cases hresto : e.resto₂ = []
  · have huno := resto₁_ne_nil higuales hresto
    rw [if_neg (not_not.mpr hresto), if_neg (not_not.mpr hresto), if_pos huno]
    by_cases hpunto : e.resto₁ = ['.']
    · rw [if_pos hpunto, hpunto]
      show arriba k (e.padre ++ [e.dir]) = _ ↔ _
      rw [current, arriba_hermanos]
      exact or_iff_right (Ne.symm higuales)
    rw [if_neg hpunto]
    by_cases hdos : e.resto₁ = ['.', '.']
    · rw [if_pos hdos, hdos]
      show arriba k (e.padre ++ [e.dir]).dropLast = _ ↔ _
      rw [List.dropLast_concat]
      exact halto _ (Nat.le_refl _)
    · rw [if_neg hdos, recorrer_nombres (by simpa using ⟨huno, e.resto_sin_barra.1, hpunto, hdos⟩), eq_comm,
        arriba_eq_iff]
      · simp only [List.length_append, List.length_singleton]
      · simp only [List.length_append, List.length_singleton, hlargo]
        omega
  · rw [if_pos hresto, if_pos hresto]
    by_cases hnombre : EsNombre e.resto₁
    · rw [if_pos hnombre, if_pos hnombre.1, recorrer_nombres (by simpa using hnombre), current,
        arriba_hermanos]
      exact or_iff_right hcomun
    · rw [if_neg hnombre]
      refine halto _ ?_
      split
      case isFalse => exact Nat.le_refl _
      case isTrue huno =>
        show (paso e.padre e.resto₁).length ≤ _
        rw [paso]
        split
        · exact Nat.le_refl _
        · split
          · rw [List.length_dropLast]
            omega
          · rename_i hpunto hdos
            exact absurd ⟨huno, e.resto_sin_barra.1, fun hp => hpunto (Or.inr hp), hdos⟩ hnombre

theorem arriba_desde (e : Entrada) (k : Nat) :
    arriba k e.desde = arriba k e.current ↔ e.anidado = true ∨ e.niveles ≤ k := by
  cases h : e.anidado with
  | true =>
    rw [desde, if_pos h]
    simp
  | false =>
    rw [arriba_hermano h]
    simp

theorem relativiza_no_pega (h : ¬e.dir <+: e.p) : e.Relativiza ↔
    (texto e.launch).length < filenameMax ∧ (e.prefijo ++ e.ruta).length < filenameMax ∧
      (e.anidado = true ∨ e.niveles ≤ sube e.p) := by
  have hprefijo : desdeComun e.ruta (texto e.launch) (texto e.current) =
      if (texto e.launch).length < filenameMax then escribir (e.prefijo ++ e.ruta) else .fuera := by
    cases hanidado : e.anidado with
    | true => exact desdeComun_anidado hanidado
    | false => exact desdeComun_hermano hanidado
  have hresuelve : resolver e.launch (e.prefijo ++ e.ruta) = resolver e.current e.ruta ↔
      e.anidado = true ∨ e.niveles ≤ sube e.p := by
    rw [resolver_prefijo, ruta, resolver_punto, recorrer_eq_iff]
    exact arriba_desde e _
  rw [Relativiza, relativizeDir_no_pega h, hprefijo]
  constructor
  · rintro ⟨relativo, hescribe, hres⟩
    split at hescribe
    case isTrue hcabe =>
      obtain ⟨rfl, hcabe'⟩ := escribir_iff.mp hescribe
      exact ⟨hcabe, hcabe', hresuelve.mp hres⟩
    case isFalse => cases hescribe
  · rintro ⟨hcabe, hcabe', hres⟩
    rw [if_pos hcabe]
    exact ⟨_, escribir_iff.mpr ⟨rfl, hcabe'⟩, hresuelve.mpr hres⟩

end Entrada

/-- A path is relativised to one that denotes the same file exactly when `Bien` says so. -/
theorem relativiza_iff (e : Entrada) : e.Relativiza ↔ e.Bien := by
  rw [Entrada.Bien]
  split
  case isTrue h => exact Entrada.relativiza_pega h
  case isFalse h => exact Entrada.relativiza_no_pega h

/-- From `/pruebas`, with `/processes` next to it, `./locks` becomes `/uebas/./locks`; with
    `/pruebas/processes` inside, the end of `./processes.log` is looked for after a slash that it does not
    have. -/
def hermano : Entrada := ⟨[], "pruebas".toList, "processes".toList, false, "locks".toList, by simp,
  by decide +kernel, by decide +kernel⟩

def sinBarra : Entrada := ⟨[], "pruebas".toList, "processes".toList, true, "processes.log".toList, by simp,
  by decide +kernel, by decide +kernel⟩

theorem ruta_perdida :
    (relativizeDir hermano.ruta (texto hermano.launch) (texto hermano.current) =
        .escrito "/uebas/./locks".toList ∧
      ¬hermano.Relativiza) ∧
    relativizeDir sinBarra.ruta (texto sinBarra.launch) (texto sinBarra.current) = .fuera ∧
      ¬sinBarra.Relativiza := by
  have hescrito : relativizeDir hermano.ruta (texto hermano.launch) (texto hermano.current) =
      .escrito "/uebas/./locks".toList := by decide +kernel
  have hfuera : relativizeDir sinBarra.ruta (texto sinBarra.launch) (texto sinBarra.current) = .fuera := by
    decide +kernel
  refine ⟨⟨hescrito, ?_⟩, hfuera, ?_⟩
  · rintro ⟨relativo, hrel, hresuelve⟩
    rw [hescrito] at hrel
    cases Salida.escrito.inj hrel
    revert hresuelve
    decide +kernel
  · rintro ⟨relativo, hrel, -⟩
    rw [hfuera] at hrel
    cases hrel

end RelativizeDir
