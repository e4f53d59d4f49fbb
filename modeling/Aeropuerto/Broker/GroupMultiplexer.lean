import Aeropuerto.Biblioteca.ColaDeMensajes
import Aeropuerto.Biblioteca.Sumas

/-!
# The table of groups of a broker (`local_broker/group_multiplexer.cpp`)

One dispatcher calls `forward_message` in a loop and each process of `ι` constructs a
`GroupMultiplexer(path, name)`.  A step reads or writes one entry of the table; the calls to the system do
not fail.
-/

namespace GroupMultiplexer

open Ejecucion
open ColaDeMensajes (extraer)

def maxGrupos : Nat := 128

def maxNombreRecurso : Nat := 64

/-- The characters before the final zero. -/
abbrev Cadena := List {c : UInt8 // c ≠ 0}

-- mensajes::LEADER
def leader : Nat := 0

structure Mensaje where
  tipo : Nat
  -- the string that begins at nombre_grupo
  nombreGrupo : Cadena
  data : List UInt8
  deriving DecidableEq

/-- `grupos_creados`, whose first `MAX_GRUPOS` entries are used. -/
abbrev Tabla := Nat → Cadena

/-- `strncpy` and `strncmp` stop after `MAX_NOMBRE_RECURSO` characters. -/
def recortar (nombre : Cadena) : Cadena := nombre.take maxNombreRecurso

def cadenaDesde (t : Tabla) : Nat → Cadena
  | 0 => []
  | quedan + 1 =>
    let entrada := t (maxGrupos - (quedan + 1))
    if entrada.length < maxNombreRecurso then entrada else entrada ++ cadenaDesde t quedan

/-- `std::string(grupos_creados [i])`: an entry without a zero goes on in the next one. -/
def cadena (t : Tabla) (i : Nat) : Cadena := cadenaDesde t (maxGrupos - i)

/-- The constructor with a name; `numero` is `numero_cola_asignada`. -/
inductive Proceso where
  | afuera
  | espera (nombre : Cadena) (numero : Int)
  | busca (nombre : Cadena) (numero : Int) (i : Nat)
  | copia (nombre : Cadena) (i : Nat)
  | avisa (nombre : Cadena) (numero : Int)
  | suelta (nombre : Cadena) (numero : Int)
  | construido (nombre : Cadena) (numero : Int)
  deriving DecidableEq

inductive Despachador where
  | afuera
  | espera (m : Mensaje)
  | pone (m : Mensaje)
  | avisa (m : Mensaje) (i : Nat)
  -- the group is not in the map
  | signaliza (m : Mensaje)
  | busca (m : Mensaje) (i : Nat)
  | suelta (m : Mensaje) (asignado : Option Int)
  | reparte (m : Mensaje) (asignado : Option Int)
  deriving DecidableEq

/-- Between `wait_on` and `signalize`. -/
def Proceso.dentro : Proceso → Bool
  | .busca .. | .copia .. | .avisa .. | .suelta .. => true
  | .afuera | .espera .. | .construido .. => false

/-- Between `wait_on`, or the `signalize` in its place, and `signalize`. -/
def Despachador.dentro : Despachador → Bool
  | .pone .. | .avisa .. | .busca .. | .suelta .. => true
  | .afuera | .espera .. | .signaliza .. | .reparte .. => false

structure Estado (ι : Type*) where
  sem : Nat
  lider : Bool
  gruposCreados : Tabla
  procesos : ι → Proceso
  despachador : Despachador
  grupos : List (Cadena × Int)
  colaEsperaGrupos : List (Int × Mensaje)
  -- pushed to interfaz_grupos
  interfaz : List Mensaje
  -- the messages that the dispatcher took, and where it pushed those that are not LEADER
  recibidos : List Mensaje
  salidas : List (Mensaje × Option Int)
  -- how many times it has looked a group up in the table
  consultas : Nat
  -- what pull gave to each process
  leidos : ι → List Mensaje

inductive Evento (ι : Type*) where
  -- numero is what the memory of the new object has
  | construye (p : ι) (nombre : Cadena) (numero : Int)
  -- mensaje is what the local variable has
  | proceso (p : ι) (mensaje : Mensaje)
  | recibe (m : Mensaje)
  | despachador
  | pull (p : ι)
  | push (p : ι) (m : Mensaje)

/-- The constructor of the dispatcher clears the entries after the first one. -/
def crearTabla (memoria : Tabla) : Tabla :=
  fun i => if 1 ≤ i ∧ i < maxGrupos then [] else memoria i

variable {ι : Type*}

/-- The dispatcher has been constructed on a new segment of shared memory. -/
def inicial : Estado ι where
  sem := 1
  lider := false
  gruposCreados := crearTabla fun _ => []
  procesos := fun _ => .afuera
  despachador := .afuera
  grupos := []
  colaEsperaGrupos := []
  interfaz := []
  recibidos := []
  salidas := []
  consultas := 0
  leidos := fun _ => []

/-- One turn of the loop of the constructor. -/
def buscar (t : Tabla) (nombre : Cadena) (numero : Int) (i : Nat) : Proceso :=
  if i < maxGrupos then
    if t i ≠ [] ∧ recortar (t i) = recortar nombre then .avisa nombre (i + 1)
    else if t i = [] then .copia nombre i
    else .busca nombre numero (i + 1)
  else .avisa nombre numero

/-- `insert` of a `std::map` keeps the value of a key that is there. -/
def insertar (grupos : List (Cadena × Int)) (clave : Cadena) (numero : Int) : List (Cadena × Int) :=
  if (grupos.lookup clave).isSome then grupos else grupos ++ [(clave, numero)]

/-- One turn of the loop of `forward_message`. -/
def buscarGrupo (t : Tabla) (grupos : List (Cadena × Int)) (m : Mensaje) (i : Nat) :
    List (Cadena × Int) × Despachador :=
  if i < maxGrupos then
    if t i ≠ [] ∧ recortar (t i) = recortar m.nombreGrupo then
      (insertar grupos (cadena t i) (i + 1), .suelta m (some (i + 1)))
    else if t i = [] then (grupos, .suelta m none)
    else (grupos, .busca m (i + 1))
  else (grupos, .suelta m none)

variable [DecidableEq ι]

def Estado.mueve (s : Estado ι) (p : ι) (x : Proceso) : Estado ι :=
  { s with procesos := Function.update s.procesos p x }

def pasoProceso (s : Estado ι) (p : ι) (mensaje : Mensaje) : Option (Estado ι) :=
  match s.procesos p with
  | .espera nombre numero =>
    if 0 < s.sem then some ({ s with sem := s.sem - 1 }.mueve p (.busca nombre numero 0)) else none
  | .busca nombre numero i => some (s.mueve p (buscar s.gruposCreados nombre numero i))
  | .copia nombre i =>
    some ({ s with gruposCreados := Function.update s.gruposCreados i (recortar nombre) }.mueve p
      (.avisa nombre (i + 1)))
  | .avisa nombre numero =>
    -- of the message only the type is set
    let cola := if s.lider then s.colaEsperaGrupos ++ [(numero, { mensaje with tipo := leader })]
      else s.colaEsperaGrupos
    some ({ s with colaEsperaGrupos := cola }.mueve p (.suelta nombre numero))
  | .suelta nombre numero => some ({ s with sem := s.sem + 1 }.mueve p (.construido nombre numero))
  | .afuera | .construido .. => none

def pasoDespachador (s : Estado ι) : Option (Estado ι) :=
  match s.despachador with
  | .espera m => if 0 < s.sem then some { s with sem := s.sem - 1, despachador := .pone m } else none
  | .pone m => some { s with lider := true, despachador := .avisa m 0 }
  | .avisa m i =>
    if i < maxGrupos then
      let cola := if s.gruposCreados i ≠ [] then s.colaEsperaGrupos ++ [((i : Int) + 1, m)]
        else s.colaEsperaGrupos
      some { s with colaEsperaGrupos := cola, despachador := .avisa m (i + 1) }
    else some { s with sem := s.sem + 1, despachador := .afuera }
  -- the source has signalize where the other sections have wait_on
  | .signaliza m =>
    some { s with sem := s.sem + 1, consultas := s.consultas + 1, despachador := .busca m 0 }
  | .busca m i =>
    let r := buscarGrupo s.gruposCreados s.grupos m i
    some { s with grupos := r.1, despachador := r.2 }
  | .suelta m asignado => some { s with sem := s.sem + 1, despachador := .reparte m asignado }
  | .reparte m (some numero) =>
    some
      { s with
        colaEsperaGrupos := s.colaEsperaGrupos ++ [(numero, m)]
        salidas := s.salidas ++ [(m, some numero)]
        despachador := .afuera }
  | .reparte m none =>
    some
      { s with
        interfaz := s.interfaz ++ [m]
        salidas := s.salidas ++ [(m, none)]
        despachador := .afuera }
  | .afuera => none

/-- `interfaz_grupos.pull` and the branch that is taken. -/
def recibir (s : Estado ι) (m : Mensaje) : Estado ι :=
  { s with
    recibidos := s.recibidos ++ [m]
    despachador :=
      if m.tipo = leader then .espera m
      else
        match s.grupos.lookup m.nombreGrupo with
        | some numero => .reparte m (some numero)
        | none => .signaliza m }

def pull (s : Estado ι) (p : ι) : Option (Estado ι) :=
  match s.procesos p with
  | .construido _ numero =>
    (extraer (fun x => decide (x.1 = numero)) s.colaEsperaGrupos).map fun (x, cola) =>
      { s with
        colaEsperaGrupos := cola
        leidos := Function.update s.leidos p (s.leidos p ++ [x.2]) }
  | _ => none

def push (s : Estado ι) (p : ι) (m : Mensaje) : Option (Estado ι) :=
  match s.procesos p with
  | .construido .. => some { s with interfaz := s.interfaz ++ [m] }
  | _ => none

/-- The names are those of `nombres`. -/
def paso (nombres : Finset Cadena) (s : Estado ι) : Evento ι → Option (Estado ι)
  | .construye p nombre numero =>
    if s.procesos p = .afuera ∧ nombre ∈ nombres then some (s.mueve p (.espera nombre numero)) else none
  | .proceso p mensaje => pasoProceso s p mensaje
  | .recibe m => if s.despachador = .afuera then some (recibir s m) else none
  | .despachador => pasoDespachador s
  | .pull p => pull s p
  | .push p m => push s p m

/-! ## The balance of the semaphore -/

variable [Fintype ι] {nombres : Finset Cadena} {s s' : Estado ι} {e : Evento ι}

/-- The processes inside a section. -/
def adentro (s : Estado ι) : Nat :=
  (∑ p, (s.procesos p).dentro.toNat) + s.despachador.dentro.toNat

/-- The dispatcher is not before its look-up. -/
def sinConsulta (s : Estado ι) : Evento ι → Bool
  | .despachador =>
    match s.despachador with
    | .signaliza _ => false
    | _ => true
  | _ => true

/-- The steps into a section. -/
def entra (s : Estado ι) : Evento ι → Bool
  | .proceso p _ =>
    match s.procesos p with
    | .espera .. => true
    | _ => false
  | .despachador =>
    match s.despachador with
    | .espera _ | .signaliza _ => true
    | _ => false
  | _ => false

/-- Nobody enters while another process is inside. -/
def deAUno (s : Estado ι) (e : Evento ι) : Bool := !entra s e || adentro s == 0

theorem dentro_buscar (t : Tabla) (nombre : Cadena) (numero : Int) (i : Nat) :
    (buscar t nombre numero i).dentro = true := by
  unfold buscar
  split_ifs <;> rfl

theorem dentro_buscarGrupo (t : Tabla) (grupos : List (Cadena × Int)) (m : Mensaje) (i : Nat) :
    (buscarGrupo t grupos m i).2.dentro = true := by
  unfold buscarGrupo
  split_ifs <;> rfl

omit [Fintype ι] in
theorem procesos_mueve_self (s : Estado ι) (p : ι) (x : Proceso) : (s.mueve p x).procesos p = x :=
  Function.update_self ..

omit [Fintype ι] in
theorem procesos_mueve_of_ne {p q : ι} {x : Proceso} (h : q ≠ p) : (s.mueve p x).procesos q = s.procesos q :=
  Function.update_of_ne h ..

theorem adentro_mueve (s : Estado ι) (p : ι) (x : Proceso) :
    adentro (s.mueve p x) + (s.procesos p).dentro.toNat = adentro s + x.dentro.toNat := by
  have hsuma := Sumas.suma_update (fun _ (y : Proceso) => y.dentro.toNat) s.procesos (Finset.mem_univ p) x
  unfold adentro
  simp only [Estado.mueve]
  omega

theorem adentro_entra {p : ι} {x : Proceso} (hp : (s.procesos p).dentro = false) (hx : x.dentro = true) :
    adentro (s.mueve p x) = adentro s + 1 := by
  have hmueve := adentro_mueve s p x
  rw [hp, hx] at hmueve
  exact hmueve

theorem adentro_sigue {p : ι} {x : Proceso} (hx : x.dentro = (s.procesos p).dentro) :
    adentro (s.mueve p x) = adentro s :=
  Nat.add_right_cancel (hx ▸ adentro_mueve s p x)

theorem adentro_sale {p : ι} {x : Proceso} (hp : (s.procesos p).dentro = true) (hx : x.dentro = false) :
    adentro (s.mueve p x) + 1 = adentro s := by
  have hmueve := adentro_mueve s p x
  rw [hp, hx] at hmueve
  exact hmueve

theorem cuenta_pasoProceso {p : ι} {mensaje : Mensaje} (h : pasoProceso s p mensaje = some s') :
    s'.sem + adentro s' = s.sem + adentro s ∧ s'.consultas = s.consultas := by
  rw [pasoProceso] at h
  split at h
  case h_1 nombre numero hp =>
    split_ifs at h with hsem
    cases h
    have hentra : adentro ({ s with sem := s.sem - 1 }.mueve p (.busca nombre numero 0)) = adentro s + 1 :=
      adentro_entra (congrArg Proceso.dentro hp) rfl
    refine ⟨?_, rfl⟩
    rw [hentra]
    show s.sem - 1 + _ = _
    omega
  case h_2 nombre numero i hp =>
    cases h
    have hbuscar := (dentro_buscar s.gruposCreados nombre numero i).trans (congrArg Proceso.dentro hp).symm
    exact ⟨congrArg (s.sem + ·) (adentro_sigue hbuscar), rfl⟩
  case h_3 nombre i hp =>
    cases h
    exact ⟨congrArg (s.sem + ·) (adentro_sigue (congrArg Proceso.dentro hp).symm), rfl⟩
  case h_4 nombre numero hp =>
    cases h
    exact ⟨congrArg (s.sem + ·) (adentro_sigue (congrArg Proceso.dentro hp).symm), rfl⟩
  case h_5 nombre numero hp =>
    cases h
    have hsale : adentro ({ s with sem := s.sem + 1 }.mueve p (.construido nombre numero)) + 1 = adentro s :=
      adentro_sale (congrArg Proceso.dentro hp) rfl
    refine ⟨?_, rfl⟩
    show s.sem + 1 + _ = _
    omega
  all_goals cases h

omit [DecidableEq ι] in
/-- Each look-up in the table leaves the sum two above. -/
theorem cuenta_pasoDespachador (h : pasoDespachador s = some s') :
    s'.sem + adentro s' + 2 * s.consultas = s.sem + adentro s + 2 * s'.consultas := by
  unfold pasoDespachador at h
  split at h
  case h_1 m hd =>
    split_ifs at h with hsem
    cases h
    simp only [adentro, hd, Despachador.dentro, Bool.toNat_false, Bool.toNat_true]
    omega
  case h_3 m i hd =>
    split_ifs at h
    all_goals
      cases h
      simp only [adentro, hd, Despachador.dentro, Bool.toNat_false, Bool.toNat_true] <;> omega
  case h_5 m i hd =>
    cases h
    simp only [adentro, hd, dentro_buscarGrupo]
    rfl
  case h_9 => cases h
  all_goals
    rename_i hd
    cases h
    simp only [adentro, hd, Despachador.dentro, Bool.toNat_false, Bool.toNat_true] <;> omega

theorem cuenta_paso (h : paso nombres s e = some s') :
    s'.sem + adentro s' + 2 * s.consultas = s.sem + adentro s + 2 * s'.consultas := by
  cases e with
  | construye p nombre numero =>
    rw [paso] at h
    split_ifs at h with hp
    cases h
    have hsigue : adentro (s.mueve p (.espera nombre numero)) = adentro s :=
      adentro_sigue (by rw [hp.1]; rfl)
    rw [hsigue]
    rfl
  | proceso p mensaje =>
    obtain ⟨hsuma, hconsultas⟩ := cuenta_pasoProceso h
    rw [hsuma, hconsultas]
  | recibe m =>
    rw [paso] at h
    split_ifs at h with hd
    cases h
    have hafuera : (recibir s m).despachador.dentro = false := by
      unfold recibir
      split_ifs
      · rfl
      · cases s.grupos.lookup m.nombreGrupo <;> rfl
    simp only [adentro, hafuera, hd]
    rfl
  | despachador => exact cuenta_pasoDespachador h
  | pull p =>
    rw [paso, pull] at h
    split at h
    · obtain ⟨r, -, rfl⟩ := Option.map_eq_some_iff.mp h
      rfl
    · cases h
  | push p m =>
    rw [paso, push] at h
    split at h <;> cases h
    rfl

/-! ## The table -/

/-- The number of a name is one more than the position of its entry. -/
def Numero (t : Tabla) (nombre : Cadena) (numero : Int) : Prop :=
  ∃ i < maxGrupos, numero = (i : Int) + 1 ∧ t i = nombre ∧ nombre ≠ []

/-- The entries before `i` have other names. -/
def Pasadas (t : Tabla) (nombre : Cadena) (i : Nat) : Prop :=
  ∀ j < i, t j ≠ [] ∧ t j ≠ recortar nombre

/-- The empty entries are at the end, and the others have names that differ. -/
structure Ordenada (nombres : Finset Cadena) (t : Tabla) : Prop where
  vacias : ∀ i j, i ≤ j → t i = [] → t j = []
  distintas : ∀ i j, t i = t j → t i ≠ [] → i = j
  registradas : ∀ i, t i ≠ [] → ∃ nombre ∈ nombres, t i = recortar nombre

/-- The names are not empty, and their first `MAX_NOMBRE_RECURSO` characters tell them apart. -/
structure Distinguibles (nombres : Finset Cadena) : Prop where
  vacia : [] ∉ nombres
  cortas : ∀ a ∈ nombres, ∀ b ∈ nombres, recortar a = recortar b → a = b

variable {t t' : Tabla} {nombre : Cadena} {i : Nat} {numero : Int}

theorem recortar_recortar (nombre : Cadena) : recortar (recortar nombre) = recortar nombre := by
  rw [recortar, recortar, List.take_take, Nat.min_self]

theorem recortar_ne_nil (h : nombre ≠ []) : recortar nombre ≠ [] := by
  rw [recortar, Ne, List.take_eq_nil_iff]
  exact fun hnil => hnil.elim (by decide) h

theorem Ordenada.recortar_eq (h : Ordenada nombres t) (hi : t i ≠ []) : recortar (t i) = t i := by
  obtain ⟨nombre, -, heq⟩ := h.registradas i hi
  rw [heq, recortar_recortar]

/-- Whatever follows the entry, its own characters are the first ones. -/
theorem Ordenada.recortar_cadena (h : Ordenada nombres t) (hi : t i ≠ []) (hlt : i < maxGrupos) :
    recortar (cadena t i) = t i := by
  obtain ⟨quedan, hquedan⟩ : ∃ quedan, maxGrupos - i = quedan + 1 := ⟨maxGrupos - i - 1, by omega⟩
  have hpos : maxGrupos - (quedan + 1) = i := by omega
  have hcorta := h.recortar_eq hi
  rw [cadena, hquedan, cadenaDesde, hpos]
  split_ifs with hlen
  · exact hcorta
  · have hlargo : (t i).length = maxNombreRecurso := by
      have hle := congrArg List.length hcorta
      rw [recortar, List.length_take] at hle
      omega
    rw [recortar, List.take_append_of_le_length hlargo.ge, List.take_of_length_le hlargo.le]

theorem Ordenada.vacia : Ordenada nombres fun _ => [] where
  vacias _ _ _ _ := rfl
  distintas _ _ _ h := absurd rfl h
  registradas _ h := absurd rfl h

/-- Every entry belongs to another name, and there are at most `MAX_GRUPOS` names. -/
theorem Ordenada.lugar (h : Ordenada nombres t) (hcard : nombres.card ≤ maxGrupos) (hn : nombre ∈ nombres)
    (hp : Pasadas t nombre i) : i < maxGrupos := by
  by_contra hi
  have hmaps : ∀ j ∈ Finset.range maxGrupos, t j ∈ (nombres.image recortar).erase (recortar nombre) := by
    intro j hj
    obtain ⟨hno, hdistinta⟩ := hp j ((Finset.mem_range.mp hj).trans_le (Nat.le_of_not_lt hi))
    obtain ⟨otro, hotro, heq⟩ := h.registradas j hno
    exact Finset.mem_erase.mpr ⟨hdistinta, heq ▸ Finset.mem_image_of_mem _ hotro⟩
  have hinj : Set.InjOn t (Finset.range maxGrupos) := fun a ha b _ hab =>
    h.distintas a b hab (hp a ((Finset.mem_range.mp ha).trans_le (Nat.le_of_not_lt hi))).1
  have hle := Finset.card_le_card_of_injOn t hmaps hinj
  rw [Finset.card_range, Finset.card_erase_of_mem (Finset.mem_image_of_mem _ hn)] at hle
  have himage := Finset.card_image_le (s := nombres) (f := recortar)
  have hpos : 0 < maxGrupos := by decide
  omega

theorem Ordenada.copia (h : Ordenada nombres t) (hn : nombre ∈ nombres) (hno : nombre ≠ []) (hi : t i = [])
    (hp : Pasadas t nombre i) : Ordenada nombres (Function.update t i (recortar nombre)) where
  vacias a b hab ha := by
    by_cases hai : a = i
    · rw [hai, Function.update_self] at ha
      exact absurd ha (recortar_ne_nil hno)
    · rw [Function.update_of_ne hai] at ha
      have hbi : b ≠ i := by
        rintro rfl
        exact (hp a (lt_of_le_of_ne hab hai)).1 ha
      rw [Function.update_of_ne hbi]
      exact h.vacias a b hab ha
  distintas := by
    have hotra : ∀ j, j ≠ i → t j ≠ recortar nombre := by
      intro j hj heq
      rcases Nat.lt_or_gt_of_ne hj with hlt | hgt
      · exact (hp j hlt).2 heq
      · exact recortar_ne_nil hno (heq.symm.trans (h.vacias i j hgt.le hi))
    intro a b hab ha
    by_cases hai : a = i <;> by_cases hbi : b = i
    · rw [hai, hbi]
    · rw [hai, Function.update_self, Function.update_of_ne hbi] at hab
      exact absurd hab.symm (hotra b hbi)
    · rw [hbi, Function.update_self, Function.update_of_ne hai] at hab
      exact absurd hab (hotra a hai)
    · rw [Function.update_of_ne hai, Function.update_of_ne hbi] at hab
      rw [Function.update_of_ne hai] at ha
      exact h.distintas a b hab ha
  registradas a ha := by
    by_cases hai : a = i
    · exact ⟨nombre, hn, by rw [hai, Function.update_self]⟩
    · rw [Function.update_of_ne hai] at ha ⊢
      exact h.registradas a ha

/-- A copy into an empty entry keeps the numbers. -/
theorem Numero.copia {otro : Cadena} (h : Numero t nombre numero) (hi : t i = []) :
    Numero (Function.update t i otro) nombre numero := by
  obtain ⟨j, hj, hnumero, heq, hno⟩ := h
  have hji : j ≠ i := by
    rintro rfl
    exact hno (heq.symm.trans hi)
  exact ⟨j, hj, hnumero, by rw [Function.update_of_ne hji, heq], hno⟩

theorem Numero.inj {otro : Cadena} {otroNumero : Int} (ht : Ordenada nombres t) (h : Numero t nombre numero)
    (ho : Numero t otro otroNumero) : numero = otroNumero ↔ nombre = otro := by
  obtain ⟨i, -, rfl, rfl, hno⟩ := h
  obtain ⟨j, -, rfl, rfl, -⟩ := ho
  constructor
  · intro heq
    rw [show i = j by omega]
  · intro heq
    rw [ht.distintas i j heq hno]

/-! ## One process inside -/

def Proceso.Bien (nombres : Finset Cadena) (t : Tabla) : Proceso → Prop
  | .afuera => True
  | .espera nombre _ => nombre ∈ nombres
  | .busca nombre _ i => nombre ∈ nombres ∧ Pasadas t nombre i
  | .copia nombre i => nombre ∈ nombres ∧ Pasadas t nombre i ∧ i < maxGrupos ∧ t i = []
  | .avisa nombre numero | .suelta nombre numero | .construido nombre numero =>
    nombre ∈ nombres ∧ Numero t (recortar nombre) numero

def Despachador.Bien (t : Tabla) : Despachador → Prop
  | .afuera => True
  | .espera m | .pone m | .avisa m _ => m.tipo = leader
  | .signaliza m | .busca m _ => m.tipo ≠ leader
  | .suelta m asignado | .reparte m asignado =>
    m.tipo ≠ leader ∧ ∀ numero, asignado = some numero → Numero t (recortar m.nombreGrupo) numero

/-- The message that is not LEADER and has not been pushed yet. -/
def Despachador.enMano : Despachador → List Mensaje
  | .signaliza m | .busca m _ | .suelta m _ | .reparte m _ => [m]
  | .afuera | .espera _ | .pone _ | .avisa .. => []

structure Inv (nombres : Finset Cadena) (s : Estado ι) : Prop where
  solo : adentro s ≤ 1
  tabla : Ordenada nombres s.gruposCreados
  procesos : ∀ p, (s.procesos p).Bien nombres s.gruposCreados
  despachador : s.despachador.Bien s.gruposCreados
  grupos : ∀ x ∈ s.grupos, Numero s.gruposCreados (recortar x.1) x.2
  cola : ∀ x ∈ s.colaEsperaGrupos, x.2.tipo ≠ leader →
    Numero s.gruposCreados (recortar x.2.nombreGrupo) x.1
  salidas : ∀ m k, (m, some k) ∈ s.salidas → Numero s.gruposCreados (recortar m.nombreGrupo) k
  reintentos : ∀ m, (m, none) ∈ s.salidas → m ∈ s.interfaz
  todos : s.recibidos.filter (fun m => m.tipo ≠ leader) =
    s.salidas.map Prod.fst ++ s.despachador.enMano
  leidos : ∀ p, ∀ m ∈ s.leidos p, m.tipo ≠ leader → ∃ nombre numero,
    s.procesos p = .construido nombre numero ∧ Numero s.gruposCreados (recortar m.nombreGrupo) numero

/-- Outside the sections nothing is known of the entries but those with a name. -/
theorem Proceso.Bien.copia {x : Proceso} {otro : Cadena} (h : x.Bien nombres t) (hx : x.dentro = false)
    (hi : t i = []) : x.Bien nombres (Function.update t i otro) := by
  cases x with
  | afuera => trivial
  | espera => exact h
  | construido => exact ⟨h.1, h.2.copia hi⟩
  | busca => cases hx
  | copia => cases hx
  | avisa => cases hx
  | suelta => cases hx

theorem Despachador.Bien.copia {x : Despachador} {otro : Cadena} (h : x.Bien t) (hi : t i = []) :
    x.Bien (Function.update t i otro) := by
  cases x with
  | suelta m asignado => exact ⟨h.1, fun numero ha => (h.2 numero ha).copia hi⟩
  | reparte m asignado => exact ⟨h.1, fun numero ha => (h.2 numero ha).copia hi⟩
  | _ => exact h

omit [DecidableEq ι] in
theorem solos {p q : ι} (h : adentro s ≤ 1) (hp : (s.procesos p).dentro = true)
    (hq : (s.procesos q).dentro = true) : p = q := by
  classical
  exact Sumas.suma_le_uno (f := fun p => (s.procesos p).dentro.toNat) ((Nat.le_add_right _ _).trans h)
    (Finset.mem_univ p) (Finset.mem_univ q) (by rw [hp]; decide) (by rw [hq]; decide)

omit [DecidableEq ι] in
theorem inv_inicial : Inv nombres (inicial : Estado ι) where
  solo := by simp [adentro, inicial, Proceso.dentro, Despachador.dentro]
  tabla := by
    have hvacia : (inicial : Estado ι).gruposCreados = fun _ => [] := by
      funext i
      exact ite_self _
    exact hvacia ▸ Ordenada.vacia
  procesos _ := trivial
  despachador := trivial
  grupos _ h := nomatch h
  cola _ h := nomatch h
  salidas _ _ h := nomatch h
  reintentos _ h := nomatch h
  todos := rfl
  leidos _ _ h := nomatch h

/-- A constructor goes on. -/
theorem Inv.mueve {p : ι} {x : Proceso} (hi : Inv nombres s) (hsolo : adentro (s.mueve p x) ≤ 1)
    (hx : x.Bien nombres s.gruposCreados) (hp : ∀ nombre numero, s.procesos p ≠ .construido nombre numero) :
    Inv nombres (s.mueve p x) :=
  { hi with
    solo := hsolo
    procesos := by
      intro q
      show Proceso.Bien _ s.gruposCreados ((s.mueve p x).procesos q)
      by_cases hq : q = p
      · rw [hq, procesos_mueve_self]
        exact hx
      · rw [procesos_mueve_of_ne hq]
        exact hi.procesos q
    leidos := by
      intro q m hm htipo
      obtain ⟨nombre, numero, hq, hnumero⟩ := hi.leidos q m hm htipo
      have hqp : q ≠ p := by
        rintro rfl
        exact hp nombre numero hq
      exact ⟨nombre, numero, (procesos_mueve_of_ne hqp).trans hq, hnumero⟩ }

omit [DecidableEq ι] in
theorem Inv.conCola {cola : List (Int × Mensaje)} (hi : Inv nombres s)
    (h : ∀ x ∈ cola, x ∈ s.colaEsperaGrupos ∨ x.2.tipo = leader) :
    Inv nombres { s with colaEsperaGrupos := cola } :=
  { hi with
    cola := fun x hx htipo => (h x hx).elim (fun hx => hi.cola x hx htipo) fun hl => absurd hl htipo }

omit [DecidableEq ι] in
/-- The dispatcher goes on. -/
theorem Inv.despacha {d : Despachador} (hi : Inv nombres s)
    (hsolo : adentro { s with despachador := d } ≤ 1) (hd : d.Bien s.gruposCreados)
    (hmano : d.enMano = s.despachador.enMano) : Inv nombres { s with despachador := d } :=
  { hi with
    solo := hsolo
    despachador := hd
    todos := hi.todos.trans (congrArg (s.salidas.map Prod.fst ++ ·) hmano.symm) }

/-- `strncpy`, with everybody else outside. -/
theorem Inv.copia {p : ι} (hi : Inv nombres s) (hd : Distinguibles nombres)
    (hp : s.procesos p = .copia nombre i) :
    Inv nombres ({ s with gruposCreados := Function.update s.gruposCreados i (recortar nombre) }.mueve p
      (.avisa nombre (i + 1))) := by
  have hbien := hi.procesos p
  rw [hp] at hbien
  obtain ⟨hn, hpasadas, hlt, hvacia⟩ := hbien
  have hno : nombre ≠ [] := by
    rintro rfl
    exact hd.vacia hn
  have hnumero : Numero (Function.update s.gruposCreados i (recortar nombre)) (recortar nombre) (i + 1) :=
    ⟨i, hlt, rfl, Function.update_self .., recortar_ne_nil hno⟩
  have hdentro : (s.procesos p).dentro = true := congrArg Proceso.dentro hp
  refine ⟨?_, hi.tabla.copia hn hno hvacia hpasadas, fun q => ?_, hi.despachador.copia hvacia,
    fun x hx => (hi.grupos x hx).copia hvacia, fun x hx htipo => (hi.cola x hx htipo).copia hvacia,
    fun m k hm => (hi.salidas m k hm).copia hvacia, hi.reintentos, hi.todos, fun q m hm htipo => ?_⟩
  · refine Eq.trans_le ?_ hi.solo
    exact adentro_sigue hdentro.symm
  · show Proceso.Bien _ _ ((s.mueve p (.avisa nombre (i + 1))).procesos q)
    by_cases hq : q = p
    · rw [hq, procesos_mueve_self]
      exact ⟨hn, hnumero⟩
    · rw [procesos_mueve_of_ne hq]
      refine (hi.procesos q).copia ?_ hvacia
      rw [← Bool.not_eq_true]
      exact fun hdentro' => hq (solos hi.solo hdentro' hdentro)
  · obtain ⟨nombre', numero', hq, hnumero'⟩ := hi.leidos q m hm htipo
    have hqp : q ≠ p := by
      rintro rfl
      rw [hp] at hq
      cases hq
    exact ⟨nombre', numero', (procesos_mueve_of_ne (s := s) hqp).trans hq, hnumero'.copia hvacia⟩

theorem bien_buscar (ht : Ordenada nombres t) (hcard : nombres.card ≤ maxGrupos) (hn : nombre ∈ nombres)
    (hp : Pasadas t nombre i) : (buscar t nombre numero i).Bien nombres t := by
  have hlt := ht.lugar hcard hn hp
  rw [buscar, if_pos hlt]
  split_ifs with higual hvacia
  · obtain ⟨hno, heq⟩ := higual
    rw [ht.recortar_eq hno] at heq
    exact ⟨hn, i, hlt, rfl, heq, heq ▸ hno⟩
  · exact ⟨hn, hp, hlt, hvacia⟩
  · refine ⟨hn, fun j hj => ?_⟩
    rcases Nat.lt_succ_iff_lt_or_eq.mp hj with hj | rfl
    · exact hp j hj
    · exact ⟨hvacia, fun heq => higual ⟨hvacia, by rw [heq, recortar_recortar]⟩⟩

theorem inv_pasoProceso {p : ι} {mensaje : Mensaje} (hi : Inv nombres s) (hcard : nombres.card ≤ maxGrupos)
    (hd : Distinguibles nombres) (hentra : entra s (.proceso p mensaje) = true → adentro s = 0)
    (h : pasoProceso s p mensaje = some s') : Inv nombres s' := by
  have hbien := hi.procesos p
  rw [pasoProceso] at h
  split at h
  case h_1 nombre numero hp =>
    split_ifs at h with hsem
    cases h
    rw [hp] at hbien
    have hvacia : adentro s = 0 := hentra (by rw [entra, hp])
    have hsem : Inv nombres { s with sem := s.sem - 1 } := { hi with }
    refine hsem.mueve ?_ ⟨hbien, fun j hj => absurd hj (Nat.not_lt_zero j)⟩ fun _ _ hc => ?_
    · exact ((adentro_entra (congrArg Proceso.dentro hp) rfl).trans (congrArg (· + 1) hvacia)).le
    · cases hp.symm.trans hc
  case h_2 nombre numero i hp =>
    cases h
    rw [hp] at hbien
    refine hi.mueve ?_ (bien_buscar hi.tabla hcard hbien.1 hbien.2) fun _ _ hc => by cases hp.symm.trans hc
    rw [adentro_sigue ((dentro_buscar ..).trans (congrArg Proceso.dentro hp).symm)]
    exact hi.solo
  case h_3 nombre i hp =>
    cases h
    exact hi.copia hd hp
  case h_4 nombre numero hp =>
    cases h
    rw [hp] at hbien
    refine Inv.mueve (hi.conCola fun x hx => ?_) ?_ hbien fun _ _ hc => by cases hp.symm.trans hc
    · split_ifs at hx
      · exact (List.mem_append.mp hx).imp_right fun hx => by rw [List.mem_singleton.mp hx]
      · exact .inl hx
    · refine Eq.trans_le ?_ hi.solo
      exact adentro_sigue (congrArg Proceso.dentro hp).symm
  case h_5 nombre numero hp =>
    cases h
    rw [hp] at hbien
    have hsem : Inv nombres { s with sem := s.sem + 1 } := { hi with }
    refine hsem.mueve ?_ hbien fun _ _ hc => by cases hp.symm.trans hc
    have hsale : adentro ({ s with sem := s.sem + 1 }.mueve p (.construido nombre numero)) + 1 = adentro s :=
      adentro_sale (congrArg Proceso.dentro hp) rfl
    have hsolo := hi.solo
    omega
  all_goals cases h

omit [DecidableEq ι] in
/-- Where the semaphore is free or the section is over, the dispatcher may pass. -/
theorem adentro_despachador (s : Estado ι) (d : Despachador) :
    adentro { s with despachador := d } + s.despachador.dentro.toNat = adentro s + d.dentro.toNat := by
  unfold adentro
  dsimp only
  omega

omit [DecidableEq ι] in
theorem bien_buscarGrupo {m : Mensaje} (hi : Inv nombres s) (hm : m.tipo ≠ leader) :
    Inv nombres { s with grupos := (buscarGrupo s.gruposCreados s.grupos m i).1 } ∧
      (buscarGrupo s.gruposCreados s.grupos m i).2.Bien s.gruposCreados ∧
      (buscarGrupo s.gruposCreados s.grupos m i).2.enMano = [m] := by
  unfold buscarGrupo
  split_ifs with hlt higual
  · obtain ⟨hno, heq⟩ := higual
    rw [hi.tabla.recortar_eq hno] at heq
    refine ⟨{ hi with grupos := fun x hx => ?_ }, ⟨hm, ?_⟩, rfl⟩
    · dsimp only [insertar] at hx
      split_ifs at hx
      · exact hi.grupos x hx
      · rcases List.mem_append.mp hx with hx | hx
        · exact hi.grupos x hx
        · rw [List.mem_singleton.mp hx]
          have hclave := hi.tabla.recortar_cadena hno hlt
          exact ⟨i, hlt, rfl, hclave.symm, hclave ▸ hno⟩
    · rintro numero ⟨⟩
      exact ⟨i, hlt, rfl, heq, heq ▸ hno⟩
  · exact ⟨{ hi with }, ⟨hm, nofun⟩, rfl⟩
  · exact ⟨{ hi with }, hm, rfl⟩
  · exact ⟨{ hi with }, ⟨hm, nofun⟩, rfl⟩

omit [DecidableEq ι] in
/-- A LEADER notice goes to the queue of each group of the table. -/
theorem inv_avisa {m : Mensaje} (hi : Inv nombres s) (hd : s.despachador = .avisa m i)
    (h : pasoDespachador s = some s') : Inv nombres s' := by
  have hbien := hi.despachador
  have hsolo := hi.solo
  have hcuenta := adentro_despachador s
  simp only [pasoDespachador, hd] at h
  rw [hd] at hbien hcuenta
  by_cases hlt : i < maxGrupos
  · rw [if_pos hlt] at h
    cases h
    have hcola : Inv nombres
        { s with
          colaEsperaGrupos :=
            if s.gruposCreados i ≠ [] then s.colaEsperaGrupos ++ [((i : Int) + 1, m)]
            else s.colaEsperaGrupos } := by
      refine hi.conCola fun x hx => ?_
      split_ifs at hx
      · exact (List.mem_append.mp hx).imp_right fun hx => by rw [List.mem_singleton.mp hx]; exact hbien
      · exact .inl hx
    refine hcola.despacha ?_ hbien (by rw [hd]; rfl)
    exact (Nat.add_right_cancel (hcuenta (.avisa m (i + 1)))).trans_le hsolo
  · rw [if_neg hlt] at h
    cases h
    refine Inv.despacha (d := .afuera) (s := { s with sem := s.sem + 1 }) { hi with } ?_ trivial
      (by rw [hd]; rfl)
    exact (Nat.le_of_lt (Nat.lt_of_succ_le (hcuenta .afuera).le)).trans hsolo

omit [DecidableEq ι] in
/-- The message goes to the process of its group, or to the interface again. -/
theorem inv_reparte {m : Mensaje} {asignado : Option Int} (hi : Inv nombres s)
    (hd : s.despachador = .reparte m asignado) (h : pasoDespachador s = some s') : Inv nombres s' := by
  have hbien := hi.despachador
  have hcuenta := adentro_despachador s .afuera
  have htodos := hi.todos
  rw [hd] at hbien hcuenta htodos
  have hsolo : adentro { s with despachador := .afuera } ≤ 1 :=
    (Nat.add_right_cancel hcuenta).trans_le hi.solo
  cases asignado with
  | some numero =>
    simp only [pasoDespachador, hd] at h
    cases h
    refine { hi with
      solo := hsolo, despachador := trivial, cola := ?_, salidas := ?_, reintentos := ?_, todos := ?_ }
    · intro x hx htipo
      rcases List.mem_append.mp hx with hx | hx
      · exact hi.cola x hx htipo
      · rw [List.mem_singleton.mp hx]
        exact hbien.2 numero rfl
    · intro m' k hm'
      rcases List.mem_append.mp hm' with hm' | hm'
      · exact hi.salidas m' k hm'
      · cases List.mem_singleton.mp hm'
        exact hbien.2 numero rfl
    · intro m' hm'
      rcases List.mem_append.mp hm' with hm' | hm'
      · exact hi.reintentos m' hm'
      · cases List.mem_singleton.mp hm'
    · show _ = (s.salidas ++ [(m, some numero)]).map Prod.fst ++ []
      rw [List.append_nil, List.map_append]
      exact htodos
  | none =>
    simp only [pasoDespachador, hd] at h
    cases h
    refine { hi with
      solo := hsolo, despachador := trivial, salidas := ?_, reintentos := ?_, todos := ?_ }
    · intro m' k hm'
      rcases List.mem_append.mp hm' with hm' | hm'
      · exact hi.salidas m' k hm'
      · cases List.mem_singleton.mp hm'
    · intro m' hm'
      rcases List.mem_append.mp hm' with hm' | hm'
      · exact List.mem_append_left _ (hi.reintentos m' hm')
      · cases List.mem_singleton.mp hm'
        exact List.mem_append_right _ (List.mem_singleton_self m)
    · show _ = (s.salidas ++ [(m, none)]).map Prod.fst ++ []
      rw [List.append_nil, List.map_append]
      exact htodos

omit [DecidableEq ι] in
theorem inv_pasoDespachador (hi : Inv nombres s) (hentra : entra s .despachador = true → adentro s = 0)
    (h : pasoDespachador s = some s') : Inv nombres s' := by
  have hbien := hi.despachador
  have hsolo := hi.solo
  have hcuenta := adentro_despachador s
  cases hd : s.despachador with
  | espera m =>
    simp only [pasoDespachador, hd] at h
    split_ifs at h with hsem
    cases h
    rw [hd] at hbien hcuenta
    have hvacia : adentro s = 0 := hentra (by rw [entra, hd])
    refine Inv.despacha (s := { s with sem := s.sem - 1 }) { hi with } ?_ hbien (by rw [hd]; rfl)
    exact (Nat.le_of_eq (hcuenta (.pone m))).trans (by rw [hvacia]; exact Nat.le_refl 1)
  | pone m =>
    simp only [pasoDespachador, hd] at h
    cases h
    rw [hd] at hbien hcuenta
    refine Inv.despacha (s := { s with lider := true }) { hi with } ?_ hbien (by rw [hd]; rfl)
    exact (Nat.add_right_cancel (hcuenta (.avisa m 0))).trans_le hsolo
  | avisa m i => exact inv_avisa hi hd h
  | signaliza m =>
    simp only [pasoDespachador, hd] at h
    cases h
    rw [hd] at hbien hcuenta
    have hvacia : adentro s = 0 := hentra (by rw [entra, hd])
    refine Inv.despacha (s := { s with sem := s.sem + 1, consultas := s.consultas + 1 }) { hi with } ?_ hbien
      (by rw [hd]; rfl)
    exact (Nat.le_of_eq (hcuenta (.busca m 0))).trans (by rw [hvacia]; exact Nat.le_refl 1)
  | busca m i =>
    simp only [pasoDespachador, hd] at h
    cases h
    rw [hd] at hbien hcuenta
    obtain ⟨hgrupos, hbuscar, hmano⟩ := bien_buscarGrupo hi hbien
    refine hgrupos.despacha ?_ hbuscar (hmano.trans (by rw [hd]; rfl))
    have hcuenta := hcuenta (buscarGrupo s.gruposCreados s.grupos m i).2
    rw [dentro_buscarGrupo] at hcuenta
    exact (Nat.add_right_cancel hcuenta).trans_le hsolo
  | suelta m asignado =>
    simp only [pasoDespachador, hd] at h
    cases h
    rw [hd] at hbien hcuenta
    refine Inv.despacha (s := { s with sem := s.sem + 1 }) { hi with } ?_ hbien (by rw [hd]; rfl)
    exact (Nat.le_of_lt (Nat.lt_of_succ_le (hcuenta (.reparte m asignado)).le)).trans hsolo
  | reparte m asignado => exact inv_reparte hi hd h
  | afuera =>
    simp only [pasoDespachador, hd] at h
    cases h

theorem mem_of_lookup {grupos : List (Cadena × Int)} (h : grupos.lookup nombre = some numero) :
    (nombre, numero) ∈ grupos := by
  obtain ⟨l₁, l₂, rfl, -⟩ := List.lookup_eq_some_iff.mp h
  exact List.mem_append_right _ List.mem_cons_self

omit [DecidableEq ι] in
theorem inv_recibir {m : Mensaje} (hi : Inv nombres s) (hd : s.despachador = .afuera) :
    Inv nombres (recibir s m) := by
  have hafuera : (recibir s m).despachador.dentro = false := by
    unfold recibir
    split_ifs
    · rfl
    · cases s.grupos.lookup m.nombreGrupo <;> rfl
  have htodos := hi.todos
  rw [hd, Despachador.enMano, List.append_nil] at htodos
  refine { hi with solo := ?_, despachador := ?_, todos := ?_ }
  · have hcuenta := adentro_despachador s (recibir s m).despachador
    rw [hd, hafuera] at hcuenta
    exact (Nat.add_right_cancel hcuenta).trans_le hi.solo
  · unfold recibir
    split_ifs with hm
    · exact hm
    · split
      case h_1 numero hlookup =>
        refine ⟨hm, ?_⟩
        rintro _ ⟨⟩
        exact hi.grupos _ (mem_of_lookup hlookup)
      case h_2 => exact hm
  · unfold recibir
    rw [List.filter_append, htodos]
    split_ifs with hm
    · rw [List.filter_cons_of_neg (by simpa using hm)]
      rfl
    · rw [List.filter_cons_of_pos (by simpa using hm)]
      cases s.grupos.lookup m.nombreGrupo <;> rfl

theorem inv_pull {p : ι} (hi : Inv nombres s) (h : pull s p = some s') : Inv nombres s' := by
  unfold pull at h
  split at h
  case h_2 => cases h
  case h_1 nombre numero hp =>
    obtain ⟨⟨x, cola⟩, hextraer, rfl⟩ := Option.map_eq_some_iff.mp h
    obtain ⟨htipo, hperm⟩ := ColaDeMensajes.extraer_perm hextraer
    have hx : x ∈ s.colaEsperaGrupos := hperm.mem_iff.mpr List.mem_cons_self
    refine { hi with
      cola := fun y hy => hi.cola y (hperm.mem_iff.mpr (List.mem_cons_of_mem x hy)), leidos := ?_ }
    intro q m hm hno
    by_cases hq : q = p
    · subst hq
      dsimp only at hm
      rw [Function.update_self] at hm
      rcases List.mem_append.mp hm with hm | hm
      · exact hi.leidos q m hm hno
      · rw [List.mem_singleton] at hm
        subst hm
        exact ⟨nombre, numero, hp, of_decide_eq_true htipo ▸ hi.cola x hx hno⟩
    · dsimp only at hm
      rw [Function.update_of_ne hq] at hm
      exact hi.leidos q m hm hno

theorem inv_paso (hcard : nombres.card ≤ maxGrupos) (hd : Distinguibles nombres) (hi : Inv nombres s)
    (hentra : entra s e = true → adentro s = 0) (h : paso nombres s e = some s') : Inv nombres s' := by
  cases e with
  | construye p nombre numero =>
    rw [paso] at h
    split_ifs at h with hp
    cases h
    refine hi.mueve ?_ hp.2 fun _ _ hc => by cases hp.1.symm.trans hc
    rw [adentro_sigue (by rw [hp.1]; rfl)]
    exact hi.solo
  | proceso p mensaje => exact inv_pasoProceso hi hcard hd hentra h
  | recibe m =>
    rw [paso] at h
    split_ifs at h with hafuera
    cases h
    exact inv_recibir hi hafuera
  | despachador => exact inv_pasoDespachador hi hentra h
  | pull p => exact inv_pull hi h
  | push p m =>
    rw [paso, push] at h
    split at h <;> cases h
    exact { hi with reintentos := fun m' hm' => List.mem_append_left _ (hi.reintentos m' hm') }

/-! ## Numbers and deliveries -/

/-- Equal names have the same number and different ones have different numbers. -/
def Numerados (s : Estado ι) : Prop :=
  ∀ p q nombre nombre' numero numero', s.procesos p = .construido nombre numero →
    s.procesos q = .construido nombre' numero' → (numero = numero' ↔ nombre = nombre')

/-- The dispatcher pushes each message that is not LEADER once: with the number of its group, or again to
    the interface. -/
structure Repartidos (s : Estado ι) : Prop where
  todos : s.recibidos.filter (fun m => m.tipo ≠ leader) = s.salidas.map Prod.fst ++ s.despachador.enMano
  reintentos : ∀ m, (m, none) ∈ s.salidas → m ∈ s.interfaz
  grupo : ∀ m k, (m, some k) ∈ s.salidas → ∀ p nombre numero, s.procesos p = .construido nombre numero →
    (numero = k ↔ recortar nombre = recortar m.nombreGrupo)
  leidos : ∀ p, ∀ m ∈ s.leidos p, m.tipo ≠ leader → ∃ nombre numero,
    s.procesos p = .construido nombre numero ∧ recortar nombre = recortar m.nombreGrupo

omit [DecidableEq ι] in
theorem Inv.numero_de {p : ι} (hi : Inv nombres s) (hp : s.procesos p = .construido nombre numero) :
    nombre ∈ nombres ∧ Numero s.gruposCreados (recortar nombre) numero := by
  have hbien := hi.procesos p
  rw [hp] at hbien
  exact hbien

omit [DecidableEq ι] in
theorem Inv.numerados (hi : Inv nombres s) (hd : Distinguibles nombres) : Numerados s := by
  intro p q nombre nombre' numero numero' hp hq
  obtain ⟨hn, hnumero⟩ := hi.numero_de hp
  obtain ⟨hn', hnumero'⟩ := hi.numero_de hq
  rw [hnumero.inj hi.tabla hnumero']
  exact ⟨hd.cortas nombre hn nombre' hn', congrArg recortar⟩

omit [DecidableEq ι] in
theorem Inv.repartidos (hi : Inv nombres s) : Repartidos s where
  todos := hi.todos
  reintentos := hi.reintentos
  grupo m k hm p nombre numero hp := (hi.numero_de hp).2.inj hi.tabla (hi.salidas m k hm)
  leidos p m hm hno := by
    obtain ⟨nombre, numero, hp, hnumero⟩ := hi.leidos p m hm hno
    exact ⟨nombre, numero, hp, ((hi.numero_de hp).2.inj hi.tabla hnumero).mp rfl⟩

theorem consultas_paso (h : paso nombres s e = some s') :
    s'.consultas = s.consultas + if sinConsulta s e then 0 else 1 := by
  cases e with
  | construye p nombre numero =>
    rw [paso] at h
    split_ifs at h
    cases h
    rfl
  | proceso p mensaje => exact (cuenta_pasoProceso h).2
  | recibe m =>
    rw [paso] at h
    split_ifs at h
    cases h
    rfl
  | despachador =>
    rw [paso] at h
    unfold pasoDespachador at h
    rw [sinConsulta]
    split at h <;> rename_i hd <;> rw [hd]
    case h_1 | h_3 =>
      split_ifs at h <;> cases h <;> rfl
    all_goals
      cases h
      try rfl
  | pull p =>
    rw [paso, pull] at h
    split at h
    · obtain ⟨r, -, rfl⟩ := Option.map_eq_some_iff.mp h
      rfl
    · cases h
  | push p m =>
    rw [paso, push] at h
    split at h <;> cases h
    rfl

/-- A look-up is the only step that breaks the balance. -/
theorem balance_iff_sinConsulta (hs : s.sem + adentro s = 1) (h : paso nombres s e = some s') :
    s'.sem + adentro s' = 1 ↔ sinConsulta s e = true := by
  have hcuenta := cuenta_paso h
  rw [consultas_paso h] at hcuenta
  cases hc : sinConsulta s e
  · rw [hc, if_neg Bool.false_ne_true] at hcuenta
    simp only [Bool.false_eq_true, iff_false]
    omega
  · rw [hc, if_pos rfl] at hcuenta
    simp only [iff_true]
    omega

omit [DecidableEq ι] in
theorem balance_inicial : (inicial : Estado ι).sem + adentro (inicial : Estado ι) = 1 := by
  simp [inicial, adentro, Proceso.dentro, Despachador.dentro]

theorem balance_sinConsulta (h : AlcanzaBajo (fun s e => sinConsulta s e = true) (paso nombres) inicial s) :
    s.sem + adentro s = 1 := by
  exact AlcanzaBajo.induccion (I := fun s => s.sem + adentro s = 1) h balance_inicial
    fun a e b ha hc hb => (balance_iff_sinConsulta ha hb).mpr hc

/-- With one unit for the semaphore and the sections together, who enters finds nobody inside. -/
theorem deAUno_of_sinConsulta (hs : s.sem + adentro s = 1) (hc : sinConsulta s e = true)
    (h : paso nombres s e = some s') : deAUno s e = true := by
  have hlibre : 0 < s.sem → adentro s = 0 := fun hsem => by omega
  rw [deAUno, Bool.or_eq_true, Bool.not_eq_true', beq_iff_eq]
  cases e with
  | proceso p mensaje =>
    rw [paso, pasoProceso] at h
    rw [entra]
    cases hp : s.procesos p with
    | espera nombre numero =>
      rw [hp] at h
      exact .inr (hlibre (Option.ite_none_right_eq_some.mp h).1)
    | _ => exact .inl rfl
  | despachador =>
    rw [paso] at h
    unfold pasoDespachador at h
    rw [sinConsulta] at hc
    rw [entra]
    cases hd : s.despachador with
    | espera m =>
      rw [hd] at h
      exact .inr (hlibre (Option.ite_none_right_eq_some.mp h).1)
    | signaliza m =>
      rw [hd] at hc
      cases hc
    | _ => exact .inl rfl
  | _ => exact .inl rfl

theorem deAUno_sinConsulta (h : AlcanzaBajo (fun s e => sinConsulta s e = true) (paso nombres) inicial s) :
    AlcanzaBajo (fun s e => deAUno s e = true) (paso nombres) inicial s := by
  have hboth : s.sem + adentro s = 1 ∧
      AlcanzaBajo (fun s e => deAUno s e = true) (paso nombres) inicial s := by
    refine AlcanzaBajo.induccion (I := fun s => s.sem + adentro s = 1 ∧
      AlcanzaBajo (fun s e => deAUno s e = true) (paso nombres) inicial s) h
      ⟨balance_inicial, Alcanza.refl _⟩ fun a e b ha hc hb => ?_
    exact ⟨(balance_iff_sinConsulta ha.1 hb).mpr hc,
      ha.2.siguiente (pasoBajo_eq_some.mpr ⟨deAUno_of_sinConsulta ha.1 hc hb, hb⟩)⟩
  exact hboth.2

theorem inv_deAUno (hcard : nombres.card ≤ maxGrupos) (hd : Distinguibles nombres)
    (h : AlcanzaBajo (fun s e => deAUno s e = true) (paso nombres) inicial s) : Inv nombres s := by
  refine AlcanzaBajo.induccion h inv_inicial fun a e b ha hc hb => inv_paso hcard hd ha (fun hentra => ?_) hb
  rw [deAUno, hentra] at hc
  exact beq_iff_eq.mp hc

/-- The semaphore and the sections are one unit as long as no group is looked up in the table, and the
    numbers and the deliveries are right as long as nobody enters a section with another process inside. -/
theorem grupos_consistentes {ι : Type*} [Fintype ι] [DecidableEq ι] (nombres : Finset Cadena)
    (hcard : nombres.card ≤ maxGrupos) :
    (∀ s : Estado ι, AlcanzaBajo (fun s e => sinConsulta s e = true) (paso nombres) inicial s →
      s.sem + adentro s = 1 ∧
      (∀ e s', paso nombres s e = some s' → (s'.sem + adentro s' = 1 ↔ sinConsulta s e = true)) ∧
      AlcanzaBajo (fun s e => deAUno s e = true) (paso nombres) inicial s) ∧
    (Distinguibles nombres → ∀ s : Estado ι,
      AlcanzaBajo (fun s e => deAUno s e = true) (paso nombres) inicial s → Numerados s ∧ Repartidos s) := by
  refine ⟨fun s h => ?_, fun hd s h => ?_⟩
  · have hs := balance_sinConsulta h
    exact ⟨hs, fun e s' => balance_iff_sinConsulta hs, deAUno_sinConsulta h⟩
  · have hi := inv_deAUno hcard hd h
    exact ⟨hi.numerados hd, hi.repartidos⟩

/-! ## Two names with one number -/

def nombreA : Cadena := [⟨97, by decide⟩]

def nombreB : Cadena := [⟨98, by decide⟩]

/-- A message of type INITIALIZATION for a group with no entry. -/
def mensaje : Mensaje := ⟨4, nombreA, []⟩

/-- The dispatcher looks the group up, and then both constructors are inside. -/
def dosAdentro : List (Evento Bool) :=
  [.recibe mensaje, .despachador, .despachador, .despachador, .despachador,
    .construye false nombreA 0, .construye true nombreB 0,
    .proceso false mensaje, .proceso true mensaje, .proceso false mensaje, .proceso true mensaje,
    .proceso false mensaje, .proceso false mensaje, .proceso false mensaje,
    .proceso true mensaje, .proceso true mensaje, .proceso true mensaje]

theorem dos_nombres_un_numero : ∃ s, Alcanza (paso {nombreA, nombreB}) (inicial : Estado Bool) s ∧
    s.sem + adentro s = 3 ∧ s.procesos false = .construido nombreA 1 ∧
      s.procesos true = .construido nombreB 1 := by
  have hrun : (correr (paso {nombreA, nombreB}) (inicial : Estado Bool) dosAdentro).map (fun s =>
      (s.sem + adentro s, s.procesos false, s.procesos true)) =
      some (3, .construido nombreA 1, .construido nombreB 1) := by
    decide +kernel
  obtain ⟨s, hs, hvalores⟩ := Option.map_eq_some_iff.mp hrun
  obtain ⟨hsem, ha, hb⟩ : _ ∧ _ ∧ _ := by simpa only [Prod.mk.injEq] using hvalores
  exact ⟨s, ⟨_, hs⟩, hsem, ha, hb⟩

/-- One process registers the only name and then two messages of its group are delivered, the second
    one from the map. -/
theorem grupos_consistentes_un_nombre :
    (∃ s, AlcanzaBajo (fun s e => sinConsulta s e = true) (paso {nombreA}) (inicial : Estado Unit) s ∧
      s.procesos () = .construido nombreA 1 ∧ s.sem + adentro s = 1) ∧
    ∃ s, AlcanzaBajo (fun s e => deAUno s e = true) (paso {nombreA}) (inicial : Estado Unit) s ∧
      s.salidas = [(mensaje, some 1), (mensaje, some 1)] ∧ Numerados s ∧ Repartidos s := by
  have hd : Distinguibles {nombreA} :=
    ⟨by decide, fun a ha b hb _ => (Finset.mem_singleton.mp ha).trans (Finset.mem_singleton.mp hb).symm⟩
  obtain ⟨hbalance, hnumeros⟩ := @grupos_consistentes Unit _ _ {nombreA} (by decide)
  have hrun : (correr (pasoBajo (fun s e => sinConsulta s e = true) (paso {nombreA})) (inicial : Estado Unit)
      [.construye () nombreA 0, .proceso () mensaje, .proceso () mensaje, .proceso () mensaje,
        .proceso () mensaje, .proceso () mensaje]).map (fun s => s.procesos ()) =
      some (.construido nombreA 1) := by
    decide +kernel
  have hrun' : (correr (pasoBajo (fun s e => deAUno s e = true) (paso {nombreA})) (inicial : Estado Unit)
      [.construye () nombreA 0, .proceso () mensaje, .proceso () mensaje, .proceso () mensaje,
        .proceso () mensaje, .proceso () mensaje, .recibe mensaje, .despachador, .despachador,
        .despachador, .despachador, .recibe mensaje, .despachador]).map (fun s => s.salidas) =
      some [(mensaje, some 1), (mensaje, some 1)] := by
    decide +kernel
  obtain ⟨s, hs, hp⟩ := Option.map_eq_some_iff.mp hrun
  obtain ⟨s', hs', hsalidas⟩ := Option.map_eq_some_iff.mp hrun'
  exact ⟨⟨s, ⟨_, hs⟩, hp, (hbalance s ⟨_, hs⟩).1⟩, s', ⟨_, hs'⟩, hsalidas, hnumeros hd s' ⟨_, hs'⟩⟩

end GroupMultiplexer
