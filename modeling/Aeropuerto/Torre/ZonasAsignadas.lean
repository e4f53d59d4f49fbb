import Mathlib

/-!
# The zone table of the control tower (`api/api_torre_de_control_svc.h`)

`ZonasAsignadas` keeps the flight of each zone in an array.  Its purpose is a map from zones to
flights: the second half compares the two after any sequence of operations.
-/

namespace ZonasAsignadas

/-- `MAX_ZONAS`. -/
def maxZonas : Nat := 10

/-- The array `zonas`, of which the first `maxZonas` cells exist; -1 is no flight. -/
abbrev Tabla := Nat → Int

def inicial : Tabla := fun _ => -1

/-- `none` is the exception. -/
def asignarVuelo (zonas : Tabla) (zona vuelo : Int) : Option Tabla :=
  if zona ≤ 0 ∨ maxZonas ≤ zona then none
  else some (Function.update zonas (zona - 1).toNat vuelo)

def desasignarVuelo (zonas : Tabla) (vuelo : Int) : Tabla :=
  fun i => if i < maxZonas ∧ zonas i = vuelo then -1 else zonas i

/-- The loop stops at the first cell with the flight and returns its index. -/
def getZona (zonas : Tabla) (numVuelo : Int) : Int :=
  match (List.range maxZonas).find? fun i => zonas i = numVuelo with
  | some i => i
  | none => -1

inductive Operacion where
  | asignarVuelo (zona vuelo : Int)
  | desasignarVuelo (vuelo : Int)

def aplicar (zonas : Tabla) : Operacion → Option Tabla
  | .asignarVuelo zona vuelo => asignarVuelo zonas zona vuelo
  | .desasignarVuelo vuelo => some (desasignarVuelo zonas vuelo)

def ejecutar (zonas : Tabla) : List Operacion → Option Tabla
  | [] => some zonas
  | op :: ops => (aplicar zonas op).bind fun zonas => ejecutar zonas ops

/-! ## The map -/

/-- The flight of each zone. -/
abbrev Mapa := Int → Option Int

/-- -1 is no flight for the map too. -/
def vueloDe (vuelo : Int) : Option Int :=
  if vuelo = -1 then none else some vuelo

def Mapa.aplicar (m : Mapa) : Operacion → Mapa
  | .asignarVuelo zona vuelo => Function.update m zona (vueloDe vuelo)
  | .desasignarVuelo vuelo => fun zona => if m zona = some vuelo then none else m zona

/-- The zones that are assigned after a sequence of operations. -/
def asignadas (ops : List Operacion) : Mapa :=
  ops.foldl Mapa.aplicar fun _ => none

/-- What a caller may ask: a zone of the airport, and the erasure of a flight. -/
def Operacion.Admisible : Operacion → Prop
  | .asignarVuelo zona _ => 1 ≤ zona ∧ zona ≤ maxZonas
  | .desasignarVuelo vuelo => vuelo ≠ -1

/-- The operation is the assignment of the last zone. -/
def Operacion.ultimaZona : Operacion → Prop
  | .asignarVuelo zona _ => zona = maxZonas
  | .desasignarVuelo _ => False

/-- No operation fails, and afterwards `get_zona` returns a zone of the flight, or -1 exactly when it
    has none. -/
def RefinaMapa (ops : List Operacion) : Prop :=
  ∃ zonas, ejecutar inicial ops = some zonas ∧ ∀ vuelo ≠ -1,
    (getZona zonas vuelo = -1 ↔ ∀ zona, asignadas ops zona ≠ some vuelo) ∧
      (getZona zonas vuelo ≠ -1 → asignadas ops (getZona zonas vuelo) = some vuelo)

/-! ## The array as a map -/

variable {zonas zonas' : Tabla} {zona vuelo : Int} {op : Operacion} {ops : List Operacion}

/-- Zone `i + 1` is in the cell `i`. -/
def Tabla.mapa (zonas : Tabla) : Mapa := fun zona =>
  if 1 ≤ zona ∧ zona ≤ maxZonas then vueloDe (zonas (zona - 1).toNat) else none

theorem vueloDe_eq_some (hvuelo : vuelo ≠ -1) {v : Int} : vueloDe v = some vuelo ↔ v = vuelo := by
  unfold vueloDe
  split
  · rename_i hv
    exact ⟨nofun, fun h => absurd (h.symm.trans hv) hvuelo⟩
  · rw [Option.some.injEq]

theorem mapa_inicial : inicial.mapa = fun _ => none := by
  funext zona
  unfold Tabla.mapa
  split <;> rfl

theorem mapa_asignarVuelo (h : asignarVuelo zonas zona vuelo = some zonas') :
    zonas'.mapa = Function.update zonas.mapa zona (vueloDe vuelo) := by
  unfold asignarVuelo at h
  split at h
  · cases h
  · cases h
    funext z
    by_cases hz : z = zona
    · rw [hz, Function.update_self, Tabla.mapa, if_pos (by omega), Function.update_self]
    · rw [Function.update_of_ne hz]
      unfold Tabla.mapa
      split
      · rw [Function.update_of_ne (by omega)]
      · rfl

theorem mapa_desasignarVuelo (hvuelo : vuelo ≠ -1) :
    (desasignarVuelo zonas vuelo).mapa =
      fun zona => if zonas.mapa zona = some vuelo then none else zonas.mapa zona := by
  funext zona
  unfold Tabla.mapa desasignarVuelo
  by_cases hzona : 1 ≤ zona ∧ zona ≤ maxZonas
  · have hlt : (zona - 1).toNat < maxZonas := by omega
    simp only [if_pos hzona, hlt, true_and, vueloDe_eq_some hvuelo]
    split <;> rfl
  · simp [if_neg hzona]

/-- An operation that does not fail does to the array what it does to the map. -/
theorem mapa_aplicar (hop : op.Admisible) (h : aplicar zonas op = some zonas') :
    zonas'.mapa = zonas.mapa.aplicar op := by
  cases op with
  | asignarVuelo zona vuelo => exact mapa_asignarVuelo h
  | desasignarVuelo vuelo =>
    cases h
    exact mapa_desasignarVuelo hop

theorem mapa_ejecutar (hops : ∀ op ∈ ops, op.Admisible) (h : ejecutar zonas ops = some zonas') :
    zonas'.mapa = ops.foldl Mapa.aplicar zonas.mapa := by
  induction ops generalizing zonas with
  | nil =>
    cases h
    rfl
  | cons op ops ih =>
    obtain ⟨zonas₁, hop, hresto⟩ := Option.bind_eq_some_iff.mp h
    rw [List.foldl_cons, ← mapa_aplicar (hops op List.mem_cons_self) hop]
    exact ih (fun op h => hops op (List.mem_cons_of_mem _ h)) hresto

/-- Only the assignment of the last zone fails. -/
theorem aplicar_isSome (zonas : Tabla) (hop : op.Admisible) :
    (aplicar zonas op).isSome ↔ ¬ op.ultimaZona := by
  cases op with
  | asignarVuelo zona vuelo =>
    obtain ⟨h1, hmax⟩ := hop
    show (asignarVuelo zonas zona vuelo).isSome ↔ ¬ zona = maxZonas
    unfold asignarVuelo
    by_cases hz : zona = maxZonas
    · simp [hz]
    · rw [if_neg (by omega)]
      simp [hz]
  | desasignarVuelo vuelo => exact ⟨fun _ h => h, fun _ => rfl⟩

theorem ejecutar_isSome (zonas : Tabla) (hops : ∀ op ∈ ops, op.Admisible) :
    (ejecutar zonas ops).isSome ↔ ∀ op ∈ ops, ¬ op.ultimaZona := by
  induction ops generalizing zonas with
  | nil => exact ⟨nofun, fun _ => rfl⟩
  | cons op ops ih =>
    have ih' := fun zonas => ih zonas fun op h => hops op (List.mem_cons_of_mem _ h)
    have hop := aplicar_isSome zonas (hops op List.mem_cons_self)
    rw [List.forall_mem_cons, ← hop, ejecutar]
    cases aplicar zonas op with
    | none => simp
    | some zonas₁ => simpa using ih' zonas₁

/-! ## `get_zona` -/

/-- `get_zona` of a flight that has a zone is one less than a zone of it, and no zone of it. -/
theorem getZona_of_mapa (hvuelo : vuelo ≠ -1) (h : zonas.mapa zona = some vuelo) :
    getZona zonas vuelo ≠ -1 ∧ zonas.mapa (getZona zonas vuelo) ≠ some vuelo := by
  unfold Tabla.mapa at h
  split at h
  case isFalse => cases h
  rename_i hzona
  rw [vueloDe_eq_some hvuelo] at h
  unfold getZona
  split
  · rename_i i hi
    refine ⟨by omega, fun hmapa => ?_⟩
    unfold Tabla.mapa at hmapa
    split at hmapa
    · -- a cell before the first one with the flight
      rw [vueloDe_eq_some hvuelo] at hmapa
      have hantes : ¬ zonas ((i : Int) - 1).toNat = vuelo := by
        simpa only [Bool.not_eq_true', decide_eq_false_iff_not] using
          (List.find?_range_eq_some.mp hi).2.2 ((i : Int) - 1).toNat (by omega)
      exact hantes hmapa
    · cases hmapa
  · rename_i hno
    rw [List.find?_eq_none] at hno
    exact absurd h (by simpa using hno (zona - 1).toNat (List.mem_range.mpr (by omega)))

theorem getZona_of_sinZona (hvuelo : vuelo ≠ -1) (h : ∀ zona, zonas.mapa zona ≠ some vuelo) :
    getZona zonas vuelo = -1 := by
  unfold getZona
  split
  · rename_i i hi
    have hlt : i < maxZonas := List.mem_range.mp (List.mem_of_find?_eq_some hi)
    have hcelda : zonas i = vuelo := by simpa using List.find?_some hi
    refine absurd ?_ (h (i + 1))
    rw [Tabla.mapa, if_pos (by omega), vueloDe_eq_some hvuelo, show ((i : Int) + 1 - 1).toNat = i by
      omega]
    exact hcelda
  · rfl

/-- The table refines the map exactly after the sequences that do not use the last zone and leave no
    flight assigned. -/
theorem zonas_asignadas_refina_mapa (hops : ∀ op ∈ ops, op.Admisible) :
    RefinaMapa ops ↔ (∀ op ∈ ops, ¬ op.ultimaZona) ∧
      ∀ zona, ∀ vuelo ≠ -1, asignadas ops zona ≠ some vuelo := by
  have hmapa : ∀ {zonas}, ejecutar inicial ops = some zonas → zonas.mapa = asignadas ops := by
    intro zonas h
    rw [mapa_ejecutar hops h, mapa_inicial]
    rfl
  constructor
  · rintro ⟨zonas, hrun, hzona⟩
    refine ⟨(ejecutar_isSome inicial hops).mp (by rw [hrun]; rfl), fun zona vuelo hvuelo hasignada => ?_⟩
    rw [← hmapa hrun] at hasignada hzona
    obtain ⟨hno, hdistinta⟩ := getZona_of_mapa hvuelo hasignada
    exact hdistinta ((hzona vuelo hvuelo).2 hno)
  · rintro ⟨hzonas, hvacio⟩
    obtain ⟨zonas, hrun⟩ := Option.isSome_iff_exists.mp
      ((ejecutar_isSome inicial hops).mpr hzonas)
    refine ⟨zonas, hrun, fun vuelo hvuelo => ?_⟩
    have hsin : ∀ zona, asignadas ops zona ≠ some vuelo := fun zona => hvacio zona vuelo hvuelo
    have hget : getZona zonas vuelo = -1 := by
      apply getZona_of_sinZona hvuelo
      rw [hmapa hrun]
      exact hsin
    exact ⟨⟨fun _ => hsin, fun _ => hget⟩, fun hno => absurd hget hno⟩

/-- A flight that has come and gone. -/
theorem zonas_asignadas_refina_mapa_ida_y_vuelta :
    RefinaMapa [.asignarVuelo 3 7, .desasignarVuelo 7] := by
  refine (zonas_asignadas_refina_mapa ?_).mpr ⟨?_, fun zona vuelo _ => ?_⟩
  · simp [Operacion.Admisible, maxZonas]
  · simp [Operacion.ultimaZona, maxZonas]
  · simp only [asignadas, List.foldl_cons, List.foldl_nil, Mapa.aplicar]
    by_cases hz : zona = 3
    · rw [hz, Function.update_self, if_pos (by decide)]
      nofun
    · rw [Function.update_of_ne hz, if_neg nofun]
      nofun

/-- Flight 5 in zone 1 is looked up in zone 0, and the assignment of the last zone fails. -/
theorem zonas_asignadas_no_refina_mapa :
    ¬ RefinaMapa [.asignarVuelo 1 5] ∧ ¬ RefinaMapa [.asignarVuelo 10 5, .desasignarVuelo 5] := by
  constructor
  · rintro ⟨zonas, hrun, hzona⟩
    cases hrun
    exact absurd ((hzona 5 (by decide)).2 (by decide)) (by decide)
  · rintro ⟨zonas, hrun, -⟩
    cases hrun

end ZonasAsignadas
