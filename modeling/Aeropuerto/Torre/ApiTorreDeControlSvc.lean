import Aeropuerto.Biblioteca.Sumas
import Aeropuerto.Torre.ZonasAsignadas

/-!
# The calls of the control tower (`api/api_torre_de_control_svc.cpp`)

Any number of processes call `asignar_vuelo`, `desasignar_vuelo` and `get_zona`, each of which locks
`mutex_asignaciones`, works on the table and unlocks.  The lock is by hand, and the exception of
`ZonasAsignadas::asignar_vuelo` leaves the call between the two.
-/

namespace ApiTorreDeControlSvc

open Ejecucion ZonasAsignadas

variable {ι : Type}

inductive Llamada where
  | asignarVuelo (zona vuelo : Int)
  | desasignarVuelo (numVuelo : Int)
  | getZona (numVuelo : Int)
  deriving DecidableEq

/-- What the call does with the table, and what it returns; `none` is the exception. -/
def Llamada.aplicar (zonas : Tabla) : Llamada → Option (Tabla × Option Int)
  | .asignarVuelo zona vuelo => (ZonasAsignadas.asignarVuelo zonas zona vuelo).map (·, none)
  | .desasignarVuelo numVuelo => some (ZonasAsignadas.desasignarVuelo zonas numVuelo, none)
  | .getZona numVuelo => some (zonas, some (ZonasAsignadas.getZona zonas numVuelo))

/-- The argument that the table refuses. -/
def Llamada.zonaInvalida : Llamada → Bool
  | .asignarVuelo zona _ => zona ≤ 0 ∨ maxZonas ≤ zona
  | _ => false

inductive Resultado where
  | nada
  | vuelve (zona : Option Int)
  | excepcion

inductive Pc where
  | fuera (ultimo : Resultado)
  -- at mutex_asignaciones.lock()
  | espera (op : Llamada)
  | dentro (op : Llamada)
  -- at mutex_asignaciones.unlock()
  | sale (zona : Option Int)

/-- `entraron` are the calls that have taken the mutex. -/
structure Estado (ι : Type) where
  mutex : Nat
  zonas : Tabla
  pc : ι → Pc
  entraron : List Llamada

inductive Evento (ι : Type) where
  | llamar (a : ι) (op : Llamada)
  | lock (a : ι)
  -- a signal interrupts lock, which throws
  | interrumpe (a : ι)
  | tabla (a : ι)
  | unlock (a : ι)

def inicial (zonas : Tabla) : Estado ι where
  mutex := 1
  zonas := zonas
  pc := fun _ => .fuera .nada
  entraron := []

section

variable [DecidableEq ι]

def Estado.mover (s : Estado ι) (a : ι) (pc : Pc) : Estado ι := { s with pc := Function.update s.pc a pc }

def paso (s : Estado ι) : Evento ι → Option (Estado ι)
  | .llamar a op =>
    match s.pc a with
    | .fuera _ => some (s.mover a (.espera op))
    | _ => none
  | .lock a =>
    match s.pc a with
    | .espera op =>
      if 0 < s.mutex then
        some ({ s with mutex := s.mutex - 1, entraron := s.entraron ++ [op] }.mover a (.dentro op))
      else none
    | _ => none
  | .interrumpe a =>
    match s.pc a with
    | .espera _ => some (s.mover a (.fuera .excepcion))
    | _ => none
  | .tabla a =>
    match s.pc a with
    | .dentro op =>
      match op.aplicar s.zonas with
      | some (zonas, zona) => some ({ s with zonas }.mover a (.sale zona))
      | none => some (s.mover a (.fuera .excepcion))
    | _ => none
  | .unlock a =>
    match s.pc a with
    | .sale zona => some ({ s with mutex := s.mutex + 1 }.mover a (.fuera (.vuelve zona)))
    | _ => none

end

/-! ## The value of the mutex -/

def Pc.enSeccion : Pc → Nat
  | .dentro _ | .sale _ => 1
  | _ => 0

def Estado.enSeccion [Fintype ι] (s : Estado ι) : Nat := ∑ a, (s.pc a).enSeccion

variable [DecidableEq ι]

/-- The mutex is free or a process is inside, and from here it can be free again, with every process that
    waits still there to take it. -/
def Sobrevive [Fintype ι] (s : Estado ι) : Prop :=
  s.mutex + s.enSeccion = 1 ∧
    ∃ es t, correr paso s es = some t ∧ 0 < t.mutex ∧
      ∀ a op, s.pc a = .espera op → (paso t (.lock a)).isSome = true

/-- No call with a zone that the table refuses has taken the mutex. -/
def SinZonaInvalida (s : Estado ι) : Prop := ∀ op ∈ s.entraron, op.zonaInvalida = false

/-- The table changes only as an operation of the one that is inside says. -/
def TablaSegunOperacion (s : Estado ι) : Prop :=
  ∀ e t, paso s e = some t → t.zonas = s.zonas ∨
    ∃ a op zona, e = .tabla a ∧ s.pc a = .dentro op ∧ op.aplicar s.zonas = some (t.zonas, zona)

theorem aplicar_isNone (zonas : Tabla) (op : Llamada) :
    op.aplicar zonas = none ↔ op.zonaInvalida = true := by
  cases op with
  | asignarVuelo zona vuelo =>
    simp only [Llamada.aplicar, Option.map_eq_none_iff, ZonasAsignadas.asignarVuelo, Llamada.zonaInvalida,
      decide_eq_true_eq, ite_eq_left_iff, reduceCtorEq, imp_false, not_not]
  | desasignarVuelo numVuelo => simp [Llamada.aplicar, Llamada.zonaInvalida]
  | getZona numVuelo => simp [Llamada.aplicar, Llamada.zonaInvalida]

/-- What each event asks of the process that moves, and where it goes. -/
inductive Mueve (s : Estado ι) : Evento ι → Estado ι → Prop
  | llamar {a : ι} {r : Resultado} {op : Llamada} (h : s.pc a = .fuera r) :
      Mueve s (.llamar a op) (s.mover a (.espera op))
  | lock {a : ι} {op : Llamada} (h : s.pc a = .espera op) (hlibre : 0 < s.mutex) :
      Mueve s (.lock a)
        ({ s with mutex := s.mutex - 1, entraron := s.entraron ++ [op] }.mover a (.dentro op))
  | interrumpe {a : ι} {op : Llamada} (h : s.pc a = .espera op) :
      Mueve s (.interrumpe a) (s.mover a (.fuera .excepcion))
  | tabla {a : ι} {op : Llamada} {zonas : Tabla} {zona : Option Int} (h : s.pc a = .dentro op)
      (hop : op.aplicar s.zonas = some (zonas, zona)) :
      Mueve s (.tabla a) ({ s with zonas }.mover a (.sale zona))
  | falla {a : ι} {op : Llamada} (h : s.pc a = .dentro op) (hop : op.aplicar s.zonas = none) :
      Mueve s (.tabla a) (s.mover a (.fuera .excepcion))
  | unlock {a : ι} {zona : Option Int} (h : s.pc a = .sale zona) :
      Mueve s (.unlock a) ({ s with mutex := s.mutex + 1 }.mover a (.fuera (.vuelve zona)))

section

variable {s t : Estado ι} {a b : ι} {op : Llamada}

theorem paso_mueve {e : Evento ι} (h : paso s e = some t) : Mueve s e t := by
  cases e with
  | llamar a op =>
    simp only [paso] at h
    split at h <;> cases h
    exact .llamar ‹_›
  | lock a =>
    simp only [paso] at h
    split at h
    · split at h <;> cases h
      exact .lock ‹_› ‹_›
    · cases h
  | interrumpe a =>
    simp only [paso] at h
    split at h <;> cases h
    exact .interrumpe ‹_›
  | tabla a =>
    simp only [paso] at h
    split at h
    · split at h <;> cases h
      · exact .tabla ‹_› ‹_›
      · exact .falla ‹_› ‹_›
    · cases h
  | unlock a =>
    simp only [paso] at h
    split at h <;> cases h
    exact .unlock ‹_›

theorem tablaSegunOperacion (s : Estado ι) : TablaSegunOperacion s := by
  intro e t h
  cases paso_mueve h with
  | tabla hpc hop => exact .inr ⟨_, _, _, rfl, hpc, hop⟩
  | llamar | lock | interrumpe | falla | unlock => exact .inl rfl

theorem entraron_paso {e : Evento ι} (hs : paso s e = some t) : s.entraron <+: t.entraron := by
  cases paso_mueve hs with
  | lock => exact List.prefix_append _ _
  | llamar | interrumpe | tabla | falla | unlock => exact List.prefix_refl _

variable [Fintype ι]

/-- The process gives back the unit of the mutex that it has. -/
def Pc.devuelve : Pc → Nat
  | .dentro op => if op.zonaInvalida then 0 else 1
  | .sale _ => 1
  | _ => 0

/-- The unit of the mutex is there, or with a process that gives it back, or lost with a call whose zone is
    refused. -/
structure Inv (s : Estado ι) : Prop where
  cuenta : s.mutex + ∑ a, (s.pc a).devuelve + s.entraron.countP Llamada.zonaInvalida = 1
  dentro : ∀ a op, s.pc a = .dentro op → op ∈ s.entraron

theorem Inv.mover {u : Estado ι} {pc : Pc} (h : Inv s) (hu : u.pc = s.pc)
    (hcuenta : u.mutex + pc.devuelve + u.entraron.countP Llamada.zonaInvalida =
      s.mutex + (s.pc a).devuelve + s.entraron.countP Llamada.zonaInvalida)
    (hentraron : s.entraron <+: u.entraron) (hdentro : ∀ op, pc = .dentro op → op ∈ u.entraron) :
    Inv (u.mover a pc) := by
  constructor
  · have hsuma := Sumas.suma_update (fun _ (pc : Pc) => pc.devuelve) s.pc (Finset.mem_univ a) pc
    have hinv := h.cuenta
    show u.mutex + ∑ x, (Function.update u.pc a pc x).devuelve + u.entraron.countP _ = 1
    rw [hu]
    omega
  · intro b op hb
    show op ∈ u.entraron
    change Function.update u.pc a pc b = _ at hb
    by_cases hba : b = a
    · rw [hba, Function.update_self] at hb
      exact hdentro op hb
    · rw [Function.update_of_ne hba, hu] at hb
      exact hentraron.subset (h.dentro b op hb)

theorem inv_paso {e : Evento ι} (h : Inv s) (hs : paso s e = some t) : Inv t := by
  cases paso_mueve hs with
  | llamar hpc | interrumpe hpc =>
    exact h.mover rfl (by rw [hpc]; rfl) (List.prefix_refl _) (by rintro op ⟨⟩)
  | @lock a op hpc hlibre =>
    refine h.mover rfl ?_ (List.prefix_append _ _) ?_
    · rw [hpc, List.countP_append, List.countP_singleton]
      simp only [Pc.devuelve]
      cases op.zonaInvalida <;> simp <;> omega
    · rintro op' ⟨⟩
      exact List.mem_append_right _ (List.mem_singleton_self op)
  | @tabla a op zonas zona hpc hop =>
    refine h.mover rfl ?_ (List.prefix_refl _) (by rintro op' ⟨⟩)
    have hvalida : ¬op.zonaInvalida = true := fun hinvalida => by
      rw [(aplicar_isNone s.zonas op).2 hinvalida] at hop
      cases hop
    rw [hpc]
    simp only [Pc.devuelve, if_neg hvalida]
  | falla hpc hop =>
    refine h.mover rfl ?_ (List.prefix_refl _) (by rintro op' ⟨⟩)
    rw [hpc]
    simp only [Pc.devuelve, if_pos ((aplicar_isNone _ _).1 hop)]
  | unlock hpc =>
    refine h.mover rfl ?_ (List.prefix_refl _) (by rintro op' ⟨⟩)
    rw [hpc]
    simp only [Pc.devuelve]

theorem inv_alcanza {zonas : Tabla} (h : Alcanza paso (inicial zonas : Estado ι) s) : Inv s := by
  refine h.induccion ⟨?_, ?_⟩ fun _ _ _ => inv_paso
  · have hfuera : ∑ a : ι, ((inicial zonas).pc a).devuelve = 0 := Finset.sum_const_zero
    rw [hfuera]
    rfl
  · rintro a op ⟨⟩

omit [DecidableEq ι] in
/-- A refused zone has taken the mutex for ever. -/
theorem Inv.mutex_cero (h : Inv s) (hop : op ∈ s.entraron) (hinvalida : op.zonaInvalida = true) :
    s.mutex = 0 := by
  have hcuenta := h.cuenta
  have hpos : 0 < s.entraron.countP Llamada.zonaInvalida := List.countP_pos_iff.mpr ⟨op, hop, hinvalida⟩
  omega

omit [DecidableEq ι] in
/-- Without one, who is inside gives the unit back. -/
theorem Inv.enSeccion (h : Inv s) (hvalidas : SinZonaInvalida s) : s.mutex + s.enSeccion = 1 := by
  have hcuenta := h.cuenta
  have hnada : s.entraron.countP Llamada.zonaInvalida = 0 :=
    List.countP_eq_zero.mpr fun op hop => by rw [hvalidas op hop]; exact Bool.false_ne_true
  have hdevuelven : ∑ a, (s.pc a).devuelve = s.enSeccion := by
    refine Finset.sum_congr rfl fun a _ => ?_
    cases hpc : s.pc a with
    | dentro op =>
      have hvalida := hvalidas op (h.dentro a op hpc)
      simp only [Pc.devuelve, Pc.enSeccion, hvalida, Bool.false_eq_true, if_false]
    | fuera | espera | sale => rfl
  omega

omit [Fintype ι] in
/-- After `unlock` by the one that is inside, those that wait can lock. -/
theorem unlock_libera {zona : Option Int} (ha : s.pc a = .sale zona) :
    ∃ t, correr paso s [.unlock a] = some t ∧ 0 < t.mutex ∧
      ∀ b op, s.pc b = .espera op → (paso t (.lock b)).isSome = true := by
  have hpaso : paso s (.unlock a) =
      some ({ s with mutex := s.mutex + 1 }.mover a (.fuera (.vuelve zona))) := by
    simp only [paso, ha]
  refine ⟨_, by rw [correr, hpaso]; rfl, Nat.succ_pos _, fun b op hb => ?_⟩
  have hne : b ≠ a := by
    rintro rfl
    rw [ha] at hb
    cases hb
  have hb' : Function.update s.pc a (.fuera (.vuelve zona)) b = .espera op := by
    rw [Function.update_of_ne hne, hb]
  simp only [paso, Estado.mover, hb', Nat.succ_pos, if_true, Option.isSome_some]

/-- The one that is inside can always finish when the table does not refuse its zone. -/
theorem sobrevive_de (hinv : Inv s) (h : SinZonaInvalida s) : Sobrevive s := by
  have hcuenta := hinv.enSeccion h
  refine ⟨hcuenta, ?_⟩
  by_cases hlibre : 0 < s.mutex
  · refine ⟨[], s, rfl, hlibre, fun a op ha => ?_⟩
    simp only [paso, ha, hlibre, if_true, Option.isSome_some]
  · obtain ⟨a, -, ha⟩ : ∃ a ∈ Finset.univ, (s.pc a).enSeccion ≠ 0 :=
      Finset.exists_ne_zero_of_sum_ne_zero (show s.enSeccion ≠ 0 by omega)
    match hpc : s.pc a with
    | .fuera r => exact absurd (by rw [hpc]; rfl) ha
    | .espera op => exact absurd (by rw [hpc]; rfl) ha
    | .sale zona =>
      obtain ⟨t, ht⟩ := unlock_libera hpc
      exact ⟨_, t, ht⟩
    | .dentro op =>
      have hop : op.aplicar s.zonas ≠ none := by
        rw [ne_eq, aplicar_isNone, h op (hinv.dentro a op hpc)]
        exact Bool.false_ne_true
      obtain ⟨⟨zonas, zona⟩, haplica⟩ := Option.ne_none_iff_exists'.1 hop
      have hpaso : paso s (.tabla a) = some ({ s with zonas }.mover a (.sale zona)) := by
        simp only [paso, hpc, haplica]
      have hsale : ({ s with zonas }.mover a (.sale zona)).pc a = .sale zona := Function.update_self ..
      obtain ⟨t, hcorrer, hmutex, hespera⟩ := unlock_libera hsale
      refine ⟨[.tabla a, .unlock a], t, by rw [correr, hpaso]; exact hcorrer, hmutex, fun b op' hb => ?_⟩
      refine hespera b op' ?_
      have hne : b ≠ a := by
        rintro rfl
        rw [hpc] at hb
        cases hb
      exact (Function.update_of_ne hne _ _).trans hb

end

/-- The table changes only as the operations say, and the mutex survives exactly the calls whose zone the
    table does not refuse. -/
theorem mutex_sobrevive_iff [Fintype ι] {zonas : Tabla} {s : Estado ι}
    (h : Alcanza paso (inicial zonas) s) :
    TablaSegunOperacion s ∧ (Sobrevive s ↔ SinZonaInvalida s) := by
  have hinv := inv_alcanza h
  refine ⟨tablaSegunOperacion s, fun ⟨_, es, t, hes, hlibre, _⟩ op hop => ?_, sobrevive_de hinv⟩
  by_contra hinvalida
  rw [Bool.not_eq_false] at hinvalida
  -- the call is still among those that took the mutex when this one is free
  have hst : Alcanza paso s t := ⟨es, hes⟩
  obtain ⟨hinvT, hopT⟩ : Inv t ∧ op ∈ t.entraron :=
    hst.induccion (I := fun t => Inv t ∧ op ∈ t.entraron) ⟨hinv, hop⟩ fun _ _ _ hi hp =>
      ⟨inv_paso hi.1 hp, (entraron_paso hp).subset hi.2⟩
  rw [hinvT.mutex_cero hopT hinvalida] at hlibre
  exact absurd hlibre (Nat.lt_irrefl 0)

/-- Zone 10 is refused, and the mutex is never free again. -/
theorem zona_invalida_traba : ¬∀ s : Estado (Fin 2), Alcanza paso (inicial ZonasAsignadas.inicial) s →
    Sobrevive s := by
  intro h
  have hrun : (correr paso (inicial ZonasAsignadas.inicial : Estado (Fin 2))
      [.llamar 0 (.asignarVuelo 10 5), .lock 0, .tabla 0]).map (fun s => s.mutex + s.enSeccion) = some 0 := by
    decide +kernel
  obtain ⟨s, hs, hcero⟩ := Option.map_eq_some_iff.1 hrun
  have huno := (h s ⟨_, hs⟩).1
  omega

/-- One process assigns a flight while another one waits to ask for it. -/
theorem mutex_sobrevive_dos_procesos : ∃ s : Estado (Fin 2), Sobrevive s ∧ s.mutex = 0 := by
  have hrun : (correr paso (inicial ZonasAsignadas.inicial : Estado (Fin 2))
      [.llamar 0 (.asignarVuelo 3 7), .llamar 1 (.getZona 7), .lock 0, .tabla 0]).map
        (fun s => (s.mutex, s.entraron)) = some (0, [.asignarVuelo 3 7]) := by
    decide +kernel
  obtain ⟨s, hs, hvalores⟩ := Option.map_eq_some_iff.1 hrun
  obtain ⟨hmutex, hentraron⟩ := Prod.mk.inj hvalores
  refine ⟨s, (mutex_sobrevive_iff ⟨_, hs⟩).2.2 fun op hop => ?_, hmutex⟩
  rw [hentraron] at hop
  rw [List.mem_singleton.mp hop]
  decide

end ApiTorreDeControlSvc
