import Aeropuerto.Biblioteca.Ejecucion

/-!
# Where the pointers of a belt point (`api/cinta.h`, `api/cintaprincipal.h`)

The constructor of a belt creates a segment full of zeros, launches the process that brings the image
of the belt, and computes its pointers from counters that are part of the image.  Offsets are counted
in `int`s from `memory_pointer()`, regions in bytes.
-/

namespace Disposicion

open Ejecucion

/-- The constants of a class of belts; `Cinta` keeps an array of waiting consumers and
    `CintaPrincipal` does not. -/
structure Clase where
  capacidad : Nat
  cantidadMaxProductores : Nat
  cantidadMaxConsumidores : Nat
  esperanConsumidores : Bool
  tamanioMemoria (sizeofEquipaje : Nat) : Nat
  capacidad_pos : 0 < capacidad
  productores_pos : 0 < cantidadMaxProductores
  consumidores_pos : 0 < cantidadMaxConsumidores
  cabe (sizeofEquipaje : Nat) :
    4 * (8 + cantidadMaxProductores +
      if esperanConsumidores then cantidadMaxConsumidores else 0) + capacidad * sizeofEquipaje ≤
        tamanioMemoria sizeofEquipaje

/-- `CintaCheckin`, which is a `Cinta`. -/
def cintaCheckin : Clase where
  capacidad := 10
  cantidadMaxProductores := 4
  cantidadMaxConsumidores := 1
  esperanConsumidores := true
  tamanioMemoria sizeofEquipaje := 8 * 4 + 4 * (4 + 1) + 10 * sizeofEquipaje
  capacidad_pos := by decide
  productores_pos := by decide
  consumidores_pos := Nat.one_pos
  cabe sizeofEquipaje := Nat.le_refl _

/-- `CintaCentral`, which is a `CintaPrincipal`. -/
def cintaCentral : Clase where
  capacidad := 10
  cantidadMaxProductores := 6
  cantidadMaxConsumidores := 3
  esperanConsumidores := false
  tamanioMemoria sizeofEquipaje := (8 + 6 + 3) * 4 + sizeofEquipaje * 10
  capacidad_pos := by decide
  productores_pos := by decide
  consumidores_pos := by decide
  cabe sizeofEquipaje := by
    show 4 * (8 + 6 + 0) + 10 * sizeofEquipaje ≤ _
    omega

/-- The words of the image that never change: `tamanio_vector`, `cantidad_productores` and
    `cantidad_consumidores`. -/
def Clase.imagen (c : Clase) : Nat → Option Nat
  | 0 => some c.capacidad
  | 4 => some c.cantidadMaxProductores
  | 5 => some c.cantidadMaxConsumidores
  | _ => none

structure Punteros where
  idsProductoresEsperando : Nat
  idsConsumidoresEsperando : Option Nat
  vectorElementos : Nat
  deriving DecidableEq

/-- The constructor: before the segment exists, before it reads each counter, and at its end. -/
inductive PcConstructor where
  | creaMemoria
  | leeProductores
  | leeConsumidores (idsConsumidoresEsperando : Nat)
  | listo (punteros : Punteros)
  deriving DecidableEq

/-- The segment of a process and which of its words the image has brought.  `prematuro` says that the
    constructor has read a counter that had not yet come. -/
structure Proceso where
  palabra : Nat → Nat
  llego : Nat → Bool
  pc : PcConstructor
  prematuro : Bool

def Proceso.inicial : Proceso := ⟨fun _ => 0, fun _ => false, .creaMemoria, false⟩

/-- Computing the pointers, one counter at a time. -/
def Proceso.construir (c : Clase) (p : Proceso) : Option Proceso :=
  match p.pc with
  | .creaMemoria => some { p with pc := .leeProductores }
  | .leeProductores =>
    let ids := 8
    if c.esperanConsumidores then
      some { p with
        pc := .leeConsumidores (ids + p.palabra 4)
        prematuro := p.prematuro || !p.llego 4 }
    else
      some { p with
        pc := .listo ⟨ids, none, ids + p.palabra 4⟩
        prematuro := p.prematuro || !p.llego 4 }
  | .leeConsumidores ids =>
    some { p with
      pc := .listo ⟨8, some ids, ids + p.palabra 5⟩
      prematuro := p.prematuro || !p.llego 5 }
  | .listo _ => none

/-- `local_broker_comm` stores word `i` of an image that arrives; the words that change have any
    value. -/
def Proceso.copiar (c : Clase) (p : Proceso) (i x : Nat) : Option Proceso :=
  match p.pc with
  | .creaMemoria => none
  | _ =>
    some { p with
      palabra := Function.update p.palabra i ((c.imagen i).getD x)
      llego := Function.update p.llego i true }

section

variable {ι : Type} [DecidableEq ι]

inductive Evento (ι : Type) where
  | construir (a : ι)
  | copiar (a : ι) (i x : Nat)

def paso (c : Clase) (s : ι → Proceso) : Evento ι → Option (ι → Proceso)
  | .construir a => ((s a).construir c).map (Function.update s a)
  | .copiar a i x => ((s a).copiar c i x).map (Function.update s a)

def inicial : ι → Proceso := fun _ => .inicial

end

/-! ## The regions -/

/-- First byte and number of bytes. -/
abbrev Region := Nat × Nat

def Region.Disjuntas (a b : Region) : Prop :=
  ∀ x, ¬ ((a.1 ≤ x ∧ x < a.1 + a.2) ∧ b.1 ≤ x ∧ x < b.1 + b.2)

def regionVector (c : Clase) (sizeofEquipaje : Nat) (p : Punteros) : Region :=
  (4 * p.vectorElementos, c.capacidad * sizeofEquipaje)

/-- The counters of the header, the arrays of waiting ids and `vector_elementos`. -/
def regiones (c : Clase) (sizeofEquipaje : Nat) (p : Punteros) : List Region :=
  [(0, 4 * 8), (4 * p.idsProductoresEsperando, 4 * c.cantidadMaxProductores)] ++
    (p.idsConsumidoresEsperando.map fun ids => (4 * ids, 4 * c.cantidadMaxConsumidores)).toList ++
    [regionVector c sizeofEquipaje p]

/-- The regions do not overlap and the slots lie inside the segment. -/
structure BienDispuesto (c : Clase) (sizeofEquipaje : Nat) (p : Punteros) : Prop where
  disjuntas : (regiones c sizeofEquipaje p).Pairwise Region.Disjuntas
  cabe : (regionVector c sizeofEquipaje p).1 + (regionVector c sizeofEquipaje p).2 ≤
    c.tamanioMemoria sizeofEquipaje

/-- What the constructor computes from the counters of the image. -/
def Clase.punteros (c : Clase) : Punteros :=
  if c.esperanConsumidores then
    ⟨8, some (8 + c.cantidadMaxProductores),
      8 + c.cantidadMaxProductores + c.cantidadMaxConsumidores⟩
  else ⟨8, none, 8 + c.cantidadMaxProductores⟩

variable {c : Clase} {sizeofEquipaje : Nat}

theorem Region.disjuntas_of_le {a b : Region} (h : a.1 + a.2 ≤ b.1) : a.Disjuntas b := by
  intro x hx
  omega

/-- Two regions that begin at the same byte overlap, unless one is empty. -/
theorem Region.not_disjuntas {a b : Region} (h : a.1 = b.1) (ha : 0 < a.2) (hb : 0 < b.2) :
    ¬ a.Disjuntas b := by
  intro hab
  exact hab a.1 ⟨⟨Nat.le_refl _, by omega⟩, by omega, by omega⟩

theorem bienDispuesto_punteros (c : Clase) (sizeofEquipaje : Nat) :
    BienDispuesto c sizeofEquipaje c.punteros := by
  have hcabe := c.cabe sizeofEquipaje
  unfold Clase.punteros
  cases hc : c.esperanConsumidores with
  | true =>
    rw [hc, if_pos rfl] at hcabe
    rw [if_pos rfl]
    refine ⟨?_, ?_⟩
    · simp only [regiones, regionVector, Option.map_some, Option.toList_some, List.cons_append,
        List.nil_append, List.pairwise_cons, List.mem_cons, List.not_mem_nil, or_false,
        forall_eq_or_imp, forall_eq]
      refine ⟨⟨?_, ?_, ?_⟩, ⟨?_, ?_⟩, ?_, nofun, List.Pairwise.nil⟩ <;>
        exact Region.disjuntas_of_le (by simp only; omega)
    · simp only [regionVector]
      omega
  | false =>
    rw [hc, if_neg nofun] at hcabe
    rw [if_neg nofun]
    refine ⟨?_, ?_⟩
    · simp only [regiones, regionVector, Option.map_none, Option.toList_none, List.cons_append,
        List.nil_append, List.append_nil, List.pairwise_cons, List.mem_cons, List.not_mem_nil,
        or_false, forall_eq_or_imp, forall_eq]
      refine ⟨⟨?_, ?_⟩, ?_, nofun, List.Pairwise.nil⟩ <;>
        exact Region.disjuntas_of_le (by simp only; omega)
    · simp only [regionVector]
      omega

/-- Where an array begins at the byte where another one does, the belt is badly laid out. -/
theorem not_bienDispuesto_of_ids {a : Punteros} (ha : a.idsProductoresEsperando = 8)
    (hids : a.idsConsumidoresEsperando = some 8) : ¬ BienDispuesto c sizeofEquipaje a := by
  intro h
  have hpar := h.disjuntas
  have hP := c.productores_pos
  have hC := c.consumidores_pos
  simp only [regiones, hids, Option.map_some, Option.toList_some, List.cons_append, List.nil_append,
    List.pairwise_cons, List.mem_cons, forall_eq_or_imp] at hpar
  exact Region.not_disjuntas (by simp only; omega) (by simp only; omega) (by simp only; omega)
    hpar.2.1.1

theorem not_bienDispuesto_of_vector {a : Punteros} {ids : Nat} (hE : 0 < sizeofEquipaje)
    (hids : a.idsConsumidoresEsperando = some ids) (hvector : a.vectorElementos = ids) :
    ¬ BienDispuesto c sizeofEquipaje a := by
  intro h
  have hpar := h.disjuntas
  have hC := c.consumidores_pos
  have hvec := Nat.mul_pos c.capacidad_pos hE
  simp only [regiones, hids, Option.map_some, Option.toList_some, List.cons_append, List.nil_append,
    List.pairwise_cons, List.mem_cons, forall_eq_or_imp] at hpar
  refine Region.not_disjuntas ?_ (by simp only; omega) hvec hpar.2.2.1.1
  simp only [regionVector, hvector]

theorem not_bienDispuesto_of_principal {a : Punteros} (hE : 0 < sizeofEquipaje)
    (hids : a.idsConsumidoresEsperando = none)
    (hvector : a.vectorElementos = a.idsProductoresEsperando) :
    ¬ BienDispuesto c sizeofEquipaje a := by
  intro h
  have hpar := h.disjuntas
  have hP := c.productores_pos
  have hvec := Nat.mul_pos c.capacidad_pos hE
  simp only [regiones, hids, Option.map_none, Option.toList_none, List.append_nil, List.cons_append,
    List.nil_append, List.pairwise_cons, List.mem_singleton, forall_eq] at hpar
  refine Region.not_disjuntas ?_ (by simp only; omega) hvec hpar.2.1
  simp only [regionVector, hvector]

/-! ## The constructor -/

/-- The counters are those of the image once it has brought them, and the pointers are right exactly if
    none was read before. -/
structure InvProceso (c : Clase) (sizeofEquipaje : Nat) (p : Proceso) : Prop where
  palabra : ∀ i k, c.imagen i = some k → p.palabra i = if p.llego i then k else 0
  antes : p.pc = .creaMemoria ∨ p.pc = .leeProductores → p.prematuro = false
  leyendo : ∀ ids, p.pc = .leeConsumidores ids → c.esperanConsumidores = true ∧
    ids = 8 + if p.prematuro then 0 else c.cantidadMaxProductores
  listo : ∀ a, p.pc = .listo a → (p.prematuro = false → a = c.punteros) ∧
    (p.prematuro = true → ¬ BienDispuesto c sizeofEquipaje a)

theorem invProceso_inicial : InvProceso c sizeofEquipaje .inicial where
  palabra _ _ _ := rfl
  antes _ := rfl
  leyendo := nofun
  listo := nofun

section Pasos

variable {p q : Proceso}

theorem invProceso_copiar {i x : Nat} (h : InvProceso c sizeofEquipaje p)
    (hs : p.copiar c i x = some q) : InvProceso c sizeofEquipaje q := by
  unfold Proceso.copiar at hs
  split at hs <;> cases hs
  refine { h with palabra := fun j k hk => ?_ }
  by_cases hj : j = i
  · simp only [hj, Function.update_self, if_true]
    rw [← hj, hk, Option.getD_some]
  · simp only [Function.update_of_ne hj]
    exact h.palabra j k hk

/-- A counter read before it has come is zero. -/
theorem InvProceso.leer (h : InvProceso c sizeofEquipaje p) :
    p.palabra 4 = (if p.llego 4 then c.cantidadMaxProductores else 0) ∧
      p.palabra 5 = if p.llego 5 then c.cantidadMaxConsumidores else 0 :=
  ⟨h.palabra 4 _ rfl, h.palabra 5 _ rfl⟩

theorem invProceso_construir (hE : 0 < sizeofEquipaje) (h : InvProceso c sizeofEquipaje p)
    (hs : p.construir c = some q) : InvProceso c sizeofEquipaje q := by
  obtain ⟨hprod, hcons⟩ := h.leer
  cases hpc : p.pc with
  | creaMemoria =>
    simp only [Proceso.construir, hpc] at hs
    cases hs
    exact { h with antes := fun _ => h.antes (.inl hpc), leyendo := nofun, listo := nofun }
  | leeProductores =>
    have hantes := h.antes (.inr hpc)
    simp only [Proceso.construir, hpc, hantes, Bool.false_or, hprod] at hs
    cases hc : c.esperanConsumidores with
    | true =>
      rw [hc, if_pos rfl] at hs
      cases hs
      refine { h with
        antes := by rintro (hno | hno) <;> cases hno
        leyendo := fun ids hids => ⟨hc, ?_⟩, listo := nofun }
      cases hids
      cases p.llego 4 <;> rfl
    | false =>
      rw [hc, if_neg nofun] at hs
      cases hs
      refine { h with
        antes := by rintro (hno | hno) <;> cases hno
        leyendo := nofun, listo := fun a ha => ?_ }
      cases ha
      cases p.llego 4 with
      | true =>
        refine ⟨fun _ => ?_, fun hno => by cases hno⟩
        simp only [Clase.punteros, hc, if_true, Bool.false_eq_true, if_false]
      | false => exact ⟨(fun hno => by cases hno), fun _ => not_bienDispuesto_of_principal hE rfl rfl⟩
  | leeConsumidores ids =>
    obtain ⟨hc, hids⟩ := h.leyendo ids hpc
    simp only [Proceso.construir, hpc, hcons] at hs
    cases hs
    refine { h with
      antes := by rintro (hno | hno) <;> cases hno
      leyendo := nofun, listo := fun a ha => ?_ }
    cases ha
    cases hprematuro : p.prematuro with
    | true =>
      rw [hprematuro] at hids
      exact ⟨nofun, fun _ => not_bienDispuesto_of_ids rfl (congrArg some hids)⟩
    | false =>
      rw [hprematuro, if_neg nofun] at hids
      cases p.llego 5 with
      | true =>
        refine ⟨fun _ => ?_, fun hno => by cases hno⟩
        rw [Clase.punteros, hc, if_pos rfl, hids]
        rfl
      | false => exact ⟨(fun hno => by cases hno), fun _ => not_bienDispuesto_of_vector hE rfl rfl⟩
  | listo a =>
    simp only [Proceso.construir, hpc] at hs
    cases hs

variable {ι : Type} [DecidableEq ι] {s s' : ι → Proceso}

theorem inv_paso {e : Evento ι} (hE : 0 < sizeofEquipaje)
    (h : ∀ a, InvProceso c sizeofEquipaje (s a)) (hs : paso c s e = some s') :
    ∀ a, InvProceso c sizeofEquipaje (s' a) := by
  cases e with
  | construir a =>
    obtain ⟨q, hq, rfl⟩ := Option.map_eq_some_iff.mp hs
    exact (Function.forall_update_iff s fun _ p => InvProceso c sizeofEquipaje p).mpr
      ⟨invProceso_construir hE (h a) hq, fun b _ => h b⟩
  | copiar a i x =>
    obtain ⟨q, hq, rfl⟩ := Option.map_eq_some_iff.mp hs
    exact (Function.forall_update_iff s fun _ p => InvProceso c sizeofEquipaje p).mpr
      ⟨invProceso_copiar (h a) hq, fun b _ => h b⟩

/-- Two processes agree on a sound layout exactly if in both the image brought the counters before the
    constructor read them. -/
theorem disposicion_acordada {a b : ι} {pa pb : Punteros} (hE : 0 < sizeofEquipaje)
    (h : Alcanza (paso c) inicial s) (ha : (s a).pc = .listo pa) (hb : (s b).pc = .listo pb) :
    (pa = pb ∧ BienDispuesto c sizeofEquipaje pa ∧ BienDispuesto c sizeofEquipaje pb) ↔
      (s a).prematuro = false ∧ (s b).prematuro = false := by
  have hinv : ∀ a, InvProceso c sizeofEquipaje (s a) :=
    h.induccion (I := fun s => ∀ a, InvProceso c sizeofEquipaje (s a))
      (fun _ => invProceso_inicial) fun _ _ _ => inv_paso hE
  obtain ⟨hbien, hmal⟩ := (hinv a).listo pa ha
  obtain ⟨hbien', hmal'⟩ := (hinv b).listo pb hb
  constructor
  · rintro ⟨-, hpa, hpb⟩
    exact ⟨by simpa using fun hp => hmal hp hpa, by simpa using fun hp => hmal' hp hpb⟩
  · rintro ⟨hpa, hpb⟩
    rw [hbien hpa, hbien' hpb]
    exact ⟨rfl, bienDispuesto_punteros c sizeofEquipaje, bienDispuesto_punteros c sizeofEquipaje⟩

end Pasos

/-- In process `a` the image comes before the constructor reads the counters, in `b` after. -/
def unoAntes {ι : Type} (a b : ι) : List (Evento ι) :=
  [.construir a, .copiar a 4 0, .copiar a 5 0, .construir a, .construir a, .construir b,
    .construir b, .construir b, .copiar b 4 0, .copiar b 5 0]

/-- In both processes the image comes first. -/
def dosAntes {ι : Type} (a b : ι) : List (Evento ι) :=
  [.construir a, .construir b, .copiar a 4 0, .copiar b 4 0, .copiar a 5 0, .copiar b 5 0,
    .construir a, .construir a, .construir b, .construir b]

theorem disposicion_acordada_dos_procesos :
    ∃ (s : Bool → Proceso) (pa pb : Punteros), (s false).pc = .listo pa ∧
      (s true).pc = .listo pb ∧ pa = pb ∧ BienDispuesto cintaCheckin 16 pa ∧
      BienDispuesto cintaCheckin 16 pb := by
  have hrun : (correr (paso cintaCheckin) inicial (dosAntes false true)).map (fun s =>
      ((s false).pc, (s true).pc, (s false).prematuro, (s true).prematuro)) =
      some (.listo ⟨8, some 12, 13⟩, .listo ⟨8, some 12, 13⟩, false, false) := by
    decide +kernel
  obtain ⟨s, hs, hvalores⟩ := Option.map_eq_some_iff.mp hrun
  obtain ⟨ha, hb, hprematuros⟩ : _ ∧ _ ∧ _ ∧ _ := by simpa only [Prod.mk.injEq] using hvalores
  exact ⟨s, _, _, ha, hb, (disposicion_acordada (by decide) ⟨_, hs⟩ ha hb).mpr hprematuros⟩

/-- Two processes on the check-in belt with different offsets. -/
theorem disposicion_distinta :
    ¬ ∀ (s : Bool → Proceso) (pa pb : Punteros), Alcanza (paso cintaCheckin) inicial s →
      (s false).pc = .listo pa → (s true).pc = .listo pb → pa = pb := by
  intro h
  exact absurd (h _ _ _ ⟨unoAntes false true, rfl⟩ rfl rfl) (by decide)

end Disposicion
