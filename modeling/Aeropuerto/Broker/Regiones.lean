import Aeropuerto.Biblioteca.Ejecucion

/-!
# Where the groups live in the segment of the broker

`TokenManager::chequear_memoria_disponible` reserves the memory, the master constructor of `Grupo` lays
out the control table and the create constructor gives each group the region after the one of the group
created before it.  The offsets are bytes from `memory_pointer()`.  The sizes in the file are values of
`int`, which may be negative; they are added to values of `size_t`, so that the sums wrap.
-/

namespace Regiones

open Ejecucion

variable {ν : Type}

/-! ## Constants -/

def maxNombreRecurso : Nat := 64
def maxClients : Nat := 50
def maxGrupos : Nat := 128
def sizeofInt : Nat := 4
def sizeofSizeT : Nat := 8

/-- `TAMANIO_TABLA_CLIENTES`. -/
def tamanioTablaClientes : Nat :=
  sizeofInt + sizeofSizeT + maxNombreRecurso * maxClients + 4 * sizeofInt

/-- `TAMANIO_TABLA_GRUPOS_CREADOS`. -/
def tamanioTablaGruposCreados : Nat := sizeofInt + (maxNombreRecurso + sizeofSizeT) * maxGrupos

/-! ## The segment -/

/-- The bytes from `desde` on, `largo` of them. -/
structure Tramo where
  desde : Nat
  largo : Nat
  deriving DecidableEq

def Tramo.bytes (r : Tramo) : Set Nat := Set.Ico r.desde (r.desde + r.largo)

/-- The lines of the groups file: name and size of the memory, as `parse_int_val` returns it. -/
abbrev ListaGrupos (ν : Type) := List (ν × Int32)

/-- An `int` where a `size_t` is expected. -/
def sizeT (valor : Int32) : Nat := (valor.toInt % 2 ^ 64).toNat

def memoriaTotal (grupos : ListaGrupos ν) : Nat :=
  ((grupos.map fun linea => sizeT linea.2).sum + tamanioTablaClientes * grupos.length) % 2 ^ 64

/-- `chequear_memoria_disponible` does not throw. -/
def chequearMemoriaDisponible (shmmax : Nat) (grupos : ListaGrupos ν) : Prop :=
  ¬ (memoriaTotal grupos > shmmax ∨ grupos.length > 128)

instance (shmmax : Nat) (grupos : ListaGrupos ν) : Decidable (chequearMemoriaDisponible shmmax grupos) :=
  inferInstanceAs (Decidable (¬ _))

/-- The segment that the master constructor asks for. -/
def tamanioSegmento (grupos : ListaGrupos ν) : Nat :=
  (memoriaTotal grupos + tamanioTablaGruposCreados) % 2 ^ 64

/-- `asignar_punteros_control`. -/
structure PunterosControl where
  cantidadClientesEsperando : Nat
  gruposCreados : Nat → Nat
  offsets : Nat

def asignarPunterosControl : PunterosControl where
  cantidadClientesEsperando := 0
  gruposCreados i := sizeofInt + i * maxNombreRecurso
  offsets := sizeofInt + (maxGrupos - 1) * maxNombreRecurso + maxNombreRecurso

/-- `asignar_punteros`, of the fields that the create constructor writes. -/
structure Punteros where
  cantClientes : Nat
  memSize : Nat
  clientNames : Nat
  tengoTokenGrupo : Nat
  tokenEnviado : Nat
  avisarEnvio : Nat

def asignarPunteros (p : Nat) : Punteros where
  cantClientes := p
  memSize := p + sizeofInt
  clientNames := p + sizeofInt + sizeofSizeT
  tengoTokenGrupo := p + sizeofInt + sizeofSizeT + maxClients * maxNombreRecurso
  tokenEnviado := p + sizeofInt + sizeofSizeT + maxClients * maxNombreRecurso + 2 * sizeofInt
  avisarEnvio := p + sizeofInt + sizeofSizeT + maxClients * maxNombreRecurso + 3 * sizeofInt

/-- A creation: which position it took and what it wrote in the control table and elsewhere. -/
structure Creacion where
  posicion : Nat
  control : List Tramo
  grupo : List Tramo

/-- `creados` are the names in use of `grupos_creados`, which are the first ones, each with the size of
    its memory. -/
structure Estado (ν : Type) where
  creados : List (ν × Nat)
  offsets : Nat → Nat
  creaciones : List Creacion

/-- The master constructor. -/
def inicial : Estado ν where
  creados := []
  offsets := fun i => if i = 0 then tamanioTablaGruposCreados else 0
  creaciones := []

/-- The create constructor, for a name that is not in the table. -/
def Estado.crear (s : Estado ν) (nombre : ν) (tamanioMemoria : Nat) : Option (Estado ν) :=
  -- the first free position; posicion_grupo is not set when there is none
  let posicion := s.creados.length
  if posicion < maxGrupos then
    let control := asignarPunterosControl
    let offsets := Function.update s.offsets (posicion + 1)
      ((s.offsets posicion + tamanioMemoria + tamanioTablaClientes) % 2 ^ 64)
    let grupo := asignarPunteros (offsets posicion)
    some
      { creados := s.creados ++ [(nombre, tamanioMemoria)]
        offsets := offsets
        creaciones := s.creaciones ++ [
          { posicion := posicion
            control := [
              ⟨control.gruposCreados posicion, maxNombreRecurso⟩,
              ⟨control.cantidadClientesEsperando, sizeofInt⟩,
              ⟨control.offsets + (posicion + 1) * sizeofSizeT, sizeofSizeT⟩]
            grupo := [
              -- (*client_names)[i] is a byte of the first name, for i from 1 on
              ⟨grupo.clientNames + 1, maxClients - 1⟩,
              ⟨grupo.cantClientes, sizeofInt⟩,
              ⟨grupo.memSize, sizeofSizeT⟩,
              ⟨grupo.avisarEnvio, sizeofInt⟩,
              ⟨grupo.tengoTokenGrupo, sizeofInt⟩,
              ⟨grupo.tokenEnviado, sizeofInt⟩] }] }
  else none

/-- `TokenManager::run` on a request for a group: it is created if it is in the file and not yet in the
    table. -/
def paso [DecidableEq ν] (grupos : ListaGrupos ν) (s : Estado ν) (nombre : ν) : Option (Estado ν) :=
  if nombre ∈ s.creados.map Prod.fst then some s
  else
    match grupos.find? fun linea => linea.1 = nombre with
    | some linea => s.crear linea.1 (sizeT linea.2)
    | none => some s

/-! ## Groups that do not overlap -/

/-- The table of clients and the memory of the group at position `i`. -/
def Estado.region (s : Estado ν) (i : Fin s.creados.length) : Tramo :=
  ⟨s.offsets i, (s.creados[i].2 + tamanioTablaClientes) % 2 ^ 64⟩

def tablaControl : Tramo := ⟨0, tamanioTablaGruposCreados⟩

def segmento (grupos : ListaGrupos ν) : Tramo := ⟨0, tamanioSegmento grupos⟩

structure SinSolapar (grupos : ListaGrupos ν) (s : Estado ν) : Prop where
  control : ∀ c ∈ s.creaciones, ∀ w ∈ c.control, w.bytes ⊆ tablaControl.bytes
  disjuntas : ∀ i j, i ≠ j → Disjoint (s.region i).bytes (s.region j).bytes
  fueraDelControl : ∀ i, Disjoint (s.region i).bytes tablaControl.bytes
  dentro : ∀ i, (s.region i).bytes ⊆ (segmento grupos).bytes
  ajenas : ∀ c ∈ s.creaciones, ∀ w ∈ c.control ++ c.grupo, ∀ i : Fin s.creados.length,
    i.val ≠ c.posicion → Disjoint w.bytes (s.region i).bytes

/-! ## The invariant -/

variable {grupos : ListaGrupos ν} {s t : Estado ν} {nombre : ν} {tamanio shmmax : Nat}

theorem Tramo.bytes_subset {a b k l : Nat} (ha : b ≤ a) (hb : a + k ≤ b + l) :
    (Tramo.mk a k).bytes ⊆ (Tramo.mk b l).bytes :=
  Set.Ico_subset_Ico ha hb

theorem Tramo.disjoint_bytes {a b k l : Nat} (h : a + k ≤ b) :
    Disjoint (Tramo.mk a k).bytes (Tramo.mk b l).bytes := by
  apply Set.disjoint_left.mpr
  intro x hx hx'
  have hfin : x < a + k := hx.2
  have hdesde : b ≤ x := hx'.1
  omega

/-- What a list of groups needs in the segment. -/
def ocupado (creados : List (ν × Nat)) : Nat :=
  (creados.map fun c => c.2 + tamanioTablaClientes).sum

/-- The groups of the file, with the size that the create constructor receives. -/
def tamanios (grupos : ListaGrupos ν) : List (ν × Nat) :=
  grupos.map fun linea => (linea.1, sizeT linea.2)

theorem memoriaTotal_eq (grupos : ListaGrupos ν) :
    memoriaTotal grupos = ocupado (tamanios grupos) % 2 ^ 64 := by
  unfold memoriaTotal ocupado tamanios
  rw [List.map_map, ← Nat.mul_comm grupos.length, ← smul_eq_mul, ← List.sum_replicate,
    ← List.map_const', ← List.sum_map_add]
  rfl

/-- No size in the file is negative. -/
def SinNegativos (grupos : ListaGrupos ν) : Prop := ∀ linea ∈ grupos, 0 ≤ linea.2.toInt

/-- Then 128 groups do not wrap. -/
theorem ocupado_lt (hpos : SinNegativos grupos) (hcuantos : grupos.length ≤ 128) :
    tamanioTablaGruposCreados + ocupado (tamanios grupos) < 2 ^ 64 := by
  have hcada : ∀ n ∈ (tamanios grupos).map fun c => c.2 + tamanioTablaClientes,
      n ≤ 2 ^ 31 + tamanioTablaClientes := by
    intro n hn
    obtain ⟨c, hc, rfl⟩ := List.mem_map.mp hn
    obtain ⟨linea, hlinea, rfl⟩ := List.mem_map.mp hc
    have hno := hpos linea hlinea
    have hlt := linea.2.toInt_lt
    apply Nat.add_le_add_right
    show (linea.2.toInt % 2 ^ 64).toNat ≤ 2 ^ 31
    omega
  have hsuma : ocupado (tamanios grupos) ≤ grupos.length * (2 ^ 31 + tamanioTablaClientes) := by
    simpa [ocupado, tamanios] using List.sum_le_card_nsmul _ _ hcada
  calc tamanioTablaGruposCreados + ocupado (tamanios grupos)
      ≤ tamanioTablaGruposCreados + 128 * (2 ^ 31 + tamanioTablaClientes) :=
        Nat.add_le_add_left (hsuma.trans (Nat.mul_le_mul_right _ hcuantos)) _
    _ < 2 ^ 64 := by decide

/-- A creation wrote its entry of the control table and its own region. -/
structure Creacion.Buena (s : Estado ν) (c : Creacion) : Prop where
  posicion : c.posicion < s.creados.length
  control : c.posicion + 1 < maxGrupos → ∀ w ∈ c.control, w.bytes ⊆ tablaControl.bytes
  ultima : c.posicion + 1 = maxGrupos → ∃ w ∈ c.control, ¬ w.bytes ⊆ tablaControl.bytes
  grupo : ∀ w ∈ c.grupo, w.bytes ⊆ (Tramo.mk (s.offsets c.posicion) tamanioTablaClientes).bytes

structure Inv (grupos : ListaGrupos ν) (s : Estado ν) : Prop where
  nombres : (s.creados.map Prod.fst).Nodup
  enLista : s.creados ⊆ tamanios grupos
  offsets : ∀ i ≤ s.creados.length,
    s.offsets i = (tamanioTablaGruposCreados + ocupado (s.creados.take i)) % 2 ^ 64
  creaciones : ∀ c ∈ s.creaciones, c.Buena s
  todas : ∀ i < s.creados.length, ∃ c ∈ s.creaciones, c.posicion = i

theorem inv_inicial (grupos : ListaGrupos ν) : Inv grupos inicial where
  nombres := List.nodup_nil
  enLista := List.nil_subset _
  offsets i hi := by
    rw [Nat.le_zero.mp hi]
    rfl
  creaciones := nofun
  todas := nofun

theorem crear_eq_some (h : s.crear nombre tamanio = some t) :
    s.creados.length < maxGrupos ∧ t.creados = s.creados ++ [(nombre, tamanio)] ∧
      t.offsets = Function.update s.offsets (s.creados.length + 1)
        ((s.offsets s.creados.length + tamanio + tamanioTablaClientes) % 2 ^ 64) ∧
      ∃ c, t.creaciones = s.creaciones ++ [c] ∧ c.posicion = s.creados.length ∧ c.Buena t := by
  unfold Estado.crear at h
  dsimp only at h
  split at h
  case isFalse => cases h
  rename_i hlugar
  cases h
  refine ⟨hlugar, rfl, rfl, _, rfl, rfl, ?_⟩
  have hbase : Function.update s.offsets (s.creados.length + 1)
      ((s.offsets s.creados.length + tamanio + tamanioTablaClientes) % 2 ^ 64) s.creados.length =
        s.offsets s.creados.length :=
    Function.update_of_ne (by omega) _ _
  constructor
  · simp
  · intro hpos w hw
    simp only [asignarPunterosControl, maxGrupos, maxNombreRecurso, sizeofInt, sizeofSizeT,
      tablaControl, tamanioTablaGruposCreados] at *
    simp only [List.mem_cons, List.not_mem_nil, or_false] at hw
    rcases hw with rfl | rfl | rfl
    all_goals exact Tramo.bytes_subset (Nat.zero_le _) (by omega)
  · -- offsets has room for 128 entries and this one is the 129th
    intro hpos
    refine ⟨_, List.mem_cons_of_mem _ (List.mem_cons_of_mem _ List.mem_cons_self), fun hsub => ?_⟩
    rw [show s.creados.length + 1 = maxGrupos from hpos] at hsub
    have hmem := @hsub (asignarPunterosControl.offsets + maxGrupos * sizeofSizeT)
      ⟨Nat.le_refl _, Nat.lt_add_of_pos_right (by decide)⟩
    exact absurd hmem.2 (by decide)
  · intro w hw
    dsimp only at hw ⊢
    rw [hbase] at hw ⊢
    simp only [asignarPunteros, maxClients, maxNombreRecurso, sizeofInt, sizeofSizeT,
      tamanioTablaClientes] at *
    simp only [List.mem_cons, List.not_mem_nil, or_false] at hw
    rcases hw with rfl | rfl | rfl | rfl | rfl | rfl
    all_goals exact Tramo.bytes_subset (by omega) (by omega)

/-- Later creations do not move a group. -/
theorem Creacion.Buena.crear {c : Creacion} (hc : c.Buena s) (h : s.crear nombre tamanio = some t) :
    c.Buena t := by
  obtain ⟨-, hcreados, hoffsets, -⟩ := crear_eq_some h
  have hpos := hc.posicion
  refine ⟨?_, hc.control, hc.ultima, ?_⟩
  · rw [hcreados, List.length_append]
    omega
  · rw [hoffsets, Function.update_of_ne (by omega)]
    exact hc.grupo

theorem inv_crear (hi : Inv grupos s) (hnuevo : nombre ∉ s.creados.map Prod.fst)
    (hlista : (nombre, tamanio) ∈ tamanios grupos) (h : s.crear nombre tamanio = some t) : Inv grupos t := by
  obtain ⟨-, hcreados, hoffsets, c, hcreaciones, hposicion, hbuena⟩ := crear_eq_some h
  constructor
  · rw [hcreados, List.map_append, List.map_singleton]
    exact List.nodup_append.mpr ⟨hi.nombres, List.nodup_singleton _, by grind⟩
  · rw [hcreados]
    exact List.append_subset.mpr ⟨hi.enLista, by simpa using hlista⟩
  · intro i hle
    rw [hcreados, List.length_append, List.length_singleton] at hle
    rw [hoffsets, hcreados]
    by_cases hlast : i = s.creados.length + 1
    · -- the end of the last group is where the next one begins
      have hantes := hi.offsets s.creados.length (Nat.le_refl _)
      rw [List.take_length] at hantes
      rw [hlast, Function.update_self, hantes, List.take_of_length_le (by simp), Nat.add_assoc,
        Nat.mod_add_mod]
      simp only [ocupado, List.map_append, List.sum_append, List.map_singleton, List.sum_singleton,
        Nat.add_assoc]
    · rw [Function.update_of_ne hlast, hi.offsets i (by omega), List.take_append_of_le_length (by omega)]
  · intro c' hc'
    rw [hcreaciones] at hc'
    rcases List.mem_append.mp hc' with hc' | hc'
    · exact (hi.creaciones c' hc').crear h
    · rw [List.mem_singleton.mp hc']
      exact hbuena
  · intro i hlt
    rw [hcreados, List.length_append, List.length_singleton] at hlt
    rw [hcreaciones]
    by_cases hlast : i = s.creados.length
    · exact ⟨c, List.mem_append_right _ (List.mem_singleton_self c), by rw [hlast, hposicion]⟩
    · obtain ⟨c', hc', hpos'⟩ := hi.todas i (by omega)
      exact ⟨c', List.mem_append_left _ hc', hpos'⟩

theorem inv_paso [DecidableEq ν] (hi : Inv grupos s) (hs : paso grupos s nombre = some t) : Inv grupos t := by
  unfold paso at hs
  split at hs
  · cases hs
    exact hi
  · rename_i hnuevo
    split at hs
    · rename_i linea hlinea
      have hnombre : linea.1 = nombre := by simpa using List.find?_some hlinea
      rw [← hnombre] at hnuevo
      exact inv_crear hi hnuevo (List.mem_map_of_mem (List.mem_of_find?_eq_some hlinea)) hs
    · cases hs
      exact hi

/-! ## The regions -/

theorem ocupado_take_succ {creados : List (ν × Nat)} {i : Nat} (hi : i < creados.length) :
    ocupado (creados.take (i + 1)) =
      ocupado (creados.take i) + (creados[i].2 + tamanioTablaClientes) := by
  unfold ocupado
  rw [List.take_add_one, List.getElem?_eq_getElem hi, List.map_append, List.sum_append]
  rfl

theorem ocupado_take_le (creados : List (ν × Nat)) {i j : Nat} (h : i ≤ j) :
    ocupado (creados.take i) ≤ ocupado (creados.take j) := by
  apply List.Sublist.sum_le_sum
  · exact (List.take_sublist_take_left h).map _
  · exact fun _ _ => Nat.zero_le _

/-- The created groups are groups of the file, each once. -/
theorem Inv.ocupado_le (hi : Inv grupos s) : ocupado s.creados ≤ ocupado (tamanios grupos) := by
  obtain ⟨l, hperm, hsub⟩ := List.subperm_of_subset (List.Nodup.of_map Prod.fst hi.nombres) hi.enLista
  unfold ocupado
  rw [← (hperm.map _).sum_eq]
  exact (hsub.map _).sum_le_sum fun _ _ => Nat.zero_le _

section SinVuelta

/-! The regions of a file whose sizes do not wrap. -/

variable (hlimite : tamanioTablaGruposCreados + ocupado (tamanios grupos) < 2 ^ 64)

include hlimite

theorem Inv.offset_eq (hi : Inv grupos s) {i : Nat} (hle : i ≤ s.creados.length) :
    s.offsets i = tamanioTablaGruposCreados + ocupado (s.creados.take i) := by
  have htodo := ocupado_take_le s.creados hle
  rw [List.take_length] at htodo
  have hfin := hi.ocupado_le
  rw [hi.offsets i hle]
  exact Nat.mod_eq_of_lt (by omega)

/-- The region of a group ends where the next one begins. -/
theorem Inv.region_eq (hi : Inv grupos s) (i : Fin s.creados.length) :
    (s.region i).bytes = Set.Ico (tamanioTablaGruposCreados + ocupado (s.creados.take i))
      (tamanioTablaGruposCreados + ocupado (s.creados.take (i + 1))) := by
  have hsucc := ocupado_take_succ i.isLt
  have htodo := ocupado_take_le s.creados (show i + 1 ≤ s.creados.length from i.isLt)
  rw [List.take_length] at htodo
  have hfin := hi.ocupado_le
  have hlargo : (s.creados[i.val].2 + tamanioTablaClientes) % 2 ^ 64 =
      s.creados[i.val].2 + tamanioTablaClientes := Nat.mod_eq_of_lt (by omega)
  rw [Estado.region, Tramo.bytes, hi.offset_eq hlimite i.isLt.le, hsucc, ← Nat.add_assoc,
    Fin.getElem_fin, hlargo]

theorem Inv.disjuntas (hi : Inv grupos s) {i j : Fin s.creados.length} (h : i ≠ j) :
    Disjoint (s.region i).bytes (s.region j).bytes := by
  have hmono : Monotone fun k => tamanioTablaGruposCreados + ocupado (s.creados.take k) :=
    fun _ _ hk => Nat.add_le_add_left (ocupado_take_le _ hk) _
  rw [hi.region_eq hlimite, hi.region_eq hlimite]
  exact hmono.pairwise_disjoint_on_Ico_succ (Fin.val_ne_of_ne h)

theorem Inv.fueraDelControl (hi : Inv grupos s) (i : Fin s.creados.length) :
    Disjoint (s.region i).bytes tablaControl.bytes := by
  apply Disjoint.symm
  apply Tramo.disjoint_bytes
  rw [hi.offset_eq hlimite i.isLt.le]
  omega

theorem Inv.dentro (hi : Inv grupos s) (i : Fin s.creados.length) :
    (s.region i).bytes ⊆ (segmento grupos).bytes := by
  have hle := ocupado_take_le s.creados (show i + 1 ≤ s.creados.length from i.isLt)
  have htodo := hi.ocupado_le
  rw [List.take_length] at hle
  rw [hi.region_eq hlimite]
  apply Set.Ico_subset_Ico (Nat.zero_le _)
  show _ ≤ 0 + (memoriaTotal grupos + tamanioTablaGruposCreados) % 2 ^ 64
  rw [memoriaTotal_eq, Nat.mod_add_mod, Nat.mod_eq_of_lt (by omega)]
  omega

/-- What a creation writes out of the control table is in the region of its group. -/
theorem Inv.grupo_subset (hi : Inv grupos s) {c : Creacion} (hc : c ∈ s.creaciones) {w : Tramo}
    (hw : w ∈ c.grupo) : w.bytes ⊆ (s.region ⟨c.posicion, (hi.creaciones c hc).posicion⟩).bytes := by
  have hpos := (hi.creaciones c hc).posicion
  apply ((hi.creaciones c hc).grupo w hw).trans
  rw [hi.region_eq hlimite, hi.offset_eq hlimite hpos.le]
  apply Set.Ico_subset_Ico (Nat.le_refl _)
  rw [ocupado_take_succ hpos]
  show _ + _ + tamanioTablaClientes ≤ _
  omega

theorem Inv.sinSolapar (hi : Inv grupos s) (hlt : s.creados.length < maxGrupos) :
    SinSolapar grupos s := by
  have hcontrol : ∀ c ∈ s.creaciones, ∀ w ∈ c.control, w.bytes ⊆ tablaControl.bytes := by
    intro c hc
    have hbuena := hi.creaciones c hc
    have hpos := hbuena.posicion
    exact hbuena.control (by omega)
  refine ⟨hcontrol, fun _ _ => hi.disjuntas hlimite, hi.fueraDelControl hlimite, hi.dentro hlimite,
    fun c hc w hw i hne => ?_⟩
  rcases List.mem_append.mp hw with hw | hw
  · exact ((hi.fueraDelControl hlimite i).symm).mono_left (hcontrol c hc w hw)
  · apply (hi.disjuntas hlimite _).mono_left (hi.grupo_subset hlimite hc hw)
    exact fun he => hne (congrArg Fin.val he).symm

end SinVuelta

/-- The creation at the last position writes past the control table. -/
theorem Inv.not_sinSolapar (hi : Inv grupos s) (hlleno : maxGrupos ≤ s.creados.length) :
    ¬ SinSolapar grupos s := by
  intro hbien
  obtain ⟨c, hc, hpos⟩ := hi.todas (maxGrupos - 1) (by unfold maxGrupos at *; omega)
  obtain ⟨w, hw, hfuera⟩ := (hi.creaciones c hc).ultima (by rw [hpos]; rfl)
  exact hfuera (hbien.control c hc w hw)

theorem inv_alcanza [DecidableEq ν] (hs : Alcanza (paso grupos) inicial s) : Inv grupos s := by
  apply hs.induccion (inv_inicial grupos)
  exact fun _ _ _ hi hpaso => inv_paso hi hpaso

/-- In every order of creation of a file without negative sizes, the groups do not overlap as long as
    fewer than 128 of them have been created; and with 128 they overlap, whatever the sizes. -/
theorem regiones_sin_solapar [DecidableEq ν] (grupos : ListaGrupos ν) (shmmax : Nat)
    (haceptada : chequearMemoriaDisponible shmmax grupos) (s : Estado ν)
    (hs : Alcanza (paso grupos) inicial s) :
    (SinNegativos grupos → s.creados.length < maxGrupos → SinSolapar grupos s) ∧
      (SinSolapar grupos s → s.creados.length < maxGrupos) := by
  have hi := inv_alcanza hs
  refine ⟨fun hpos hlt => hi.sinSolapar ?_ hlt, fun hbien => ?_⟩
  · exact ocupado_lt hpos (Nat.le_of_not_lt (not_or.mp haceptada).2)
  · by_contra hlleno
    exact hi.not_sinSolapar (Nat.le_of_not_lt hlleno) hbien

/-- Two groups of the file, the second one created first. -/
theorem regiones_sin_solapar_dos : ∃ s : Estado Nat,
    Alcanza (paso [(0, 100), (1, 8)]) inicial s ∧ s.creados = [(1, 8), (0, 100)] ∧
      SinSolapar [(0, 100), (1, 8)] s := by
  have hrun : (correr (paso [(0, 100), (1, 8)]) (inicial : Estado Nat) [1, 0]).map Estado.creados =
      some [(1, 8), (0, 100)] := by decide +kernel
  obtain ⟨s, hs, hcreados⟩ := Option.map_eq_some_iff.mp hrun
  have hsin : SinNegativos [((0 : Nat), (100 : Int32)), (1, 8)] := by
    unfold SinNegativos
    decide +kernel
  refine ⟨s, ⟨_, hs⟩, hcreados, ?_⟩
  exact (regiones_sin_solapar _ 10000 (by decide +kernel) s ⟨_, hs⟩).1 hsin (by rw [hcreados]; decide)

/-- A file of 128 groups is accepted; after the last one is created, `offsets [128]` is a word of the
    first group. -/
theorem regiones_solapan_con_128 : ¬ ∀ (grupos : ListaGrupos Nat) (shmmax : Nat),
    chequearMemoriaDisponible shmmax grupos →
      ∀ s, Alcanza (paso grupos) inicial s → SinSolapar grupos s := by
  intro h
  have hrun : (correr (paso ((List.range 128).map fun i => (i, 8))) (inicial : Estado Nat)
      (List.range 128)).map (fun s => s.creados.length) = some 128 := by decide +kernel
  obtain ⟨s, hs, hcreados⟩ := Option.map_eq_some_iff.mp hrun
  apply (inv_alcanza ⟨_, hs⟩).not_sinSolapar (Nat.le_of_eq hcreados.symm)
  exact h _ 1000000 (by decide +kernel) s ⟨_, hs⟩

/-- The group of a negative size: the word at the end of its table of clients is in the next group. -/
example : ∃ s : Estado Nat, Alcanza (paso [(0, -100), (1, 8)]) inicial s ∧
    ¬ SinSolapar [(0, -100), (1, 8)] s := by
  refine ⟨_, ⟨[0, 1], rfl⟩, fun hbien => ?_⟩
  have hajena := hbien.ajenas _ List.mem_cons_self ⟨12444, 4⟩ (by decide +kernel) ⟨1, by decide⟩
    (by decide)
  have hpalabra : 12444 ∈ (Tramo.mk 12444 4).bytes := ⟨by decide, by decide⟩
  exact Set.disjoint_left.mp hajena hpalabra ⟨by decide +kernel, by decide +kernel⟩

end Regiones
