import Aeropuerto.Biblioteca.Ejecucion
import Aeropuerto.Biblioteca.Sumas

/-!
# The containers on their way to the airplane (`api_carga.h`, `processes/tractor.cpp`, `api_avion.h`)

The loading robot cuts the list of containers of a flight in blocks for the tractors, each tractor
puts the containers of a block one by one in the queue of the airplane, and the airplane counts them.
The model has a robot and an airplane for each flight; a step is one operation on a queue, or the exit
of the tractor's loop.
-/

namespace Tractor

open Ejecucion

variable {φ τ κ : Type*}

/-- `MAX_CONTENEDORES_POR_TRACTOR`. -/
def maxContenedoresPorTractor : Nat := 2

/-- The first `maxContenedoresPorTractor` cells of `contenedores` exist. -/
structure BloqueContenedores (φ κ : Type*) where
  cantidadTotalContenedores : Nat
  vueloDestino : φ
  contenedoresActual : Nat
  contenedores : Nat → κ

structure ContenedorParaAvion (κ : Type*) where
  cantidadTotalContenedores : Nat
  contenedor : κ

/-! ## `enviar_contenedores_a_avion` -/

def cantBloques (cantidadTotal : Nat) : Nat :=
  let cantBloques := cantidadTotal / maxContenedoresPorTractor
  if cantBloques * maxContenedoresPorTractor < cantidadTotal then cantBloques + 1 else cantBloques

def indice (i j : Nat) : Nat := i * maxContenedoresPorTractor + j

/-- The indices that the two loops read, in order. -/
def indicesLeidos (cantidadTotal : Nat) : List Nat :=
  (List.range (cantBloques cantidadTotal)).flatMap fun i =>
    (List.range maxContenedoresPorTractor).map (indice i)

/-- `operator[]` of the vector makes no check: past the end it reads `despues`. -/
def leer (contenedores : List κ) (despues : Nat → κ) (k : Nat) : κ :=
  contenedores[k]?.getD (despues k)

/-- The inner loop fills block `i`. -/
def llenar (leer : Nat → κ) (i : Nat) (bloque : BloqueContenedores φ κ) : BloqueContenedores φ κ :=
  (List.range maxContenedoresPorTractor).foldl
    (fun bloque j => { bloque with
      contenedores := Function.update bloque.contenedores j (leer (indice i j))
      contenedoresActual := bloque.contenedoresActual + 1 })
    { bloque with contenedoresActual := 0 }

/-- The blocks that the outer loop pushes; `bloque` is one variable, filled again for each. -/
def enviarContenedores (leer : Nat → κ) (bloque : BloqueContenedores φ κ) :
    Nat → List (BloqueContenedores φ κ) × BloqueContenedores φ κ
  | 0 => ([], bloque)
  | i + 1 =>
    let (enviados, bloque) := enviarContenedores leer bloque i
    let bloque := llenar leer i bloque
    (enviados ++ [bloque], bloque)

def enviarContenedoresAAvion [Inhabited κ] (contenedores : List κ) (despues : Nat → κ) (numeroDeVuelo : φ) :
    List (BloqueContenedores φ κ) :=
  (enviarContenedores (leer contenedores despues)
    ⟨contenedores.length, numeroDeVuelo, 0, fun _ => default⟩ (cantBloques contenedores.length)).1

/-- The containers of a block that are left to the tractor from index `i` on. -/
def BloqueContenedores.desde (bloque : BloqueContenedores φ κ) (i : Nat) : List κ :=
  (List.range' i (bloque.contenedoresActual - i)).map bloque.contenedores

theorem desde_of_lt {b : BloqueContenedores φ κ} {i : Nat} (h : i < b.contenedoresActual) :
    b.desde i = b.contenedores i :: b.desde (i + 1) := by
  unfold BloqueContenedores.desde
  rw [show b.contenedoresActual - i = (b.contenedoresActual - (i + 1)) + 1 by omega,
    List.range'_succ, List.map_cons]

theorem desde_of_le {b : BloqueContenedores φ κ} {i : Nat} (h : b.contenedoresActual ≤ i) :
    b.desde i = [] := by
  rw [BloqueContenedores.desde, Nat.sub_eq_zero_of_le h]
  rfl

/-- The first `contenedores_actual` containers. -/
def BloqueContenedores.primeros (bloque : BloqueContenedores φ κ) : List κ := bloque.desde 0

/-! ## The blocks carry the list -/

section Bloques

variable {lectura : Nat → κ} {bloque : BloqueContenedores φ κ} {contenedores : List κ}
  {despues : Nat → κ} {n : Nat}

theorem llenar_spec (lectura : Nat → κ) (bloque : BloqueContenedores φ κ) (i : Nat) :
    (llenar lectura i bloque).primeros =
        (List.range maxContenedoresPorTractor).map (fun j => lectura (indice i j)) ∧
      (llenar lectura i bloque).vueloDestino = bloque.vueloDestino ∧
      (llenar lectura i bloque).cantidadTotalContenedores = bloque.cantidadTotalContenedores := by
  -- after `m` turns of the inner loop
  have hlazo : ∀ m, ∃ cs : Nat → κ, (∀ j < m, cs j = lectura (indice i j)) ∧
      (List.range m).foldl
        (fun (bloque : BloqueContenedores φ κ) j => { bloque with
          contenedores := Function.update bloque.contenedores j (lectura (indice i j))
          contenedoresActual := bloque.contenedoresActual + 1 })
        { bloque with contenedoresActual := 0 } =
      { bloque with contenedoresActual := m, contenedores := cs } := by
    intro m
    induction m with
    | zero => exact ⟨bloque.contenedores, nofun, rfl⟩
    | succ m ih =>
      obtain ⟨cs, hcs, hfold⟩ := ih
      refine ⟨Function.update cs m (lectura (indice i m)), fun j hj => ?_, ?_⟩
      · by_cases h : j = m
        · rw [h, Function.update_self]
        · rw [Function.update_of_ne h]
          exact hcs j (by omega)
      · rw [List.range_succ, List.foldl_append, hfold]
        rfl
  obtain ⟨cs, hcs, hfold⟩ := hlazo maxContenedoresPorTractor
  rw [llenar, hfold]
  refine ⟨?_, rfl, rfl⟩
  rw [BloqueContenedores.primeros, BloqueContenedores.desde, Nat.sub_zero, ← List.range_eq_range']
  exact List.map_congr_left fun j hj => hcs j (List.mem_range.mp hj)

/-- The outer loop after `n` turns. -/
theorem enviarContenedores_spec (n : Nat) :
    (enviarContenedores lectura bloque n).1.flatMap BloqueContenedores.primeros =
        ((List.range n).flatMap fun i =>
          (List.range maxContenedoresPorTractor).map (indice i)).map lectura ∧
      ∀ b ∈ (enviarContenedores lectura bloque n).2 :: (enviarContenedores lectura bloque n).1,
        b.vueloDestino = bloque.vueloDestino ∧
          b.cantidadTotalContenedores = bloque.cantidadTotalContenedores := by
  induction n with
  | zero => exact ⟨rfl, fun b hb => by cases List.mem_singleton.mp hb; exact ⟨rfl, rfl⟩⟩
  | succ n ih =>
    obtain ⟨hprimeros, hbloques⟩ := ih
    obtain ⟨hllenar, hvuelo, htotal⟩ :=
      llenar_spec lectura (enviarContenedores lectura bloque n).2 n
    have hultimo := hbloques _ List.mem_cons_self
    rw [← hvuelo, ← htotal] at hultimo
    refine ⟨?_, fun b hb => ?_⟩
    · rw [enviarContenedores, List.flatMap_append, hprimeros, List.range_succ, List.flatMap_append,
        List.map_append, List.flatMap_singleton, List.flatMap_singleton, hllenar, List.map_map]
      rfl
    · simp only [enviarContenedores, List.mem_cons, List.mem_append, List.not_mem_nil,
        or_false] at hb
      rcases hb with rfl | hb | rfl
      · exact hultimo
      · exact hbloques b (List.mem_cons_of_mem _ hb)
      · exact hultimo

/-- The two loops read the indices in order, up to the end of the last block. -/
theorem indicesLeidos_eq (n : Nat) :
    indicesLeidos n = List.range (cantBloques n * maxContenedoresPorTractor) := by
  unfold indicesLeidos
  generalize cantBloques n = m
  induction m with
  | zero => rw [Nat.zero_mul]; rfl
  | succ m ih =>
    rw [List.range_succ, List.flatMap_append, ih, List.flatMap_singleton, Nat.succ_mul,
      List.range_add]
    rfl

/-- The blocks hold the list exactly when it fills them. -/
theorem cantBloques_mul_le_iff (n : Nat) :
    cantBloques n * maxContenedoresPorTractor ≤ n ↔ Even n := by
  rw [Nat.even_iff, maxContenedoresPorTractor, cantBloques, maxContenedoresPorTractor]
  by_cases h : n / 2 * 2 < n
  · rw [if_pos h]
    omega
  · rw [if_neg h]
    omega

theorem cantBloques_mul (h : Even n) : cantBloques n * maxContenedoresPorTractor = n := by
  rw [Nat.even_iff] at h
  rw [maxContenedoresPorTractor, cantBloques, maxContenedoresPorTractor, if_neg (by omega)]
  omega

theorem primeros_enviarContenedoresAAvion [Inhabited κ] (contenedores : List κ) (despues : Nat → κ) (v : φ) :
    (enviarContenedoresAAvion contenedores despues v).flatMap BloqueContenedores.primeros =
      (indicesLeidos contenedores.length).map (leer contenedores despues) :=
  (enviarContenedores_spec _).1

/-- An even number of containers is cut without rest. -/
theorem primeros_of_even [Inhabited κ] (despues : Nat → κ) (v : φ) (h : Even contenedores.length) :
    (enviarContenedoresAAvion contenedores despues v).flatMap BloqueContenedores.primeros =
      contenedores := by
  rw [primeros_enviarContenedoresAAvion, indicesLeidos_eq, cantBloques_mul h]
  apply List.ext_getElem
  · rw [List.length_map, List.length_range]
  · intro k hk hk'
    rw [List.getElem_map, List.getElem_range, leer, List.getElem?_eq_getElem hk', Option.getD_some]

/-- With an odd number of containers the last block carries what follows them too. -/
theorem primeros_of_odd [Inhabited κ] (despues : Nat → κ) (v : φ) (h : ¬Even contenedores.length) :
    (enviarContenedoresAAvion contenedores despues v).flatMap BloqueContenedores.primeros =
      contenedores ++ [despues contenedores.length] := by
  have hn : cantBloques contenedores.length * maxContenedoresPorTractor = contenedores.length + 1 := by
    rw [Nat.even_iff] at h
    rw [maxContenedoresPorTractor, cantBloques, maxContenedoresPorTractor, if_pos (by omega)]
    omega
  rw [primeros_enviarContenedoresAAvion, indicesLeidos_eq, hn, List.range_succ, List.map_append,
    List.map_singleton, leer, List.getElem?_eq_none le_rfl, Option.getD_none]
  congr 1
  apply List.ext_getElem
  · rw [List.length_map, List.length_range]
  · intro k hk hk'
    rw [List.getElem_map, List.getElem_range, leer, List.getElem?_eq_getElem hk', Option.getD_some]

end Bloques

/-! ## The processes -/

/-- `espera` is `obtener_contenedores_a_cargar`, `carga` the loop over the block. -/
inductive PcTractor (φ κ : Type*) where
  | espera
  | carga (bloque : BloqueContenedores φ κ) (i : Nat)

/-- The local variables of `esperar_carga_equipajes`, and whether it has returned. -/
structure Avion (κ : Type*) where
  cantidadActual : Nat
  cantidadTotales : Nat
  contenedores : List κ
  termino : Bool

/-- `porEnviar` are the blocks that the robot of the flight has still to push.  A queue is read by
    `mtype`, so that of the airplanes is one for each flight.  `empujados` is what the tractors have
    pushed for the flight since the beginning. -/
structure Estado (φ τ κ : Type*) where
  porEnviar : φ → List (BloqueContenedores φ κ)
  colaTractores : List (BloqueContenedores φ κ)
  tractor : τ → PcTractor φ κ
  colaAvion : φ → List (ContenedorParaAvion κ)
  avion : φ → Avion κ
  empujados : φ → List κ

inductive Evento (φ τ : Type*) where
  | robot (v : φ)
  | tractor (t : τ)
  | avion (v : φ)

/-- `cs v` are the containers accumulated for flight `v`. -/
def inicial [Inhabited κ] (cs : φ → List κ) (despues : φ → Nat → κ) : Estado φ τ κ where
  porEnviar := fun v => enviarContenedoresAAvion (cs v) (despues v) v
  colaTractores := []
  tractor := fun _ => .espera
  colaAvion := fun _ => []
  avion := fun _ => ⟨0, 0, [], false⟩
  empujados := fun _ => []

/-- One turn of the loop of `esperar_carga_equipajes`. -/
def Avion.recibir (a : Avion κ) (m : ContenedorParaAvion κ) : Avion κ where
  cantidadActual := a.cantidadActual + 1
  cantidadTotales := m.cantidadTotalContenedores
  contenedores := a.contenedores ++ [m.contenedor]
  termino := !decide (a.cantidadActual + 1 < m.cantidadTotalContenedores)

def cargarContenedorEnAvion [DecidableEq φ] (s : Estado φ τ κ) (contenedor : κ) (vuelo : φ) (total : Nat) :
    Estado φ τ κ :=
  { s with
    colaAvion := Function.update s.colaAvion vuelo (s.colaAvion vuelo ++ [⟨total, contenedor⟩])
    empujados := Function.update s.empujados vuelo (s.empujados vuelo ++ [contenedor]) }

def paso [DecidableEq φ] [DecidableEq τ] (s : Estado φ τ κ) : Evento φ τ → Option (Estado φ τ κ)
  | .robot v =>
    match s.porEnviar v with
    | [] => none
    | b :: bs => some { s with
        porEnviar := Function.update s.porEnviar v bs
        colaTractores := s.colaTractores ++ [b] }
  | .tractor t =>
    match s.tractor t with
    | .espera =>
      match s.colaTractores with
      | [] => none
      | b :: bs => some { s with
          colaTractores := bs
          tractor := Function.update s.tractor t (.carga b 0) }
    | .carga b i =>
      if i < b.contenedoresActual then
        some { cargarContenedorEnAvion s (b.contenedores i) b.vueloDestino
            b.cantidadTotalContenedores with
          tractor := Function.update s.tractor t (.carga b (i + 1)) }
      else some { s with tractor := Function.update s.tractor t .espera }
  | .avion v =>
    match (s.avion v).termino, s.colaAvion v with
    | false, m :: ms => some { s with
        colaAvion := Function.update s.colaAvion v ms
        avion := Function.update s.avion v ((s.avion v).recibir m) }
    | _, _ => none

/-- Flight `v` reads no container past the end of its list, its blocks carry the list, every run is
    finite, and where nothing can move the tractors have pushed the list, the airplane has returned
    with it and its queue is empty. -/
structure LlegaUnaVez (τ : Type*) [DecidableEq φ] [DecidableEq τ] [Inhabited κ]
    (cs : φ → List κ) (despues : φ → Nat → κ)
    (v : φ) : Prop where
  indices : ∀ k ∈ indicesLeidos (cs v).length, k < (cs v).length
  bloques : (enviarContenedoresAAvion (cs v) (despues v) v).flatMap
    BloqueContenedores.primeros = cs v
  termina : ∃ cota, ∀ (es : List (Evento φ τ)) s,
    correr paso (inicial cs despues) es = some s → es.length ≤ cota
  llega : ∀ s : Estado φ τ κ, Alcanza paso (inicial cs despues) s → Bloqueado paso s →
    (s.empujados v).Perm (cs v) ∧ (s.avion v).termino = true ∧
      (s.avion v).contenedores.Perm (cs v) ∧ s.colaAvion v = []

/-! ## Every run is finite -/

section Pasos

/-- The steps that a block still needs once it is in the queue of the tractors. -/
def BloqueContenedores.trabajo (b : BloqueContenedores φ κ) : Nat := 2 * b.contenedoresActual + 2

def PcTractor.trabajo : PcTractor φ κ → Nat
  | .espera => 0
  | .carga b i => 2 * (b.contenedoresActual - i) + 1

@[simp] theorem trabajo_espera : (PcTractor.espera : PcTractor φ κ).trabajo = 0 := rfl

@[simp] theorem trabajo_carga (b : BloqueContenedores φ κ) (i : Nat) :
    (PcTractor.carga b i).trabajo = 2 * (b.contenedoresActual - i) + 1 := rfl

/-- Each container is pushed and pulled once, each block also pushed, taken and put aside. -/
def Estado.medida [Fintype φ] [Fintype τ] (s : Estado φ τ κ) : Nat :=
  (∑ v, ((s.porEnviar v).map fun b => b.trabajo + 1).sum) +
    (s.colaTractores.map BloqueContenedores.trabajo).sum +
    (∑ t, (s.tractor t).trabajo) + ∑ v, (s.colaAvion v).length

variable [DecidableEq φ] [DecidableEq τ] {s s' : Estado φ τ κ} {e : Evento φ τ}

theorem medida_paso [Fintype φ] [Fintype τ] (hs : paso s e = some s') : s'.medida < s.medida := by
  cases e with
  | robot v =>
    simp only [paso] at hs
    split at hs <;> cases hs
    rename_i b bs hcola
    have hsuma := Sumas.suma_update (fun _ l => (l.map fun b : BloqueContenedores φ κ =>
      b.trabajo + 1).sum) s.porEnviar (Finset.mem_univ v) bs
    rw [hcola, List.map_cons, List.sum_cons] at hsuma
    simp only [Estado.medida, List.map_append, List.sum_append, List.map_singleton,
      List.sum_singleton]
    omega
  | tractor t =>
    simp only [paso] at hs
    split at hs
    · rename_i hpc
      split at hs <;> cases hs
      rename_i b bs hcola
      have hsuma := Sumas.suma_update (fun _ => PcTractor.trabajo) s.tractor (Finset.mem_univ t)
        (.carga b 0)
      simp only [hpc, trabajo_espera, trabajo_carga] at hsuma
      simp only [Estado.medida, hcola, List.map_cons, List.sum_cons, BloqueContenedores.trabajo]
      omega
    · rename_i b i hpc
      split at hs <;> cases hs
      · have hcola := Sumas.suma_update (fun _ => List.length) s.colaAvion
          (Finset.mem_univ b.vueloDestino)
          (s.colaAvion b.vueloDestino ++ [⟨b.cantidadTotalContenedores, b.contenedores i⟩])
        have hsuma := Sumas.suma_update (fun _ => PcTractor.trabajo) s.tractor (Finset.mem_univ t)
          (.carga b (i + 1))
        rw [List.length_append, List.length_singleton] at hcola
        simp only [hpc, trabajo_carga] at hsuma
        simp only [Estado.medida, cargarContenedorEnAvion]
        omega
      · have hsuma := Sumas.suma_update (fun _ => PcTractor.trabajo) s.tractor (Finset.mem_univ t)
          .espera
        simp only [hpc, trabajo_espera, trabajo_carga] at hsuma
        simp only [Estado.medida]
        omega
  | avion v =>
    simp only [paso] at hs
    split at hs <;> cases hs
    rename_i m ms _ hcola
    have hsuma := Sumas.suma_update (fun _ => List.length) s.colaAvion (Finset.mem_univ v) ms
    rw [hcola, List.length_cons] at hsuma
    simp only [Estado.medida]
    omega

/-! ## Nothing is lost -/

section Cuenta

variable [DecidableEq κ]

/-- How often `c` is left for flight `v` in a block from index `i` on. -/
def BloqueContenedores.veces (v : φ) (c : κ) (b : BloqueContenedores φ κ) (i : Nat) : Nat :=
  if b.vueloDestino = v then (b.desde i).count c else 0

def PcTractor.veces (v : φ) (c : κ) : PcTractor φ κ → Nat
  | .espera => 0
  | .carga b i => b.veces v c i

@[simp] theorem veces_espera (v : φ) (c : κ) : (PcTractor.espera : PcTractor φ κ).veces v c = 0 :=
  rfl

@[simp] theorem veces_carga (v : φ) (c : κ) (b : BloqueContenedores φ κ) (i : Nat) :
    (PcTractor.carga b i).veces v c = b.veces v c i := rfl

/-- How often `c` is on its way to flight `v` or has been pushed for it. -/
def Estado.cuenta [Fintype φ] [Fintype τ] (s : Estado φ τ κ) (v : φ) (c : κ) : Nat :=
  (∑ u, ((s.porEnviar u).map fun b => b.veces v c 0).sum) +
    (s.colaTractores.map fun b => b.veces v c 0).sum +
    (∑ t, (s.tractor t).veces v c) + (s.empujados v).count c

theorem cuenta_paso [Fintype φ] [Fintype τ] (v : φ) (c : κ) (hs : paso s e = some s') :
    s'.cuenta v c = s.cuenta v c := by
  cases e with
  | robot u =>
    simp only [paso] at hs
    split at hs <;> cases hs
    rename_i b bs hcola
    have hsuma := Sumas.suma_update (fun _ l => (l.map fun b : BloqueContenedores φ κ =>
      b.veces v c 0).sum) s.porEnviar (Finset.mem_univ u) bs
    rw [hcola, List.map_cons, List.sum_cons] at hsuma
    simp only [Estado.cuenta, List.map_append, List.sum_append, List.map_singleton,
      List.sum_singleton]
    omega
  | tractor t =>
    simp only [paso] at hs
    split at hs
    · rename_i hpc
      split at hs <;> cases hs
      rename_i b bs hcola
      have hsuma := Sumas.suma_update (fun _ => PcTractor.veces v c) s.tractor (Finset.mem_univ t)
        (.carga b 0)
      simp only [hpc, veces_espera, veces_carga] at hsuma
      simp only [Estado.cuenta, hcola, List.map_cons, List.sum_cons]
      omega
    · rename_i b i hpc
      split at hs <;> cases hs
      · rename_i hi
        have hsuma := Sumas.suma_update (fun _ => PcTractor.veces v c) s.tractor
          (Finset.mem_univ t) (.carga b (i + 1))
        simp only [hpc, veces_carga] at hsuma
        simp only [Estado.cuenta, cargarContenedorEnAvion]
        by_cases hv : b.vueloDestino = v
        · have hcola : b.veces v c i = b.veces v c (i + 1) + [b.contenedores i].count c := by
            rw [BloqueContenedores.veces, BloqueContenedores.veces, if_pos hv, if_pos hv,
              desde_of_lt hi, List.count_cons, List.count_singleton]
          rw [hv, Function.update_self, List.count_append]
          omega
        · rw [BloqueContenedores.veces, BloqueContenedores.veces, if_neg hv, if_neg hv] at hsuma
          rw [Function.update_of_ne (Ne.symm hv)]
          omega
      · rename_i hi
        have hsuma := Sumas.suma_update (fun _ => PcTractor.veces v c) s.tractor
          (Finset.mem_univ t) .espera
        have hnada : b.veces v c i = 0 := by
          rw [BloqueContenedores.veces, desde_of_le (Nat.le_of_not_lt hi), List.count_nil, ite_self]
        simp only [hpc, veces_espera, veces_carga, hnada] at hsuma
        simp only [Estado.cuenta]
        omega
  | avion u =>
    simp only [paso] at hs
    split at hs <;> cases hs
    rfl

end Cuenta

/-! ## The count of the airplane -/

/-- The airplane of a flight with `total` containers has what was `empujados` for it and is no longer
    in its queue, and it stops at the last one. -/
structure InvAvion (total : Nat) (empujados : List κ) (a : Avion κ)
    (cola : List (ContenedorParaAvion κ)) : Prop where
  mensajes : ∀ m ∈ cola, m.cantidadTotalContenedores = total
  empujados : empujados = a.contenedores ++ cola.map ContenedorParaAvion.contenedor
  cantidadActual : a.cantidadActual = a.contenedores.length
  termino : a.termino = true ↔ 0 < a.contenedores.length ∧ total ≤ a.contenedores.length

section Avion

variable {total : Nat} {empujados : List κ} {a : Avion κ} {cola : List (ContenedorParaAvion κ)}

theorem InvAvion.cargar (h : InvAvion total empujados a cola) (c : κ) :
    InvAvion total (empujados ++ [c]) a (cola ++ [⟨total, c⟩]) where
  mensajes m hm := by
    rcases List.mem_append.mp hm with hm | hm
    · exact h.mensajes m hm
    · rw [List.mem_singleton.mp hm]
  empujados := by
    rw [h.empujados, List.map_append, List.append_assoc]
    rfl
  cantidadActual := h.cantidadActual
  termino := h.termino

theorem InvAvion.recibir {m : ContenedorParaAvion κ} (h : InvAvion total empujados a (m :: cola)) :
    InvAvion total empujados (a.recibir m) cola where
  mensajes m' hm' := h.mensajes m' (List.mem_cons_of_mem _ hm')
  empujados := by
    rw [h.empujados, Avion.recibir, List.append_assoc]
    rfl
  cantidadActual := by
    rw [Avion.recibir, h.cantidadActual, List.length_append]
    rfl
  termino := by
    have htotal := h.mensajes m List.mem_cons_self
    have hactual := h.cantidadActual
    simp only [Avion.recibir, List.length_append, List.length_singleton, Bool.not_eq_true',
      decide_eq_false_iff_not]
    omega

end Avion

variable {cs : φ → List κ} {despues : φ → Nat → κ}

/-- Every block carries the total of its flight. -/
structure Inv (cs : φ → List κ) (s : Estado φ τ κ) : Prop where
  porEnviar : ∀ v, ∀ b ∈ s.porEnviar v, b.cantidadTotalContenedores = (cs b.vueloDestino).length
  colaTractores : ∀ b ∈ s.colaTractores,
    b.cantidadTotalContenedores = (cs b.vueloDestino).length
  tractor : ∀ t b i, s.tractor t = .carga b i →
    b.cantidadTotalContenedores = (cs b.vueloDestino).length
  avion : ∀ v, InvAvion (cs v).length (s.empujados v) (s.avion v) (s.colaAvion v)

omit [DecidableEq φ] [DecidableEq τ] in
theorem inv_inicial [Inhabited κ] : Inv cs (inicial cs despues : Estado φ τ κ) where
  porEnviar v b hb := by
    obtain ⟨hvuelo, htotal⟩ := (enviarContenedores_spec _).2 b (List.mem_cons_of_mem _ hb)
    rw [htotal, hvuelo]
  colaTractores b hb := by cases hb
  tractor t b i h := by cases h
  avion v := by
    refine { mensajes := nofun, empujados := rfl, cantidadActual := rfl, termino := ?_ }
    show false = true ↔ 0 < 0 ∧ _
    simp

omit [DecidableEq φ] in
/-- A tractor that is not in the loop, or has a block with its total. -/
theorem tractor_update {t : τ} {pc : PcTractor φ κ} (h : Inv cs s)
    (hpc : ∀ b i, pc = .carga b i → b.cantidadTotalContenedores = (cs b.vueloDestino).length) :
    ∀ u b i, Function.update s.tractor t pc u = .carga b i →
      b.cantidadTotalContenedores = (cs b.vueloDestino).length :=
  (Function.forall_update_iff s.tractor fun _ pc => ∀ b i, pc = .carga b i →
    b.cantidadTotalContenedores = (cs b.vueloDestino).length).mpr ⟨hpc, fun u _ => h.tractor u⟩

theorem inv_paso (h : Inv cs s) (hs : paso s e = some s') : Inv cs s' := by
  cases e with
  | robot v =>
    simp only [paso] at hs
    split at hs <;> cases hs
    rename_i b bs hcola
    have hmem : ∀ b' ∈ b :: bs, b'.cantidadTotalContenedores = (cs b'.vueloDestino).length := by
      rw [← hcola]
      exact h.porEnviar v
    refine { h with porEnviar := ?_, colaTractores := fun b' hb' => ?_ }
    · exact (Function.forall_update_iff s.porEnviar fun _ bs => ∀ b ∈ bs,
        b.cantidadTotalContenedores = (cs b.vueloDestino).length).mpr
          ⟨fun b' hb' => hmem b' (List.mem_cons_of_mem _ hb'), fun u _ => h.porEnviar u⟩
    · rcases List.mem_append.mp hb' with hb' | hb'
      · exact h.colaTractores b' hb'
      · rw [List.mem_singleton.mp hb']
        exact hmem b List.mem_cons_self
  | tractor t =>
    simp only [paso] at hs
    split at hs
    · split at hs <;> cases hs
      rename_i b bs hcola
      refine { h with colaTractores := fun b' hb' => ?_, tractor := tractor_update h ?_ }
      · exact h.colaTractores b' (hcola ▸ List.mem_cons_of_mem _ hb')
      · rintro b' i ⟨⟩
        exact h.colaTractores b (hcola ▸ List.mem_cons_self)
    · rename_i b i hpc
      have htotal := h.tractor t b i hpc
      split at hs <;> cases hs
      · refine { h with tractor := tractor_update h ?_, avion := fun v => ?_ }
        · rintro b' j ⟨⟩
          exact htotal
        · simp only [cargarContenedorEnAvion]
          by_cases hv : v = b.vueloDestino
          · rw [hv, Function.update_self, Function.update_self, htotal]
            exact (h.avion b.vueloDestino).cargar (b.contenedores i)
          · rw [Function.update_of_ne hv, Function.update_of_ne hv]
            exact h.avion v
      · refine { h with tractor := tractor_update h ?_ }
        rintro b' j ⟨⟩
  | avion v =>
    simp only [paso] at hs
    split at hs <;> cases hs
    rename_i m ms _ hcola
    refine { h with avion := fun u => ?_ }
    simp only
    by_cases hu : u = v
    · rw [hu, Function.update_self, Function.update_self]
      have hv := h.avion v
      rw [hcola] at hv
      exact hv.recibir
    · rw [Function.update_of_ne hu, Function.update_of_ne hu]
      exact h.avion u

/-! ## Where nothing can move -/

/-- The robots and the tractors are done, and each airplane has returned or waits at an empty queue. -/
theorem quieto_of_bloqueado [Nonempty τ] (h : Bloqueado paso s) :
    (∀ v, s.porEnviar v = []) ∧ s.colaTractores = [] ∧ (∀ t, s.tractor t = .espera) ∧
      ∀ v, (s.avion v).termino = true ∨ s.colaAvion v = [] := by
  have htractor : ∀ t, s.tractor t = .espera ∧ s.colaTractores = [] := by
    intro t
    have ht := h (.tractor t)
    simp only [paso] at ht
    split at ht
    · rename_i hpc
      split at ht
      · exact ⟨hpc, by assumption⟩
      · cases ht
    · split at ht <;> cases ht
  refine ⟨fun v => ?_, (htractor (Classical.arbitrary τ)).2, fun t => (htractor t).1, fun v => ?_⟩
  · have hv := h (.robot v)
    simp only [paso] at hv
    split at hv
    · assumption
    · cases hv
  · have hv := h (.avion v)
    simp only [paso] at hv
    split at hv
    · cases hv
    · rename_i hno
      cases ht : (s.avion v).termino with
      | true => exact Or.inl rfl
      | false =>
        cases hc : s.colaAvion v with
        | nil => exact Or.inr rfl
        | cons m ms => exact absurd hc (hno m ms ht)

section Cuenta

variable [Fintype φ] [Fintype τ] [DecidableEq κ] [Inhabited κ]

omit [DecidableEq τ] in
/-- Only the robot of the flight sends for it. -/
theorem cuenta_inicial (v : φ) (c : κ) :
    (inicial cs despues : Estado φ τ κ).cuenta v c =
      ((enviarContenedoresAAvion (cs v) (despues v) v).flatMap
        BloqueContenedores.primeros).count c := by
  have hvuelo : ∀ u, ∀ b ∈ enviarContenedoresAAvion (cs u) (despues u) u, b.vueloDestino = u :=
    fun u b hb => ((enviarContenedores_spec _).2 b (List.mem_cons_of_mem _ hb)).1
  have hotros : ∀ u, u ≠ v → ((enviarContenedoresAAvion (cs u) (despues u) u).map
      fun b => b.veces v c 0).sum = 0 := by
    intro u hu
    rw [List.sum_eq_zero]
    intro n hn
    obtain ⟨b, hb, rfl⟩ := List.mem_map.mp hn
    rw [BloqueContenedores.veces, hvuelo u b hb, if_neg hu]
  simp only [Estado.cuenta, inicial]
  rw [Finset.sum_eq_single v (fun u _ => hotros u) (fun h => absurd (Finset.mem_univ v) h),
    List.count_flatMap]
  simp only [List.map_nil, List.sum_nil, veces_espera, Finset.sum_const_zero, List.count_nil,
    Nat.add_zero]
  refine congrArg List.sum (List.map_congr_left fun b hb => ?_)
  rw [BloqueContenedores.veces, if_pos (hvuelo v b hb)]
  rfl

theorem cuenta_alcanza (h : Alcanza paso (inicial cs despues) s) (v : φ) (c : κ) :
    s.cuenta v c = ((enviarContenedoresAAvion (cs v) (despues v) v).flatMap
      BloqueContenedores.primeros).count c :=
  h.induccion (cuenta_inicial v c) fun _ _ _ ha hb => (cuenta_paso v c hb).trans ha

end Cuenta

theorem inv_alcanza [Inhabited κ] (h : Alcanza paso (inicial cs despues) s) : Inv cs s :=
  h.induccion inv_inicial fun _ _ _ => inv_paso

/-- Whatever is pushed comes from the blocks. -/
theorem empujados_perm [Fintype φ] [Fintype τ] [Nonempty τ] [Inhabited κ]
    (h : Alcanza paso (inicial cs despues) s) (hb : Bloqueado paso s) (v : φ) :
    (s.empujados v).Perm ((enviarContenedoresAAvion (cs v) (despues v) v).flatMap
      BloqueContenedores.primeros) := by
  classical
  obtain ⟨hporEnviar, hcola, htractor, -⟩ := quieto_of_bloqueado hb
  rw [List.perm_iff_count]
  intro c
  rw [← cuenta_alcanza h v c]
  simp only [Estado.cuenta, hporEnviar, hcola, htractor, List.map_nil, List.sum_nil, veces_espera,
    Finset.sum_const_zero, Nat.zero_add]

/-- Without tractors nothing is pushed. -/
theorem empujados_of_isEmpty [IsEmpty τ] [Inhabited κ] (h : Alcanza paso (inicial cs despues) s)
    (v : φ) : s.empujados v = [] := by
  refine h.induccion (I := fun s => s.empujados v = []) rfl fun a e b ha hb => ?_
  cases e with
  | robot u =>
    simp only [paso] at hb
    split at hb <;> cases hb
    exact ha
  | tractor t => exact isEmptyElim t
  | avion u =>
    simp only [paso] at hb
    split at hb <;> cases hb
    exact ha

end Pasos

/-- The containers of a flight arrive once exactly when there is a tractor and they fill the blocks:
    the inner loop has no test for a half-full last block, and the airplane waits for a first
    container even if there is none. -/
theorem contenedores_llegan_una_vez [Fintype φ] [DecidableEq φ] [Fintype τ] [DecidableEq τ]
    [Inhabited κ] (cs : φ → List κ) (despues : φ → Nat → κ) (v : φ) :
    LlegaUnaVez τ cs despues v ↔ Nonempty τ ∧ 0 < (cs v).length ∧ Even (cs v).length := by
  have hmedida : ∀ (a : Estado φ τ κ) e b, paso a e = some b → b.medida < a.medida :=
    fun _ _ _ => medida_paso
  constructor
  · intro h
    obtain ⟨s, hs, hbloqueado⟩ := exists_bloqueado hmedida (inicial cs despues)
    obtain ⟨hempujados, htermino, hllegan, -⟩ := h.llega s hs hbloqueado
    have hpos : 0 < (cs v).length := by
      rw [← hllegan.length_eq]
      exact (((inv_alcanza hs).avion v).termino.mp htermino).1
    refine ⟨?_, hpos, (cantBloques_mul_le_iff _).mp ?_⟩
    · by_contra hno
      have : IsEmpty τ := not_nonempty_iff.mp hno
      rw [empujados_of_isEmpty hs v] at hempujados
      rw [← hempujados.length_eq] at hpos
      exact absurd hpos (Nat.lt_irrefl 0)
    · by_contra hlt
      have hleido := h.indices (cs v).length
      rw [indicesLeidos_eq, List.mem_range] at hleido
      exact absurd (hleido (by omega)) (Nat.lt_irrefl _)
  · rintro ⟨hτ, hpos, hpar⟩
    refine ⟨fun k hk => ?_, primeros_of_even (despues v) v hpar, ?_, fun s hs hbloqueado => ?_⟩
    · rw [indicesLeidos_eq, cantBloques_mul hpar] at hk
      exact List.mem_range.mp hk
    · refine ⟨(inicial cs despues : Estado φ τ κ).medida, fun es s hs => ?_⟩
      exact (Nat.le_add_right _ _).trans (length_add_le hmedida hs)
    · have hempujados := empujados_perm hs hbloqueado v
      rw [primeros_of_even (despues v) v hpar] at hempujados
      have hinv := (inv_alcanza hs).avion v
      have hlargo := hempujados.length_eq
      rw [hinv.empujados, List.length_append, List.length_map] at hlargo
      -- the airplane has returned exactly if nothing is left in its queue
      have hfin : (s.avion v).termino = true ∧ s.colaAvion v = [] := by
        rcases (quieto_of_bloqueado hbloqueado).2.2.2 v with htermino | hcola
        · have hall := hinv.termino.mp htermino
          exact ⟨htermino, List.eq_nil_of_length_eq_zero (by omega)⟩
        · rw [hcola, List.length_nil] at hlargo
          exact ⟨hinv.termino.mpr (by omega), hcola⟩
      refine ⟨hempujados, hfin.1, ?_, hfin.2⟩
      rw [hinv.empujados, hfin.2, List.map_nil, List.append_nil] at hempujados
      exact hempujados

/-- A flight with one container: the block is filled with what follows it in memory. -/
theorem contenedores_uno_de_mas :
    ¬ LlegaUnaVez Unit (fun _ : Unit => [5]) (fun _ _ => 9) () ∧
      (enviarContenedoresAAvion [5] (fun _ => 9) ()).flatMap BloqueContenedores.primeros = [5, 9] := by
  refine ⟨fun h => ?_, by decide⟩
  exact absurd (h.indices 1 (by decide)) (by decide)

end Tractor
