import Aeropuerto.Biblioteca.Ejecucion
import Aeropuerto.Biblioteca.Rotacion
import Aeropuerto.Broker.Grupo

/-!
# Members of a group and turns of its token (`local_broker/grupo.cpp`)

The calls to `join` and `leave` one after another, from the creation of the group, and the passes of the
token over the table they leave.
-/

namespace Membresia

open Ejecucion Rotacion

variable {M : Nat} {ν : Type}

inductive Llamada (ν : Type) where
  | join (nombre : ν)
  | leave (nombre : ν)

section

variable [DecidableEq ν]

/-- `Grupo::join`, with the slot it has given; `none` is the exception. -/
def join (g : Grupo M ν) (nombre : ν) : Option (Grupo M ν × Option (Fin M)) :=
  g.waitOn.map fun g =>
    match g.joinVerificar nombre with
    | (g, some i) => (g.joinOcupar nombre i, some i)
    | (g, none) => (g, none)

def leave (g : Grupo M ν) (nombre : ν) : Option (Grupo M ν) :=
  g.waitOn.map fun g => g.leave nombre

def llamar (g : Grupo M ν) : Llamada ν → Option (Grupo M ν)
  | .join nombre => (join g nombre).map Prod.fst
  | .leave nombre => leave g nombre

end

def ocupado (g : Grupo M ν) (i : Fin M) : Bool := (g.clientNames i).isSome

/-! ## The token -/

/-- `numero_base_cola_asignada` of the group in place `posicion` of the table of groups. -/
def numeroBaseColaAsignada (M posicion : Nat) : Nat := posicion * M + 1

/-- The queue type of a slot: `numero_cola_asignada` of its client, and `mtype` of a token for it. -/
def numeroCola (posicion : Nat) (i : Fin M) : Nat := i + numeroBaseColaAsignada M posicion

structure Pase (M : Nat) where
  cliente : Fin M
  mtype : Nat

section

variable [NeZero M]

/-- `pasar_token_a_proximo_cliente`, with the message it pushes. -/
def pasarToken (esBroker : ν → Bool) (posicion : Nat) (g : Grupo M ν) :
    Option (Grupo M ν × Pase M) :=
  g.waitOn.map fun g =>
    let g' := g.pasarTokenAProximoCliente esBroker
    (g', ⟨g'.clienteActual, if g.cantClientes = 0 then numeroBaseColaAsignada M posicion
      else numeroCola posicion g'.clienteActual⟩)

/-- `k` passes, one after another. -/
def pases (esBroker : ν → Bool) (posicion : Nat) : Nat → Grupo M ν → Option (List (Pase M))
  | 0, _ => some []
  | k + 1, g =>
    (pasarToken esBroker posicion g).bind fun r => (pases esBroker posicion k r.1).map (r.2 :: ·)

end

/-! ## The table -/

/-- `cant_clientes` counts the names, no name is twice, and the mutex is free. -/
structure Bien (g : Grupo M ν) : Prop where
  libre : 0 < g.mutexAsignado
  cantidad : g.cantClientes = (Finset.univ.filter fun i => ocupado g i = true).card
  unico : ∀ i j nombre, g.clientNames i = some nombre → g.clientNames j = some nombre → i = j

theorem ocupado_update (g : Grupo M ν) (i j : Fin M) (x : Option ν) :
    ocupado { g with clientNames := Function.update g.clientNames i x } j =
      if j = i then x.isSome else ocupado g j := by
  show (Function.update g.clientNames i x j).isSome = _
  rw [Function.update_apply]
  split <;> rfl

/-- A free slot that is taken is one more name. -/
theorem card_ocupar {g : Grupo M ν} {i : Fin M} (hi : ocupado g i = false) (nombre : ν) :
    (Finset.univ.filter fun j =>
        ocupado { g with clientNames := Function.update g.clientNames i (some nombre) } j = true).card =
      (Finset.univ.filter fun j => ocupado g j = true).card + 1 := by
  rw [← Finset.card_insert_of_notMem (a := i) (by simp [hi])]
  congr 1
  ext j
  simp only [Finset.mem_filter_univ, Finset.mem_insert, ocupado_update]
  split
  · rename_i hj
    simp [hj]
  · rename_i hj
    simp [hj]

theorem card_desocupar {g : Grupo M ν} {i : Fin M} (hi : ocupado g i = true) :
    (Finset.univ.filter fun j =>
        ocupado { g with clientNames := Function.update g.clientNames i none } j = true).card =
      (Finset.univ.filter fun j => ocupado g j = true).card - 1 := by
  rw [← Finset.card_erase_of_mem (a := i) (by simp [hi])]
  congr 1
  ext j
  simp only [Finset.mem_filter_univ, Finset.mem_erase, ocupado_update]
  split
  · rename_i hj
    simp [hj]
  · rename_i hj
    simp [hj]

/-- The table is full when `cant_clientes` is `MAX_CLIENTS`. -/
theorem Bien.lleno_iff {g : Grupo M ν} (hg : Bien g) :
    g.cantClientes = M ↔ ∀ i, ocupado g i = true := by
  rw [hg.cantidad]
  have huniv : (Finset.univ.filter fun i => ocupado g i = true).card = Fintype.card (Fin M) ↔ _ :=
    Finset.card_eq_iff_eq_univ _
  rw [Fintype.card_fin] at huniv
  rw [huniv, Finset.filter_eq_self]
  exact ⟨fun h i => h i (Finset.mem_univ i), fun h i _ => h i⟩

theorem bien_crear [NeZero M] (memSize : Nat) : Bien (Grupo.crear memSize : Grupo M ν) where
  libre := Nat.one_pos
  cantidad := by
    rw [Finset.filter_false_of_mem fun i _ => by simp [ocupado, Grupo.crear]]
    rfl
  unico i j nombre hi := by cases hi

section

variable [DecidableEq ν] {g g' : Grupo M ν} {nombre : ν}

theorem lockedYaEstaCliente_iff :
    g.lockedYaEstaCliente nombre = true ↔ ∃ i, g.clientNames i = some nombre := by
  unfold Grupo.lockedYaEstaCliente
  rw [List.any_eq_true]
  constructor
  · rintro ⟨i, -, hi⟩
    exact ⟨i, of_decide_eq_true hi⟩
  · rintro ⟨i, hi⟩
    exact ⟨i, List.mem_finRange i, decide_eq_true hi⟩

/-- `join` throws for a name that is in the table and when the table is full, and otherwise writes the
    name in a free slot. -/
theorem Bien.join (hg : Bien g) (nombre : ν) :
    (((∃ i, g.clientNames i = some nombre) ∨ ∀ i, ocupado g i = true) ∧
      ∃ g', join g nombre = some (g', none) ∧ Bien g' ∧ g'.clientNames = g.clientNames ∧
        g'.cantClientes = g.cantClientes) ∨
    (¬((∃ i, g.clientNames i = some nombre) ∨ ∀ i, ocupado g i = true) ∧
      ∃ g' i, join g nombre = some (g', some i) ∧ Bien g' ∧ ocupado g i = false ∧
        g'.clientNames = Function.update g.clientNames i (some nombre)) := by
  obtain ⟨g₁, hg₁⟩ : ∃ g₁, g₁ = { g with mutexAsignado := g.mutexAsignado - 1 } := ⟨_, rfl⟩
  have hwait : g.waitOn = some g₁ := by
    rw [hg₁]
    exact if_pos hg.libre
  have hnombres : g₁.clientNames = g.clientNames := by rw [hg₁]
  have hcant : g₁.cantClientes = g.cantClientes := by rw [hg₁]
  have hya : g₁.lockedYaEstaCliente nombre = true ↔ ∃ i, g.clientNames i = some nombre := by
    rw [lockedYaEstaCliente_iff, hnombres]
  have hfalla : ∀ g', Membresia.join g nombre = some (g', none) → 0 < g'.mutexAsignado →
      g'.clientNames = g.clientNames → g'.cantClientes = g.cantClientes →
      ∃ g', Membresia.join g nombre = some (g', none) ∧ Bien g' ∧ g'.clientNames = g.clientNames ∧
        g'.cantClientes = g.cantClientes := by
    intro g' heq hlibre hnom hcan
    refine ⟨g', heq, ⟨hlibre, ?_, ?_⟩, hnom, hcan⟩
    · rw [hcan, hg.cantidad]
      unfold ocupado
      rw [hnom]
    · rw [hnom]
      exact hg.unico
  by_cases hlleno : g₁.cantClientes = M
  · refine .inl ⟨.inr (hg.lleno_iff.1 (hcant ▸ hlleno)), hfalla g₁.signalize ?_ (Nat.succ_pos _) hnombres
      hcant⟩
    simp only [Membresia.join, hwait, Option.map_some, Grupo.joinVerificar, if_pos hlleno]
  by_cases hesta : g₁.lockedYaEstaCliente nombre = true
  · refine .inl ⟨.inl (hya.1 hesta), hfalla g₁.signalize.signalize ?_ (Nat.succ_pos _) hnombres hcant⟩
    simp only [Membresia.join, hwait, Option.map_some, Grupo.joinVerificar, if_neg hlleno, if_pos hesta]
  · have hhay : ¬∀ i, ocupado g i = true := fun h => hlleno (hcant ▸ hg.lleno_iff.2 h)
    obtain ⟨i, hi⟩ : ∃ i, g₁.primeraLibre = some i := by
      rw [← Option.isSome_iff_exists, Grupo.primeraLibre, List.find?_isSome]
      obtain ⟨j, hj⟩ := not_forall.1 hhay
      refine ⟨j, List.mem_finRange j, ?_⟩
      rw [hnombres]
      simpa [ocupado] using hj
    have hlibre : ocupado g i = false := by
      have := List.find?_some hi
      rw [hnombres] at this
      simpa [ocupado] using this
    refine .inr ⟨fun h => h.elim (fun h => hesta (hya.2 h)) hhay, g₁.joinOcupar nombre i, i, ?_, ?_, hlibre,
      by rw [Grupo.joinOcupar, ← hnombres]; rfl⟩
    · simp only [Membresia.join, hwait, Option.map_some, Grupo.joinVerificar, if_neg hlleno, if_neg hesta,
        hi]
    · refine ⟨Nat.succ_pos _, ?_, fun j k nombre' hj hk => ?_⟩
      · have hcard := card_ocupar hlibre nombre
        rw [← hg.cantidad, ← hcant] at hcard
        rw [hg₁]
        rw [hg₁] at hcard
        exact hcard.symm
      · have hno : ∀ j, g.clientNames j ≠ some nombre := fun j hj => hesta (hya.2 ⟨j, hj⟩)
        change Function.update g₁.clientNames i (some nombre) j = some nombre' at hj
        change Function.update g₁.clientNames i (some nombre) k = some nombre' at hk
        rw [hnombres, Function.update_apply] at hj hk
        split at hj
        · rename_i hji
          split at hk
          · rename_i hki
            rw [hji, hki]
          · exact absurd (hk.trans hj.symm) (hno k)
        · split at hk
          · exact absurd (hj.trans hk.symm) (hno j)
          · exact hg.unico j k nombre' hj hk

theorem Bien.leave (hg : Bien g) (nombre : ν) : ∃ g', leave g nombre = some g' ∧ Bien g' := by
  obtain ⟨g₁, hg₁⟩ : ∃ g₁, g₁ = { g with mutexAsignado := g.mutexAsignado - 1 } := ⟨_, rfl⟩
  have hwait : g.waitOn = some g₁ := by
    rw [hg₁]
    exact if_pos hg.libre
  refine ⟨g₁.leave nombre, by rw [Membresia.leave, hwait]; rfl, ?_⟩
  unfold Grupo.leave
  split
  · rename_i i hi
    have hnombre : g.clientNames i = some nombre := by
      have := List.find?_some hi
      rw [hg₁] at this
      simpa using this
    have hocupado : ocupado g i = true := by rw [ocupado, hnombre]; rfl
    refine ⟨Nat.succ_pos _, ?_, fun j k nombre' hj hk => ?_⟩
    · have hcard := card_desocupar hocupado
      rw [← hg.cantidad] at hcard
      rw [hg₁]
      exact hcard.symm
    · change Function.update g₁.clientNames i none j = some nombre' at hj
      change Function.update g₁.clientNames i none k = some nombre' at hk
      rw [hg₁, Function.update_apply] at hj hk
      split at hj
      · cases hj
      · split at hk
        · cases hk
        · exact hg.unico j k nombre' hj hk
  · refine ⟨Nat.succ_pos _, ?_, ?_⟩
    · rw [hg₁]
      exact hg.cantidad
    · rw [hg₁]
      exact hg.unico

/-- No call blocks, and the table stays right. -/
theorem Bien.correr (hg : Bien g) (llamadas : List (Llamada ν)) :
    ∃ g', correr llamar g llamadas = some g' ∧ Bien g' := by
  induction llamadas generalizing g with
  | nil => exact ⟨g, rfl, hg⟩
  | cons llamada llamadas ih =>
    obtain ⟨g₁, hllamar, hg₁⟩ : ∃ g₁, llamar g llamada = some g₁ ∧ Bien g₁ := by
      cases llamada with
      | join nombre =>
        rcases hg.join nombre with ⟨-, g₁, heq, hg₁, -⟩ | ⟨-, g₁, i, heq, hg₁, -⟩
        · exact ⟨g₁, by rw [llamar, heq]; rfl, hg₁⟩
        · exact ⟨g₁, by rw [llamar, heq]; rfl, hg₁⟩
      | leave nombre => exact hg.leave nombre
    obtain ⟨g', hcorrer, hg'⟩ := ih hg₁
    exact ⟨g', by rw [Ejecucion.correr, hllamar]; exact hcorrer, hg'⟩

end

/-! ## The turns -/

section

variable [NeZero M] {g : Grupo M ν} {esBroker : ν → Bool} {posicion : Nat}

/-- The loop of the source, given enough turns, ends where the search does. -/
theorem buscarCliente_busca {nombres : Fin M → Option ν} {actual i r : Fin M} {n vueltas : Nat}
    (h : Busca (fun i => (nombres i).isSome) actual n i r) (hn : n ≤ vueltas) :
    Grupo.buscarCliente nombres actual vueltas i = r := by
  induction h generalizing vueltas with
  | halla h =>
    obtain ⟨v, rfl⟩ : ∃ v, vueltas = v + 1 := ⟨vueltas - 1, by omega⟩
    rw [Grupo.buscarCliente, if_pos h]
  | vuelve h hi =>
    obtain ⟨v, rfl⟩ : ∃ v, vueltas = v + 1 := ⟨vueltas - 1, by omega⟩
    rw [Grupo.buscarCliente, if_neg (by rw [h]; exact Bool.false_ne_true), if_pos hi]
  | sigue h hi _ ih =>
    obtain ⟨v, rfl⟩ : ∃ v, vueltas = v + 1 := ⟨vueltas - 1, by omega⟩
    rw [Grupo.buscarCliente, if_neg (by rw [h]; exact Bool.false_ne_true), if_neg hi]
    exact ih (by omega)

/-- The slot that the loop chooses after slot `a`. -/
def siguiente (g : Grupo M ν) (a : Fin M) : Fin M := Grupo.buscarCliente g.clientNames a M (a + 1)

theorem siguiente_busca {a r : Fin M} {n : Nat} (hn : n ≤ M) (h : Busca (ocupado g) a n (a + 1) r) :
    siguiente g a = r :=
  buscarCliente_busca h hn

/-- What a pass does with a member in the table. -/
theorem pasarToken_eq (hg : Bien g) (hhay : g.cantClientes ≠ 0) (esBroker : ν → Bool) (posicion : Nat) :
    ∃ g', pasarToken esBroker posicion g = some (g', ⟨siguiente g g.clienteActual,
        numeroCola posicion (siguiente g g.clienteActual)⟩) ∧ Bien g' ∧
      g'.clientNames = g.clientNames ∧ g'.cantClientes = g.cantClientes ∧
      g'.clienteActual = siguiente g g.clienteActual := by
  obtain ⟨g₁, hg₁⟩ : ∃ g₁, g₁ = { g with mutexAsignado := g.mutexAsignado - 1 } := ⟨_, rfl⟩
  have hwait : g.waitOn = some g₁ := by
    rw [hg₁]
    exact if_pos hg.libre
  have hhay₁ : g₁.cantClientes ≠ 0 := by rw [hg₁]; exact hhay
  have hprox : g₁.proximoCliente = siguiente g g.clienteActual := by
    rw [Grupo.proximoCliente, if_neg hhay₁, hg₁]
    rfl
  refine ⟨g₁.pasarTokenAProximoCliente esBroker, ?_, ⟨Nat.succ_pos _, ?_, ?_⟩, ?_, ?_, hprox⟩
  · rw [pasarToken, hwait, Option.map_some, ← hprox]
    simp only [if_neg hhay₁]
    rfl
  · rw [hg₁]
    exact hg.cantidad
  · rw [hg₁]
    exact hg.unico
  · rw [hg₁]
    rfl
  · rw [hg₁]
    rfl

/-- The passes choose the slots that the searches do. -/
theorem pases_eq (hg : Bien g) (hhay : g.cantClientes ≠ 0) (k : Nat) :
    pases esBroker posicion k g = some ((recorrer (siguiente g) k g.clienteActual).map fun i =>
      ⟨i, numeroCola posicion i⟩) := by
  induction k generalizing g with
  | zero => rfl
  | succ k ih =>
    obtain ⟨g', heq, hg', hnombres, hcant, hactual⟩ := pasarToken_eq hg hhay esBroker posicion
    have hsig : siguiente g' = siguiente g := by
      unfold siguiente
      rw [hnombres]
    rw [pases, heq, Option.bind_some, ih hg' (by rwa [hcant]), hsig, hactual]
    rfl

/-- The search that begins after `actual`: it ends within a turn of the table, at a member. -/
theorem Bien.busca (hg : Bien g) (hhay : 0 < g.cantClientes) (actual : Fin M) :
    ∃ n r, n ≤ M ∧ ocupado g r = true ∧ Busca (ocupado g) actual n (actual + 1) r := by
  rw [hg.cantidad, Finset.card_pos] at hhay
  obtain ⟨i, hi⟩ := hhay
  exact exists_busca ((Finset.mem_filter_univ i).1 hi) actual

/-- In `cant_clientes` passes each member has one turn. -/
theorem Bien.turnos (hg : Bien g) (hhay : g.cantClientes ≠ 0) (actual i : Fin M) :
    (recorrer (siguiente g) g.cantClientes actual).count i = if ocupado g i = true then 1 else 0 := by
  have hsig : ∀ c n r, Busca (ocupado g) c n (c + 1) r → siguiente g c = r := by
    intro c n r h
    obtain ⟨m, r', hm, -, hbusca⟩ := hg.busca (Nat.pos_of_ne_zero hhay) c
    rw [siguiente_busca hm hbusca]
    exact hbusca.unica h
  have hvuelta := recorrer_vuelta hsig actual
  have hcant : ((vuelta actual).filter (ocupado g)).length = g.cantClientes := by
    rw [((vuelta_perm actual).filter _).length_eq, hg.cantidad]
    rw [← List.toFinset_card_of_nodup ((List.nodup_finRange M).filter _)]
    congr 1
    ext j
    simp
  rw [hcant] at hvuelta
  rw [hvuelta]
  split
  · rename_i hi
    exact List.count_eq_one_of_mem ((nodup_vuelta actual).filter _)
      (List.mem_filter.2 ⟨mem_vuelta actual i, hi⟩)
  · rename_i hi
    exact List.count_eq_zero_of_not_mem fun h => hi (List.mem_filter.1 h).2

end

/-- Two slots, of one group or of two, have different queue types. -/
theorem numeroCola_inj {posicion posicion' : Nat} {i i' : Fin M}
    (h : numeroCola posicion i = numeroCola posicion' i') : posicion = posicion' ∧ i = i' := by
  have hsum : posicion * M + i = posicion' * M + i' := by
    unfold numeroCola numeroBaseColaAsignada at h
    omega
  have hdiv := congrArg (· / M) hsum
  have hmod := congrArg (· % M) hsum
  simp only [Nat.mul_comm _ M, Nat.mul_add_div (i.pos), Nat.mul_add_mod, Nat.div_eq_of_lt i.isLt,
    Nat.div_eq_of_lt i'.isLt, Nat.mod_eq_of_lt i.isLt, Nat.mod_eq_of_lt i'.isLt, Nat.add_zero] at hdiv hmod
  exact ⟨hdiv, Fin.ext hmod⟩

/-- After any calls to `join` and `leave` the table is right, and from any slot on the token has one turn
    for each member in as many passes as there are members. -/
theorem membresia_y_turnos [NeZero M] [DecidableEq ν] (memSize : Nat) (llamadas : List (Llamada ν)) :
    ∃ g, correr llamar (Grupo.crear memSize : Grupo M ν) llamadas = some g ∧
      g.cantClientes = (Finset.univ.filter fun i => ocupado g i = true).card ∧
      (∀ i j nombre, g.clientNames i = some nombre → g.clientNames j = some nombre → i = j) ∧
      (∀ nombre, ∃ g' r, join g nombre = some (g', r) ∧
        (r = none ↔ (∃ i, g.clientNames i = some nombre) ∨ ∀ i, ocupado g i = true) ∧
        (r = none → g'.clientNames = g.clientNames ∧ g'.cantClientes = g.cantClientes)) ∧
      (0 < g.cantClientes → ∀ (esBroker : ν → Bool) (posicion : Nat) (actual : Fin M),
        -- the loop ends within a turn of the table, at a member
        (∃ n r, n ≤ M ∧ ocupado g r = true ∧ Busca (ocupado g) actual n (actual + 1) r ∧
          { g with clienteActual := actual }.proximoCliente = r) ∧
        ∃ ps, pases esBroker posicion g.cantClientes { g with clienteActual := actual } = some ps ∧
          (∀ i, (ps.map Pase.cliente).count i = if ocupado g i = true then 1 else 0) ∧
          ∀ p ∈ ps, p.mtype = numeroCola posicion p.cliente ∧
            ∀ posicion' (i' : Fin M), numeroCola posicion' i' = p.mtype →
              posicion' = posicion ∧ i' = p.cliente) := by
  obtain ⟨g, hcorrer, hg⟩ := (bien_crear (M := M) (ν := ν) memSize).correr llamadas
  refine ⟨g, hcorrer, hg.cantidad, hg.unico, fun nombre => ?_, fun hhay esBroker posicion actual => ?_⟩
  · rcases hg.join nombre with ⟨hfalla, g', heq, -, hnombres, hcant⟩ | ⟨hno, g', i, heq, -⟩
    · exact ⟨g', none, heq, iff_of_true rfl hfalla, fun _ => ⟨hnombres, hcant⟩⟩
    · exact ⟨g', some i, heq, iff_of_false (Option.some_ne_none i) hno, fun h => by cases h⟩
  · have hg₁ : Bien { g with clienteActual := actual } := ⟨hg.libre, hg.cantidad, hg.unico⟩
    have hcero : g.cantClientes ≠ 0 := Nat.ne_of_gt hhay
    obtain ⟨n, r, hn, hr, hbusca⟩ := hg.busca hhay actual
    refine ⟨⟨n, r, hn, hr, hbusca, ?_⟩, _, pases_eq hg₁ hcero g.cantClientes, fun i => ?_, fun p hp => ?_⟩
    · rw [Grupo.proximoCliente, if_neg hcero]
      exact siguiente_busca hn hbusca
    · rw [List.map_map]
      have hturnos := hg.turnos hcero actual i
      rw [← hturnos]
      congr 1
      exact List.map_id _
    · obtain ⟨i, -, rfl⟩ := List.mem_map.1 hp
      exact ⟨rfl, fun posicion' i' h => numeroCola_inj h⟩

/-- Three names in a table of three, and one that leaves: two passes, one for each that stays. -/
theorem membresia_y_turnos_dos : ∃ g : Grupo 3 Nat,
    correr llamar (Grupo.crear 0) [.join 5, .join 6, .join 7, .leave 6] = some g ∧
      ∃ ps, pases (fun _ => false) 4 2 { g with clienteActual := 1 } = some ps ∧
        ∀ i, (ps.map Pase.cliente).count i = if ocupado g i = true then 1 else 0 := by
  obtain ⟨g, hcorrer, -, -, -, hturnos⟩ :=
    membresia_y_turnos (M := 3) 0 [.join 5, .join 6, .join 7, .leave 6]
  have hcant : ((correr llamar (Grupo.crear 0 : Grupo 3 Nat) [.join 5, .join 6, .join 7, .leave 6]).map
      Grupo.cantClientes) = some 2 := by decide
  rw [hcorrer] at hcant
  have hdos : g.cantClientes = 2 := Option.some.inj hcant
  obtain ⟨-, ps, hps, hcount, -⟩ := hturnos (by omega) (fun _ => false) 4 1
  have hdos' := congrArg (fun k => pases (fun _ => false) 4 k { g with clienteActual := 1 }) hdos
  exact ⟨g, hcorrer, ps, hdos'.symm.trans hps, hcount⟩

end Membresia
