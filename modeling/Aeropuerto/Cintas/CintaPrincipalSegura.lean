import Aeropuerto.Biblioteca.Sumas
import Aeropuerto.Cintas.CintaPrincipal

/-!
# Safety of the central belt

One turn circulates among the consumers: it is in a semaphore, in the hands of the consumer that
passed its `wait_on`, or parked on an empty belt.  Only its holder removes elements, so the element
it has read is still the oldest one when it extracts it.
-/

namespace CintaPrincipal

open Ejecucion Sumas

variable {α : Type} {n p k j turnos : Nat} {s t : Estado α} {c c' : Compartido α} {elemento : α}
  {activoP : Nat → Bool}

def Compartido.sumaSemaforos (c : Compartido α) (k : Nat) : Nat :=
  ∑ j ∈ Finset.range k, c.semaforoConsumidores j

/-- The consumers that hold the turn. -/
def turnosTomados (k : Nat) (consumidor : Nat → PcConsumidor α) : Nat :=
  ∑ j ∈ Finset.range k, (consumidor j).turno

theorem suma_signalize (c : Compartido α) (hj : j < k) :
    (c.signalizeConsumidor j).sumaSemaforos k = c.sumaSemaforos k + 1 := by
  have := suma_update (fun _ v => v) c.semaforoConsumidores (Finset.mem_range.mpr hj)
    (c.semaforoConsumidores j + 1)
  simp only [Compartido.sumaSemaforos, Compartido.signalizeConsumidor]
  omega

theorem waitConsumidor_eq_some (h : c.waitConsumidor j = some c') :
    0 < c.semaforoConsumidores j ∧ c' = { c with
      semaforoConsumidores :=
        Function.update c.semaforoConsumidores j (c.semaforoConsumidores j - 1) } := by
  unfold Compartido.waitConsumidor at h
  split at h
  · exact ⟨‹_›, (Option.some.inj h).symm⟩
  · cases h

theorem suma_wait (hj : j < k) (h : c.waitConsumidor j = some c') :
    c.sumaSemaforos k = c'.sumaSemaforos k + 1 := by
  obtain ⟨hpos, rfl⟩ := waitConsumidor_eq_some h
  have := suma_update (fun _ v => v) c.semaforoConsumidores (Finset.mem_range.mpr hj)
    (c.semaforoConsumidores j - 1)
  simp only [Compartido.sumaSemaforos]
  omega

theorem turnos_update (consumidor : Nat → PcConsumidor α) (hj : j < k) (pc : PcConsumidor α) :
    turnosTomados k (Function.update consumidor j pc) + (consumidor j).turno =
      turnosTomados k consumidor + pc.turno :=
  suma_update (fun _ pc => pc.turno) consumidor (Finset.mem_range.mpr hj) pc

/-! ## The shared image -/

/-- The belt with its semaphores, given the active producers and the number of turns taken. -/
structure Compartido.Ordenado (n p k : Nat) (c : Compartido α) (activoP : Nat → Bool)
    (turnos : Nat) : Prop where
  valido : c.anillo.Valido
  tamanio : c.anillo.tamanio = n
  cuantosProductores : c.cantidadProductores = p
  cuantosConsumidores : c.cantidadConsumidores = k
  hayConsumidor : 1 ≤ k
  productores : c.productores.Binario (Finset.range p) activoP
  lleno : ∀ i ∈ Finset.range p, c.productores.ids i = 1 → c.anillo.cantidad = n
  unTurno : c.sumaSemaforos k + turnos + c.consumidorEsperando = 1
  vacio : c.consumidorEsperando = 1 → c.anillo.cantidad = 0

/-- A put on an empty belt hands the parked turn to the first consumer; on any other belt the turn
    was not parked. -/
theorem Compartido.Ordenado.colocar (h : c.Ordenado n p k activoP turnos) (elemento : α) :
    (c.colocar elemento).Ordenado n p k activoP turnos := by
  have huno := h.unTurno
  unfold Compartido.colocar
  split
  · rename_i hroom
    have hv := h.valido.poner hroom elemento
    have hlleno : ∀ i ∈ Finset.range p, c.productores.ids i = 1 →
        c.anillo.cantidad + 1 = n := fun i hi hid => by
      have := h.lleno i hi hid
      have := h.tamanio
      omega
    dsimp only
    split
    · unfold Compartido.despertarConsumidor
      split
      · rename_i hesp
        dsimp only at hesp
        have hsum := suma_signalize
          { c with anillo := c.anillo.poner elemento, consumidorEsperando := 0 } h.hayConsumidor
        refine ⟨hv, h.tamanio, h.cuantosProductores, h.cuantosConsumidores, h.hayConsumidor,
          h.productores, hlleno, ?_, fun h0 => by cases h0⟩
        rw [hsum]
        change c.sumaSemaforos k + 1 + turnos + 0 = 1
        omega
      · exact ⟨hv, h.tamanio, h.cuantosProductores, h.cuantosConsumidores, h.hayConsumidor,
          h.productores, hlleno, huno, fun h1 => by dsimp only at *; omega⟩
    · rename_i hne
      refine ⟨hv, h.tamanio, h.cuantosProductores, h.cuantosConsumidores, h.hayConsumidor,
        h.productores, hlleno, huno, fun h1 => ?_⟩
      have := h.vacio h1
      simp only [Anillo.poner_cantidad] at hne
      omega
  · exact h

theorem Compartido.Ordenado.dejarProductor {i : Nat} (h : c.Ordenado n p k activoP turnos)
    (hi : i < p) (ha : activoP i = true) :
    (c.dejarProductor (i + 1)).Ordenado n p k (Function.update activoP i false) turnos := by
  refine ⟨h.valido, h.tamanio, h.cuantosProductores, h.cuantosConsumidores, h.hayConsumidor,
    h.productores.dejar (Finset.mem_range.mpr hi) ha _, fun l hl hid => ?_, h.unTurno, h.vacio⟩
  rcases Estacionamiento.dejar_ids hid with hfull | hid
  · exact h.tamanio ▸ of_decide_eq_true hfull
  · exact h.lleno l hl hid

theorem Compartido.Ordenado.waitProductor {i : Nat} {ps : Estacionamiento}
    (h : c.Ordenado n p k activoP turnos) (hi : i < p) (hw : c.productores.waitOn i = some ps) :
    { c with productores := ps }.Ordenado n p k (Function.update activoP i true) turnos where
  valido := h.valido
  tamanio := h.tamanio
  cuantosProductores := h.cuantosProductores
  cuantosConsumidores := h.cuantosConsumidores
  hayConsumidor := h.hayConsumidor
  productores := h.productores.waitOn (Finset.mem_range.mpr hi) hw
  lleno := by
    obtain ⟨-, rfl⟩ := Estacionamiento.waitOn_eq_some hw
    exact h.lleno
  unTurno := h.unTurno
  vacio := h.vacio

/-- Passing `wait_on` takes the turn out of a semaphore. -/
theorem Compartido.Ordenado.waitConsumidor (h : c.Ordenado n p k activoP turnos) (hj : j < k)
    (hw : c.waitConsumidor j = some c') : c'.Ordenado n p k activoP (turnos + 1) := by
  have hsum := suma_wait hj hw
  have huno := h.unTurno
  obtain ⟨-, rfl⟩ := waitConsumidor_eq_some hw
  exact ⟨h.valido, h.tamanio, h.cuantosProductores, h.cuantosConsumidores, h.hayConsumidor,
    h.productores, h.lleno, by dsimp only; omega, h.vacio⟩

/-- The holder of the turn hands it on by signalling a consumer. -/
theorem Compartido.Ordenado.signalize (h : c.Ordenado n p k activoP (turnos + 1)) (hj : j < k) :
    (c.signalizeConsumidor j).Ordenado n p k activoP turnos := by
  have hsum := suma_signalize c hj
  have huno := h.unTurno
  exact ⟨h.valido, h.tamanio, h.cuantosProductores, h.cuantosConsumidores, h.hayConsumidor,
    h.productores, h.lleno, by
      rw [hsum]
      simp only [Compartido.signalizeConsumidor]
      omega, h.vacio⟩

/-- The holder of the turn parks it on an empty belt. -/
theorem Compartido.Ordenado.estacionar (h : c.Ordenado n p k activoP (turnos + 1))
    (h0 : c.anillo.cantidad = 0) :
    { c with consumidorEsperando := 1 }.Ordenado n p k activoP turnos := by
  have huno := h.unTurno
  exact ⟨h.valido, h.tamanio, h.cuantosProductores, h.cuantosConsumidores, h.hayConsumidor,
    h.productores, h.lleno, by
      change c.sumaSemaforos k + turnos + 1 = 1
      omega, fun _ => h0⟩

theorem Compartido.Ordenado.avanzarCinta (h : c.Ordenado n p k activoP (turnos + 1))
    (j : Nat) : (c.avanzarCinta (j + 1)).Ordenado n p k activoP turnos := by
  unfold Compartido.avanzarCinta
  split
  · rename_i hj
    exact h.signalize (h.cuantosConsumidores ▸ hj)
  · exact h.signalize h.hayConsumidor

/-- Removing an element wakes every producer if the belt was full; the holder keeps its turn. -/
theorem Compartido.Ordenado.quitar (h : c.Ordenado n p k activoP (turnos + 1))
    (h0 : 0 < c.anillo.cantidad) : c.quitar.Ordenado n p k activoP (turnos + 1) := by
  have hv := h.valido.quitar h0
  have huno := h.unTurno
  -- the turn is in the holder's hands, so it is not parked
  have hesp : c.consumidorEsperando = 1 → c.anillo.cantidad - 1 = 0 := fun h1 => by omega
  have hn : ∀ i ∈ Finset.range p, i < c.cantidadProductores := by
    rw [h.cuantosProductores]; simp
  unfold Compartido.quitar
  dsimp only
  split
  · refine ⟨hv, h.tamanio, h.cuantosProductores, h.cuantosConsumidores, h.hayConsumidor,
      h.productores.despertar hn, fun i hi hid => ?_, huno, hesp⟩
    change (c.productores.despertar c.cantidadProductores).ids i = 1 at hid
    have := h.productores.despertar_ids hn hi
    omega
  · rename_i hne
    refine ⟨hv, h.tamanio, h.cuantosProductores, h.cuantosConsumidores, h.hayConsumidor,
      h.productores, fun i hi hid => ?_, huno, hesp⟩
    have := h.lleno i hi hid
    have := h.tamanio
    simp only [Anillo.quitar_cantidad, Anillo.quitar_tamanio] at hne
    omega

theorem Compartido.Ordenado.extraerElemento (h : c.Ordenado n p k activoP (turnos + 1))
    (h0 : 0 < c.anillo.cantidad) : c.extraerElemento.Ordenado n p k activoP turnos := by
  have hq := h.quitar h0
  unfold Compartido.extraerElemento Compartido.dejarTurno
  split
  · exact hq.estacionar ‹_›
  · exact hq.signalize h.hayConsumidor

/-! ## The ring -/

theorem colocar_anillo (c : Compartido α) (elemento : α) :
    (c.colocar elemento).anillo =
      if c.anillo.cantidad < c.anillo.tamanio then c.anillo.poner elemento else c.anillo := by
  unfold Compartido.colocar
  split
  · dsimp only
    split
    · unfold Compartido.despertarConsumidor
      split <;> rfl
    · rfl
  · rfl

@[simp] theorem avanzarCinta_anillo (c : Compartido α) (i : Nat) :
    (c.avanzarCinta i).anillo = c.anillo := by
  unfold Compartido.avanzarCinta
  split <;> rfl

@[simp] theorem extraerElemento_anillo (c : Compartido α) :
    c.extraerElemento.anillo = c.anillo.quitar := by
  have hq : c.quitar.anillo = c.anillo.quitar := by
    unfold Compartido.quitar
    dsimp only
    split <;> rfl
  unfold Compartido.extraerElemento Compartido.dejarTurno
  split <;> exact hq

/-! ## The invariant -/

/-- The belt between two steps. -/
structure Inv (n p k : Nat) (s : Estado α) : Prop where
  ordenado : s.compartido.Ordenado n p k (PcProductor.activo ∘ s.productor)
    (turnosTomados k s.consumidor)
  historia : s.extraidos.map Prod.snd ++ s.compartido.anillo.contenido = s.colocados
  leido : ∀ j elemento, s.consumidor j = .leido elemento →
    0 < s.compartido.anillo.cantidad ∧ s.compartido.anillo.frente = elemento
  productores : ∀ i, p ≤ i → s.productor i = .reposo
  consumidores : ∀ j, k ≤ j → s.consumidor j = .reposo

theorem inv_inicial (hn : 1 ≤ n) (hk : 1 ≤ k) (ranura : Nat → α) :
    Inv n p k (inicial n p k ranura) where
  ordenado :=
    { valido := Anillo.vacio_valido hn ranura
      tamanio := rfl
      cuantosProductores := rfl
      cuantosConsumidores := rfl
      hayConsumidor := hk
      productores := ⟨fun _ _ => rfl, by simp [inicial]⟩
      lleno := fun _ _ hid => by cases hid
      unTurno := by
        have hsem : ∑ j ∈ Finset.range k, (if j = 0 then 1 else 0) = 1 := by
          rw [Finset.sum_ite_eq' (Finset.range k) 0 fun _ => 1, if_pos (Finset.mem_range.mpr hk)]
        simpa [Compartido.sumaSemaforos, turnosTomados, inicial, PcConsumidor.turno] using hsem
      vacio := fun h => by cases h }
  historia := rfl
  leido := fun _ _ h => by cases h
  productores := fun _ _ => rfl
  consumidores := fun _ _ => rfl

theorem Inv.productor_lt {i : Nat} (h : Inv n p k s) (hi : s.productor i ≠ .reposo) : i < p :=
  Nat.lt_of_not_le fun hle => hi (h.productores i hle)

theorem Inv.consumidor_lt (h : Inv n p k s) (hj : s.consumidor j ≠ .reposo) : j < k :=
  Nat.lt_of_not_le fun hle => hj (h.consumidores j hle)

theorem Inv.fuera {i : Nat} (h : Inv n p k s) (hi : i < p) (pc : PcProductor α) :
    ∀ l, p ≤ l → Function.update s.productor i pc l = .reposo := fun l hl => by
  rw [Function.update_of_ne (by omega)]
  exact h.productores l hl

theorem Inv.fueraC (h : Inv n p k s) (hj : j < k) (pc : PcConsumidor α) :
    ∀ l, k ≤ l → Function.update s.consumidor j pc l = .reposo := fun l hl => by
  rw [Function.update_of_ne (by omega)]
  exact h.consumidores l hl

/-- At most one consumer holds the turn, so only one can be about to extract. -/
theorem Inv.turno_unico {j l : Nat} (h : Inv n p k s) (hj : 0 < (s.consumidor j).turno)
    (hl : 0 < (s.consumidor l).turno) : j = l := by
  have hle : turnosTomados k s.consumidor ≤ 1 := by have := h.ordenado.unTurno; omega
  have hjk : j < k := h.consumidor_lt fun h0 => by simp [h0, PcConsumidor.turno] at hj
  have hlk : l < k := h.consumidor_lt fun h0 => by simp [h0, PcConsumidor.turno] at hl
  exact suma_le_uno hle (Finset.mem_range.mpr hjk) (Finset.mem_range.mpr hlk) hj hl

/-- The belt as the holder of the turn sees it when it moves to a place without the turn. -/
theorem Inv.suelta (h : Inv n p k s) (hj : (s.consumidor j).turno = 1) (hlt : j < k)
    {pc : PcConsumidor α} (hpc : pc.turno = 0) :
    s.compartido.Ordenado n p k (PcProductor.activo ∘ s.productor)
      (turnosTomados k (Function.update s.consumidor j pc) + 1) := by
  have htur := turnos_update s.consumidor hlt pc
  rw [hj, hpc] at htur
  rw [htur]
  exact h.ordenado

theorem leido_of_update {consumidor : Nat → PcConsumidor α} {pc : PcConsumidor α} {l : Nat}
    (hpc : ∀ elemento, pc ≠ .leido elemento)
    (hl : Function.update consumidor j pc l = .leido elemento) :
    l ≠ j ∧ consumidor l = .leido elemento := by
  by_cases hlj : l = j
  · rw [hlj, Function.update_self] at hl
    exact absurd hl (hpc elemento)
  · rw [Function.update_of_ne hlj] at hl
    exact ⟨hlj, hl⟩

/-- Whoever has read an element is the holder of the turn, so nobody else has. -/
theorem Inv.leido_update (h : Inv n p k s) (hj : (s.consumidor j).turno = 1)
    {pc : PcConsumidor α} (hpc : ∀ elemento, pc ≠ .leido elemento) (l : Nat) (elemento : α) :
    Function.update s.consumidor j pc l ≠ .leido elemento := by
  intro hl
  obtain ⟨hlj, hleido⟩ := leido_of_update hpc hl
  exact hlj (h.turno_unico (by simp [hleido, PcConsumidor.turno]) (by omega))

/-- The section of `colocar_elemento`: what a consumer has read stays at the front. -/
theorem inv_seccionColocar {i : Nat} (h : Inv n p k s) (hs : paso p k s (.seccionColocar i) = some t) :
    Inv n p k t := by
  simp only [paso] at hs
  split at hs <;> cases hs
  rename_i elemento hpc
  have hi := h.productor_lt (by rw [hpc]; nofun)
  have hact : (PcProductor.activo ∘ s.productor) i = true := by simp [hpc, PcProductor.activo]
  have hanillo : (s.compartido.seccionColocar elemento (i + 1)).1.anillo =
      if s.compartido.anillo.cantidad < s.compartido.anillo.tamanio then
        s.compartido.anillo.poner elemento else s.compartido.anillo :=
    colocar_anillo s.compartido elemento
  have hcoloque : (s.compartido.seccionColocar elemento (i + 1)).2 =
      decide (s.compartido.anillo.cantidad < s.compartido.anillo.tamanio) := rfl
  refine ⟨?_, ?_, fun j leido hj => ?_, h.fuera hi _, h.consumidores⟩
  · rw [Function.comp_update, apply_ite PcProductor.activo]
    simp only [PcProductor.activo, ite_self]
    exact (h.ordenado.colocar elemento).dejarProductor hi hact
  · dsimp only
    rw [hanillo, hcoloque]
    simp only [decide_eq_true_eq]
    split
    · rw [Anillo.contenido_poner h.ordenado.valido ‹_›, ← List.append_assoc, h.historia]
    · exact h.historia
  · obtain ⟨hpos, hfrente⟩ := h.leido j leido hj
    dsimp only
    rw [hanillo]
    split
    · refine ⟨by simp only [Anillo.poner_cantidad]; omega, ?_⟩
      rw [Anillo.frente_poner h.ordenado.valido hpos ‹_›, hfrente]
    · exact ⟨hpos, hfrente⟩

/-- The section of `leer_elemento`: the turn is parked, or its holder has read the front. -/
theorem inv_seccionLeer (h : Inv n p k s) (hs : paso p k s (.seccionLeer j) = some t) :
    Inv n p k t := by
  simp only [paso] at hs
  split at hs
  case h_2 => cases hs
  rename_i hpc
  have hj := h.consumidor_lt (by rw [hpc]; nofun)
  have hturno : (s.consumidor j).turno = 1 := by rw [hpc, PcConsumidor.turno]
  have hnoNeg := h.ordenado.valido.noNegativa
  unfold Compartido.seccionLeer at hs
  by_cases h0 : s.compartido.anillo.cantidad = 0
  · rw [if_pos h0, if_neg (by omega)] at hs
    cases hs
    refine ⟨?_, h.historia, fun l elemento hl => ?_, h.productores, h.fueraC hj _⟩
    · exact (h.suelta hturno hj rfl).estacionar h0
    · exact absurd hl (h.leido_update hturno (fun _ h => by cases h) l elemento)
  · rw [if_neg h0, if_pos (by omega)] at hs
    cases hs
    refine ⟨?_, h.historia, fun l elemento hl => ?_, h.productores, h.fueraC hj _⟩
    · have htur := turnos_update s.consumidor hj (.leido s.compartido.anillo.frente)
      simp only [hpc, PcConsumidor.turno] at htur
      rw [show turnosTomados k _ = turnosTomados k s.consumidor from Nat.add_right_cancel htur]
      exact h.ordenado
    · dsimp only at hl ⊢
      by_cases hlj : l = j
      · subst hlj
        rw [Function.update_self, PcConsumidor.leido.injEq] at hl
        exact ⟨by omega, hl⟩
      · rw [Function.update_of_ne hlj] at hl
        exact h.leido l elemento hl

theorem inv_paso {e : Evento α} (h : Inv n p k s) (hs : paso p k s e = some t) : Inv n p k t := by
  cases e with
  | colocarElemento i elemento =>
    simp only [paso] at hs
    split at hs <;> [split at hs; skip] <;> cases hs
    rename_i hpc hi
    refine ⟨?_, h.historia, h.leido, h.fuera hi _, h.consumidores⟩
    have hact : PcProductor.activo ∘ Function.update s.productor i (.espera elemento) =
        PcProductor.activo ∘ s.productor := by
      rw [Function.comp_update, Function.update_eq_self_iff]
      simp [hpc, PcProductor.activo]
    rw [hact]
    exact h.ordenado
  | waitProductor i =>
    simp only [paso] at hs
    split at hs <;> cases hs
    rename_i hpc hw
    have hi := h.productor_lt (by rw [hpc]; nofun)
    refine ⟨?_, h.historia, h.leido, h.fuera hi _, h.consumidores⟩
    rw [Function.comp_update]
    exact h.ordenado.waitProductor hi hw
  | seccionColocar i => exact inv_seccionColocar h hs
  | leerElemento j =>
    simp only [paso] at hs
    split at hs <;> [split at hs; skip] <;> cases hs
    rename_i hpc hj
    refine ⟨?_, h.historia, fun l elemento hl => ?_, h.productores, h.fueraC hj _⟩
    · have htur := turnos_update s.consumidor hj .espera
      simp only [hpc, PcConsumidor.turno] at htur
      rw [show turnosTomados k (Function.update s.consumidor j .espera) =
        turnosTomados k s.consumidor by omega]
      exact h.ordenado
    · exact h.leido l elemento (leido_of_update (fun _ h => by cases h) hl).2
  | waitConsumidor j =>
    simp only [paso] at hs
    split at hs <;> cases hs
    rename_i c hpc hw
    have hj := h.consumidor_lt (by rw [hpc]; nofun)
    have hanillo : c.anillo = s.compartido.anillo := by
      obtain ⟨-, rfl⟩ := waitConsumidor_eq_some hw
      rfl
    refine ⟨?_, hanillo ▸ h.historia, fun l elemento hl => ?_, h.productores, h.fueraC hj _⟩
    · have htur := turnos_update s.consumidor hj .seccion
      simp only [hpc, PcConsumidor.turno] at htur
      rw [show turnosTomados k (Function.update s.consumidor j .seccion) =
        turnosTomados k s.consumidor + 1 by omega]
      exact h.ordenado.waitConsumidor hj hw
    · dsimp only
      rw [hanillo]
      exact h.leido l elemento (leido_of_update (fun _ h => by cases h) hl).2
  | seccionLeer j => exact inv_seccionLeer h hs
  | avanzarCinta j =>
    simp only [paso] at hs
    split at hs <;> cases hs
    rename_i elemento hpc
    have hj := h.consumidor_lt (by rw [hpc]; nofun)
    have hturno : (s.consumidor j).turno = 1 := by rw [hpc, PcConsumidor.turno]
    refine ⟨?_, by simpa using h.historia, fun l elemento hl => ?_, h.productores, h.fueraC hj _⟩
    · exact (h.suelta hturno hj rfl).avanzarCinta j
    · exact absurd hl (h.leido_update hturno (fun _ h => by cases h) l elemento)
  | extraerElemento j =>
    simp only [paso] at hs
    split at hs <;> cases hs
    rename_i elemento hpc
    have hj := h.consumidor_lt (by rw [hpc]; nofun)
    have hturno : (s.consumidor j).turno = 1 := by rw [hpc, PcConsumidor.turno]
    obtain ⟨hpos, -⟩ := h.leido j elemento hpc
    refine ⟨?_, ?_, fun l elemento hl => ?_, h.productores, h.fueraC hj _⟩
    · exact (h.suelta hturno hj rfl).extraerElemento hpos
    · simp only [extraerElemento_anillo, List.map_append, List.map_cons, List.map_nil,
        List.append_assoc, List.singleton_append]
      rw [← Anillo.contenido_quitar h.ordenado.valido hpos, h.historia]
    · exact absurd hl (h.leido_update hturno (fun _ h => by cases h) l elemento)

theorem alcanza_inv {ranura : Nat → α} (hn : 1 ≤ n) (hk : 1 ≤ k)
    (h : Alcanza (paso p k) (inicial n p k ranura) s) : Inv n p k s :=
  h.induccion (inv_inicial hn hk ranura) fun _ _ _ => inv_paso

/-! ## What a step moves -/

section Mueve

variable {i : Nat} {e : Evento α}

theorem colocarElemento_eq_some (hs : paso p k s (.colocarElemento i elemento) = some t) :
    s.productor i = .reposo ∧
      t = { s with productor := Function.update s.productor i (.espera elemento) } := by
  simp only [paso] at hs
  split at hs <;> [split at hs; skip] <;> cases hs
  exact ⟨‹_›, rfl⟩

theorem leerElemento_eq_some (hs : paso p k s (.leerElemento j) = some t) :
    t = { s with consumidor := Function.update s.consumidor j .espera } := by
  simp only [paso] at hs
  split at hs <;> [split at hs; skip] <;> cases hs
  rfl

theorem avanzarCinta_eq_some (hs : paso p k s (.avanzarCinta j) = some t) :
    t.compartido.anillo = s.compartido.anillo ∧ t.productor = s.productor ∧
      t.consumidor = Function.update s.consumidor j .reposo := by
  simp only [paso] at hs
  split at hs <;> cases hs
  exact ⟨avanzarCinta_anillo _ _, rfl, rfl⟩

/-- An extraction takes out what the consumer has read. -/
theorem extraerElemento_eq_some (h : Inv n p k s) (hs : paso p k s (.extraerElemento j) = some t) :
    ∃ v, s.consumidor j = .leido v ∧
      s.compartido.anillo.contenido = v :: t.compartido.anillo.contenido ∧
      t.productor = s.productor ∧ t.consumidor = Function.update s.consumidor j .reposo := by
  simp only [paso] at hs
  split at hs <;> cases hs
  rename_i v hpc
  obtain ⟨hpos, hfrente⟩ := h.leido j v hpc
  refine ⟨v, hpc, ?_, rfl, rfl⟩
  dsimp only
  rw [extraerElemento_anillo, ← hfrente]
  exact Anillo.contenido_quitar h.ordenado.valido hpos

/-- Inside the calls a consumer that has read stays so. -/
theorem leido_interno {l : Nat} {v : α} (he : e.interno = true) (hs : paso p k s e = some t)
    (hl : s.consumidor l = .leido v) : t.consumidor l = .leido v := by
  have hotro : ∀ {j pc}, s.consumidor j ≠ .leido v →
      Function.update s.consumidor j pc l = .leido v := by
    intro j pc hj
    rw [Function.update_of_ne]
    · exact hl
    · rintro rfl
      exact hj hl
  cases e with
  | waitProductor i =>
    simp only [paso] at hs
    split at hs <;> cases hs
    exact hl
  | seccionColocar i =>
    simp only [paso] at hs
    split at hs <;> cases hs
    exact hl
  | waitConsumidor j =>
    simp only [paso] at hs
    split at hs <;> cases hs
    rename_i hpc _
    exact hotro (by rw [hpc]; nofun)
  | seccionLeer j =>
    simp only [paso] at hs
    split at hs
    · rename_i hpc
      have hj : s.consumidor j ≠ .leido v := by rw [hpc]; nofun
      split at hs <;> cases hs <;> exact hotro hj
    · cases hs
  | colocarElemento i elemento => cases he
  | leerElemento j => cases he
  | avanzarCinta j => cases he
  | extraerElemento j => cases he

/-- Inside the calls an element only moves from the hands of its producer to the end of the belt. -/
theorem interno_cases (h : Inv n p k s) (he : e.interno = true) (hs : paso p k s e = some t) :
    (t.compartido.anillo.contenido = s.compartido.anillo.contenido ∧
      ∀ i, (t.productor i).manos = (s.productor i).manos) ∨
    ∃ i v, (s.productor i).manos = [v] ∧ (t.productor i).manos = [] ∧
      (∀ l, l ≠ i → t.productor l = s.productor l) ∧
      t.compartido.anillo.contenido = s.compartido.anillo.contenido ++ [v] := by
  have hmanos : ∀ {i pc}, pc.manos = (s.productor i).manos →
      ∀ l, (Function.update s.productor i pc l).manos = (s.productor l).manos := by
    intro i pc hpc l
    by_cases hl : l = i
    · rw [hl, Function.update_self, hpc]
    · rw [Function.update_of_ne hl]
  cases e with
  | waitProductor i =>
    simp only [paso] at hs
    split at hs <;> cases hs
    rename_i hpc _
    exact .inl ⟨rfl, hmanos (by rw [hpc]; rfl)⟩
  | seccionColocar i =>
    simp only [paso] at hs
    split at hs <;> cases hs
    rename_i v hpc
    have hanillo : (s.compartido.seccionColocar v (i + 1)).1.anillo =
        if s.compartido.anillo.cantidad < s.compartido.anillo.tamanio then
          s.compartido.anillo.poner v else s.compartido.anillo :=
      colocar_anillo s.compartido v
    have hcoloque : (s.compartido.seccionColocar v (i + 1)).2 =
        decide (s.compartido.anillo.cantidad < s.compartido.anillo.tamanio) := rfl
    dsimp only
    rw [hanillo, hcoloque]
    by_cases hlugar : s.compartido.anillo.cantidad < s.compartido.anillo.tamanio
    · simp only [hlugar, decide_true, if_true]
      refine .inr ⟨i, v, by rw [hpc]; rfl, ?_, fun l hl => Function.update_of_ne hl _ _,
        Anillo.contenido_poner h.ordenado.valido hlugar v⟩
      rw [Function.update_self]
      rfl
    · refine .inl ⟨by rw [if_neg hlugar], hmanos ?_⟩
      rw [hpc, decide_eq_false hlugar]
      rfl
  | waitConsumidor j =>
    simp only [paso] at hs
    split at hs <;> cases hs
    rename_i hw
    obtain ⟨-, rfl⟩ := waitConsumidor_eq_some hw
    exact .inl ⟨rfl, fun _ => rfl⟩
  | seccionLeer j =>
    simp only [paso] at hs
    split at hs
    · have hanillo : s.compartido.seccionLeer.1.anillo = s.compartido.anillo := by
        unfold Compartido.seccionLeer
        dsimp only
        split <;> rfl
      split at hs <;> cases hs
      all_goals
        rename_i hsec
        rw [hsec] at hanillo
        exact .inl ⟨by rw [hanillo], fun _ => rfl⟩
    · cases hs
  | colocarElemento i elemento => cases he
  | leerElemento j => cases he
  | avanzarCinta j => cases he
  | extraerElemento j => cases he

end Mueve

/-! ## The turn -/

/-- A belt of capacity `n` with `p` producers and `k` consumers on which one turn circulates.  The
    consumer about to call `extraer_elemento` is in `leido elemento`. -/
structure UnTurno (n p k : Nat) (s : Estado α) : Prop where
  uno : s.compartido.sumaSemaforos k + turnosTomados k s.consumidor +
    s.compartido.consumidorEsperando = 1
  vacio : s.compartido.consumidorEsperando = 1 → s.compartido.anillo.cantidad = 0
  hayElemento : ∀ j elemento, s.consumidor j = .leido elemento → 1 ≤ s.compartido.anillo.cantidad
  extraeLoLeido : ∀ j elemento t, s.consumidor j = .leido elemento →
    paso p k s (.extraerElemento j) = some t → t.extraidos = s.extraidos ++ [(j, elemento)]
  unaVez : s.extraidos.map Prod.snd ++ s.compartido.anillo.contenido = s.colocados
  lleno : ∀ i < p, s.compartido.productores.ids i = 1 → s.compartido.anillo.cantidad = n

/-- Exactly one turn circulates among the consumers, and extraction removes what the holder of the
    turn has read. -/
theorem cinta_principal_un_turno (ranura : Nat → α) (hn : 1 ≤ n) (hk : 1 ≤ k)
    (h : Alcanza (paso p k) (inicial n p k ranura) s) : UnTurno n p k s := by
  have hi := alcanza_inv hn hk h
  refine ⟨hi.ordenado.unTurno, hi.ordenado.vacio, fun j elemento hj => (hi.leido j elemento hj).1,
    fun j elemento t hj ht => ?_, hi.historia,
    fun i hlt => hi.ordenado.lleno i (Finset.mem_range.mpr hlt)⟩
  simp only [paso, hj] at ht
  cases ht
  rw [(hi.leido j elemento hj).2]

/-- The theorem at a belt whose second consumer has read the element the first one left. -/
theorem cinta_principal_un_turno_dos_consumidores :
    ∃ s : Estado Nat, s.consumidor 1 = .leido 7 ∧ UnTurno 2 1 2 s :=
  ⟨_, rfl, cinta_principal_un_turno (fun _ => 0) (by decide) (by decide)
    ⟨[.colocarElemento 0 7, .waitProductor 0, .seccionColocar 0, .leerElemento 0,
      .waitConsumidor 0, .seccionLeer 0, .avanzarCinta 0, .leerElemento 1, .waitConsumidor 1,
      .seccionLeer 1], rfl⟩⟩

end CintaPrincipal
