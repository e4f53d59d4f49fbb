import Aeropuerto.Cintas.Cinta

/-!
# Safety of the check-in belt

Two invariants of every interleaving: the ring is a lossless queue (`Banda.EnCola`, for any number of
consumer processes), and with one consumer nobody sleeps while there is work for it
(`Banda.Ordenada`).
-/

namespace Cinta

open Ejecucion

variable {α : Type} {n p k : Nat} {s t : Estado α}

/-! ## The belt is a queue -/

theorem enCola_paso {e : Evento α} (h : Banda.EnCola n s.compartido.anillo s.puestos s.devueltos)
    (hs : paso p k s e = some t) : Banda.EnCola n t.compartido.anillo t.puestos t.devueltos := by
  cases e with
  | ponerEquipaje i elemento =>
    simp only [paso] at hs
    split at hs <;> [split at hs; skip] <;> cases hs
    exact h
  | waitProductor i =>
    simp only [paso] at hs
    split at hs <;> cases hs
    exact h
  | seccionProductor i =>
    simp only [paso] at hs
    split at hs <;> cases hs
    exact h.seccionPoner _ _
  | sacarEquipaje j =>
    simp only [paso] at hs
    split at hs <;> [split at hs; skip] <;> cases hs
    exact h
  | waitConsumidor j =>
    simp only [paso] at hs
    split at hs <;> cases hs
    exact h
  | seccionConsumidor j =>
    simp only [paso] at hs
    split at hs <;> cases hs
    exact h.seccionSacar 1

theorem alcanza_enCola {ranura : Nat → α} (hn : 1 ≤ n)
    (h : Alcanza (paso p k) (inicial n p ranura) s) :
    Banda.EnCola n s.compartido.anillo s.puestos s.devueltos :=
  h.induccion (I := fun s => Banda.EnCola n s.compartido.anillo s.puestos s.devueltos)
    ⟨Anillo.fifo_vacio hn ranura, rfl⟩ fun _ _ _ => enCola_paso

/-- A belt of capacity `n` that has lost, duplicated and reordered nothing: `contenido` lists the
    `cantidad` slots from `ocupada` on. -/
structure ColaSinPerdida (n : Nat) (s : Estado α) : Prop where
  noNegativa : 0 ≤ s.compartido.anillo.cantidad
  cabe : s.compartido.anillo.cantidad ≤ n
  indices : (s.compartido.anillo.ocupada + s.compartido.anillo.cantidad.toNat) % n =
    s.compartido.anillo.libre
  historia : s.devueltos ++ s.compartido.anillo.contenido = s.puestos

/-- The belt is a lossless first-in first-out queue under every interleaving of any number of
    producers and consumers. -/
theorem cinta_fifo (ranura : Nat → α) (hn : 1 ≤ n)
    (h : Alcanza (paso p k) (inicial n p ranura) s) : ColaSinPerdida n s := by
  obtain ⟨⟨hv, hist⟩, ht⟩ := alcanza_enCola hn h
  subst ht
  exact ⟨hv.noNegativa, hv.cabe, hv.indices.symm, hist⟩

/-- The theorem at a belt of two slots on which two bags have been put and from which one has been taken. -/
theorem cinta_fifo_dos_lugares :
    ∃ s : Estado Nat, s.puestos = [7, 8] ∧ s.devueltos = [7] ∧ ColaSinPerdida 2 s :=
  ⟨_, rfl, rfl, cinta_fifo (p := 1) (k := 1) (fun _ => 0) (by decide)
    ⟨[.ponerEquipaje 0 7, .waitProductor 0, .seccionProductor 0, .ponerEquipaje 0 8, .waitProductor 0,
      .seccionProductor 0, .sacarEquipaje 0, .waitConsumidor 0, .seccionConsumidor 0], rfl⟩⟩

/-! ## Nobody sleeps while there is work -/

/-- A belt with one consumer process between two steps. -/
structure Inv (n p : Nat) (s : Estado α) : Prop where
  ordenado : s.compartido.Ordenada n (Finset.range p) 0 (PcProductor.activo ∘ s.productor)
    (PcConsumidor.activo ∘ s.consumidor)
  productores : ∀ i, p ≤ i → s.productor i = .reposo
  consumidores : ∀ j, 1 ≤ j → s.consumidor j = .reposo

theorem inv_inicial (hn : 1 ≤ n) (ranura : Nat → α) : Inv n p (inicial n p ranura) where
  ordenado := Banda.ordenada_inicial hn (by simp) (by decide) ranura
  productores := fun _ _ => rfl
  consumidores := fun _ _ => rfl

/-- A producer that is in `poner_equipaje` is one of the `p`. -/
theorem Inv.productor_lt {i : Nat} (h : Inv n p s) (hi : s.productor i ≠ .reposo) : i < p :=
  Nat.lt_of_not_le fun hle => hi (h.productores i hle)

theorem Inv.consumidor_eq {j : Nat} (h : Inv n p s) (hj : s.consumidor j ≠ .reposo) : j = 0 := by
  by_contra hne
  exact hj (h.consumidores j (by omega))

/-- Moving producer `i` leaves the processes beyond the `p`-th outside. -/
theorem Inv.fuera {i : Nat} (h : Inv n p s) (hi : i < p) (pc : PcProductor α) :
    ∀ j, p ≤ j → Function.update s.productor i pc j = .reposo := fun j hj => by
  rw [Function.update_of_ne (by omega)]
  exact h.productores j hj

theorem Inv.fueraC (h : Inv n p s) (pc : PcConsumidor) :
    ∀ j, 1 ≤ j → Function.update s.consumidor 0 pc j = .reposo := fun j hj => by
  rw [Function.update_of_ne (by omega)]
  exact h.consumidores j hj

theorem inv_paso {e : Evento α} (h : Inv n p s) (hs : paso p 1 s e = some t) : Inv n p t := by
  cases e with
  | ponerEquipaje i elemento =>
    simp only [paso] at hs
    split at hs <;> [split at hs; skip] <;> cases hs
    rename_i hpc hi
    refine ⟨?_, h.fuera hi _, h.consumidores⟩
    have hact : PcProductor.activo ∘ Function.update s.productor i (.espera elemento) =
        PcProductor.activo ∘ s.productor := by
      rw [Function.comp_update, Function.update_eq_self_iff]
      simp [hpc, PcProductor.activo]
    rw [hact]
    exact h.ordenado
  | waitProductor i =>
    simp only [paso] at hs
    split at hs <;> cases hs
    rename_i hpc hw
    have hi := h.productor_lt (by rw [hpc]; nofun)
    refine ⟨?_, h.fuera hi _, h.consumidores⟩
    rw [Function.comp_update]
    exact h.ordenado.waitProductor (Finset.mem_range.mpr hi) hw
  | seccionProductor i =>
    simp only [paso] at hs
    split at hs <;> cases hs
    rename_i elemento hpc
    have hi := h.productor_lt (by rw [hpc]; nofun)
    have hact : (PcProductor.activo ∘ s.productor) i = true := by simp [hpc, PcProductor.activo]
    refine ⟨?_, h.fuera hi _, h.consumidores⟩
    rw [Function.comp_update, apply_ite PcProductor.activo]
    simp only [PcProductor.activo, ite_self]
    exact (h.ordenado.colocar elemento).dejarProductor (Finset.mem_range.mpr hi) hact
  | sacarEquipaje j =>
    simp only [paso] at hs
    split at hs <;> [split at hs; skip] <;> cases hs
    rename_i hpc hj
    obtain rfl : j = 0 := by omega
    refine ⟨?_, h.productores, h.fueraC _⟩
    have hact : PcConsumidor.activo ∘ Function.update s.consumidor 0 .espera =
        PcConsumidor.activo ∘ s.consumidor := by
      rw [Function.comp_update, Function.update_eq_self_iff]
      simp [hpc, PcConsumidor.activo]
    rw [hact]
    exact h.ordenado
  | waitConsumidor j =>
    simp only [paso] at hs
    split at hs <;> cases hs
    rename_i hpc hw
    obtain rfl := h.consumidor_eq (by rw [hpc]; nofun)
    refine ⟨?_, h.productores, h.fueraC _⟩
    rw [Function.comp_update]
    exact h.ordenado.waitConsumidor hw
  | seccionConsumidor j =>
    simp only [paso] at hs
    split at hs <;> cases hs
    rename_i hpc
    obtain rfl := h.consumidor_eq (by rw [hpc]; nofun)
    have hact : (PcConsumidor.activo ∘ s.consumidor) 0 = true := by
      simp [hpc, PcConsumidor.activo]
    refine ⟨?_, h.productores, h.fueraC _⟩
    rw [Function.comp_update, apply_ite PcConsumidor.activo]
    simp only [PcConsumidor.activo, ite_self]
    exact h.ordenado.extraer.dejarConsumidor hact

theorem alcanza_inv {ranura : Nat → α} (hn : 1 ≤ n)
    (h : Alcanza (paso p 1) (inicial n p ranura) s) : Inv n p s :=
  h.induccion (inv_inicial hn ranura) fun _ _ _ => inv_paso

/-- Producer `i` is blocked in `wait_on`. -/
def ProductorDormido (s : Estado α) (i : Nat) : Prop :=
  (∃ elemento, s.productor i = .espera elemento) ∧ s.compartido.productores.semaforo i = 0

def ConsumidorDormido (s : Estado α) : Prop :=
  s.consumidor 0 = .espera ∧ s.compartido.consumidores.semaforo 0 = 0

/-- A producer asleep is parked, so the belt is full. -/
theorem Inv.productor_dormido {i : Nat} (h : Inv n p s) (hi : i < p)
    (hd : ProductorDormido s i) : s.compartido.anillo.cantidad = n := by
  obtain ⟨⟨elemento, hpc⟩, hsem⟩ := hd
  have hmem := Finset.mem_range.mpr hi
  have huno := h.ordenado.productores.uno i hmem
  rw [hsem, Function.comp_apply, hpc] at huno
  simp only [PcProductor.activo, Bool.toNat_false, zero_add] at huno
  exact h.ordenado.lleno i hmem huno

theorem Inv.consumidor_dormido (h : Inv n p s) (hd : ConsumidorDormido s) :
    s.compartido.anillo.cantidad = 0 := by
  obtain ⟨hpc, hsem⟩ := hd
  have huno := h.ordenado.consumidores.uno 0 (Finset.mem_singleton_self 0)
  rw [hsem, Function.comp_apply, hpc] at huno
  simp only [PcConsumidor.activo, Bool.toNat_false, zero_add] at huno
  exact h.ordenado.vacio huno

/-- A belt of capacity `n` with `p` producers on which every semaphore is binary and nobody sleeps
    while there is work for it. -/
structure SinDespertarPerdido (n p : Nat) (s : Estado α) : Prop where
  productores : ∀ i < p, s.compartido.productores.semaforo i + (s.productor i).activo.toNat +
    s.compartido.productores.ids i = 1
  consumidor : s.compartido.consumidores.semaforo 0 + (s.consumidor 0).activo.toNat +
    s.compartido.consumidores.ids 0 = 1
  cuentaProductores : s.compartido.productores.esperando =
    ((Finset.range p).filter fun i => s.compartido.productores.ids i = 1).card
  cuentaConsumidores : s.compartido.consumidores.esperando = s.compartido.consumidores.ids 0
  lleno : ∀ i < p, s.compartido.productores.ids i = 1 → s.compartido.anillo.cantidad = n
  vacio : s.compartido.consumidores.ids 0 = 1 → s.compartido.anillo.cantidad = 0
  ningunProductorDormido : ∀ i < p, ProductorDormido s i → ¬ s.compartido.anillo.cantidad < n
  consumidorDespierto : ConsumidorDormido s → ¬ 0 < s.compartido.anillo.cantidad

/-- In every reachable state each semaphore is binary, the counters count the flags, a parked
    producer means a full belt and a parked consumer an empty one. -/
theorem cinta_sin_despertar_perdido (ranura : Nat → α) (hn : 1 ≤ n)
    (h : Alcanza (paso p 1) (inicial n p ranura) s) : SinDespertarPerdido n p s where
  productores i hi := (alcanza_inv hn h).ordenado.productores.uno i (Finset.mem_range.mpr hi)
  consumidor := (alcanza_inv hn h).ordenado.consumidores.uno 0 (Finset.mem_singleton_self 0)
  cuentaProductores := (alcanza_inv hn h).ordenado.productores.esperando_eq_card
  cuentaConsumidores := by simpa using (alcanza_inv hn h).ordenado.consumidores.cuenta
  lleno i hi := (alcanza_inv hn h).ordenado.lleno i (Finset.mem_range.mpr hi)
  vacio := (alcanza_inv hn h).ordenado.vacio
  ningunProductorDormido i hi hd := by
    have := (alcanza_inv hn h).productor_dormido hi hd
    omega
  consumidorDespierto hd := by
    have := (alcanza_inv hn h).consumidor_dormido hd
    omega

/-- The theorem at a belt of one slot whose producer has filled it and parked. -/
theorem cinta_sin_despertar_perdido_un_lugar :
    ∃ s : Estado Nat, s.compartido.productores.ids 0 = 1 ∧ SinDespertarPerdido 1 1 s :=
  ⟨_, rfl, cinta_sin_despertar_perdido (fun _ => 0) (by decide)
    ⟨[.ponerEquipaje 0 7, .waitProductor 0, .seccionProductor 0, .ponerEquipaje 0 8], rfl⟩⟩

end Cinta
