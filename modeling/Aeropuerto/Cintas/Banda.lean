import Aeropuerto.Biblioteca.Anillo
import Aeropuerto.Biblioteca.Estacionamiento

/-!
# What `api/cinta.h` and `api/cintacarga.h` share

The two templates keep the same fields and the same code for `despertar_consumidores`,
`despertar_productores`, `poner_equipaje` and the branch of `sacar_equipaje` that takes an element.
The code between `memoria_compartida->lock()` and `unlock()` is one step, so each function here is a
part of one critical section.  Ids start at 1 and semaphores and flags at 0.
-/

structure Banda (α : Type) where
  -- tamanio_vector, posicion_libre, posicion_ocupada, cantidad_elementos, vector_elementos
  anillo : Anillo α
  cantidadProductores : Nat
  cantidadConsumidores : Nat
  -- semaforo_…, ids_…_esperando, cantidad_…_esperando
  productores : Estacionamiento
  consumidores : Estacionamiento

namespace Banda

variable {α : Type} {n j : Nat} {I : Finset Nat} {b : Banda α} {puestos sacados : List α}
  {activoP activoC : Nat → Bool}

def despertarConsumidores (b : Banda α) : Banda α :=
  { b with consumidores := b.consumidores.despertar b.cantidadConsumidores }

def despertarProductores (b : Banda α) : Banda α :=
  { b with productores := b.productores.despertar b.cantidadProductores }

/-- First half of the critical section of `poner_equipaje`: put if there is room. -/
def colocar (b : Banda α) (elemento : α) : Banda α :=
  if b.anillo.cantidad < b.anillo.tamanio then
    let b := { b with anillo := b.anillo.poner elemento }
    -- estaba vacio
    if b.anillo.cantidad = 1 then b.despertarConsumidores else b
  else b

/-- Second half: park if the belt is full now, whether or not the element was put. -/
def dejarProductor (b : Banda α) (idProductor : Nat) : Banda α :=
  { b with
    productores := b.productores.dejar (idProductor - 1) (b.anillo.cantidad = b.anillo.tamanio) }

/-- The critical section of `poner_equipaje`, with the final value of `coloque`. -/
def seccionPoner (b : Banda α) (elemento : α) (idProductor : Nat) : Banda α × Bool :=
  ((b.colocar elemento).dejarProductor idProductor, b.anillo.cantidad < b.anillo.tamanio)

/-- First half of the critical section of `sacar_equipaje`: take if there is something. -/
def extraer (b : Banda α) : Banda α :=
  if b.anillo.cantidad > 0 then
    let b := { b with anillo := b.anillo.quitar }
    -- estaba lleno
    if b.anillo.cantidad = (b.anillo.tamanio : Int) - 1 then b.despertarProductores else b
  else b

/-- Second half: park if the belt is empty now. -/
def dejarConsumidor (b : Banda α) (idConsumidor : Nat) : Banda α :=
  { b with consumidores := b.consumidores.dejar (idConsumidor - 1) (b.anillo.cantidad = 0) }

/-- The critical section that takes an element, with the element when `extrajo`. -/
def seccionSacar (b : Banda α) (idConsumidor : Nat) : Banda α × Option α :=
  (b.extraer.dejarConsumidor idConsumidor,
    if b.anillo.cantidad > 0 then some b.anillo.frente else none)

/-! ## The ring -/

@[simp] theorem despertarConsumidores_anillo (b : Banda α) :
    b.despertarConsumidores.anillo = b.anillo := rfl

@[simp] theorem dejarProductor_anillo (b : Banda α) (i : Nat) :
    (b.dejarProductor i).anillo = b.anillo := rfl

@[simp] theorem dejarConsumidor_anillo (b : Banda α) (j : Nat) :
    (b.dejarConsumidor j).anillo = b.anillo := rfl

theorem colocar_anillo (b : Banda α) (elemento : α) :
    (b.colocar elemento).anillo =
      if b.anillo.cantidad < b.anillo.tamanio then b.anillo.poner elemento else b.anillo := by
  unfold colocar
  split
  · dsimp only
    split <;> rfl
  · rfl

theorem extraer_anillo (b : Banda α) :
    b.extraer.anillo = if b.anillo.cantidad > 0 then b.anillo.quitar else b.anillo := by
  unfold extraer
  split
  · dsimp only
    split <;> rfl
  · rfl

theorem colocar_ids_le (b : Banda α) (elemento : α) (j : Nat) :
    (b.colocar elemento).consumidores.ids j ≤ b.consumidores.ids j := by
  unfold colocar
  split
  · dsimp only
    split
    · exact Estacionamiento.despertar_ids_le _ _ _
    · exact le_refl _
  · exact le_refl _

/-- The ring of capacity `n` holds what has been put and not taken. -/
structure EnCola (n : Nat) (a : Anillo α) (puestos sacados : List α) : Prop where
  fifo : a.Fifo puestos sacados
  tamanio : a.tamanio = n

theorem EnCola.seccionPoner (h : EnCola n b.anillo puestos sacados) (elemento : α) (i : Nat) :
    EnCola n (b.seccionPoner elemento i).1.anillo
      (if (b.seccionPoner elemento i).2 then puestos ++ [elemento] else puestos) sacados := by
  simp only [Banda.seccionPoner, dejarProductor_anillo, colocar_anillo, decide_eq_true_eq]
  split
  · exact ⟨h.fifo.poner ‹_› elemento, h.tamanio⟩
  · exact h

theorem EnCola.seccionSacar (h : EnCola n b.anillo puestos sacados) (j : Nat) :
    EnCola n (b.seccionSacar j).1.anillo puestos (sacados ++ (b.seccionSacar j).2.toList) := by
  simp only [Banda.seccionSacar, dejarConsumidor_anillo, extraer_anillo]
  split
  · exact ⟨h.fifo.quitar ‹_›, h.tamanio⟩
  · simpa using h

/-! ## Nobody sleeps while there is work -/

/-- A belt of capacity `n` with producers `I` and one consumer `j`, given who is between a `wait_on`
    and the end of its section. -/
structure Ordenada (n : Nat) (I : Finset Nat) (j : Nat) (b : Banda α)
    (activoP activoC : Nat → Bool) : Prop where
  valido : b.anillo.Valido
  tamanio : b.anillo.tamanio = n
  cuantosProductores : ∀ i ∈ I, i < b.cantidadProductores
  cuantosConsumidores : j < b.cantidadConsumidores
  productores : b.productores.Binario I activoP
  consumidores : b.consumidores.Binario {j} activoC
  lleno : ∀ i ∈ I, b.productores.ids i = 1 → b.anillo.cantidad = n
  vacio : b.consumidores.ids j = 1 → b.anillo.cantidad = 0

theorem Ordenada.congr {activoP' activoC' : Nat → Bool} (h : b.Ordenada n I j activoP activoC)
    (hP : ∀ i ∈ I, activoP' i = activoP i) (hC : activoC' j = activoC j) :
    b.Ordenada n I j activoP' activoC' where
  valido := h.valido
  tamanio := h.tamanio
  cuantosProductores := h.cuantosProductores
  cuantosConsumidores := h.cuantosConsumidores
  productores := h.productores.congr hP
  consumidores := h.consumidores.congr (by simpa using hC)
  lleno := h.lleno
  vacio := h.vacio

theorem Ordenada.despertarConsumidores (h : b.Ordenada n I j activoP activoC) :
    b.despertarConsumidores.Ordenada n I j activoP activoC ∧
      b.despertarConsumidores.consumidores.ids j = 0 := by
  have hj : ∀ l ∈ ({j} : Finset Nat), l < b.cantidadConsumidores := by
    simpa using h.cuantosConsumidores
  have hid := h.consumidores.despertar_ids hj (Finset.mem_singleton_self j)
  refine ⟨⟨h.valido, h.tamanio, h.cuantosProductores, h.cuantosConsumidores, h.productores,
    h.consumidores.despertar hj, h.lleno, fun h1 => ?_⟩, hid⟩
  simp only [Banda.despertarConsumidores, hid] at h1
  omega

/-- With room on the belt no producer is parked; a put that fills an empty belt wakes the consumer,
    and on a belt that was not empty the consumer was not parked. -/
theorem Ordenada.colocar (h : b.Ordenada n I j activoP activoC) (elemento : α) :
    (b.colocar elemento).Ordenada n I j activoP activoC := by
  unfold Banda.colocar
  split
  · rename_i hroom
    have hv := h.valido.poner hroom elemento
    have hne : b.anillo.cantidad ≠ n := by rw [← h.tamanio]; omega
    have hlleno : ∀ i ∈ I, b.productores.ids i = 1 → b.anillo.cantidad + 1 = n :=
      fun i hi hid => absurd (h.lleno i hi hid) hne
    have hj : ∀ l ∈ ({j} : Finset Nat), l < b.cantidadConsumidores := by
      simpa using h.cuantosConsumidores
    dsimp only
    split
    · have hid := h.consumidores.despertar_ids hj (Finset.mem_singleton_self j)
      exact ⟨hv, h.tamanio, h.cuantosProductores, h.cuantosConsumidores, h.productores,
        h.consumidores.despertar hj, hlleno, fun hi => by
          simp only [Banda.despertarConsumidores, hid] at hi; omega⟩
    · rename_i hone
      refine ⟨hv, h.tamanio, h.cuantosProductores, h.cuantosConsumidores, h.productores,
        h.consumidores, hlleno, fun hi => ?_⟩
      have := h.vacio hi
      simp only [Anillo.poner_cantidad] at hone
      omega
  · exact h

/-- The producer that leaves its section parks on a full belt only. -/
theorem Ordenada.dejarProductor {i : Nat} (h : b.Ordenada n I j activoP activoC) (hi : i ∈ I)
    (ha : activoP i = true) :
    (b.dejarProductor (i + 1)).Ordenada n I j (Function.update activoP i false) activoC := by
  refine ⟨h.valido, h.tamanio, h.cuantosProductores, h.cuantosConsumidores,
    h.productores.dejar hi ha _, h.consumidores, fun l hl hid => ?_, h.vacio⟩
  rcases Estacionamiento.dejar_ids hid with hfull | hid
  · exact h.tamanio ▸ of_decide_eq_true hfull
  · exact h.lleno l hl hid

/-- With luggage on the belt the consumer is not parked; a take from a full belt wakes every
    producer, and on a belt that was not full none was parked. -/
theorem Ordenada.extraer (h : b.Ordenada n I j activoP activoC) :
    b.extraer.Ordenada n I j activoP activoC := by
  unfold Banda.extraer
  split
  · rename_i hsome
    have hv := h.valido.quitar hsome
    have hvacio : b.consumidores.ids j = 1 → b.anillo.cantidad - 1 = 0 := fun hid => by
      have := h.vacio hid
      omega
    dsimp only
    split
    · refine ⟨hv, h.tamanio, h.cuantosProductores, h.cuantosConsumidores,
        h.productores.despertar h.cuantosProductores, h.consumidores, fun i hi hid => ?_, hvacio⟩
      have := h.productores.despertar_ids h.cuantosProductores hi
      simp only [Banda.despertarProductores, this] at hid
      omega
    · rename_i hne
      refine ⟨hv, h.tamanio, h.cuantosProductores, h.cuantosConsumidores, h.productores,
        h.consumidores, fun i hi hid => ?_, hvacio⟩
      have := h.lleno i hi hid
      have := h.tamanio
      simp only [Anillo.quitar_cantidad, Anillo.quitar_tamanio] at hne
      omega
  · exact h

/-- The consumer that leaves its section parks on an empty belt only. -/
theorem Ordenada.dejarConsumidor (h : b.Ordenada n I j activoP activoC)
    (ha : activoC j = true) :
    (b.dejarConsumidor (j + 1)).Ordenada n I j activoP (Function.update activoC j false) := by
  refine ⟨h.valido, h.tamanio, h.cuantosProductores, h.cuantosConsumidores, h.productores,
    h.consumidores.dejar (Finset.mem_singleton_self j) ha _, h.lleno, fun hid => ?_⟩
  rcases Estacionamiento.dejar_ids hid with hempty | hid
  · exact of_decide_eq_true hempty
  · exact h.vacio hid

/-- The consumer that leaves its section without parking. -/
theorem Ordenada.signalizeConsumidor (h : b.Ordenada n I j activoP activoC)
    (ha : activoC j = true) :
    { b with consumidores := b.consumidores.signalize j }.Ordenada n I j activoP
      (Function.update activoC j false) where
  valido := h.valido
  tamanio := h.tamanio
  cuantosProductores := h.cuantosProductores
  cuantosConsumidores := h.cuantosConsumidores
  productores := h.productores
  consumidores := h.consumidores.signalize (Finset.mem_singleton_self j) ha
  lleno := h.lleno
  vacio := h.vacio

theorem Ordenada.waitProductor {i : Nat} {ps : Estacionamiento}
    (h : b.Ordenada n I j activoP activoC) (hi : i ∈ I) (hw : b.productores.waitOn i = some ps) :
    { b with productores := ps }.Ordenada n I j (Function.update activoP i true) activoC where
  valido := h.valido
  tamanio := h.tamanio
  cuantosProductores := h.cuantosProductores
  cuantosConsumidores := h.cuantosConsumidores
  productores := h.productores.waitOn hi hw
  consumidores := h.consumidores
  lleno := by
    obtain ⟨-, rfl⟩ := Estacionamiento.waitOn_eq_some hw
    exact h.lleno
  vacio := h.vacio

theorem Ordenada.waitConsumidor {cs : Estacionamiento}
    (h : b.Ordenada n I j activoP activoC) (hw : b.consumidores.waitOn j = some cs) :
    { b with consumidores := cs }.Ordenada n I j activoP (Function.update activoC j true) where
  valido := h.valido
  tamanio := h.tamanio
  cuantosProductores := h.cuantosProductores
  cuantosConsumidores := h.cuantosConsumidores
  productores := h.productores
  consumidores := h.consumidores.waitOn (Finset.mem_singleton_self j) hw
  lleno := h.lleno
  vacio := by
    obtain ⟨-, rfl⟩ := Estacionamiento.waitOn_eq_some hw
    exact h.vacio

/-- The belt of an `.init` file: empty, every semaphore 1, every counter and flag 0. -/
def inicial (n productores consumidores : Nat) (ranura : Nat → α) : Banda α where
  anillo := Anillo.vacio n ranura
  cantidadProductores := productores
  cantidadConsumidores := consumidores
  productores := ⟨fun _ => 1, fun _ => 0, 0⟩
  consumidores := ⟨fun _ => 1, fun _ => 0, 0⟩

theorem ordenada_inicial {p k : Nat} (hn : 1 ≤ n) (hI : ∀ i ∈ I, i < p) (hj : j < k)
    (ranura : Nat → α) :
    (inicial n p k ranura).Ordenada n I j (fun _ => false) (fun _ => false) where
  valido := Anillo.vacio_valido hn ranura
  tamanio := rfl
  cuantosProductores := hI
  cuantosConsumidores := hj
  productores := ⟨fun _ _ => rfl, by simp [inicial]⟩
  consumidores := ⟨fun _ _ => rfl, by simp [inicial]⟩
  lleno := fun _ _ hid => by cases hid
  vacio := fun hid => by cases hid

end Banda
