import Aeropuerto.Biblioteca.Ejecucion

/-!
# Ring buffers

The circular array with two indices and a counter that every belt keeps in its shared memory, and
the queue it stands for.  `Fifo` ties the ring to the history of the insertions and removals: what
has been taken out, followed by what the ring holds, is what has been put in.
-/

/-- `tamanio` slots; `ocupada` is the oldest element, `libre` the slot of the next one. -/
structure Anillo (α : Type*) where
  tamanio : Nat
  libre : Nat
  ocupada : Nat
  cantidad : Int
  ranura : Nat → α

namespace Anillo

variable {α : Type*} {a : Anillo α} {x : α} {puestos sacados : List α}

def vacio (n : Nat) (ranura : Nat → α) : Anillo α := ⟨n, 0, 0, 0, ranura⟩

/-- Write the next slot and advance the write index, whatever the counter says. -/
def poner (a : Anillo α) (x : α) : Anillo α :=
  { a with
    ranura := Function.update a.ranura a.libre x
    libre := (a.libre + 1) % a.tamanio
    cantidad := a.cantidad + 1 }

/-- The slot at the read index. -/
def frente (a : Anillo α) : α := a.ranura a.ocupada

/-- Advance the read index and decrement the counter, whatever its value. -/
def quitar (a : Anillo α) : Anillo α :=
  { a with
    ocupada := (a.ocupada + 1) % a.tamanio
    cantidad := a.cantidad - 1 }

/-- The `cantidad` slots from `ocupada` on, oldest first. -/
def contenido (a : Anillo α) : List α :=
  (List.range a.cantidad.toNat).map fun k => a.ranura ((a.ocupada + k) % a.tamanio)

@[simp] theorem poner_tamanio (a : Anillo α) (x : α) : (a.poner x).tamanio = a.tamanio := rfl
@[simp] theorem poner_cantidad (a : Anillo α) (x : α) : (a.poner x).cantidad = a.cantidad + 1 := rfl
@[simp] theorem quitar_tamanio (a : Anillo α) : a.quitar.tamanio = a.tamanio := rfl
@[simp] theorem quitar_cantidad (a : Anillo α) : a.quitar.cantidad = a.cantidad - 1 := rfl

/-- The ring between two operations. -/
structure Valido (a : Anillo α) : Prop where
  positivo : 0 < a.tamanio
  enRango : a.ocupada < a.tamanio
  noNegativa : 0 ≤ a.cantidad
  cabe : a.cantidad ≤ a.tamanio
  indices : a.libre = (a.ocupada + a.cantidad.toNat) % a.tamanio

theorem vacio_valido {n : Nat} (hn : 0 < n) (r : Nat → α) : (vacio n r).Valido :=
  ⟨hn, hn, le_refl _, by simp [vacio], by simp [vacio]⟩

theorem Valido.poner (h : a.Valido) (hc : a.cantidad < a.tamanio) (x : α) :
    (a.poner x).Valido where
  positivo := h.positivo
  enRango := h.enRango
  noNegativa := by have := h.noNegativa; simp only [poner_cantidad]; omega
  cabe := by simp only [poner_cantidad, poner_tamanio]; omega
  indices := by
    have hn : (a.cantidad + 1).toNat = a.cantidad.toNat + 1 := by have := h.noNegativa; omega
    change (a.libre + 1) % a.tamanio = (a.ocupada + (a.cantidad + 1).toNat) % a.tamanio
    rw [h.indices, hn, Nat.mod_add_mod, Nat.add_assoc]

theorem Valido.quitar (h : a.Valido) (hc : 0 < a.cantidad) : a.quitar.Valido where
  positivo := h.positivo
  enRango := Nat.mod_lt _ h.positivo
  noNegativa := by simp only [quitar_cantidad]; omega
  cabe := by have := h.cabe; simp only [quitar_cantidad, quitar_tamanio]; omega
  indices := by
    change a.libre = ((a.ocupada + 1) % a.tamanio + (a.cantidad - 1).toNat) % a.tamanio
    rw [h.indices, Nat.mod_add_mod]
    congr 1
    omega

/-- The slots in use are pairwise different: an offset below the size is recovered from its slot. -/
theorem ranura_inyectiva {n o i j : Nat} (hi : i < n) (hj : j < n)
    (h : (o + i) % n = (o + j) % n) : i = j := by
  have hmod : i ≡ j [MOD n] := Nat.ModEq.add_left_cancel' o h
  exact Nat.ModEq.eq_of_lt_of_lt hmod hi hj

theorem contenido_poner (h : a.Valido) (hc : a.cantidad < a.tamanio) (x : α) :
    (a.poner x).contenido = a.contenido ++ [x] := by
  have hn : (a.cantidad + 1).toNat = a.cantidad.toNat + 1 := by have := h.noNegativa; omega
  have hlt : a.cantidad.toNat < a.tamanio := by omega
  simp only [contenido, Anillo.poner, hn, List.range_succ, List.map_append, List.map_cons,
    List.map_nil]
  congr 1
  · apply List.map_congr_left
    intro k hk
    have hk' : k < a.cantidad.toNat := List.mem_range.mp hk
    -- the slot written is none of those in use
    refine Function.update_of_ne ?_ _ _
    rw [h.indices]
    intro heq
    have := ranura_inyectiva (by omega) hlt heq
    omega
  · rw [← h.indices, Function.update_self]

theorem contenido_quitar (h : a.Valido) (hc : 0 < a.cantidad) :
    a.contenido = a.frente :: a.quitar.contenido := by
  have hn : a.cantidad.toNat = (a.cantidad - 1).toNat + 1 := by omega
  simp only [contenido, Anillo.quitar, frente]
  rw [hn, List.range_succ_eq_map, List.map_cons, Nat.add_zero, Nat.mod_eq_of_lt h.enRango,
    List.map_map]
  congr 1
  apply List.map_congr_left
  intro k _
  simp only [Function.comp_apply, Nat.succ_eq_add_one, Nat.mod_add_mod]
  congr 2
  omega

/-- A put on a belt that is neither empty nor full leaves the oldest element where it is. -/
theorem frente_poner (h : a.Valido) (h0 : 0 < a.cantidad) (hc : a.cantidad < a.tamanio) (x : α) :
    (a.poner x).frente = a.frente := by
  unfold frente Anillo.poner
  refine Function.update_of_ne ?_ _ _
  rw [h.indices]
  intro heq
  have h0' : (a.ocupada + 0) % a.tamanio = (a.ocupada + a.cantidad.toNat) % a.tamanio := by
    rwa [Nat.add_zero, Nat.mod_eq_of_lt h.enRango]
  have := ranura_inyectiva h.positivo (by omega) h0'
  omega

/-- The ring against its history. -/
structure Fifo (a : Anillo α) (puestos sacados : List α) : Prop where
  valido : a.Valido
  historia : sacados ++ a.contenido = puestos

theorem fifo_vacio {n : Nat} (hn : 0 < n) (r : Nat → α) : Fifo (vacio n r) [] [] :=
  ⟨vacio_valido hn r, rfl⟩

theorem Fifo.poner (h : Fifo a puestos sacados) (hc : a.cantidad < a.tamanio) (x : α) :
    Fifo (a.poner x) (puestos ++ [x]) sacados where
  valido := h.valido.poner hc x
  historia := by rw [contenido_poner h.valido hc, ← List.append_assoc, h.historia]

theorem Fifo.quitar (h : Fifo a puestos sacados) (hc : 0 < a.cantidad) :
    Fifo a.quitar puestos (sacados ++ [a.frente]) where
  valido := h.valido.quitar hc
  historia := by
    rw [List.append_assoc, List.singleton_append, ← contenido_quitar h.valido hc, h.historia]

end Anillo
