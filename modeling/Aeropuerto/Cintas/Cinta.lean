import Aeropuerto.Cintas.Banda

/-!
# The check-in belt (`api/cinta.h`)

The image of the group `cinta_checkin` with its two semaphore sets.  `wait_on` is a step of its own
that is disabled while the semaphore is down.  Producer `i` runs `poner_equipaje` with
`id_productor = i + 1`; `sacar_equipaje` takes no id and every consumer process uses semaphore and
flag `0`.
-/

namespace Cinta

open Ejecucion

variable {α : Type}

/-- Where a producer is in `poner_equipaje`: outside, before `wait_on`, or between it and the end
    of the critical section. -/
inductive PcProductor (α : Type) where
  | reposo
  | espera (elemento : α)
  | seccion (elemento : α)

inductive PcConsumidor where
  | reposo
  | espera
  | seccion

def PcProductor.activo : PcProductor α → Bool
  | .seccion _ => true
  | _ => false

def PcConsumidor.activo : PcConsumidor → Bool
  | .seccion => true
  | _ => false

/-- `puestos` are the elements whose put succeeded and `devueltos` those returned, each in the order
    of the critical sections. -/
structure Estado (α : Type) where
  compartido : Banda α
  productor : Nat → PcProductor α
  consumidor : Nat → PcConsumidor
  puestos : List α
  devueltos : List α

/-- `ponerEquipaje` and `sacarEquipaje` are the calls; the others are the steps inside them. -/
inductive Evento (α : Type) where
  | ponerEquipaje (i : Nat) (elemento : α)
  | waitProductor (i : Nat)
  | seccionProductor (i : Nat)
  | sacarEquipaje (j : Nat)
  | waitConsumidor (j : Nat)
  | seccionConsumidor (j : Nat)

/-- The belt of `cinta_checkin.init` with capacity `n` and `p` producers; all semaphores are 1. -/
def inicial (n p : Nat) (ranura : Nat → α) : Estado α where
  compartido := Banda.inicial n p 1 ranura
  productor := fun _ => .reposo
  consumidor := fun _ => .reposo
  puestos := []
  devueltos := []

/-- One step of a belt with `p` producers and `k` consumer processes. -/
def paso (p k : Nat) (s : Estado α) : Evento α → Option (Estado α)
  | .ponerEquipaje i elemento =>
    match s.productor i with
    | .reposo =>
      if i < p then
        some { s with productor := Function.update s.productor i (.espera elemento) }
      else none
    | _ => none
  | .waitProductor i =>
    match s.productor i, s.compartido.productores.waitOn i with
    | .espera elemento, some productores =>
      some { s with
        compartido := { s.compartido with productores := productores }
        productor := Function.update s.productor i (.seccion elemento) }
    | _, _ => none
  | .seccionProductor i =>
    match s.productor i with
    | .seccion elemento =>
      let (c, coloque) := s.compartido.seccionPoner elemento (i + 1)
      some { s with
        compartido := c
        productor := Function.update s.productor i (if coloque then .reposo else .espera elemento)
        puestos := if coloque then s.puestos ++ [elemento] else s.puestos }
    | _ => none
  | .sacarEquipaje j =>
    match s.consumidor j with
    | .reposo =>
      if j < k then
        some { s with consumidor := Function.update s.consumidor j .espera }
      else none
    | _ => none
  | .waitConsumidor j =>
    match s.consumidor j, s.compartido.consumidores.waitOn 0 with
    | .espera, some consumidores =>
      some { s with
        compartido := { s.compartido with consumidores := consumidores }
        consumidor := Function.update s.consumidor j .seccion }
    | _, _ => none
  | .seccionConsumidor j =>
    match s.consumidor j with
    | .seccion =>
      let (c, elemento) := s.compartido.seccionSacar 1
      some { s with
        compartido := c
        consumidor := Function.update s.consumidor j (if elemento.isSome then .reposo else .espera)
        devueltos := s.devueltos ++ elemento.toList }
    | _ => none

end Cinta
