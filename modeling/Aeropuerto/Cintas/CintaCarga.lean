import Aeropuerto.Cintas.Banda

/-!
# The container belt (`api/cintacarga.h`)

A belt between one producer and one consumer that also carries the notice that the check-in of the
flight has closed.  `checkin_cerrado` is in the shared image; whether the consumer has seen it,
`ya_me_desperto_el_cierre_de_checkin`, is a field of its own process.  Any process may call
`avisar_cierre_de_checkin`; `comenzar_nueva_carga` is called by the consumer between two calls of
`sacar_equipaje`.
-/

namespace CintaCarga

open Ejecucion

variable {α : Type}

structure Compartido (α : Type) extends Banda α where
  checkinCerrado : Nat
  numeroDeValijasTotales : Int

/-- What one turn of the loop of `sacar_equipaje` does with `elemento` and `extrajo`. -/
inductive Salida (α : Type) where
  | equipaje (elemento : α)
  -- extrajo, with the default element
  | dummy
  | nada

namespace Compartido

/-- The critical section of `sacar_equipaje`, with the new value of
    `ya_me_desperto_el_cierre_de_checkin`. -/
def seccionSacar (c : Compartido α) (yaMeDesperto : Bool) (idConsumidor : Nat) :
    Compartido α × Bool × Salida α :=
  if yaMeDesperto ∨ c.checkinCerrado = 0 then
    match c.toBanda.seccionSacar idConsumidor with
    | (b, some elemento) => ({ c with toBanda := b }, yaMeDesperto, .equipaje elemento)
    | (b, none) => ({ c with toBanda := b }, yaMeDesperto, .nada)
  else if c.checkinCerrado = 1 then
    ({ c with consumidores := c.consumidores.signalize (idConsumidor - 1) }, true, .dummy)
  else (c, yaMeDesperto, .nada)

/-- The section of `comenzar_nueva_carga`; the process flag becomes false with it. -/
def comenzarNuevaCarga (c : Compartido α) : Compartido α :=
  { c with numeroDeValijasTotales := 0, checkinCerrado := 0 }

def avisarCierreDeCheckin (c : Compartido α) (cantidadDeValijas : Int) : Compartido α :=
  let c := { c with numeroDeValijasTotales := cantidadDeValijas, checkinCerrado := 1 }
  { c with toBanda := c.toBanda.despertarConsumidores }

def cantidadValijasTotales (c : Compartido α) (yaMeDesperto : Bool) : Int :=
  if yaMeDesperto then c.numeroDeValijasTotales else -1

end Compartido

inductive PcProductor (α : Type) where
  | reposo
  | espera (elemento : α)
  | seccion (elemento : α)

inductive PcConsumidor where
  | reposo
  | espera
  | seccion

def PcProductor.activo : PcProductor α → Bool
  | .seccion _ => true
  | _ => false

def PcConsumidor.activo : PcConsumidor → Bool
  | .seccion => true
  | _ => false

/-- `cierres` counts the calls of `avisar_cierre_de_checkin`, which number the closes from 0;
    `vistos` are the closes for which a dummy was returned and `borrados` those reset before.
    `devueltos` are the results of `sacar_equipaje`, `none` for the dummy. -/
structure Estado (α : Type) where
  compartido : Compartido α
  yaMeDesperto : Bool
  productor : PcProductor α
  consumidor : PcConsumidor
  puestos : List α
  devueltos : List (Option α)
  cierres : Nat
  vistos : List Nat
  borrados : List Nat

/-- A close has been announced and no `sacar_equipaje` has seen it. -/
def Estado.hayPendiente (s : Estado α) : Bool :=
  s.compartido.checkinCerrado = 1 ∧ s.yaMeDesperto = false

inductive Evento (α : Type) where
  | ponerEquipaje (elemento : α)
  | waitProductor
  | seccionProductor
  | sacarEquipaje
  | waitConsumidor
  | seccionConsumidor
  | comenzarNuevaCarga
  | avisarCierreDeCheckin (cantidadDeValijas : Int)

/-- The image of `cinta_contenedor….init` with capacity `N` and `M` slots for each kind of process
    (`CANTIDAD_MAX_CINTAS_CONTENEDOR`). -/
def inicial (N M : Nat) (ranura : Nat → α) : Estado α where
  compartido :=
    { Banda.inicial N M M ranura with
      checkinCerrado := 0
      numeroDeValijasTotales := 0 }
  yaMeDesperto := false
  productor := .reposo
  consumidor := .reposo
  puestos := []
  devueltos := []
  cierres := 0
  vistos := []
  borrados := []

/-- One step of the belt whose producer has `id_productor = p + 1` and whose consumer has
    `id_consumidor = c + 1`. -/
def paso (p c : Nat) (s : Estado α) : Evento α → Option (Estado α)
  | .ponerEquipaje elemento =>
    match s.productor with
    | .reposo => some { s with productor := .espera elemento }
    | _ => none
  | .waitProductor =>
    match s.productor, s.compartido.productores.waitOn p with
    | .espera elemento, some productores =>
      some { s with compartido.productores := productores, productor := .seccion elemento }
    | _, _ => none
  | .seccionProductor =>
    match s.productor with
    | .seccion elemento =>
      let (b, coloque) := s.compartido.toBanda.seccionPoner elemento (p + 1)
      some { s with
        compartido.toBanda := b
        productor := if coloque then .reposo else .espera elemento
        puestos := if coloque then s.puestos ++ [elemento] else s.puestos }
    | _ => none
  | .sacarEquipaje =>
    match s.consumidor with
    | .reposo => some { s with consumidor := .espera }
    | _ => none
  | .waitConsumidor =>
    match s.consumidor, s.compartido.consumidores.waitOn c with
    | .espera, some consumidores =>
      some { s with compartido.consumidores := consumidores, consumidor := .seccion }
    | _, _ => none
  | .seccionConsumidor =>
    match s.consumidor with
    | .seccion =>
      match s.compartido.seccionSacar s.yaMeDesperto (c + 1) with
      | (compartido, yaMeDesperto, .equipaje elemento) =>
        some { s with
          compartido := compartido
          yaMeDesperto := yaMeDesperto
          consumidor := .reposo
          devueltos := s.devueltos ++ [some elemento] }
      | (compartido, yaMeDesperto, .dummy) =>
        some { s with
          compartido := compartido
          yaMeDesperto := yaMeDesperto
          consumidor := .reposo
          devueltos := s.devueltos ++ [none]
          -- the dummy is for the last close announced
          vistos := s.vistos ++ [s.cierres - 1] }
      | (compartido, yaMeDesperto, .nada) =>
        some { s with
          compartido := compartido
          yaMeDesperto := yaMeDesperto
          consumidor := .espera }
    | _ => none
  | .comenzarNuevaCarga =>
    match s.consumidor with
    | .reposo =>
      some { s with
        compartido := s.compartido.comenzarNuevaCarga
        yaMeDesperto := false
        borrados := if s.hayPendiente then s.borrados ++ [s.cierres - 1] else s.borrados }
    | _ => none
  | .avisarCierreDeCheckin cantidadDeValijas =>
    some { s with
      compartido := s.compartido.avisarCierreDeCheckin cantidadDeValijas
      cierres := s.cierres + 1 }

/-- Every close is followed by a `comenzar_nueva_carga` before the next one, so none is announced
    while `checkin_cerrado` is still set. -/
def alternan (s : Estado α) : Evento α → Bool
  | .avisarCierreDeCheckin _ => s.compartido.checkinCerrado = 0
  | _ => true

end CintaCarga
