import Aeropuerto.Biblioteca.Anillo
import Aeropuerto.Biblioteca.Estacionamiento

/-!
# The central belt (`api/cintaprincipal.h`)

Consumer `j` is the process with `id_consumidor = j + 1`; it waits on `cpp_sem_cons_j`.  The code
between `lock()` and `unlock()` is one step.  `avanzar_cinta` takes no lock: it only signals.
Consumer `j` repeats `leer_elemento` and then one of `avanzar_cinta` and `extraer_elemento`, the
order `ApiDespachante` keeps with its flag `saco_elemento`.
-/

namespace CintaPrincipal

open Ejecucion

variable {α : Type}

structure Compartido (α : Type) where
  -- tamanio_vector, posicion_libre, posicion_ocupada, cantidad_elementos, vector_elementos
  anillo : Anillo α
  cantidadProductores : Nat
  cantidadConsumidores : Nat
  -- semaforo_productores, ids_productores_esperando, cantidad_productores_esperando
  productores : Estacionamiento
  consumidorEsperando : Nat
  semaforoConsumidores : Nat → Nat

namespace Compartido

def signalizeConsumidor (c : Compartido α) (j : Nat) : Compartido α :=
  { c with
    semaforoConsumidores :=
      Function.update c.semaforoConsumidores j (c.semaforoConsumidores j + 1) }

/-- `semaforo_consumidores->wait_on(j)`; `none` while it blocks. -/
def waitConsumidor (c : Compartido α) (j : Nat) : Option (Compartido α) :=
  if 0 < c.semaforoConsumidores j then
    some { c with
      semaforoConsumidores :=
        Function.update c.semaforoConsumidores j (c.semaforoConsumidores j - 1) }
  else none

/-- The consumers share one flag: whoever finds the belt empty, the first one is woken. -/
def despertarConsumidor (c : Compartido α) : Compartido α :=
  if c.consumidorEsperando > 0 then
    { c with consumidorEsperando := 0 }.signalizeConsumidor 0
  else c

def colocar (c : Compartido α) (elemento : α) : Compartido α :=
  if c.anillo.cantidad < c.anillo.tamanio then
    let c := { c with anillo := c.anillo.poner elemento }
    -- estaba vacio
    if c.anillo.cantidad = 1 then c.despertarConsumidor else c
  else c

def dejarProductor (c : Compartido α) (idProductor : Nat) : Compartido α :=
  { c with
    productores := c.productores.dejar (idProductor - 1) (c.anillo.cantidad = c.anillo.tamanio) }

/-- The critical section of `colocar_elemento`, with the final value of `coloque`. -/
def seccionColocar (c : Compartido α) (elemento : α) (idProductor : Nat) : Compartido α × Bool :=
  ((c.colocar elemento).dejarProductor idProductor, c.anillo.cantidad < c.anillo.tamanio)

/-- The critical section of `leer_elemento`: on an empty belt the turn is parked. -/
def seccionLeer (c : Compartido α) : Compartido α × Option α :=
  (if c.anillo.cantidad = 0 then { c with consumidorEsperando := 1 } else c,
    if c.anillo.cantidad > 0 then some c.anillo.frente else none)

def avanzarCinta (c : Compartido α) (idConsumidor : Nat) : Compartido α :=
  if idConsumidor < c.cantidadConsumidores then c.signalizeConsumidor idConsumidor
  else c.signalizeConsumidor 0

/-- The first half of `extraer_elemento`: the counter is decremented without a check. -/
def quitar (c : Compartido α) : Compartido α :=
  let c := { c with anillo := c.anillo.quitar }
  -- estaba lleno
  if c.anillo.cantidad = (c.anillo.tamanio : Int) - 1 then
    { c with productores := c.productores.despertar c.cantidadProductores }
  else c

/-- The second half: the turn is parked on an empty belt and goes to the first consumer else. -/
def dejarTurno (c : Compartido α) : Compartido α :=
  if c.anillo.cantidad = 0 then { c with consumidorEsperando := 1 }
  else c.signalizeConsumidor 0

def extraerElemento (c : Compartido α) : Compartido α := c.quitar.dejarTurno

end Compartido

inductive PcProductor (α : Type) where
  | reposo
  | espera (elemento : α)
  | seccion (elemento : α)

/-- `espera` is before `wait_on`, `seccion` between it and the end of `leer_elemento`, and `leido`
    between `leer_elemento` and the call that advances or extracts. -/
inductive PcConsumidor (α : Type) where
  | reposo
  | espera
  | seccion
  | leido (elemento : α)

def PcProductor.activo : PcProductor α → Bool
  | .seccion _ => true
  | _ => false

/-- What a producer is about to put. -/
def PcProductor.manos : PcProductor α → List α
  | .espera elemento | .seccion elemento => [elemento]
  | .reposo => []

/-- The consumer holds the turn. -/
def PcConsumidor.turno : PcConsumidor α → Nat
  | .seccion | .leido _ => 1
  | _ => 0

/-- `extraidos` records which consumer removed which element, `colocados` what was put. -/
structure Estado (α : Type) where
  compartido : Compartido α
  productor : Nat → PcProductor α
  consumidor : Nat → PcConsumidor α
  colocados : List α
  extraidos : List (Nat × α)

inductive Evento (α : Type) where
  | colocarElemento (i : Nat) (elemento : α)
  | waitProductor (i : Nat)
  | seccionColocar (i : Nat)
  | leerElemento (j : Nat)
  | waitConsumidor (j : Nat)
  | seccionLeer (j : Nat)
  | avanzarCinta (j : Nat)
  | extraerElemento (j : Nat)

/-- The steps inside a call; the others are the calls and the ones that end a read. -/
def Evento.interno : Evento α → Bool
  | .waitProductor _ | .seccionColocar _ | .waitConsumidor _ | .seccionLeer _ => true
  | _ => false

/-- `cinta_principal.init` with capacity `n`, `p` producers and `k` consumers; `cpp_sem_cons_0` is 1
    and the other consumer semaphores are 0. -/
def inicial (n p k : Nat) (ranura : Nat → α) : Estado α where
  compartido :=
    { anillo := Anillo.vacio n ranura
      cantidadProductores := p
      cantidadConsumidores := k
      productores := ⟨fun _ => 1, fun _ => 0, 0⟩
      consumidorEsperando := 0
      semaforoConsumidores := fun j => if j = 0 then 1 else 0 }
  productor := fun _ => .reposo
  consumidor := fun _ => .reposo
  colocados := []
  extraidos := []

def paso (p k : Nat) (s : Estado α) : Evento α → Option (Estado α)
  | .colocarElemento i elemento =>
    match s.productor i with
    | .reposo =>
      if i < p then
        some { s with productor := Function.update s.productor i (.espera elemento) }
      else none
    | _ => none
  | .waitProductor i =>
    match s.productor i, s.compartido.productores.waitOn i with
    | .espera elemento, some productores =>
      some { s with
        compartido := { s.compartido with productores := productores }
        productor := Function.update s.productor i (.seccion elemento) }
    | _, _ => none
  | .seccionColocar i =>
    match s.productor i with
    | .seccion elemento =>
      let (c, coloque) := s.compartido.seccionColocar elemento (i + 1)
      some { s with
        compartido := c
        productor := Function.update s.productor i (if coloque then .reposo else .espera elemento)
        colocados := if coloque then s.colocados ++ [elemento] else s.colocados }
    | _ => none
  | .leerElemento j =>
    match s.consumidor j with
    | .reposo =>
      if j < k then
        some { s with consumidor := Function.update s.consumidor j .espera }
      else none
    | _ => none
  | .waitConsumidor j =>
    match s.consumidor j, s.compartido.waitConsumidor j with
    | .espera, some c =>
      some { s with
        compartido := c
        consumidor := Function.update s.consumidor j .seccion }
    | _, _ => none
  | .seccionLeer j =>
    match s.consumidor j with
    | .seccion =>
      match s.compartido.seccionLeer with
      | (c, some elemento) =>
        some { s with
          compartido := c
          consumidor := Function.update s.consumidor j (.leido elemento) }
      | (c, none) =>
        some { s with
          compartido := c
          consumidor := Function.update s.consumidor j .espera }
    | _ => none
  | .avanzarCinta j =>
    match s.consumidor j with
    | .leido _ =>
      some { s with
        compartido := s.compartido.avanzarCinta (j + 1)
        consumidor := Function.update s.consumidor j .reposo }
    | _ => none
  | .extraerElemento j =>
    match s.consumidor j with
    | .leido _ =>
      some { s with
        compartido := s.compartido.extraerElemento
        consumidor := Function.update s.consumidor j .reposo
        -- the slot given up is the one at the read index
        extraidos := s.extraidos ++ [(j, s.compartido.anillo.frente)] }
    | _ => none

end CintaPrincipal
