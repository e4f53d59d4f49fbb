import Aeropuerto.Biblioteca.Anillo
import Aeropuerto.Biblioteca.Candados

/-!
# The belts of the scanners (`api/cintascanner.h`)

One producer distributes the luggage over `S` belts (`MAX_SCANNERS`), each with its own consumer.
The control image, every belt image and every semaphore are separate shared objects, so a step is at
most one operation on a lock or a semaphore, together with the accesses to the images whose locks
the process holds.  Semaphore `0` is the producer's and `i + 1` that of scanner `i`, the process
with `numero_escaner = i + 1` and `numero_cinta = i`.
-/

namespace CintaScanner

open Ejecucion Candados

variable {α : Type}

structure CintaEscaner (α : Type) where
  -- tamanio_vector, posicion_libre, posicion_ocupada, cantidad_elementos, vector_elementos
  anillo : Anillo α
  consumidorEsperando : Nat

structure Control where
  cantidadDeEscanersActivos : Nat
  idsEscanersActivos : Nat → Nat
  -- -1 while unregistered, 1 when full, 0 with room
  cintaLlena : Nat → Int
  productorEsperando : Nat

inductive Candado where
  | control
  | cinta (i : Nat)
deriving DecidableEq

inductive Proceso where
  | productor
  | escaner (i : Nat)
deriving DecidableEq

/-- The points of `poner_equipaje`.  Those named `espera…` are before a blocking operation, those
    named `suelta…` before an `unlock`, and the others are inside a critical section. -/
inductive PcProductor (α : Type) where
  | reposo
  | esperaSemaforo (equipaje : α)
  | esperaControl (equipaje : α)
  | buscando (equipaje : α)
  | sueltaControl (equipaje : α) (hayLugar : Bool)
  | esperaCinta (equipaje : α)
  | colocando (equipaje : α)
  -- the belt has just become full
  | esperaControlLlena
  | marcando
  | sueltaControlLlena
  | sueltaCinta
  | senalando

/-- The points of the consumer constructor, up to `senalandoRegistro`, and of `sacar_equipaje`. -/
inductive PcEscaner (α : Type) where
  | sinRegistrar
  | esperaControlRegistro
  | registrando
  | sueltaControlRegistro (despierta : Bool)
  | senalandoRegistro
  | reposo
  | esperaSemaforo
  | esperaCinta
  | extrayendo
  -- the belt was full
  | esperaControl (elemento : α)
  | liberando (elemento : α)
  | sueltaControl (elemento : α)
  | terminando (extrajo : Option α)
  | sueltaCinta (extrajo : Option α)

/-- `puestos i` and `sacados i` record the luggage of belt `i` in the order of its sections. -/
structure Estado (α : Type) where
  control : Control
  cintas : Nat → CintaEscaner α
  semaforos : Nat → Nat
  dueno : Candado → Option Proceso
  productor : PcProductor α
  proximaCintaAColocar : Nat
  escaner : Nat → PcEscaner α
  puestos : Nat → List α
  sacados : Nat → List α

namespace Estado

def signalize (s : Estado α) (k : Nat) : Estado α :=
  { s with semaforos := Function.update s.semaforos k (s.semaforos k + 1) }

/-- `none` while the semaphore is down. -/
def waitOn (s : Estado α) (k : Nat) : Option (Estado α) :=
  if 0 < s.semaforos k then
    some { s with semaforos := Function.update s.semaforos k (s.semaforos k - 1) }
  else none

def lock (s : Estado α) (l : Candado) (p : Proceso) : Option (Estado α) :=
  (tomar s.dueno l p).map fun dueno => { s with dueno := dueno }

def unlock (s : Estado α) (l : Candado) : Estado α :=
  { s with dueno := soltar s.dueno l }

def cambiarCinta (s : Estado α) (i : Nat) (c : CintaEscaner α) : Estado α :=
  { s with cintas := Function.update s.cintas i c }

def marcarLlena (s : Estado α) (i : Nat) (v : Int) : Estado α :=
  { s with control.cintaLlena := Function.update s.control.cintaLlena i v }

def irProductor (s : Estado α) (pc : PcProductor α) : Estado α :=
  { s with productor := pc }

def irEscaner (s : Estado α) (i : Nat) (pc : PcEscaner α) : Estado α :=
  { s with escaner := Function.update s.escaner i pc }

end Estado

/-- The search loop of `poner_equipaje`: from belt `i` on, at most `restantes` turns, past the belts
    that are not marked with room.  Returns the belt it stops at and `cantidad_cintas_llenas`. -/
def buscarCinta (S : Nat) (cintaLlena : Nat → Int) : Nat → Nat → Nat × Nat
  | 0, i => (i, 0)
  | restantes + 1, i =>
    if cintaLlena i ≠ 0 then
      let (proxima, llenas) := buscarCinta S cintaLlena restantes ((i + 1) % S)
      (proxima, llenas + 1)
    else (i, 0)

/-- Under the control lock: choose a belt, or park on finding none with room. -/
def buscar (S : Nat) (s : Estado α) (equipaje : α) : Estado α :=
  let (proxima, llenas) := buscarCinta S s.control.cintaLlena S s.proximaCintaAColocar
  let s := { s with proximaCintaAColocar := proxima }
  let s := if llenas = S then { s with control.productorEsperando := 1 } else s
  s.irProductor (.sueltaControl equipaje (llenas < S))

/-- Under the lock of the chosen belt: put, and wake its consumer if the belt was empty. -/
def colocar (s : Estado α) (equipaje : α) : Estado α :=
  let i := s.proximaCintaAColocar
  let c : CintaEscaner α := { s.cintas i with anillo := (s.cintas i).anillo.poner equipaje }
  let s := { s with puestos := Function.update s.puestos i (s.puestos i ++ [equipaje]) }
  let s :=
    if c.anillo.cantidad = 1 ∧ c.consumidorEsperando = 1 then
      (s.signalize (i + 1)).cambiarCinta i { c with consumidorEsperando := 0 }
    else s.cambiarCinta i c
  s.irProductor (if c.anillo.cantidad = c.anillo.tamanio then .esperaControlLlena else .sueltaCinta)

/-- The step of the producer inside `poner_equipaje`. -/
def pasoProductor (S : Nat) (s : Estado α) : Option (Estado α) :=
  let i := s.proximaCintaAColocar
  match s.productor with
  | .reposo => none
  | .esperaSemaforo equipaje =>
    (s.waitOn 0).map fun s => s.irProductor (.esperaControl equipaje)
  | .esperaControl equipaje =>
    (s.lock .control .productor).map fun s => s.irProductor (.buscando equipaje)
  | .buscando equipaje => some (buscar S s equipaje)
  | .sueltaControl equipaje hayLugar =>
    some ((s.unlock .control).irProductor
      (if hayLugar then .esperaCinta equipaje else .esperaSemaforo equipaje))
  | .esperaCinta equipaje =>
    (s.lock (.cinta i) .productor).map fun s => s.irProductor (.colocando equipaje)
  | .colocando equipaje => some (colocar s equipaje)
  | .esperaControlLlena =>
    (s.lock .control .productor).map fun s => s.irProductor .marcando
  | .marcando => some ((s.marcarLlena i 1).irProductor .sueltaControlLlena)
  | .sueltaControlLlena => some ((s.unlock .control).irProductor .sueltaCinta)
  | .sueltaCinta =>
    some { (s.unlock (.cinta i)).irProductor .senalando with
      proximaCintaAColocar := (i + 1) % S }
  | .senalando => some ((s.signalize 0).irProductor .reposo)

/-- Under the control lock, in the constructor.  The flag of the producer is cleared here and its
    semaphore is signalled after the `unlock`. -/
def registrar (s : Estado α) (i : Nat) : Estado α :=
  let s := { s with
    control.idsEscanersActivos := Function.update s.control.idsEscanersActivos i (i + 1)
    control.cantidadDeEscanersActivos := s.control.cantidadDeEscanersActivos + 1 }
  let s := if s.control.cintaLlena i = -1 then s.marcarLlena i 0 else s
  if s.control.productorEsperando = 1 then
    { s with control.productorEsperando := 0 }.irEscaner i (.sueltaControlRegistro true)
  else s.irEscaner i (.sueltaControlRegistro false)

/-- Under the lock of the belt: take the oldest element if there is one. -/
def extraer (s : Estado α) (i : Nat) : Estado α :=
  let c := s.cintas i
  if c.anillo.cantidad > 0 then
    let elemento := c.anillo.frente
    let c : CintaEscaner α := { c with anillo := c.anillo.quitar }
    let s := (s.cambiarCinta i c)
    let s := { s with sacados := Function.update s.sacados i (s.sacados i ++ [elemento]) }
    s.irEscaner i
      -- estaba lleno
      (if c.anillo.cantidad = (c.anillo.tamanio : Int) - 1 then .esperaControl elemento
        else .terminando (some elemento))
  else s.irEscaner i (.terminando none)

/-- Under both locks: the belt has room again, and the producer is woken if it is parked. -/
def liberar (s : Estado α) (i : Nat) (elemento : α) : Estado α :=
  let s :=
    if s.control.cintaLlena i = 1 then
      let s := s.marcarLlena i 0
      if s.control.productorEsperando = 1 then
        { s with control.productorEsperando := 0 }.signalize 0
      else s
    else s
  s.irEscaner i (.sueltaControl elemento)

/-- Under the lock of the belt: park on an empty belt. -/
def terminar (s : Estado α) (i : Nat) (extrajo : Option α) : Estado α :=
  let s :=
    if (s.cintas i).anillo.cantidad = 0 then
      s.cambiarCinta i { s.cintas i with consumidorEsperando := 1 }
    else s.signalize (i + 1)
  s.irEscaner i (.sueltaCinta extrajo)

/-- The step of scanner `i` inside its constructor or `sacar_equipaje`. -/
def pasoEscaner (s : Estado α) (i : Nat) : Option (Estado α) :=
  match s.escaner i with
  | .sinRegistrar => none
  | .esperaControlRegistro =>
    (s.lock .control (.escaner i)).map fun s => s.irEscaner i .registrando
  | .registrando => some (registrar s i)
  | .sueltaControlRegistro despierta =>
    some ((s.unlock .control).irEscaner i (if despierta then .senalandoRegistro else .reposo))
  | .senalandoRegistro => some ((s.signalize 0).irEscaner i .reposo)
  | .reposo => none
  | .esperaSemaforo => (s.waitOn (i + 1)).map fun s => s.irEscaner i .esperaCinta
  | .esperaCinta =>
    (s.lock (.cinta i) (.escaner i)).map fun s => s.irEscaner i .extrayendo
  | .extrayendo => some (extraer s i)
  | .esperaControl elemento =>
    (s.lock .control (.escaner i)).map fun s => s.irEscaner i (.liberando elemento)
  | .liberando elemento => some (liberar s i elemento)
  | .sueltaControl elemento =>
    some ((s.unlock .control).irEscaner i (.terminando (some elemento)))
  | .terminando extrajo => some (terminar s i extrajo)
  | .sueltaCinta extrajo =>
    some ((s.unlock (.cinta i)).irEscaner i
      (if extrajo.isSome then .reposo else .esperaSemaforo))

/-- `ponerEquipaje`, `construir` and `sacarEquipaje` are the calls. -/
inductive Evento (α : Type) where
  | ponerEquipaje (equipaje : α)
  | productor
  | construir (i : Nat)
  | sacarEquipaje (i : Nat)
  | escaner (i : Nat)

/-- The images of `cinta_escaner_control.init` and `cinta_escaner.init` with capacity `N`; every
    semaphore of `csc_semaforos_` is 1. -/
def inicial (N : Nat) (ranura : Nat → α) : Estado α where
  control :=
    { cantidadDeEscanersActivos := 0
      idsEscanersActivos := fun _ => 0
      cintaLlena := fun _ => -1
      productorEsperando := 0 }
  cintas := fun _ => ⟨Anillo.vacio N ranura, 0⟩
  semaforos := fun _ => 1
  dueno := fun _ => none
  productor := .reposo
  proximaCintaAColocar := 0
  escaner := fun _ => .sinRegistrar
  puestos := fun _ => []
  sacados := fun _ => []

/-- One step of a distributor with `S` scanner belts. -/
def paso (S : Nat) (s : Estado α) : Evento α → Option (Estado α)
  | .ponerEquipaje equipaje =>
    match s.productor with
    | .reposo => some (s.irProductor (.esperaSemaforo equipaje))
    | _ => none
  | .productor => pasoProductor S s
  | .construir i =>
    match s.escaner i with
    | .sinRegistrar => if i < S then some (s.irEscaner i .esperaControlRegistro) else none
    | _ => none
  | .sacarEquipaje i =>
    match s.escaner i with
    | .reposo => some (s.irEscaner i .esperaSemaforo)
    | _ => none
  | .escaner i => pasoEscaner s i

end CintaScanner
