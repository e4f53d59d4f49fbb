import Aeropuerto.Biblioteca.Ejecucion

/-!
# The check-in desks (`api/api_checkin.cpp`, `processes/controlador_puesto_checkin.cpp`)

A flight takes a desk from the pool, sends it one message to open and one to close, and gives it back.
At the desk `controlador_puesto_checkin` handles the messages in order and `puesto_checkin` attends
the passengers; both use `vuelo_actual` under `mutex_checkin`.
-/

namespace PuestoCheckin

open Ejecucion

/-- `tMeansajeCheckin`, without the desk, which chooses the queue. -/
structure MensajeCheckin where
  iniciarCheckin : Bool
  numVuelo : Nat
  numZona : Nat
  deriving DecidableEq

/-- What happens at a desk: a check-in is opened, a bag of a passenger is registered, the close returns
    the number of bags, `cargar_equipajes` sends the total to a zone.  The last two are the check-in
    that is already open and the exception of `cerrar_checkin`. -/
inductive Suceso where
  | abre (vuelo : Int)
  | equipaje (vuelo : Int)
  | cierra (vuelo : Int) (cantidad : Int)
  | avisa (zona : Nat) (total : Int)
  | ocupado
  | sinCheckin

/-- The loop of `controlador_puesto_checkin`; the section is that of `iniciar_checkin` or of
    `cerrar_checkin`. -/
inductive PcControlador where
  | recibe
  | bloquea (mensaje : MensajeCheckin)
  | seccion (mensaje : MensajeCheckin)
  | buscaIntercargo (mensaje : MensajeCheckin)
  | cargaEquipajes (mensaje : MensajeCheckin)
  | excepcion

/-- The loop of `puesto_checkin` with the flight of the passenger and the bags still to be
    registered. -/
inductive PcPuesto where
  | espera
  | bloquea (vuelo : Int) (equipajes : Nat)
  | consulta (vuelo : Int) (equipajes : Nat)
  | registra (vuelo : Int) (equipajes : Nat)
  | fin

/-- `numVuelo` and `cantEquipajes` are `vuelo_actual`, `cantIntercargo` and `cantCheckin` the variables
    of the controller, `cola` its queue of messages. -/
structure Puesto where
  arrancado : Bool
  mutex : Nat
  numVuelo : Int
  cantEquipajes : Int
  cola : List MensajeCheckin
  controlador : PcControlador
  cantIntercargo : Int
  cantCheckin : Int
  puesto : PcPuesto
  historia : List Suceso

namespace Puesto

def iniciarCheckin (p : Puesto) (numeroVuelo : Int) : Puesto :=
  if p.numVuelo = -1 then
    { p with
      numVuelo := numeroVuelo
      cantEquipajes := 0
      mutex := p.mutex + 1
      historia := p.historia ++ [.abre numeroVuelo] }
  else { p with mutex := p.mutex + 1, historia := p.historia ++ [.ocupado] }

/-- `none` is the exception. -/
def cerrarCheckin (p : Puesto) : Puesto × Option Int :=
  if p.numVuelo = -1 then
    ({ p with mutex := p.mutex + 1, historia := p.historia ++ [.sinCheckin] }, none)
  else
    ({ p with
      numVuelo := -1
      mutex := p.mutex + 1
      historia := p.historia ++ [.cierra p.numVuelo p.cantEquipajes] }, some p.cantEquipajes)

end Puesto

/-- The lines of the file after the first one. -/
abbrev Archivo := List (Int × Int)

def obtenerCantidadEquipajeIntercargo (numeroDeVuelo : Int) : Archivo → Int
  | [] => 0
  | (vueloDestino, totalEquipajes) :: lineas =>
    if vueloDestino = numeroDeVuelo then totalEquipajes
    else obtenerCantidadEquipajeIntercargo numeroDeVuelo lineas

def pasoControlador (archivo : Archivo) (p : Puesto) : Option Puesto :=
  match p.controlador with
  | .recibe =>
    match p.cola with
    | m :: cola => some { p with cola := cola, controlador := .bloquea m }
    | [] => none
  | .bloquea m =>
    if 0 < p.mutex then some { p with mutex := p.mutex - 1, controlador := .seccion m } else none
  | .seccion m =>
    if m.iniciarCheckin then
      some { p.iniciarCheckin m.numVuelo with controlador := .buscaIntercargo m }
    else
      match p.cerrarCheckin with
      | (p, some cantidad) =>
        some { p with cantCheckin := cantidad, controlador := .cargaEquipajes m }
      | (p, none) => some { p with controlador := .excepcion }
  | .buscaIntercargo m =>
    some { p with
      cantIntercargo := obtenerCantidadEquipajeIntercargo m.numVuelo archivo
      controlador := .recibe }
  | .cargaEquipajes m =>
    some { p with
      historia := p.historia ++ [.avisa m.numZona (p.cantCheckin + p.cantIntercargo)]
      controlador := .recibe }
  | .excepcion => none

/-- A step of `puesto_checkin` after the arrival of a passenger. -/
def pasoPuesto (p : Puesto) : Option Puesto :=
  match p.puesto with
  | .espera => none
  | .bloquea vuelo equipajes =>
    if 0 < p.mutex then some { p with mutex := p.mutex - 1, puesto := .consulta vuelo equipajes }
    else none
  | .consulta vuelo equipajes =>
    -- get_vuelo_actual throws at a desk without flight
    if p.numVuelo ≠ -1 ∧ p.numVuelo = vuelo then some { p with puesto := .registra vuelo equipajes }
    else some { p with puesto := .fin }
  | .registra _ 0 => some { p with puesto := .fin }
  | .registra vuelo (equipajes + 1) =>
    if p.numVuelo = -1 then some { p with puesto := .fin }
    else
      some { p with
        cantEquipajes := p.cantEquipajes + 1
        puesto := .registra vuelo equipajes
        historia := p.historia ++ [.equipaje vuelo] }
  | .fin => some { p with mutex := p.mutex + 1, puesto := .espera }

/-- `controlador_de_vuelo` with its desk and its zone: which call comes next. -/
inductive PcVuelo where
  | pidePuesto
  | pideZona (d : Nat)
  | inicia (d z : Nat)
  | cierra (d z : Nat)
  | libera (d z : Nat)
  | termino (z : Nat)

def PcVuelo.puesto : PcVuelo → Option Nat
  | .pideZona d | .inicia d _ | .cierra d _ | .libera d _ => some d
  | _ => none

def PcVuelo.zona : PcVuelo → Option Nat
  | .inicia _ z | .cierra _ z | .libera _ z | .termino z => some z
  | _ => none

structure Estado where
  pool : List Nat
  puesto : Nat → Puesto
  vuelo : Nat → PcVuelo

inductive Evento where
  | arrancar (d : Nat)
  | controlador (d : Nat)
  | recibirPasajero (d : Nat) (vuelo : Int) (equipajes : Nat)
  | puesto (d : Nat)
  | pedirPuesto (v : Nat)
  | pedirZona (v z : Nat)
  | iniciarCheckin (v : Nat)
  | cerrarCheckin (v : Nat)
  | liberarPuesto (v : Nat)

def Puesto.inicial : Puesto where
  arrancado := false
  mutex := 1
  numVuelo := -1
  cantEquipajes := 0
  cola := []
  controlador := .recibe
  cantIntercargo := 0
  cantCheckin := 0
  puesto := .espera
  historia := []

def inicial : Estado := ⟨[], fun _ => .inicial, fun _ => .pidePuesto⟩

namespace Estado

def conPuesto (s : Estado) (d : Nat) (p : Puesto) : Estado :=
  { s with puesto := Function.update s.puesto d p }

def conVuelo (s : Estado) (v : Nat) (pc : PcVuelo) : Estado :=
  { s with vuelo := Function.update s.vuelo v pc }

/-- `enviar_mensaje_to_checkin`. -/
def enviarMensajeToCheckin (s : Estado) (d : Nat) (m : MensajeCheckin) : Estado :=
  s.conPuesto d { s.puesto d with cola := (s.puesto d).cola ++ [m] }

end Estado

def paso (archivo : Archivo) (s : Estado) : Evento → Option Estado
  | .arrancar d =>
    -- the constructor of the desk puts it in the pool
    if (s.puesto d).arrancado then none
    else some { s.conPuesto d { s.puesto d with arrancado := true } with pool := s.pool ++ [d] }
  | .controlador d =>
    if (s.puesto d).arrancado then (pasoControlador archivo (s.puesto d)).map (s.conPuesto d)
    else none
  | .recibirPasajero d vuelo equipajes =>
    match (s.puesto d).arrancado, (s.puesto d).puesto with
    | true, .espera => some (s.conPuesto d { s.puesto d with puesto := .bloquea vuelo equipajes })
    | _, _ => none
  | .puesto d => (pasoPuesto (s.puesto d)).map (s.conPuesto d)
  | .pedirPuesto v =>
    match s.vuelo v, s.pool with
    | .pidePuesto, d :: pool => some { s.conVuelo v (.pideZona d) with pool := pool }
    | _, _ => none
  | .pedirZona v z =>
    match s.vuelo v with
    | .pideZona d => some (s.conVuelo v (.inicia d z))
    | _ => none
  | .iniciarCheckin v =>
    match s.vuelo v with
    | .inicia d z => some ((s.enviarMensajeToCheckin d ⟨true, v, z⟩).conVuelo v (.cierra d z))
    | _ => none
  | .cerrarCheckin v =>
    match s.vuelo v with
    | .cierra d z => some ((s.enviarMensajeToCheckin d ⟨false, v, z⟩).conVuelo v (.libera d z))
    | _ => none
  | .liberarPuesto v =>
    match s.vuelo v with
    | .libera d z => some { s.conVuelo v (.termino z) with pool := s.pool ++ [d] }
    | _ => none

end PuestoCheckin
