import Aeropuerto.Cintas.CintaCarga

/-!
# The loading robot of a zone (`processes/robot_carga.cpp`)

The robot, `control_carga_contenedores`, `robot_despacho` and the flights that use the zone.  They
communicate through the container belt, the queue `Q_ZONAS` of free zones, of which the model keeps
the messages for this zone, and the queue `cola_aviso_carga` from the check-in desks to the control.
A step of the robot or of the control is one call of the API or one operation on a semaphore.  Loading
into containers, logging and the assignment table of the tower do not feed back and are left out.
-/

namespace RobotCarga

open Ejecucion CintaCarga

/-- What the robot reads of the `Rfid` of a bag. -/
structure Equipaje where
  rfid : Int
  numeroDeVueloDestino : Nat

/-- The default constructor, which `sacar_equipaje` returns for a close. -/
def Equipaje.vacio : Equipaje := ⟨0, 0⟩

/-- `MENSAJE_CHECKIN_CERRADO`, with the flight whose check-in desk sent it. -/
structure MensajeCheckinCerrado where
  cantidadEquipajeTotal : Int
  vuelo : Nat

/-- `controlador_de_vuelo`, up to the message its check-in desk sends to the zone. -/
inductive PcVuelo where
  | sinZona
  | conZona
  -- the check-in desk has been told to close
  | cerrando
  | avisado

inductive PcControl where
  -- the constructor of ApiCarga
  | arranque
  | esperaAviso
  | avisa (mensaje : MensajeCheckinCerrado)

inductive PcRobot where
  | arranque
  -- the condition of the inner loop
  | lazo
  | espera
  | seccion
  -- back from sacar_equipaje
  | evalua (equipaje : Equipaje)
  | leeTotal
  | desasigna
  | envia
  | libera
  | comienza

/-- The local variables of `main` that each turn of its outer loop resets. -/
structure Locales where
  checkinCerro : Bool
  equipajesCargados : Int
  equipajesPorCargar : Int

def Locales.iniciales : Locales := ⟨false, 0, 0⟩

/-- `cierre` is the flight whose close the belt carries; `visto` and `leido` are the flights whose
    close it carried when `sacar_equipaje` returned the dummy and when the total was read. -/
structure Estado where
  cinta : Compartido Equipaje
  yaMeDesperto : Bool
  robot : PcRobot
  locales : Locales
  -- of main too: the flight of the last bag loaded
  numeroDeVuelo : Nat
  control : PcControl
  despacho : PcProductor Equipaje
  zonasLibres : Nat
  colaAviso : List MensajeCheckinCerrado
  vuelo : Nat → PcVuelo
  cierre : Option Nat
  visto : Option Nat
  leido : Option Nat

inductive Evento where
  | robot
  | control
  | ponerEquipaje (equipaje : Equipaje)
  | waitDespacho
  | seccionDespacho
  | pedirZona (v : Nat)
  | cerrarCheckin (v : Nat)
  | cargarEquipajes (v : Nat) (total : Int)

/-- The containers belt of the zone with capacity `N`; nobody has started, and `numero_de_vuelo` has
    no value yet. -/
def inicial (N M : Nat) (ranura : Nat → Equipaje) (numeroDeVuelo : Nat) : Estado where
  cinta := (CintaCarga.inicial N M ranura).compartido
  yaMeDesperto := false
  robot := .arranque
  locales := .iniciales
  numeroDeVuelo := numeroDeVuelo
  control := .arranque
  despacho := .reposo
  zonasLibres := 0
  colaAviso := []
  vuelo := fun _ => .sinZona
  cierre := none
  visto := none
  leido := none

/-- The robot back from `sacar_equipaje`: load the luggage, and on the first sight of the close go on
    to read the total. -/
def evaluar (s : Estado) (equipaje : Equipaje) : Estado :=
  -- a bag whose rfid is 0 is taken for the dummy
  let s := if equipaje.rfid = 0 then s else { s with
    numeroDeVuelo := equipaje.numeroDeVueloDestino
    locales.equipajesCargados := s.locales.equipajesCargados + 1 }
  if s.locales.checkinCerro = false ∧ s.yaMeDesperto = true then
    { s with locales.checkinCerro := true, robot := .leeTotal }
  else { s with robot := .lazo }

/-- The step of the robot with `id_robot = z + 1`. -/
def pasoRobot (z : Nat) (s : Estado) : Option Estado :=
  match s.robot with
  | .arranque => some { s with zonasLibres := s.zonasLibres + 1, robot := .lazo }
  | .lazo =>
    if s.locales.checkinCerro = false ∨
        s.locales.equipajesCargados < s.locales.equipajesPorCargar then
      some { s with robot := .espera }
    else some { s with robot := .desasigna }
  | .espera =>
    match s.cinta.consumidores.waitOn z with
    | some consumidores =>
      some { s with cinta.consumidores := consumidores, robot := .seccion }
    | none => none
  | .seccion =>
    match s.cinta.seccionSacar s.yaMeDesperto (z + 1) with
    | (cinta, yaMeDesperto, .equipaje equipaje) =>
      some { s with
        cinta := cinta, yaMeDesperto := yaMeDesperto, robot := .evalua equipaje }
    | (cinta, yaMeDesperto, .dummy) =>
      some { s with
        cinta := cinta, yaMeDesperto := yaMeDesperto, robot := .evalua .vacio, visto := s.cierre }
    | (cinta, yaMeDesperto, .nada) =>
      some { s with cinta := cinta, yaMeDesperto := yaMeDesperto, robot := .espera }
  | .evalua equipaje => some (evaluar s equipaje)
  | .leeTotal =>
    some { s with
      locales.equipajesPorCargar := s.cinta.cantidadValijasTotales s.yaMeDesperto
      robot := .lazo
      leido := s.cierre }
  | .desasigna => some { s with robot := .envia }
  | .envia => some { s with robot := .libera }
  | .libera => some { s with zonasLibres := s.zonasLibres + 1, robot := .comienza }
  | .comienza =>
    -- the next turn of the outer loop starts with its variables reset
    some { s with
      cinta := s.cinta.comenzarNuevaCarga
      yaMeDesperto := false
      locales := .iniciales
      robot := .lazo
      cierre := none
      visto := none
      leido := none }

def pasoControl (s : Estado) : Option Estado :=
  match s.control with
  | .arranque => some { s with zonasLibres := s.zonasLibres + 1, control := .esperaAviso }
  | .esperaAviso =>
    match s.colaAviso with
    | mensaje :: cola => some { s with colaAviso := cola, control := .avisa mensaje }
    | [] => none
  | .avisa mensaje =>
    some { s with
      cinta := s.cinta.avisarCierreDeCheckin mensaje.cantidadEquipajeTotal
      control := .esperaAviso
      cierre := some mensaje.vuelo }

def paso (z : Nat) (s : Estado) : Evento → Option Estado
  | .robot => pasoRobot z s
  | .control => pasoControl s
  | .ponerEquipaje equipaje =>
    match s.despacho with
    | .reposo => some { s with despacho := .espera equipaje }
    | _ => none
  | .waitDespacho =>
    match s.despacho, s.cinta.productores.waitOn z with
    | .espera equipaje, some productores =>
      some { s with cinta.productores := productores, despacho := .seccion equipaje }
    | _, _ => none
  | .seccionDespacho =>
    match s.despacho with
    | .seccion equipaje =>
      let (b, coloque) := s.cinta.toBanda.seccionPoner equipaje (z + 1)
      some { s with
        cinta.toBanda := b
        despacho := if coloque then .reposo else .espera equipaje }
    | _ => none
  | .pedirZona v =>
    match s.vuelo v with
    | .sinZona =>
      if 0 < s.zonasLibres then
        some { s with
          zonasLibres := s.zonasLibres - 1
          vuelo := Function.update s.vuelo v .conZona }
      else none
    | _ => none
  | .cerrarCheckin v =>
    match s.vuelo v with
    | .conZona => some { s with vuelo := Function.update s.vuelo v .cerrando }
    | _ => none
  | .cargarEquipajes v total =>
    match s.vuelo v with
    | .cerrando =>
      some { s with
        colaAviso := s.colaAviso ++ [⟨total, v⟩]
        vuelo := Function.update s.vuelo v .avisado }
    | _ => none

end RobotCarga
