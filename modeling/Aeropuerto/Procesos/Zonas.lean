import Aeropuerto.Procesos.RobotCarga
import Aeropuerto.Torre.ZonasAsignadas

/-!
# The loading zones (`processes/robot_carga.cpp`, `processes/controlador_de_vuelo.cpp`)

All the zones together: each has its robot, its control and its belt, the queue `Q_ZONAS` gives the
free zones to the flights in order of arrival, and the control tower keeps the table that
`robot_despacho` reads.  Index `z` stands for zone `z + 1`, which is also the `id_robot` of its robot.
-/

namespace Zonas

open Ejecucion

/-- `enUso` are the flights that have received the zone from `pedir_zona` and whose load has not yet
    been followed by the `liberar_zona` of the robot. -/
structure Zona where
  estado : RobotCarga.Estado
  enUso : List Nat

/-- The flight whose load the robot ends is the one whose close it has seen. -/
def Zona.liberar (x : Zona) : List Nat :=
  match x.estado.visto with
  | some v => x.enUso.erase v
  | none => x.enUso

/-- A step of the zone; its `control_carga_contenedores` is launched by the robot after its own
    constructor. -/
def Zona.paso (z : Nat) (x : Zona) : RobotCarga.Evento → Option (Zona)
  | .robot =>
    (RobotCarga.pasoRobot z x.estado).map fun t =>
      ⟨t, match x.estado.robot with
        | .libera => x.liberar
        | _ => x.enUso⟩
  | .control =>
    match x.estado.robot with
    | .arranque => none
    | _ => (RobotCarga.pasoControl x.estado).map fun t => ⟨t, x.enUso⟩
  | .pedirZona v =>
    (RobotCarga.paso z x.estado (.pedirZona v)).map fun t => ⟨t, x.enUso ++ [v]⟩
  | e => (RobotCarga.paso z x.estado e).map fun t => ⟨t, x.enUso⟩

/-- `controlador_de_vuelo` before `pedir_zona`, before `registrar_zona_en_uso`, and after it. -/
inductive PcControlador where
  | pideZona
  | registra (z : Nat)
  | checkin (z : Nat)
  deriving DecidableEq

/-- `torre` is `none` once an exception has ended the server of the tower.  `enCarga` says that the
    flight has been assigned and the load that ends with its close has not yet ended. -/
structure Estado where
  zona : Nat → Zona
  qZonas : List Nat
  torre : Option ZonasAsignadas.Tabla
  controlador : Nat → PcControlador
  enCarga : Nat → Bool

inductive Evento where
  | zona (z : Nat) (e : RobotCarga.Evento)
  | asignarVuelo (v : Nat)

/-- Nobody has started; the belts have capacity `N`. -/
def inicial (N M : Nat) (ranura : Nat → RobotCarga.Equipaje) (numeroDeVuelo : Nat → Nat) :
    Estado where
  zona := fun z => ⟨RobotCarga.inicial N M ranura (numeroDeVuelo z), []⟩
  qZonas := []
  torre := some ZonasAsignadas.inicial
  controlador := fun _ => .pideZona
  enCarga := fun _ => false

def terminarCarga (enCarga : Nat → Bool) (visto : Option Nat) : Nat → Bool :=
  match visto with
  | some v => Function.update enCarga v false
  | none => enCarga

/-- What a step of zone `z` does outside of the zone; `none` where it has to wait or the call fails. -/
def efecto (s : Estado) (z : Nat) : RobotCarga.Evento → Option (Estado)
  | .robot =>
    match (s.zona z).estado.robot with
    | .arranque | .libera => some { s with qZonas := s.qZonas ++ [z] }
    | .desasigna =>
      s.torre.map fun zonas => { s with
        -- the argument is the number of the zone
        torre := some (ZonasAsignadas.desasignarVuelo zonas (z + 1))
        enCarga := terminarCarga s.enCarga (s.zona z).estado.visto }
    | _ => some s
  | .control =>
    match (s.zona z).estado.control with
    | .arranque => some { s with qZonas := s.qZonas ++ [z] }
    | _ => some s
  | .pedirZona v =>
    match s.controlador v, s.qZonas with
    | .pideZona, z' :: qZonas =>
      if z' = z then
        some { s with
          qZonas := qZonas
          controlador := Function.update s.controlador v (.registra z) }
      else none
    | _, _ => none
  | .cerrarCheckin v => if s.controlador v = .checkin z then some s else none
  | _ => some s

def paso (s : Estado) : Evento → Option (Estado)
  | .zona z e =>
    ((s.zona z).paso z e).bind fun x =>
      (efecto s z e).map fun s => { s with zona := Function.update s.zona z x }
  | .asignarVuelo v =>
    match s.controlador v, s.torre with
    | .registra z, some zonas =>
      match ZonasAsignadas.asignarVuelo zonas (z + 1) v with
      | some zonas =>
        some { s with
          torre := some zonas
          controlador := Function.update s.controlador v (.checkin z)
          enCarga := Function.update s.enCarga v true }
      | none => some { s with torre := none }
    | _, _ => none

end Zonas
