import Aeropuerto.Cintas.CintaPrincipal

/-!
# The robots of the central belt

`processes/robot_despacho.cpp`, `processes/robot_control_equipaje_sospechoso.cpp` and
`processes/control_equipaje_sospechoso.cpp` over `api/api_despachante.cpp` and
`api/api_control_equipajes.cpp`.  The consumers of the central belt are the robots of despacho and, the
last one, the robot of control; the control itself is a producer.  A call on the central belt that may
block is two steps, the call and its return, and the belt moves in between by its own steps.  The
container belts and the queue of the control are FIFOs.
-/

namespace Despacho

open Ejecucion

/-- `Rfid` and `Equipaje`, as far as the robots look at them. -/
structure Equipaje where
  rfid : Int
  numeroDeVueloDestino : Int
  sospechoso : Bool
  deriving DecidableEq

/-- Extracted by a consumer of the central belt, looked up by the robot of control, cleared by the
    control, put on the container belt of a zone. -/
inductive Suceso where
  | extraido (j : Nat)
  | consultado (zona : Int)
  | controlado
  | colocado (zona : Int)
  deriving DecidableEq

/-- A bag; `numero` is its place in the order of arrival and `camino` what has happened to it since, and
    no process reads them. -/
structure Valija where
  equipaje : Equipaje
  numero : Nat
  camino : List Suceso
  deriving DecidableEq

namespace Valija

def anotar (v : Valija) (x : Suceso) : Valija := { v with camino := v.camino ++ [x] }

/-- `Equipaje()`. -/
def vacia : Valija := ⟨⟨0, 0, false⟩, 0, []⟩

/-- The control clears the bag. -/
def limpiar (v : Valija) : Valija :=
  { v with equipaje := { v.equipaje with sospechoso := false } }.anotar .controlado

end Valija

structure ApiDespachante where
  ultimoEquipajeLeido : Valija
  sacoElemento : Bool

inductive PcDespacho where
  -- leer_proximo_equipaje, up to the call of leer_elemento
  | lee
  -- in leer_elemento
  | leyendo
  -- get_zona
  | consulta
  | avanza
  | extrae (numZona : Int)
  -- poner_equipaje
  | coloca (equipaje : Valija) (numZona : Int)

structure Despachante where
  pc : PcDespacho
  api : ApiDespachante

inductive PcRobotControl where
  | lee
  | leyendo
  | extrae (e : Valija)
  -- get_zona
  | consulta (e : Valija)
  -- enviar_equipaje_a_control
  | envia (e : Valija)

inductive PcControl where
  -- get_equipaje_a_controlar
  | recibe
  | limpia (e : Valija)
  -- in colocar_elemento
  | coloca

/-- Robot `j` of despacho has `id_robot = j + 1`; `productorControl` is `MAX_SCANNERS`. -/
structure Parametros where
  capacidad : Nat
  productores : Nat
  despachantes : Nat
  zonaDesde : Nat → Int
  zonaHasta : Nat → Int
  productorControl : Nat
  hayLugar : 1 ≤ capacidad

namespace Parametros

/-- `CANTIDAD_MAX_CONSUMIDORES_CINTA_CENTRAL`; the last one is the robot of control. -/
def consumidores (P : Parametros) : Nat := P.despachantes + 1

/-- The vector `cintas_contenedor` of robot `j`. -/
def cintasContenedor (P : Parametros) (j : Nat) : List Int :=
  (List.range (P.zonaHasta j + 1 - P.zonaDesde j).toNat).map fun i : Nat => P.zonaDesde j + i

end Parametros

/-- `entradas` are the bags that the other producers have brought, in order. -/
structure Estado where
  cinta : CintaPrincipal.Estado Valija
  despachante : Nat → Despachante
  robotControl : PcRobotControl
  cola : List Valija
  control : PcControl
  contenedor : Int → List Valija
  descartados : List Valija
  entradas : List Equipaje

/-- A lookup takes the zone that the control tower answers. -/
inductive Evento where
  | cinta (e : CintaPrincipal.Evento Valija)
  | pone (i : Nat) (equipaje : Equipaje)
  | despacho (j : Nat) (numZona : Int)
  | robotControl (numZona : Int)
  | control

def inicial (P : Parametros) : Estado where
  cinta := CintaPrincipal.inicial P.capacidad P.productores P.consumidores fun _ => .vacia
  despachante := fun _ => { pc := .lee, api := { ultimoEquipajeLeido := .vacia, sacoElemento := true } }
  robotControl := .lee
  cola := []
  control := .recibe
  contenedor := fun _ => []
  descartados := []
  entradas := []

def Estado.cintaPaso (P : Parametros) (s : Estado) (e : CintaPrincipal.Evento Valija) :
    Option (CintaPrincipal.Estado Valija) :=
  CintaPrincipal.paso P.productores P.consumidores s.cinta e

def Estado.irDespachante (s : Estado) (j : Nat) (d : Despachante) : Estado :=
  { s with despachante := Function.update s.despachante j d }

/-- What a robot does with the bag that it has read. -/
def decidir (P : Parametros) (j : Nat) (rfid : Equipaje) (numZona : Int) : PcDespacho :=
  if rfid.sospechoso then .avanza
  else if numZona = -1 ∨ numZona < P.zonaDesde j ∨ numZona > P.zonaHasta j then .avanza
  else .extrae numZona

def pasoDespacho (P : Parametros) (s : Estado) (j : Nat) (numZona : Int) : Option Estado :=
  let d := s.despachante j
  match d.pc with
  | .lee =>
    -- the element of the last read has to be advanced or extracted first
    if d.api.sacoElemento then
      (s.cintaPaso P (.leerElemento j)).map fun cinta =>
        { s with cinta := cinta }.irDespachante j { d with pc := .leyendo }
    else
      (s.cintaPaso P (.avanzarCinta j)).map fun cinta =>
        { s with cinta := cinta }.irDespachante j { d with api := { d.api with sacoElemento := true } }
  | .leyendo =>
    match s.cinta.consumidor j with
    | .leido v =>
      some (s.irDespachante j
        { pc := .consulta, api := { ultimoEquipajeLeido := v, sacoElemento := false } })
    | _ => none
  | .consulta =>
    some (s.irDespachante j
      { d with pc := decidir P j d.api.ultimoEquipajeLeido.equipaje numZona })
  | .avanza =>
    if d.api.sacoElemento then some (s.irDespachante j { d with pc := .lee })
    else
      (s.cintaPaso P (.avanzarCinta j)).map fun cinta =>
        { s with cinta := cinta }.irDespachante j
          { pc := .lee, api := { d.api with sacoElemento := true } }
  | .extrae zona =>
    (s.cintaPaso P (.extraerElemento j)).map fun cinta =>
      { s with cinta := cinta }.irDespachante j
        { pc := .coloca (d.api.ultimoEquipajeLeido.anotar (.extraido j)) zona
          api := { d.api with sacoElemento := true } }
  | .coloca v zona =>
    -- cintas_contenedor[num_zona - zona_desde]; out of the vector there is nothing to model
    (P.cintasContenedor j)[(zona - P.zonaDesde j).toNat]?.map fun z =>
      { s with
        contenedor :=
          Function.update s.contenedor z (s.contenedor z ++ [v.anotar (.colocado z)]) }.irDespachante
        j { d with pc := .lee }

def pasoRobotControl (P : Parametros) (s : Estado) (numZona : Int) : Option Estado :=
  match s.robotControl with
  | .lee =>
    (s.cintaPaso P (.leerElemento P.despachantes)).map fun cinta =>
      { s with cinta := cinta, robotControl := .leyendo }
  | .leyendo =>
    match s.cinta.consumidor P.despachantes with
    | .leido v => some { s with robotControl := .extrae v }
    | _ => none
  | .extrae v =>
    (s.cintaPaso P (.extraerElemento P.despachantes)).map fun cinta =>
      { s with cinta := cinta, robotControl := .consulta (v.anotar (.extraido P.despachantes)) }
  | .consulta v =>
    let v := v.anotar (.consultado numZona)
    if v.equipaje.rfid ≠ 0 ∧ numZona ≠ -1 then some { s with robotControl := .envia v }
    else some { s with robotControl := .lee, descartados := s.descartados ++ [v] }
  | .envia v => some { s with robotControl := .lee, cola := s.cola ++ [v] }

def pasoControl (P : Parametros) (s : Estado) : Option Estado :=
  match s.control with
  | .recibe =>
    match s.cola with
    | v :: cola => some { s with cola := cola, control := .limpia v }
    | [] => none
  | .limpia v =>
    (s.cintaPaso P (.colocarElemento P.productorControl v.limpiar)).map fun cinta =>
      { s with cinta := cinta, control := .coloca }
  | .coloca =>
    match s.cinta.productor P.productorControl with
    | .reposo => some { s with control := .recibe }
    | _ => none

def paso (P : Parametros) (s : Estado) : Evento → Option Estado
  | .cinta e =>
    if e.interno then (s.cintaPaso P e).map fun cinta => { s with cinta := cinta } else none
  | .pone i equipaje =>
    -- a scanner or the robot of intercargo, with any bag
    if i ≠ P.productorControl ∧ equipaje.rfid ≠ 0 then
      (s.cintaPaso P (.colocarElemento i ⟨equipaje, s.entradas.length, []⟩)).map fun cinta =>
        { s with cinta := cinta, entradas := s.entradas ++ [equipaje] }
    else none
  | .despacho j numZona => if j < P.despachantes then pasoDespacho P s j numZona else none
  | .robotControl numZona => pasoRobotControl P s numZona
  | .control => pasoControl P s

/-! ## Where the bags are -/

/-- The hands of a robot are those of a producer that puts a bag on the central belt, of a robot of
    despacho, of the robot of control and of the control before it puts the bag back. -/
inductive Lugar where
  | central
  | productor (i : Nat)
  | despachante (j : Nat)
  | robotControl
  | cola
  | control
  | contenedor (zona : Int)
  | descarte
  deriving DecidableEq

def PcDespacho.manos : PcDespacho → List Valija
  | .coloca v _ => [v]
  | _ => []

def PcRobotControl.manos : PcRobotControl → List Valija
  | .consulta v | .envia v => [v]
  | _ => []

def PcControl.manos : PcControl → List Valija
  | .limpia v => [v]
  | _ => []

def Estado.en (s : Estado) : Lugar → List Valija
  | .central => s.cinta.compartido.anillo.contenido
  | .productor i => (s.cinta.productor i).manos
  | .despachante j => (s.despachante j).pc.manos
  | .robotControl => s.robotControl.manos
  | .cola => s.cola
  | .control => s.control.manos
  | .contenedor z => s.contenedor z
  | .descarte => s.descartados

/-- What has become of the bag that came as `e`. -/
def Valija.Viene (v : Valija) (e : Equipaje) : Prop :=
  v.equipaje = { e with sospechoso := e.sospechoso && !decide (.controlado ∈ v.camino) }

/-- The bags that have come are where they have to be. -/
structure Conserva (P : Parametros) (s : Estado) : Prop where
  unLugar : ∀ n < s.entradas.length, ∃! l, n ∈ (s.en l).map Valija.numero
  unaVez : ∀ l, ((s.en l).map Valija.numero).Nodup
  viene : ∀ l, ∀ v ∈ s.en l, ∃ e, s.entradas[v.numero]? = some e ∧ e.rfid ≠ 0 ∧ v.Viene e
  contenedor : ∀ z, ∀ v ∈ s.en (.contenedor z), v.equipaje.sospechoso = false ∧
    ∃ j camino, j < P.despachantes ∧ P.zonaDesde j ≤ z ∧ z ≤ P.zonaHasta j ∧
      v.camino = camino ++ [.extraido j, .colocado z]
  descarte : ∀ v ∈ s.en .descarte,
    ∃ camino, v.camino = camino ++ [.extraido P.despachantes, .consultado (-1)]
  controlado : ∀ z, ∀ v ∈ s.en (.contenedor z), ∀ e, s.entradas[v.numero]? = some e →
    e.sospechoso = true → .controlado ∈ v.camino

end Despacho
