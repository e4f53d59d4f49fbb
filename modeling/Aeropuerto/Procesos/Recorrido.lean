import Aeropuerto.Cintas.Traslados
import Aeropuerto.Procesos.Despacho

/-!
# From the check-in to the container belts

`processes/robot_checkin.cpp`, `processes/robot_scanner.cpp` and `processes/robot_intercargo.cpp` between
the belts: the desks put on the check-in belt, `robot_checkin` distributes over the belts of the scanners,
each `robot_scanner` and the robot of intercargo put on the central belt, and from there the robots of
`Despacho` go on.  A call that may block is two steps, the call and its return; the belts move in between
by their own steps.  `registrar_equipaje` and `enviar_equipaje_intercargo` bring the bags, which all have
a tag.
-/

namespace Recorrido

open Ejecucion Despacho

/-- A bag; `numero` is its place in the order of arrival, and no process reads it. -/
structure Bulto where
  equipaje : Equipaje
  numero : Nat
  deriving DecidableEq

namespace Bulto

/-- `Equipaje()`. -/
def vacio : Bulto := ⟨⟨0, 0, false⟩, 0⟩

def setSospechoso (b : Bulto) (sospechoso : Bool) : Bulto :=
  { b with equipaje := { b.equipaje with sospechoso := sospechoso } }

end Bulto

inductive PcRobotCheckin where
  | saca
  -- in sacar_equipaje
  | sacando
  | pone (equipaje : Bulto)
  -- in poner_equipaje
  | poniendo

inductive PcRobotScanner where
  -- the constructor of CintaScanner
  | construye
  | construyendo
  | saca
  | sacando
  | escanea (equipaje : Bulto)
  -- colocar_equipaje_en_cinta_principal
  | coloca (equipaje : Bulto)
  | colocando

inductive PcRobotIntercargo where
  -- get_proximo_equipaje_intercargo
  | recibe
  -- poner_en_cinta_principal
  | pone (equipaje : Bulto)
  | poniendo

/-- Desk `d` is `id_checkin = d + 1` and scanner `i` is `id_robot = i + 1`. -/
structure Parametros where
  capacidadCheckin : Nat
  puestos : Nat
  capacidadScanner : Nat
  maxScanners : Nat
  capacidadCentral : Nat
  despachantes : Nat
  zonaDesde : Nat → Int
  zonaHasta : Nat → Int
  hayCheckin : 1 ≤ capacidadCheckin
  hayScanner : 1 ≤ capacidadScanner
  hayScanners : 1 ≤ maxScanners
  hayCentral : 1 ≤ capacidadCentral

/-- The producers of the central belt are the scanners, the control and the robot of intercargo. -/
def Parametros.despacho (P : Parametros) : Despacho.Parametros where
  capacidad := P.capacidadCentral
  productores := P.maxScanners + 2
  despachantes := P.despachantes
  zonaDesde := P.zonaDesde
  zonaHasta := P.zonaHasta
  productorControl := P.maxScanners
  hayLugar := P.hayCentral

/-- `llegadas` are the bags that have come, in order, and `entregas` what has been brought to the central
    belt, each with its producer. -/
structure Estado where
  checkin : Cinta.Estado Bulto
  robotCheckin : PcRobotCheckin
  scanner : CintaScanner.Estado Bulto
  robotScanner : Nat → PcRobotScanner
  colaIntercargo : List Bulto
  robotIntercargo : PcRobotIntercargo
  despacho : Despacho.Estado
  llegadas : List Equipaje
  entregas : List (Nat × Bulto)

/-- `checkin`, `scanner` and `despacho` are the steps of the belts, and `despacho` also those of the robots
    of the central belt; a scanner finds what it finds. -/
inductive Evento where
  | registrarEquipaje (d : Nat) (equipaje : Equipaje)
  | enviarEquipajeIntercargo (equipaje : Equipaje)
  | checkin (e : Cinta.Evento Bulto)
  | robotCheckin
  | scanner (e : CintaScanner.Evento Bulto)
  | robotScanner (i : Nat) (sospechoso : Bool)
  | robotIntercargo
  | despacho (e : Despacho.Evento)

def inicial (P : Parametros) : Estado where
  checkin := Cinta.inicial P.capacidadCheckin P.puestos fun _ => .vacio
  robotCheckin := .saca
  scanner := CintaScanner.inicial P.capacidadScanner fun _ => .vacio
  robotScanner := fun _ => .construye
  colaIntercargo := []
  robotIntercargo := .recibe
  despacho := Despacho.inicial P.despacho
  llegadas := []
  entregas := []

/-! ## The calls -/

def Estado.checkinPaso (P : Parametros) (s : Estado) (e : Cinta.Evento Bulto) :
    Option (Cinta.Estado Bulto) :=
  Cinta.paso P.puestos 1 s.checkin e

def Estado.scannerPaso (P : Parametros) (s : Estado) (e : CintaScanner.Evento Bulto) :
    Option (CintaScanner.Estado Bulto) :=
  CintaScanner.paso P.maxScanners s.scanner e

/-- `colocar_elemento` of a producer of the central belt that is not the control. -/
def Estado.colocarElemento (P : Parametros) (s : Estado) (i : Nat) (b : Bulto) : Option Estado :=
  (Despacho.paso P.despacho s.despacho (.pone i b.equipaje)).map fun despacho =>
    { s with despacho := despacho, entregas := s.entregas ++ [(i, b)] }

def Estado.irScanner (s : Estado) (i : Nat) (pc : PcRobotScanner) : Estado :=
  { s with robotScanner := Function.update s.robotScanner i pc }

/-! ## The processes -/

def pasoRobotCheckin (P : Parametros) (s : Estado) : Option Estado :=
  match s.robotCheckin with
  | .saca =>
    (s.checkinPaso P (.sacarEquipaje 0)).map fun checkin =>
      { s with checkin := checkin, robotCheckin := .sacando }
  | .sacando => none
  | .pone b =>
    (s.scannerPaso P (.ponerEquipaje b)).map fun scanner =>
      { s with scanner := scanner, robotCheckin := .poniendo }
  | .poniendo =>
    match s.scanner.productor with
    | .reposo => some { s with robotCheckin := .saca }
    | _ => none

def pasoRobotScanner (P : Parametros) (s : Estado) (i : Nat) (sospechoso : Bool) : Option Estado :=
  match s.robotScanner i with
  | .construye =>
    (s.scannerPaso P (.construir i)).map fun scanner =>
      { s with scanner := scanner }.irScanner i .construyendo
  | .construyendo =>
    match s.scanner.escaner i with
    | .reposo => some (s.irScanner i .saca)
    | _ => none
  | .saca =>
    (s.scannerPaso P (.sacarEquipaje i)).map fun scanner =>
      { s with scanner := scanner }.irScanner i .sacando
  | .sacando => none
  | .escanea b => some (s.irScanner i (.coloca (b.setSospechoso sospechoso)))
  | .coloca b => (s.colocarElemento P i b).map fun s => s.irScanner i .colocando
  | .colocando =>
    match s.despacho.cinta.productor i with
    | .reposo => some (s.irScanner i .saca)
    | _ => none

def pasoRobotIntercargo (P : Parametros) (s : Estado) : Option Estado :=
  match s.robotIntercargo with
  | .recibe =>
    match s.colaIntercargo with
    | b :: cola => some { s with colaIntercargo := cola, robotIntercargo := .pone b }
    | [] => none
  | .pone b =>
    (s.colocarElemento P (P.maxScanners + 1) b).map fun s => { s with robotIntercargo := .poniendo }
  | .poniendo =>
    match s.despacho.cinta.productor (P.maxScanners + 1) with
    | .reposo => some { s with robotIntercargo := .recibe }
    | _ => none

/-- A step of the check-in belt, which may return a bag to `robot_checkin`. -/
def pasoCheckin (P : Parametros) (s : Estado) (e : Cinta.Evento Bulto) : Option Estado :=
  (s.checkinPaso P e).map fun checkin =>
    match s.checkin.saca e with
    | some b => { s with checkin := checkin, robotCheckin := .pone b }
    | none => { s with checkin := checkin }

/-- A step of the producer of the scanner belts. -/
def pasoProductorScanner (P : Parametros) (s : Estado) : Option Estado :=
  (s.scannerPaso P .productor).map fun scanner => { s with scanner := scanner }

/-- A step of the belt of scanner `i`, which may return a bag to its robot. -/
def pasoEscaner (P : Parametros) (s : Estado) (i : Nat) : Option Estado :=
  (s.scannerPaso P (.escaner i)).map fun scanner =>
    match s.scanner.saca i with
    | some b => { s with scanner := scanner }.irScanner i (.escanea b)
    | none => { s with scanner := scanner }

def paso (P : Parametros) (s : Estado) : Evento → Option Estado
  | .registrarEquipaje d equipaje =>
    if equipaje.rfid ≠ 0 then
      (s.checkinPaso P (.ponerEquipaje d ⟨equipaje, s.llegadas.length⟩)).map fun checkin =>
        { s with checkin := checkin, llegadas := s.llegadas ++ [equipaje] }
    else none
  | .enviarEquipajeIntercargo equipaje =>
    if equipaje.rfid ≠ 0 then
      some { s with
        colaIntercargo := s.colaIntercargo ++ [⟨equipaje, s.llegadas.length⟩]
        llegadas := s.llegadas ++ [equipaje] }
    else none
  | .checkin e => if e.interno then pasoCheckin P s e else none
  | .robotCheckin => pasoRobotCheckin P s
  | .scanner .productor => pasoProductorScanner P s
  | .scanner (.escaner i) => pasoEscaner P s i
  | .scanner _ => none
  | .robotScanner i sospechoso =>
    if i < P.maxScanners then pasoRobotScanner P s i sospechoso else none
  | .robotIntercargo => pasoRobotIntercargo P s
  | .despacho (.pone _ _) => none
  | .despacho e => (Despacho.paso P.despacho s.despacho e).map fun despacho => { s with despacho := despacho }

/-! ## Where the bags are -/

/-- Before the central belt.  A desk and a robot have in their hands what they are about to put, a robot
    from when it took it. -/
inductive Lugar where
  | puesto (d : Nat)
  | cintaCheckin
  | robotCheckin
  | cintaScanner (i : Nat)
  | robotScanner (i : Nat)
  | colaIntercargo
  | robotIntercargo
  deriving DecidableEq

def PcRobotCheckin.manos : PcRobotCheckin → List Bulto
  | .pone b => [b]
  | _ => []

def PcRobotScanner.manos : PcRobotScanner → List Bulto
  | .escanea b | .coloca b => [b]
  | _ => []

def PcRobotIntercargo.manos : PcRobotIntercargo → List Bulto
  | .pone b => [b]
  | _ => []

/-- `none` is the place of what has been brought to the central belt. -/
def Estado.antes (s : Estado) : Option Lugar → List Bulto
  | some (.puesto d) => (s.checkin.productor d).manos
  | some .cintaCheckin => s.checkin.compartido.anillo.contenido
  | some .robotCheckin => s.robotCheckin.manos ++ s.scanner.productor.manos
  | some (.cintaScanner i) => (s.scanner.cintas i).anillo.contenido
  | some (.robotScanner i) => (s.scanner.escaner i).manos ++ (s.robotScanner i).manos
  | some .colaIntercargo => s.colaIntercargo
  | some .robotIntercargo => s.robotIntercargo.manos
  | none => s.entregas.map Prod.snd

/-- The bags at a place of the central belt with their number of arrival. -/
def Estado.despues (s : Estado) (l : Despacho.Lugar) : List (Nat × Valija) :=
  (s.despacho.en l).filterMap fun v => (s.entregas[v.numero]?).map fun x => (x.2.numero, v)

/-- The numbers of the bags at each place. -/
def Estado.numeros (s : Estado) : Lugar ⊕ Despacho.Lugar → List Nat
  | .inl l => (s.antes (some l)).map Bulto.numero
  | .inr l => (s.despues l).map Prod.fst

/-- The tag and the flight are those with which the bag came. -/
def Mismo (llegado equipaje : Equipaje) : Prop :=
  equipaje.rfid = llegado.rfid ∧ equipaje.numeroDeVueloDestino = llegado.numeroDeVueloDestino

/-- Every bag that has come is on its way or where it has to be. -/
structure Conserva (P : Parametros) (s : Estado) : Prop where
  unLugar : ∀ n < s.llegadas.length, ∃! l, n ∈ s.numeros l
  unaVez : ∀ l, (s.numeros l).Nodup
  antes : ∀ l, ∀ b ∈ s.antes (some l), ∃ e, s.llegadas[b.numero]? = some e ∧ Mismo e b.equipaje
  despues : ∀ l, ∀ x ∈ s.despues l, ∃ e, s.llegadas[x.1]? = some e ∧ Mismo e x.2.equipaje
  contenedor : ∀ z, ∀ x ∈ s.despues (.contenedor z), x.2.equipaje.sospechoso = false ∧
    ∃ j camino, j < P.despachantes ∧ P.zonaDesde j ≤ z ∧ z ≤ P.zonaHasta j ∧
      x.2.camino = camino ++ [.extraido j, .colocado z]
  sospechoso : ∀ z, ∀ x ∈ s.despues (.contenedor z), ∀ y ∈ s.entregas, y.2.numero = x.1 →
    y.2.equipaje.sospechoso = true → .controlado ∈ x.2.camino
  -- the control discards the bags for which it gets no zone
  descarte : ∀ x ∈ s.despues .descarte,
    ∃ camino, x.2.camino = camino ++ [.extraido P.despachantes, .consultado (-1)]

end Recorrido
