import Aeropuerto.Biblioteca.ColaDeMensajes
import Aeropuerto.Biblioteca.Ejecucion
import Aeropuerto.Biblioteca.Multimapa

/-!
# Transfer luggage (`generador_vuelos_trasbordo.cpp`, `controlador_equipaje_intercargo.cpp`)

The generator reads the flights that arrive and, for each connection of one, launches the loader of the
destination the first time and sends it a notice; a loader puts the bags of the flights that it is told of
until its table is empty.  The files are given as what is read of them.
-/

namespace Trasbordo

open ColaDeMensajes Ejecucion Multimapa

variable {ε : Type}

/-- `vuelos_interconexion` and, for each destination, `equipaje_destino_%d.csv`. -/
structure Archivos (ε : Type) where
  interconexion : List (Int × Int)
  equipajes : Int → List (Int × ε)

inductive Generador where
  | leyendo
  -- in the for over the connections of a flight
  | informando (entrante : Int) (resto : List Int)
  | pausa
  -- an exception, caught in main
  | excepcion
  -- sprintf wrote past id_vuelo_destino
  | fuera
  deriving DecidableEq

inductive Fase (ε : Type) where
  -- in esperar_zona_asignada
  | zona
  -- at the while
  | esperando (idAeropuerto : Int)
  -- in the for over the bags of a flight
  | cargando (idAeropuerto entrante : Int) (resto : List ε)
  | fin

/-- A process `controlador_equipaje_intercargo`. -/
structure Cargador (ε : Type) where
  destino : Int
  fase : Fase ε
  equipajesACargar : List (Int × ε)

/-- A bag that a loader has sent. -/
structure Puesto (ε : Type) where
  idAeropuerto : Int
  destino : Int
  origen : Int
  equipaje : ε

structure Estado (ε : Type) where
  generador : Generador
  vuelosInterconexion : List (Int × Int)
  vuelosLanzados : List Int
  -- what the file of arrivals still has, and the flights that have been read
  llegadas : List Int
  llegaron : List Int
  cargadores : List (Cargador ε)
  -- cola_cargadores_equipaje, and the notices (destination, flight) that have been sent to it
  cola : Cola Int
  avisos : List (Int × Int)
  cinta : List (Puesto ε)

inductive Evento where
  | generador
  -- a zone is assigned to the flight of a loader, in an airport
  | zonaAsignada (i : Nat) (idAeropuerto : Int)
  | cargador (i : Nat)

def inicial (A : Archivos ε) (llegadas : List Int) : Estado ε where
  generador := .leyendo
  vuelosInterconexion := A.interconexion
  vuelosLanzados := []
  llegadas := llegadas
  llegaron := []
  cargadores := []
  cola := []
  avisos := []
  cinta := []

/-- The text of the number and its final zero fit in `id_vuelo_destino[10]`. -/
def Cabe (destino : Int) : Prop := -10 ^ 8 < destino ∧ destino < 10 ^ 9

instance (destino : Int) : Decidable (Cabe destino) := inferInstanceAs (Decidable (_ ∧ _))

def pasoGenerador (A : Archivos ε) (s : Estado ε) : Option (Estado ε) :=
  match s.generador with
  | .leyendo =>
    match s.llegadas with
    | [] => some { s with generador := .pausa }
    | e :: es =>
      some { s with llegadas := es, llegaron := s.llegaron ++ [e],
                    generador := .informando e (rango e s.vuelosInterconexion) }
  | .informando e [] =>
    some { s with vuelosInterconexion := erase e s.vuelosInterconexion, generador := .leyendo }
  | .informando e (d :: ds) =>
    if d ∈ s.vuelosLanzados then
      -- informar_vuelo_entrante
      match msgsnd s.cola d [e] with
      | .ok cola => some { s with cola := cola, avisos := s.avisos ++ [(d, e)], generador := .informando e ds }
      | .error _ => some { s with generador := .excepcion }
    else if Cabe d then
      some { s with vuelosLanzados := d :: s.vuelosLanzados,
                    cargadores := s.cargadores ++ [⟨d, .zona, A.equipajes d⟩] }
    else some { s with generador := .fuera }
  | _ => none

/-- The messages of the queue have one number. -/
def pasoCargador (s : Estado ε) (i : Nat) (c : Cargador ε) : Option (Estado ε) :=
  match c.fase with
  | .esperando id =>
    match c.equipajesACargar with
    | [] => some { s with cargadores := s.cargadores.set i { c with fase := .fin } }
    | _ :: _ =>
      match msgrcv s.cola 1 c.destino with
      | .ok (m, cola) =>
        let e := m.texto.headD 0
        some { s with cola := cola,
                      cargadores := s.cargadores.set i
                        { c with fase := .cargando id e (rango e c.equipajesACargar) } }
      | .error _ => none
  | .cargando id e (b :: bs) =>
    some { s with cinta := s.cinta ++ [⟨id, c.destino, e, b⟩],
                  cargadores := s.cargadores.set i { c with fase := .cargando id e bs } }
  | .cargando id e [] =>
    some { s with cargadores := s.cargadores.set i
                    { c with fase := .esperando id, equipajesACargar := erase e c.equipajesACargar } }
  | _ => none

def paso (A : Archivos ε) (s : Estado ε) : Evento → Option (Estado ε)
  | .generador => pasoGenerador A s
  | .zonaAsignada i idAeropuerto =>
    match s.cargadores[i]? with
    | some c =>
      match c.fase with
      | .zona =>
        -- the airports are numbered from 1
        if 1 ≤ idAeropuerto then
          some { s with cargadores := s.cargadores.set i { c with fase := .esperando idAeropuerto } }
        else none
      | _ => none
    | none => none
  | .cargador i =>
    match s.cargadores[i]? with
    | some c => pasoCargador s i c
    | none => none

/-- The bags of a flight to a destination that have been put, in order. -/
def puestos (s : Estado ε) (destino origen : Int) : List ε :=
  (s.cinta.filter fun x => x.destino = destino ∧ x.origen = origen).map Puesto.equipaje

/-- The destinations are types of messages and fit where they are written. -/
def Archivos.Valido (A : Archivos ε) : Prop := ∀ p ∈ A.interconexion, 1 ≤ p.2 ∧ Cabe p.2

/-- A bag from a flight to a destination occurs only if the pair is listed. -/
def Archivos.Conectado (A : Archivos ε) : Prop :=
  ∀ d, ∀ p ∈ A.equipajes d, (p.1, d) ∈ A.interconexion

end Trasbordo
