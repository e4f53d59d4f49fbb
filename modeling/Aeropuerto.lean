import Aeropuerto.Biblioteca.Ejecucion
import Aeropuerto.Biblioteca.Sumas
import Aeropuerto.Biblioteca.Anillo
import Aeropuerto.Biblioteca.Estacionamiento
import Aeropuerto.Biblioteca.Candados
import Aeropuerto.Cintas.Cinta
import Aeropuerto.Cintas.CintaSegura
import Aeropuerto.Cintas.CintaPrincipal
import Aeropuerto.Cintas.CintaPrincipalSegura
import Aeropuerto.Cintas.CintaScanner
import Aeropuerto.Cintas.CintaScannerSegura
import Aeropuerto.Cintas.CintaCarga
import Aeropuerto.Cintas.CintaCargaSegura
import Aeropuerto.Procesos.RobotCarga
import Aeropuerto.Procesos.RobotCargaSegura
import Aeropuerto.Broker.Grupo
import Aeropuerto.Broker.TokenManager
import Aeropuerto.Biblioteca.Bloques
import Aeropuerto.Clientes.MemoriaDistribuida
import Aeropuerto.Clientes.MemoriaDistribuidaSegura
import Aeropuerto.Clientes.SemaphoreSetDistribuido
import Aeropuerto.Broker.ClientHandler
import Aeropuerto.Clientes.SemaphoreSetDistribuidoSegura
import Aeropuerto.Broker.ClientHandlerSegura
import Aeropuerto.Broker.GrupoMutex
import Aeropuerto.Procesos.Tractor
import Aeropuerto.Torre.ZonasAsignadas
import Aeropuerto.Procesos.Zonas
import Aeropuerto.Procesos.ZonasSegura
import Aeropuerto.Procesos.PuestoCheckin
import Aeropuerto.Procesos.ZonasTabla
import Aeropuerto.Procesos.PuestoCheckinSegura
import Aeropuerto.Cintas.Disposicion
import Aeropuerto.Biblioteca.Flujo
import Aeropuerto.Broker.Fragmentacion
import Aeropuerto.Broker.ClientHandlerMemoria
import Aeropuerto.Broker.ClientHandlerMemoriaSegura
import Aeropuerto.Biblioteca.Reparto
import Aeropuerto.Procesos.Despacho
import Aeropuerto.Procesos.DespachoSegura
import Aeropuerto.Anillo.GroupInterface
import Aeropuerto.Broker.Regiones
import Aeropuerto.Broker.TransferenciaToken
import Aeropuerto.Broker.MessageBroker
import Aeropuerto.Broker.MessageBrokerTabla
import Aeropuerto.Broker.MessageBrokerRemoto
import Aeropuerto.Broker.EsperaGrupo
import Aeropuerto.Broker.ConsultaToken
import Aeropuerto.Biblioteca.Ronda
import Aeropuerto.Broker.ArranqueGrupo
import Aeropuerto.Broker.CreacionToken
import Aeropuerto.Anillo.EleccionLider
import Aeropuerto.Anillo.EleccionLiderSegura
import Aeropuerto.Anillo.EleccionLiderUnica
import Aeropuerto.Biblioteca.Mapa
import Aeropuerto.Procesos.Contenedores
import Aeropuerto.Broker.RecepcionToken
import Aeropuerto.Broker.TokenSemaforo
import Aeropuerto.Broker.LoopMemoria
import Aeropuerto.Biblioteca.Rotacion
import Aeropuerto.Broker.Membresia
import Aeropuerto.Broker.MessageBrokerFallas
import Aeropuerto.Torre.ApiTorreDeControlSvc
import Aeropuerto.Clientes.Reconexion
import Aeropuerto.Anillo.Beacon
import Aeropuerto.Broker.Replica
import Aeropuerto.Os.Cp
import Aeropuerto.Biblioteca.Cadenas
import Aeropuerto.Broker.InitParser
import Aeropuerto.Broker.InitParserSegura
import Aeropuerto.Broker.InicializarMemoria
import Aeropuerto.Biblioteca.Rutas
import Aeropuerto.Os.RelativizeDir
import Aeropuerto.Anillo.Passage
import Aeropuerto.Biblioteca.Multimapa
import Aeropuerto.Procesos.Trasbordo
import Aeropuerto.Procesos.TrasbordoSegura
import Aeropuerto.Procesos.CicloCarga
import Aeropuerto.Cintas.CintaScannerBaja
import Aeropuerto.Biblioteca.Tablas
import Aeropuerto.Procesos.Lectores
import Aeropuerto.Broker.GroupMultiplexer
import Aeropuerto.Broker.Lider
import Aeropuerto.Broker.ConsultaRonda
import Aeropuerto.Biblioteca.Inventario
import Aeropuerto.Cintas.Traslados
import Aeropuerto.Procesos.Recorrido
import Aeropuerto.Procesos.RecorridoSegura
import Aeropuerto.Procesos.RecorridoOrden
import Aeropuerto.Clientes.MutexDistribuido
import Aeropuerto.Clientes.MutexDistribuidoSeguro
import Aeropuerto.Clientes.MutexEnAnillo
import Aeropuerto.Clientes.MutexEnAnilloSeguro
import Aeropuerto.Biblioteca.Sesiones
import Aeropuerto.Anillo.PassageSesiones
import Aeropuerto.Anillo.Reeleccion
import Aeropuerto.Anillo.ReeleccionPasos
import Aeropuerto.Anillo.ReeleccionSegura
import Aeropuerto.Anillo.ReeleccionFinal
import Aeropuerto.Procesos.CargaVuelo
