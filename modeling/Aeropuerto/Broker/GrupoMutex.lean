import Aeropuerto.Broker.Grupo

/-!
# The mutex of a group table (`local_broker/grupo.cpp`)

Any number of processes attached to a group, each in one of the operations that wait on
`mutex_asignado`, work on the table and signal.  A section is one step, save that
`locked_ya_esta_cliente` signals the mutex too when it finds the name.  Of the fields of a process's
own `Grupo` object the operations read `cliente_actual` and `numero_cola_asignada`.
-/

namespace GrupoMutex

open Ejecucion

inductive Operacion (ν : Type) where
  | join (nombre : ν)
  | leave (nombre : ν)
  | yaEstaCliente (nombre : ν)
  | obtenerProximoCliente
  | pasarTokenAProximoCliente
  | reenviarTokenAlCliente
  | tengoElToken
  | replicarBrokers
  | estaEnviandoToken
  | elTokenSeEnvio
  | avisarSiSeEstaEnviandoToken
  | tengoQueAvisarEnvio
  | tengoElTokenCliente

structure Objeto (M : Nat) where
  clienteActual : Fin M
  numeroColaAsignada : Fin M

inductive Resultado (M : Nat) where
  | nada
  | valor (b : Bool)
  | cliente (i : Fin M)
  | excepcion

inductive Pc (ν : Type) (M : Nat) where
  | fuera (ultimo : Resultado M)
  -- at wait_on
  | espera (op : Operacion ν)
  | dentro (op : Operacion ν)
  -- locked_ya_esta_cliente has found the name and has signalled
  | hallado (op : Operacion ν)

/-- `hallados` counts the calls of `locked_ya_esta_cliente` that found the name. -/
structure Estado (ι : Type) (M : Nat) (ν : Type) where
  grupo : Grupo M ν
  objeto : ι → Objeto M
  pc : ι → Pc ν M
  hallados : Nat

inductive Evento (ι ν : Type) where
  | llamar (a : ι) (op : Operacion ν)
  | waitOn (a : ι)
  | seccion (a : ι)
  -- the signalize of the caller of locked_ya_esta_cliente
  | signalize (a : ι)

variable {ι ν : Type} {M : Nat}

section Operaciones

variable [DecidableEq ν]

/-- The operation finds the name in `locked_ya_esta_cliente`. -/
def Operacion.halla (g : Grupo M ν) : Operacion ν → Bool
  | .join nombre => g.cantClientes ≠ M ∧ g.lockedYaEstaCliente nombre
  | .yaEstaCliente nombre => g.lockedYaEstaCliente nombre
  | _ => false

variable [NeZero M]

/-- The section of an operation that does not find the name, with its signalize. -/
def Operacion.seccion (esBroker : ν → Bool) (g : Grupo M ν) (o : Objeto M) :
    Operacion ν → Grupo M ν × Objeto M × Resultado M
  | .join nombre =>
    if g.cantClientes = M then (g.signalize, o, .excepcion)
    else
      match g.primeraLibre with
      | some i => (g.joinOcupar nombre i, { o with numeroColaAsignada := i }, .nada)
      | none => (g.signalize, o, .nada)
  | .leave nombre => (g.leave nombre, o, .nada)
  | .yaEstaCliente _ => (g.signalize, o, .valor false)
  | .obtenerProximoCliente =>
    if g.cantClientes = 0 then (g.signalize, o, .cliente 0)
    else
      let actual := Grupo.buscarCliente g.clientNames o.clienteActual M (o.clienteActual + 1)
      (g.signalize, { o with clienteActual := actual }, .cliente actual)
  | .pasarTokenAProximoCliente =>
    let g := { g with clienteActual := o.clienteActual }.pasarTokenAProximoCliente esBroker
    (g, { o with clienteActual := g.clienteActual }, .nada)
  | .reenviarTokenAlCliente => ((g.push o.clienteActual 1).signalize, o, .nada)
  | .tengoElToken => (g.signalize, o, .valor (g.tengoTokenGrupo = 1))
  | .replicarBrokers => (g.replicarBrokers esBroker, o, .nada)
  | .estaEnviandoToken => (g.signalize, o, .valor (g.tokenEnviado = 0))
  | .elTokenSeEnvio => ({ g with tokenEnviado := 1, avisarEnvio := 0 }.signalize, o, .nada)
  | .avisarSiSeEstaEnviandoToken =>
    if g.tengoTokenGrupo = 0 ∧ g.tokenEnviado = 0 then
      ({ g with avisarEnvio := 1 }.signalize, o, .nada)
    else (g.signalize, o, .nada)
  | .tengoQueAvisarEnvio => (g.signalize, o, .valor (g.avisarEnvio = 1))
  | .tengoElTokenCliente =>
    (g.signalize, o, .valor (g.tengoElTokenCliente o.numeroColaAsignada))

/-- The callers of `locked_ya_esta_cliente`: `join` throws and `ya_esta_cliente` returns true. -/
def Operacion.alHallar : Operacion ν → Resultado M
  | .join _ => .excepcion
  | _ => .valor true

/-- `replicar_brokers` returns at once for a group without memory. -/
def Operacion.sinSeccion (g : Grupo M ν) : Operacion ν → Bool
  | .replicarBrokers => g.memSize = 0
  | _ => false

end Operaciones

section Paso

variable [DecidableEq ι] [DecidableEq ν] [NeZero M]

def inicial (memSize : Nat) : Estado ι M ν where
  grupo := Grupo.crear memSize
  objeto := fun _ => ⟨0, 0⟩
  pc := fun _ => .fuera .nada
  hallados := 0

def Estado.mover (s : Estado ι M ν) (a : ι) (pc : Pc ν M) : Estado ι M ν :=
  { s with pc := Function.update s.pc a pc }

def paso (esBroker : ν → Bool) (s : Estado ι M ν) : Evento ι ν → Option (Estado ι M ν)
  | .llamar a op =>
    match s.pc a with
    | .fuera _ =>
      if op.sinSeccion s.grupo then some (s.mover a (.fuera .nada)) else some (s.mover a (.espera op))
    | _ => none
  | .waitOn a =>
    match s.pc a, s.grupo.waitOn with
    | .espera op, some g => some ({ s with grupo := g }.mover a (.dentro op))
    | _, _ => none
  | .seccion a =>
    match s.pc a with
    | .dentro op =>
      if op.halla s.grupo then
        some ({ s with grupo := s.grupo.signalize, hallados := s.hallados + 1 }.mover a (.hallado op))
      else
        let (g, o, resultado) := op.seccion esBroker s.grupo (s.objeto a)
        some ({ s with grupo := g, objeto := Function.update s.objeto a o }.mover a
          (.fuera resultado))
    | _ => none
  | .signalize a =>
    match s.pc a with
    | .hallado op => some ({ s with grupo := s.grupo.signalize }.mover a (.fuera op.alHallar))
    | _ => none

end Paso

/-! ## The value of the mutex -/

/-- The process is inside a section. -/
def Pc.enSeccion : Pc ν M → Nat
  | .dentro _ | .hallado _ => 1
  | _ => 0

def Estado.enSeccion [Fintype ι] (s : Estado ι M ν) : Nat := ∑ a, (s.pc a).enSeccion

/-- Every section that does not find the name signals once. -/
theorem mutex_seccion [DecidableEq ν] [NeZero M] (esBroker : ν → Bool) (g : Grupo M ν)
    (o : Objeto M) (op : Operacion ν) :
    (op.seccion esBroker g o).1.mutexAsignado = g.mutexAsignado + 1 := by
  cases op with
  | join nombre =>
    unfold Operacion.seccion
    dsimp only
    split
    · rfl
    · split <;> rfl
  | leave nombre =>
    show (g.leave nombre).mutexAsignado = _
    unfold Grupo.leave
    split <;> rfl
  | obtenerProximoCliente =>
    unfold Operacion.seccion
    dsimp only
    split <;> rfl
  | replicarBrokers =>
    show (g.replicarBrokers esBroker).mutexAsignado = _
    unfold Grupo.replicarBrokers
    split
    · split <;> rfl
    · rfl
  | avisarSiSeEstaEnviandoToken =>
    unfold Operacion.seccion
    dsimp only
    split <;> rfl
  | yaEstaCliente | pasarTokenAProximoCliente | reenviarTokenAlCliente | tengoElToken
  | estaEnviandoToken | elTokenSeEnvio | tengoQueAvisarEnvio | tengoElTokenCliente => rfl

section Pasos

variable [Fintype ι] [DecidableEq ι] {esBroker : ν → Bool} {s t : Estado ι M ν} {a : ι}

/-- What a process gives up or takes, the mutex takes or gives up. -/
theorem cuenta_mover {pc : Pc ν M} {g : Grupo M ν} {objeto : ι → Objeto M} {n : Nat}
    (h : s.grupo.mutexAsignado + s.enSeccion = 1 + s.hallados)
    (hpaso : g.mutexAsignado + pc.enSeccion + s.hallados =
      s.grupo.mutexAsignado + (s.pc a).enSeccion + n) :
    (Estado.mk g objeto s.pc n |>.mover a pc).grupo.mutexAsignado +
        (Estado.mk g objeto s.pc n |>.mover a pc).enSeccion = 1 + n := by
  have hsuma := Sumas.suma_update (fun _ (pc : Pc ν M) => pc.enSeccion) s.pc (Finset.mem_univ a) pc
  unfold Estado.enSeccion at h ⊢
  unfold Estado.mover
  dsimp only
  omega

variable [DecidableEq ν] [NeZero M]

theorem cuenta_paso {e : Evento ι ν} (h : s.grupo.mutexAsignado + s.enSeccion = 1 + s.hallados)
    (hs : paso esBroker s e = some t) :
    t.grupo.mutexAsignado + t.enSeccion = 1 + t.hallados := by
  cases e with
  | llamar a op =>
    simp only [paso] at hs
    split at hs
    · rename_i hpc
      split at hs <;> cases hs
      · exact cuenta_mover h (by rw [hpc]; rfl)
      · exact cuenta_mover h (by rw [hpc]; rfl)
    · cases hs
  | waitOn a =>
    simp only [paso] at hs
    split at hs <;> cases hs
    rename_i op g hpc hg
    apply cuenta_mover h
    unfold Grupo.waitOn at hg
    split at hg <;> cases hg
    simp only [hpc, Pc.enSeccion]
    omega
  | seccion a =>
    simp only [paso] at hs
    split at hs
    · rename_i op hpc
      split at hs <;> cases hs
      · -- found: one signal more than the section owes
        apply cuenta_mover h
        simp only [hpc, Pc.enSeccion, Grupo.signalize]
        omega
      · apply cuenta_mover h
        rw [mutex_seccion, hpc]
        simp only [Pc.enSeccion]
    · cases hs
  | signalize a =>
    simp only [paso] at hs
    split at hs <;> cases hs
    rename_i op hpc
    apply cuenta_mover h
    simp only [hpc, Pc.enSeccion, Grupo.signalize]

/-- The mutex excludes exactly as long as no call has found the name in the table. -/
theorem grupo_mutex_excluye {memSize : Nat}
    (h : Alcanza (paso esBroker) (inicial memSize : Estado ι M ν) s) :
    s.grupo.mutexAsignado + s.enSeccion = 1 ↔ s.hallados = 0 := by
  have h0 : (inicial memSize : Estado ι M ν).grupo.mutexAsignado +
      (inicial memSize : Estado ι M ν).enSeccion = 1 + (inicial memSize : Estado ι M ν).hallados := by
    have hfuera : (inicial memSize : Estado ι M ν).enSeccion = 0 := Finset.sum_const_zero
    rw [hfuera]
    rfl
  have hcuenta : s.grupo.mutexAsignado + s.enSeccion = 1 + s.hallados :=
    h.induccion h0 fun _ _ _ => cuenta_paso
  omega

end Pasos

/-- A client joins and another one is inside its section. -/
theorem grupo_mutex_excluye_dos_clientes :
    ∃ s : Estado (Fin 2) 2 Nat, s.grupo.cantClientes = 1 ∧ s.enSeccion = 1 ∧
      s.grupo.mutexAsignado + s.enSeccion = 1 := by
  have hrun : (correr (paso fun _ => false) (inicial 0 : Estado (Fin 2) 2 Nat)
      [.llamar 0 (.join 0), .waitOn 0, .seccion 0, .llamar 1 (.join 1), .waitOn 1]).map
      (fun s => (s.grupo.cantClientes, s.enSeccion, s.hallados)) = some (1, 1, 0) := by
    decide +kernel
  obtain ⟨s, hs, hvalores⟩ := Option.map_eq_some_iff.mp hrun
  obtain ⟨hclientes, hdentro, hhallados⟩ : _ ∧ _ ∧ _ := by simpa only [Prod.mk.injEq] using hvalores
  exact ⟨s, hclientes, hdentro, (grupo_mutex_excluye ⟨_, hs⟩).mpr hhallados⟩

/-- A second join under the same name leaves the mutex with two units. -/
theorem grupo_mutex_nombre_repetido :
    ¬ ∀ s : Estado (Fin 2) 2 Nat, Alcanza (paso fun _ => false) (inicial 0) s →
      s.grupo.mutexAsignado + s.enSeccion = 1 := by
  intro h
  have hrun : (correr (paso fun _ => false) (inicial 0 : Estado (Fin 2) 2 Nat)
      [.llamar 0 (.join 0), .waitOn 0, .seccion 0, .llamar 1 (.join 0), .waitOn 1, .seccion 1,
        .signalize 1]).map (fun s => s.grupo.mutexAsignado + s.enSeccion) = some 2 := by
    decide +kernel
  obtain ⟨s, hs, hdos⟩ := Option.map_eq_some_iff.mp hrun
  have huno := h s ⟨_, hs⟩
  omega

end GrupoMutex
