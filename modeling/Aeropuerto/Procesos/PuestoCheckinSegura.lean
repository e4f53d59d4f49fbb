import Aeropuerto.Procesos.PuestoCheckin

/-!
# The sessions of a check-in desk

The messages of a desk that have not been handled are read by an automaton whose state is the open
check-in.  It starts in the state of the desk and ends in that of the flight that has the desk, so the
desk goes through whole sessions, each of one flight, with the bags that its close counts.
-/

namespace PuestoCheckin

open Ejecucion

variable {archivo : Archivo} {p q : Puesto} {s s' : Estado}

/-- One check-in: flight, zone and number of bags. -/
structure Sesion where
  vuelo : Nat
  zona : Nat
  equipajes : Nat

/-- The check-in is opened, the bags of its own flight are registered, the close returns their number,
    and the zone is told this number and that of the bags from other flights. -/
def Sesion.sucesos (archivo : Archivo) (x : Sesion) : List Suceso :=
  .abre x.vuelo :: (List.replicate x.equipajes (.equipaje x.vuelo) ++
    [.cierra x.vuelo x.equipajes,
      .avisa x.zona (x.equipajes + obtenerCantidadEquipajeIntercargo x.vuelo archivo)])

/-- What has happened at desk `d` are sessions, the last one perhaps not finished, each with the zone of
    its flight. -/
def EnSesiones (archivo : Archivo) (s : Estado) (d : Nat) : Prop :=
  ∃ (xs : List Sesion) (x : Sesion) (resto : List Suceso),
    (s.puesto d).historia = xs.flatMap (Sesion.sucesos archivo) ++ resto ∧
      resto <+: x.sucesos archivo ∧ (∀ y ∈ xs, (s.vuelo y.vuelo).zona = some y.zona) ∧
      (resto ≠ [] → (s.vuelo x.vuelo).zona = some x.zona)

/-! ## The messages -/

/-- Reading a message, where the state is the flight and the zone of the open check-in. -/
def leer : Option (Nat × Nat) → MensajeCheckin → Option (Option (Nat × Nat))
  | none, m => if m.iniciarCheckin then some (some (m.numVuelo, m.numZona)) else none
  | some (v, z), m => if m = ⟨false, v, z⟩ then some none else none

def pendientes (p : Puesto) : List MensajeCheckin :=
  match p.controlador with
  | .bloquea m | .seccion m => m :: p.cola
  | _ => p.cola

def vueloAbierto : Option (Nat × Nat) → Int
  | some (v, _) => v
  | none => -1

def dentroPuesto : PcPuesto → Nat
  | .consulta _ _ | .registra _ _ | .fin => 1
  | _ => 0

def dentroControlador : PcControlador → Nat
  | .seccion _ => 1
  | _ => 0

def sinCerrar (n : Nat) : Option (Nat × Nat) → List Suceso
  | some (v, _) => .abre v :: List.replicate n (.equipaje v)
  | none => []

/-- The session that is under way, with `n` bags so far. -/
def parcial (controlador : PcControlador) (abierta : Option (Nat × Nat)) (n : Nat) : List Suceso :=
  match controlador with
  | .cargaEquipajes m =>
    .abre m.numVuelo :: (List.replicate n (.equipaje m.numVuelo) ++ [.cierra m.numVuelo n])
  | _ => sinCerrar n abierta

/-- A desk between the open check-in `abierta` and the state `fin` of the flight that has the desk. -/
structure InvPuesto (archivo : Archivo) (zona : Nat → Option Nat) (p : Puesto)
    (abierta fin : Option (Nat × Nat)) (xs : List Sesion) (n : Nat) : Prop where
  mutex : p.mutex + dentroPuesto p.puesto + dentroControlador p.controlador = 1
  historia : p.historia = xs.flatMap (Sesion.sucesos archivo) ++ parcial p.controlador abierta n
  numVuelo : p.numVuelo = vueloAbierto abierta
  cantEquipajes : abierta.isSome = true → p.cantEquipajes = n
  registra : ∀ u k, p.puesto = .registra u k → p.numVuelo = u ∧ u ≠ -1
  busca : ∀ m, p.controlador = .buscaIntercargo m → abierta = some (m.numVuelo, m.numZona)
  carga : ∀ m, p.controlador = .cargaEquipajes m → abierta = none ∧ p.cantCheckin = n ∧
    p.cantIntercargo = obtenerCantidadEquipajeIntercargo m.numVuelo archivo ∧
    zona m.numVuelo = some m.numZona
  intercargo : ∀ v z, abierta = some (v, z) → (∀ m, p.controlador ≠ .buscaIntercargo m) →
    p.cantIntercargo = obtenerCantidadEquipajeIntercargo v archivo
  sinExcepcion : p.controlador ≠ .excepcion
  flujo : (pendientes p).foldlM leer abierta = some fin
  zonaPendiente : ∀ m ∈ pendientes p, zona m.numVuelo = some m.numZona
  zonaAbierta : ∀ v z, abierta = some (v, z) → zona v = some z
  zonaSesion : ∀ x ∈ xs, zona x.vuelo = some x.zona

theorem invPuesto_inicial (zona : Nat → Option Nat) :
    InvPuesto archivo zona .inicial none none [] 0 where
  mutex := rfl
  historia := rfl
  numVuelo := rfl
  cantEquipajes := nofun
  registra := nofun
  busca := nofun
  carga := nofun
  intercargo := nofun
  sinExcepcion := nofun
  flujo := rfl
  zonaPendiente := nofun
  zonaAbierta := nofun
  zonaSesion := nofun

section UnPuesto

variable {zona zona' : Nat → Option Nat} {abierta fin fin' : Option (Nat × Nat)} {xs : List Sesion}
  {n : Nat} {m : MensajeCheckin}

/-- The flights only gain zones. -/
theorem InvPuesto.mono (h : InvPuesto archivo zona p abierta fin xs n)
    (hzona : ∀ v z, zona v = some z → zona' v = some z) :
    InvPuesto archivo zona' p abierta fin xs n :=
  { h with
    carga := fun m hm =>
      ⟨(h.carga m hm).1, (h.carga m hm).2.1, (h.carga m hm).2.2.1,
        hzona _ _ (h.carga m hm).2.2.2⟩
    zonaPendiente := fun m hm => hzona _ _ (h.zonaPendiente m hm)
    zonaAbierta := fun v z hv => hzona _ _ (h.zonaAbierta v z hv)
    zonaSesion := fun x hx => hzona _ _ (h.zonaSesion x hx) }

theorem pendientes_enviar (p : Puesto) (m : MensajeCheckin) :
    pendientes { p with cola := p.cola ++ [m] } = pendientes p ++ [m] := by
  unfold pendientes
  dsimp only
  split <;> rfl

/-- The flight sends a message that its own state allows. -/
theorem InvPuesto.enviar (h : InvPuesto archivo zona p abierta fin xs n)
    (hleer : leer fin m = some fin') (hm : zona m.numVuelo = some m.numZona) :
    InvPuesto archivo zona { p with cola := p.cola ++ [m] } abierta fin' xs n := by
  refine { h with flujo := ?_, zonaPendiente := fun m' hm' => ?_ }
  · rw [pendientes_enviar, List.foldlM_append, h.flujo]
    simpa only [List.foldlM_cons, List.foldlM_nil, Option.bind_eq_bind, Option.bind_some,
      Option.pure_def, Option.bind_fun_some] using hleer
  · rw [pendientes_enviar, List.mem_append, List.mem_singleton] at hm'
    rcases hm' with hm' | rfl
    · exact h.zonaPendiente m' hm'
    · exact hm

/-- Opening: the automaton says that no check-in is open. -/
theorem InvPuesto.abrir (h : InvPuesto archivo zona p abierta fin xs n)
    (hpc : p.controlador = .seccion m) (hm : m.iniciarCheckin = true) :
    InvPuesto archivo zona { p.iniciarCheckin m.numVuelo with controlador := .buscaIntercargo m }
      (some (m.numVuelo, m.numZona)) fin xs 0 := by
  have hpendientes : pendientes p = m :: p.cola := by rw [pendientes, hpc]
  have hmutex := h.mutex
  rw [hpc] at hmutex
  change _ + _ + 1 = 1 at hmutex
  have hflujo := h.flujo
  rw [hpendientes, List.foldlM_cons] at hflujo
  -- the message does not fit an open check-in
  cases abierta with
  | some a =>
    have hno : leer (some a) m = none := by
      refine if_neg ?_
      rintro rfl
      cases hm
    rw [hno] at hflujo
    cases hflujo
  | none =>
    have hlibre : p.numVuelo = -1 := h.numVuelo
    have hleer : leer none m = some (some (m.numVuelo, m.numZona)) := if_pos hm
    rw [hleer] at hflujo
    have hhistoria : p.historia = xs.flatMap (Sesion.sucesos archivo) := by
      rw [h.historia, hpc]
      exact List.append_nil _
    rw [Puesto.iniciarCheckin, if_pos hlibre]
    refine { h with
      mutex := ?_, historia := ?_, numVuelo := rfl, cantEquipajes := fun _ => rfl
      registra := fun u k hr => ?_, busca := fun m' hm' => ?_, carga := nofun
      intercargo := fun v z _ hno => absurd rfl (hno m), sinExcepcion := nofun, flujo := hflujo
      zonaPendiente := fun m' hm' => ?_, zonaAbierta := fun v z hv => ?_ }
    · show p.mutex + 1 + dentroPuesto p.puesto + 0 = 1
      omega
    · rw [hhistoria]
      rfl
    · rw [show p.puesto = .registra u k from hr] at hmutex
      change _ + 1 + 1 = 1 at hmutex
      omega
    · cases hm'
      rfl
    · exact h.zonaPendiente m' (hpendientes ▸ List.mem_cons_of_mem _ hm')
    · cases hv
      exact h.zonaPendiente m (hpendientes ▸ List.mem_cons_self)

/-- Closing: the automaton says that it is the flight of the open check-in, whose bags have been
    counted since it was opened. -/
theorem InvPuesto.cerrar (h : InvPuesto archivo zona p abierta fin xs n)
    (hpc : p.controlador = .seccion m) (hm : m.iniciarCheckin = false)
    (hs : pasoControlador archivo p = some q) : InvPuesto archivo zona q none fin xs n := by
  have hpendientes : pendientes p = m :: p.cola := by rw [pendientes, hpc]
  have hmutex := h.mutex
  rw [hpc] at hmutex
  change _ + _ + 1 = 1 at hmutex
  have hflujo := h.flujo
  rw [hpendientes, List.foldlM_cons] at hflujo
  cases abierta with
  | none =>
    have hno : leer none m = none := if_neg (by rw [hm]; nofun)
    rw [hno] at hflujo
    cases hflujo
  | some a =>
    obtain ⟨v, z⟩ := a
    have hmensaje : m = ⟨false, v, z⟩ := by
      by_contra hne
      have hno : leer (some (v, z)) m = none := if_neg hne
      rw [hno] at hflujo
      cases hflujo
    subst hmensaje
    have hleer : leer (some (v, z)) ⟨false, v, z⟩ = some none := if_pos rfl
    rw [hleer] at hflujo
    have hvuelo : p.numVuelo = (v : Int) := h.numVuelo
    have hocupado : p.numVuelo ≠ -1 := by omega
    have hcant : p.cantEquipajes = n := h.cantEquipajes rfl
    have hhistoria : p.historia =
        xs.flatMap (Sesion.sucesos archivo) ++ (.abre v :: List.replicate n (.equipaje v)) := by
      rw [h.historia, hpc]
      rfl
    have hintercargo : p.cantIntercargo = obtenerCantidadEquipajeIntercargo v archivo :=
      h.intercargo v z rfl fun m' hm' => by
        rw [hpc] at hm'
        cases hm'
    simp only [pasoControlador, hpc, Puesto.cerrarCheckin, if_neg hocupado] at hs
    cases hs
    refine { h with
      mutex := ?_, historia := ?_, numVuelo := rfl, cantEquipajes := nofun
      registra := fun u k hr => ?_, busca := nofun, carga := fun m' hm' => ?_, intercargo := nofun
      sinExcepcion := nofun, flujo := hflujo, zonaPendiente := fun m' hm' => ?_
      zonaAbierta := nofun }
    · show p.mutex + 1 + dentroPuesto p.puesto + 0 = 1
      omega
    · show p.historia ++ [.cierra p.numVuelo p.cantEquipajes] = _
      rw [hhistoria, hvuelo, hcant, List.append_assoc]
      rfl
    · rw [show p.puesto = .registra u k from hr] at hmutex
      change _ + 1 + 1 = 1 at hmutex
      omega
    · cases hm'
      exact ⟨rfl, hcant, hintercargo, h.zonaAbierta v z rfl⟩
    · exact h.zonaPendiente m' (hpendientes ▸ List.mem_cons_of_mem _ hm')

/-- The controller goes from session to session. -/
theorem invPuesto_controlador (h : InvPuesto archivo zona p abierta fin xs n)
    (hs : pasoControlador archivo p = some q) :
    ∃ abierta xs n, InvPuesto archivo zona q abierta fin xs n := by
  cases hpc : p.controlador with
  | recibe =>
    simp only [pasoControlador, hpc] at hs
    split at hs <;> cases hs
    rename_i m cola hcola
    have hpendientes : pendientes p = m :: cola := by rw [pendientes, hpc, hcola]
    have hflujo := h.flujo
    have hzonas := h.zonaPendiente
    rw [hpendientes] at hflujo hzonas
    have hmutex := h.mutex
    have hhistoria := h.historia
    rw [hpc] at hmutex hhistoria
    refine ⟨abierta, xs, n, { h with
      mutex := hmutex, historia := hhistoria, busca := nofun, carga := nofun
      intercargo := fun v z hv _ => h.intercargo v z hv fun m' hm' => ?_, sinExcepcion := nofun
      flujo := hflujo, zonaPendiente := hzonas }⟩
    rw [hpc] at hm'
    cases hm'
  | bloquea m =>
    simp only [pasoControlador, hpc] at hs
    split at hs <;> cases hs
    have hpendientes : pendientes p = m :: p.cola := by rw [pendientes, hpc]
    have hflujo := h.flujo
    have hzonas := h.zonaPendiente
    rw [hpendientes] at hflujo hzonas
    have hmutex := h.mutex
    have hhistoria := h.historia
    rw [hpc] at hmutex
    change _ + _ + 0 = 1 at hmutex
    rw [hpc] at hhistoria
    refine ⟨abierta, xs, n, { h with
      mutex := ?_, historia := hhistoria, busca := nofun, carga := nofun
      intercargo := fun v z hv _ => h.intercargo v z hv fun m' hm' => ?_, sinExcepcion := nofun
      flujo := hflujo, zonaPendiente := hzonas }⟩
    · show p.mutex - 1 + dentroPuesto p.puesto + 1 = 1
      omega
    · rw [hpc] at hm'
      cases hm'
  | seccion m =>
    cases hm : m.iniciarCheckin with
    | true =>
      simp only [pasoControlador, hpc, hm, if_true] at hs
      cases hs
      exact ⟨_, _, _, h.abrir hpc hm⟩
    | false => exact ⟨_, _, _, h.cerrar hpc hm hs⟩
  | buscaIntercargo m =>
    simp only [pasoControlador, hpc] at hs
    cases hs
    have habierta := h.busca m hpc
    have hpendientes : pendientes p = p.cola := by rw [pendientes, hpc]
    have hflujo := h.flujo
    have hzonas := h.zonaPendiente
    rw [hpendientes] at hflujo hzonas
    have hmutex := h.mutex
    have hhistoria := h.historia
    rw [hpc] at hmutex hhistoria
    refine ⟨abierta, xs, n, { h with
      mutex := hmutex, historia := hhistoria, busca := nofun, carga := nofun
      intercargo := fun v z hv _ => ?_, sinExcepcion := nofun
      flujo := hflujo, zonaPendiente := hzonas }⟩
    cases habierta.symm.trans hv
    rfl
  | cargaEquipajes m =>
    simp only [pasoControlador, hpc] at hs
    cases hs
    obtain ⟨rfl, hcant, hintercargo, hzona⟩ := h.carga m hpc
    have hpendientes : pendientes p = p.cola := by rw [pendientes, hpc]
    have hflujo := h.flujo
    have hzonas := h.zonaPendiente
    rw [hpendientes] at hflujo hzonas
    have hmutex := h.mutex
    have hhistoria := h.historia
    rw [hpc] at hmutex hhistoria
    refine ⟨none, xs ++ [⟨m.numVuelo, m.numZona, n⟩], n, { h with
      mutex := hmutex, historia := ?_, busca := nofun, carga := nofun, intercargo := nofun
      sinExcepcion := nofun, flujo := hflujo
      zonaPendiente := hzonas, zonaSesion := fun x hx => ?_ }⟩
    · show p.historia ++ [.avisa m.numZona (p.cantCheckin + p.cantIntercargo)] = _
      rw [hhistoria, hcant, hintercargo, List.flatMap_append, List.flatMap_singleton]
      simp [Sesion.sucesos, parcial, sinCerrar]
    · rcases List.mem_append.mp hx with hx | hx
      · exact h.zonaSesion x hx
      · rw [List.mem_singleton.mp hx]
        exact hzona
  | excepcion => exact absurd hpc h.sinExcepcion

/-- A step of the passenger that registers nothing. -/
theorem InvPuesto.pasajero (h : InvPuesto archivo zona p abierta fin xs n) {mutex : Nat}
    {puesto : PcPuesto} (hmutex : mutex + dentroPuesto puesto = p.mutex + dentroPuesto p.puesto)
    (hregistra : ∀ u k, puesto = .registra u k → p.numVuelo = u ∧ u ≠ -1) :
    InvPuesto archivo zona { p with mutex := mutex, puesto := puesto } abierta fin xs n := by
  refine { h with mutex := ?_, registra := hregistra }
  have := h.mutex
  show mutex + dentroPuesto puesto + dentroControlador p.controlador = 1
  omega

/-- A bag is registered while the flight of the desk is that of its passenger: the mutex keeps the
    controller out. -/
theorem InvPuesto.registrar {u : Int} {k : Nat} (h : InvPuesto archivo zona p abierta fin xs n)
    (hpc : p.puesto = .registra u (k + 1)) :
    InvPuesto archivo zona { p with
      cantEquipajes := p.cantEquipajes + 1
      puesto := .registra u k
      historia := p.historia ++ [.equipaje u] } abierta fin xs (n + 1) := by
  obtain ⟨hvuelo, hu⟩ := h.registra u (k + 1) hpc
  cases abierta with
  | none => exact absurd (hvuelo.symm.trans h.numVuelo) hu
  | some a =>
    obtain ⟨v, z⟩ := a
    have huv : u = v := hvuelo.symm.trans h.numVuelo
    have hno : ∀ m, p.controlador ≠ .cargaEquipajes m := fun m hm => by cases (h.carga m hm).1
    have hparcial : ∀ n, parcial p.controlador (some (v, z)) n = sinCerrar n (some (v, z)) := by
      intro n
      unfold parcial
      split
      · rename_i m hm
        exact absurd hm (hno m)
      · rfl
    have hmutex := h.mutex
    rw [hpc] at hmutex
    refine { h with
      mutex := hmutex, historia := ?_, cantEquipajes := fun _ => ?_
      registra := fun u' k' hr => ?_, carga := fun m hm => absurd hm (hno m) }
    · show p.historia ++ [.equipaje u] = _ ++ parcial p.controlador (some (v, z)) (n + 1)
      rw [h.historia, hparcial, hparcial, huv, List.append_assoc]
      simp only [sinCerrar, List.replicate_succ', List.cons_append]
    · show p.cantEquipajes + 1 = ((n + 1 : Nat) : Int)
      rw [h.cantEquipajes rfl]
      rfl
    · cases hr
      exact ⟨hvuelo, hu⟩

theorem invPuesto_puesto (h : InvPuesto archivo zona p abierta fin xs n)
    (hs : pasoPuesto p = some q) : ∃ n, InvPuesto archivo zona q abierta fin xs n := by
  cases hpc : p.puesto with
  | espera =>
    simp only [pasoPuesto, hpc] at hs
    cases hs
  | bloquea u k =>
    simp only [pasoPuesto, hpc] at hs
    split at hs <;> cases hs
    refine ⟨n, h.pasajero ?_ nofun⟩
    rw [hpc]
    show p.mutex - 1 + 1 = p.mutex + 0
    omega
  | consulta u k =>
    simp only [pasoPuesto, hpc] at hs
    split at hs <;> cases hs
    · rename_i hvuelo
      refine ⟨n, h.pasajero (by rw [hpc]; rfl) fun u' k' hr => ?_⟩
      cases hr
      exact ⟨hvuelo.2, hvuelo.2 ▸ hvuelo.1⟩
    · exact ⟨n, h.pasajero (by rw [hpc]; rfl) nofun⟩
  | registra u k =>
    cases k with
    | zero =>
      simp only [pasoPuesto, hpc] at hs
      cases hs
      exact ⟨n, h.pasajero (by rw [hpc]; rfl) nofun⟩
    | succ k =>
      simp only [pasoPuesto, hpc] at hs
      split at hs <;> cases hs
      · exact ⟨n, h.pasajero (by rw [hpc]; rfl) nofun⟩
      · exact ⟨n + 1, h.registrar hpc⟩
  | fin =>
    simp only [pasoPuesto, hpc] at hs
    cases hs
    refine ⟨n, h.pasajero ?_ nofun⟩
    rw [hpc]
    rfl

end UnPuesto

/-! ## All the desks -/

/-- A desk that has started is in the pool once, or with one flight. -/
structure InvPool (s : Estado) : Prop where
  pool : s.pool.Nodup
  libre : ∀ d ∈ s.pool, (s.puesto d).arrancado = true ∧ ∀ v, (s.vuelo v).puesto ≠ some d
  ocupado : ∀ v d, (s.vuelo v).puesto = some d → (s.puesto d).arrancado = true
  unico : ∀ v w d, (s.vuelo v).puesto = some d → (s.vuelo w).puesto = some d → v = w

/-- The messages of desk `d` lead to the state of the flight that has it. -/
def InvDe (archivo : Archivo) (s : Estado) (d : Nat) : Prop :=
  ∃ abierta fin xs n,
    InvPuesto archivo (fun v => (s.vuelo v).zona) (s.puesto d) abierta fin xs n ∧
      ∀ v z, fin = some (v, z) ↔ s.vuelo v = .cierra d z

section Pasos

variable {d v : Nat} {pc : PcVuelo}

theorem InvPool.conPuesto (h : InvPool s) (hq : q.arrancado = (s.puesto d).arrancado) :
    InvPool (s.conPuesto d q) := by
  have harrancado : ∀ d', ((s.conPuesto d q).puesto d').arrancado = (s.puesto d').arrancado := by
    intro d'
    show (Function.update s.puesto d q d').arrancado = _
    by_cases hd : d' = d
    · rw [hd, Function.update_self, hq]
    · rw [Function.update_of_ne hd]
  exact { h with
    libre := fun d' hd' => ⟨(harrancado d').trans (h.libre d' hd').1, (h.libre d' hd').2⟩
    ocupado := fun v d' hv => (harrancado d').trans (h.ocupado v d' hv) }

theorem puesto_conVuelo (h : pc.puesto = (s.vuelo v).puesto) (w : Nat) :
    ((s.conVuelo v pc).vuelo w).puesto = (s.vuelo w).puesto := by
  show (Function.update s.vuelo v pc w).puesto = _
  by_cases hw : w = v
  · rw [hw, Function.update_self, h]
  · rw [Function.update_of_ne hw]

theorem InvPool.conVuelo (h : InvPool s) (hpc : pc.puesto = (s.vuelo v).puesto) :
    InvPool (s.conVuelo v pc) where
  pool := h.pool
  libre d' hd' := ⟨(h.libre d' hd').1, fun w => puesto_conVuelo hpc w ▸ (h.libre d' hd').2 w⟩
  ocupado w d' hw := h.ocupado w d' (puesto_conVuelo hpc w ▸ hw)
  unico u w d' hu hw := h.unico u w d' (puesto_conVuelo hpc u ▸ hu) (puesto_conVuelo hpc w ▸ hw)

/-- The first desk of the pool goes to a flight without desk. -/
theorem InvPool.pedirPuesto {pool : List Nat} (h : InvPool s) (hpool : s.pool = d :: pool) :
    InvPool { s.conVuelo v (.pideZona d) with pool := pool } := by
  have hnodup := h.pool
  rw [hpool, List.nodup_cons] at hnodup
  have hlibre := h.libre d (hpool ▸ List.mem_cons_self)
  have hvuelo : ∀ w d', (Function.update s.vuelo v (.pideZona d) w).puesto = some d' →
      (w = v ∧ d' = d) ∨ (s.vuelo w).puesto = some d' := by
    intro w d' hw
    by_cases hwv : w = v
    · rw [hwv, Function.update_self] at hw
      exact .inl ⟨hwv, (Option.some.inj hw).symm⟩
    · rw [Function.update_of_ne hwv] at hw
      exact .inr hw
  refine ⟨hnodup.2, fun d' hd' => ?_, fun w d' hw => ?_, fun u w d' hu hw => ?_⟩
  · obtain ⟨harrancado, hno⟩ := h.libre d' (hpool ▸ List.mem_cons_of_mem _ hd')
    refine ⟨harrancado, fun w hw => ?_⟩
    rcases hvuelo w d' hw with ⟨-, rfl⟩ | hw
    · exact hnodup.1 hd'
    · exact hno w hw
  · rcases hvuelo w d' hw with ⟨-, rfl⟩ | hw
    · exact hlibre.1
    · exact h.ocupado w d' hw
  · rcases hvuelo u d' hu with ⟨hu', hd⟩ | hu' <;> rcases hvuelo w d' hw with ⟨hw', hd'⟩ | hw'
    · exact hu'.trans hw'.symm
    · exact absurd (hd ▸ hw') (hlibre.2 w)
    · exact absurd (hd' ▸ hu') (hlibre.2 u)
    · exact h.unico u w d' hu' hw'

theorem InvPool.liberarPuesto {z : Nat} (h : InvPool s) (hv : s.vuelo v = .libera d z) :
    InvPool { s.conVuelo v (.termino z) with pool := s.pool ++ [d] } := by
  have hd : (s.vuelo v).puesto = some d := by rw [hv]; rfl
  have hvuelo : ∀ w d', (Function.update s.vuelo v (.termino z) w).puesto = some d' →
      w ≠ v ∧ (s.vuelo w).puesto = some d' := by
    intro w d' hw
    by_cases hwv : w = v
    · rw [hwv, Function.update_self] at hw
      cases hw
    · rw [Function.update_of_ne hwv] at hw
      exact ⟨hwv, hw⟩
  refine ⟨?_, fun d' hd' => ?_, fun w d' hw => h.ocupado w d' (hvuelo w d' hw).2,
    fun u w d' hu hw => h.unico u w d' (hvuelo u d' hu).2 (hvuelo w d' hw).2⟩
  · refine List.nodup_append.mpr ⟨h.pool, List.nodup_singleton d, fun a ha b hb => ?_⟩
    rintro rfl
    exact (h.libre a ha).2 v (List.mem_singleton.mp hb ▸ hd)
  · rcases List.mem_append.mp hd' with hd' | hd'
    · exact ⟨(h.libre d' hd').1, fun w hw => (h.libre d' hd').2 w (hvuelo w d' hw).2⟩
    · rw [List.mem_singleton] at hd'
      subst hd'
      refine ⟨h.ocupado v d' hd, fun w hw => ?_⟩
      obtain ⟨hwv, hw⟩ := hvuelo w d' hw
      exact hwv (h.unico w v d' hw hd)

/-- A desk that starts is new to the pool. -/
theorem InvPool.arrancar (h : InvPool s) (hd : (s.puesto d).arrancado = false) :
    InvPool { s.conPuesto d { s.puesto d with arrancado := true } with pool := s.pool ++ [d] } := by
  have hpool : d ∉ s.pool := fun hmem => by
    have harrancado := (h.libre d hmem).1
    rw [hd] at harrancado
    cases harrancado
  have hnadie : ∀ v, (s.vuelo v).puesto ≠ some d := fun v hv => by
    have harrancado := h.ocupado v d hv
    rw [hd] at harrancado
    cases harrancado
  have hsigue : ∀ d', (s.puesto d').arrancado = true →
      (Function.update s.puesto d { s.puesto d with arrancado := true } d').arrancado = true := by
    intro d' hd'
    by_cases hdd : d' = d
    · rw [hdd, Function.update_self]
    · rw [Function.update_of_ne hdd]
      exact hd'
  refine ⟨?_, fun d' hd' => ?_, fun v d' hv => hsigue d' (h.ocupado v d' hv), h.unico⟩
  · refine List.nodup_append.mpr ⟨h.pool, List.nodup_singleton d, fun a ha b hb => ?_⟩
    rintro rfl
    exact hpool (List.mem_singleton.mp hb ▸ ha)
  · rcases List.mem_append.mp hd' with hd' | hd'
    · exact ⟨hsigue d' (h.libre d' hd').1, (h.libre d' hd').2⟩
    · rw [List.mem_singleton.mp hd']
      refine ⟨?_, hnadie⟩
      show (Function.update s.puesto d _ d).arrancado = true
      rw [Function.update_self]

/-! ### The flow of one desk -/

/-- Something happens at a desk that sends nothing. -/
theorem invDe_conPuesto (h : ∀ d, InvDe archivo s d)
    (hq : ∀ {zona abierta fin xs n}, InvPuesto archivo zona (s.puesto d) abierta fin xs n →
      ∃ abierta xs n, InvPuesto archivo zona q abierta fin xs n) (d' : Nat) :
    InvDe archivo (s.conPuesto d q) d' := by
  obtain ⟨abierta, fin, xs, n, hp, hfin⟩ := h d'
  by_cases hd : d' = d
  · subst hd
    obtain ⟨abierta', xs', n', hp'⟩ := hq hp
    refine ⟨abierta', fin, xs', n', ?_, hfin⟩
    show InvPuesto archivo _ (Function.update s.puesto d' q d') abierta' fin xs' n'
    rw [Function.update_self]
    exact hp'
  · refine ⟨abierta, fin, xs, n, ?_, hfin⟩
    show InvPuesto archivo _ (Function.update s.puesto d q d') abierta fin xs n
    rw [Function.update_of_ne hd]
    exact hp

theorem zona_conVuelo (hzona : ∀ z, (s.vuelo v).zona = some z → pc.zona = some z) (w z : Nat)
    (hw : (s.vuelo w).zona = some z) : ((s.conVuelo v pc).vuelo w).zona = some z := by
  show (Function.update s.vuelo v pc w).zona = some z
  by_cases hwv : w = v
  · rw [hwv, Function.update_self]
    exact hzona z (hwv ▸ hw)
  · rw [Function.update_of_ne hwv]
    exact hw

/-- A flight moves and its messages at the desk are as before. -/
theorem invDe_conVuelo (h : InvDe archivo s d)
    (hzona : ∀ z, (s.vuelo v).zona = some z → pc.zona = some z)
    (hantes : ∀ z, s.vuelo v ≠ .cierra d z) (hdespues : ∀ z, pc ≠ .cierra d z) :
    InvDe archivo (s.conVuelo v pc) d := by
  obtain ⟨abierta, fin, xs, n, hp, hfin⟩ := h
  refine ⟨abierta, fin, xs, n, hp.mono (zona_conVuelo hzona), fun w z => ?_⟩
  show _ ↔ Function.update s.vuelo v pc w = _
  rw [hfin w z]
  by_cases hwv : w = v
  · rw [hwv, Function.update_self]
    exact ⟨fun hw => absurd hw (hantes z), fun hw => absurd hw (hdespues z)⟩
  · rw [Function.update_of_ne hwv]

/-- The flight that has the desk sends a message. -/
theorem invDe_enviar {m : MensajeCheckin} (fin' : Option (Nat × Nat))
    (h : ∀ d, InvDe archivo s d)
    (hzona : ∀ z, (s.vuelo v).zona = some z → pc.zona = some z)
    (hpuesto : ∀ d' z, s.vuelo v = .cierra d' z ∨ pc = .cierra d' z → d' = d)
    (hleer : ∀ fin, (∀ w z, fin = some (w, z) ↔ s.vuelo w = .cierra d z) → leer fin m = some fin')
    (hm : (s.vuelo m.numVuelo).zona = some m.numZona)
    (hfin' : ∀ w z, fin' = some (w, z) ↔ Function.update s.vuelo v pc w = .cierra d z) (d' : Nat) :
    InvDe archivo ((s.enviarMensajeToCheckin d m).conVuelo v pc) d' := by
  by_cases hd : d' = d
  · subst hd
    obtain ⟨abierta, fin, xs, n, hp, hfin⟩ := h d'
    refine ⟨abierta, fin', xs, n, ?_, hfin'⟩
    show InvPuesto archivo _ (Function.update s.puesto d' _ d') abierta fin' xs n
    rw [Function.update_self]
    exact (hp.enviar (hleer fin hfin) hm).mono (zona_conVuelo hzona)
  · apply invDe_conVuelo
    · obtain ⟨abierta, fin, xs, n, hp, hfin⟩ := h d'
      refine ⟨abierta, fin, xs, n, ?_, hfin⟩
      show InvPuesto archivo _ (Function.update s.puesto d _ d') abierta fin xs n
      rw [Function.update_of_ne hd]
      exact hp
    · exact hzona
    · exact fun z hz => hd (hpuesto d' z (.inl hz))
    · exact fun z hz => hd (hpuesto d' z (.inr hz))

end Pasos

/-! ### A step of the system -/

theorem arrancado_pasoControlador (hs : pasoControlador archivo p = some q) :
    q.arrancado = p.arrancado := by
  unfold pasoControlador at hs
  split at hs
  · split at hs <;> cases hs
    rfl
  · split at hs <;> cases hs
    rfl
  · split at hs
    · cases hs
      unfold Puesto.iniciarCheckin
      dsimp only
      split <;> rfl
    · unfold Puesto.cerrarCheckin at hs
      split at hs <;> rename_i heq <;> split at heq <;> cases heq <;> cases hs <;> rfl
  · cases hs
    rfl
  · cases hs
    rfl
  · cases hs

theorem arrancado_pasoPuesto (hs : pasoPuesto p = some q) : q.arrancado = p.arrancado := by
  unfold pasoPuesto at hs
  split at hs
  · cases hs
  · split at hs <;> cases hs
    rfl
  · split at hs <;> cases hs <;> rfl
  · cases hs
    rfl
  · split at hs <;> cases hs <;> rfl
  · cases hs
    rfl

structure Inv (archivo : Archivo) (s : Estado) : Prop where
  pool : InvPool s
  puesto : ∀ d, InvDe archivo s d

theorem inv_inicial : Inv archivo inicial where
  pool := ⟨List.nodup_nil, nofun, nofun, nofun⟩
  puesto _ := ⟨none, none, [], 0, invPuesto_inicial _, fun _ _ => ⟨nofun, nofun⟩⟩

/-- The flight that has the desk opens its check-in. -/
theorem inv_iniciarCheckin (h : Inv archivo s) (hs : paso archivo s (.iniciarCheckin v) = some s') :
    Inv archivo s' := by
  simp only [paso] at hs
  split at hs <;> cases hs
  rename_i d z hv
  have hd : (s.vuelo v).puesto = some d := by rw [hv]; rfl
  -- nobody else has the desk, so no check-in is open on it
  have hotro : ∀ w z', s.vuelo w ≠ .cierra d z' := by
    intro w z' hw
    have hwv : w = v := h.pool.unico w v d (by rw [hw]; rfl) hd
    rw [hwv, hv] at hw
    cases hw
  have hpool : InvPool (s.enviarMensajeToCheckin d ⟨true, v, z⟩) := h.pool.conPuesto rfl
  refine ⟨hpool.conVuelo hd.symm, ?_⟩
  refine invDe_enviar (some (v, z)) h.puesto (fun z' hz' => ?_) (fun d' z' hz' => ?_)
    (fun fin hfin => ?_) (by rw [hv]; rfl) fun w z' => ?_
  · rw [hv] at hz'
    exact hz'
  · rcases hz' with hz' | hz'
    · rw [hv] at hz'
      cases hz'
    · cases hz'
      rfl
  · cases fin with
    | none => rfl
    | some a => exact absurd ((hfin a.1 a.2).mp rfl) (hotro a.1 a.2)
  · by_cases hwv : w = v
    · rw [hwv, Function.update_self]
      simp
    · rw [Function.update_of_ne hwv]
      refine ⟨fun hw => ?_, fun hw => absurd hw (hotro w z')⟩
      cases hw
      exact absurd rfl hwv

/-- It closes it. -/
theorem inv_cerrarCheckin (h : Inv archivo s) (hs : paso archivo s (.cerrarCheckin v) = some s') :
    Inv archivo s' := by
  simp only [paso] at hs
  split at hs <;> cases hs
  rename_i d z hv
  have hd : (s.vuelo v).puesto = some d := by rw [hv]; rfl
  have hpool : InvPool (s.enviarMensajeToCheckin d ⟨false, v, z⟩) := h.pool.conPuesto rfl
  refine ⟨hpool.conVuelo hd.symm, ?_⟩
  refine invDe_enviar none h.puesto (fun z' hz' => ?_) (fun d' z' hz' => ?_)
    (fun fin hfin => ?_) (by rw [hv]; rfl) fun w z' => ?_
  · rw [hv] at hz'
    exact hz'
  · rcases hz' with hz' | hz'
    · rw [hv] at hz'
      cases hz'
      rfl
    · cases hz'
  · rw [(hfin v z).mpr hv]
    exact if_pos rfl
  · refine ⟨nofun, fun hw => ?_⟩
    by_cases hwv : w = v
    · rw [hwv, Function.update_self] at hw
      cases hw
    · rw [Function.update_of_ne hwv] at hw
      exact absurd (h.pool.unico w v d (by rw [hw]; rfl) hd) hwv

theorem inv_paso {e : Evento} (h : Inv archivo s) (hs : paso archivo s e = some s') :
    Inv archivo s' := by
  cases e with
  | arrancar d =>
    simp only [paso] at hs
    split at hs <;> cases hs
    rename_i hd
    exact ⟨h.pool.arrancar (by simpa using hd),
      invDe_conPuesto h.puesto fun {_ abierta _ xs n} hp => ⟨abierta, xs, n, { hp with }⟩⟩
  | controlador d =>
    simp only [paso] at hs
    split at hs
    case isFalse => cases hs
    obtain ⟨q, hq, rfl⟩ := Option.map_eq_some_iff.mp hs
    exact ⟨h.pool.conPuesto (arrancado_pasoControlador hq),
      invDe_conPuesto h.puesto fun hp => invPuesto_controlador hp hq⟩
  | recibirPasajero d u k =>
    simp only [paso] at hs
    split at hs <;> cases hs
    rename_i hpc
    exact ⟨h.pool.conPuesto rfl, invDe_conPuesto h.puesto fun {_ abierta _ xs n} hp =>
      ⟨abierta, xs, n, hp.pasajero (by rw [hpc]; rfl) nofun⟩⟩
  | puesto d =>
    simp only [paso] at hs
    obtain ⟨q, hq, rfl⟩ := Option.map_eq_some_iff.mp hs
    exact ⟨h.pool.conPuesto (arrancado_pasoPuesto hq),
      invDe_conPuesto h.puesto fun {_ abierta _ xs _} hp =>
        ⟨abierta, xs, invPuesto_puesto hp hq⟩⟩
  | pedirPuesto v =>
    simp only [paso] at hs
    split at hs <;> cases hs
    rename_i d pool hv hpool
    refine ⟨h.pool.pedirPuesto hpool, fun d' => ?_⟩
    refine invDe_conVuelo (h.puesto d') (fun z hz => ?_) (fun z hz => ?_) nofun
    · rw [hv] at hz
      cases hz
    · rw [hv] at hz
      cases hz
  | pedirZona v z =>
    simp only [paso] at hs
    split at hs <;> cases hs
    rename_i d hv
    refine ⟨h.pool.conVuelo (by rw [hv]; rfl), fun d' => ?_⟩
    refine invDe_conVuelo (h.puesto d') (fun z hz => ?_) (fun z hz => ?_) nofun
    · rw [hv] at hz
      cases hz
    · rw [hv] at hz
      cases hz
  | iniciarCheckin v => exact inv_iniciarCheckin h hs
  | cerrarCheckin v => exact inv_cerrarCheckin h hs
  | liberarPuesto v =>
    simp only [paso] at hs
    split at hs <;> cases hs
    rename_i d z hv
    refine ⟨h.pool.liberarPuesto hv, fun d' => ?_⟩
    refine invDe_conVuelo (h.puesto d') (fun z' hz' => ?_) (fun z' hz' => ?_) nofun
    · rw [hv] at hz'
      exact hz'
    · rw [hv] at hz'
      cases hz'

/-- The part of a session under way is the beginning of one. -/
theorem InvPuesto.enSesion {zona : Nat → Option Nat} {abierta fin : Option (Nat × Nat)}
    {xs : List Sesion} {n : Nat} (h : InvPuesto archivo zona p abierta fin xs n) :
    ∃ x : Sesion, parcial p.controlador abierta n <+: x.sucesos archivo ∧
      (parcial p.controlador abierta n ≠ [] → zona x.vuelo = some x.zona) := by
  unfold parcial
  split
  · rename_i m hm
    refine ⟨⟨m.numVuelo, m.numZona, n⟩, ⟨[.avisa m.numZona
      (n + obtenerCantidadEquipajeIntercargo m.numVuelo archivo)], ?_⟩,
      fun _ => (h.carga m hm).2.2.2⟩
    rw [Sesion.sucesos, List.cons_append, List.append_assoc]
    rfl
  · cases abierta with
    | none => exact ⟨⟨0, 0, 0⟩, List.nil_prefix, fun hno => absurd rfl hno⟩
    | some a =>
      exact ⟨⟨a.1, a.2, n⟩, ⟨[.cierra a.1 n, .avisa a.2
        (n + obtenerCantidadEquipajeIntercargo a.1 archivo)], rfl⟩,
        fun _ => h.zonaAbierta a.1 a.2 rfl⟩

/-- At every desk the check-ins follow one another, each counts the bags of its own flight and sends
    the total to the zone of its flight. -/
theorem puesto_checkin_en_sesiones (h : Alcanza (paso archivo) inicial s) (d : Nat) :
    EnSesiones archivo s d := by
  have hinv : Inv archivo s := h.induccion inv_inicial fun _ _ _ => inv_paso
  obtain ⟨abierta, fin, xs, n, hp, -⟩ := hinv.puesto d
  obtain ⟨x, hprefijo, hzona⟩ := hp.enSesion
  exact ⟨xs, x, _, hp.historia, hprefijo, hp.zonaSesion, hzona⟩

/-- Flight 7 opens with a passenger with one bag; it closes and gives the desk to flight 8 before the
    controller has read the close. -/
def dosVuelos : List Evento :=
  [.arrancar 1, .pedirPuesto 7, .pedirZona 7 2, .iniciarCheckin 7, .controlador 1, .controlador 1,
    .controlador 1, .controlador 1, .recibirPasajero 1 7 1, .puesto 1, .puesto 1, .puesto 1,
    .cerrarCheckin 7, .liberarPuesto 7, .pedirPuesto 8, .pedirZona 8 3, .iniciarCheckin 8, .puesto 1,
    .puesto 1, .controlador 1, .controlador 1, .controlador 1, .controlador 1, .controlador 1,
    .controlador 1, .controlador 1]

theorem puesto_checkin_en_sesiones_dos_vuelos :
    ∃ s : Estado, (s.puesto 1).historia =
        [.abre 7, .equipaje 7, .cierra 7 1, .avisa 2 4, .abre 8] ∧
      EnSesiones [(9, 5), (7, 3)] s 1 :=
  ⟨_, rfl, puesto_checkin_en_sesiones ⟨dosVuelos, rfl⟩ 1⟩

end PuestoCheckin
