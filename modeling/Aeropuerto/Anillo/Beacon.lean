import Aeropuerto.Biblioteca.Empaquetado

/-!
# The beacons of the ring (`group/ring.py`, `beacon_service.py`)

A node that waits for a neighbour broadcasts an OPEN beacon; the beacon service of each host wraps it with
the address it came from and hands it to the nodes of that host, which parse it in `head`.  A datagram is
cut at `BEACON_BUF_MAX_SIZE` where it is received.
-/

namespace Beacon

open Empaquetado

/-- `beacon buf max size` of `config.ini`. -/
def bufMaxSize : Nat := 512

-- 'OPEN' and 'FIND'
def tipoOpen : List UInt8 := [79, 80, 69, 78]
def tipoFind : List UInt8 := [70, 73, 78, 68]

/-- The last arguments of `create_beacon`, absent when `with_local_name` is false. -/
structure Local where
  localhostNameLen : Nat
  serviceNameLen : Nat
  localhostName : List UInt8
  serviceName : List UInt8

/-- `create_beacon`, with `none` for a failed assertion or a `struct.error`. -/
def createBeacon (beaconType : List UInt8) (groupId leaderNameLen : Nat) (leaderName : List UInt8)
    (conLocal : Option Local) : Option (List UInt8) :=
  if beaconType.length = 4 ∧ 0 < groupId ∧ groupId < 2 ^ 16 ∧ 0 < leaderNameLen ∧
      leaderNameLen < 2 ^ 8 ∧ leaderName.length = leaderNameLen then
    match conLocal with
    | some l =>
      if 0 < l.localhostNameLen ∧ l.localhostNameLen < 2 ^ 8 ∧
          l.localhostName.length = l.localhostNameLen ∧ l.serviceName.length = l.serviceNameLen then
        empaquetar [(.s 4, .cadena beaconType), (.H, .numero groupId), (.B, .numero leaderNameLen),
          (.B, .numero l.localhostNameLen), (.B, .numero l.serviceNameLen),
          (.s leaderNameLen, .cadena leaderName), (.s l.localhostNameLen, .cadena l.localhostName),
          (.s l.serviceNameLen, .cadena l.serviceName)]
      else none
    | none =>
      empaquetar [(.s 4, .cadena beaconType), (.H, .numero groupId), (.B, .numero leaderNameLen),
        (.s leaderNameLen, .cadena leaderName)]
  else none

/-- The beacon that `tail` sends. -/
def tail (groupId : Nat) (leaderName localhostName serviceName : List UInt8) : Option (List UInt8) := do
  let beacon ← createBeacon tipoOpen groupId leaderName.length leaderName
    (some ⟨localhostName.length, serviceName.length, localhostName, serviceName⟩)
  if beacon.length = 4 + 2 + 1 + 1 + 1 + leaderName.length + localhostName.length + serviceName.length ∧
      beacon.length < bufMaxSize then some beacon else none

/-- `recvfrom(BEACON_BUF_MAX_SIZE)`. -/
def recvfrom (datagrama : List UInt8) : List UInt8 := datagrama.take bufMaxSize

/-- What `beacon_service` sends to the nodes of its host. -/
def envolver (peer datagrama : List UInt8) : Option (List UInt8) :=
  let msg := recvfrom datagrama
  match desempaquetar [.s 4] (msg.take 4) with
  | some [.cadena tipo] =>
    if tipo = tipoOpen ∨ tipo = tipoFind then
      empaquetar [(.H, .numero peer.length), (.s peer.length, .cadena peer), (.s msg.length, .cadena msg)]
    else none
  | _ => none

/-- What `head` makes of a datagram. -/
inductive Lectura where
  -- a struct.error that is not caught
  | structError
  -- InvalidNetworkMessage
  | invalido
  -- a FIND beacon
  | drop
  | otroGrupo (tipo : List UInt8) (externalGroupId : Nat)
  | remoto (tipo : List UInt8) (externalGroupId : Nat)
      (remoteLeaderName remoteHostName remoteServiceName : List UInt8)
  deriving DecidableEq

/-- The inner `try` of `head`. -/
def leer (groupId : Nat) (msg : List UInt8) : Lectura :=
  match desempaquetar [.s 4, .H] (msg.take 6) with
  | some [.cadena tipo, .numero externalGroupId] =>
    if tipo = tipoFind then .drop
    else if tipo ≠ tipoOpen then .invalido
    else if groupId ≠ externalGroupId then .otroGrupo tipo externalGroupId
    else
      match desempaquetar [.B, .B, .B] ((msg.drop 6).take 3) with
      | some [.numero leaderLen, .numero hostLen, .numero serviceLen] =>
        match desempaquetar [.s leaderLen, .s hostLen, .s serviceLen] (msg.drop 9) with
        | some [.cadena leader, .cadena host, .cadena service] =>
          .remoto tipo externalGroupId leader host service
        | _ => .invalido
      | _ => .invalido
  | _ => .invalido

def head (groupId : Nat) (datagrama : List UInt8) : Lectura :=
  let wrappedMsg := recvfrom datagrama
  match desempaquetar [.H] (wrappedMsg.take 2) with
  | some [.numero peerLen] =>
    match desempaquetar [.s peerLen] ((wrappedMsg.take (peerLen + 2)).drop 2) with
    | some _ => leer groupId (wrappedMsg.drop (peerLen + 2))
    | none => .structError
  | _ => .structError

/-- A beacon that a node may send. -/
structure Abierto where
  groupId : Nat
  leaderName : List UInt8
  localhostName : List UInt8
  serviceName : List UInt8
  bytes : List UInt8
  admitido : tail groupId leaderName localhostName serviceName = some bytes

namespace Abierto

/-- A node of the group `g` reads what was encoded; one of another group reads the type and the group,
    and skips the beacon. -/
def lectura (a : Abierto) (g : Nat) : Lectura :=
  if g = a.groupId then .remoto tipoOpen a.groupId a.leaderName a.localhostName a.serviceName
  else .otroGrupo tipoOpen a.groupId

/-- The beacon, wrapped with the address `peer`, is understood by a node of the group `g`. -/
def Entendido (a : Abierto) (peer : List UInt8) (g : Nat) : Prop :=
  ∃ datagrama, envolver peer a.bytes = some datagrama ∧ head g datagrama = a.lectura g

/-- How much of the beacon a node of the group `g` reads. -/
def necesita (a : Abierto) (g : Nat) : Nat := if g = a.groupId then a.bytes.length else 6

end Abierto

/-! ## The parts of a beacon -/

def cabecera (groupId : Nat) : List (Campo × Valor) := [(.s 4, .cadena tipoOpen), (.H, .numero groupId)]

def largos (leader host service : List UInt8) : List (Campo × Valor) :=
  [(.B, .numero leader.length), (.B, .numero host.length), (.B, .numero service.length)]

def nombres (leader host service : List UInt8) : List (Campo × Valor) :=
  [(.s leader.length, .cadena leader), (.s host.length, .cadena host),
    (.s service.length, .cadena service)]

variable {a : Abierto} {peer : List UInt8} {g m : Nat}

theorem Abierto.partes (a : Abierto) : ∃ b₁ b₂ b₃, a.bytes = b₁ ++ (b₂ ++ b₃) ∧
    empaquetar (cabecera a.groupId) = some b₁ ∧
    empaquetar (largos a.leaderName a.localhostName a.serviceName) = some b₂ ∧
    empaquetar (nombres a.leaderName a.localhostName a.serviceName) = some b₃ ∧
    a.bytes.length < bufMaxSize := by
  obtain ⟨beacon, hcrea, hcabe⟩ := Option.bind_eq_some_iff.mp a.admitido
  split at hcabe
  case isFalse => cases hcabe
  case isTrue hlargo =>
    cases hcabe
    rw [createBeacon] at hcrea
    split at hcrea
    case isFalse => cases hcrea
    case isTrue =>
      dsimp only at hcrea
      split at hcrea
      case isFalse => cases hcrea
      case isTrue =>
        change empaquetar (cabecera a.groupId ++
          (largos a.leaderName a.localhostName a.serviceName ++
            nombres a.leaderName a.localhostName a.serviceName)) = _ at hcrea
        obtain ⟨b₁, b', h₁, h', hb⟩ := empaquetar_append_inv hcrea
        obtain ⟨b₂, b₃, h₂, h₃, rfl⟩ := empaquetar_append_inv h'
        exact ⟨b₁, b₂, b₃, hb, h₁, h₂, h₃, hlargo.2⟩

theorem exacto_cabecera (groupId : Nat) : ∀ p ∈ cabecera groupId, Exacto p := by
  simp [cabecera, Exacto, tipoOpen]

theorem exacto_largos (leader host service : List UInt8) :
    ∀ p ∈ largos leader host service, Exacto p := by
  simp [largos, Exacto]

theorem exacto_nombres (leader host service : List UInt8) :
    ∀ p ∈ nombres leader host service, Exacto p := by
  simp [nombres, Exacto]

/-! ## Reading a beacon that has been cut -/

/-- The first six bytes are enough to tell the group. -/
theorem leer_cabecera (a : Abierto) (hm : 6 ≤ m) :
    desempaquetar [.s 4, .H] ((a.bytes.take m).take 6) = some [.cadena tipoOpen, .numero a.groupId] := by
  obtain ⟨b₁, b₂, b₃, hb, h₁, -⟩ := a.partes
  have hlargo : b₁.length = 6 := empaquetar_length h₁
  rw [List.take_take, Nat.min_eq_left hm, hb, List.take_left' hlargo]
  exact desempaquetar_empaquetar (exacto_cabecera _) h₁

theorem leer_largos (a : Abierto) (hm : 9 ≤ m) :
    desempaquetar [.B, .B, .B] (((a.bytes.take m).drop 6).take 3) =
      some [.numero a.leaderName.length, .numero a.localhostName.length,
        .numero a.serviceName.length] := by
  obtain ⟨b₁, b₂, b₃, hb, h₁, h₂, -⟩ := a.partes
  have hlargo₁ : b₁.length = 6 := empaquetar_length h₁
  have hlargo₂ : b₂.length = 3 := empaquetar_length h₂
  rw [List.drop_take, List.take_take, Nat.min_eq_left (by omega), hb, List.drop_left' hlargo₁,
    List.take_left' hlargo₂]
  exact desempaquetar_empaquetar (exacto_largos _ _ _) h₂

theorem leer_nombres (a : Abierto) :
    desempaquetar [.s a.leaderName.length, .s a.localhostName.length, .s a.serviceName.length]
        (a.bytes.drop 9) =
      some [.cadena a.leaderName, .cadena a.localhostName, .cadena a.serviceName] ∧
    a.bytes.length = 9 + calcsize [.s a.leaderName.length, .s a.localhostName.length,
      .s a.serviceName.length] := by
  obtain ⟨b₁, b₂, b₃, hb, h₁, h₂, h₃, -⟩ := a.partes
  have hlargo₁ : b₁.length = 6 := empaquetar_length h₁
  have hlargo₂ : b₂.length = 3 := empaquetar_length h₂
  constructor
  · rw [hb, ← List.append_assoc, List.drop_left' (by rw [List.length_append, hlargo₁, hlargo₂])]
    exact desempaquetar_empaquetar (exacto_nombres _ _ _) h₃
  · rw [hb, List.length_append, List.length_append, hlargo₁, hlargo₂, empaquetar_length h₃]
    rw [← Nat.add_assoc]
    rfl

theorem leer_otro (h : 6 ≤ m) (hg : g ≠ a.groupId) : leer g (a.bytes.take m) = a.lectura g := by
  rw [leer, leer_cabecera a h, Abierto.lectura, if_neg hg]
  dsimp only
  rw [if_neg (by decide), if_neg (fun hno => hno rfl), if_pos hg]

theorem leer_propio (h : a.bytes.length ≤ m) : leer a.groupId (a.bytes.take m) = a.lectura a.groupId := by
  obtain ⟨hnombres, hlargo⟩ := leer_nombres a
  rw [leer, leer_cabecera a (by omega), Abierto.lectura, if_pos rfl]
  dsimp only
  rw [if_neg (by decide), if_neg (fun hno => hno rfl), if_neg (fun hno => hno rfl),
    leer_largos a (by omega)]
  dsimp only
  rw [List.take_of_length_le h, hnombres]

/-- What has lost its end does not have the names that it announces. -/
theorem leer_cortado (h : m < a.bytes.length) : leer a.groupId (a.bytes.take m) = .invalido := by
  obtain ⟨-, hlargo⟩ := leer_nombres a
  have hm : (a.bytes.take m).length = m := List.length_take_of_le (by omega)
  by_cases hseis : 6 ≤ m
  · rw [leer, leer_cabecera a hseis]
    dsimp only
    rw [if_neg (by decide), if_neg (fun hno => hno rfl), if_neg (fun hno => hno rfl)]
    by_cases hnueve : 9 ≤ m
    · rw [leer_largos a hnueve]
      dsimp only
      rw [desempaquetar_none (by rw [List.length_drop, hm]; omega)]
    · rw [desempaquetar_none (by
        rw [List.length_take, List.length_drop, hm, calcsize]
        simp [Campo.tamanio]
        omega)]
  · rw [leer, desempaquetar_none (by
      rw [List.length_take, hm, calcsize]
      simp [Campo.tamanio]
      omega)]

theorem leer_sin_cabecera (h : m < 6) (msg : List UInt8) : leer g (msg.take m) = .invalido := by
  rw [leer, desempaquetar_none (by
    rw [List.length_take, List.length_take, calcsize]
    simp [Campo.tamanio]
    omega)]

/-- A beacon that keeps `m` bytes is read as it was sent when these are the ones that are needed. -/
theorem leer_iff (a : Abierto) (g m : Nat) : leer g (a.bytes.take m) = a.lectura g ↔ a.necesita g ≤ m := by
  by_cases hg : g = a.groupId
  · subst hg
    rw [Abierto.necesita, if_pos rfl]
    refine ⟨fun h => ?_, leer_propio⟩
    by_contra hcorta
    rw [leer_cortado (by omega), Abierto.lectura, if_pos rfl] at h
    cases h
  · rw [Abierto.necesita, if_neg hg]
    refine ⟨fun h => ?_, fun h => leer_otro h hg⟩
    by_contra hcorta
    rw [leer_sin_cabecera (by omega), Abierto.lectura, if_neg hg] at h
    cases h

/-! ## The wrapping -/

theorem necesita_pos (a : Abierto) (g : Nat) : 0 < a.necesita g := by
  have hlargo := (leer_nombres a).2
  rw [Abierto.necesita]
  split <;> omega

/-- The service accepts the beacon, and wraps it when the address has a length that can be packed. -/
theorem envolver_eq (a : Abierto) (peer : List UInt8) : envolver peer a.bytes =
    empaquetar [(.H, .numero peer.length), (.s peer.length, .cadena peer),
      (.s a.bytes.length, .cadena a.bytes)] := by
  obtain ⟨b₁, b₂, b₃, hb, h₁, -, -, hcabe⟩ := a.partes
  have hmsg : recvfrom a.bytes = a.bytes := List.take_of_length_le (Nat.le_of_lt hcabe)
  obtain ⟨b₀, bg, h₀, hg, rfl⟩ := empaquetar_cons_inv h₁
  have hlargo : b₀.length = 4 := empaquetarCampo_length h₀
  have htipo : desempaquetar [.s 4] (a.bytes.take 4) = some [.cadena tipoOpen] := by
    rw [hb, List.append_assoc, List.take_left' hlargo]
    have hcampo : empaquetar [(.s 4, .cadena tipoOpen)] = some (b₀ ++ []) := empaquetar_cons h₀ rfl
    rw [List.append_nil] at hcampo
    exact desempaquetar_empaquetar (by simp [Exacto, tipoOpen]) hcampo
  rw [envolver, hmsg, htipo]
  rfl

theorem empaquetar_cadenas (xs ys : List UInt8) :
    empaquetar [(.s xs.length, .cadena xs), (.s ys.length, .cadena ys)] = some (xs ++ ys) := by
  have h : empaquetar [(.s xs.length, .cadena xs), (.s ys.length, .cadena ys)] = some (xs ++ (ys ++ [])) :=
    empaquetar_cons (empaquetarCampo_cadena xs) (empaquetar_cons (empaquetarCampo_cadena ys) rfl)
  rwa [List.append_nil] at h

theorem envolver_some {datagrama : List UInt8} (h : envolver peer a.bytes = some datagrama) :
    ∃ largo, empaquetar [(.H, .numero peer.length)] = some largo ∧
      datagrama = largo ++ (peer ++ a.bytes) := by
  rw [envolver_eq] at h
  obtain ⟨largo, resto, hl, hresto, rfl⟩ := empaquetar_cons_inv h
  cases hresto.symm.trans (empaquetar_cadenas peer a.bytes)
  refine ⟨largo, ?_, rfl⟩
  have hlargo : empaquetar [(.H, .numero peer.length)] = some (largo ++ []) := empaquetar_cons hl rfl
  rwa [List.append_nil] at hlargo

theorem envolver_cabe (a : Abierto) (h : peer.length < 65536) :
    ∃ largo, empaquetar [(.H, .numero peer.length)] = some largo ∧
      envolver peer a.bytes = some (largo ++ (peer ++ a.bytes)) := by
  have hcampo : empaquetarCampo .H (.numero peer.length) =
      some [UInt8.ofNat (peer.length / 256), UInt8.ofNat (peer.length % 256)] := if_pos h
  refine ⟨_, empaquetar_cons hcampo rfl, ?_⟩
  rw [envolver_eq]
  exact empaquetar_cons hcampo (empaquetar_cadenas peer a.bytes)

/-- The address and its length take their part of the datagram first. -/
theorem head_eq {largo : List UInt8} (h : empaquetar [(.H, .numero peer.length)] = some largo) (g : Nat)
    (msg : List UInt8) : head g (largo ++ (peer ++ msg)) =
      if peer.length + 2 ≤ bufMaxSize then leer g (msg.take (bufMaxSize - (peer.length + 2)))
      else .structError := by
  have hdos : largo.length = 2 := empaquetar_length h
  have hlargo : desempaquetar [.H] ((recvfrom (largo ++ (peer ++ msg))).take 2) =
      some [.numero peer.length] := by
    rw [recvfrom, List.take_take, Nat.min_eq_left (by decide), List.take_left' hdos]
    exact desempaquetar_empaquetar (by simp [Exacto]) h
  have hpeer : ((recvfrom (largo ++ (peer ++ msg))).take (peer.length + 2)).drop 2 =
      (peer ++ msg).take (min (peer.length + 2) bufMaxSize - 2) := by
    rw [recvfrom, List.take_take, List.drop_take, List.drop_left' hdos]
  rw [head, hlargo]
  dsimp only
  rw [hpeer]
  by_cases hcabe : peer.length + 2 ≤ bufMaxSize
  · have hresto : (recvfrom (largo ++ (peer ++ msg))).drop (peer.length + 2) =
        msg.take (bufMaxSize - (peer.length + 2)) := by
      rw [recvfrom, List.drop_take, Nat.add_comm peer.length 2, ← List.drop_drop, List.drop_left' hdos,
        List.drop_left' rfl]
    have hdes : desempaquetar [.s peer.length] peer = some [.cadena peer] := by
      have hcampo : empaquetar [(.s peer.length, .cadena peer)] = some (peer ++ []) :=
        empaquetar_cons (empaquetarCampo_cadena peer) rfl
      rw [List.append_nil] at hcampo
      exact desempaquetar_empaquetar (by simp [Exacto]) hcampo
    rw [if_pos hcabe, Nat.min_eq_left hcabe, Nat.add_sub_cancel, List.take_left' rfl, hdes, hresto]
  · -- the address itself has been cut
    have hmax : bufMaxSize = 512 := rfl
    rw [if_neg hcabe, Nat.min_eq_right (by omega), desempaquetar_none (by
      rw [List.length_take, List.length_append, calcsize]
      simp [Campo.tamanio]
      omega)]

/-- A beacon is understood exactly when the datagram that carries it and the address of its sender keeps
    all that its receiver reads. -/
theorem entendido_iff (a : Abierto) (peer : List UInt8) (g : Nat) :
    a.Entendido peer g ↔ 2 + peer.length + a.necesita g ≤ bufMaxSize := by
  have hpos := necesita_pos a g
  constructor
  · rintro ⟨datagrama, henvuelve, hhead⟩
    obtain ⟨largo, hl, rfl⟩ := envolver_some henvuelve
    rw [head_eq hl] at hhead
    split at hhead
    case isTrue hcabe =>
      have hnecesita := (leer_iff a g _).mp hhead
      omega
    case isFalse =>
      rw [Abierto.lectura] at hhead
      split at hhead <;> cases hhead
  · intro hcabe
    have hmenor : peer.length < 65536 := by
      have hmax : bufMaxSize = 512 := rfl
      omega
    obtain ⟨largo, hl, henvuelve⟩ := envolver_cabe a hmenor
    refine ⟨largo ++ (peer ++ a.bytes), henvuelve, ?_⟩
    rw [head_eq hl, if_pos (by omega)]
    exact (leer_iff a g _).mpr (by omega)

def direccion : List UInt8 := "('10.0.0.1', 9001)".toList.map fun c => UInt8.ofNat c.toNat

/-- A beacon of 511 bytes. -/
def largo : Abierto where
  groupId := 1
  leaderName := List.replicate 255 97
  localhostName := List.replicate 243 98
  serviceName := [57, 48, 48, 48]
  bytes := tipoOpen ++ [0, 1, 255, 243, 4] ++ List.replicate 255 97 ++ List.replicate 243 98 ++
    [57, 48, 48, 48]
  admitido := by decide +kernel

/-- It fits in a datagram, but not together with the address of its sender. -/
theorem largo_cortado : ¬largo.Entendido direccion 1 := by
  rintro ⟨datagrama, henvuelve, hhead⟩
  have henvuelto : some datagrama = some ([0, 18] ++ direccion ++ largo.bytes) := by
    rw [← henvuelve]
    decide +kernel
  cases henvuelto
  revert hhead
  decide +kernel

end Beacon
