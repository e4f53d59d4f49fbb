import Aeropuerto.Anillo.EleccionLiderSegura

/-!
# The election ends

Every step of the two processes of a node lowers a measure of what is left to do, so that the messages
leave the ring; the node with the greatest name is then the leader.
-/

namespace EleccionLider

open Ejecucion Ronda

variable {n : Nat} {ν : Type} [LinearOrder ν] [NeZero n] {P : Parametros n ν} {g k : Fin n}
  {s t u : Estado n ν} {d : Nodo ν} {m : Mensaje ν}

/-! ## The measure -/

/-- What the two messages that a node still has to push will cost. -/
def porEmpujar (P : Parametros n ν) : Fase → Nat
  | .inicio => 2 * (2 * P.ttl + 3)
  | .tail => 2 * P.ttl + 3
  | .passage => 0

def pesoDe (P : Parametros n ν) (d : Nodo ν) : Nat :=
  porEmpujar P d.fase + (d.userlandOutboundQueue.map fun m => 2 * m.ttl + 2).sum

/-- A message can cross as many links as its TTL says, and each node twice as many queues. -/
def medida (P : Parametros n ν) (s : Estado n ν) : Nat :=
  s.total (pesoDe P) fun m => 2 * m.ttl + 1

omit [LinearOrder ν] [NeZero n] in
theorem medida_pon (P : Parametros n ν) (s : Estado n ν) (k : Fin n) (d : Nodo ν) :
    medida P (s.pon k d) + pesoDe P (s.nodo k) = medida P s + pesoDe P d :=
  s.total_pon k d

omit [LinearOrder ν] [NeZero n] in
theorem pesoDe_push (P : Parametros n ν) (d : Nodo ν) (m : Mensaje ν) :
    pesoDe P (d.push m) = pesoDe P d + (2 * m.ttl + 2) := by
  unfold pesoDe Nodo.push
  rw [List.map_append, List.sum_append, List.map_singleton, List.sum_singleton, Nat.add_assoc]

omit [LinearOrder ν] [NeZero n] in
theorem pesoDe_congr {d' : Nodo ν} (hfase : d'.fase = d.fase)
    (hcola : d'.userlandOutboundQueue = d.userlandOutboundQueue) : pesoDe P d' = pesoDe P d := by
  unfold pesoDe
  rw [hfase, hcola]

omit [NeZero n] in
/-- A message that is passed on has lost a unit of TTL. -/
theorem pesoDe_recibirLoop (P : Parametros n ν) (nombre : ν) (d : Nodo ν) (m : Mensaje ν) :
    pesoDe P (recibirLoop nombre d m) ≤ pesoDe P d + 2 * m.ttl := by
  rcases Nat.eq_zero_or_pos m.ttl with hcero | hpos
  · unfold recibirLoop
    rw [if_pos (Nat.le_of_eq hcero)]
    exact Nat.le_add_right _ _
  · rcases recibirLoop_casos nombre d hpos with ⟨-, -, hr⟩ | ⟨-, hr⟩ | ⟨-, -, hr⟩
    · rw [hr, pesoDe_congr (d := d) rfl rfl]
      exact Nat.le_add_right _ _
    · rw [hr]
      exact Nat.le_add_right _ _
    · have hseguir : pesoDe P (seguir d m) = pesoDe P d := pesoDe_congr rfl rfl
      rw [hr, pesoDe_push, hseguir]
      dsimp only
      omega

omit [LinearOrder ν] [NeZero n] in
/-- A node pushes one of its two messages. -/
theorem medida_arranca (hcola : d.userlandOutboundQueue = (s.nodo k).userlandOutboundQueue ++ [m])
    (hm : m.ttl = P.ttl) (hfase : porEmpujar P d.fase + (2 * P.ttl + 3) = porEmpujar P (s.nodo k).fase) :
    medida P (s.pon k d) < medida P s := by
  have hsuma := medida_pon P s k d
  have hpeso : pesoDe P d + 1 = pesoDe P (s.nodo k) := by
    unfold pesoDe
    rw [hcola, List.map_append, List.sum_append, List.map_singleton, List.sum_singleton, hm]
    omega
  omega

omit [NeZero n] in
theorem medida_inbound (h : pasoInbound P s k = some t) : medida P t < medida P s := by
  unfold pasoInbound at h
  cases hfase : (s.nodo k).fase with
  | inicio =>
    simp only [hfase] at h
    cases h
    refine medida_arranca rfl rfl ?_
    rw [hfase]
    simp only [porEmpujar]
    omega
  | tail =>
    simp only [hfase] at h
    cases h
    refine medida_arranca rfl rfl ?_
    rw [hfase]
    simp only [porEmpujar]
    omega
  | passage =>
    simp only [hfase] at h
    obtain ⟨⟨m, u⟩, hu, rfl⟩ := Option.map_eq_some_iff.mp h
    have htoma : medida P u + (2 * m.ttl + 1) = medida P s := total_toma hu
    have hsuma := medida_pon P u k (recibirLoop (P.localhostName k) (s.nodo k) m)
    have hpeso := pesoDe_recibirLoop P (P.localhostName k) (s.nodo k) m
    rw [nodo_toma hu] at hsuma
    dsimp only
    omega

theorem medida_outbound (h : pasoOutbound P s k = some t) : medida P t < medida P s := by
  unfold pasoOutbound at h
  split at h
  case h_2 => cases h
  rename_i m resto hcola
  cases h
  have hpeso : ∀ r : Nodo ν × Bool, r.1.fase = (s.nodo k).fase → r.1.userlandOutboundQueue = resto →
      medida P (enviarLoop s k m r) < medida P s := by
    intro r hfase hr
    have hsuma := medida_pon P s k r.1
    have hantes : pesoDe P (s.nodo k) = pesoDe P r.1 + (2 * m.ttl + 2) := by
      unfold pesoDe
      rw [hcola, hr, hfase, List.map_cons, List.sum_cons]
      omega
    have henvia : medida P (enviarLoop s k m r) = medida P (s.pon k r.1) + _ := total_envia _ k _
    rw [henvia]
    cases r.2 with
    | true =>
      rw [if_pos rfl, List.map_singleton, List.sum_singleton]
      omega
    | false =>
      rw [if_neg nofun, List.map_nil, List.sum_nil]
      omega
  rcases handleOutbound_casos (P.localhostName k) { s.nodo k with userlandOutboundQueue := resto } m with
    ⟨-, -, hr⟩ | ⟨-, -, hr⟩ | ⟨-, hr⟩
  · rw [hr]
    exact hpeso _ rfl rfl
  · rw [hr]
    exact hpeso _ rfl rfl
  · rw [hr]
    exact hpeso _ rfl rfl

theorem medida_paso {e : Evento n} (h : paso P s e = some t) : medida P t < medida P s := by
  cases e with
  | inbound k => exact medida_inbound h
  | outbound k => exact medida_outbound h

omit [LinearOrder ν] [NeZero n] in
theorem medida_inicial (P : Parametros n ν) : medida P (inicial P) = n * (2 * (2 * P.ttl + 3)) := by
  unfold medida total inicial pesoDe porEmpujar
  simp

/-! ## The election -/

/-- The message is in some queue or link of the ring. -/
def EnVuelo (s : Estado n ν) (m : Mensaje ν) : Prop :=
  ∃ k, m ∈ s.enlace k ∨ m ∈ (s.nodo k).userlandOutboundQueue

omit [LinearOrder ν] in
theorem EnVuelo.tramo (h : EnVuelo s m) : ∃ k, m ∈ tramo s k := by
  obtain ⟨k, hm | hm⟩ := h
  · refine ⟨k - 1, List.mem_append_left _ ?_⟩
    rwa [sub_add_cancel]
  · exact ⟨k, List.mem_append_right _ hm⟩

/-- Every message in the ring has crossed fewer than `n` links. -/
theorem Inv.saltos (hi : Inv P g s) (h : EnVuelo s m) : P.ttl < m.ttl + n := by
  obtain ⟨k, hm⟩ := h.tramo
  obtain ⟨o, -, hsuma, -⟩ := hi.orden.forma k m hm
  have hlt := desde_lt o k
  omega

theorem bloqueado_vacio (h : Bloqueado (paso P) s) :
    (∀ k, (s.nodo k).fase = .passage) ∧ ∀ m, ¬ EnVuelo s m := by
  have hfase : ∀ k, (s.nodo k).fase = .passage := by
    intro k
    have hk : pasoInbound P s k = none := h (.inbound k)
    unfold pasoInbound at hk
    cases hfase : (s.nodo k).fase with
    | passage => rfl
    | inicio =>
      simp only [hfase] at hk
      cases hk
    | tail =>
      simp only [hfase] at hk
      cases hk
  refine ⟨hfase, fun m ⟨k, hm⟩ => ?_⟩
  rcases hm with hm | hm
  · have hk : pasoInbound P s k = none := h (.inbound k)
    unfold pasoInbound toma at hk
    simp only [hfase] at hk
    cases henlace : s.enlace k with
    | nil =>
      rw [henlace] at hm
      cases hm
    | cons m' resto =>
      rw [henlace] at hk
      cases hk
  · have hk : pasoOutbound P s k = none := h (.outbound k)
    unfold pasoOutbound at hk
    split at hk
    · cases hk
    · rename_i hcola
      rw [hcola] at hm
      cases hm

theorem Inv.elegido_bloqueado (hi : Inv P g s) (h : Bloqueado (paso P) s) : (s.nodo g).iniciados = 1 := by
  obtain ⟨hfase, hvacio⟩ := bloqueado_vacio h
  have hcero : lideres P g s = 0 := by
    unfold lideres total lideresDe
    have hnodos : ∀ k, (s.nodo k).userlandOutboundQueue = [] := fun k =>
      List.eq_nil_iff_forall_not_mem.mpr fun m hm => hvacio m ⟨k, .inr hm⟩
    have henlaces : ∀ k, s.enlace k = [] := fun k =>
      List.eq_nil_iff_forall_not_mem.mpr fun m hm => hvacio m ⟨k, .inl hm⟩
    simp only [hnodos, henlaces, List.map_nil, List.sum_nil, Finset.sum_const_zero, Nat.add_zero]
  have hcuenta := hi.cuenta
  rw [hcero, hfase, if_pos rfl] at hcuenta
  omega

omit [NeZero n] in
theorem recibirLoop_iniciados (nombre : ν) (d : Nodo ν) (m : Mensaje ν) :
    d.iniciados ≤ (recibirLoop nombre d m).iniciados := by
  rcases Nat.eq_zero_or_pos m.ttl with hcero | hpos
  · unfold recibirLoop
    rw [if_pos (Nat.le_of_eq hcero)]
  · rcases recibirLoop_casos nombre d hpos with ⟨-, -, hr⟩ | ⟨-, hr⟩ | ⟨-, -, hr⟩
    · rw [hr]
      unfold asumir
      dsimp only
      split
      · exact Nat.le_refl _
      · exact Nat.le_succ _
    · rw [hr]
    · rw [hr]
      exact Nat.le_refl _

/-- A start is not forgotten. -/
theorem iniciados_le {e : Evento n} (h : paso P s e = some t) (j : Fin n) :
    (s.nodo j).iniciados ≤ (t.nodo j).iniciados := by
  have hpon : ∀ {k : Fin n} {d : Nodo ν}, (s.nodo k).iniciados ≤ d.iniciados →
      (s.nodo j).iniciados ≤ ((s.pon k d).nodo j).iniciados := by
    intro k d hd
    by_cases hj : j = k
    · rw [hj, nodo_pon_self]
      exact hd
    · rw [nodo_pon_of_ne hj]
  cases e with
  | inbound k =>
    change pasoInbound P s k = some t at h
    unfold pasoInbound at h
    split at h
    · cases h
      exact hpon (Nat.le_refl _)
    · cases h
      exact hpon (Nat.le_refl _)
    · obtain ⟨⟨m, u⟩, hu, rfl⟩ := Option.map_eq_some_iff.mp h
      have hle := hpon (recibirLoop_iniciados (P.localhostName k) (s.nodo k) m)
      unfold pon at hle ⊢
      dsimp only at hle ⊢
      rwa [nodo_toma hu]
  | outbound k =>
    change pasoOutbound P s k = some t at h
    unfold pasoOutbound at h
    split at h
    case h_2 => cases h
    rename_i m resto hcola
    cases h
    show _ ≤ ((s.pon k _).nodo j).iniciados
    rcases handleOutbound_casos (P.localhostName k) { s.nodo k with userlandOutboundQueue := resto } m with
      ⟨-, -, hr⟩ | ⟨-, -, hr⟩ | ⟨-, hr⟩
    · rw [hr]
      exact hpon (Nat.le_refl _)
    · rw [hr]
      exact hpon (Nat.le_refl _)
    · rw [hr]
      exact hpon (Nat.le_refl _)

/-- Only the node with the greatest name starts a leader process; from then on every node knows its name
    and the process is not stopped.  Every run ends with the ring empty and the leader elected. -/
theorem eleccion_de_lider (P : Parametros n ν) (hdistintos : Function.Injective P.localhostName)
    (httl : n ≤ P.ttl) :
    ∃ g, (∀ j, P.localhostName j ≤ P.localhostName g) ∧
      (∀ s k, Alcanza (paso P) (inicial P) s → 0 < (s.nodo k).iniciados → k = g ∧
        ∀ t, Alcanza (paso P) s t →
          (∀ j, (t.nodo j).leaderName = P.localhostName g ∧
            (t.nodo j).leaderNameSalida = P.localhostName g) ∧ (t.nodo g).leaderProcess = true) ∧
      (∀ s m, Alcanza (paso P) (inicial P) s → EnVuelo s m → P.ttl < m.ttl + n) ∧
      (∀ es s, correr (paso P) (inicial P) es = some s → es.length ≤ n * (2 * (2 * P.ttl + 3))) ∧
      ∀ s, Alcanza (paso P) (inicial P) s → Bloqueado (paso P) s →
        (∀ m, ¬ EnVuelo s m) ∧ (s.nodo g).iniciados = 1 := by
  obtain ⟨g, hmayor⟩ := Finite.exists_max P.localhostName
  have hg : Mayor P g := ⟨hdistintos, hmayor, httl⟩
  refine ⟨g, hmayor, fun s k hs hpos => ?_, fun s m hs => (inv_alcanza hg hs).saltos, fun es s hes => ?_,
    fun s hs hbloqueado => ⟨(bloqueado_vacio hbloqueado).2, (inv_alcanza hg hs).elegido_bloqueado hbloqueado⟩⟩
  · have hi := inv_alcanza hg hs
    have hk : k = g := by
      by_contra hne
      rw [(hi.otros k hne).2] at hpos
      exact absurd hpos (Nat.lt_irrefl 0)
    subst hk
    refine ⟨rfl, fun t ht => ?_⟩
    have helegido : Inv P k t ∧ 0 < (t.nodo k).iniciados :=
      Alcanza.induccion (I := fun t => Inv P k t ∧ 0 < (t.nodo k).iniciados) ht ⟨hi, hpos⟩
        fun a e b ha hb => ⟨inv_paso ha.1 hg hb, Nat.lt_of_lt_of_le ha.2 (iniciados_le hb k)⟩
    have he := helegido.1.elegido helegido.2
    exact ⟨fun j => ⟨he.leaderName j, he.leaderNameSalida j⟩, he.leaderProcess⟩
  · have hlargo := length_add_le (fun _ _ _ => medida_paso) hes
    rw [medida_inicial] at hlargo
    omega

/-- Three nodes with the TTL of the configuration. -/
def tresNodos : Parametros 3 Nat := ⟨fun k => k.val, 65025⟩

/-- The three push their messages, and those go round. -/
theorem eleccion_de_lider_tres : ∃ s : Estado 3 Nat, Alcanza (paso tresNodos) (inicial tresNodos) s ∧
    (s.nodo 2).iniciados = 1 ∧ (∀ j, (s.nodo j).leaderName = 2) ∧ (s.nodo 2).leaderProcess = true := by
  have hdistintos : Function.Injective tresNodos.localhostName := fun _ _ h => Fin.ext h
  obtain ⟨g, -, hlider, -⟩ := eleccion_de_lider tresNodos hdistintos (by decide)
  have hrun : (correr (paso tresNodos) (inicial tresNodos)
      [.inbound 0, .inbound 0, .inbound 1, .inbound 1, .inbound 2, .inbound 2, .outbound 0, .outbound 0,
        .outbound 1, .outbound 1, .outbound 2, .outbound 2, .inbound 0, .inbound 0, .outbound 0,
        .outbound 0, .inbound 1, .inbound 1, .inbound 1, .inbound 1, .outbound 1, .outbound 1, .outbound 1,
        .inbound 2, .inbound 2, .inbound 2, .inbound 2, .inbound 2]).map
          (fun s => (s.nodo 2).iniciados) = some 1 := by
    decide +kernel
  obtain ⟨s, hs, hiniciados⟩ := Option.map_eq_some_iff.mp hrun
  have hs : Alcanza (paso tresNodos) (inicial tresNodos) s := ⟨_, hs⟩
  obtain ⟨hg, hsigue⟩ := hlider s 2 hs (by rw [hiniciados]; exact Nat.one_pos)
  obtain ⟨hnombres, hproceso⟩ := hsigue s (Alcanza.refl s)
  rw [← hg] at hnombres hproceso
  exact ⟨s, hs, hiniciados, fun j => (hnombres j).1, hproceso⟩

end EleccionLider
