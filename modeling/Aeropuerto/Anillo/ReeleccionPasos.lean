import Aeropuerto.Anillo.EleccionLiderUnica
import Aeropuerto.Anillo.Reeleccion

/-!
# The steps of a ring whose links break

What a step does is told by the messages between the nodes: one is pushed, goes on or is dropped.
-/

namespace Reeleccion

open Ejecucion Ronda EleccionLider

variable {n : Nat} {ν : Type} [LinearOrder ν] [NeZero n] {P : Parametros n ν} {g b c i j k : Fin n}
  {r t : Red n ν} {s u : Estado n ν} {m x y : Mensaje ν} {resto l₁ l₂ : List (Mensaje ν)} {d : Nodo ν}

/-! ## What a step does -/

/-- The outbound process has done something in its node. -/
structure Mismo (d d' : Nodo ν) : Prop where
  fase : d'.fase = d.fase
  leaderName : d'.leaderName = d.leaderName
  leaderProcess : d'.leaderProcess = d.leaderProcess

/-- Why the message `m` behind node `j` goes no further. -/
inductive Motivo (P : Parametros n ν) (r t : Red n ν) (j : Fin n) (m : Mensaje ν) (l₁ : List (Mensaje ν)) :
    Prop
  | menor (tipo : m.tipo = .leader) (h : m.nombre < P.localhostName (j + 1) ∨ m.nombre < P.localhostName j)
  | vuelto (tipo : m.tipo = .linkBroken) (h : m.nombre = P.localhostName (j + 1))
      (fase : (r.anillo.nodo (j + 1)).fase = .passage)
  | perdido (primero : l₁ = []) (rota : r.conexion (j + 1) = .rota) (h : t.conexion (j + 1) ≠ .rota)

/-- A step, told by the stretches of the ring. -/
inductive Movimiento (P : Parametros n ν) (r t : Red n ν) : Prop
  -- a message of its own
  | empuja (k : Fin n) (tipo : Tipo) (fase : (r.anillo.nodo k).fase ≠ .passage)
      (tramo : tramo t.anillo = Function.update (tramo r.anillo) k
        (tramo r.anillo k ++ [⟨tipo, P.localhostName k, P.ttl⟩]))
      (otros : ∀ i, i ≠ k → t.anillo.nodo i = r.anillo.nodo i)
      (leaderName : (t.anillo.nodo k).leaderName = (r.anillo.nodo k).leaderName)
      (leaderProcess : (t.anillo.nodo k).leaderProcess = true → (r.anillo.nodo k).leaderProcess = true)
      (tipos : tipo = .linkBroken ∧ (r.anillo.nodo k).fase = .inicio ∧ (t.anillo.nodo k).fase = .tail ∧
          (t.anillo.nodo k).leaderProcess = false ∨
        tipo = .leader ∧ (r.anillo.nodo k).fase = .tail ∧ (t.anillo.nodo k).fase = .passage)
  | quita (j : Fin n) (m : Mensaje ν) (l₁ l₂ : List (Mensaje ν)) (antes : tramo r.anillo j = l₁ ++ m :: l₂)
      (despues : tramo t.anillo = Function.update (tramo r.anillo) j (l₁ ++ l₂))
      (nodo : ∀ i, Mismo (r.anillo.nodo i) (t.anillo.nodo i)) (motivo : Motivo P r t j m l₁)
  -- its own proposal
  | asume (j : Fin n) (m : Mensaje ν) (resto : List (Mensaje ν)) (antes : tramo r.anillo j = m :: resto)
      (despues : tramo t.anillo = Function.update (tramo r.anillo) j resto)
      (tipo : m.tipo = .leader) (nombre : m.nombre = P.localhostName (j + 1))
      (fase : (r.anillo.nodo (j + 1)).fase = .passage)
      (otros : ∀ i, i ≠ j + 1 → t.anillo.nodo i = r.anillo.nodo i)
      (nodo : t.anillo.nodo (j + 1) = asumir (r.anillo.nodo (j + 1)) m.nombre)
  | sigue (j : Fin n) (m : Mensaje ν) (resto : List (Mensaje ν)) (T : Fin n → List (Mensaje ν))
      (antes : tramo r.anillo j = m :: resto) (hT : T = Function.update (tramo r.anillo) j resto)
      (despues : tramo t.anillo =
        Function.update T (j + 1) (T (j + 1) ++ [{ m with ttl := m.ttl - 1 }]))
      (ajeno : m.nombre ≠ P.localhostName (j + 1))
      (mayor : m.tipo = .leader → P.localhostName (j + 1) < m.nombre)
      (fase : (r.anillo.nodo (j + 1)).fase = .passage)
      (otros : ∀ i, i ≠ j + 1 → t.anillo.nodo i = r.anillo.nodo i)
      (nodo : Mismo (seguir (r.anillo.nodo (j + 1)) m) (t.anillo.nodo (j + 1)))
  -- from the queue to the connection
  | envia (tramo : tramo t.anillo = tramo r.anillo)
      (nodo : ∀ i, Mismo (r.anillo.nodo i) (t.anillo.nodo i))

omit [NeZero n] in
theorem recibirLoop_linkBroken {nombre : ν} (d : Nodo ν) (httl : 0 < m.ttl) (htipo : m.tipo = .linkBroken)
    (hajeno : m.nombre ≠ nombre) :
    recibirLoop nombre d m = (seguir d m).push { m with ttl := m.ttl - 1 } := by
  rcases recibirLoop_casos nombre d httl with ⟨hleader, -⟩ | ⟨-, hr⟩ | ⟨-, -, hr⟩
  · rw [htipo] at hleader
    cases hleader
  · have hlargo := congrArg (fun d : Nodo ν => d.userlandOutboundQueue.length) hr
    unfold recibirLoop handleInbound at hlargo
    rw [if_neg (Nat.not_le.mpr httl), htipo] at hlargo
    simp [hajeno, Nodo.push, clean] at hlargo
  · exact hr

/-- The inbound process of node `j + 1` gets a message of the ring. -/
theorem movimiento_recibe (hT : tramo r.anillo j = m :: resto)
    (htoma : r.anillo.toma (j + 1) = some (m, u)) (httl : 0 < m.ttl)
    (hfase : (r.anillo.nodo (j + 1)).fase = .passage)
    (ht : t.anillo = u.pon (j + 1) (recibirLoop (P.localhostName (j + 1)) (r.anillo.nodo (j + 1)) m)) :
    Movimiento P r t := by
  obtain ⟨resto', hantes, hdespues⟩ := tramo_toma htoma
  rw [hT, List.cons.injEq] at hantes
  rw [← hantes.2] at hdespues
  have hnodo : u.nodo = r.anillo.nodo := nodo_toma htoma
  have hotros : ∀ i, i ≠ j + 1 → t.anillo.nodo i = r.anillo.nodo i := by
    intro i hi
    rw [ht, nodo_pon_of_ne hi, hnodo]
  have hself : t.anillo.nodo (j + 1) =
      recibirLoop (P.localhostName (j + 1)) (r.anillo.nodo (j + 1)) m := by
    rw [ht, nodo_pon_self]
  have hsigue : m.nombre ≠ P.localhostName (j + 1) →
      (m.tipo = .leader → P.localhostName (j + 1) < m.nombre) →
      recibirLoop (P.localhostName (j + 1)) (r.anillo.nodo (j + 1)) m =
        (seguir (r.anillo.nodo (j + 1)) m).push { m with ttl := m.ttl - 1 } → Movimiento P r t := by
    intro hajeno hmayor hr
    refine .sigue j m resto _ hT rfl ?_ hajeno hmayor hfase hotros ?_
    · rw [ht, hr, tramo_pon u (j + 1) [{ m with ttl := m.ttl - 1 }] (by rw [hnodo]; rfl), hdespues]
    · rw [hself, hr]
      exact ⟨rfl, rfl, rfl⟩
  rcases recibirLoop_casos (P.localhostName (j + 1)) (r.anillo.nodo (j + 1)) httl with
    ⟨htipo, hnombre, hr⟩ | ⟨hmenor, hr⟩ | ⟨hajeno, hmayor, hr⟩
  · refine .asume j m resto hT ?_ htipo hnombre hfase hotros (hself.trans hr)
    rw [ht, hr, tramo_pon_igual u (j + 1) (by rw [hnodo]; rfl), hdespues]
  · have hnada : Motivo P r t j m [] → Movimiento P r t := by
      refine .quita j m [] resto hT ?_ fun i => ?_
      · rw [ht, hr, tramo_pon_igual u (j + 1) (by rw [hnodo]), hdespues]
        rfl
      · by_cases hi : i = j + 1
        · rw [hi, hself, hr]
          exact ⟨rfl, rfl, rfl⟩
        · rw [hotros i hi]
          exact ⟨rfl, rfl, rfl⟩
    cases htipo : m.tipo with
    | leader => exact hnada (.menor htipo (.inl (hmenor htipo)))
    | linkBroken =>
      by_cases hpropio : m.nombre = P.localhostName (j + 1)
      · exact hnada (.vuelto htipo hpropio hfase)
      · exact hsigue hpropio (fun h => by rw [htipo] at h; cases h)
          (recibirLoop_linkBroken _ httl htipo hpropio)
  · exact hsigue hajeno hmayor hr

omit [LinearOrder ν] in
theorem tramo_enviarLoop_eq {f : Nodo ν × Bool} (hcola : (s.nodo k).userlandOutboundQueue = m :: resto)
    (hf : f.1.userlandOutboundQueue = resto) :
    tramo (enviarLoop s k m f) =
      Function.update (tramo s) k (s.enlace (k + 1) ++ ((if f.2 then [m] else []) ++ resto)) := by
  funext i
  unfold tramo enviarLoop
  rw [nodo_envia]
  by_cases hi : i = k
  · subst hi
    rw [Function.update_self, nodo_pon_self, hf]
    show Function.update s.enlace (i + 1) (s.enlace (i + 1) ++ _) (i + 1) ++ resto = _
    rw [Function.update_self, List.append_assoc]
  · have hne : i + 1 ≠ k + 1 := fun he => hi (add_left_injective 1 he)
    rw [Function.update_of_ne hi, nodo_pon_of_ne hi]
    show Function.update s.enlace (k + 1) _ (i + 1) ++ _ = _
    rw [Function.update_of_ne hne]

omit [LinearOrder ν] [NeZero n] in
theorem mismo_pon (h : Mismo (s.nodo k) d) (i : Fin n) : Mismo (s.nodo i) ((s.pon k d).nodo i) := by
  by_cases hi : i = k
  · rw [hi, nodo_pon_self]
    exact h
  · rw [nodo_pon_of_ne hi]
    exact ⟨rfl, rfl, rfl⟩

omit [NeZero n] in
theorem handleOutbound_mismo (nombre : ν) (d : Nodo ν) (m : Mensaje ν) :
    Mismo d (handleOutbound nombre d m).1 ∧
      (handleOutbound nombre d m).1.userlandOutboundQueue = d.userlandOutboundQueue ∧
      ((handleOutbound nombre d m).2 = false → m.tipo = .leader ∧ m.nombre < nombre) := by
  rcases handleOutbound_casos nombre d m with ⟨htipo, hmenor, hr⟩ | ⟨-, -, hr⟩ | ⟨-, hr⟩
  · rw [hr]
    exact ⟨⟨rfl, rfl, rfl⟩, rfl, fun _ => ⟨htipo, hmenor⟩⟩
  · rw [hr]
    exact ⟨⟨rfl, rfl, rfl⟩, rfl, fun h => by cases h⟩
  · rw [hr]
    exact ⟨⟨rfl, rfl, rfl⟩, rfl, fun h => by cases h⟩

/-- The connections follow the phases of the nodes, and what is sent arrives. -/
structure Conexiones (r : Red n ν) : Prop where
  establecida : ∀ k, r.conexion k = .establecida ↔ (r.anillo.nodo k).fase = .passage
  vacio : ∀ k, r.conexion k ≠ .establecida → r.anillo.enlace k = []

theorem movimiento_outbound (hc : Conexiones r) (h : r.outbound P k = some t) : Movimiento P r t := by
  unfold Red.outbound at h
  split at h
  · rename_i cola hcon
    obtain ⟨s, hs, rfl⟩ := Option.map_eq_some_iff.mp h
    unfold pasoOutbound at hs
    split at hs
    case h_2 => cases hs
    rename_i m resto hcola
    cases hs
    obtain ⟨hmismo, hresto, hdescarta⟩ := handleOutbound_mismo (P.localhostName k)
      { r.anillo.nodo k with userlandOutboundQueue := resto } m
    have hnodos : ∀ i, Mismo (r.anillo.nodo i) ((enviarLoop r.anillo k m (handleOutbound (P.localhostName k)
        { r.anillo.nodo k with userlandOutboundQueue := resto } m)).nodo i) :=
      mismo_pon ⟨hmismo.fase, hmismo.leaderName, hmismo.leaderProcess⟩
    have htramo := tramo_enviarLoop_eq hcola hresto
    cases hpasa : (handleOutbound (P.localhostName k)
        { r.anillo.nodo k with userlandOutboundQueue := resto } m).2 with
    | true =>
      refine .envia ?_ hnodos
      rw [htramo, hpasa, if_pos rfl, List.singleton_append, ← hcola]
      exact Function.update_eq_self k (tramo r.anillo)
    | false =>
      obtain ⟨htipo, hmenor⟩ := hdescarta hpasa
      refine .quita k m (r.anillo.enlace (k + 1)) resto ?_ ?_ hnodos (.menor htipo (.inr hmenor))
      · unfold tramo
        rw [hcola]
      · rw [htramo, hpasa, if_neg nofun, List.nil_append]
  · rename_i m resto hcon hcola
    cases h
    obtain ⟨hmismo, hresto, hdescarta⟩ := handleOutbound_mismo (P.localhostName k)
      { r.anillo.nodo k with userlandOutboundQueue := resto } m
    have hvacio : r.anillo.enlace (k + 1) = [] := hc.vacio (k + 1) (by rw [hcon]; nofun)
    have hantes : tramo r.anillo k = m :: resto := by
      unfold tramo
      rw [hvacio, hcola]
      rfl
    refine .quita k m [] resto hantes ?_ (mismo_pon ⟨hmismo.fase, hmismo.leaderName, hmismo.leaderProcess⟩) ?_
    · funext i
      by_cases hi : i = k
      · subst hi
        rw [Function.update_self]
        unfold tramo
        rw [nodo_pon_self, hresto]
        show r.anillo.enlace (i + 1) ++ resto = _
        rw [hvacio]
      · rw [Function.update_of_ne hi]
        unfold tramo
        rw [nodo_pon_of_ne hi]
        rfl
    · cases hpasa : (handleOutbound (P.localhostName k)
          { r.anillo.nodo k with userlandOutboundQueue := resto } m).2 with
      | true =>
        refine .perdido rfl hcon ?_
        dsimp only
        rw [if_pos rfl, Function.update_self]
        exact Conexion.noConfusion
      | false =>
        obtain ⟨htipo, hmenor⟩ := hdescarta hpasa
        exact .menor htipo (.inr hmenor)
  · cases h
  · cases h

/-- No message behind a node has used up its TTL. -/
def Vivos (r : Red n ν) : Prop := ∀ k, ∀ m ∈ tramo r.anillo k, 0 < m.ttl

theorem movimiento_passage (hv : Vivos r) (hfase : (r.anillo.nodo k).fase = .passage)
    (h : pasoInbound P r.anillo k = some s) (ht : t.anillo = s) : Movimiento P r t := by
  obtain ⟨j, rfl⟩ : ∃ j, k = j + 1 := ⟨k - 1, (sub_add_cancel k 1).symm⟩
  unfold pasoInbound at h
  simp only [hfase] at h
  obtain ⟨⟨m, u⟩, hu, rfl⟩ := Option.map_eq_some_iff.mp h
  obtain ⟨resto, hantes, -⟩ := tramo_toma hu
  exact movimiento_recibe hantes hu (hv j m (by rw [hantes]; exact List.mem_cons_self)) hfase ht

theorem movimiento_empuja (tipo : Tipo) (hfase : (r.anillo.nodo k).fase ≠ .passage)
    (ht : t.anillo = r.anillo.pon k d)
    (hcola : d.userlandOutboundQueue =
      (r.anillo.nodo k).userlandOutboundQueue ++ [⟨tipo, P.localhostName k, P.ttl⟩])
    (hname : d.leaderName = (r.anillo.nodo k).leaderName)
    (hproceso : d.leaderProcess = true → (r.anillo.nodo k).leaderProcess = true)
    (htipos : tipo = .linkBroken ∧ (r.anillo.nodo k).fase = .inicio ∧ d.fase = .tail ∧
        d.leaderProcess = false ∨
      tipo = .leader ∧ (r.anillo.nodo k).fase = .tail ∧ d.fase = .passage) : Movimiento P r t := by
  have hself : t.anillo.nodo k = d := by rw [ht, nodo_pon_self]
  refine .empuja k tipo hfase ?_ (fun i hi => ?_) ?_ ?_ ?_
  · rw [ht]
    exact tramo_pon _ k _ hcola
  · rw [ht, nodo_pon_of_ne hi]
  · rw [hself, hname]
  · rwa [hself]
  · rwa [hself]

theorem movimiento_inbound (hv : Vivos r) (h : r.inbound P k = some t) : Movimiento P r t := by
  unfold Red.inbound at h
  split at h
  · rename_i con hfase
    obtain ⟨s, hs, rfl⟩ := Option.map_eq_some_iff.mp h
    unfold pasoInbound at hs
    simp only [hfase] at hs
    cases hs
    exact movimiento_empuja .linkBroken (by rw [hfase]; exact Fase.noConfusion) rfl rfl rfl Bool.noConfusion
      (.inl ⟨rfl, hfase, rfl, rfl⟩)
  · rename_i hfase hcon
    obtain ⟨s, hs, rfl⟩ := Option.map_eq_some_iff.mp h
    unfold pasoInbound at hs
    simp only [hfase] at hs
    cases hs
    exact movimiento_empuja .leader (by rw [hfase]; exact Fase.noConfusion) rfl rfl rfl (fun hsi => hsi)
      (.inr ⟨rfl, hfase, rfl⟩)
  · cases h
  · rename_i con hfase
    obtain ⟨s, hs, rfl⟩ := Option.map_eq_some_iff.mp h
    exact movimiento_passage hv hfase hs rfl

theorem movimiento_paso {e : Evento n} (hc : Conexiones r) (hv : Vivos r) (h : pasoRed P r e = some t) :
    Movimiento P r t := by
  cases e with
  | inbound k => exact movimiento_inbound hv h
  | outbound k => exact movimiento_outbound hc h

/-! ## The connections -/

omit [LinearOrder ν] [NeZero n] in
theorem Conexiones.igual (hc : Conexiones r)
    (hfase : ∀ i, (t.anillo.nodo i).fase = (r.anillo.nodo i).fase)
    (hconexion : ∀ i, t.conexion i = .establecida ↔ r.conexion i = .establecida)
    (henlace : ∀ i, r.conexion i ≠ .establecida → r.anillo.enlace i = [] → t.anillo.enlace i = []) :
    Conexiones t where
  establecida i := by rw [hconexion, hfase, hc.establecida]
  vacio i hi := by
    rw [Ne, hconexion] at hi
    exact henlace i hi (hc.vacio i hi)

omit [LinearOrder ν] [NeZero n] in
/-- A node that does not forward yet goes on. -/
theorem Conexiones.avanza (hc : Conexiones r) (hfase : (r.anillo.nodo k).fase ≠ .passage)
    (ht : t.anillo = r.anillo.pon k d)
    (hcon : d.fase ≠ .passage ∧ t.conexion = r.conexion ∨
      d.fase = .passage ∧ t.conexion = Function.update r.conexion k .establecida) : Conexiones t where
  establecida i := by
    by_cases hi : i = k
    · subst hi
      rw [ht, nodo_pon_self]
      rcases hcon with ⟨hd, hcon⟩ | ⟨hd, hcon⟩
      · rw [hcon, hc.establecida]
        exact iff_of_false hfase hd
      · rw [hcon, Function.update_self]
        exact iff_of_true rfl hd
    · rw [ht, nodo_pon_of_ne hi, ← hc.establecida]
      rcases hcon with ⟨-, hcon⟩ | ⟨-, hcon⟩
      · rw [hcon]
      · rw [hcon, Function.update_of_ne hi]
  vacio i hi := by
    rw [ht]
    show r.anillo.enlace i = []
    apply hc.vacio
    rcases hcon with ⟨-, hcon⟩ | ⟨-, hcon⟩
    · rwa [hcon] at hi
    · by_cases hik : i = k
      · rw [hik, hcon, Function.update_self] at hi
        exact absurd rfl hi
      · rwa [hcon, Function.update_of_ne hik] at hi

omit [NeZero n] in
theorem recibirLoop_fase (nombre : ν) (d : Nodo ν) (m : Mensaje ν) : (recibirLoop nombre d m).fase = d.fase := by
  rcases Nat.eq_zero_or_pos m.ttl with hcero | hpos
  · unfold recibirLoop
    rw [if_pos (Nat.le_of_eq hcero)]
  · rcases recibirLoop_casos nombre d hpos with ⟨-, -, hr⟩ | ⟨-, hr⟩ | ⟨-, -, hr⟩
    · rw [hr]
      rfl
    · rw [hr]
    · rw [hr]
      rfl

omit [NeZero n] in
theorem conexiones_inbound (hc : Conexiones r) (h : r.inbound P k = some t) : Conexiones t := by
  unfold Red.inbound at h
  split at h
  · rename_i con hfase
    obtain ⟨s, hs, rfl⟩ := Option.map_eq_some_iff.mp h
    unfold pasoInbound at hs
    simp only [hfase] at hs
    cases hs
    exact hc.avanza (by rw [hfase]; exact Fase.noConfusion) rfl (.inl ⟨Fase.noConfusion, rfl⟩)
  · rename_i hfase hcon
    obtain ⟨s, hs, rfl⟩ := Option.map_eq_some_iff.mp h
    unfold pasoInbound at hs
    simp only [hfase] at hs
    cases hs
    exact hc.avanza (by rw [hfase]; exact Fase.noConfusion) rfl (.inr ⟨rfl, rfl⟩)
  · cases h
  · rename_i con hfase
    obtain ⟨s, hs, rfl⟩ := Option.map_eq_some_iff.mp h
    unfold pasoInbound at hs
    simp only [hfase] at hs
    obtain ⟨⟨m, u⟩, hu, rfl⟩ := Option.map_eq_some_iff.mp hs
    refine hc.igual (fun i => ?_) (fun i => Iff.rfl) fun i _ hvacio => ?_
    · have hnodo : u.nodo = r.anillo.nodo := nodo_toma hu
      by_cases hi : i = k
      · rw [hi]
        exact (congrArg Nodo.fase (nodo_pon_self _)).trans (recibirLoop_fase _ _ _)
      · refine congrArg Nodo.fase ((nodo_pon_of_ne hi _).trans ?_)
        rw [hnodo]
    · refine List.eq_nil_iff_forall_not_mem.mpr fun m' hm' => ?_
      have hmem := mem_toma hu hm'
      rw [hvacio] at hmem
      cases hmem

theorem conexiones_outbound (hc : Conexiones r) (h : r.outbound P k = some t) : Conexiones t := by
  unfold Red.outbound at h
  split at h
  · rename_i cola hcon
    obtain ⟨s, hs, rfl⟩ := Option.map_eq_some_iff.mp h
    unfold pasoOutbound at hs
    split at hs
    case h_2 => cases hs
    rename_i m resto hcola
    cases hs
    have hmismo := (handleOutbound_mismo (P.localhostName k)
      { r.anillo.nodo k with userlandOutboundQueue := resto } m).1
    refine hc.igual (nodo_pon_congr Nodo.fase hmismo.fase) (fun i => Iff.rfl) fun i hi hvacio => ?_
    have hik : i ≠ k + 1 := fun he => hi (he ▸ hcon)
    show Function.update r.anillo.enlace (k + 1) _ i = []
    rw [Function.update_of_ne hik, hvacio]
  · rename_i m resto hcon hcola
    cases h
    have hmismo := (handleOutbound_mismo (P.localhostName k)
      { r.anillo.nodo k with userlandOutboundQueue := resto } m).1
    refine hc.igual (nodo_pon_congr Nodo.fase hmismo.fase) (fun i => ?_) fun i _ hvacio => hvacio
    dsimp only
    split
    · by_cases hi : i = k + 1
      · rw [hi, Function.update_self, hcon]
        exact iff_of_false Conexion.noConfusion Conexion.noConfusion
      · rw [Function.update_of_ne hi]
    · exact Iff.rfl
  · cases h
  · cases h

theorem conexiones_paso {e : Evento n} (hc : Conexiones r) (h : pasoRed P r e = some t) : Conexiones t := by
  cases e with
  | inbound k => exact conexiones_inbound hc h
  | outbound k => exact conexiones_outbound hc h

/-- No connection breaks in a step of the processes. -/
theorem rota_paso {e : Evento n} (h : pasoRed P r e = some t) (i : Fin n) (hi : t.conexion i = .rota) :
    r.conexion i = .rota := by
  cases e with
  | inbound k =>
    change r.inbound P k = some t at h
    unfold Red.inbound at h
    split at h
    · obtain ⟨s, -, rfl⟩ := Option.map_eq_some_iff.mp h
      exact hi
    · obtain ⟨s, -, rfl⟩ := Option.map_eq_some_iff.mp h
      dsimp only at hi
      by_cases hik : i = k
      · rw [hik, Function.update_self] at hi
        cases hi
      · rwa [Function.update_of_ne hik] at hi
    · cases h
    · obtain ⟨s, -, rfl⟩ := Option.map_eq_some_iff.mp h
      exact hi
  | outbound k =>
    change r.outbound P k = some t at h
    unfold Red.outbound at h
    split at h
    · obtain ⟨s, -, rfl⟩ := Option.map_eq_some_iff.mp h
      exact hi
    · cases h
      dsimp only at hi
      split at hi
      · by_cases hik : i = k + 1
        · rw [hik, Function.update_self] at hi
          cases hi
        · rwa [Function.update_of_ne hik] at hi
      · exact hi
    · cases h
    · cases h

/-! ## The order of the messages -/

/-- Without the proposals of the nodes with names greater than that of node `c`. -/
def hasta (P : Parametros n ν) (c : Fin n) (l : List (Mensaje ν)) : List (Mensaje ν) :=
  l.filter fun m => m.tipo = .leader → m.nombre ≤ P.localhostName c

omit [NeZero n] in
theorem mem_hasta {l : List (Mensaje ν)} :
    m ∈ hasta P c l ↔ m ∈ l ∧ (m.tipo = .leader → m.nombre ≤ P.localhostName c) := by
  unfold hasta
  rw [List.mem_filter, decide_eq_true_iff]

omit [NeZero n] in
theorem hasta_update (T : Fin n → List (Mensaje ν)) (k : Fin n) (l : List (Mensaje ν)) :
    (fun i => hasta P c (Function.update T k l i)) =
      Function.update (fun i => hasta P c (T i)) k (hasta P c l) := by
  funext i
  by_cases hi : i = k
  · rw [hi, Function.update_self, Function.update_self]
  · rw [Function.update_of_ne hi, Function.update_of_ne hi]

omit [NeZero n] in
theorem hasta_append_pos (l : List (Mensaje ν)) (hm : m.tipo = .leader → m.nombre ≤ P.localhostName c) :
    hasta P c (l ++ [m]) = hasta P c l ++ [m] := by
  unfold hasta
  rw [List.filter_append, List.filter_cons_of_pos (by rwa [decide_eq_true_iff]), List.filter_nil]

omit [NeZero n] in
theorem hasta_append_neg (l : List (Mensaje ν)) (hm : ¬ (m.tipo = .leader → m.nombre ≤ P.localhostName c)) :
    hasta P c (l ++ [m]) = hasta P c l := by
  unfold hasta
  rw [List.filter_append, List.filter_cons_of_neg (by rwa [decide_eq_true_iff]), List.filter_nil,
    List.append_nil]

/-- The order of the messages from node `c` on. -/
def Ordenada (P : Parametros n ν) (c : Fin n) (r : Red n ν) : Prop :=
  Orden P c (fun k => (r.anillo.nodo k).fase) fun k => hasta P c (tramo r.anillo k)

theorem Ordenada.menos (h : Ordenada P c r) (hT : ∀ k, (tramo t.anillo k).Sublist (tramo r.anillo k))
    (hfase : ∀ k, (t.anillo.nodo k).fase ≠ .passage → (r.anillo.nodo k).fase ≠ .passage) :
    Ordenada P c t :=
  Orden.menos h (fun k => (hT k).filter _) hfase

omit [LinearOrder ν] [NeZero n] in
theorem sublist_update {T : Fin n → List (Mensaje ν)} {l : List (Mensaje ν)} (h : l.Sublist (T k)) (i : Fin n) :
    (Function.update T k l i).Sublist (T i) := by
  by_cases hi : i = k
  · rw [hi, Function.update_self]
    exact h
  · rw [Function.update_of_ne hi]

theorem fase_movimiento (h : Movimiento P r t) (i : Fin n) (hi : (r.anillo.nodo i).fase = .passage) :
    (t.anillo.nodo i).fase = .passage := by
  cases h with
  | empuja k tipo hfase htramo hotros hname hproceso htipos =>
    by_cases hik : i = k
    · exact absurd (hik ▸ hi) hfase
    · rw [hotros i hik, hi]
  | quita j m l₁ l₂ hantes hdespues hnodo hmotivo => rw [(hnodo i).fase, hi]
  | asume j m resto hantes hdespues htipo hnombre hfase hotros hnodo =>
    by_cases hij : i = j + 1
    · rw [hij, hnodo]
      exact hfase
    · rw [hotros i hij, hi]
  | sigue j m resto T hantes hT hdespues hajeno hmayor hfase hotros hnodo =>
    by_cases hij : i = j + 1
    · rw [hij, hnodo.fase]
      exact hfase
    · rw [hotros i hij, hi]
  | envia htramo hnodo => rw [(hnodo i).fase, hi]

theorem ordenada_movimiento (hd : Function.Injective P.localhostName) (hv : Vivos r) (h : Movimiento P r t)
    (ho : Ordenada P c r) : Ordenada P c t := by
  have hfases : ∀ i, (t.anillo.nodo i).fase ≠ .passage → (r.anillo.nodo i).fase ≠ .passage :=
    fun i hi hr => hi (fase_movimiento h i hr)
  cases h with
  | empuja k tipo hfase htramo hotros hname hproceso htipos =>
    by_cases hm : tipo = .leader → P.localhostName k ≤ P.localhostName c
    · refine Orden.menos (Orden.propio (k := k) ho hd hfase tipo) (fun i => ?_) hfases
      rw [htramo, congrFun (hasta_update _ k _) i,
        hasta_append_pos (m := ⟨tipo, P.localhostName k, P.ttl⟩) _ hm]
    · refine Orden.menos ho (fun i => ?_) hfases
      rw [htramo, congrFun (hasta_update _ k _) i,
        hasta_append_neg (m := ⟨tipo, P.localhostName k, P.ttl⟩) _ hm, Function.update_eq_self]
  | quita j m l₁ l₂ hantes hdespues hnodo hmotivo =>
    refine ho.menos (fun i => ?_) hfases
    rw [hdespues]
    refine sublist_update ?_ i
    rw [hantes]
    exact List.Sublist.append_left (List.sublist_cons_self m l₂) l₁
  | asume j m resto hantes hdespues htipo hnombre hfase hotros hnodo =>
    refine ho.menos (fun i => ?_) hfases
    rw [hdespues]
    refine sublist_update ?_ i
    rw [hantes]
    exact List.sublist_cons_self m resto
  | sigue j m resto T hantes hT hdespues hajeno hmayor hfase hotros hnodo =>
    have httl : 0 < m.ttl := hv j m (by rw [hantes]; exact List.mem_cons_self)
    by_cases hm : m.tipo = .leader → m.nombre ≤ P.localhostName c
    · have hfiltro : hasta P c (tramo r.anillo j) = m :: hasta P c resto := by
        unfold hasta
        rw [hantes, List.filter_cons_of_pos (by rwa [decide_eq_true_iff])]
      have hleader : m.tipo = .leader → j + 1 ≠ c := by
        intro htipo he
        exact absurd (hmayor htipo) (he ▸ not_lt.mpr (hm htipo))
      have hT' : (fun i => hasta P c (T i)) =
          Function.update (fun i => hasta P c (tramo r.anillo i)) j (hasta P c resto) := by
        rw [hT, hasta_update]
      refine Orden.menos (Orden.mover ho hfiltro hfase hajeno httl hleader hT') (fun i => ?_) hfases
      rw [hdespues, congrFun (hasta_update _ (j + 1) _) i,
        hasta_append_pos (m := { m with ttl := m.ttl - 1 }) _ hm]
    · refine Orden.menos ho (fun i => ?_) hfases
      rw [hdespues, congrFun (hasta_update _ (j + 1) _) i,
        hasta_append_neg (m := { m with ttl := m.ttl - 1 }) _ hm, Function.update_eq_self, hT]
      refine (sublist_update ?_ i).filter _
      rw [hantes]
      exact List.sublist_cons_self m resto
  | envia htramo hnodo =>
    refine ho.menos (fun i => ?_) hfases
    rw [htramo]

end Reeleccion
