import Aeropuerto.Anillo.ReeleccionPasos

/-!
# What a round of elections keeps

The proposals that go through a node go through it in the order of their names, so that the last one is the
greatest.  The first packet on a broken connection is a LinkBroken, so that no proposal is lost.
-/

namespace Reeleccion

open Ejecucion Ronda EleccionLider

variable {n : Nat} {ν : Type} [LinearOrder ν] [NeZero n] {P : Parametros n ν} {g b c i j k : Fin n}
  {r t : Red n ν} {m x : Mensaje ν} {resto l₁ l₂ : List (Mensaje ν)} {d : Nodo ν}

/-! ## The proposals in the ring -/

/-- A proposal behind node `k` is of a node that lost its link and has the greatest name up to there. -/
def Propuesta (P : Parametros n ν) (cortados : Fin n → Bool) (r : Red n ν) (k : Fin n) (m : Mensaje ν) : Prop :=
  ∃ b, cortados b = true ∧ (r.anillo.nodo b).fase = .passage ∧ m.nombre = P.localhostName b ∧ Supera P b k

variable {cortados : Fin n → Bool} {antes : Fin n → ν}

theorem supera_self (P : Parametros n ν) (b : Fin n) : Supera P b b := by
  intro i hi hle
  rw [desde_self, Nat.le_zero] at hle
  exact absurd (desde_eq_zero hle) hi

theorem Supera.siguiente (h : Supera P b j) (hj : j + 1 ≠ b)
    (hmenor : P.localhostName (j + 1) < P.localhostName b) : Supera P b (j + 1) := by
  intro i hi hle
  by_cases hij : i = j + 1
  · rw [hij]
    exact hmenor
  · have hne : desde b i ≠ desde b (j + 1) := fun he => hij (desde_inj he)
    rw [desde_succ hj] at hle hne
    exact h i hi (by omega)

/-- Only the node with the greatest name gets its proposal back. -/
theorem Supera.vuelta (h : Supera P (j + 1) j) (i : Fin n) : P.localhostName i ≤ P.localhostName (j + 1) := by
  by_cases hi : i = j + 1
  · rw [hi]
  · exact le_of_lt (h i hi (desde_le rfl i))

/-- Where the messages of the ring come from. -/
theorem Movimiento.mem (h : Movimiento P r t) (hx : x ∈ tramo t.anillo i) :
    x ∈ tramo r.anillo i ∨
      (∃ tipo, x = ⟨tipo, P.localhostName i, P.ttl⟩ ∧ (r.anillo.nodo i).fase ≠ .passage ∧
        (tipo = .leader → (t.anillo.nodo i).fase = .passage)) ∨
      ∃ j m, i = j + 1 ∧ m ∈ tramo r.anillo j ∧ x = { m with ttl := m.ttl - 1 } ∧
        m.nombre ≠ P.localhostName (j + 1) ∧ (m.tipo = .leader → P.localhostName (j + 1) < m.nombre) ∧
        (r.anillo.nodo (j + 1)).fase = .passage := by
  cases h with
  | empuja k tipo hfase htramo hotros hname hproceso htipos =>
    rw [htramo] at hx
    rcases mem_agregar.mp hx with hx | ⟨rfl, rfl⟩
    · exact .inl hx
    · refine .inr (.inl ⟨tipo, rfl, hfase, fun htipo => ?_⟩)
      rcases htipos with ⟨hno, -⟩ | ⟨-, -, hpasa⟩
      · rw [htipo] at hno
        cases hno
      · exact hpasa
  | quita j m l₁ l₂ hantes hdespues hnodo hmotivo =>
    rw [hdespues] at hx
    refine .inl ((sublist_update ?_ i).subset hx)
    rw [hantes]
    exact List.Sublist.append_left (List.sublist_cons_self m l₂) l₁
  | asume j m resto hantes hdespues htipo hnombre hfase hotros hnodo =>
    rw [hdespues] at hx
    refine .inl ((sublist_update ?_ i).subset hx)
    rw [hantes]
    exact List.sublist_cons_self m resto
  | sigue j m resto T hantes hT hdespues hajeno hmayor hfase hotros hnodo =>
    rw [hdespues] at hx
    rcases mem_agregar.mp hx with hx | ⟨rfl, rfl⟩
    · rw [hT] at hx
      refine .inl ((sublist_update ?_ i).subset hx)
      rw [hantes]
      exact List.sublist_cons_self m resto
    · exact .inr (.inr ⟨j, m, rfl, by rw [hantes]; exact List.mem_cons_self, rfl, hajeno, hmayor, hfase⟩)
  | envia htramo hnodo =>
    rw [htramo] at hx
    exact .inl hx

theorem propuesta_movimiento (h : Movimiento P r t)
    (hfase : ∀ k, cortados k = false → (r.anillo.nodo k).fase = .passage)
    (hp : ∀ k, ∀ m ∈ tramo r.anillo k, m.tipo = .leader → Propuesta P cortados r k m) (k : Fin n)
    (hx : x ∈ tramo t.anillo k) (htipo : x.tipo = .leader) : Propuesta P cortados t k x := by
  rcases h.mem hx with hx | ⟨tipo, rfl, hno, hpasa⟩ | ⟨j, m, rfl, hm, rfl, hajeno, hmayor, -⟩
  · obtain ⟨b, hb, hbfase, hnombre, hsupera⟩ := hp k x hx htipo
    exact ⟨b, hb, fase_movimiento h b hbfase, hnombre, hsupera⟩
  · refine ⟨k, ?_, hpasa htipo, rfl, supera_self P k⟩
    rw [← Bool.not_eq_false]
    exact fun hk => hno (hfase k hk)
  · obtain ⟨b, hb, hbfase, hnombre, hsupera⟩ := hp j m hm htipo
    refine ⟨b, hb, fase_movimiento h b hbfase, hnombre, hsupera.siguiente ?_ ?_⟩
    · exact fun he => hajeno (he ▸ hnombre)
    · rw [← hnombre]
      exact hmayor htipo

/-! ## The names that the proposals leave -/

/-- The proposal of node `b` has not gone through node `k`. -/
def Pendiente (P : Parametros n ν) (r : Red n ν) (b k : Fin n) : Prop :=
  (r.anillo.nodo b).fase ≠ .passage ∨
    ∃ j, desde b j < desde b k ∧ ∃ m ∈ tramo r.anillo j, EsLider P b m

/-- It has gone through it, and nothing comes behind it from the nodes between them. -/
structure Pasada (P : Parametros n ν) (r : Red n ν) (b k : Fin n) : Prop where
  leaderName : (r.anillo.nodo k).leaderName = P.localhostName b
  fase : ∀ i, desde b i ≤ desde b k → (r.anillo.nodo i).fase = .passage
  libre : ∀ i, desde b i < desde b k → ∀ m ∈ tramo r.anillo i, ¬ Previo P b i m

/-- The proposals of the ring and the nodes that may have made them. -/
structure Propuestas (P : Parametros n ν) (cortados : Fin n → Bool) (r : Red n ν) : Prop where
  fase : ∀ k, cortados k = false → (r.anillo.nodo k).fase = .passage
  mensaje : ∀ k, ∀ m ∈ tramo r.anillo k, m.tipo = .leader → Propuesta P cortados r k m

theorem Propuestas.movimiento (hp : Propuestas P cortados r) (h : Movimiento P r t) :
    Propuestas P cortados t where
  fase k hk := fase_movimiento h k (hp.fase k hk)
  mensaje k _ hm htipo := propuesta_movimiento h hp.fase hp.mensaje k hm htipo

/-- A greater proposal comes from a node between `b` and `k`. -/
theorem Impone.entre (hI : Impone P cortados b (j + 1)) (hc : cortados c = true) (hs : Supera P c j)
    (hcj : c ≠ j + 1) (hcb : c ≠ b) (hlt : P.localhostName (j + 1) < P.localhostName c) :
    desde b c ≤ desde b j := by
  by_contra hlejos
  have hpasa : P.localhostName b < P.localhostName c :=
    hs b (Ne.symm hcb) (desde_vuelta (not_le.mp hlejos))
  have hllega : Llega P c (j + 1) := ⟨hcj, hs.siguiente (Ne.symm hcj) hlt⟩
  exact absurd hpasa (not_lt.mpr (hI.mayor c hc hllega))

/-- The node with the greatest name gets its proposal back. -/
theorem Propuesta.vuelve (hd : Function.Injective P.localhostName) (h : Propuesta P cortados r j m)
    (hnombre : m.nombre = P.localhostName (j + 1)) (i : Fin n) :
    P.localhostName i ≤ P.localhostName (j + 1) := by
  obtain ⟨b, -, -, hb, hs⟩ := h
  have hbj : b = j + 1 := hd (hb.symm.trans hnombre)
  rw [hbj] at hs
  exact hs.vuelta i

/-- A node keeps its name for the leader until a proposal goes through it. -/
theorem leaderName_movimiento (h : Movimiento P r t) (k : Fin n) :
    (t.anillo.nodo k).leaderName = (r.anillo.nodo k).leaderName ∨
      ∃ j m, k = j + 1 ∧ m ∈ tramo r.anillo j ∧ m.tipo = .leader ∧
        (t.anillo.nodo k).leaderName = m.nombre ∧
        (m.nombre = P.localhostName k ∨ m.nombre ≠ P.localhostName k ∧ P.localhostName k < m.nombre) := by
  cases h with
  | empuja k₀ tipo hfase htramo hotros hname hproceso htipos =>
    by_cases hk : k = k₀
    · rw [hk, hname]
      exact .inl rfl
    · rw [hotros k hk]
      exact .inl rfl
  | quita j m l₁ l₂ hantes hdespues hnodo hmotivo => exact .inl (hnodo k).leaderName
  | asume j m resto hantes hdespues htipo hnombre hfase hotros hnodo =>
    by_cases hk : k = j + 1
    · subst hk
      refine .inr ⟨j, m, rfl, by rw [hantes]; exact List.mem_cons_self, htipo, ?_, .inl hnombre⟩
      rw [hnodo]
      rfl
    · rw [hotros k hk]
      exact .inl rfl
  | sigue j m resto T hantes hT hdespues hajeno hmayor hfase hotros hnodo =>
    by_cases hk : k = j + 1
    · subst hk
      by_cases htipo : m.tipo = .leader
      · refine .inr ⟨j, m, rfl, by rw [hantes]; exact List.mem_cons_self, htipo, ?_,
          .inr ⟨hajeno, hmayor htipo⟩⟩
        rw [hnodo.leaderName]
        exact if_pos htipo
      · rw [hnodo.leaderName]
        exact .inl (if_neg htipo)
    · rw [hotros k hk]
      exact .inl rfl
  | envia htramo hnodo => exact .inl (hnodo k).leaderName

theorem conservado_movimiento (hd : Function.Injective P.localhostName) (h : Movimiento P r t)
    (hp : Propuestas P cortados r)
    (hk : ∀ b, cortados b = true → ¬ Llega P b k)
    (hpropio : (∀ i, P.localhostName i ≤ P.localhostName k) →
      (r.anillo.nodo k).leaderName = P.localhostName k) :
    (t.anillo.nodo k).leaderName = (r.anillo.nodo k).leaderName := by
  rcases leaderName_movimiento h k with hmismo | ⟨j, m, rfl, hm, htipo, hname, hcasos⟩
  · exact hmismo
  · have hpropuesta := hp.mensaje j m hm htipo
    rcases hcasos with hnombre | ⟨hajeno, hlt⟩
    · rw [hname, hnombre, hpropio (hpropuesta.vuelve hd hnombre)]
    · obtain ⟨b, hb, -, hbnombre, hs⟩ := hpropuesta
      have hbj : j + 1 ≠ b := fun he => hajeno (he ▸ hbnombre)
      rw [hbnombre] at hlt
      exact absurd ⟨Ne.symm hbj, hs.siguiente hbj hlt⟩ (hk b hb)

/-- What has been left stays. -/
theorem pasada_movimiento (hd : Function.Injective P.localhostName) (h : Movimiento P r t)
    (hp : Propuestas P cortados r) (hI : Impone P cortados b k) (hq : Pasada P r b k) : Pasada P t b k where
  leaderName := by
    rcases leaderName_movimiento h k with hmismo | ⟨j, m, rfl, hm, htipo, hname, hcasos⟩
    · rw [hmismo, hq.leaderName]
    · have hpropuesta := hp.mensaje j m hm htipo
      have hbk := hI.llega.2 (j + 1) (Ne.symm hI.llega.1) (Nat.le_refl _)
      rcases hcasos with hnombre | ⟨hajeno, hlt⟩
      · exact absurd hbk (not_lt.mpr (hpropuesta.vuelve hd hnombre b))
      · obtain ⟨c, hc, -, hcnombre, hs⟩ := hpropuesta
        rw [hname]
        by_cases hcb : c = b
        · rw [hcnombre, hcb]
        · have hcj : c ≠ j + 1 := fun he => hajeno (he ▸ hcnombre)
          rw [hcnombre] at hlt
          have hle := hI.entre hc hs hcj hcb hlt
          have hjb : desde b j < desde b (j + 1) := by
            rw [desde_succ (Ne.symm hI.llega.1)]
            exact Nat.lt_succ_self _
          exact absurd ⟨c, hcb, hcnombre, hle⟩ (hq.libre j hjb m hm)
  fase i hi := fase_movimiento h i (hq.fase i hi)
  libre i hi x hx hprevio := by
    rcases h.mem hx with hx | ⟨tipo, rfl, hno, -⟩ | ⟨j, m, rfl, hm, rfl, hajeno, -, -⟩
    · exact hq.libre i hi x hx hprevio
    · exact hno (hq.fase i (Nat.le_of_lt hi))
    · obtain ⟨hne, hantes⟩ := Previo.antes (m := m) hprevio hajeno
      rw [desde_succ hne] at hi
      exact hq.libre j (by omega) m hm hantes

/-! ## The first packet on a broken connection -/

/-- What the nodes between `b` and `k` have for the next one begins with the LinkBroken of `b`. -/
structure Adelante (P : Parametros n ν) (r : Red n ν) (b k i : Fin n) : Prop where
  mensaje : ∃ m resto, tramo r.anillo i = m :: resto ∧ m.tipo = .linkBroken ∧ m.nombre = P.localhostName b
  hasta : desde b i ≤ desde b k
  vacio : ∀ j, desde b i < desde b j → desde b j ≤ desde b k → tramo r.anillo j = []

/-- Node `b` is the last one before `k` that lost its link. -/
structure Aviso (P : Parametros n ν) (cortados : Fin n → Bool) (r : Red n ν) (b k : Fin n) : Prop where
  cortado : cortados b = true
  sanos : ∀ i, i ≠ b → desde b i ≤ desde b k → cortados i = false
  estado : ((r.anillo.nodo b).fase = .inicio ∧ ∀ i, desde b i ≤ desde b k → tramo r.anillo i = []) ∨
    ∃ i, Adelante P r b k i

omit [LinearOrder ν] in
/-- Nothing else is sent on the connection. -/
theorem Aviso.primero (h : Aviso P cortados r b k) (hT : tramo r.anillo k = m :: resto) :
    m.tipo = .linkBroken := by
  rcases h.estado with ⟨-, hvacio⟩ | ⟨i, ⟨m', resto', hm', htipo, -⟩, hle, hvacio⟩
  · rw [hvacio k (Nat.le_refl _)] at hT
    cases hT
  · by_cases hi : i = k
    · subst hi
      rw [hT, List.cons.injEq] at hm'
      rw [hm'.1]
      exact htipo
    · have hne : desde b i ≠ desde b k := fun he => hi (desde_inj he)
      rw [hvacio k (by omega) (Nat.le_refl _)] at hT
      cases hT

/-- The node has not begun. -/
theorem aviso_inicio (h : Movimiento P r t) (hp : Propuestas P cortados r)
    (hsanos : ∀ i, i ≠ b → desde b i ≤ desde b k → cortados i = false)
    (hfase : (r.anillo.nodo b).fase = .inicio)
    (hvacio : ∀ i, desde b i ≤ desde b k → tramo r.anillo i = []) :
    ((t.anillo.nodo b).fase = .inicio ∧ ∀ i, desde b i ≤ desde b k → tramo t.anillo i = []) ∨
      ∃ i, Adelante P t b k i := by
  have hfuera : ∀ {j : Fin n} {l : List (Mensaje ν)}, tramo r.anillo j = l → l ≠ [] →
      ∀ i, desde b i ≤ desde b k → i ≠ j := by
    intro j l hl hno i hi he
    rw [← hl, ← he] at hno
    exact hno (hvacio i hi)
  have hno : ∀ {j : Fin n}, (r.anillo.nodo j).fase = .passage → b ≠ j := by
    intro j hj he
    rw [← he, hfase] at hj
    cases hj
  cases h with
  | empuja k₀ tipo hfase₀ htramo hotros hname hproceso htipos =>
    by_cases hk : k₀ = b
    · subst hk
      rcases htipos with ⟨rfl, -⟩ | ⟨-, htail, -⟩
      · refine .inr ⟨k₀, ⟨⟨.linkBroken, P.localhostName k₀, P.ttl⟩, [], ?_, rfl, rfl⟩,
          by rw [desde_self]; exact Nat.zero_le _, fun j hj hjk => ?_⟩
        · rw [htramo, Function.update_self, hvacio k₀ (by rw [desde_self]; exact Nat.zero_le _)]
          rfl
        · have hne : j ≠ k₀ := fun he => Nat.lt_irrefl _ (he ▸ hj)
          rw [htramo, Function.update_of_ne hne, hvacio j hjk]
      · rw [hfase] at htail
        cases htail
    · refine .inl ⟨by rw [hotros b (Ne.symm hk), hfase], fun i hi => ?_⟩
      have hne : i ≠ k₀ := by
        rintro rfl
        exact hfase₀ (hp.fase i (hsanos i hk hi))
      rw [htramo, Function.update_of_ne hne, hvacio i hi]
  | quita j m l₁ l₂ hantes hdespues hnodo hmotivo =>
    refine .inl ⟨by rw [(hnodo b).fase, hfase], fun i hi => ?_⟩
    have hne := hfuera hantes (List.append_ne_nil_of_right_ne_nil _ (List.cons_ne_nil _ _)) i hi
    rw [hdespues, Function.update_of_ne hne, hvacio i hi]
  | asume j m resto hantes hdespues htipo hnombre hfase' hotros hnodo =>
    refine .inl ⟨by rw [hotros b (hno hfase'), hfase], fun i hi => ?_⟩
    have hne := hfuera hantes (List.cons_ne_nil _ _) i hi
    rw [hdespues, Function.update_of_ne hne, hvacio i hi]
  | sigue j m resto T hantes hT hdespues hajeno hmayor hfase' hotros hnodo =>
    refine .inl ⟨by rw [hotros b (hno hfase'), hfase], fun i hi => ?_⟩
    have hfuera := hfuera hantes (List.cons_ne_nil _ _)
    have hne : i ≠ j + 1 := by
      rintro rfl
      rw [desde_succ (Ne.symm (hno hfase'))] at hi
      exact hfuera j (by omega) rfl
    rw [hdespues, Function.update_of_ne hne, hT, Function.update_of_ne (hfuera i hi), hvacio i hi]
  | envia htramo hnodo =>
    refine .inl ⟨by rw [(hnodo b).fase, hfase], fun i hi => ?_⟩
    rw [htramo, hvacio i hi]

omit [LinearOrder ν] in
/-- A stretch with something in it is not one of those behind the LinkBroken. -/
theorem Adelante.lleno (ha : Adelante P r b k i) {l : List (Mensaje ν)} (hl : tramo r.anillo j = l)
    (hno : l ≠ []) (j' : Fin n) (hij : desde b i < desde b j') (hjk : desde b j' ≤ desde b k) : j' ≠ j := by
  rintro rfl
  rw [← hl] at hno
  exact hno (ha.vacio j' hij hjk)

omit [LinearOrder ν] in
/-- Node `k + 1` does not receive, so a receiver in front of the LinkBroken is not the last one. -/
theorem Adelante.siguiente (ha : Adelante P r b k i) (hc : Conexiones r) (hrota : r.conexion (k + 1) = .rota)
    (hpasa : (r.anillo.nodo (i + 1)).fase = .passage) : desde b i < desde b k ∧ i + 1 ≠ b := by
  have hne : i ≠ k := by
    rintro rfl
    rw [← hc.establecida, hrota] at hpasa
    cases hpasa
  have hdist : desde b i ≠ desde b k := fun he => hne (desde_inj he)
  have hik := ha.hasta
  refine ⟨by omega, fun he => ?_⟩
  have hle := desde_le he k
  omega

/-- The nodes behind it forward. -/
theorem Propuestas.sano (hp : Propuestas P cortados r)
    (hsanos : ∀ i, i ≠ b → desde b i ≤ desde b k → cortados i = false) (hij : desde b i < desde b j)
    (hjk : desde b j ≤ desde b k) : (r.anillo.nodo j).fase = .passage := by
  refine hp.fase j (hsanos j ?_ hjk)
  rintro rfl
  rw [desde_self] at hij
  exact Nat.not_lt_zero _ hij

omit [LinearOrder ν] in
/-- A message at the end of another stretch. -/
theorem Adelante.agrega (ha : Adelante P r b k i) {x : Mensaje ν}
    (hfuera : ∀ j', desde b i < desde b j' → desde b j' ≤ desde b k → j' ≠ j)
    (htramo : tramo t.anillo = Function.update (tramo r.anillo) j (tramo r.anillo j ++ [x])) :
    Adelante P t b k i := by
  obtain ⟨⟨m, resto, hm, htipo, hnombre⟩, hik, hvacio⟩ := ha
  refine ⟨?_, hik, fun j' hij hjk => ?_⟩
  · by_cases hj : i = j
    · refine ⟨m, resto ++ [x], ?_, htipo, hnombre⟩
      rw [htramo, hj, Function.update_self, ← hj, hm]
      rfl
    · refine ⟨m, resto, ?_, htipo, hnombre⟩
      rw [htramo, Function.update_of_ne hj, hm]
  · rw [htramo, Function.update_of_ne (hfuera j' hij hjk), hvacio j' hij hjk]

omit [LinearOrder ν] in
/-- A message that is not the LinkBroken is gone. -/
theorem Adelante.quita (ha : Adelante P r b k i) {l₁ l₂ : List (Mensaje ν)}
    (hantes : tramo r.anillo j = l₁ ++ x :: l₂) (hprimero : i = j → l₁ ≠ [])
    (hdespues : tramo t.anillo = Function.update (tramo r.anillo) j (l₁ ++ l₂)) : Adelante P t b k i := by
  have hlleno := ha.lleno hantes (List.append_ne_nil_of_right_ne_nil _ (List.cons_ne_nil _ _))
  obtain ⟨⟨m, resto, hm, htipo, hnombre⟩, hik, hvacio⟩ := ha
  refine ⟨?_, hik, fun j' hij hjk => ?_⟩
  · by_cases hj : i = j
    · subst hj
      rw [hm] at hantes
      cases l₁ with
      | nil => exact absurd rfl (hprimero rfl)
      | cons m₁ l₁ =>
        obtain ⟨rfl, -⟩ := List.cons.inj hantes
        refine ⟨m, l₁ ++ l₂, ?_, htipo, hnombre⟩
        rw [hdespues, Function.update_self]
        rfl
    · refine ⟨m, resto, ?_, htipo, hnombre⟩
      rw [hdespues, Function.update_of_ne hj, hm]
  · rw [hdespues, Function.update_of_ne (hlleno j' hij hjk), hvacio j' hij hjk]

/-- Nothing takes the LinkBroken out of the ring before it comes to a broken connection. -/
theorem Adelante.no_motivo (ha : Adelante P r b k i) (hd : Function.Injective P.localhostName)
    (hc : Conexiones r) (hp : Propuestas P cortados r) (hrota : r.conexion (k + 1) = .rota)
    (hrota' : t.conexion (k + 1) = .rota)
    (hsanos : ∀ i, i ≠ b → desde b i ≤ desde b k → cortados i = false)
    (hT : tramo r.anillo i = x :: resto) : ¬Motivo P r t i x [] := by
  obtain ⟨m, resto', hm, htipo, hnombre⟩ := ha.mensaje
  obtain ⟨rfl, -⟩ := List.cons.inj (hT.symm.trans hm)
  have hik := ha.hasta
  intro hmotivo
  cases hmotivo with
  | menor htipo' _ =>
    rw [htipo] at htipo'
    cases htipo'
  | vuelto _ hvuelto hpasa => exact (ha.siguiente hc hrota hpasa).2 (hd (hvuelto.symm.trans hnombre))
  | perdido _ hrotai hrotai' =>
    by_cases hne : i = k
    · rw [hne] at hrotai'
      exact hrotai' hrota'
    · have hdist : desde b i ≠ desde b k := fun he => hne (desde_inj he)
      have hib : i + 1 ≠ b := by
        intro he
        have hle := desde_le he k
        omega
      have hsucc := desde_succ hib
      have hpasa := hp.sano (i := i) (j := i + 1) hsanos (by omega) (by omega)
      rw [← hc.establecida, hrotai] at hpasa
      cases hpasa

omit [LinearOrder ν] in
/-- The LinkBroken goes on, or the message of another stretch does. -/
theorem Adelante.sigue (ha : Adelante P r b k i) (hc : Conexiones r) (hrota : r.conexion (k + 1) = .rota)
    {m' : Mensaje ν} {T : Fin n → List (Mensaje ν)} (hantes : tramo r.anillo j = m' :: resto)
    (hT : T = Function.update (tramo r.anillo) j resto)
    (hdespues : tramo t.anillo =
      Function.update T (j + 1) (T (j + 1) ++ [{ m' with ttl := m'.ttl - 1 }]))
    (hfase : (r.anillo.nodo (j + 1)).fase = .passage) : ∃ i, Adelante P t b k i := by
  have hlleno := ha.lleno hantes (List.cons_ne_nil _ _)
  have hsiguiente := ha.siguiente hc hrota
  obtain ⟨⟨m, resto', hm, htipo, hnombre⟩, hik, hvacio⟩ := ha
  by_cases hj : i = j
  · subst hj
    rw [hm] at hantes
    obtain ⟨rfl, rfl⟩ := List.cons.inj hantes
    obtain ⟨hlt, hib⟩ := hsiguiente hfase
    have hsucc := desde_succ hib
    have hne : ∀ j', desde b (i + 1) ≤ desde b j' → j' ≠ i := by
      rintro j' hj' rfl
      omega
    refine ⟨i + 1, ⟨{ m with ttl := m.ttl - 1 }, [], ?_, htipo, hnombre⟩, by omega, fun j' hij hjk => ?_⟩
    · rw [hdespues, Function.update_self, hT, Function.update_of_ne (hne _ (Nat.le_refl _)),
        hvacio (i + 1) (by omega) (by omega)]
      rfl
    · have hne' : j' ≠ i + 1 := fun he => Nat.lt_irrefl _ (he ▸ hij)
      rw [hdespues, Function.update_of_ne hne', hT, Function.update_of_ne (hne j' (Nat.le_of_lt hij)),
        hvacio j' (by omega) hjk]
  · have hTi : T i = m :: resto' := by rw [hT, Function.update_of_ne hj, hm]
    refine ⟨i, ?_, hik, fun j' hij hjk => ?_⟩
    · by_cases hi : i = j + 1
      · refine ⟨m, resto' ++ [{ m' with ttl := m'.ttl - 1 }], ?_, htipo, hnombre⟩
        rw [hdespues, ← hi, Function.update_self, hTi]
        rfl
      · refine ⟨m, resto', ?_, htipo, hnombre⟩
        rw [hdespues, Function.update_of_ne hi, hTi]
    · have hne : j' ≠ j + 1 := by
        rintro rfl
        have hjb : j + 1 ≠ b := by
          intro he
          rw [he, desde_self] at hij
          exact Nat.not_lt_zero _ hij
        have hdist : desde b i ≠ desde b j := fun he => hj (desde_inj he)
        rw [desde_succ hjb] at hij hjk
        exact hlleno j (by omega) (by omega) rfl
      rw [hdespues, Function.update_of_ne hne, hT, Function.update_of_ne (hlleno j' hij hjk),
        hvacio j' hij hjk]

/-- The LinkBroken is on its way. -/
theorem adelante_movimiento (hd : Function.Injective P.localhostName) (h : Movimiento P r t)
    (hc : Conexiones r) (hp : Propuestas P cortados r) (hrota : r.conexion (k + 1) = .rota)
    (hrota' : t.conexion (k + 1) = .rota)
    (hsanos : ∀ i, i ≠ b → desde b i ≤ desde b k → cortados i = false) (ha : Adelante P r b k i) :
    ∃ i, Adelante P t b k i := by
  cases h with
  | empuja k₀ tipo hfase₀ htramo hotros hname hproceso htipos =>
    refine ⟨i, ha.agrega ?_ htramo⟩
    rintro j hij hjk rfl
    exact hfase₀ (hp.sano hsanos hij hjk)
  | quita j m' l₁ l₂ hantes hdespues hnodo hmotivo =>
    refine ⟨i, ha.quita hantes ?_ hdespues⟩
    rintro rfl rfl
    exact ha.no_motivo hd hc hp hrota hrota' hsanos hantes hmotivo
  | asume j m' resto hantes hdespues htipo' hnombre' hfase hotros hnodo =>
    refine ⟨i, ha.quita (show tramo r.anillo j = [] ++ m' :: resto from hantes) ?_ hdespues⟩
    rintro rfl
    obtain ⟨m, resto', hm, htipo, -⟩ := ha.mensaje
    obtain ⟨rfl, -⟩ := List.cons.inj (hantes.symm.trans hm)
    rw [htipo] at htipo'
    cases htipo'
  | sigue j m' resto T hantes hT hdespues hajeno hmayor hfase hotros hnodo =>
    exact ha.sigue hc hrota hantes hT hdespues hfase
  | envia htramo hnodo =>
    obtain ⟨m, resto, hm, htipo, hnombre⟩ := ha.mensaje
    refine ⟨i, ⟨m, resto, by rw [htramo, hm], htipo, hnombre⟩, ha.hasta, fun j hij hjk => ?_⟩
    rw [htramo, ha.vacio j hij hjk]

theorem Aviso.movimiento (ha : Aviso P cortados r b k) (hd : Function.Injective P.localhostName)
    (h : Movimiento P r t) (hc : Conexiones r) (hp : Propuestas P cortados r)
    (hrota : r.conexion (k + 1) = .rota) (hrota' : t.conexion (k + 1) = .rota) : Aviso P cortados t b k where
  cortado := ha.cortado
  sanos := ha.sanos
  estado := by
    rcases ha.estado with ⟨hfase, hvacio⟩ | ⟨i, hi⟩
    · exact aviso_inicio h hp ha.sanos hfase hvacio
    · exact .inr (adelante_movimiento hd h hc hp hrota hrota' ha.sanos hi)

/-! ## A proposal on its way -/

/-- Each broken connection has its LinkBroken. -/
def Avisos (P : Parametros n ν) (cortados : Fin n → Bool) (r : Red n ν) : Prop :=
  ∀ k, r.conexion (k + 1) = .rota → ∃ b, Aviso P cortados r b k

/-- A message of the ring is where it was, or the step is about it. -/
theorem Movimiento.queda (h : Movimiento P r t) (hx : x ∈ tramo r.anillo j) :
    x ∈ tramo t.anillo j ∨ (∃ l₁, Motivo P r t j x l₁ ∧ ∃ l₂, tramo r.anillo j = l₁ ++ x :: l₂) ∨
      (∃ resto, tramo r.anillo j = x :: resto ∧ x.tipo = .leader ∧ x.nombre = P.localhostName (j + 1) ∧
        t.anillo.nodo (j + 1) = asumir (r.anillo.nodo (j + 1)) x.nombre ∧
        tramo t.anillo = Function.update (tramo r.anillo) j resto) ∨
      ∃ resto, tramo r.anillo j = x :: resto ∧ (r.anillo.nodo (j + 1)).fase = .passage ∧
        { x with ttl := x.ttl - 1 } ∈ tramo t.anillo (j + 1) ∧
        Mismo (seguir (r.anillo.nodo (j + 1)) x) (t.anillo.nodo (j + 1)) ∧
        (j ≠ j + 1 → tramo t.anillo j = resto) ∧
        ∀ i, i ≠ j → i ≠ j + 1 → tramo t.anillo i = tramo r.anillo i := by
  cases h with
  | empuja k tipo hfase htramo hotros hname hproceso htipos =>
    refine .inl ?_
    rw [htramo]
    exact mem_agregar.mpr (.inl hx)
  | quita j₀ m l₁ l₂ hantes hdespues hnodo hmotivo =>
    by_cases hj : j = j₀
    · subst hj
      by_cases hxm : x = m
      · exact .inr (.inl ⟨l₁, hxm ▸ hmotivo, l₂, hxm ▸ hantes⟩)
      · refine .inl ?_
        rw [hantes, List.mem_append, List.mem_cons] at hx
        rw [hdespues, Function.update_self, List.mem_append]
        exact hx.imp_right fun h => h.resolve_left hxm
    · refine .inl ?_
      rwa [hdespues, Function.update_of_ne hj]
  | asume j₀ m resto hantes hdespues htipo hnombre hfase hotros hnodo =>
    by_cases hj : j = j₀
    · subst hj
      by_cases hxm : x = m
      · rw [hxm]
        exact .inr (.inr (.inl ⟨resto, hantes, htipo, hnombre, hnodo, hdespues⟩))
      · refine .inl ?_
        rw [hantes, List.mem_cons] at hx
        rw [hdespues, Function.update_self]
        exact hx.resolve_left hxm
    · refine .inl ?_
      rwa [hdespues, Function.update_of_ne hj]
  | sigue j₀ m resto T hantes hT hdespues hajeno hmayor hfase hotros hnodo =>
    have hqueda : x ∈ T j → x ∈ tramo t.anillo j := by
      intro hxT
      rw [hdespues]
      exact mem_agregar.mpr (.inl hxT)
    by_cases hj : j = j₀
    · subst hj
      by_cases hxm : x = m
      · rw [hxm]
        refine .inr (.inr (.inr ⟨resto, hantes, hfase, ?_, hnodo, fun hne => ?_, fun i hij hij' => ?_⟩))
        · rw [hdespues]
          exact mem_agregar.mpr (.inr ⟨rfl, rfl⟩)
        · rw [hdespues, Function.update_of_ne hne, hT, Function.update_self]
        · rw [hdespues, Function.update_of_ne hij', hT, Function.update_of_ne hij]
      · rw [hantes, List.mem_cons] at hx
        refine .inl (hqueda ?_)
        rw [hT, Function.update_self]
        exact hx.resolve_left hxm
    · refine .inl (hqueda ?_)
      rwa [hT, Function.update_of_ne hj]
  | envia htramo hnodo =>
    refine .inl ?_
    rwa [htramo]

/-- A node that does not forward yet stays so, or pushes a message of its own. -/
theorem Movimiento.empieza (h : Movimiento P r t) (hr : (r.anillo.nodo b).fase ≠ .passage) :
    (t.anillo.nodo b).fase = (r.anillo.nodo b).fase ∨
      ∃ tipo, ⟨tipo, P.localhostName b, P.ttl⟩ ∈ tramo t.anillo b ∧
        (tipo = .linkBroken ∧ (t.anillo.nodo b).fase = .tail ∨
          tipo = .leader ∧ (r.anillo.nodo b).fase = .tail) := by
  cases h with
  | empuja k tipo hfase htramo hotros hname hproceso htipos =>
    by_cases hk : b = k
    · subst hk
      refine .inr ⟨tipo, ?_, ?_⟩
      · rw [htramo]
        exact mem_agregar.mpr (.inr ⟨rfl, rfl⟩)
      · exact htipos.imp (fun h => ⟨h.1, h.2.2.1⟩) fun h => ⟨h.1, h.2.1⟩
    · rw [hotros b hk]
      exact .inl rfl
  | quita j m l₁ l₂ hantes hdespues hnodo hmotivo => exact .inl (hnodo b).fase
  | asume j m resto hantes hdespues htipo hnombre hfase hotros hnodo =>
    have hb : b ≠ j + 1 := fun he => hr (he ▸ hfase)
    rw [hotros b hb]
    exact .inl rfl
  | sigue j m resto T hantes hT hdespues hajeno hmayor hfase hotros hnodo =>
    have hb : b ≠ j + 1 := fun he => hr (he ▸ hfase)
    rw [hotros b hb]
    exact .inl rfl
  | envia htramo hnodo => exact .inl (hnodo b).fase

theorem Movimiento.propone (h : Movimiento P r t) (hr : (r.anillo.nodo b).fase ≠ .passage) :
    (t.anillo.nodo b).fase ≠ .passage ∨ ∃ m ∈ tramo t.anillo b, EsLider P b m := by
  rcases h.empieza hr with hfase | ⟨tipo, hm, ⟨-, hfase⟩ | ⟨htipo, -⟩⟩
  · rw [hfase]
    exact .inl hr
  · rw [hfase]
    exact .inl Fase.noConfusion
  · exact .inr ⟨_, hm, htipo, rfl⟩

/-- The proposal of `b` is not dropped before it meets a greater name. -/
theorem Motivo.no_lider (h : Motivo P r t j m l₁) (ha : Avisos P cortados r)
    (hT : tramo r.anillo j = l₁ ++ m :: l₂) (hl : EsLider P b m) (hs : Supera P b j)
    (hj : P.localhostName (j + 1) ≤ P.localhostName b) : False := by
  cases h with
  | menor _ hmenor =>
    rw [hl.2] at hmenor
    rcases hmenor with hmenor | hmenor
    · exact absurd hmenor (not_lt.mpr hj)
    · by_cases hjb : j = b
      · rw [hjb] at hmenor
        exact lt_irrefl _ hmenor
      · exact absurd hmenor (not_lt.mpr (le_of_lt (hs j hjb (Nat.le_refl _))))
  | vuelto htipo _ _ =>
    rw [hl.1] at htipo
    cases htipo
  | perdido hprimero hrota _ =>
    obtain ⟨c, hc⟩ := ha j hrota
    rw [hprimero, List.nil_append] at hT
    have htipo := hc.primero hT
    rw [hl.1] at htipo
    cases htipo

/-- What is behind the proposal of `b` has been sent by `b` or has come to it. -/
theorem Ordenada.libre (ho : Ordenada P b r) (hT : tramo r.anillo j = m :: resto) (hl : EsLider P b m)
    (hs : Supera P b j) {T : Fin n → List (Mensaje ν)} (hj : ∀ x ∈ T j, x ∈ resto)
    (hotros : ∀ i, desde b i < desde b j → T i = tramo r.anillo i) (i : Fin n) (hij : desde b i ≤ desde b j)
    (hx : x ∈ T i) : ¬ Previo P b i x := by
  rintro ⟨o, ho', hnombre, hle⟩
  have hadmite : ∀ {l : List (Mensaje ν)}, x ∈ l → x ∈ hasta P b l := by
    intro l hxl
    refine mem_hasta.mpr ⟨hxl, fun _ => ?_⟩
    rw [hnombre]
    exact le_of_lt (hs o ho' (Nat.le_trans hle hij))
  have hm : ∀ {l : List (Mensaje ν)}, m ∈ l → m ∈ hasta P b l := fun hml =>
    mem_hasta.mpr ⟨hml, fun _ => le_of_eq hl.2⟩
  by_cases hi : i = j
  · subst hi
    have hdetras := ho.detras i
    have hfiltro : hasta P b (tramo r.anillo i) = m :: hasta P b resto := by
      unfold hasta
      rw [hT, List.filter_cons_of_pos (by rw [decide_eq_true_iff]; exact fun _ => le_of_eq hl.2)]
    rw [hfiltro, List.pairwise_cons] at hdetras
    exact hdetras.1 x (hadmite (hj x hx)) hl.2 ⟨o, ho', hnombre, hle⟩
  · have hlt : desde b i < desde b j := by
      have hdist : desde b i ≠ desde b j := fun he => hi (desde_inj he)
      omega
    rw [hotros i hlt] at hx
    exact ho.entre i j hlt m (hm (by rw [hT]; exact List.mem_cons_self)) hl.2 x (hadmite hx)
      ⟨o, ho', hnombre, hle⟩

/-- The nodes that the proposal of `b` has gone through forward. -/
theorem Ordenada.pasaje (hd : Function.Injective P.localhostName) (ho : Ordenada P b r)
    (hp : Propuestas P cortados r) (hm : m ∈ tramo r.anillo j) (hl : EsLider P b m) (i : Fin n)
    (hij : desde b i ≤ desde b j) : (r.anillo.nodo i).fase = .passage := by
  by_contra hno
  obtain ⟨o, hnombre, hio, -⟩ := ho.arranque i hno j hij m (mem_hasta.mpr ⟨hm, fun _ => le_of_eq hl.2⟩)
  have hob : o = b := hd (hnombre.symm.trans hl.2)
  obtain ⟨c, -, hfase, hc, -⟩ := hp.mensaje j m hm hl.1
  have hcb : c = b := hd (hc.symm.trans hl.2)
  rw [hob, desde_self, Nat.le_zero] at hio
  rw [desde_eq_zero hio, ← hcb] at hno
  exact hno hfase

theorem pendiente_movimiento (hd : Function.Injective P.localhostName) (h : Movimiento P r t)
    (ha : Avisos P cortados r) (hp : Propuestas P cortados r) (ho : Ordenada P b r)
    (hI : Impone P cortados b k) (hq : Pendiente P r b k) : Pendiente P t b k ∨ Pasada P t b k := by
  rcases hq with hfase | ⟨j, hjk, m, hm, hl⟩
  · rcases h.propone hfase with ht | ⟨m, hm, hl⟩
    · exact .inl (.inl ht)
    · refine .inl (.inr ⟨b, ?_, m, hm, hl⟩)
      rw [desde_self]
      exact Nat.pos_of_ne_zero fun h0 => hI.llega.1 (desde_eq_zero h0).symm
  · have hjb : j + 1 ≠ b := by
      intro he
      have hle := desde_le he k
      omega
    have hsucc := desde_succ hjb
    have hs : Supera P b j := fun i hi hij => hI.llega.2 i hi (by omega)
    have hmenor := hI.llega.2 (j + 1) hjb (by omega)
    rcases h.queda hm with hqueda | ⟨l₁, hmotivo, l₂, hT⟩ | ⟨resto, -, -, hnombre, -⟩ |
        ⟨resto, hT, hfase, hsigue, hnodo, hresto, hotros⟩
    · exact .inl (.inr ⟨j, hjk, m, hqueda, hl⟩)
    · exact (hmotivo.no_lider ha hT hl hs (le_of_lt hmenor)).elim
    · rw [hl.2] at hnombre
      exact absurd (hd hnombre).symm hjb
    · have hl' : EsLider P b { m with ttl := m.ttl - 1 } := hl
      by_cases hk : j + 1 = k
      · subst hk
        refine .inr ⟨?_, fun i hi => ?_, fun i hi x hx => ?_⟩
        · rw [hnodo.leaderName]
          exact (if_pos hl.1).trans hl.2
        · apply fase_movimiento h
          by_cases hij : i = j + 1
          · rw [hij]
            exact hfase
          · have hdist : desde b i ≠ desde b (j + 1) := fun he => hij (desde_inj he)
            exact ho.pasaje hd hp hm hl i (by omega)
        · have hne : j ≠ j + 1 := by
            intro he
            rw [← he] at hsucc
            omega
          refine ho.libre hT hl hs (fun x hx => by rwa [hresto hne] at hx) (fun i hi => ?_) i (by omega) hx
          refine hotros i ?_ ?_
          · rintro rfl
            exact Nat.lt_irrefl _ hi
          · rintro rfl
            omega
      · have hdist : desde b (j + 1) ≠ desde b k := fun he => hk (desde_inj he)
        exact .inl (.inr ⟨j + 1, by omega, _, hsigue, hl'⟩)

/-! ## The leader process -/

/-- The proposal of `g` is to come back. -/
def Propone (P : Parametros n ν) (r : Red n ν) (g : Fin n) : Prop :=
  (r.anillo.nodo g).fase ≠ .passage ∨ ∃ j, ∃ m ∈ tramo r.anillo j, EsLider P g m

/-- It has come back, behind everything that other nodes sent. -/
structure Electo (P : Parametros n ν) (r : Red n ν) (g : Fin n) : Prop where
  leaderProcess : (r.anillo.nodo g).leaderProcess = true
  fase : ∀ i, (r.anillo.nodo i).fase = .passage
  libre : ∀ i, ∀ m ∈ tramo r.anillo i, ¬ Previo P g i m

/-- The LinkBroken of node `b` is to go through `g`. -/
def PorAvisar (P : Parametros n ν) (r : Red n ν) (b g : Fin n) : Prop :=
  (r.anillo.nodo b).fase = .inicio ∨
    ∃ j, desde b j < desde b g ∧ ∃ m ∈ tramo r.anillo j, m.tipo = .linkBroken ∧ m.nombre = P.localhostName b

/-- A leader process starts with the proposal of its node. -/
theorem leaderProcess_movimiento (h : Movimiento P r t) (hk : (t.anillo.nodo k).leaderProcess = true) :
    (r.anillo.nodo k).leaderProcess = true ∨
      ∃ j m, k = j + 1 ∧ m ∈ tramo r.anillo j ∧ EsLider P k m := by
  cases h with
  | empuja k₀ tipo hfase htramo hotros hname hproceso htipos =>
    by_cases hk₀ : k = k₀
    · subst hk₀
      exact .inl (hproceso hk)
    · rw [hotros k hk₀] at hk
      exact .inl hk
  | quita j m l₁ l₂ hantes hdespues hnodo hmotivo =>
    rw [(hnodo k).leaderProcess] at hk
    exact .inl hk
  | asume j m resto hantes hdespues htipo hnombre hfase hotros hnodo =>
    by_cases hkj : k = j + 1
    · subst hkj
      exact .inr ⟨j, m, rfl, by rw [hantes]; exact List.mem_cons_self, htipo, hnombre⟩
    · rw [hotros k hkj] at hk
      exact .inl hk
  | sigue j m resto T hantes hT hdespues hajeno hmayor hfase hotros hnodo =>
    by_cases hkj : k = j + 1
    · subst hkj
      rw [hnodo.leaderProcess] at hk
      cases hk
    · rw [hotros k hkj] at hk
      exact .inl hk
  | envia htramo hnodo =>
    rw [(hnodo k).leaderProcess] at hk
    exact .inl hk

/-- It ends with a message of another node. -/
theorem leaderProcess_sigue (h : Movimiento P r t) (hproceso : (r.anillo.nodo k).leaderProcess = true)
    (hpasa : (r.anillo.nodo k).fase = .passage) :
    (t.anillo.nodo k).leaderProcess = true ∨
      ∃ j m, k = j + 1 ∧ m ∈ tramo r.anillo j ∧ m.nombre ≠ P.localhostName k ∧
        (m.tipo = .leader → P.localhostName k < m.nombre) := by
  cases h with
  | empuja k₀ tipo hfase htramo hotros hname _ htipos =>
    have hk₀ : k ≠ k₀ := fun he => hfase (he ▸ hpasa)
    rw [hotros k hk₀]
    exact .inl hproceso
  | quita j m l₁ l₂ hantes hdespues hnodo hmotivo =>
    rw [(hnodo k).leaderProcess]
    exact .inl hproceso
  | asume j m resto hantes hdespues htipo hnombre hfase hotros hnodo =>
    by_cases hkj : k = j + 1
    · rw [hkj, hnodo]
      exact .inl rfl
    · rw [hotros k hkj]
      exact .inl hproceso
  | sigue j m resto T hantes hT hdespues hajeno hmayor hfase hotros hnodo =>
    by_cases hkj : k = j + 1
    · subst hkj
      exact .inr ⟨j, m, rfl, by rw [hantes]; exact List.mem_cons_self, hajeno, hmayor⟩
    · rw [hotros k hkj]
      exact .inl hproceso
  | envia htramo hnodo =>
    rw [(hnodo k).leaderProcess]
    exact .inl hproceso

omit [NeZero n] in
theorem supera_mayor (hg : Mayor P g) (k : Fin n) : Supera P g k := fun i hi _ =>
  lt_of_le_of_ne (hg.mayor i) fun he => hi (hg.distintos he)

/-- A message of another node that gets to `g`. -/
theorem Ordenada.llega (ho : Ordenada P g r) (hm : m ∈ tramo r.anillo j) (hj : j + 1 = g)
    (hajeno : m.nombre ≠ P.localhostName g) (htipo : m.tipo ≠ .leader) : Previo P g j m := by
  obtain ⟨o, hnombre, -⟩ := ho.forma j m (mem_hasta.mpr ⟨hm, fun h => absurd h htipo⟩)
  exact ⟨o, fun he => hajeno (he ▸ hnombre), hnombre, desde_le hj o⟩

theorem electo_movimiento (hg : Mayor P g) (h : Movimiento P r t) (ho : Ordenada P g r)
    (hp : Propuestas P cortados r) (he : Electo P r g) : Electo P t g where
  leaderProcess := by
    rcases leaderProcess_sigue h he.leaderProcess (he.fase g) with hsi | ⟨j, m, hj, hm, hajeno, hmayor⟩
    · exact hsi
    · exfalso
      refine he.libre j m hm (ho.llega hm hj.symm hajeno fun htipo => ?_)
      obtain ⟨b, -, -, hb, -⟩ := hp.mensaje j m hm htipo
      have hlt := hmayor htipo
      rw [hb] at hlt
      exact absurd hlt (not_lt.mpr (hg.mayor b))
  fase i := fase_movimiento h i (he.fase i)
  libre i x hx hprevio := by
    rcases h.mem hx with hx | ⟨tipo, rfl, hno, -⟩ | ⟨j, m, rfl, hm, rfl, hajeno, -, -⟩
    · exact he.libre i x hx hprevio
    · exact hno (he.fase i)
    · exact he.libre j m hm (Previo.antes (m := m) hprevio hajeno).2

theorem propone_movimiento (hg : Mayor P g) (h : Movimiento P r t) (ha : Avisos P cortados r)
    (hp : Propuestas P cortados r) (ho : Ordenada P g r) (hq : Propone P r g) :
    Propone P t g ∨ Electo P t g := by
  rcases hq with hfase | ⟨j, m, hm, hl⟩
  · rcases h.propone hfase with ht | ⟨m, hm, hl⟩
    · exact .inl (.inl ht)
    · exact .inl (.inr ⟨g, m, hm, hl⟩)
  · rcases h.queda hm with hqueda | ⟨l₁, hmotivo, l₂, hT⟩ | ⟨resto, hT, -, hnombre, hnodo, hdespues⟩ |
        ⟨resto, hT, -, hsigue, -⟩
    · exact .inl (.inr ⟨j, m, hqueda, hl⟩)
    · exact (hmotivo.no_lider ha hT hl (supera_mayor hg j) (hg.mayor _)).elim
    · have hj : j + 1 = g := hg.distintos (hnombre.symm.trans hl.2)
      refine .inr ⟨?_, fun i => ?_, fun i x hx => ?_⟩
      · rw [← hj, hnodo]
        rfl
      · exact fase_movimiento h i (ho.pasaje hg.distintos hp hm hl i (desde_le hj i))
      · refine ho.libre hT hl (supera_mayor hg j) (T := tramo t.anillo) (fun x hx => ?_) (fun i hi => ?_) i
          (desde_le hj i) hx
        · rwa [hdespues, Function.update_self] at hx
        · have hne : i ≠ j := fun he => Nat.lt_irrefl _ (he ▸ hi)
          rw [hdespues, Function.update_of_ne hne]
    · exact .inl (.inr ⟨j + 1, _, hsigue, hl⟩)

theorem porAvisar_movimiento (hd : Function.Injective P.localhostName) (h : Movimiento P r t)
    (hc : Conexiones r) (hp : Propuestas P cortados r)
    (hsanos : ∀ i, i ≠ b → desde b i ≤ desde b g → cortados i = false) (hbg : b ≠ g)
    (hq : PorAvisar P r b g) : PorAvisar P t b g ∨ (t.anillo.nodo g).leaderProcess = false := by
  rcases hq with hfase | ⟨j, hjg, m, hm, htipo, hnombre⟩
  · rcases h.empieza (by rw [hfase]; exact Fase.noConfusion) with ht | ⟨tipo, hm, ⟨rfl, -⟩ | ⟨-, htail⟩⟩
    · exact .inl (.inl (ht.trans hfase))
    · refine .inl (.inr ⟨b, ?_, _, hm, rfl, rfl⟩)
      rw [desde_self]
      exact Nat.pos_of_ne_zero fun h0 => hbg (desde_eq_zero h0).symm
    · rw [hfase] at htail
      cases htail
  · have hjb : j + 1 ≠ b := by
      intro he
      have hle := desde_le he g
      omega
    have hsucc := desde_succ hjb
    rcases h.queda hm with hqueda | ⟨l₁, hmotivo, l₂, hT⟩ | ⟨resto, -, hleader, -⟩ |
        ⟨resto, hT, -, hsigue, hnodo, -⟩
    · exact .inl (.inr ⟨j, hjg, m, hqueda, htipo, hnombre⟩)
    · exfalso
      cases hmotivo with
      | menor hleader _ =>
        rw [htipo] at hleader
        cases hleader
      | vuelto _ hvuelto _ => exact hjb (hd (hvuelto.symm.trans hnombre))
      | perdido _ hrota _ =>
        have hpasa := hp.fase (j + 1) (hsanos (j + 1) hjb (by omega))
        rw [← hc.establecida, hrota] at hpasa
        cases hpasa
    · rw [htipo] at hleader
      cases hleader
    · by_cases hg : j + 1 = g
      · rw [← hg, hnodo.leaderProcess]
        exact .inr rfl
      · have hdist : desde b (j + 1) ≠ desde b g := fun he => hg (desde_inj he)
        exact .inl (.inr ⟨j + 1, by omega, _, hsigue, htipo, hnombre⟩)

/-! ## The names of the outbound processes -/

/-- The name that the outbound process will have after what is in its queue. -/
def anotado (nombre : ν) (d : Nodo ν) : ν :=
  d.userlandOutboundQueue.foldl
    (fun a m => if m.tipo = .leader ∧ nombre < m.nombre then m.nombre else a) d.leaderNameSalida

omit [NeZero n] in
theorem anotado_push {nombre : ν} {d' : Nodo ν}
    (hcola : d'.userlandOutboundQueue = d.userlandOutboundQueue ++ [m])
    (hsalida : d'.leaderNameSalida = d.leaderNameSalida) :
    anotado nombre d' = if m.tipo = .leader ∧ nombre < m.nombre then m.nombre else anotado nombre d := by
  unfold anotado
  rw [hcola, hsalida, List.foldl_append]
  rfl

omit [NeZero n] in
theorem anotado_handleOutbound (nombre : ν) (hcola : d.userlandOutboundQueue = m :: resto) :
    anotado nombre (handleOutbound nombre { d with userlandOutboundQueue := resto } m).1 = anotado nombre d := by
  rcases handleOutbound_casos nombre { d with userlandOutboundQueue := resto } m with
    ⟨-, hmenor, hr⟩ | ⟨htipo, hmayor, hr⟩ | ⟨hpropio, hr⟩
  · rw [hr]
    unfold anotado
    rw [hcola, List.foldl_cons, if_neg fun h => absurd h.2 (not_lt.mpr (le_of_lt hmenor))]
  · rw [hr]
    unfold anotado
    rw [hcola, List.foldl_cons, if_pos ⟨htipo, hmayor⟩]
  · rw [hr]
    unfold anotado
    rw [hcola, List.foldl_cons, if_neg fun h => absurd h.2 (not_lt.mpr (le_of_eq (hpropio h.1)))]

omit [NeZero n] in
/-- A node that gets its own proposal has its name already. -/
theorem anotado_recibirLoop {nombre : ν} (hd : anotado nombre d = d.leaderName)
    (hpropio : m.tipo = .leader → m.nombre = nombre → d.leaderName = nombre) :
    anotado nombre (recibirLoop nombre d m) = (recibirLoop nombre d m).leaderName := by
  rcases Nat.eq_zero_or_pos m.ttl with hcero | hpos
  · unfold recibirLoop
    rw [if_pos (Nat.le_of_eq hcero), hd]
  · rcases recibirLoop_casos nombre d hpos with ⟨htipo, hnombre, hr⟩ | ⟨-, hr⟩ | ⟨-, hmayor, hr⟩
    · rw [hr]
      show anotado nombre d = m.nombre
      rw [hd, hpropio htipo hnombre, hnombre]
    · rw [hr, hd]
    · have hpush : anotado nombre ((seguir d m).push { m with ttl := m.ttl - 1 }) = _ :=
        anotado_push (d := seguir d m) rfl rfl
      rw [hr, hpush]
      show _ = if m.tipo = .leader then m.nombre else d.leaderName
      by_cases htipo : m.tipo = .leader
      · rw [if_pos htipo]
        exact if_pos ⟨htipo, hmayor htipo⟩
      · rw [if_neg htipo]
        exact (if_neg fun h => htipo h.1).trans hd

/-- Both processes of a node have the same leader, or the outbound process is to read it. -/
def Anotados (P : Parametros n ν) (r : Red n ν) : Prop :=
  ∀ k, anotado (P.localhostName k) (r.anillo.nodo k) = (r.anillo.nodo k).leaderName

omit [NeZero n] in
theorem Anotados.pon (h : Anotados P r) (ht : t.anillo.nodo = (r.anillo.pon k d).nodo)
    (hk : anotado (P.localhostName k) d = d.leaderName) : Anotados P t := by
  intro i
  rw [ht]
  by_cases hi : i = k
  · rw [hi, nodo_pon_self]
    exact hk
  · rw [nodo_pon_of_ne hi]
    exact h i

omit [NeZero n] in
theorem Anotados.propio (h : Anotados P r) (tipo : Tipo) (ht : t.anillo.nodo = (r.anillo.pon k d).nodo)
    (hcola : d.userlandOutboundQueue =
      (r.anillo.nodo k).userlandOutboundQueue ++ [⟨tipo, P.localhostName k, P.ttl⟩])
    (hsalida : d.leaderNameSalida = (r.anillo.nodo k).leaderNameSalida)
    (hname : d.leaderName = (r.anillo.nodo k).leaderName) : Anotados P t := by
  refine h.pon ht ?_
  rw [anotado_push hcola hsalida, hname, if_neg fun h => lt_irrefl _ h.2]
  exact h k

theorem anotados_paso {e : Evento n} (h : pasoRed P r e = some t) (ha : Anotados P r)
    (hpropio : ∀ j, ∀ m ∈ tramo r.anillo j, EsLider P (j + 1) m →
      (r.anillo.nodo (j + 1)).leaderName = P.localhostName (j + 1)) : Anotados P t := by
  cases e with
  | inbound k =>
    change r.inbound P k = some t at h
    unfold Red.inbound at h
    split at h
    · rename_i con hfase
      obtain ⟨s, hs, rfl⟩ := Option.map_eq_some_iff.mp h
      unfold pasoInbound at hs
      simp only [hfase] at hs
      cases hs
      exact ha.propio .linkBroken rfl rfl rfl rfl
    · rename_i hfase hcon
      obtain ⟨s, hs, rfl⟩ := Option.map_eq_some_iff.mp h
      unfold pasoInbound at hs
      simp only [hfase] at hs
      cases hs
      exact ha.propio .leader rfl rfl rfl rfl
    · cases h
    · rename_i con hfase
      obtain ⟨s, hs, rfl⟩ := Option.map_eq_some_iff.mp h
      obtain ⟨j, rfl⟩ : ∃ j, k = j + 1 := ⟨k - 1, (sub_add_cancel k 1).symm⟩
      unfold pasoInbound at hs
      simp only [hfase] at hs
      obtain ⟨⟨m, u⟩, hu, rfl⟩ := Option.map_eq_some_iff.mp hs
      obtain ⟨resto, hantes, -⟩ := tramo_toma hu
      have hnodo : u.nodo = r.anillo.nodo := nodo_toma hu
      refine ha.pon (k := j + 1) ?_ (anotado_recibirLoop (m := m) (ha (j + 1)) fun htipo hnombre =>
        hpropio j m (by rw [hantes]; exact List.mem_cons_self) ⟨htipo, hnombre⟩)
      show (u.pon (j + 1) _).nodo = _
      unfold Ronda.pon
      rw [hnodo]
  | outbound k =>
    change r.outbound P k = some t at h
    unfold Red.outbound at h
    split at h
    · rename_i cola hcon
      obtain ⟨s, hs, rfl⟩ := Option.map_eq_some_iff.mp h
      unfold pasoOutbound at hs
      split at hs
      case h_2 => cases hs
      rename_i m resto hcola
      cases hs
      refine ha.pon rfl ?_
      rw [anotado_handleOutbound _ hcola, (handleOutbound_mismo _ _ m).1.leaderName]
      exact ha k
    · rename_i m resto hcon hcola
      cases h
      refine ha.pon rfl ?_
      rw [anotado_handleOutbound _ hcola, (handleOutbound_mismo _ _ m).1.leaderName]
      exact ha k
    · cases h
    · cases h

/-! ## One round -/

/-- The nodes of `cortados` have lost their links, with the names `antes` for the leader. -/
structure Vuelta (P : Parametros n ν) (cortados : Fin n → Bool) (antes : Fin n → ν) (g : Fin n)
    (r : Red n ν) : Prop where
  conexiones : Conexiones r
  propuestas : Propuestas P cortados r
  orden : ∀ c, Ordenada P c r
  avisos : Avisos P cortados r
  propio : antes g = P.localhostName g
  conservado : ∀ k, (∀ b, cortados b = true → ¬ Llega P b k) → (r.anillo.nodo k).leaderName = antes k
  impuesto : ∀ b k, Impone P cortados b k → Pendiente P r b k ∨ Pasada P r b k
  anotados : Anotados P r
  otros : ∀ k, k ≠ g → (r.anillo.nodo k).leaderProcess = false
  electo : cortados g = true → Propone P r g ∨ Electo P r g
  parado : cortados g = false → ∃ b, b ≠ g ∧ (∀ i, i ≠ b → desde b i ≤ desde b g → cortados i = false) ∧
    (PorAvisar P r b g ∨ (r.anillo.nodo g).leaderProcess = false)

theorem Vuelta.vivos (h : Vuelta P cortados antes g r) (hg : Mayor P g) : Vivos r := by
  intro k m hm
  have hadmite : m.tipo = .leader → m.nombre ≤ P.localhostName g := by
    intro htipo
    obtain ⟨b, -, -, hb, -⟩ := h.propuestas.mensaje k m hm htipo
    rw [hb]
    exact hg.mayor b
  obtain ⟨o, -, hsuma, -⟩ := (h.orden g).forma k m (mem_hasta.mpr ⟨hm, hadmite⟩)
  have hlt := desde_lt o k
  have httl := hg.ttl
  omega

/-- Nobody gets a proposal to `g` but `g`, so that it keeps its own name. -/
theorem Vuelta.mayor (h : Vuelta P cortados antes g r) (hg : Mayor P g) :
    (r.anillo.nodo g).leaderName = P.localhostName g := by
  rw [h.conservado g fun b _ hb => ?_, h.propio]
  exact absurd (hb.2 g (Ne.symm hb.1) (Nat.le_refl _)) (not_lt.mpr (hg.mayor b))

/-- The proposal that comes back is the one of `g`. -/
theorem Vuelta.vuelve (h : Vuelta P cortados antes g r) (hg : Mayor P g) (hm : m ∈ tramo r.anillo j)
    (hl : EsLider P (j + 1) m) : j + 1 = g := by
  have hmayor := (h.propuestas.mensaje j m hm hl.1).vuelve hg.distintos hl.2 g
  exact hg.distintos (le_antisymm (hg.mayor _) hmayor)

theorem vuelta_paso {e : Evento n} (hg : Mayor P g) (h : Vuelta P cortados antes g r)
    (hpaso : pasoRed P r e = some t) : Vuelta P cortados antes g t := by
  have hv := h.vivos hg
  have hmov := movimiento_paso h.conexiones hv hpaso
  have hd := hg.distintos
  constructor
  · exact conexiones_paso h.conexiones hpaso
  · exact h.propuestas.movimiento hmov
  · exact fun c => ordenada_movimiento hd hv hmov (h.orden c)
  · intro k hrota
    have hantes := rota_paso hpaso _ hrota
    obtain ⟨b, hb⟩ := h.avisos k hantes
    exact ⟨b, hb.movimiento hd hmov h.conexiones h.propuestas hantes hrota⟩
  · exact h.propio
  · intro k hk
    rw [conservado_movimiento hd hmov h.propuestas hk fun hmayor => ?_]
    · exact h.conservado k hk
    · rw [hd (le_antisymm (hg.mayor k) (hmayor g))]
      exact h.mayor hg
  · intro b k hI
    rcases h.impuesto b k hI with hq | hq
    · exact pendiente_movimiento hd hmov h.avisos h.propuestas (h.orden b) hI hq
    · exact .inr (pasada_movimiento hd hmov h.propuestas hI hq)
  · refine anotados_paso hpaso h.anotados fun j m hm hl => ?_
    rw [h.vuelve hg hm hl]
    exact h.mayor hg
  · intro k hk
    rw [← Bool.not_eq_true]
    intro hsi
    rcases leaderProcess_movimiento hmov hsi with hantes | ⟨j, m, rfl, hm, hl⟩
    · rw [h.otros k hk] at hantes
      cases hantes
    · exact hk (h.vuelve hg hm hl)
  · intro hcortado
    rcases h.electo hcortado with hq | hq
    · exact propone_movimiento hg hmov h.avisos h.propuestas (h.orden g) hq
    · exact .inr (electo_movimiento hg hmov (h.orden g) h.propuestas hq)
  · intro hsano
    obtain ⟨b, hbg, hsanos, hq⟩ := h.parado hsano
    refine ⟨b, hbg, hsanos, ?_⟩
    rcases hq with hq | hq
    · exact porAvisar_movimiento hd hmov h.conexiones h.propuestas hsanos hbg hq
    · refine .inr ?_
      rw [← Bool.not_eq_true]
      intro hsi
      rcases leaderProcess_movimiento hmov hsi with hantes | ⟨j, m, hj, hm, hl⟩
      · rw [hq] at hantes
        cases hantes
      · obtain ⟨c, hc, -, hnombre, -⟩ := h.propuestas.mensaje j m hm hl.1
        rw [hd (hnombre.symm.trans hl.2), hsano] at hc
        cases hc

end Reeleccion
