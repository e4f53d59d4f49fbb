import Aeropuerto.Anillo.EleccionLider

/-!
# One leader and everybody agrees

The messages between the outbound queue of a node and the inbound process of the next one are a stretch
of the ring.  From the node with the greatest name on, no message of another node that has still to
reach it comes behind one of its own.
-/

namespace EleccionLider

open Ejecucion Ronda

variable {n : Nat} {ν : Type} [LinearOrder ν] [NeZero n]

/-- The node with the greatest name, in a ring that a message can go round. -/
structure Mayor (P : Parametros n ν) (g : Fin n) : Prop where
  distintos : Function.Injective P.localhostName
  mayor : ∀ j, P.localhostName j ≤ P.localhostName g
  ttl : n ≤ P.ttl

/-- The message is of another node and has not reached `g`. -/
def Previo (P : Parametros n ν) (g k : Fin n) (m : Mensaje ν) : Prop :=
  ∃ o, o ≠ g ∧ m.nombre = P.localhostName o ∧ desde g o ≤ desde g k

/-- A message behind node `k`. -/
def Forma (P : Parametros n ν) (g k : Fin n) (m : Mensaje ν) : Prop :=
  ∃ o, m.nombre = P.localhostName o ∧ m.ttl + desde o k = P.ttl ∧
    (m.tipo = .leader → desde g o ≤ desde g k)

/-- The stretches of the ring. -/
structure Orden (P : Parametros n ν) (g : Fin n) (fase : Fin n → Fase) (T : Fin n → List (Mensaje ν)) :
    Prop where
  forma : ∀ k, ∀ m ∈ T k, Forma P g k m
  detras : ∀ k, (T k).Pairwise fun x y => x.nombre = P.localhostName g → ¬ Previo P g k y
  entre : ∀ i j, desde g i < desde g j → ∀ x ∈ T j, x.nombre = P.localhostName g →
    ∀ y ∈ T i, ¬ Previo P g i y
  -- nothing has gone through a node that does not forward
  arranque : ∀ k, fase k ≠ .passage → ∀ j, desde g k ≤ desde g j → ∀ m ∈ T j,
    ∃ o, m.nombre = P.localhostName o ∧ desde g k ≤ desde g o ∧ desde g o ≤ desde g j

variable {P : Parametros n ν} {g i j k o : Fin n} {fase fase' : Fin n → Fase}
  {T T' : Fin n → List (Mensaje ν)} {m x y : Mensaje ν} {resto : List (Mensaje ν)}

/-! ## Stretches -/

omit [LinearOrder ν] [NeZero n] in
/-- Messages are taken away and nodes begin to forward. -/
theorem Orden.menos (h : Orden P g fase T) (hT : ∀ k, (T' k).Sublist (T k))
    (hfase : ∀ k, fase' k ≠ .passage → fase k ≠ .passage) : Orden P g fase' T' where
  forma k m hm := h.forma k m ((hT k).subset hm)
  detras k := (h.detras k).sublist (hT k)
  entre i j hij x hx hnombre y hy := h.entre i j hij x ((hT j).subset hx) hnombre y ((hT i).subset hy)
  arranque k hk j hkj m hm := h.arranque k (hfase k hk) j hkj m ((hT j).subset hm)

omit [LinearOrder ν] [NeZero n] in
theorem mem_agregar : x ∈ Function.update T k (T k ++ [m]) j ↔ x ∈ T j ∨ j = k ∧ x = m := by
  by_cases hj : j = k
  · subst hj
    rw [Function.update_self, List.mem_append, List.mem_singleton]
    exact or_congr_right (and_iff_right rfl).symm
  · rw [Function.update_of_ne hj]
    exact (or_iff_left fun h => hj h.1).symm

omit [LinearOrder ν] [NeZero n] in
/-- A message at the end of a stretch. -/
theorem Orden.agregar (h : Orden P g fase T) (hforma : Forma P g k m)
    (hprevio : Previo P g k m → ∀ j, desde g k ≤ desde g j → ∀ x ∈ T j, x.nombre ≠ P.localhostName g)
    (hlider : m.nombre = P.localhostName g → ∀ i, desde g i < desde g k → ∀ y ∈ T i, ¬ Previo P g i y)
    (harranque : ∀ i, fase i ≠ .passage → desde g i ≤ desde g k →
      ∃ o, m.nombre = P.localhostName o ∧ desde g i ≤ desde g o ∧ desde g o ≤ desde g k) :
    Orden P g fase (Function.update T k (T k ++ [m])) where
  forma j x hx := by
    rcases mem_agregar.mp hx with hx | ⟨rfl, rfl⟩
    · exact h.forma j x hx
    · exact hforma
  detras j := by
    by_cases hj : j = k
    · subst hj
      rw [Function.update_self, List.pairwise_append]
      refine ⟨h.detras j, List.pairwise_singleton _ _, fun x hx y hy hnombre hy' => ?_⟩
      rw [List.mem_singleton] at hy
      subst hy
      exact hprevio hy' j (Nat.le_refl _) x hx hnombre
    · rw [Function.update_of_ne hj]
      exact h.detras j
  entre i j hij x hx hnombre y hy := by
    rcases mem_agregar.mp hx with hxT | ⟨rfl, rfl⟩
    · rcases mem_agregar.mp hy with hyT | ⟨rfl, rfl⟩
      · exact h.entre i j hij x hxT hnombre y hyT
      · exact fun hprev => hprevio hprev j (Nat.le_of_lt hij) x hxT hnombre
    · rcases mem_agregar.mp hy with hyT | ⟨rfl, rfl⟩
      · exact hlider hnombre i hij y hyT
      · exact absurd hij (Nat.lt_irrefl _)
  arranque i hi j hij x hx := by
    rcases mem_agregar.mp hx with hx | ⟨rfl, rfl⟩
    · exact h.arranque i hi j hij x hx
    · exact harranque i hi hij

omit [LinearOrder ν] in
/-- A node pushes a message of its own before it forwards. -/
theorem Orden.propio (h : Orden P g fase T) (hd : Function.Injective P.localhostName)
    (hk : fase k ≠ .passage) (tipo : Tipo) :
    Orden P g fase (Function.update T k (T k ++ [⟨tipo, P.localhostName k, P.ttl⟩])) := by
  apply h.agregar
  · exact ⟨k, rfl, by rw [desde_self, Nat.add_zero], fun _ => Nat.le_refl _⟩
  · rintro ⟨o, ho, hnombre, -⟩ j hkj x hx hxg
    obtain ⟨o', ho', hle, -⟩ := h.arranque k hk j hkj x hx
    -- what is ahead comes from `k` or from nodes beyond it
    have hok : o = k := (hd hnombre).symm
    have hog : o' = g := hd (ho'.symm.trans hxg)
    rw [hog, desde_self, Nat.le_zero] at hle
    exact ho (hok.trans (desde_eq_zero hle))
  · intro hnombre i hi
    rw [hd hnombre, desde_self] at hi
    exact absurd hi (Nat.not_lt_zero _)
  · exact fun i _ hik => ⟨k, rfl, hik, Nat.le_refl _⟩

omit [LinearOrder ν] in
/-- A message that node `j + 1` lets through had not reached `g` before. -/
theorem Previo.antes (h : Previo P g (j + 1) m) (hajeno : m.nombre ≠ P.localhostName (j + 1)) :
    j + 1 ≠ g ∧ Previo P g j m := by
  obtain ⟨o, hog, ho, hle⟩ := h
  have hne : j + 1 ≠ g := by
    intro he
    rw [he, desde_self, Nat.le_zero] at hle
    exact hog (desde_eq_zero hle)
  have hdist : desde g (j + 1) ≠ desde g o := fun he => hajeno (desde_inj he ▸ ho)
  rw [desde_succ hne] at hle hdist
  exact ⟨hne, o, hog, ho, by omega⟩

omit [LinearOrder ν] in
/-- A node passes on the first message of the stretch before it. -/
theorem Orden.mover (h : Orden P g fase T) (hT : T j = m :: resto)
    (hfase : fase (j + 1) = .passage) (hajeno : m.nombre ≠ P.localhostName (j + 1)) (httl : 0 < m.ttl)
    (hleader : m.tipo = .leader → j + 1 ≠ g) (hT' : T' = Function.update T j resto) :
    Orden P g fase (Function.update T' (j + 1) (T' (j + 1) ++ [{ m with ttl := m.ttl - 1 }])) := by
  have hsub : ∀ i, (T' i).Sublist (T i) := by
    intro i
    rw [hT']
    by_cases hi : i = j
    · rw [hi, Function.update_self, hT]
      exact List.sublist_cons_self _ _
    · rw [Function.update_of_ne hi]
  have hm : m ∈ T j := by rw [hT]; exact List.mem_cons_self
  obtain ⟨o, ho, hsuma, htipo⟩ := h.forma j m hm
  have hok : j + 1 ≠ o := fun he => hajeno (he ▸ ho)
  have hcola := h.detras j
  rw [hT, List.pairwise_cons] at hcola
  apply (h.menos hsub fun _ h => h).agregar
  · refine ⟨o, ho, ?_, fun hl => ?_⟩
    · show m.ttl - 1 + desde o (j + 1) = P.ttl
      rw [desde_succ hok]
      omega
    · rw [desde_succ (hleader hl)]
      exact Nat.le_succ_of_le (htipo hl)
  · intro hprevio i hi x hx hxg
    obtain ⟨hne, hantes⟩ := Previo.antes (m := m) hprevio hajeno
    rw [desde_succ hne] at hi
    exact h.entre j i (by omega) x ((hsub i).subset hx) hxg m hm hantes
  · intro hnombre i hi y hy
    by_cases hij : i = j
    · subst hij
      rw [hT', Function.update_self] at hy
      exact hcola.1 y hy hnombre
    · have hlt : desde g i < desde g j := by
        have hne : j + 1 ≠ g := by
          intro he
          rw [he, desde_self] at hi
          exact absurd hi (Nat.not_lt_zero _)
        rw [desde_succ hne] at hi
        have hdist : desde g i ≠ desde g j := fun he => hij (desde_inj he)
        omega
      exact h.entre i j hlt m hm hnombre y ((hsub i).subset hy)
  · intro i hi hle
    have hne : i ≠ j + 1 := by
      intro he
      rw [he] at hi
      exact hi hfase
    have hdist : desde g i ≠ desde g (j + 1) := fun he => hne (desde_inj he)
    by_cases hjg : j + 1 = g
    · rw [hjg, desde_self] at hle hdist
      exact absurd (Nat.le_zero.mp hle) hdist
    · rw [desde_succ hjg] at hle hdist ⊢
      obtain ⟨o', ho', hio, hoj⟩ := h.arranque i hi j (by omega) m hm
      exact ⟨o', ho', hio, Nat.le_succ_of_le hoj⟩

/-! ## What the processes do -/

variable {s t u : Estado n ν} {d : Nodo ν} {nombre : ν}

/-- From the outbound queue of node `k` to the inbound process of the next one, oldest first. -/
def tramo (s : Estado n ν) (k : Fin n) : List (Mensaje ν) :=
  s.enlace (k + 1) ++ (s.nodo k).userlandOutboundQueue

/-- The node gets its own proposal back. -/
def asumir (d : Nodo ν) (nombre : ν) : Nodo ν :=
  { d with
    leaderName := nombre
    leaderProcess := true
    iniciados := if d.leaderProcess then d.iniciados else d.iniciados + 1 }

/-- The node lets a message through. -/
def seguir (d : Nodo ν) (m : Mensaje ν) : Nodo ν :=
  { clean d with leaderName := if m.tipo = .leader then m.nombre else d.leaderName }

omit [NeZero n] in
theorem recibirLoop_casos (nombre : ν) (d : Nodo ν) (httl : 0 < m.ttl) :
    m.tipo = .leader ∧ m.nombre = nombre ∧ recibirLoop nombre d m = asumir d m.nombre ∨
      (m.tipo = .leader → m.nombre < nombre) ∧ recibirLoop nombre d m = d ∨
        m.nombre ≠ nombre ∧ (m.tipo = .leader → nombre < m.nombre) ∧
          recibirLoop nombre d m = (seguir d m).push { m with ttl := m.ttl - 1 } := by
  unfold recibirLoop handleInbound
  rw [if_neg (Nat.not_le.mpr httl)]
  cases htipo : m.tipo with
  | leader =>
    dsimp only
    by_cases hpropio : m.nombre = nombre
    · refine .inl ⟨rfl, hpropio, ?_⟩
      rw [if_pos hpropio]
      unfold asumir
      split <;> rename_i hproceso <;> simp [hproceso]
    · rw [if_neg hpropio]
      by_cases hmenor : m.nombre < nombre
      · rw [if_pos hmenor]
        exact .inr (.inl ⟨fun _ => hmenor, rfl⟩)
      · rw [if_neg hmenor]
        refine .inr (.inr ⟨hpropio, fun _ => lt_of_le_of_ne (not_lt.mp hmenor) (Ne.symm hpropio), ?_⟩)
        unfold seguir
        rw [if_pos rfl, if_pos htipo]
  | linkBroken =>
    dsimp only
    by_cases hpropio : m.nombre = nombre
    · rw [if_pos hpropio]
      exact .inr (.inl ⟨nofun, rfl⟩)
    · rw [if_neg hpropio]
      refine .inr (.inr ⟨hpropio, nofun, ?_⟩)
      unfold seguir
      rw [if_pos rfl, htipo, if_neg nofun]
      rfl

omit [NeZero n] in
theorem handleOutbound_casos (nombre : ν) (d : Nodo ν) (m : Mensaje ν) :
    m.tipo = .leader ∧ m.nombre < nombre ∧ handleOutbound nombre d m = (d, false) ∨
      m.tipo = .leader ∧ nombre < m.nombre ∧
        handleOutbound nombre d m = ({ d with leaderNameSalida := m.nombre }, true) ∨
      (m.tipo = .leader → m.nombre = nombre) ∧ handleOutbound nombre d m = (d, true) := by
  unfold handleOutbound
  cases htipo : m.tipo with
  | leader =>
    dsimp only
    by_cases hpropio : m.nombre = nombre
    · rw [if_pos hpropio]
      exact .inr (.inr ⟨fun _ => hpropio, rfl⟩)
    · rw [if_neg hpropio]
      by_cases hmenor : m.nombre < nombre
      · rw [if_pos hmenor]
        exact .inl ⟨rfl, hmenor, rfl⟩
      · rw [if_neg hmenor]
        exact .inr (.inl ⟨rfl, lt_of_le_of_ne (not_lt.mp hmenor) (Ne.symm hpropio), rfl⟩)
  | linkBroken => exact .inr (.inr ⟨nofun, rfl⟩)

omit [LinearOrder ν] in
theorem tramo_pon (s : Estado n ν) (k : Fin n) (l : List (Mensaje ν))
    (h : d.userlandOutboundQueue = (s.nodo k).userlandOutboundQueue ++ l) :
    tramo (s.pon k d) = Function.update (tramo s) k (tramo s k ++ l) := by
  funext i
  unfold tramo
  by_cases hi : i = k
  · subst hi
    rw [Function.update_self, nodo_pon_self, h, List.append_assoc]
    rfl
  · rw [Function.update_of_ne hi, nodo_pon_of_ne hi]
    rfl

omit [LinearOrder ν] in
theorem tramo_pon_igual (s : Estado n ν) (k : Fin n)
    (h : d.userlandOutboundQueue = (s.nodo k).userlandOutboundQueue) : tramo (s.pon k d) = tramo s := by
  rw [tramo_pon s k [] (by rw [h, List.append_nil]), List.append_nil, Function.update_eq_self]

omit [LinearOrder ν] in
theorem tramo_toma (h : s.toma (j + 1) = some (m, u)) :
    ∃ resto, tramo s j = m :: resto ∧ tramo u = Function.update (tramo s) j resto := by
  obtain ⟨resto, hcola, rfl⟩ := toma_eq_some h
  refine ⟨resto ++ (s.nodo j).userlandOutboundQueue, by unfold tramo; rw [hcola]; rfl, ?_⟩
  funext i
  unfold tramo
  dsimp only
  by_cases hi : i = j
  · subst hi
    rw [Function.update_self, Function.update_self]
  · have hne : i + 1 ≠ j + 1 := fun he => hi (add_left_injective 1 he)
    rw [Function.update_of_ne hne, Function.update_of_ne hi]

omit [LinearOrder ν] in
/-- The outbound process takes the first message of its queue. -/
theorem tramo_enviarLoop {r : Nodo ν × Bool} (hcola : (s.nodo k).userlandOutboundQueue = m :: resto)
    (hr : r.1.userlandOutboundQueue = resto) :
    ∀ i, (tramo (enviarLoop s k m r) i).Sublist (tramo s i) := by
  intro i
  unfold tramo enviarLoop
  rw [nodo_envia]
  by_cases hi : i = k
  · subst hi
    rw [nodo_pon_self, hr, hcola]
    show (Function.update s.enlace (i + 1) (s.enlace (i + 1) ++ _) (i + 1) ++ resto).Sublist _
    rw [Function.update_self, List.append_assoc]
    apply List.Sublist.append_left
    split
    · exact List.Sublist.refl _
    · exact List.sublist_cons_self _ _
  · rw [nodo_pon_of_ne hi]
    have hne : i + 1 ≠ k + 1 := fun he => hi (add_left_injective 1 he)
    show (Function.update s.enlace (k + 1) _ (i + 1) ++ _).Sublist _
    rw [Function.update_of_ne hne]

/-! ## The invariant -/

/-- The proposal of the node with the greatest name. -/
def EsLider (P : Parametros n ν) (g : Fin n) (m : Mensaje ν) : Prop :=
  m.tipo = .leader ∧ m.nombre = P.localhostName g

instance (P : Parametros n ν) (g : Fin n) (m : Mensaje ν) : Decidable (EsLider P g m) :=
  inferInstanceAs (Decidable (_ ∧ _))

def contarLider (P : Parametros n ν) (g : Fin n) (m : Mensaje ν) : Nat :=
  if EsLider P g m then 1 else 0

def lideresDe (P : Parametros n ν) (g : Fin n) (d : Nodo ν) : Nat :=
  (d.userlandOutboundQueue.map (contarLider P g)).sum

def lideres (P : Parametros n ν) (g : Fin n) (s : Estado n ν) : Nat :=
  s.total (lideresDe P g) (contarLider P g)

/-- The leader has been elected. -/
structure Elegido (P : Parametros n ν) (g : Fin n) (s : Estado n ν) : Prop where
  fase : ∀ k, (s.nodo k).fase = .passage
  leaderName : ∀ k, (s.nodo k).leaderName = P.localhostName g
  leaderNameSalida : ∀ k, (s.nodo k).leaderNameSalida = P.localhostName g
  leaderProcess : (s.nodo g).leaderProcess = true
  previos : ∀ k, ∀ m ∈ tramo s k, ¬ Previo P g k m

structure Inv (P : Parametros n ν) (g : Fin n) (s : Estado n ν) : Prop where
  orden : Orden P g (fun k => (s.nodo k).fase) (tramo s)
  propio : (s.nodo g).leaderName = P.localhostName g
  propioSalida : (s.nodo g).leaderNameSalida = P.localhostName g
  -- the nodes that the proposal of `g` has gone through
  pasado : ∀ k j, desde g k ≤ desde g j → ∀ m ∈ tramo s j, EsLider P g m →
    (s.nodo k).leaderName = P.localhostName g
  salidaEnlace : ∀ k, ∀ m ∈ s.enlace (k + 1), EsLider P g m →
    (s.nodo k).leaderNameSalida = P.localhostName g
  salida : ∀ k j, desde g k < desde g j → ∀ m ∈ tramo s j, EsLider P g m →
    (s.nodo k).leaderNameSalida = P.localhostName g
  otros : ∀ k, k ≠ g → (s.nodo k).leaderProcess = false ∧ (s.nodo k).iniciados = 0
  proceso : (s.nodo g).leaderProcess = true → 0 < (s.nodo g).iniciados
  cuenta : lideres P g s + (s.nodo g).iniciados = if (s.nodo g).fase = .passage then 1 else 0
  elegido : 0 < (s.nodo g).iniciados → Elegido P g s

theorem inv_inicial (P : Parametros n ν) (g : Fin n) : Inv P g (inicial P) where
  orden := by
    have hvacio : ∀ k, tramo (inicial P) k = [] := fun _ => rfl
    constructor
    · intro k m hm
      rw [hvacio] at hm
      cases hm
    · intro k
      rw [hvacio]
      exact List.Pairwise.nil
    · intro i j _ x hx
      rw [hvacio] at hx
      cases hx
    · intro k _ j _ m hm
      rw [hvacio] at hm
      cases hm
  propio := rfl
  propioSalida := rfl
  pasado _ _ _ _ hm := nomatch hm
  salidaEnlace _ _ hm := nomatch hm
  salida _ _ _ _ hm := nomatch hm
  otros _ _ := ⟨rfl, rfl⟩
  proceso := nofun
  cuenta := by
    unfold lideres lideresDe total inicial
    simp
  elegido := nofun

/-! ## Messages of a stretch -/

omit [NeZero n] in
theorem contarLider_of_not (h : ¬ EsLider P g m) : contarLider P g m = 0 := if_neg h

omit [NeZero n] in
theorem lideres_pon (P : Parametros n ν) (g : Fin n) (s : Estado n ν) (k : Fin n) (d : Nodo ν) :
    lideres P g (s.pon k d) + lideresDe P g (s.nodo k) = lideres P g s + lideresDe P g d :=
  s.total_pon k d

omit [NeZero n] in
theorem lideresDe_append {d' : Nodo ν}
    (h : d'.userlandOutboundQueue = d.userlandOutboundQueue ++ [m]) :
    lideresDe P g d' = lideresDe P g d + contarLider P g m := by
  unfold lideresDe
  rw [h, List.map_append, List.sum_append, List.map_singleton, List.sum_singleton]

/-- A proposal of another node has not reached `g`. -/
theorem Inv.leader_casos (hi : Inv P g s) (hm : m ∈ tramo s k) (htipo : m.tipo = .leader) :
    m.nombre = P.localhostName g ∨ Previo P g k m := by
  obtain ⟨o, ho, -, hle⟩ := hi.orden.forma k m hm
  by_cases hog : o = g
  · exact .inl (hog ▸ ho)
  · exact .inr ⟨o, hog, ho, hle htipo⟩

theorem Inv.ttl_pos (hi : Inv P g s) (hg : Mayor P g) (hm : m ∈ tramo s k) : 0 < m.ttl := by
  obtain ⟨o, -, hsuma, -⟩ := hi.orden.forma k m hm
  have hlt := desde_lt o k
  have httl := hg.ttl
  omega

/-- Only the proposal of `g` comes back to its node. -/
theorem Inv.vuelve (hi : Inv P g s) (hg : Mayor P g) (hm : m ∈ tramo s j) (htipo : m.tipo = .leader)
    (hnombre : m.nombre = P.localhostName (j + 1)) : j + 1 = g := by
  obtain ⟨o, ho, -, hle⟩ := hi.orden.forma j m hm
  have hoj : o = j + 1 := hg.distintos (ho.symm.trans hnombre)
  by_contra hne
  have hle := hle htipo
  rw [hoj, desde_succ hne] at hle
  omega

/-- A message of another node that gets to `g`. -/
theorem Inv.llega (hi : Inv P g s) (hm : m ∈ tramo s j) (hj : j + 1 = g)
    (hnombre : m.nombre ≠ P.localhostName g) : Previo P g j m := by
  obtain ⟨o, ho, -, -⟩ := hi.orden.forma j m hm
  exact ⟨o, fun he => hnombre (he ▸ ho), ho, desde_le hj o⟩

/-! ## The start of a node -/

theorem Inv.arranca (hi : Inv P g s) (hg : Mayor P g) (hk : (s.nodo k).fase ≠ .passage) (tipo : Tipo)
    (hcola : d.userlandOutboundQueue =
      (s.nodo k).userlandOutboundQueue ++ [⟨tipo, P.localhostName k, P.ttl⟩])
    (hname : d.leaderName = (s.nodo k).leaderName)
    (hsalida : d.leaderNameSalida = (s.nodo k).leaderNameSalida)
    (hiniciados : d.iniciados = (s.nodo k).iniciados)
    (hproceso : d.leaderProcess = true → (s.nodo k).leaderProcess = true)
    (hfase : d.fase = .passage ↔ tipo = .leader) : Inv P g (s.pon k d) := by
  have hT := tramo_pon s k _ hcola
  have hnames := nodo_pon_congr Nodo.leaderName hname
  have hsalidas := nodo_pon_congr Nodo.leaderNameSalida hsalida
  have hinis := nodo_pon_congr Nodo.iniciados hiniciados
  have hcero : (s.nodo g).iniciados = 0 := by
    by_contra hpos
    exact hk ((hi.elegido (Nat.pos_of_ne_zero hpos)).fase k)
  -- the message of the node is the proposal of `g` only if the node is `g`
  have hlider : EsLider P g ⟨tipo, P.localhostName k, P.ttl⟩ → k = g := fun h => hg.distintos h.2
  constructor
  · rw [hT]
    refine (hi.orden.propio hg.distintos hk tipo).menos (fun _ => List.Sublist.refl _) fun i hi' => ?_
    by_cases hik : i = k
    · rw [hik]
      exact hk
    · rwa [nodo_pon_of_ne hik] at hi'
  · rw [hnames]
    exact hi.propio
  · rw [hsalidas]
    exact hi.propioSalida
  · intro i j hij m hm hl
    rw [hnames]
    rw [hT] at hm
    rcases mem_agregar.mp hm with hm | ⟨rfl, rfl⟩
    · exact hi.pasado i j hij m hm hl
    · rw [hlider hl, desde_self, Nat.le_zero] at hij
      rw [desde_eq_zero hij]
      exact hi.propio
  · intro i m hm hl
    rw [hsalidas]
    exact hi.salidaEnlace i m hm hl
  · intro i j hij m hm hl
    rw [hsalidas]
    rw [hT] at hm
    rcases mem_agregar.mp hm with hm | ⟨rfl, rfl⟩
    · exact hi.salida i j hij m hm hl
    · rw [hlider hl, desde_self] at hij
      exact absurd hij (Nat.not_lt_zero _)
  · intro i hig
    rw [hinis]
    refine ⟨?_, (hi.otros i hig).2⟩
    by_cases hik : i = k
    · subst hik
      rw [nodo_pon_self, ← Bool.not_eq_true]
      intro hsi
      rw [(hi.otros i hig).1] at hproceso
      cases hproceso hsi
    · rw [nodo_pon_of_ne hik]
      exact (hi.otros i hig).1
  · intro hsi
    rw [hinis]
    apply hi.proceso
    by_cases hgk : g = k
    · subst hgk
      rw [nodo_pon_self] at hsi
      exact hproceso hsi
    · rwa [nodo_pon_of_ne hgk] at hsi
  · have hsuma := lideres_pon P g s k d
    rw [lideresDe_append hcola] at hsuma
    have hcuenta := hi.cuenta
    rw [hinis, hcero]
    rw [hcero] at hcuenta
    by_cases hgk : g = k
    · subst hgk
      rw [if_neg hk] at hcuenta
      rw [nodo_pon_self]
      have huno : contarLider P g ⟨tipo, P.localhostName g, P.ttl⟩ = if d.fase = .passage then 1 else 0 := by
        unfold contarLider EsLider
        simp only [hfase, and_true]
      omega
    · rw [nodo_pon_of_ne hgk]
      have hno := contarLider_of_not (m := ⟨tipo, P.localhostName k, P.ttl⟩) fun h => hgk (hlider h).symm
      omega
  · intro hpos
    rw [hinis, hcero] at hpos
    exact absurd hpos (Nat.lt_irrefl 0)

/-! ## Messages that are dropped -/

/-- A message that is not the proposal of `g` is taken away. -/
theorem Inv.menos (hi : Inv P g s) (hT : ∀ i, (tramo t i).Sublist (tramo s i))
    (hE : ∀ i, (t.enlace i).Sublist (s.enlace i))
    (hfase : ∀ i, (t.nodo i).fase = (s.nodo i).fase)
    (hname : ∀ i, (t.nodo i).leaderName = (s.nodo i).leaderName)
    (hsalida : ∀ i, (t.nodo i).leaderNameSalida = (s.nodo i).leaderNameSalida)
    (hproceso : ∀ i, (t.nodo i).leaderProcess = (s.nodo i).leaderProcess)
    (hiniciados : ∀ i, (t.nodo i).iniciados = (s.nodo i).iniciados)
    (hlideres : lideres P g t = lideres P g s) : Inv P g t where
  orden := hi.orden.menos hT fun k hk => by rwa [hfase] at hk
  propio := by rw [hname]; exact hi.propio
  propioSalida := by rw [hsalida]; exact hi.propioSalida
  pasado k j hkj m hm := by rw [hname]; exact hi.pasado k j hkj m ((hT j).subset hm)
  salidaEnlace k m hm := by rw [hsalida]; exact hi.salidaEnlace k m ((hE _).subset hm)
  salida k j hkj m hm := by rw [hsalida]; exact hi.salida k j hkj m ((hT j).subset hm)
  otros k hk := by rw [hproceso, hiniciados]; exact hi.otros k hk
  proceso := by rw [hproceso, hiniciados]; exact hi.proceso
  cuenta := by rw [hlideres, hiniciados, hfase]; exact hi.cuenta
  elegido hpos := by
    rw [hiniciados] at hpos
    have he := hi.elegido hpos
    exact ⟨fun k => by rw [hfase, he.fase], fun k => by rw [hname, he.leaderName],
      fun k => by rw [hsalida, he.leaderNameSalida], by rw [hproceso, he.leaderProcess],
      fun k m hm => he.previos k m ((hT k).subset hm)⟩

/-- The inbound process of node `j + 1` receives a message. -/
structure Toma (P : Parametros n ν) (g : Fin n) (s u : Estado n ν) (j : Fin n) (m : Mensaje ν)
    (resto : List (Mensaje ν)) : Prop where
  nodo : u.nodo = s.nodo
  antes : tramo s j = m :: resto
  despues : tramo u = Function.update (tramo s) j resto
  enlace : ∀ i, (u.enlace i).Sublist (s.enlace i)
  mem : m ∈ s.enlace (j + 1)
  lideres : lideres P g u + contarLider P g m = lideres P g s

theorem toma_spec (P : Parametros n ν) (g : Fin n) (h : s.toma (j + 1) = some (m, u)) :
    ∃ resto, Toma P g s u j m resto := by
  obtain ⟨resto, hantes, hdespues⟩ := tramo_toma h
  refine ⟨resto, nodo_toma h, hantes, hdespues, fun i => ?_, ?_, total_toma h⟩
  · obtain ⟨cola, hcola, rfl⟩ := toma_eq_some h
    dsimp only
    by_cases hi : i = j + 1
    · rw [hi, Function.update_self, hcola]
      exact List.sublist_cons_self _ _
    · rw [Function.update_of_ne hi]
  · obtain ⟨cola, hcola, rfl⟩ := toma_eq_some h
    rw [hcola]
    exact List.mem_cons_self

theorem Toma.sublist (h : Toma P g s u j m resto) (i : Fin n) : (tramo u i).Sublist (tramo s i) := by
  rw [h.despues]
  by_cases hi : i = j
  · rw [hi, Function.update_self, h.antes]
    exact List.sublist_cons_self _ _
  · rw [Function.update_of_ne hi]

theorem Toma.mem_tramo (h : Toma P g s u j m resto) : m ∈ tramo s j := by
  rw [h.antes]
  exact List.mem_cons_self

theorem Inv.descarta (hi : Inv P g s) (h : Toma P g s u j m resto) (hm : ¬ EsLider P g m) :
    Inv P g u := by
  have hlideres := h.lideres
  rw [contarLider_of_not hm, Nat.add_zero] at hlideres
  exact hi.menos h.sublist h.enlace (fun i => by rw [h.nodo]) (fun i => by rw [h.nodo])
    (fun i => by rw [h.nodo]) (fun i => by rw [h.nodo]) (fun i => by rw [h.nodo]) hlideres

/-! ## The proposal of `g` comes back -/

/-- At that moment the whole ring has its name, and nothing behind it comes from another node. -/
theorem Inv.elige (hi : Inv P g s) (hg : Mayor P g) (h : Toma P g s u j m resto) (hj : j + 1 = g)
    (hfase : (s.nodo g).fase = .passage) (hm : EsLider P g m) :
    Elegido P g (u.pon g (asumir (s.nodo g) m.nombre)) := by
  have hmem := h.mem_tramo
  have hcola := hi.orden.detras j
  rw [h.antes, List.pairwise_cons] at hcola
  have hantes : ∀ k, k ≠ j → desde g k < desde g j := by
    intro k hk
    have hle := desde_le hj k
    have hdist : desde g k ≠ desde g j := fun he => hk (desde_inj he)
    omega
  have hnodo : ∀ k, k ≠ g → (u.pon g (asumir (s.nodo g) m.nombre)).nodo k = s.nodo k := by
    intro k hk
    rw [nodo_pon_of_ne hk, h.nodo]
  constructor
  · intro k
    by_cases hk : k = g
    · rw [hk, nodo_pon_self]
      exact hfase
    · rw [hnodo k hk]
      by_contra hno
      obtain ⟨o, ho, hle, -⟩ := hi.orden.arranque k hno j (desde_le hj k) m hmem
      rw [hg.distintos (ho.symm.trans hm.2), desde_self, Nat.le_zero] at hle
      exact hk (desde_eq_zero hle)
  · intro k
    by_cases hk : k = g
    · rw [hk, nodo_pon_self]
      exact hm.2
    · rw [hnodo k hk]
      exact hi.pasado k j (desde_le hj k) m hmem hm
  · intro k
    by_cases hk : k = g
    · rw [hk, nodo_pon_self]
      exact hi.propioSalida
    · rw [hnodo k hk]
      by_cases hkj : k = j
      · rw [hkj]
        exact hi.salidaEnlace j m h.mem hm
      · exact hi.salida k j (hantes k hkj) m hmem hm
  · rw [nodo_pon_self]
    rfl
  · intro k y hy
    rw [tramo_pon_igual u g (by rw [h.nodo]; rfl), h.despues] at hy
    by_cases hk : k = j
    · rw [hk, Function.update_self] at hy
      rw [hk]
      exact hcola.1 y hy hm.2
    · rw [Function.update_of_ne hk] at hy
      exact hi.orden.entre k j (hantes k hk) m hmem hm.2 y hy

theorem Inv.asume (hi : Inv P g s) (hg : Mayor P g) (h : Toma P g s u j m resto) (hj : j + 1 = g)
    (hfase : (s.nodo g).fase = .passage) (hm : EsLider P g m) :
    Inv P g (u.pon g (asumir (s.nodo g) m.nombre)) := by
  have helegido := hi.elige hg h hj hfase hm
  have hT : tramo (u.pon g (asumir (s.nodo g) m.nombre)) = tramo u :=
    tramo_pon_igual u g (by rw [h.nodo]; rfl)
  have hlideres := h.lideres
  have huno : contarLider P g m = 1 := if_pos hm
  have hcuenta := hi.cuenta
  rw [if_pos hfase] at hcuenta
  have hparado : (s.nodo g).leaderProcess = false := by
    rw [← Bool.not_eq_true]
    intro hsi
    have hpos := hi.proceso hsi
    omega
  have hiniciados : (asumir (s.nodo g) m.nombre).iniciados = (s.nodo g).iniciados + 1 := by
    unfold asumir
    rw [hparado]
    rfl
  constructor
  · rw [hT]
    refine hi.orden.menos h.sublist fun k hk => ?_
    exact absurd (helegido.fase k) hk
  · exact helegido.leaderName g
  · exact helegido.leaderNameSalida g
  · exact fun k _ _ _ _ _ => helegido.leaderName k
  · exact fun k _ _ _ => helegido.leaderNameSalida k
  · exact fun k _ _ _ _ _ => helegido.leaderNameSalida k
  · intro k hk
    rw [nodo_pon_of_ne hk, h.nodo]
    exact hi.otros k hk
  · intro _
    rw [nodo_pon_self, hiniciados]
    exact Nat.succ_pos _
  · have hsuma := lideres_pon P g u g (asumir (s.nodo g) m.nombre)
    rw [h.nodo] at hsuma
    have hmisma : lideres P g (u.pon g (asumir (s.nodo g) m.nombre)) = lideres P g u :=
      Nat.add_right_cancel hsuma
    rw [nodo_pon_self, hiniciados, hmisma, if_pos (by exact hfase)]
    omega
  · exact fun _ => helegido

/-! ## A message goes through a node -/

/-- Node `j + 1` has let `m` through. -/
structure Pasa (P : Parametros n ν) (g : Fin n) (s t : Estado n ν) (j : Fin n) (m : Mensaje ν) :
    Prop where
  antes : m ∈ tramo s j
  mem : m ∈ s.enlace (j + 1)
  ajeno : m.nombre ≠ P.localhostName (j + 1)
  -- a proposal does not go through `g`
  leader : m.tipo = .leader → j + 1 ≠ g
  mensaje : ∀ i, ∀ x ∈ tramo t i, x ∈ tramo s i ∨ i = j + 1 ∧ x.tipo = m.tipo ∧ x.nombre = m.nombre
  enlace : ∀ i, (t.enlace i).Sublist (s.enlace i)
  nodo : ∀ i, i ≠ j + 1 → t.nodo i = s.nodo i
  fase : ∀ i, (t.nodo i).fase = (s.nodo i).fase
  leaderNameSalida : ∀ i, (t.nodo i).leaderNameSalida = (s.nodo i).leaderNameSalida
  iniciados : ∀ i, (t.nodo i).iniciados = (s.nodo i).iniciados
  leaderProcess : (t.nodo (j + 1)).leaderProcess = false
  leaderName : m.tipo ≠ .leader ∧ (t.nodo (j + 1)).leaderName = (s.nodo (j + 1)).leaderName ∨
    m.tipo = .leader ∧ (t.nodo (j + 1)).leaderName = m.nombre

theorem Inv.pasa (hi : Inv P g s) (hg : Mayor P g) (h : Toma P g s u j m resto)
    (hajeno : m.nombre ≠ P.localhostName (j + 1))
    (hmayor : m.tipo = .leader → P.localhostName (j + 1) < m.nombre) :
    Pasa P g s (u.pon (j + 1) ((seguir (s.nodo (j + 1)) m).push { m with ttl := m.ttl - 1 })) j m := by
  have hconserva : ∀ {β : Type} (f : Nodo ν → β),
      f ((seguir (s.nodo (j + 1)) m).push { m with ttl := m.ttl - 1 }) = f (s.nodo (j + 1)) → ∀ i,
        f ((u.pon (j + 1) ((seguir (s.nodo (j + 1)) m).push { m with ttl := m.ttl - 1 })).nodo i) =
          f (s.nodo i) := by
    intro β f hf i
    rw [nodo_pon_congr f (by rw [h.nodo, hf]), h.nodo]
  refine ⟨h.mem_tramo, h.mem, hajeno, fun htipo he => ?_, fun i x hx => ?_, h.enlace, fun i hij => ?_,
    hconserva _ rfl, hconserva _ rfl, hconserva _ rfl, ?_, ?_⟩
  · obtain ⟨o, ho, -, -⟩ := hi.orden.forma j m h.mem_tramo
    have hlt := hmayor htipo
    rw [he, ho] at hlt
    exact absurd hlt (not_lt.mpr (hg.mayor o))
  · rw [tramo_pon u (j + 1) [{ m with ttl := m.ttl - 1 }] (by rw [h.nodo]; rfl)] at hx
    rcases mem_agregar.mp hx with hx | ⟨hij, rfl⟩
    · exact .inl ((h.sublist i).subset hx)
    · exact .inr ⟨hij, rfl, rfl⟩
  · rw [nodo_pon_of_ne hij, h.nodo]
  · rw [nodo_pon_self]
    rfl
  · rw [nodo_pon_self]
    by_cases htipo : m.tipo = .leader
    · exact .inr ⟨htipo, if_pos htipo⟩
    · exact .inl ⟨htipo, if_neg htipo⟩

omit [LinearOrder ν] in
/-- The proposals of `g` in the ring are where they were, or have gone through node `j + 1`. -/
theorem Pasa.lider (h : Pasa P g s t j m) (hx : x ∈ tramo t i) (hl : EsLider P g x) :
    x ∈ tramo s i ∨ i = j + 1 ∧ EsLider P g m := by
  rcases h.mensaje i x hx with hx | ⟨hij, htipo, hnombre⟩
  · exact .inl hx
  · exact .inr ⟨hij, htipo ▸ hl.1, hnombre ▸ hl.2⟩

theorem Pasa.pasado (h : Pasa P g s t j m) (hi : Inv P g s) (hg : Mayor P g) (k i : Fin n)
    (hki : desde g k ≤ desde g i) (x : Mensaje ν) (hx : x ∈ tramo t i) (hl : EsLider P g x) :
    (t.nodo k).leaderName = P.localhostName g := by
  by_cases hk : k = j + 1
  · subst hk
    rcases h.leaderName with ⟨htipo, hname⟩ | ⟨htipo, hname⟩
    · rw [hname]
      rcases h.lider hx hl with hx | ⟨-, hm⟩
      · exact hi.pasado _ i hki x hx hl
      · exact absurd hm.1 htipo
    · rw [hname]
      rcases hi.leader_casos h.antes htipo with hnombre | hprevio
      · exact hnombre
      · -- it would come behind the proposal of `g`
        exfalso
        rcases h.lider hx hl with hx | ⟨-, hm⟩
        · rw [desde_succ (h.leader htipo)] at hki
          exact hi.orden.entre j i hki x hx hl.2 m h.antes hprevio
        · obtain ⟨o, hog, ho, -⟩ := hprevio
          exact hog (hg.distintos (ho.symm.trans hm.2))
  · rw [h.nodo k hk]
    rcases h.lider hx hl with hx | ⟨rfl, hm⟩
    · exact hi.pasado k i hki x hx hl
    · have hdist : desde g k ≠ desde g (j + 1) := fun he => hk (desde_inj he)
      rw [desde_succ (h.leader hm.1)] at hki hdist
      exact hi.pasado k j (by omega) m h.antes hm

theorem Pasa.salida (h : Pasa P g s t j m) (hi : Inv P g s) (k i : Fin n)
    (hki : desde g k < desde g i) (x : Mensaje ν) (hx : x ∈ tramo t i) (hl : EsLider P g x) :
    (t.nodo k).leaderNameSalida = P.localhostName g := by
  rw [h.leaderNameSalida]
  rcases h.lider hx hl with hx | ⟨rfl, hm⟩
  · exact hi.salida k i hki x hx hl
  · rw [desde_succ (h.leader hm.1)] at hki
    by_cases hkj : k = j
    · rw [hkj]
      exact hi.salidaEnlace j m h.mem hm
    · have hdist : desde g k ≠ desde g j := fun he => hkj (desde_inj he)
      exact hi.salida k j (by omega) m h.antes hm

/-- After the election nothing that goes through a node changes what was agreed. -/
theorem Pasa.elegido (h : Pasa P g s t j m) (hi : Inv P g s) (he : Elegido P g s) : Elegido P g t := by
  have hno := he.previos j m h.antes
  constructor
  · intro k
    rw [h.fase, he.fase]
  · intro k
    by_cases hk : k = j + 1
    · subst hk
      rcases h.leaderName with ⟨-, hname⟩ | ⟨htipo, hname⟩
      · rw [hname, he.leaderName]
      · rw [hname]
        exact (hi.leader_casos h.antes htipo).resolve_right hno
    · rw [h.nodo k hk, he.leaderName]
  · intro k
    rw [h.leaderNameSalida, he.leaderNameSalida]
  · by_cases hjg : j + 1 = g
    · exact absurd (hi.llega h.antes hjg (hjg ▸ h.ajeno)) hno
    · rw [h.nodo g (Ne.symm hjg), he.leaderProcess]
  · intro k x hx hprevio
    rcases h.mensaje k x hx with hx | ⟨rfl, -, hnombre⟩
    · exact he.previos k x hx hprevio
    · obtain ⟨o, hog, ho, hle⟩ := hprevio
      exact hno (Previo.antes ⟨o, hog, hnombre ▸ ho, hle⟩ h.ajeno).2

theorem Inv.sigue (hi : Inv P g s) (hg : Mayor P g) (h : Toma P g s u j m resto)
    (hfase : (s.nodo (j + 1)).fase = .passage) (hajeno : m.nombre ≠ P.localhostName (j + 1))
    (hmayor : m.tipo = .leader → P.localhostName (j + 1) < m.nombre) :
    Inv P g (u.pon (j + 1) ((seguir (s.nodo (j + 1)) m).push { m with ttl := m.ttl - 1 })) := by
  have hpasa := hi.pasa hg h hajeno hmayor
  have hlideres := h.lideres
  have hsuma := lideres_pon P g u (j + 1) ((seguir (s.nodo (j + 1)) m).push { m with ttl := m.ttl - 1 })
  have hcola : lideresDe P g ((seguir (s.nodo (j + 1)) m).push { m with ttl := m.ttl - 1 }) =
      lideresDe P g (s.nodo (j + 1)) + contarLider P g m :=
    lideresDe_append (m := { m with ttl := m.ttl - 1 }) rfl
  rw [hcola, h.nodo] at hsuma
  constructor
  · rw [tramo_pon u (j + 1) [{ m with ttl := m.ttl - 1 }] (by rw [h.nodo]; rfl)]
    refine (hi.orden.mover h.antes hfase hajeno (hi.ttl_pos hg hpasa.antes) hpasa.leader
      h.despues).menos (fun _ => List.Sublist.refl _) fun i hi' => ?_
    rwa [hpasa.fase] at hi'
  · by_cases hjg : g = j + 1
    · rcases hpasa.leaderName with ⟨-, hname⟩ | ⟨htipo, -⟩
      · rw [← hjg] at hname
        rw [← hjg, hname]
        exact hi.propio
      · exact absurd hjg.symm (hpasa.leader htipo)
    · rw [hpasa.nodo g hjg]
      exact hi.propio
  · rw [hpasa.leaderNameSalida]
    exact hi.propioSalida
  · exact hpasa.pasado hi hg
  · intro k x hx hl
    rw [hpasa.leaderNameSalida]
    exact hi.salidaEnlace k x ((hpasa.enlace _).subset hx) hl
  · exact hpasa.salida hi
  · intro k hkg
    rw [hpasa.iniciados]
    refine ⟨?_, (hi.otros k hkg).2⟩
    by_cases hk : k = j + 1
    · rw [hk]
      exact hpasa.leaderProcess
    · rw [hpasa.nodo k hk]
      exact (hi.otros k hkg).1
  · intro hproceso
    rw [hpasa.iniciados]
    by_cases hjg : g = j + 1
    · rw [hjg, hpasa.leaderProcess] at hproceso
      cases hproceso
    · rw [hpasa.nodo g hjg] at hproceso
      exact hi.proceso hproceso
  · have hcuenta := hi.cuenta
    rw [hpasa.iniciados, hpasa.fase]
    omega
  · intro hpos
    rw [hpasa.iniciados] at hpos
    exact hpasa.elegido hi (hi.elegido hpos)

/-! ## The outbound process -/

omit [LinearOrder ν] in
theorem mem_tramo_cola (hcola : (s.nodo k).userlandOutboundQueue = m :: resto) : m ∈ tramo s k := by
  unfold tramo
  rw [hcola]
  exact List.mem_append_right _ List.mem_cons_self

theorem lideres_enviarLoop {r : Nodo ν × Bool}
    (hcola : (s.nodo k).userlandOutboundQueue = m :: resto) (hr : r.1.userlandOutboundQueue = resto) :
    lideres P g (enviarLoop s k m r) + (if r.2 then 0 else contarLider P g m) = lideres P g s := by
  have hsuma := lideres_pon P g s k r.1
  have hantes : lideresDe P g (s.nodo k) = contarLider P g m + lideresDe P g r.1 := by
    unfold lideresDe
    rw [hcola, hr, List.map_cons, List.sum_cons]
  have henvia : lideres P g (enviarLoop s k m r) = lideres P g (s.pon k r.1) +
      ((if r.2 then [m] else []).map (contarLider P g)).sum := total_envia _ k _
  rw [henvia]
  cases hpasa : r.2 with
  | true =>
    rw [if_pos rfl, if_pos rfl, List.map_singleton, List.sum_singleton]
    omega
  | false =>
    rw [if_neg nofun, if_neg nofun, List.map_nil, List.sum_nil]
    omega

theorem Inv.descartaSalida (hi : Inv P g s) (hcola : (s.nodo k).userlandOutboundQueue = m :: resto)
    (hm : ¬ EsLider P g m) :
    Inv P g (enviarLoop s k m ({ s.nodo k with userlandOutboundQueue := resto }, false)) := by
  have hlideres := lideres_enviarLoop (P := P) (g := g)
    (r := ({ s.nodo k with userlandOutboundQueue := resto }, false)) hcola rfl
  rw [if_neg nofun, contarLider_of_not hm, Nat.add_zero] at hlideres
  have hconserva : ∀ {β : Type} (f : Nodo ν → β),
      f { s.nodo k with userlandOutboundQueue := resto } = f (s.nodo k) →
        ∀ i, f ((enviarLoop s k m ({ s.nodo k with userlandOutboundQueue := resto }, false)).nodo i) =
          f (s.nodo i) :=
    fun f hf => nodo_pon_congr f hf
  refine hi.menos (tramo_enviarLoop hcola rfl) (fun i => ?_) (hconserva _ rfl) (hconserva _ rfl)
    (hconserva _ rfl) (hconserva _ rfl) (hconserva _ rfl) hlideres
  show (Function.update s.enlace (k + 1) (s.enlace (k + 1) ++ []) i).Sublist _
  rw [List.append_nil, Function.update_eq_self]

/-- The name that the outbound process takes from the message `m`, if it takes one. -/
structure Anota (P : Parametros n ν) (g k : Fin n) (s : Estado n ν) (m : Mensaje ν) (nombre : ν) : Prop where
  casos : nombre = (s.nodo k).leaderNameSalida ∨ m.tipo = .leader ∧ nombre = m.nombre
  lider : EsLider P g m → nombre = P.localhostName g

/-- Unless it is the one of `g`, no proposal of `g` has gone out. -/
theorem Inv.anota (hi : Inv P g s) (hm : m ∈ tramo s k) (h : Anota P g k s m nombre)
    (hno : Previo P g k m → False)
    (hantes : (s.nodo k).leaderNameSalida = P.localhostName g) : nombre = P.localhostName g := by
  rcases h.casos with hmismo | ⟨htipo, hnombre⟩
  · rw [hmismo, hantes]
  · rw [hnombre]
    exact (hi.leader_casos hm htipo).resolve_right hno

theorem Inv.envia (hi : Inv P g s) (hcola : (s.nodo k).userlandOutboundQueue = m :: resto)
    (h : Anota P g k s m nombre) :
    Inv P g (enviarLoop s k m
      ({ s.nodo k with userlandOutboundQueue := resto, leaderNameSalida := nombre }, true)) := by
  have hm := mem_tramo_cola hcola
  have hT := tramo_enviarLoop
    (r := ({ s.nodo k with userlandOutboundQueue := resto, leaderNameSalida := nombre }, true)) hcola rfl
  have hlideres := lideres_enviarLoop (P := P) (g := g)
    (r := ({ s.nodo k with userlandOutboundQueue := resto, leaderNameSalida := nombre }, true)) hcola rfl
  generalize ht : enviarLoop s k m
    ({ s.nodo k with userlandOutboundQueue := resto, leaderNameSalida := nombre }, true) = t at *
  have hconserva : ∀ {β : Type} (f : Nodo ν → β),
      f { s.nodo k with userlandOutboundQueue := resto, leaderNameSalida := nombre } = f (s.nodo k) →
        ∀ i, f (t.nodo i) = f (s.nodo i) := by
    intro β f hf i
    rw [← ht]
    exact nodo_pon_congr f hf i
  have hfase := hconserva Nodo.fase rfl
  have hname := hconserva Nodo.leaderName rfl
  have hproceso := hconserva Nodo.leaderProcess rfl
  have hiniciados := hconserva Nodo.iniciados rfl
  have hself : (t.nodo k).leaderNameSalida = nombre := by
    rw [← ht]
    exact congrArg Nodo.leaderNameSalida (nodo_pon_self _)
  have hnodo : ∀ i, i ≠ k → t.nodo i = s.nodo i := by
    intro i hik
    rw [← ht]
    exact nodo_pon_of_ne hik _
  have hdetras := hi.orden.detras k
  unfold tramo at hdetras
  rw [hcola, List.pairwise_append] at hdetras
  constructor
  · exact hi.orden.menos hT fun i hi' => by rwa [hfase] at hi'
  · rw [hname]
    exact hi.propio
  · by_cases hgk : g = k
    · subst hgk
      rw [hself]
      refine hi.anota hm h (fun ⟨o, hog, _, hle⟩ => ?_) hi.propioSalida
      rw [desde_self, Nat.le_zero] at hle
      exact hog (desde_eq_zero hle)
    · rw [hnodo g hgk]
      exact hi.propioSalida
  · intro i j hij x hx
    rw [hname]
    exact hi.pasado i j hij x ((hT j).subset hx)
  · intro i x hx hl
    have henlace : t.enlace (i + 1) = Function.update s.enlace (k + 1) (s.enlace (k + 1) ++ [m]) (i + 1) := by
      rw [← ht]
      rfl
    rw [henlace] at hx
    by_cases hik : i = k
    · subst hik
      rw [hself]
      rw [Function.update_self, List.mem_append, List.mem_singleton] at hx
      rcases hx with hx | rfl
      · refine hi.anota hm h (fun hprevio => ?_) (hi.salidaEnlace i x hx hl)
        exact hdetras.2.2 x hx m List.mem_cons_self hl.2 hprevio
      · exact h.lider hl
    · rw [hnodo i hik]
      rw [Function.update_of_ne fun he => hik (add_left_injective 1 he)] at hx
      exact hi.salidaEnlace i x hx hl
  · intro i j hij x hx hl
    have hx := (hT j).subset hx
    by_cases hik : i = k
    · subst hik
      rw [hself]
      refine hi.anota hm h (fun hprevio => ?_) (hi.salida i j hij x hx hl)
      exact hi.orden.entre i j hij x hx hl.2 m hm hprevio
    · rw [hnodo i hik]
      exact hi.salida i j hij x hx hl
  · intro i hig
    rw [hproceso, hiniciados]
    exact hi.otros i hig
  · rw [hproceso, hiniciados]
    exact hi.proceso
  · rw [if_pos rfl, Nat.add_zero] at hlideres
    rw [hlideres, hiniciados, hfase]
    exact hi.cuenta
  · intro hpos
    rw [hiniciados] at hpos
    have he := hi.elegido hpos
    refine ⟨fun i => by rw [hfase, he.fase], fun i => by rw [hname, he.leaderName], fun i => ?_,
      by rw [hproceso, he.leaderProcess], fun i x hx => he.previos i x ((hT i).subset hx)⟩
    by_cases hik : i = k
    · rw [hik, hself]
      exact hi.anota hm h (he.previos k m hm) (he.leaderNameSalida k)
    · rw [hnodo i hik, he.leaderNameSalida]

/-! ## One step -/

theorem inv_inbound (hi : Inv P g s) (hg : Mayor P g) (h : pasoInbound P s k = some t) : Inv P g t := by
  obtain ⟨j, rfl⟩ : ∃ j, k = j + 1 := ⟨k - 1, (sub_add_cancel k 1).symm⟩
  unfold pasoInbound at h
  cases hfase : (s.nodo (j + 1)).fase with
  | inicio =>
    simp only [hfase] at h
    cases h
    exact hi.arranca hg (by rw [hfase]; nofun) .linkBroken rfl rfl rfl rfl nofun ⟨nofun, nofun⟩
  | tail =>
    simp only [hfase] at h
    cases h
    exact hi.arranca hg (by rw [hfase]; nofun) .leader rfl rfl rfl rfl
      (fun h => h) ⟨fun _ => rfl, fun _ => rfl⟩
  | passage =>
    simp only [hfase] at h
    obtain ⟨⟨m, u⟩, hu, rfl⟩ := Option.map_eq_some_iff.mp h
    obtain ⟨resto, htoma⟩ := toma_spec P g hu
    have hmem := htoma.mem_tramo
    dsimp only
    rcases recibirLoop_casos (P.localhostName (j + 1)) (s.nodo (j + 1)) (hi.ttl_pos hg hmem) with
      ⟨htipo, hnombre, hr⟩ | ⟨hmenor, hr⟩ | ⟨hajeno, hmayor, hr⟩
    · have hj := hi.vuelve hg hmem htipo hnombre
      rw [hr]
      rw [hj] at hfase hnombre ⊢
      exact hi.asume hg htoma hj hfase ⟨htipo, hnombre⟩
    · rw [hr, ← htoma.nodo, pon_self]
      refine hi.descarta htoma fun hl => ?_
      have hlt := hmenor hl.1
      rw [hl.2] at hlt
      exact absurd hlt (not_lt.mpr (hg.mayor _))
    · rw [hr]
      exact hi.sigue hg htoma hfase hajeno hmayor

theorem inv_outbound (hi : Inv P g s) (hg : Mayor P g) (h : pasoOutbound P s k = some t) : Inv P g t := by
  unfold pasoOutbound at h
  split at h
  case h_2 => cases h
  rename_i m resto hcola
  cases h
  rcases handleOutbound_casos (P.localhostName k) { s.nodo k with userlandOutboundQueue := resto } m with
    ⟨-, hmenor, hr⟩ | ⟨htipo, -, hr⟩ | ⟨hpropio, hr⟩
  · rw [hr]
    refine hi.descartaSalida hcola fun hl => ?_
    rw [hl.2] at hmenor
    exact absurd hmenor (not_lt.mpr (hg.mayor _))
  · rw [hr]
    exact hi.envia hcola ⟨.inr ⟨htipo, rfl⟩, fun hl => hl.2⟩
  · rw [hr]
    refine hi.envia hcola ⟨.inl rfl, fun hl => ?_⟩
    have hk : k = g := hg.distintos ((hpropio hl.1).symm.trans hl.2)
    rw [hk]
    exact hi.propioSalida

theorem inv_paso {e : Evento n} (hi : Inv P g s) (hg : Mayor P g) (h : paso P s e = some t) :
    Inv P g t := by
  cases e with
  | inbound k => exact inv_inbound hi hg h
  | outbound k => exact inv_outbound hi hg h

theorem inv_alcanza (hg : Mayor P g) (h : Alcanza (paso P) (inicial P) s) : Inv P g s :=
  h.induccion (inv_inicial P g) fun _ _ _ ha => inv_paso ha hg

end EleccionLider
