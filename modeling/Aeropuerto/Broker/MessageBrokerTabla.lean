import Aeropuerto.Broker.MessageBroker

/-!
# The id table of the message broker

What `create_queue` returned for an id that has not been destroyed since is kept in `vivos`.
-/

namespace MessageBrokerTabla

open Ejecucion MessageBroker

/-- A string that is not empty and fits in a slot. -/
abbrev Id := {cadena : List UInt8 // cadena ≠ [] ∧ cadena.length < 255 ∧ 0 ∉ cadena}

inductive Llamada where
  | create (queueId : Id) (hayLugar : Bool)
  | destroy (queueId : Id)

structure Estado where
  broker : Broker
  vivos : Id → Option Int

def inicial : Estado where
  broker := { projIdToQueueId := fun _ => [], colas := fun _ => none }
  vivos := fun _ => none

def paso (s : Estado) : Llamada → Option Estado
  | .create queueId hayLugar =>
    some
      { broker := (s.broker.createQueue queueId hayLugar).1
        vivos :=
          match s.broker.allocateQueueId queueId with
          | none => s.vivos
          | some (_, projId) => Function.update s.vivos queueId (some projId) }
  | .destroy queueId =>
    some
      { broker := (s.broker.destroyQueue queueId).1
        vivos :=
          if (s.broker.destroyQueue queueId).2.isOk then Function.update s.vivos queueId none else s.vivos }

/-- A create of an id that is not in the table, with a free slot whose position is a `char`. -/
def condicion (s : Estado) : Llamada → Bool
  | .create queueId _ =>
    !s.broker.existQueue queueId && (List.range 128).any
      fun pos : Nat => (s.broker.projIdToQueueId pos).isEmpty
  | .destroy _ => true

/-! ## A partial bijection -/

def EnTabla (p : Int) : Prop := 0 ≤ p ∧ p < 255

structure Biyeccion (s : Estado) : Prop where
  designa : ∀ (id : Id) p, s.vivos id = some p →
    EnTabla p ∧ s.broker.getProjId id = p ∧ s.broker.existQueue id = true
  unaRanura : ∀ (id : Id) p q, EnTabla p → EnTabla q → s.broker.projIdToQueueId p = id →
    s.broker.projIdToQueueId q = id → p = q
  distintos : ∀ id id' p, s.vivos id = some p → s.vivos id' = some p → id = id'

/-- `allocate_queue_id` takes a free slot of the table and writes no other one. -/
def AsignaRanuraLibre (s : Estado) (id : Id) : Prop :=
  ∀ b p, s.broker.allocateQueueId id = some (b, p) →
    EnTabla p ∧ s.broker.projIdToQueueId p = [] ∧
      b.projIdToQueueId = Function.update s.broker.projIdToQueueId p id

/-- `deallocate_queue_id` clears the slot of the id and no other one; a destroy of an id that does not
    live changes nothing. -/
def LiberaSuRanura (s : Estado) (id : Id) : Prop :=
  (∀ p, s.vivos id = some p → s.broker.projIdToQueueId p = id ∧
    (s.broker.deallocateQueueId id).projIdToQueueId = Function.update s.broker.projIdToQueueId p []) ∧
  (s.vivos id = none → (s.broker.destroyQueue id).1 = s.broker)

/-- A create on a full table fails and changes nothing. -/
def LlenaFalla (s : Estado) : Prop :=
  (∀ p, EnTabla p → s.broker.projIdToQueueId p ≠ []) → ∀ (id : Id) hayLugar,
    s.broker.createQueue id hayLugar = (s.broker, .error .messageBrokerError)

/-! ## The searches -/

theorem Id.ne_vacia (id : Id) : [] ≠ id.1 := fun h => id.2.1 h.symm

variable {s t : Estado} {b : Broker} {id : Id} {pos : Nat}

/-- The first free position. -/
theorem allocateQueueId_eq (hpos : pos < 255) (hlibre : b.projIdToQueueId pos = [])
    (hantes : ∀ j < pos, b.projIdToQueueId (j : Nat) ≠ []) :
    b.allocateQueueId id = some
      ({ b with projIdToQueueId := Function.update b.projIdToQueueId (char pos) id }, char pos) := by
  have hfind : (List.range 255).find? (fun pos : Nat => (b.projIdToQueueId pos).isEmpty) = some pos := by
    rw [List.find?_range_eq_some]
    refine ⟨by rw [hlibre]; rfl, List.mem_range.mpr hpos, fun j hj => ?_⟩
    simpa [Option.isSome_iff_ne_none] using hantes j hj
  unfold Broker.allocateQueueId
  rw [hfind]

theorem allocateQueueId_none (h : ∀ p, EnTabla p → b.projIdToQueueId p ≠ []) :
    b.allocateQueueId id = none := by
  have hfind : (List.range 255).find? (fun pos : Nat => (b.projIdToQueueId pos).isEmpty) = none := by
    rw [List.find?_eq_none]
    intro pos hpos
    have := h pos ⟨Int.natCast_nonneg pos, by have := List.mem_range.mp hpos; omega⟩
    simpa using this
  unfold Broker.allocateQueueId
  rw [hfind]

theorem existQueue_iff : b.existQueue id = true ↔ ∃ pos < 255, b.projIdToQueueId (pos : Nat) = id := by
  unfold Broker.existQueue
  simp

theorem getProjId_none (h : b.existQueue id = false) : b.getProjId id = -1 := by
  have hfind : (List.range 255).find? (fun pos : Nat => b.projIdToQueueId pos = id) = none := by
    rw [List.find?_eq_none]
    intro pos hpos hid
    have := existQueue_iff.mpr ⟨pos, List.mem_range.mp hpos, of_decide_eq_true hid⟩
    rw [h] at this
    cases this
  unfold Broker.getProjId
  rw [hfind]

theorem getProjId_eq (hpos : pos < 255) (hid : b.projIdToQueueId pos = id)
    (hunica : ∀ j < pos, b.projIdToQueueId (j : Nat) ≠ id) : b.getProjId id = char pos := by
  have hfind : (List.range 255).find? (fun pos : Nat => b.projIdToQueueId pos = id) = some pos := by
    rw [List.find?_range_eq_some]
    refine ⟨decide_eq_true hid, List.mem_range.mpr hpos, fun j hj => ?_⟩
    simpa using hunica j hj
  unfold Broker.getProjId
  rw [hfind]

/-! ## The invariant -/

/-- The slots from 128 on are free, and those before hold the ids that live. -/
structure Inv (s : Estado) : Prop where
  vivos : ∀ (id : Id) p, s.vivos id = some p ↔ (0 ≤ p ∧ p < 128) ∧ s.broker.projIdToQueueId p = id
  altas : ∀ p, 128 ≤ p → s.broker.projIdToQueueId p = []
  sinCola : s.broker.colas (-1) = none

theorem inv_inicial : Inv (inicial : Estado) where
  vivos := by
    intro id p
    constructor
    · nofun
    · rintro ⟨-, h⟩
      exact absurd h id.ne_vacia
  altas _ _ := rfl
  sinCola := rfl

theorem Inv.vivo (hi : Inv s) {p : Int} (hp : EnTabla p) (h : s.broker.projIdToQueueId p = id) :
    s.vivos id = some p := by
  apply (hi.vivos id p).mpr
  refine ⟨⟨hp.1, ?_⟩, h⟩
  by_contra halta
  rw [hi.altas p (by omega)] at h
  exact absurd h id.ne_vacia

theorem Inv.getProjId (hi : Inv s) {p : Int} (h : s.vivos id = some p) :
    s.broker.getProjId id = p ∧ s.broker.existQueue id = true := by
  obtain ⟨⟨hcero, hlt⟩, hid⟩ := (hi.vivos id p).mp h
  obtain ⟨pos, rfl⟩ := Int.eq_ofNat_of_zero_le hcero
  have hpos : pos < 128 := by omega
  constructor
  · rw [← char_of_lt hpos]
    apply getProjId_eq (by omega) hid
    intro j hj hjd
    have hj' := hi.vivo ⟨Int.natCast_nonneg j, by omega⟩ hjd
    rw [h] at hj'
    have := Option.some.inj hj'
    omega
  · exact existQueue_iff.mpr ⟨pos, by omega, hid⟩

theorem Inv.existQueue_false (hi : Inv s) (h : s.vivos id = none) : s.broker.existQueue id = false := by
  rw [← Bool.not_eq_true]
  intro hexiste
  obtain ⟨pos, hpos, hid⟩ := existQueue_iff.mp hexiste
  have hvivo := hi.vivo (p := pos) ⟨Int.natCast_nonneg pos, by omega⟩ hid
  rw [h] at hvivo
  cases hvivo

/-- Under the condition the slot that is taken is the one whose position is returned. -/
theorem allocateQueueId_condicion {hayLugar : Bool} (hc : condicion s (.create id hayLugar) = true) :
    s.broker.existQueue id = false ∧ ∃ pos < 128, s.broker.projIdToQueueId (pos : Nat) = [] ∧
      s.broker.allocateQueueId id = some
        ({ s.broker with projIdToQueueId := Function.update s.broker.projIdToQueueId pos id },
          (pos : Int)) := by
  unfold condicion at hc
  simp only [Bool.and_eq_true, Bool.not_eq_true', List.any_eq_true, List.mem_range, List.isEmpty_iff]
    at hc
  obtain ⟨hnuevo, hlibre⟩ := hc
  refine ⟨hnuevo, ?_⟩
  classical
  -- the first of them
  obtain ⟨hpos, hnone⟩ := Nat.find_spec hlibre
  refine ⟨Nat.find hlibre, hpos, hnone, ?_⟩
  rw [allocateQueueId_eq (by omega) hnone, char_of_lt hpos]
  intro j hj hjnone
  exact Nat.find_min hlibre hj ⟨by omega, hjnone⟩

theorem createQueue_tabla {b' : Broker} {p : Int} (hayLugar : Bool)
    (h : b.allocateQueueId id = some (b', p)) :
    (b.createQueue id hayLugar).1.projIdToQueueId = b'.projIdToQueueId ∧
      ((b.createQueue id hayLugar).1.colas = b'.colas ∨
        (b.createQueue id hayLugar).1.colas = Function.update b'.colas p (some [])) := by
  unfold Broker.createQueue
  simp only [h]
  split
  · exact ⟨rfl, .inr rfl⟩
  · exact ⟨rfl, .inl rfl⟩

/-- What a create that finds a slot does. -/
theorem create_eq_some {b' : Broker} {p : Int} {hayLugar : Bool}
    (hasigna : s.broker.allocateQueueId id = some (b', p)) (h : paso s (.create id hayLugar) = some t) :
    t.vivos = Function.update s.vivos id (some p) ∧ t.broker.projIdToQueueId = b'.projIdToQueueId ∧
      (t.broker.colas = b'.colas ∨ t.broker.colas = Function.update b'.colas p (some [])) := by
  obtain ⟨htabla, hcolas⟩ := createQueue_tabla hayLugar hasigna
  cases h
  refine ⟨?_, htabla, hcolas⟩
  simp only [hasigna]

theorem inv_create (hi : Inv s) {hayLugar : Bool} (hc : condicion s (.create id hayLugar) = true)
    (h : paso s (.create id hayLugar) = some t) : Inv t := by
  obtain ⟨hnuevo, pos, hpos, hlibre, hasigna⟩ := allocateQueueId_condicion hc
  obtain ⟨hvivos, htabla, hcolas⟩ := create_eq_some hasigna h
  have hmuerto : ∀ p : Int, 0 ≤ p ∧ p < 128 → s.broker.projIdToQueueId p ≠ id := by
    intro p hp hid
    obtain ⟨-, hexiste⟩ := hi.getProjId ((hi.vivos id p).mpr ⟨hp, hid⟩)
    rw [hnuevo] at hexiste
    cases hexiste
  dsimp only at htabla hcolas
  constructor
  · intro id' p
    rw [hvivos, htabla]
    by_cases hid : id' = id
    · subst hid
      rw [Function.update_self]
      by_cases hp : p = pos
      · subst hp
        rw [Function.update_self]
        exact ⟨fun _ => ⟨by omega, rfl⟩, fun _ => rfl⟩
      · rw [Function.update_of_ne hp]
        constructor
        · intro hsome
          exact absurd (Option.some.inj hsome).symm hp
        · rintro ⟨hrango, hid⟩
          exact absurd hid (hmuerto p hrango)
    · rw [Function.update_of_ne hid, hi.vivos id' p]
      by_cases hp : p = pos
      · -- the slot was free
        subst hp
        rw [Function.update_self, hlibre]
        constructor
        · rintro ⟨-, hnone⟩
          exact absurd hnone id'.ne_vacia
        · rintro ⟨-, hsome⟩
          exact absurd (Subtype.ext hsome).symm hid
      · rw [Function.update_of_ne hp]
  · intro p hp
    rw [htabla, Function.update_of_ne (by omega)]
    exact hi.altas p hp
  · rcases hcolas with hcolas | hcolas
    · rw [hcolas]
      exact hi.sinCola
    · rw [hcolas, Function.update_of_ne (by omega)]
      exact hi.sinCola

theorem Inv.destroyQueue_muerto (hi : Inv s) (h : s.vivos id = none) :
    s.broker.destroyQueue id = (s.broker, .error .messageBrokerError) := by
  unfold Broker.destroyQueue
  simp only [getProjId_none (hi.existQueue_false h), hi.sinCola]

theorem Inv.deallocateQueueId_vivo (hi : Inv s) {p : Int} (h : s.vivos id = some p) :
    (s.broker.deallocateQueueId id).projIdToQueueId = Function.update s.broker.projIdToQueueId p [] := by
  unfold Broker.deallocateQueueId
  rw [(hi.getProjId h).1]

/-- The slot of an id that lives is cleared, unless its queue does not exist. -/
theorem Inv.destroy_vivo (hi : Inv s) {p : Int} (hvivo : s.vivos id = some p)
    (h : paso s (.destroy id) = some t) :
    t = s ∨ t.vivos = Function.update s.vivos id none ∧
      t.broker.projIdToQueueId = Function.update s.broker.projIdToQueueId p [] ∧
      t.broker.colas = Function.update s.broker.colas p none := by
  unfold paso Broker.destroyQueue at h
  simp only [(hi.getProjId hvivo).1] at h
  cases hcola : s.broker.colas p with
  | none =>
    simp only [hcola] at h
    cases h
    exact .inl rfl
  | some cola =>
    simp only [hcola] at h
    cases h
    exact .inr ⟨rfl, hi.deallocateQueueId_vivo hvivo, rfl⟩

theorem inv_destroy (hi : Inv s) (h : paso s (.destroy id) = some t) : Inv t := by
  cases hvivo : s.vivos id with
  | none =>
    have ht : t = s := by
      unfold paso at h
      simp only [hi.destroyQueue_muerto hvivo] at h
      cases h
      rfl
    exact ht ▸ hi
  | some p =>
    obtain ⟨hrango, hid⟩ := (hi.vivos id p).mp hvivo
    rcases hi.destroy_vivo hvivo h with rfl | ⟨hvivos, htabla, hcolas⟩
    · exact hi
    constructor
    · intro id' q
      rw [hvivos, htabla]
      by_cases hid' : id' = id
      · subst hid'
        rw [Function.update_self]
        constructor
        · nofun
        · rintro ⟨hq, hsome⟩
          by_cases hqp : q = p
          · rw [hqp, Function.update_self] at hsome
            exact absurd hsome id'.ne_vacia
          · rw [Function.update_of_ne hqp] at hsome
            have hotro := (hi.vivos id' q).mpr ⟨hq, hsome⟩
            rw [hvivo] at hotro
            exact absurd (Option.some.inj hotro).symm hqp
      · rw [Function.update_of_ne hid', hi.vivos id' q]
        by_cases hqp : q = p
        · subst hqp
          rw [Function.update_self, hid]
          constructor
          · rintro ⟨-, hsome⟩
            exact absurd (Subtype.ext hsome).symm hid'
          · rintro ⟨-, hnone⟩
            exact absurd hnone id'.ne_vacia
        · rw [Function.update_of_ne hqp]
    · intro q hq
      rw [htabla, Function.update_of_ne (by omega)]
      exact hi.altas q hq
    · rw [hcolas, Function.update_of_ne (by omega)]
      exact hi.sinCola

theorem inv_paso {e : Llamada} (hi : Inv s) (hc : condicion s e = true) (h : paso s e = some t) :
    Inv t := by
  cases e with
  | create id hayLugar => exact inv_create hi hc h
  | destroy id => exact inv_destroy hi h

theorem Inv.biyeccion (hi : Inv s) : Biyeccion s where
  designa id p h := by
    obtain ⟨hrango, -⟩ := (hi.vivos id p).mp h
    exact ⟨⟨hrango.1, by omega⟩, hi.getProjId h⟩
  unaRanura id p q hp hq hip hiq := by
    have hsome := (hi.vivo hp hip).symm.trans (hi.vivo hq hiq)
    exact Option.some.inj hsome
  distintos id id' p h h' := by
    have hsome := ((hi.vivos id p).mp h).2.symm.trans ((hi.vivos id' p).mp h').2
    exact Subtype.ext hsome

theorem asignaRanuraLibre {hayLugar : Bool} (hc : condicion s (.create id hayLugar) = true) :
    AsignaRanuraLibre s id := by
  obtain ⟨-, pos, hpos, hlibre, hasigna⟩ := allocateQueueId_condicion hc
  intro b p h
  rw [hasigna] at h
  cases h
  exact ⟨⟨by omega, by omega⟩, hlibre, rfl⟩

theorem Inv.liberaSuRanura (hi : Inv s) (id : Id) : LiberaSuRanura s id := by
  constructor
  · intro p h
    exact ⟨((hi.vivos id p).mp h).2, hi.deallocateQueueId_vivo h⟩
  · intro h
    rw [hi.destroyQueue_muerto h]

theorem llenaFalla (s : Estado) : LlenaFalla s := by
  intro hllena id hayLugar
  unfold Broker.createQueue
  rw [allocateQueueId_none hllena]

/-- In the runs in which every create is of an id that is not in the table and finds one of the first 128
    slots free, the table is a partial bijection in every state. -/
theorem tabla_biyeccion_parcial (h : AlcanzaBajo (fun s e => condicion s e = true) paso inicial s) :
    Biyeccion s ∧ (∀ id hayLugar, condicion s (.create id hayLugar) = true → AsignaRanuraLibre s id) ∧
      (∀ id, LiberaSuRanura s id) ∧ LlenaFalla s := by
  have hi : Inv s := h.induccion inv_inicial fun _ _ _ ha hc hb => inv_paso ha hc hb
  exact ⟨hi.biyeccion, fun _ _ hc => asignaRanuraLibre hc, hi.liberaSuRanura, llenaFalla s⟩

theorem cero_notMem_ofNat (n : Fin 200) : 0 ∉ [UInt8.ofNat (n + 1)] := by
  intro h
  have hcero : 0 = (n.val + 1) % 2 ^ 8 :=
    (congrArg UInt8.toNat (List.mem_singleton.mp h)).trans UInt8.toNat_ofNat'
  omega

/-- The string with the character `n + 1`. -/
def nombre (n : Fin 200) : Id :=
  ⟨[UInt8.ofNat (n + 1)], List.cons_ne_nil _ _, show 1 < 255 by decide, cero_notMem_ofNat n⟩

/-- Two queues, the first one destroyed and its slot taken again. -/
theorem tabla_biyeccion_parcial_tres : ∃ s : Estado,
    AlcanzaBajo (fun s e => condicion s e = true) paso inicial s ∧ s.vivos (nombre 7) = some 0 ∧
      (Biyeccion s ∧ (∀ id hayLugar, condicion s (.create id hayLugar) = true → AsignaRanuraLibre s id) ∧
        (∀ id, LiberaSuRanura s id) ∧ LlenaFalla s) := by
  have hrun : (correr (pasoBajo (fun s e => condicion s e = true) paso) inicial
      [.create (nombre 5) true, .create (nombre 6) true, .destroy (nombre 5), .create (nombre 7) true]).map
        (fun s => s.vivos (nombre 7)) = some (some 0) := by decide +kernel
  obtain ⟨s, hs, hvivo⟩ := Option.map_eq_some_iff.mp hrun
  exact ⟨s, ⟨_, hs⟩, hvivo, tabla_biyeccion_parcial ⟨_, hs⟩⟩

/-! ## Slots without a character -/

/-- The slots before `n` are taken. -/
def Llena (s : Estado) (n : Nat) : Prop :=
  (∀ j < n, s.broker.projIdToQueueId (j : Nat) ≠ []) ∧ ∀ p : Int, n ≤ p → s.broker.projIdToQueueId p = []

/-- While positions are characters, each create takes the next one. -/
theorem alcanza_llena (ids : Nat → Id) (n : Nat) (hn : n ≤ 128) :
    ∃ s, correr paso inicial ((List.range n).map fun i => .create (ids i) true) = some s ∧ Llena s n := by
  induction n with
  | zero => exact ⟨inicial, rfl, nofun, fun _ _ => rfl⟩
  | succ n ih =>
    obtain ⟨s, hs, hbajas, haltas⟩ := ih (by omega)
    have hasigna : s.broker.allocateQueueId (ids n) = some
        ({ s.broker with projIdToQueueId := Function.update s.broker.projIdToQueueId n (ids n) },
          (n : Int)) := by
      rw [allocateQueueId_eq (by omega) (haltas n (Int.le_refl _)) hbajas, char_of_lt (by omega)]
    obtain ⟨t, ht⟩ : ∃ t, paso s (.create (ids n) true) = some t := ⟨_, rfl⟩
    obtain ⟨-, htabla, -⟩ := create_eq_some hasigna ht
    dsimp only at htabla
    refine ⟨t, ?_, fun j hj => ?_, fun p hp => ?_⟩
    · rw [List.range_succ, List.map_append, correr_append, hs]
      show (paso s (.create (ids n) true)).bind _ = _
      rw [ht]
      rfl
    · by_cases hjn : j = n
      · rw [htabla, hjn, Function.update_self]
        exact (ids n).ne_vacia.symm
      · rw [htabla, Function.update_of_ne (by omega)]
        exact hbajas j (by omega)
    · rw [htabla, Function.update_of_ne (by omega)]
      exact haltas p (by omega)

/-- The 129th of 129 queues with different ids gets the character -128. -/
theorem ranura_sin_char : ¬ ∀ s, Alcanza paso inicial s → Biyeccion s := by
  intro h
  obtain ⟨s, hs, hbajas, haltas⟩ := alcanza_llena (fun i => nombre (Fin.ofNat 200 i)) 128 (Nat.le_refl _)
  have hasigna : s.broker.allocateQueueId (nombre 128) = some (_, char 128) :=
    allocateQueueId_eq (by decide) (haltas 128 (by decide)) hbajas
  obtain ⟨t, ht⟩ : ∃ t, paso s (.create (nombre 128) true) = some t := ⟨_, rfl⟩
  obtain ⟨hvivos, -, -⟩ := create_eq_some hasigna ht
  have hvivo : t.vivos (nombre 128) = some (-128) := by
    rw [hvivos]
    exact Function.update_self ..
  have hdesigna := ((h t (Alcanza.siguiente ⟨_, hs⟩ ht)).designa (nombre 128) (-128) hvivo).1.1
  omega

/-- A create does not look for its id, which takes a second slot. -/
theorem id_en_dos_ranuras : ¬ ∀ s, Alcanza paso inicial s → ∀ (id : Id) p q, EnTabla p → EnTabla q →
    s.broker.projIdToQueueId p = id → s.broker.projIdToQueueId q = id → p = q := by
  intro h
  have hrun : (correr paso inicial [.create (nombre 0) true, .create (nombre 0) true]).map
      (fun s => (s.broker.projIdToQueueId 0, s.broker.projIdToQueueId 1)) =
        some ((nombre 0).1, (nombre 0).1) := by
    decide +kernel
  obtain ⟨s, hs, hranuras⟩ := Option.map_eq_some_iff.mp hrun
  obtain ⟨h₀, h₁⟩ := Prod.mk.inj hranuras
  have higuales := h s ⟨_, hs⟩ (nombre 0) 0 1 ⟨by decide, by decide⟩ ⟨by decide, by decide⟩ h₀ h₁
  exact absurd higuales (by decide)

end MessageBrokerTabla
