import Aeropuerto.Cintas.CintaCarga

/-!
# Safety of the container belt

The belt keeps the invariant of `Banda`; the notice of the close adds that the consumer is not parked
while a close is pending, and that each close is in exactly one of three places: pending, seen, or
reset by `comenzar_nueva_carga` before anybody saw it.
-/

namespace CintaCarga

open Ejecucion

variable {α : Type} {N M p c : Nat} {s t : Estado α}

/-! ## The closes -/

/-- Of `cierres` closes, number `k` is the one that is pending. -/
def pendiente (hayPendiente : Bool) (cierres k : Nat) : Nat :=
  if hayPendiente = true ∧ k + 1 = cierres then 1 else 0

@[simp] theorem pendiente_false (cierres k : Nat) : pendiente false cierres k = 0 := rfl

/-- Seeing the pending close, or resetting it, adds it to the list of such closes. -/
theorem count_pendiente {cierres : Nat} (hpos : 0 < cierres) (l : List Nat) (k : Nat) :
    (l ++ [cierres - 1]).count k = l.count k + pendiente true cierres k := by
  rw [List.count_append, List.count_singleton, pendiente]
  by_cases hk : k + 1 = cierres
  · have heq : (cierres - 1 == k) = true := by rw [beq_iff_eq]; omega
    rw [heq, if_pos rfl, if_pos ⟨rfl, hk⟩]
  · have hne : (cierres - 1 == k) = false := by rw [beq_eq_false_iff_ne]; omega
    rw [hne, if_neg (by decide), if_neg fun h => hk h.2]

theorem pendiente_succ (cierres k : Nat) :
    (if k < cierres then 1 else 0) + pendiente true (cierres + 1) k =
      if k < cierres + 1 then 1 else 0 := by
  unfold pendiente
  grind

/-! ## The invariant -/

/-- The belt between two steps. -/
structure Inv (N p c : Nat) (s : Estado α) : Prop where
  ordenada : s.compartido.toBanda.Ordenada N {p} c (fun _ => s.productor.activo)
    (fun _ => s.consumidor.activo)
  enCola : Banda.EnCola N s.compartido.anillo s.puestos s.devueltos.reduceOption
  cerrado : s.compartido.checkinCerrado ≤ 1
  anunciado : s.compartido.checkinCerrado = 1 → 0 < s.cierres
  visto : s.yaMeDesperto = true → s.compartido.checkinCerrado = 1
  despierto : s.hayPendiente = true → s.compartido.consumidores.ids c = 0
  unaVez : ∀ k, s.vistos.count k + s.borrados.count k + pendiente s.hayPendiente s.cierres k =
    if k < s.cierres then 1 else 0
  dummies : s.devueltos.countP Option.isNone = s.vistos.length

theorem inv_inicial (hN : 1 ≤ N) (hp : p < M) (hc : c < M) (ranura : Nat → α) :
    Inv N p c (inicial N M ranura) where
  ordenada := Banda.ordenada_inicial hN (by simpa using hp) hc ranura
  enCola := ⟨Anillo.fifo_vacio hN ranura, rfl⟩
  cerrado := Nat.zero_le 1
  anunciado := nofun
  visto := nofun
  despierto := nofun
  unaVez _ := rfl
  dummies := rfl

theorem hayPendiente_iff : s.hayPendiente = true ↔
    s.compartido.checkinCerrado = 1 ∧ s.yaMeDesperto = false := by
  simp [Estado.hayPendiente]

theorem inv_comenzar (h : Inv N p c s) (hs : paso p c s .comenzarNuevaCarga = some t) :
    Inv N p c t := by
  simp only [paso] at hs
  split at hs <;> cases hs
  refine ⟨h.ordenada, h.enCola, Nat.zero_le 1, nofun, nofun, nofun, fun k => ?_, h.dummies⟩
  have hk := h.unaVez k
  change s.vistos.count k + (if s.hayPendiente = true then s.borrados ++ [s.cierres - 1] else
    s.borrados).count k + pendiente false s.cierres k = _
  by_cases hpend : s.hayPendiente = true
  · rw [if_pos hpend, count_pendiente (h.anunciado (hayPendiente_iff.mp hpend).1), pendiente_false,
      ← hk, hpend]
    omega
  · rw [if_neg hpend, pendiente_false, ← hk, Bool.eq_false_of_not_eq_true hpend, pendiente_false]

/-- A close announced while none is set becomes the pending one and wakes the consumer. -/
theorem inv_avisar {n : Int} (h : Inv N p c s) (h0 : s.compartido.checkinCerrado = 0)
    (hs : paso p c s (.avisarCierreDeCheckin n) = some t) : Inv N p c t := by
  simp only [paso] at hs
  cases hs
  have hya : s.yaMeDesperto = false := by
    by_contra hya
    have := h.visto (by simpa using hya)
    omega
  have hno : s.hayPendiente = false := by
    by_contra hpend
    have := (hayPendiente_iff.mp (by simpa using hpend)).1
    omega
  obtain ⟨hord, hid⟩ := h.ordenada.despertarConsumidores
  refine ⟨hord, h.enCola, le_refl 1, fun _ => Nat.succ_pos _, fun _ => rfl, fun _ => hid,
    fun k => ?_, h.dummies⟩
  have hk := h.unaVez k
  rw [hno, pendiente_false] at hk
  have hpend : Estado.hayPendiente
      { s with
        compartido := s.compartido.avisarCierreDeCheckin n
        cierres := s.cierres + 1 } = true := hayPendiente_iff.mpr ⟨rfl, hya⟩
  rw [hpend]
  dsimp only
  rw [← pendiente_succ, ← hk]
  omega

theorem inv_waitConsumidor (h : Inv N p c s) (hs : paso p c s .waitConsumidor = some t) :
    Inv N p c t := by
  simp only [paso] at hs
  split at hs <;> cases hs
  rename_i hpc hw
  have hord := h.ordenada.waitConsumidor hw
  refine ⟨hord.congr (fun _ _ => rfl) (by simp [PcConsumidor.activo]), h.enCola, h.cerrado,
    h.anunciado, h.visto, fun hpend => ?_, h.unaVez, h.dummies⟩
  obtain ⟨-, rfl⟩ := Estacionamiento.waitOn_eq_some hw
  exact h.despierto hpend

theorem inv_waitProductor (h : Inv N p c s) (hs : paso p c s .waitProductor = some t) :
    Inv N p c t := by
  simp only [paso] at hs
  split at hs <;> cases hs
  rename_i hpc hw
  have hord := h.ordenada.waitProductor (Finset.mem_singleton_self p) hw
  exact ⟨hord.congr (by simp [PcProductor.activo]) rfl, h.enCola, h.cerrado, h.anunciado, h.visto,
    h.despierto, h.unaVez, h.dummies⟩

theorem inv_seccionProductor (h : Inv N p c s) (hs : paso p c s .seccionProductor = some t) :
    Inv N p c t := by
  simp only [paso] at hs
  split at hs <;> cases hs
  rename_i elemento hpc
  have hact : (fun _ : Nat => s.productor.activo) p = true := by rw [hpc]; rfl
  have hord := (h.ordenada.colocar elemento).dejarProductor (Finset.mem_singleton_self p) hact
  refine ⟨hord.congr (fun i hi => ?_) rfl, h.enCola.seccionPoner elemento (p + 1), h.cerrado,
    h.anunciado, h.visto, fun hpend => ?_, h.unaVez, h.dummies⟩
  · rw [Finset.mem_singleton.mp hi, Function.update_self, apply_ite PcProductor.activo]
    simp [PcProductor.activo]
  · -- a put may only wake the consumer
    have hle := Banda.colocar_ids_le s.compartido.toBanda elemento c
    have := h.despierto hpend
    change (s.compartido.toBanda.colocar elemento).consumidores.ids c = 0
    omega

theorem inv_seccionConsumidor (h : Inv N p c s) (hs : paso p c s .seccionConsumidor = some t) :
    Inv N p c t := by
  simp only [paso] at hs
  split at hs
  case h_2 => cases hs
  rename_i hpc
  have hact : (fun _ : Nat => s.consumidor.activo) c = true := by rw [hpc]; rfl
  by_cases habierta : s.yaMeDesperto = true ∨ s.compartido.checkinCerrado = 0
  · have hno : s.hayPendiente = false := by
      by_contra hpend
      have := hayPendiente_iff.mp (by simpa using hpend)
      rcases habierta with hya | h0
      · rw [hya] at this
        cases this.2
      · omega
    have hord := h.ordenada.extraer.dejarConsumidor hact
    have hcola := h.enCola.seccionSacar (c + 1)
    unfold Compartido.seccionSacar Banda.seccionSacar at hs
    rw [if_pos habierta] at hs
    unfold Banda.seccionSacar at hcola
    by_cases hvacia : s.compartido.anillo.cantidad > 0
    · rw [if_pos hvacia] at hs hcola
      cases hs
      refine ⟨hord.congr (fun _ _ => rfl) (by simp [PcConsumidor.activo]), ?_, h.cerrado,
        h.anunciado, h.visto, fun hpend => ?_, h.unaVez, ?_⟩
      · rw [List.reduceOption_append]
        exact hcola
      · exact absurd (hno.symm.trans hpend) (by decide)
      · rw [List.countP_append]
        exact h.dummies
    · rw [if_neg hvacia] at hs hcola
      cases hs
      refine ⟨hord.congr (fun _ _ => rfl) (by simp [PcConsumidor.activo]), by simpa using hcola,
        h.cerrado, h.anunciado, h.visto, fun hpend => ?_, h.unaVez, h.dummies⟩
      exact absurd (hno.symm.trans hpend) (by decide)
  · obtain ⟨hya, hcerrado⟩ := not_or.mp habierta
    have h1 : s.compartido.checkinCerrado = 1 := by have := h.cerrado; omega
    have hpend : s.hayPendiente = true := hayPendiente_iff.mpr ⟨h1, by simpa using hya⟩
    have hord := h.ordenada.signalizeConsumidor hact
    unfold Compartido.seccionSacar at hs
    rw [if_neg habierta, if_pos h1] at hs
    cases hs
    refine ⟨hord.congr (fun _ _ => rfl) (by simp [PcConsumidor.activo]), ?_, h.cerrado,
      h.anunciado, fun _ => h1, fun hp => ?_, fun k => ?_, ?_⟩
    · rw [List.reduceOption_append]
      simpa using h.enCola
    · have := (hayPendiente_iff.mp hp).2
      cases this
    · have hk := h.unaVez k
      rw [hpend] at hk
      have hno : Estado.hayPendiente { s with yaMeDesperto := true } = false := by
        simp [Estado.hayPendiente]
      change (s.vistos ++ [s.cierres - 1]).count k + s.borrados.count k +
        pendiente (Estado.hayPendiente { s with yaMeDesperto := true }) s.cierres k = _
      rw [hno, pendiente_false, count_pendiente (h.anunciado h1), ← hk]
      omega
    · rw [List.countP_append, h.dummies, List.length_append]
      rfl

theorem inv_paso {e : Evento α} (h : Inv N p c s) (halt : alternan s e = true)
    (hs : paso p c s e = some t) : Inv N p c t := by
  cases e with
  | ponerEquipaje elemento =>
    simp only [paso] at hs
    split at hs <;> cases hs
    rename_i hpc
    have hord := h.ordenada
    rw [hpc] at hord
    exact ⟨hord, h.enCola, h.cerrado, h.anunciado, h.visto, h.despierto, h.unaVez, h.dummies⟩
  | waitProductor => exact inv_waitProductor h hs
  | seccionProductor => exact inv_seccionProductor h hs
  | sacarEquipaje =>
    simp only [paso] at hs
    split at hs <;> cases hs
    rename_i hpc
    have hord := h.ordenada
    rw [hpc] at hord
    exact ⟨hord, h.enCola, h.cerrado, h.anunciado, h.visto, h.despierto, h.unaVez, h.dummies⟩
  | waitConsumidor => exact inv_waitConsumidor h hs
  | seccionConsumidor => exact inv_seccionConsumidor h hs
  | comenzarNuevaCarga => exact inv_comenzar h hs
  | avisarCierreDeCheckin n => exact inv_avisar h (of_decide_eq_true halt) hs

theorem alcanza_inv {ranura : Nat → α} (hN : 1 ≤ N) (hp : p < M) (hc : c < M)
    (h : AlcanzaBajo (fun s e => alternan s e = true) (paso p c) (inicial N M ranura) s) :
    Inv N p c s :=
  h.induccion (inv_inicial hN hp hc ranura) fun _ _ _ => inv_paso

/-! ## Every bag and every close once -/

/-- A belt that has delivered every bag once and every close at most once: close `k` is pending, has
    been returned as a dummy, or was reset by `comenzar_nueva_carga` before it was seen. -/
structure CierreUnaVez (p c : Nat) (s : Estado α) : Prop where
  unaVez : ∀ k < s.cierres,
    s.vistos.count k + s.borrados.count k + pendiente s.hayPendiente s.cierres k = 1
  soloCierres : ∀ k ∈ s.vistos, k < s.cierres
  dummies : s.devueltos.countP Option.isNone = s.vistos.length
  dummyNoSaca : ∀ t, paso p c s .seccionConsumidor = some t →
    t.devueltos = s.devueltos ++ [none] →
      t.compartido.anillo = s.compartido.anillo ∧ t.yaMeDesperto = true
  fifo : s.devueltos.reduceOption ++ s.compartido.anillo.contenido = s.puestos
  semaforo : s.compartido.consumidores.semaforo c + s.consumidor.activo.toNat +
    s.compartido.consumidores.ids c = 1
  dormido : s.compartido.consumidores.ids c = 1 →
    s.compartido.anillo.cantidad = 0 ∧ s.hayPendiente = false

/-- Only the branch of the close returns the dummy, and it leaves the ring alone. -/
theorem dummy_no_saca (hs : paso p c s .seccionConsumidor = some t)
    (hd : t.devueltos = s.devueltos ++ [none]) :
    t.compartido.anillo = s.compartido.anillo ∧ t.yaMeDesperto = true := by
  simp only [paso] at hs
  split at hs
  case h_2 => cases hs
  unfold Compartido.seccionSacar at hs
  by_cases habierta : s.yaMeDesperto = true ∨ s.compartido.checkinCerrado = 0
  · rw [if_pos habierta] at hs
    unfold Banda.seccionSacar at hs
    by_cases hvacia : s.compartido.anillo.cantidad > 0
    · rw [if_pos hvacia] at hs
      cases hs
      simp at hd
    · rw [if_neg hvacia] at hs
      cases hs
      simp at hd
  · rw [if_neg habierta] at hs
    by_cases h1 : s.compartido.checkinCerrado = 1
    · rw [if_pos h1] at hs
      cases hs
      exact ⟨rfl, rfl⟩
    · rw [if_neg h1] at hs
      cases hs
      simp at hd

/-- Under every interleaving in which the closes and the calls of `comenzar_nueva_carga` alternate,
    every bag is delivered once, every close that is not reset unseen makes exactly one dummy, and
    the consumer sleeps through neither. -/
theorem cinta_carga_cierre_una_vez (ranura : Nat → α) (hN : 1 ≤ N) (hp : p < M) (hc : c < M)
    (h : AlcanzaBajo (fun s e => alternan s e = true) (paso p c) (inicial N M ranura) s) :
    CierreUnaVez p c s := by
  have hinv := alcanza_inv hN hp hc h
  refine ⟨fun k hk => ?_, fun k hk => ?_, hinv.dummies, fun t => dummy_no_saca,
    hinv.enCola.fifo.historia, hinv.ordenada.consumidores.uno c (Finset.mem_singleton_self c),
    fun hid => ⟨hinv.ordenada.vacio hid, ?_⟩⟩
  · rw [hinv.unaVez k, if_pos hk]
  · by_contra hlt
    have hcuenta := hinv.unaVez k
    have := List.count_pos_iff.mpr hk
    rw [if_neg hlt] at hcuenta
    omega
  · by_contra hpend
    have := hinv.despierto (by simpa using hpend)
    omega

/-- The theorem at a run in which a close wakes the parked consumer. -/
theorem cinta_carga_cierre_una_vez_dormido :
    ∃ s : Estado Nat, s.vistos = [0] ∧ CierreUnaVez 2 2 s :=
  ⟨_, rfl, cinta_carga_cierre_una_vez (N := 1) (M := 8) (fun _ => 0) (by decide)
    (by decide) (by decide)
    ⟨[.sacarEquipaje, .waitConsumidor, .seccionConsumidor, .avisarCierreDeCheckin 3,
      .waitConsumidor, .seccionConsumidor], rfl⟩⟩

/-- A `comenzar_nueva_carga` that follows the close before any `sacar_equipaje` has seen it resets
    the notice: no dummy is returned for that close and none is pending. -/
theorem cinta_carga_cierre_borrado :
    ¬ ∀ (N M p c : Nat) (s : Estado Nat), 1 ≤ N → p < M → c < M →
      AlcanzaBajo (fun s e => alternan s e = true) (paso p c) (inicial N M fun _ => 0) s →
      ∀ k < s.cierres, s.vistos.count k + pendiente s.hayPendiente s.cierres k = 1 := by
  intro h
  have := h 1 8 0 0 _ (by decide) (by decide) (by decide)
    ⟨[.avisarCierreDeCheckin 3, .comenzarNuevaCarga], rfl⟩ 0
  revert this
  decide

end CintaCarga
