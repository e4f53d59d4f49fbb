import Aeropuerto.Biblioteca.Sumas
import Aeropuerto.Cintas.CintaScanner

/-!
# Safety of the scanner belts

The two memories agree up to the process that is between them: `control_cinta_llena[i]` lags behind
`cantidad_elementos[i]` only while the producer has filled belt `i` and not yet marked it, or its
scanner has taken from a full belt and not yet unmarked it, and both hold the lock of the belt.
-/

namespace CintaScanner

open Ejecucion Candados Sumas

variable {α : Type} {S N i : Nat} {s t : Estado α}

/-! ## What the program counters say -/

/-- The producer has chosen a belt marked with room and not yet put. -/
def PcProductor.eligio : PcProductor α → Bool
  | .sueltaControl _ hayLugar => hayLugar
  | .esperaCinta _ | .colocando _ => true
  | _ => false

/-- It has filled the belt and not yet marked it. -/
def PcProductor.marca : PcProductor α → Bool
  | .esperaControlLlena | .marcando => true
  | _ => false

/-- Between its `wait_on(0)` and its `signalize(0)` or parking. -/
def PcProductor.activo : PcProductor α → Bool
  | .reposo | .esperaSemaforo _ | .sueltaControl _ false => false
  | _ => true

def PcProductor.tiene (proxima : Nat) : PcProductor α → Candado → Bool
  | .buscando _, l | .sueltaControl _ _, l => l = .control
  | .colocando _, l | .esperaControlLlena, l | .sueltaCinta, l => l = .cinta proxima
  | .marcando, l | .sueltaControlLlena, l => l = .cinta proxima ∨ l = .control
  | _, _ => false

def PcProductor.pide (proxima : Nat) : PcProductor α → Option Candado
  | .esperaControl _ | .esperaControlLlena => some .control
  | .esperaCinta _ => some (.cinta proxima)
  | _ => none

/-- The constructor has written its entry of the control image. -/
def PcEscaner.registrado : PcEscaner α → Bool
  | .sinRegistrar | .esperaControlRegistro | .registrando => false
  | _ => true

/-- The scanner has taken from a full belt and not yet unmarked it. -/
def PcEscaner.libera : PcEscaner α → Bool
  | .esperaControl _ | .liberando _ => true
  | _ => false

/-- Between its `wait_on` and its `signalize` or parking. -/
def PcEscaner.activo : PcEscaner α → Bool
  | .esperaCinta | .extrayendo | .esperaControl _ | .liberando _ | .sueltaControl _
  | .terminando _ => true
  | _ => false

/-- The constructor has cleared the flag of the producer and not yet signalled it. -/
def PcEscaner.porSenalar : PcEscaner α → Nat
  | .sueltaControlRegistro true | .senalandoRegistro => 1
  | _ => 0

def PcEscaner.tiene (i : Nat) : PcEscaner α → Candado → Bool
  | .registrando, l | .sueltaControlRegistro _, l => l = .control
  | .extrayendo, l | .esperaControl _, l | .terminando _, l | .sueltaCinta _, l => l = .cinta i
  | .liberando _, l | .sueltaControl _, l => l = .cinta i ∨ l = .control
  | _, _ => false

def PcEscaner.pide (i : Nat) : PcEscaner α → Option Candado
  | .esperaControlRegistro | .esperaControl _ => some .control
  | .esperaCinta => some (.cinta i)
  | _ => none

namespace Estado

def eligio (s : Estado α) (i : Nat) : Bool :=
  s.productor.eligio && s.proximaCintaAColocar == i

def marca (s : Estado α) (i : Nat) : Bool :=
  s.productor.marca && s.proximaCintaAColocar == i

def tiene (s : Estado α) : Proceso → Candado → Bool
  | .productor => s.productor.tiene s.proximaCintaAColocar
  | .escaner i => (s.escaner i).tiene i

def pide (s : Estado α) : Proceso → Option Candado
  | .productor => s.productor.pide s.proximaCintaAColocar
  | .escaner i => (s.escaner i).pide i

end Estado

/-! ## The search for a belt -/

theorem buscarCinta_le {llena : Nat → Int} {r i : Nat} : (buscarCinta S llena r i).2 ≤ r := by
  induction r generalizing i with
  | zero => exact le_refl 0
  | succ r ih =>
    unfold buscarCinta
    split
    · exact Nat.succ_le_succ ih
    · exact Nat.zero_le _

theorem buscarCinta_lt {llena : Nat → Int} {r i : Nat}
    (h : (buscarCinta S llena r i).2 < r) : llena (buscarCinta S llena r i).1 = 0 := by
  induction r generalizing i with
  | zero => exact absurd h (Nat.not_lt_zero _)
  | succ r ih =>
    unfold buscarCinta at h ⊢
    split at h
    · rename_i hne
      rw [if_pos hne]
      exact ih (by dsimp only at h; omega)
    · rename_i heq
      rw [if_neg heq]
      simpa using heq

theorem buscarCinta_rango (llena : Nat → Int) {r i : Nat} (hi : i < S) :
    (buscarCinta S llena r i).1 < S := by
  induction r generalizing i with
  | zero => exact hi
  | succ r ih =>
    unfold buscarCinta
    split
    · exact ih (Nat.mod_lt _ (by omega))
    · exact hi

theorem buscarCinta_llenas {llena : Nat → Int} {r i : Nat}
    (h : (buscarCinta S llena r i).2 = r) (hi : i < S) : ∀ j < r, llena ((i + j) % S) ≠ 0 := by
  induction r generalizing i with
  | zero => exact fun j hj => absurd hj (Nat.not_lt_zero j)
  | succ r ih =>
    unfold buscarCinta at h
    split at h
    · rename_i hne
      intro j hj
      cases j with
      | zero => rwa [Nat.add_zero, Nat.mod_eq_of_lt hi]
      | succ j =>
        have := ih (i := (i + 1) % S) (by dsimp only at h; omega) (Nat.mod_lt _ (by omega)) j
          (by omega)
        rwa [Nat.mod_add_mod, Nat.add_assoc, Nat.add_comm 1 j] at this
    · dsimp only at h
      omega

/-- A search that makes `S` turns has seen every belt. -/
theorem buscarCinta_todas {llena : Nat → Int} {i : Nat} (h : (buscarCinta S llena S i).2 = S)
    (hi : i < S) {k : Nat} (hk : k < S) : llena k ≠ 0 := by
  have hkk := buscarCinta_llenas h hi ((k + (S - i)) % S) (Nat.mod_lt _ (by omega))
  have heq : (i + (k + (S - i)) % S) % S = k := by
    rw [Nat.add_mod_mod, show i + (k + (S - i)) = k + S by omega, Nat.add_mod_right,
      Nat.mod_eq_of_lt hk]
  rwa [heq] at hkk

/-! ## One belt -/

variable {llena : Int} {c : CintaEscaner α} {sem : Nat} {e f : PcEscaner α} {eligio marca : Bool}
  {puestos sacados : List α}

/-- A belt of capacity `N` with its entry of the control image and its semaphore, given the point
    `e` of its scanner and what the producer is about to do to it. -/
structure CintaOrdenada (N : Nat) (llena : Int) (c : CintaEscaner α) (sem : Nat)
    (e : PcEscaner α) (eligio marca : Bool) (puestos sacados : List α) : Prop where
  fifo : c.anillo.Fifo puestos sacados
  tamanio : c.anillo.tamanio = N
  registrado : llena = -1 ↔ e.registrado = false
  sinRegistrar : e.registrado = false → c.anillo.cantidad = 0
  elegida : eligio = true → llena = 0
  porMarcar : marca = true → llena = 0 ∧ c.anillo.cantidad = N
  porLiberar : e.libera = true → llena = 1 ∧ c.anillo.cantidad = (N : Int) - 1
  lleno : marca = false → e.libera = false → (llena = 1 ↔ c.anillo.cantidad = N)
  semaforo : sem + e.activo.toNat + c.consumidorEsperando = 1
  vacio : c.consumidorEsperando = 1 → c.anillo.cantidad = 0

theorem CintaOrdenada.congr (h : CintaOrdenada N llena c sem e eligio marca puestos sacados)
    (hr : f.registrado = e.registrado) (hl : f.libera = e.libera) (ha : f.activo = e.activo) :
    CintaOrdenada N llena c sem f eligio marca puestos sacados :=
  ⟨h.fifo, h.tamanio, hr ▸ h.registrado, hr ▸ h.sinRegistrar, h.elegida, h.porMarcar, hl ▸ h.porLiberar,
    hl ▸ h.lleno, ha ▸ h.semaforo, h.vacio⟩

/-- The chosen belt is marked with room, so there is room on it: the scanner only ever makes more. -/
theorem CintaOrdenada.hayLugar (h : CintaOrdenada N llena c sem e true false puestos sacados) :
    c.anillo.cantidad < N := by
  have h0 := h.elegida rfl
  have hcabe := h.fifo.valido.cabe
  rw [h.tamanio] at hcabe
  have hlib : e.libera = false := by
    by_contra hlib
    have := h.porLiberar (by simpa using hlib)
    omega
  have := h.lleno rfl hlib
  omega

theorem CintaOrdenada.colocar (h : CintaOrdenada N llena c sem e true false puestos sacados)
    (x : α) :
    let c' : CintaEscaner α := { c with anillo := c.anillo.poner x }
    if c'.anillo.cantidad = 1 ∧ c'.consumidorEsperando = 1 then
      CintaOrdenada N llena { c' with consumidorEsperando := 0 } (sem + 1) e false
        (decide (c'.anillo.cantidad = N)) (puestos ++ [x]) sacados
    else
      CintaOrdenada N llena c' sem e false (decide (c'.anillo.cantidad = N)) (puestos ++ [x])
        sacados := by
  have h0 := h.elegida rfl
  have hroom := h.hayLugar
  have hfifo := h.fifo.poner (x := x) (by rw [h.tamanio]; exact hroom)
  have hreg : ¬ e.registrado = false := fun hr => by have := h.registrado.mpr hr; omega
  have hlib : ¬ e.libera = true := fun hl => by have := h.porLiberar hl; omega
  have hsem := h.semaforo
  have hmarca : decide (c.anillo.cantidad + 1 = N) = true →
      llena = 0 ∧ c.anillo.cantidad + 1 = N := fun hm => ⟨h0, of_decide_eq_true hm⟩
  have hlleno : decide (c.anillo.cantidad + 1 = N) = false → e.libera = false →
      (llena = 1 ↔ c.anillo.cantidad + 1 = N) := fun hm _ => by
    have := of_decide_eq_false hm
    omega
  intro c'
  split
  · exact ⟨hfifo, h.tamanio, h.registrado, fun hr => absurd hr hreg, nofun, hmarca,
      fun hl => absurd hl hlib, hlleno, by dsimp only [c'] at *; omega, nofun⟩
  · rename_i hne
    refine ⟨hfifo, h.tamanio, h.registrado, fun hr => absurd hr hreg, nofun, hmarca,
      fun hl => absurd hl hlib, hlleno, hsem, fun h1 => ?_⟩
    have := h.vacio h1
    exact absurd ⟨by change c.anillo.cantidad + 1 = 1; omega, h1⟩ hne

theorem CintaOrdenada.marcar (h : CintaOrdenada N llena c sem e false true puestos sacados) :
    CintaOrdenada N 1 c sem e false false puestos sacados := by
  obtain ⟨h0, hN⟩ := h.porMarcar rfl
  have hreg : ¬ e.registrado = false := fun hr => by have := h.registrado.mpr hr; omega
  have hlib : ¬ e.libera = true := fun hl => by have := h.porLiberar hl; omega
  exact ⟨h.fifo, h.tamanio, ⟨by omega, fun hr => absurd hr hreg⟩, h.sinRegistrar, nofun, nofun,
    fun hl => absurd hl hlib, fun _ _ => ⟨fun _ => hN, fun _ => rfl⟩, h.semaforo, h.vacio⟩

theorem CintaOrdenada.registrar (h : CintaOrdenada N llena c sem e eligio marca puestos sacados)
    (he : e.registrado = false) (hr : f.registrado = true) (hl : f.libera = false)
    (ha : f.activo = e.activo) :
    CintaOrdenada N 0 c sem f eligio marca puestos sacados := by
  have h1 := h.registrado.mpr he
  have h0 := h.sinRegistrar he
  have hpos := h.fifo.valido.positivo
  rw [h.tamanio] at hpos
  have hreg' : ¬ f.registrado = false := by simp [hr]
  have hlib' : ¬ f.libera = true := by simp [hl]
  exact ⟨h.fifo, h.tamanio, ⟨by omega, fun hf => absurd hf hreg'⟩, fun hf => absurd hf hreg',
    fun _ => rfl, fun hm => by have := h.porMarcar hm; omega, fun hf => absurd hf hlib',
    fun _ _ => by omega, ha ▸ h.semaforo, h.vacio⟩

theorem CintaOrdenada.waitOn (h : CintaOrdenada N llena c sem e eligio marca puestos sacados)
    (hpos : 0 < sem) (hr : f.registrado = e.registrado) (hl : f.libera = e.libera)
    (ha : f.activo = true) :
    CintaOrdenada N llena c (sem - 1) f eligio marca puestos sacados := by
  have hsem := h.semaforo
  exact ⟨h.fifo, h.tamanio, hr ▸ h.registrado, hr ▸ h.sinRegistrar, h.elegida, h.porMarcar,
    hl ▸ h.porLiberar, hl ▸ h.lleno, by rw [ha, Bool.toNat_true]; omega, h.vacio⟩

/-- The scanner holds the lock of the belt, so the producer is not between filling and marking. -/
theorem CintaOrdenada.extraer (h : CintaOrdenada N llena c sem e eligio marca puestos sacados)
    (hm : marca = false) (h0 : 0 < c.anillo.cantidad) (he : e.libera = false) (hact : e.activo = true)
    (hr : f.registrado = e.registrado) (ha : f.activo = e.activo)
    (hl : f.libera = decide (c.anillo.quitar.cantidad = (N : Int) - 1)) :
    CintaOrdenada N llena { c with anillo := c.anillo.quitar } sem f eligio marca puestos
      (sacados ++ [c.anillo.frente]) := by
  subst hm
  have hfull := h.lleno rfl he
  have hsem := h.semaforo
  rw [hact, Bool.toNat_true] at hsem
  refine ⟨h.fifo.quitar h0, h.tamanio, hr ▸ h.registrado, fun hf => ?_, h.elegida, nofun,
    fun hlib => ?_, fun _ hlib => ?_, ha ▸ h.semaforo, fun h1 => ?_⟩
  · have := h.sinRegistrar (hr ▸ hf)
    omega
  · rw [hl] at hlib
    have hq := of_decide_eq_true hlib
    exact ⟨hfull.mpr (by simp only [Anillo.quitar_cantidad] at hq; omega), hq⟩
  · rw [hl] at hlib
    have hq := of_decide_eq_false hlib
    simp only [Anillo.quitar_cantidad] at hq ⊢
    have hcabe := h.fifo.valido.cabe
    rw [h.tamanio] at hcabe
    omega
  · dsimp only at h1
    omega

theorem CintaOrdenada.liberar (h : CintaOrdenada N llena c sem e eligio marca puestos sacados)
    (he : e.libera = true) (hr : f.registrado = true) (hl : f.libera = false)
    (ha : f.activo = e.activo) : CintaOrdenada N 0 c sem f eligio marca puestos sacados := by
  obtain ⟨h1, hN⟩ := h.porLiberar he
  have hreg' : ¬ f.registrado = false := by simp [hr]
  have hlib' : ¬ f.libera = true := by simp [hl]
  exact ⟨h.fifo, h.tamanio, ⟨by omega, fun hf => absurd hf hreg'⟩, fun hf => absurd hf hreg',
    fun _ => rfl, fun hm => by have := h.porMarcar hm; omega, fun hf => absurd hf hlib',
    fun _ _ => by omega, ha ▸ h.semaforo, h.vacio⟩

theorem CintaOrdenada.terminar (h : CintaOrdenada N llena c sem e eligio marca puestos sacados)
    (hact : e.activo = true) (hr : f.registrado = e.registrado) (hl : f.libera = e.libera)
    (ha : f.activo = false) :
    if c.anillo.cantidad = 0 then
      CintaOrdenada N llena { c with consumidorEsperando := 1 } sem f eligio marca puestos sacados
    else CintaOrdenada N llena c (sem + 1) f eligio marca puestos sacados := by
  have hsem := h.semaforo
  rw [hact, Bool.toNat_true] at hsem
  split
  · rename_i h0
    exact ⟨h.fifo, h.tamanio, hr ▸ h.registrado, hr ▸ h.sinRegistrar, h.elegida, h.porMarcar,
      hl ▸ h.porLiberar, hl ▸ h.lleno, by rw [ha, Bool.toNat_false]; dsimp only; omega, fun _ => h0⟩
  · exact ⟨h.fifo, h.tamanio, hr ▸ h.registrado, hr ▸ h.sinRegistrar, h.elegida, h.porMarcar,
      hl ▸ h.porLiberar, hl ▸ h.lleno, by rw [ha, Bool.toNat_false]; omega, h.vacio⟩

/-! ## The invariant -/

theorem waitOn_eq_some {k : Nat} (h : s.waitOn k = some t) :
    0 < s.semaforos k ∧
      t = { s with semaforos := Function.update s.semaforos k (s.semaforos k - 1) } := by
  unfold Estado.waitOn at h
  split at h
  · exact ⟨‹_›, (Option.some.inj h).symm⟩
  · cases h

def Estado.Ordenada (N : Nat) (s : Estado α) (i : Nat) : Prop :=
  CintaOrdenada N (s.control.cintaLlena i) (s.cintas i) (s.semaforos (i + 1)) (s.escaner i)
    (s.eligio i) (s.marca i) (s.puestos i) (s.sacados i)

/-- The constructors that owe the producer a signal. -/
def porSenalar (S : Nat) (escaner : Nat → PcEscaner α) : Nat :=
  ∑ i ∈ Finset.range S, (escaner i).porSenalar

/-- The distributor between two steps. -/
structure Inv (S N : Nat) (s : Estado α) : Prop where
  candados : Poseen s.dueno s.tiene
  cintas : ∀ i, s.Ordenada N i
  proxima : s.proximaCintaAColocar < S
  turno : s.semaforos 0 + s.productor.activo.toNat + s.control.productorEsperando +
    porSenalar S s.escaner = 1
  dormido : s.control.productorEsperando = 1 → ∀ i < S, s.control.cintaLlena i ≠ 0
  fuera : ∀ i, S ≤ i → s.escaner i = .sinRegistrar

theorem inv_inicial (hS : 1 ≤ S) (hN : 1 ≤ N) (ranura : Nat → α) :
    Inv S N (inicial N ranura) where
  candados l p := by cases p <;> simp [inicial, Estado.tiene, PcProductor.tiene, PcEscaner.tiene]
  cintas i :=
    ⟨Anillo.fifo_vacio hN ranura, rfl, by simp [inicial, PcEscaner.registrado], fun _ => rfl,
      nofun, nofun, nofun, fun _ _ => by simp [inicial, Anillo.vacio]; omega, rfl, nofun⟩
  proxima := hS
  turno := by simp [inicial, porSenalar, PcProductor.activo, PcEscaner.porSenalar]
  dormido := nofun
  fuera _ _ := rfl

theorem tiene_productor (s : Estado α) (pc : PcProductor α) (proxima : Nat) {q : Proceso}
    (hq : q ≠ .productor) :
    { s with productor := pc, proximaCintaAColocar := proxima }.tiene q = s.tiene q := by
  cases q with
  | productor => exact absurd rfl hq
  | escaner i => rfl

theorem tiene_escaner (s : Estado α) (i : Nat) (pc : PcEscaner α) {q : Proceso}
    (hq : q ≠ .escaner i) :
    { s with escaner := Function.update s.escaner i pc }.tiene q = s.tiene q := by
  cases q with
  | productor => rfl
  | escaner j =>
    have hji : j ≠ i := fun h => hq (h ▸ rfl)
    simp only [Estado.tiene, Function.update_of_ne hji]

/-- A move of the producer that changes neither what it has promised nor the semaphores. -/
theorem Inv.mueveProductor (h : Inv S N s) {pc : PcProductor α} {dueno : Candado → Option Proceso}
    (he : pc.eligio = s.productor.eligio) (hm : pc.marca = s.productor.marca)
    (ha : pc.activo = s.productor.activo)
    (hd : Poseen dueno { s with productor := pc }.tiene) :
    Inv S N { s with productor := pc, dueno := dueno } where
  candados := hd
  cintas i := by
    have hi := h.cintas i
    simp only [Estado.Ordenada, Estado.eligio, Estado.marca] at hi ⊢
    rw [he, hm]
    exact hi
  proxima := h.proxima
  turno := by simpa only [ha] using h.turno
  dormido := h.dormido
  fuera := h.fuera

/-- The same, when the producer takes a lock. -/
theorem Inv.tomaProductor (h : Inv S N s) {pc : PcProductor α} {l : Candado}
    (ht : (s.lock l .productor).map (fun s => s.irProductor pc) = some t)
    (he : pc.eligio = s.productor.eligio) (hm : pc.marca = s.productor.marca)
    (ha : pc.activo = s.productor.activo)
    (hl : ∀ m, pc.tiene s.proximaCintaAColocar m =
      (s.productor.tiene s.proximaCintaAColocar m || decide (m = l))) : Inv S N t := by
  simp only [Estado.lock, Option.map_map, Option.map_eq_some_iff] at ht
  obtain ⟨d, hd, rfl⟩ := ht
  exact h.mueveProductor he hm ha
    (h.candados.tomar hd hl fun _ hq => tiene_productor s pc s.proximaCintaAColocar hq)

theorem Inv.sueltaProductor (h : Inv S N s) {pc : PcProductor α} {l : Candado}
    (he : pc.eligio = s.productor.eligio) (hm : pc.marca = s.productor.marca)
    (ha : pc.activo = s.productor.activo)
    (ht : s.productor.tiene s.proximaCintaAColocar l = true)
    (hl : ∀ m, pc.tiene s.proximaCintaAColocar m =
      (s.productor.tiene s.proximaCintaAColocar m && decide (m ≠ l))) :
    Inv S N ((s.unlock l).irProductor pc) :=
  h.mueveProductor he hm ha
    (h.candados.soltar (p := .productor) ht hl fun _ hq => tiene_productor s pc s.proximaCintaAColocar hq)

/-- A move of scanner `i` that changes neither what it owes nor the images nor the semaphores. -/
theorem Inv.mueveEscaner (h : Inv S N s) {pc : PcEscaner α} {dueno : Candado → Option Proceso}
    (hi : i < S) (hr : pc.registrado = (s.escaner i).registrado)
    (hl : pc.libera = (s.escaner i).libera) (ha : pc.activo = (s.escaner i).activo)
    (hp : pc.porSenalar = (s.escaner i).porSenalar)
    (hd : Poseen dueno { s with escaner := Function.update s.escaner i pc }.tiene) :
    Inv S N { s with escaner := Function.update s.escaner i pc, dueno := dueno } where
  candados := hd
  cintas j := by
    have hj := h.cintas j
    simp only [Estado.Ordenada] at hj ⊢
    by_cases hji : j = i
    · subst hji
      rw [Function.update_self]
      exact hj.congr hr hl ha
    · rw [Function.update_of_ne hji]
      exact hj
  proxima := h.proxima
  turno := by
    have hsum := suma_update (fun _ pc => pc.porSenalar) s.escaner (Finset.mem_range.mpr hi) pc
    have ht := h.turno
    simp only [porSenalar] at ht ⊢
    omega
  dormido := h.dormido
  fuera j hj := (Function.update_of_ne (by omega) _ _).trans (h.fuera j hj)

theorem Inv.tomaEscaner (h : Inv S N s) {pc : PcEscaner α} {l : Candado}
    (ht : (s.lock l (.escaner i)).map (fun s => s.irEscaner i pc) = some t)
    (hi : i < S) (hr : pc.registrado = (s.escaner i).registrado)
    (hl : pc.libera = (s.escaner i).libera) (ha : pc.activo = (s.escaner i).activo)
    (hp : pc.porSenalar = (s.escaner i).porSenalar)
    (hm : ∀ m, pc.tiene i m = ((s.escaner i).tiene i m || decide (m = l))) : Inv S N t := by
  simp only [Estado.lock, Option.map_map, Option.map_eq_some_iff] at ht
  obtain ⟨d, hd, rfl⟩ := ht
  refine h.mueveEscaner hi hr hl ha hp
    (h.candados.tomar hd (fun m => ?_) fun _ hq => tiene_escaner s i pc hq)
  simp only [Estado.tiene, Function.update_self]
  exact hm m

theorem Inv.sueltaEscaner (h : Inv S N s) {pc : PcEscaner α} {l : Candado}
    (hi : i < S) (hr : pc.registrado = (s.escaner i).registrado)
    (hl : pc.libera = (s.escaner i).libera) (ha : pc.activo = (s.escaner i).activo)
    (hp : pc.porSenalar = (s.escaner i).porSenalar)
    (ht : (s.escaner i).tiene i l = true)
    (hm : ∀ m, pc.tiene i m = ((s.escaner i).tiene i m && decide (m ≠ l))) :
    Inv S N ((s.unlock l).irEscaner i pc) := by
  refine h.mueveEscaner hi hr hl ha hp
    (h.candados.soltar (p := .escaner i) ht (fun m => ?_) fun _ hq => tiene_escaner s i pc hq)
  simp only [Estado.tiene, Function.update_self]
  exact hm m

/-! ## The steps of the producer -/

/-- Nobody holds what the producer holds. -/
theorem Inv.candados_irProductor (h : Inv S N s) (pc : PcProductor α) (proxima : Nat)
    (ht : ∀ l, pc.tiene proxima l = s.productor.tiene s.proximaCintaAColocar l) :
    Poseen s.dueno { s with productor := pc, proximaCintaAColocar := proxima }.tiene := by
  refine h.candados.congr (funext fun q => ?_)
  by_cases hq : q = .productor
  · subst hq
    exact funext ht
  · exact tiene_productor s pc proxima hq

theorem Inv.buscar {equipaje : α} (h : Inv S N s) (hpc : s.productor = .buscando equipaje) :
    Inv S N (buscar S s equipaje) := by
  have hrango := buscarCinta_rango s.control.cintaLlena (r := S) h.proxima
  have hcand := h.candados_irProductor
    (.sueltaControl equipaje
      ((buscarCinta S s.control.cintaLlena S s.proximaCintaAColocar).2 < S))
    (buscarCinta S s.control.cintaLlena S s.proximaCintaAColocar).1
    fun l => by rw [hpc]; rfl
  have hturno := h.turno
  rw [hpc] at hturno
  have hcintas : ∀ i, CintaOrdenada N (s.control.cintaLlena i) (s.cintas i) (s.semaforos (i + 1))
      (s.escaner i) (decide ((buscarCinta S s.control.cintaLlena S s.proximaCintaAColocar).2 < S) &&
        (buscarCinta S s.control.cintaLlena S s.proximaCintaAColocar).1 == i) false (s.puestos i)
      (s.sacados i) := fun i => by
    have hi := h.cintas i
    simp only [Estado.Ordenada, Estado.eligio, Estado.marca, hpc, PcProductor.eligio,
      PcProductor.marca, Bool.false_and] at hi
    refine ⟨hi.fifo, hi.tamanio, hi.registrado, hi.sinRegistrar, fun he => ?_, nofun,
      hi.porLiberar, hi.lleno, hi.semaforo, hi.vacio⟩
    simp only [Bool.and_eq_true, decide_eq_true_eq, beq_iff_eq] at he
    obtain ⟨hlt, rfl⟩ := he
    exact buscarCinta_lt hlt
  unfold CintaScanner.buscar
  dsimp only
  split
  · rename_i hS
    refine ⟨hcand, hcintas, hrango, ?_, fun _ k hk => buscarCinta_todas hS h.proxima hk, h.fuera⟩
    simp only [Estado.irProductor, hS, lt_irrefl, decide_false, PcProductor.activo] at hturno ⊢
    simp only [Bool.toNat_true, Bool.toNat_false] at hturno ⊢
    omega
  · rename_i hS
    have hlt := lt_of_le_of_ne buscarCinta_le hS
    refine ⟨hcand, hcintas, hrango, ?_, h.dormido, h.fuera⟩
    simp only [Estado.irProductor, hlt, decide_true, PcProductor.activo] at hturno ⊢
    exact hturno

/-- The chosen belt as the producer finds it under its lock. -/
theorem Inv.elegida {equipaje : α} (h : Inv S N s) (hpc : s.productor = .colocando equipaje) :
    CintaOrdenada N (s.control.cintaLlena s.proximaCintaAColocar) (s.cintas s.proximaCintaAColocar)
      (s.semaforos (s.proximaCintaAColocar + 1)) (s.escaner s.proximaCintaAColocar) true false
      (s.puestos s.proximaCintaAColocar) (s.sacados s.proximaCintaAColocar) := by
  have hi := h.cintas s.proximaCintaAColocar
  simpa only [Estado.Ordenada, Estado.eligio, Estado.marca, hpc, PcProductor.eligio,
    PcProductor.marca, beq_self_eq_true, Bool.true_and, Bool.false_and] using hi

/-- A put that leaves the chosen belt in order leaves every belt in order. -/
theorem Inv.colocarEn {equipaje : α} {c : CintaEscaner α} {sem : Nat} {puestos : List α}
    (h : Inv S N s) (hpc : s.productor = .colocando equipaje)
    (hc : CintaOrdenada N (s.control.cintaLlena s.proximaCintaAColocar) c sem
      (s.escaner s.proximaCintaAColocar) false (decide (c.anillo.cantidad = N)) puestos
      (s.sacados s.proximaCintaAColocar)) :
    Inv S N { s with
      cintas := Function.update s.cintas s.proximaCintaAColocar c
      semaforos := Function.update s.semaforos (s.proximaCintaAColocar + 1) sem
      puestos := Function.update s.puestos s.proximaCintaAColocar puestos
      productor := if c.anillo.cantidad = N then .esperaControlLlena else .sueltaCinta } where
  candados := h.candados_irProductor _ _ fun l => by rw [hpc]; split <;> rfl
  cintas i := by
    have hi := h.cintas i
    simp only [Estado.Ordenada, Estado.eligio, Estado.marca, hpc, PcProductor.eligio,
      PcProductor.marca, Bool.true_and, Bool.false_and] at hi ⊢
    by_cases hip : i = s.proximaCintaAColocar
    · subst hip
      simp only [Function.update_self, beq_self_eq_true, Bool.and_true]
      by_cases hN : c.anillo.cantidad = N
      · simpa only [hN, if_true, decide_true] using hc
      · simpa only [hN, if_false, decide_false] using hc
    · have hne : i + 1 ≠ s.proximaCintaAColocar + 1 := by omega
      simp only [Function.update_of_ne hip, Function.update_of_ne hne,
        beq_false_of_ne (Ne.symm hip), Bool.and_false] at hi ⊢
      exact hi
  proxima := h.proxima
  turno := by
    have := h.turno
    rw [hpc] at this
    dsimp only
    rw [Function.update_of_ne (by omega)]
    split <;> exact this
  dormido := h.dormido
  fuera := h.fuera

theorem Inv.colocar {equipaje : α} (h : Inv S N s) (hpc : s.productor = .colocando equipaje) :
    Inv S N (colocar s equipaje) := by
  have hput := (h.elegida hpc).colocar equipaje
  have htam := (h.elegida hpc).tamanio
  unfold CintaScanner.colocar
  dsimp only at hput ⊢
  split at hput
  · rename_i hcond
    rw [if_pos hcond]
    have := h.colocarEn hpc hput
    simpa only [Estado.irProductor, Estado.cambiarCinta, Estado.signalize, Anillo.poner_tamanio,
      htam] using this
  · rename_i hcond
    rw [if_neg hcond]
    have := h.colocarEn hpc hput
    simpa only [Estado.irProductor, Estado.cambiarCinta, Anillo.poner_tamanio, htam,
      Function.update_eq_self] using this

theorem Inv.marcar (h : Inv S N s) (hpc : s.productor = .marcando) :
    Inv S N ((s.marcarLlena s.proximaCintaAColocar 1).irProductor .sueltaControlLlena) where
  candados := h.candados_irProductor _ _ fun l => by rw [hpc]; rfl
  cintas i := by
    have hi := h.cintas i
    simp only [Estado.Ordenada, Estado.eligio, Estado.marca, hpc, PcProductor.eligio,
      PcProductor.marca, Bool.true_and, Bool.false_and, Estado.marcarLlena,
      Estado.irProductor] at hi ⊢
    by_cases hip : i = s.proximaCintaAColocar
    · subst hip
      rw [beq_self_eq_true] at hi
      rw [Function.update_self]
      exact hi.marcar
    · rw [Function.update_of_ne hip]
      rwa [beq_false_of_ne (Ne.symm hip)] at hi
  proxima := h.proxima
  turno := by
    have := h.turno
    rw [hpc] at this
    exact this
  dormido h1 k hk := by
    by_cases hkp : k = s.proximaCintaAColocar
    · subst hkp
      simp [Estado.marcarLlena, Estado.irProductor]
    · simp only [Estado.marcarLlena, Estado.irProductor, Function.update_of_ne hkp]
      exact h.dormido h1 k hk
  fuera := h.fuera

theorem Inv.sueltaCinta (h : Inv S N s) (hpc : s.productor = .sueltaCinta) :
    Inv S N { (s.unlock (.cinta s.proximaCintaAColocar)).irProductor .senalando with
      proximaCintaAColocar := (s.proximaCintaAColocar + 1) % S } where
  candados := by
    refine h.candados.soltar (p := .productor) (l := .cinta s.proximaCintaAColocar) ?_
      (fun m => ?_) fun _ hq => tiene_productor s _ _ hq
    · simp [Estado.tiene, hpc, PcProductor.tiene]
    · simp [Estado.tiene, hpc, PcProductor.tiene, Estado.irProductor]
  cintas i := by
    have hi := h.cintas i
    simp only [Estado.Ordenada, Estado.eligio, Estado.marca, hpc, PcProductor.eligio,
      PcProductor.marca, Bool.false_and] at hi ⊢
    exact hi
  proxima := Nat.mod_lt _ (by have := h.proxima; omega)
  turno := by
    have := h.turno
    rw [hpc] at this
    exact this
  dormido := h.dormido
  fuera := h.fuera

theorem Inv.senalar (h : Inv S N s) (hpc : s.productor = .senalando) :
    Inv S N ((s.signalize 0).irProductor .reposo) where
  candados := h.candados_irProductor _ _ fun l => by rw [hpc]; rfl
  cintas i := by
    have hi := h.cintas i
    simp only [Estado.Ordenada, Estado.eligio, Estado.marca, hpc, PcProductor.eligio,
      PcProductor.marca, Bool.false_and, Estado.signalize, Estado.irProductor] at hi ⊢
    exact hi
  proxima := h.proxima
  turno := by
    have := h.turno
    simp only [hpc, PcProductor.activo, Estado.signalize, Estado.irProductor, Function.update_self,
      Bool.toNat_true, Bool.toNat_false] at this ⊢
    omega
  dormido := h.dormido
  fuera := h.fuera

/-- Passing `wait_on(0)`. -/
theorem Inv.espera {equipaje : α} (h : Inv S N s) (hpc : s.productor = .esperaSemaforo equipaje)
    (hw : (s.waitOn 0).map (fun s => s.irProductor (.esperaControl equipaje)) = some t) :
    Inv S N t := by
  obtain ⟨u, hu, rfl⟩ := Option.map_eq_some_iff.mp hw
  obtain ⟨hpos, rfl⟩ := waitOn_eq_some hu
  refine ⟨h.candados_irProductor _ _ fun l => by rw [hpc]; rfl, fun i => ?_, h.proxima, ?_, h.dormido,
    h.fuera⟩
  · have hi := h.cintas i
    simp only [Estado.Ordenada, Estado.eligio, Estado.marca, hpc, PcProductor.eligio,
      PcProductor.marca, Bool.false_and] at hi
    exact hi
  · have := h.turno
    simp only [hpc, PcProductor.activo, Estado.irProductor, Function.update_self, Bool.toNat_true,
      Bool.toNat_false] at this ⊢
    omega

theorem inv_pasoProductor (h : Inv S N s) (hs : pasoProductor S s = some t) : Inv S N t := by
  cases hpc : s.productor with
  | reposo => simp [pasoProductor, hpc] at hs
  | esperaSemaforo equipaje =>
    simp only [pasoProductor, hpc] at hs
    exact h.espera hpc hs
  | esperaControl equipaje =>
    simp only [pasoProductor, hpc] at hs
    exact h.tomaProductor hs (by rw [hpc]; rfl) (by rw [hpc]; rfl) (by rw [hpc]; rfl)
      fun m => by simp [hpc, PcProductor.tiene]
  | buscando equipaje =>
    simp only [pasoProductor, hpc] at hs
    cases hs
    exact h.buscar hpc
  | sueltaControl equipaje hayLugar =>
    simp only [pasoProductor, hpc] at hs
    cases hs
    refine h.sueltaProductor ?_ ?_ ?_ ?_ fun m => ?_ <;> rw [hpc] <;> cases hayLugar <;>
      simp [PcProductor.eligio, PcProductor.marca, PcProductor.activo, PcProductor.tiene]
  | esperaCinta equipaje =>
    simp only [pasoProductor, hpc] at hs
    exact h.tomaProductor hs (by rw [hpc]; rfl) (by rw [hpc]; rfl) (by rw [hpc]; rfl)
      fun m => by simp [hpc, PcProductor.tiene]
  | colocando equipaje =>
    simp only [pasoProductor, hpc] at hs
    cases hs
    exact h.colocar hpc
  | esperaControlLlena =>
    simp only [pasoProductor, hpc] at hs
    exact h.tomaProductor hs (by rw [hpc]; rfl) (by rw [hpc]; rfl) (by rw [hpc]; rfl)
      fun m => by simp [hpc, PcProductor.tiene]
  | marcando =>
    simp only [pasoProductor, hpc] at hs
    cases hs
    exact h.marcar hpc
  | sueltaControlLlena =>
    simp only [pasoProductor, hpc] at hs
    cases hs
    exact h.sueltaProductor (by rw [hpc]; rfl) (by rw [hpc]; rfl) (by rw [hpc]; rfl)
      (by simp [hpc, PcProductor.tiene]) fun m => by cases m <;> simp [hpc, PcProductor.tiene]
  | sueltaCinta =>
    simp only [pasoProductor, hpc] at hs
    cases hs
    exact h.sueltaCinta hpc
  | senalando =>
    simp only [pasoProductor, hpc] at hs
    cases hs
    exact h.senalar hpc

/-! ## The steps of a scanner -/

/-- Nobody holds what scanner `i` holds. -/
theorem Inv.candados_irEscaner (h : Inv S N s) (pc : PcEscaner α)
    (ht : ∀ l, pc.tiene i l = (s.escaner i).tiene i l) :
    Poseen s.dueno { s with escaner := Function.update s.escaner i pc }.tiene := by
  refine h.candados.congr (funext fun q => ?_)
  by_cases hq : q = .escaner i
  · subst hq
    funext l
    simp only [Estado.tiene, Function.update_self]
    exact ht l
  · exact tiene_escaner s i pc hq

/-- A scanner that has left `sinRegistrar` is one of the `S`. -/
theorem Inv.escaner_lt (h : Inv S N s) (hi : s.escaner i ≠ .sinRegistrar) : i < S :=
  Nat.lt_of_not_le fun hle => hi (h.fuera i hle)

theorem Inv.fueraEscaner (h : Inv S N s) (hi : i < S) (pc : PcEscaner α) :
    ∀ j, S ≤ j → Function.update s.escaner i pc j = .sinRegistrar := fun j hj =>
  (Function.update_of_ne (by omega) _ _).trans (h.fuera j hj)

/-- A step of scanner `i` that keeps its own belt in order keeps every belt in order. -/
theorem Inv.cintas_irEscaner (h : Inv S N s) (pc : PcEscaner α) {llena : Int} {c : CintaEscaner α}
    {sem : Nat} {sacados : List α}
    (hc : CintaOrdenada N llena c sem pc (s.eligio i) (s.marca i) (s.puestos i) sacados) (j : Nat) :
    CintaOrdenada N (Function.update s.control.cintaLlena i llena j)
      (Function.update s.cintas i c j) (Function.update s.semaforos (i + 1) sem (j + 1))
      (Function.update s.escaner i pc j) (s.eligio j) (s.marca j) (s.puestos j)
      (Function.update s.sacados i sacados j) := by
  by_cases hji : j = i
  · subst hji
    simpa only [Function.update_self] using hc
  · have hne : j + 1 ≠ i + 1 := by omega
    simp only [Function.update_of_ne hji, Function.update_of_ne hne]
    exact h.cintas j

theorem porSenalar_update (escaner : Nat → PcEscaner α) (hi : i < S) (pc : PcEscaner α) :
    porSenalar S (Function.update escaner i pc) + (escaner i).porSenalar =
      porSenalar S escaner + pc.porSenalar :=
  suma_update (fun _ pc => pc.porSenalar) escaner (Finset.mem_range.mpr hi) pc

theorem Inv.registrar (h : Inv S N s) (hpc : s.escaner i = .registrando) :
    Inv S N (registrar s i) := by
  have hi := h.escaner_lt (by rw [hpc]; nofun)
  have hreg := h.cintas i
  have hllena : s.control.cintaLlena i = -1 := hreg.registrado.mpr (by rw [hpc]; rfl)
  have hturno := h.turno
  unfold CintaScanner.registrar
  dsimp only
  rw [if_pos hllena]
  split
  · rename_i h1
    have hsum := porSenalar_update s.escaner hi (.sueltaControlRegistro true)
    have hc := h.cintas_irEscaner (.sueltaControlRegistro true)
      (hreg.registrar (by rw [hpc]; rfl) rfl rfl (by rw [hpc]; rfl))
    simp only [Function.update_eq_self] at hc
    refine ⟨h.candados_irEscaner _ fun l => by rw [hpc]; rfl, hc, h.proxima, ?_, nofun,
      h.fueraEscaner hi _⟩
    simp only [Estado.marcarLlena, Estado.irEscaner, hpc, PcEscaner.porSenalar] at h1 hsum ⊢
    omega
  · rename_i h1
    have hsum := porSenalar_update s.escaner hi (.sueltaControlRegistro false)
    have hc := h.cintas_irEscaner (.sueltaControlRegistro false)
      (hreg.registrar (by rw [hpc]; rfl) rfl rfl (by rw [hpc]; rfl))
    simp only [Function.update_eq_self] at hc
    refine ⟨h.candados_irEscaner _ fun l => by rw [hpc]; rfl, hc, h.proxima, ?_,
      fun h2 => absurd h2 h1, h.fueraEscaner hi _⟩
    simp only [Estado.marcarLlena, Estado.irEscaner, hpc, PcEscaner.porSenalar] at h1 hsum ⊢
    omega

theorem Inv.senalarRegistro (h : Inv S N s) (hpc : s.escaner i = .senalandoRegistro) :
    Inv S N ((s.signalize 0).irEscaner i .reposo) := by
  have hi := h.escaner_lt (by rw [hpc]; nofun)
  have hsum := porSenalar_update s.escaner hi .reposo
  have hturno := h.turno
  have hc := h.cintas_irEscaner (.reposo)
    ((h.cintas i).congr (by rw [hpc]; rfl) (by rw [hpc]; rfl) (by rw [hpc]; rfl))
  simp only [Function.update_eq_self] at hc
  refine ⟨h.candados_irEscaner _ fun l => by rw [hpc]; rfl, hc, h.proxima, ?_, h.dormido,
    h.fueraEscaner hi _⟩
  simp only [Estado.signalize, Estado.irEscaner, hpc, PcEscaner.porSenalar,
    Function.update_self] at hsum ⊢
  omega

/-- Under the lock of its belt the scanner does not find the producer between filling and marking. -/
theorem Inv.sin_marca (h : Inv S N s) (ht : (s.escaner i).tiene i (.cinta i) = true) :
    s.marca i = false := by
  by_contra hm
  simp only [Estado.marca, Bool.not_eq_false, Bool.and_eq_true, beq_iff_eq] at hm
  obtain ⟨hm, rfl⟩ := hm
  have hp : s.tiene .productor (.cinta s.proximaCintaAColocar) = true := by
    unfold Estado.tiene
    cases hpc : s.productor <;> simp_all [PcProductor.marca, PcProductor.tiene]
  have he : s.tiene (.escaner s.proximaCintaAColocar) (.cinta s.proximaCintaAColocar) = true := ht
  cases h.candados.exclusivo hp he

theorem Inv.esperaEscaner (h : Inv S N s) (hpc : s.escaner i = .esperaSemaforo)
    (hw : (s.waitOn (i + 1)).map (fun s => s.irEscaner i .esperaCinta) = some t) : Inv S N t := by
  obtain ⟨u, hu, rfl⟩ := Option.map_eq_some_iff.mp hw
  obtain ⟨hpos, rfl⟩ := waitOn_eq_some hu
  have hi := h.escaner_lt (by rw [hpc]; nofun)
  have hsum := porSenalar_update s.escaner hi .esperaCinta
  have hturno := h.turno
  have hc := h.cintas_irEscaner (.esperaCinta)
    ((h.cintas i).waitOn hpos (by rw [hpc]; rfl) (by rw [hpc]; rfl) rfl)
  simp only [Function.update_eq_self] at hc
  refine ⟨h.candados_irEscaner _ fun l => by rw [hpc]; rfl, hc, h.proxima, ?_, h.dormido,
    h.fueraEscaner hi _⟩
  have hne : 0 ≠ i + 1 := by omega
  simp only [Estado.irEscaner, hpc, PcEscaner.porSenalar, Function.update_of_ne hne] at hsum ⊢
  omega

theorem Inv.extraer (h : Inv S N s) (hpc : s.escaner i = .extrayendo) :
    Inv S N (extraer s i) := by
  have hi := h.escaner_lt (by rw [hpc]; nofun)
  have hturno := h.turno
  have hbelt := h.cintas i
  have hmarca := h.sin_marca (i := i) (by rw [hpc]; simp [PcEscaner.tiene])
  unfold CintaScanner.extraer
  dsimp only
  split
  · rename_i h0
    have htam := hbelt.tamanio
    set pc : PcEscaner α :=
      if (s.cintas i).anillo.quitar.cantidad = ((s.cintas i).anillo.quitar.tamanio : Int) - 1 then
        .esperaControl (s.cintas i).anillo.frente
      else .terminando (some (s.cintas i).anillo.frente) with hpcdef
    have hpr : pc.registrado = true := by rw [hpcdef]; split <;> rfl
    have hpa : pc.activo = true := by rw [hpcdef]; split <;> rfl
    have hps : pc.porSenalar = 0 := by rw [hpcdef]; split <;> rfl
    have hpl : pc.libera = decide ((s.cintas i).anillo.quitar.cantidad = (N : Int) - 1) := by
      rw [hpcdef, Anillo.quitar_tamanio, htam]
      split <;> simp_all [PcEscaner.libera]
    have hc := h.cintas_irEscaner _ (CintaOrdenada.extraer (f := pc) hbelt hmarca h0
      (by rw [hpc]; rfl) (by rw [hpc]; rfl) (by rw [hpc, hpr]; rfl) (by rw [hpc, hpa]; rfl) hpl)
    simp only [Function.update_eq_self] at hc
    have hsum := porSenalar_update s.escaner hi pc
    refine ⟨h.candados_irEscaner _ fun l => ?_, hc, h.proxima, ?_, h.dormido, h.fueraEscaner hi _⟩
    · rw [hpc, hpcdef]
      split <;> rfl
    · rw [hps, hpc] at hsum
      simp only [Estado.cambiarCinta, Estado.irEscaner, PcEscaner.porSenalar] at hsum ⊢
      omega
  · have hc := h.cintas_irEscaner (.terminando none)
      (hbelt.congr (by rw [hpc]; rfl) (by rw [hpc]; rfl) (by rw [hpc]; rfl))
    simp only [Function.update_eq_self] at hc
    have hsum := porSenalar_update s.escaner hi (.terminando none)
    refine ⟨h.candados_irEscaner _ fun l => by rw [hpc]; rfl, hc, h.proxima, ?_, h.dormido,
      h.fueraEscaner hi _⟩
    simp only [Estado.irEscaner, hpc, PcEscaner.porSenalar] at hsum ⊢
    omega

theorem Inv.liberar {elemento : α} (h : Inv S N s) (hpc : s.escaner i = .liberando elemento) :
    Inv S N (liberar s i elemento) := by
  have hi := h.escaner_lt (by rw [hpc]; nofun)
  have hturno := h.turno
  have hbelt := h.cintas i
  have hsum := porSenalar_update s.escaner hi (.sueltaControl elemento)
  -- the scanner is the only one that unmarks its belt
  have hllena : s.control.cintaLlena i = 1 := (hbelt.porLiberar (by rw [hpc]; rfl)).1
  have hc := h.cintas_irEscaner (.sueltaControl elemento)
    (hbelt.liberar (by rw [hpc]; rfl) rfl rfl (by rw [hpc]; rfl))
  simp only [Function.update_eq_self] at hc
  have hcand := h.candados_irEscaner (.sueltaControl elemento)
    fun l => by rw [hpc]; rfl
  unfold CintaScanner.liberar
  dsimp only
  rw [if_pos hllena]
  split
  · rename_i h1
    refine ⟨hcand, hc, h.proxima, ?_, nofun, h.fueraEscaner hi _⟩
    simp only [Estado.marcarLlena, Estado.signalize, Estado.irEscaner, hpc, PcEscaner.porSenalar,
      Function.update_self] at h1 hsum ⊢
    omega
  · rename_i h1
    refine ⟨hcand, hc, h.proxima, ?_, fun h2 => absurd h2 h1, h.fueraEscaner hi _⟩
    simp only [Estado.marcarLlena, Estado.irEscaner, hpc, PcEscaner.porSenalar] at h1 hsum ⊢
    omega

theorem Inv.terminar {extrajo : Option α} (h : Inv S N s)
    (hpc : s.escaner i = .terminando extrajo) : Inv S N (terminar s i extrajo) := by
  have hi := h.escaner_lt (by rw [hpc]; nofun)
  have hturno := h.turno
  have hsum := porSenalar_update s.escaner hi (.sueltaCinta extrajo)
  have hbelt := (h.cintas i).terminar (f := .sueltaCinta extrajo) (by rw [hpc]; rfl)
    (by rw [hpc]; rfl) (by rw [hpc]; rfl) rfl
  have hcand := h.candados_irEscaner (.sueltaCinta extrajo) fun l => by rw [hpc]; rfl
  unfold CintaScanner.terminar
  dsimp only
  split at hbelt
  · rename_i h0
    rw [if_pos h0]
    have hc := h.cintas_irEscaner _ hbelt
    simp only [Function.update_eq_self] at hc
    refine ⟨hcand, hc, h.proxima, ?_, h.dormido, h.fueraEscaner hi _⟩
    simp only [Estado.cambiarCinta, Estado.irEscaner, hpc, PcEscaner.porSenalar] at hsum ⊢
    omega
  · rename_i h0
    rw [if_neg h0]
    have hc := h.cintas_irEscaner _ hbelt
    simp only [Function.update_eq_self] at hc
    refine ⟨hcand, hc, h.proxima, ?_, h.dormido, h.fueraEscaner hi _⟩
    have hne : 0 ≠ i + 1 := by omega
    simp only [Estado.signalize, Estado.irEscaner, hpc, PcEscaner.porSenalar,
      Function.update_of_ne hne] at hsum ⊢
    omega

theorem inv_pasoEscaner (h : Inv S N s) (hs : pasoEscaner s i = some t) : Inv S N t := by
  cases hpc : s.escaner i with
  | sinRegistrar => simp [pasoEscaner, hpc] at hs
  | esperaControlRegistro =>
    simp only [pasoEscaner, hpc] at hs
    exact h.tomaEscaner hs (h.escaner_lt (by rw [hpc]; nofun)) (by rw [hpc]; rfl) (by rw [hpc]; rfl)
      (by rw [hpc]; rfl) (by rw [hpc]; rfl) fun m => by simp [hpc, PcEscaner.tiene]
  | registrando =>
    simp only [pasoEscaner, hpc] at hs
    cases hs
    exact h.registrar hpc
  | sueltaControlRegistro despierta =>
    simp only [pasoEscaner, hpc] at hs
    cases hs
    have hi := h.escaner_lt (i := i) (by rw [hpc]; nofun)
    cases despierta
    · exact h.sueltaEscaner hi (by rw [hpc]; rfl) (by rw [hpc]; rfl) (by rw [hpc]; rfl)
        (by rw [hpc]; rfl) (by simp [hpc, PcEscaner.tiene]) fun m => by simp [hpc, PcEscaner.tiene]
    · exact h.sueltaEscaner hi (by rw [hpc]; rfl) (by rw [hpc]; rfl) (by rw [hpc]; rfl)
        (by rw [hpc]; rfl) (by simp [hpc, PcEscaner.tiene]) fun m => by simp [hpc, PcEscaner.tiene]
  | senalandoRegistro =>
    simp only [pasoEscaner, hpc] at hs
    cases hs
    exact h.senalarRegistro hpc
  | reposo => simp [pasoEscaner, hpc] at hs
  | esperaSemaforo =>
    simp only [pasoEscaner, hpc] at hs
    exact h.esperaEscaner hpc hs
  | esperaCinta =>
    simp only [pasoEscaner, hpc] at hs
    exact h.tomaEscaner hs (h.escaner_lt (by rw [hpc]; nofun)) (by rw [hpc]; rfl) (by rw [hpc]; rfl)
      (by rw [hpc]; rfl) (by rw [hpc]; rfl) fun m => by simp [hpc, PcEscaner.tiene]
  | extrayendo =>
    simp only [pasoEscaner, hpc] at hs
    cases hs
    exact h.extraer hpc
  | esperaControl elemento =>
    simp only [pasoEscaner, hpc] at hs
    exact h.tomaEscaner hs (h.escaner_lt (by rw [hpc]; nofun)) (by rw [hpc]; rfl) (by rw [hpc]; rfl)
      (by rw [hpc]; rfl) (by rw [hpc]; rfl) fun m => by simp [hpc, PcEscaner.tiene]
  | liberando elemento =>
    simp only [pasoEscaner, hpc] at hs
    cases hs
    exact h.liberar hpc
  | sueltaControl elemento =>
    simp only [pasoEscaner, hpc] at hs
    cases hs
    exact h.sueltaEscaner (h.escaner_lt (by rw [hpc]; nofun)) (by rw [hpc]; rfl) (by rw [hpc]; rfl)
      (by rw [hpc]; rfl) (by rw [hpc]; rfl) (by simp [hpc, PcEscaner.tiene])
      fun m => by cases m <;> simp [hpc, PcEscaner.tiene]
  | terminando extrajo =>
    simp only [pasoEscaner, hpc] at hs
    cases hs
    exact h.terminar hpc
  | sueltaCinta extrajo =>
    simp only [pasoEscaner, hpc] at hs
    cases hs
    have hi := h.escaner_lt (i := i) (by rw [hpc]; nofun)
    split
    · exact h.sueltaEscaner hi (by rw [hpc]; rfl) (by rw [hpc]; rfl) (by rw [hpc]; rfl)
        (by rw [hpc]; rfl) (by simp [hpc, PcEscaner.tiene]) fun m => by simp [hpc, PcEscaner.tiene]
    · exact h.sueltaEscaner hi (by rw [hpc]; rfl) (by rw [hpc]; rfl) (by rw [hpc]; rfl)
        (by rw [hpc]; rfl) (by simp [hpc, PcEscaner.tiene]) fun m => by simp [hpc, PcEscaner.tiene]

/-! ## Every run -/

theorem inv_paso {ev : Evento α} (h : Inv S N s) (hs : paso S s ev = some t) : Inv S N t := by
  cases ev with
  | ponerEquipaje equipaje =>
    simp only [paso] at hs
    split at hs <;> cases hs
    rename_i hpc
    exact h.mueveProductor (by rw [hpc]; rfl) (by rw [hpc]; rfl) (by rw [hpc]; rfl)
      (h.candados_irProductor _ _ fun l => by rw [hpc]; rfl)
  | productor => exact inv_pasoProductor h hs
  | construir i =>
    simp only [paso] at hs
    split at hs <;> [split at hs; skip] <;> cases hs
    rename_i hpc hi
    exact h.mueveEscaner hi (by rw [hpc]; rfl) (by rw [hpc]; rfl) (by rw [hpc]; rfl)
      (by rw [hpc]; rfl) (h.candados_irEscaner _ fun l => by rw [hpc]; rfl)
  | sacarEquipaje i =>
    simp only [paso] at hs
    split at hs <;> cases hs
    rename_i hpc
    exact h.mueveEscaner (h.escaner_lt (by rw [hpc]; nofun)) (by rw [hpc]; rfl) (by rw [hpc]; rfl)
      (by rw [hpc]; rfl) (by rw [hpc]; rfl) (h.candados_irEscaner _ fun l => by rw [hpc]; rfl)
  | escaner i => exact inv_pasoEscaner h hs

theorem alcanza_inv {ranura : Nat → α} (hS : 1 ≤ S) (hN : 1 ≤ N)
    (h : Alcanza (paso S) (inicial N ranura) s) : Inv S N s :=
  h.induccion (inv_inicial hS hN ranura) fun _ _ _ => inv_paso

/-! ## The luggage -/

theorem waitOn_puestos {k : Nat} (h : s.waitOn k = some t) : t.puestos = s.puestos := by
  obtain ⟨-, rfl⟩ := waitOn_eq_some h
  rfl

theorem lock_puestos {l : Candado} {p : Proceso} (h : s.lock l p = some t) :
    t.puestos = s.puestos := by
  obtain ⟨d, -, rfl⟩ := Option.map_eq_some_iff.mp h
  rfl

theorem pasoEscaner_puestos (hs : pasoEscaner s i = some t) : t.puestos = s.puestos := by
  cases hpc : s.escaner i <;>
    simp only [pasoEscaner, hpc, Option.map_eq_some_iff, Option.some.injEq, reduceCtorEq] at hs
  case esperaSemaforo =>
    obtain ⟨u, hu, rfl⟩ := hs
    exact (waitOn_puestos hu :)
  case esperaControlRegistro | esperaCinta | esperaControl =>
    obtain ⟨u, hu, rfl⟩ := hs
    exact (lock_puestos hu :)
  all_goals
    subst hs
    grind [registrar, extraer, liberar, terminar, Estado.irEscaner, Estado.unlock,
      Estado.marcarLlena, Estado.signalize, Estado.cambiarCinta]

/-- Luggage is put on the belt the producer has chosen and locked, and nowhere else. -/
theorem pasoProductor_puestos (hs : pasoProductor S s = some t) (i : Nat) :
    t.puestos i = s.puestos i ∨
      ∃ equipaje, s.productor = .colocando equipaje ∧ s.proximaCintaAColocar = i := by
  cases hpc : s.productor <;>
    simp only [pasoProductor, hpc, Option.map_eq_some_iff, Option.some.injEq, reduceCtorEq] at hs
  case esperaSemaforo =>
    obtain ⟨u, hu, rfl⟩ := hs
    exact .inl (congrFun (waitOn_puestos hu) i)
  case esperaControl | esperaCinta | esperaControlLlena =>
    obtain ⟨u, hu, rfl⟩ := hs
    exact .inl (congrFun (lock_puestos hu) i)
  case colocando equipaje =>
    by_cases hip : s.proximaCintaAColocar = i
    · exact .inr ⟨equipaje, rfl, hip⟩
    · left
      subst hs
      unfold CintaScanner.colocar
      dsimp only
      split <;> exact Function.update_of_ne (Ne.symm hip) _ _
  case buscando equipaje =>
    left
    subst hs
    unfold CintaScanner.buscar
    dsimp only
    split <;> rfl
  all_goals
    subst hs
    exact .inl rfl

theorem paso_puestos {ev : Evento α} (hs : paso S s ev = some t) (i : Nat) :
    t.puestos i = s.puestos i ∨
      ∃ equipaje, s.productor = .colocando equipaje ∧ s.proximaCintaAColocar = i := by
  cases ev with
  | ponerEquipaje equipaje =>
    simp only [paso] at hs
    split at hs <;> cases hs
    exact .inl rfl
  | productor => exact pasoProductor_puestos hs i
  | construir i =>
    simp only [paso] at hs
    split at hs <;> [split at hs; skip] <;> cases hs
    exact .inl rfl
  | sacarEquipaje i =>
    simp only [paso] at hs
    split at hs <;> cases hs
    exact .inl rfl
  | escaner j => exact .inl (congrFun (pasoEscaner_puestos hs) i)

/-- A distributor with `S` belts of capacity `N` that has overfilled, lost, duplicated and reordered
    nothing.  Belt `i` is outside its critical sections when nobody holds its lock. -/
structure SinPerdidas (S N : Nat) (s : Estado α) : Prop where
  cabe : ∀ i < S, (s.cintas i).anillo.cantidad ≤ N
  soloRegistradas : ∀ i ev t, paso S s ev = some t → t.puestos i ≠ s.puestos i →
    (s.escaner i).registrado = true
  llena : ∀ i < S, s.dueno (.cinta i) = none →
    (s.control.cintaLlena i = 1 ↔ (s.cintas i).anillo.cantidad = N)
  sinRegistrar : ∀ i < S, s.control.cintaLlena i = -1 ↔ (s.escaner i).registrado = false
  historia : ∀ i < S, s.sacados i ++ (s.cintas i).anillo.contenido = s.puestos i

/-- Between its sections a belt is neither filled and unmarked nor emptied and marked. -/
theorem Inv.llena_iff (h : Inv S N s) (hlibre : s.dueno (.cinta i) = none) :
    s.control.cintaLlena i = 1 ↔ (s.cintas i).anillo.cantidad = N := by
  have hsuelta : ∀ p, s.tiene p (.cinta i) = false := fun p => by
    by_contra hp
    have := (h.candados (.cinta i) p).mpr (by simpa using hp)
    rw [hlibre] at this
    cases this
  refine (h.cintas i).lleno ?_ ?_
  · have hp := hsuelta .productor
    by_contra hm
    simp only [Estado.marca, Bool.not_eq_false, Bool.and_eq_true, beq_iff_eq] at hm
    obtain ⟨hm, rfl⟩ := hm
    unfold Estado.tiene at hp
    cases hpc : s.productor <;> simp_all [PcProductor.marca, PcProductor.tiene]
  · have he := hsuelta (.escaner i)
    by_contra hl
    unfold Estado.tiene at he
    cases hpc : s.escaner i <;> simp_all [PcEscaner.libera, PcEscaner.tiene]

/-- The scanner belts never overfill, lose, duplicate or reorder luggage, under every interleaving
    of the producer and the scanners. -/
theorem cinta_scanner_sin_perdidas (ranura : Nat → α) (hS : 1 ≤ S) (hN : 1 ≤ N)
    (h : Alcanza (paso S) (inicial N ranura) s) : SinPerdidas S N s := by
  have hinv := alcanza_inv hS hN h
  refine ⟨fun i _ => ?_, fun i ev t hs hne => ?_, fun i _ hlibre => hinv.llena_iff hlibre,
    fun i _ => (hinv.cintas i).registrado, fun i _ => (hinv.cintas i).fifo.historia⟩
  · have := (hinv.cintas i).fifo.valido.cabe
    rwa [(hinv.cintas i).tamanio] at this
  · obtain heq | ⟨equipaje, hpc, rfl⟩ := paso_puestos hs i
    · exact absurd heq hne
    · have hbelt := hinv.elegida hpc
      have h0 := hbelt.elegida rfl
      by_contra hreg
      have := hbelt.registrado.mpr (by simpa using hreg)
      omega

/-- The theorem at two belts of one slot of which the second has registered and been filled. -/
theorem cinta_scanner_sin_perdidas_dos_cintas :
    ∃ s : Estado Nat, s.puestos 1 = [7] ∧ s.control.cintaLlena 1 = 1 ∧ SinPerdidas 2 1 s :=
  ⟨_, rfl, rfl, cinta_scanner_sin_perdidas (fun _ => 0) (by decide) (by decide)
    ⟨[.construir 1, .escaner 1, .escaner 1, .escaner 1, .ponerEquipaje 7, .productor, .productor,
      .productor, .productor, .productor, .productor, .productor, .productor, .productor], rfl⟩⟩

/-! ## The wake-ups -/

/-- Belts are locked before the control image. -/
def rango : Candado → Nat
  | .cinta _ => 0
  | .control => 1

theorem enOrden (s : Estado α) : EnOrden rango s.tiene s.pide := by
  intro p l m hl hm
  cases p with
  | productor =>
    simp only [Estado.pide, Estado.tiene] at hl hm
    cases hpc : s.productor <;> rw [hpc] at hl hm <;>
      grind [PcProductor.pide, PcProductor.tiene, rango]
  | escaner i =>
    simp only [Estado.pide, Estado.tiene] at hl hm
    cases hpc : s.escaner i <;> rw [hpc] at hl hm <;>
      grind [PcEscaner.pide, PcEscaner.tiene, rango]

/-- A distributor on which no wake-up is lost and no processes wait for each other's locks.
    `porSenalar` counts the constructors between clearing `control_productor_esperando` and their
    `signalize(0)`. -/
structure SinDespertarPerdido (S : Nat) (s : Estado α) : Prop where
  productor : s.semaforos 0 + s.productor.activo.toNat + s.control.productorEsperando +
    porSenalar S s.escaner = 1
  escaner : ∀ i < S, (s.escaner i).registrado = true →
    s.semaforos (i + 1) + (s.escaner i).activo.toNat + (s.cintas i).consumidorEsperando = 1
  dormido : s.control.productorEsperando = 1 → ∀ i < S, s.control.cintaLlena i ≠ 0
  vacio : ∀ i < S, (s.cintas i).consumidorEsperando = 1 → (s.cintas i).anillo.cantidad = 0
  sinAbrazo : ∀ i l m, ¬ (s.pide .productor = some l ∧ s.dueno l = some (.escaner i) ∧
    s.pide (.escaner i) = some m ∧ s.dueno m = some .productor)

theorem cinta_scanner_sin_despertar_perdido (ranura : Nat → α) (hS : 1 ≤ S) (hN : 1 ≤ N)
    (h : Alcanza (paso S) (inicial N ranura) s) : SinDespertarPerdido S s := by
  have hinv := alcanza_inv hS hN h
  refine ⟨hinv.turno, fun i _ _ => (hinv.cintas i).semaforo, hinv.dormido,
    fun i _ => (hinv.cintas i).vacio, ?_⟩
  rintro i l m ⟨hl, hdl, hm, hdm⟩
  have hida : Aguarda s.dueno s.pide .productor (.escaner i) := ⟨l, hl, hdl⟩
  have hvuelta : Aguarda s.dueno s.pide (.escaner i) .productor := ⟨m, hm, hdm⟩
  exact sin_abrazo_mortal hinv.candados (enOrden s) .productor
    (.tail (.single hida) hvuelta)

/-- The theorem at one belt whose producer has parked before the scanner registered. -/
theorem cinta_scanner_sin_despertar_perdido_una_cinta :
    ∃ s : Estado Nat, s.control.productorEsperando = 1 ∧ SinDespertarPerdido 1 s :=
  ⟨_, rfl, cinta_scanner_sin_despertar_perdido (N := 1) (fun _ => 0) (by decide)
    (by decide)
    ⟨[.ponerEquipaje 7, .productor, .productor, .productor, .productor, .construir 0], rfl⟩⟩

/-- Without `porSenalar` the sum is 0 after the constructor has cleared the flag and given the
    control image back: the producer is neither active nor flagged and its semaphore is down. -/
theorem cinta_scanner_despertar_en_camino :
    ¬ ∀ (S N : Nat) (s : Estado Nat), 1 ≤ S → 1 ≤ N →
      Alcanza (paso S) (inicial N fun _ => 0) s →
      s.semaforos 0 + s.productor.activo.toNat + s.control.productorEsperando = 1 := by
  intro h
  have := h 1 1 _ (by decide) (by decide)
    ⟨[.ponerEquipaje 7, .productor, .productor, .productor, .productor, .construir 0,
      .escaner 0, .escaner 0, .escaner 0], rfl⟩
  revert this
  decide

end CintaScanner
