import Mathlib.Algebra.Ring.Nat
import Aeropuerto.Broker.RecepcionToken

/-!
# When a replica is installed (`GroupReceiver::procesar_memory_update`)

The blocks of an image of the memory arrive one after the other.  The source discards a block that comes
in its turn and copies the others, so what installs a replica is a stretch of blocks none of which has
the number of those copied before it.
-/

namespace Replica

open Flujo
open Fragmentacion (dataSize)
open RecepcionToken

variable {s : Nat}

def memoryUpdate (b : Bloque s) : TransferenciaToken.Mensaje := ⟨.memoryUpdate, b.numero, s, b.data⟩

/-- `procesar_memory_update` for each message, with everything that is forwarded. -/
def recibir (r : Receptor s) : List (Bloque s) → Except Falla (Receptor s × List TransferenciaToken.Mensaje)
  | [] => .ok (r, [])
  | b :: bs => do
    let (r, reenviados) ← r.procesarMemoryUpdate (memoryUpdate b)
    let (r, mas) ← recibir r bs
    return (r, reenviados ++ mas)

/-- An image of the memory and its blocks, in order. -/
structure Actualizacion (s : Nat) where
  imagen : Bufer UInt8 s
  bloques : List (Bloque s)
  numeros : bloques.map Bloque.numero = List.range (bloquesPorToken s)
  datos : ∀ i b, bloques[i]? = some b → Tiene imagen.datos i b

def Actualizacion.bloque (imagen : Bufer UInt8 s) (i : Nat) (h : i < bloquesPorToken s) : Bloque s where
  numero := i
  data := ⟨(imagen.datos.drop (i * dataSize)).takeD dataSize 0, List.takeD_length _ _ _⟩
  hay := h

theorem take_takeD {α : Type*} (x : α) : ∀ (m n : Nat) (l : List α), m ≤ l.length → m ≤ n →
    (l.takeD n x).take m = l.take m
  | 0, _, _, _, _ => by rw [List.take_zero, List.take_zero]
  | m + 1, n + 1, a :: l, hl, hn => by
    rw [List.takeD_succ, List.take_succ_cons, List.take_succ_cons]
    exact congrArg _ (take_takeD x m n l (Nat.le_of_succ_le_succ hl) (Nat.le_of_succ_le_succ hn))

theorem tiene_bloque (imagen : Bufer UInt8 s) (i : Nat) (h : i < bloquesPorToken s) :
    Tiene imagen.datos i (Actualizacion.bloque imagen i h) := by
  refine (take_takeD 0 _ _ _ ?_ (Nat.min_le_right _ _)).symm
  rw [List.length_drop, imagen.largo]
  exact Nat.min_le_left _ _

/-- Every image can be sent. -/
def Actualizacion.de (imagen : Bufer UInt8 s) : Actualizacion s where
  imagen := imagen
  bloques := (List.range (bloquesPorToken s)).pmap (bloque imagen) fun _ h => List.mem_range.mp h
  numeros := by
    rw [List.map_pmap]
    exact (List.pmap_eq_map _).trans (List.map_id _)
  datos := by
    intro i b hb
    rw [List.getElem?_pmap, Option.pmap_eq_some_iff] at hb
    obtain ⟨j, hj, hrango, rfl⟩ := hb
    obtain ⟨hi, hij⟩ := List.getElem?_eq_some_iff.mp hrango
    rw [List.getElem_range] at hij
    subst hij
    exact tiene_bloque imagen _ hj

/-- The blocks between a block 0 and the next one. -/
structure Secuencia (s : Nat) where
  primero : Bloque s
  resto : List (Bloque s)
  cero : primero.numero = 0
  noCero : ∀ b ∈ resto, b.numero ≠ 0

namespace Secuencia

/-- The numbers of the blocks after block 0. -/
def numeros (q : Secuencia s) : List Nat := q.resto.map Bloque.numero

/-- No block is missing or out of order up to the end of the image. -/
def EnOrden (q : Secuencia s) : Prop := List.range (bloquesPorToken s) <+: 0 :: q.numeros

end Secuencia

/-- After the messages of `previas`, the update is installed: the image is in `data_token`, and each of
    its blocks has been forwarded once by a broker that is not the leader. -/
def Instala (r : Receptor s) (previas : List (Bloque s)) (a : Actualizacion s) : Prop :=
  ∃ r₁ f₁ r₂ f₂, recibir r previas = .ok (r₁, f₁) ∧ recibir r₁ a.bloques = .ok (r₂, f₂) ∧
    r₂.replicaOk = true ∧ r₂.dataToken = a.imagen ∧
    f₂ = if r.leader then [] else a.bloques.map memoryUpdate

/-- After the messages of `previas`, a sequence in which a block is missing or out of order does not set
    `replica_ok`. -/
def NoAdelanta (r : Receptor s) (previas : List (Bloque s)) (q : Secuencia s) : Prop :=
  ¬q.EnOrden → ∀ vistos, vistos <+: q.resto → ∃ r' f,
    recibir r (previas ++ q.primero :: vistos) = .ok (r', f) ∧ r'.replicaOk = false

/-! ## Stretches of blocks -/

/-- None of the blocks is in its turn. -/
def Libre (tramo : List Nat) : Prop := ∀ i : Nat, tramo[i]? ≠ some i

/-- Stretches that a block in its turn has closed. -/
inductive Cerrados : List Nat → Prop where
  | nil : Cerrados []
  | tramo {antes tramo : List Nat} : Cerrados antes → Libre tramo →
      Cerrados (antes ++ tramo ++ [tramo.length])

/-- A stretch without a block in its turn is as long as an image of `s` bytes. -/
def Completa (s : Nat) (numeros : List Nat) : Prop :=
  ∃ antes tramo despues, numeros = antes ++ tramo ++ despues ∧ Cerrados antes ∧ Libre tramo ∧
    tramo ≠ [] ∧ s ≤ tramo.length * dataSize % 2 ^ 64

/-- The length of the stretch that is open after the blocks. -/
def abierto (numeros : List Nat) : Nat := numeros.foldl (fun c n => if n = c then 0 else c + 1) 0

theorem abierto_snoc (numeros : List Nat) (n : Nat) :
    abierto (numeros ++ [n]) = if n = abierto numeros then 0 else abierto numeros + 1 := by
  rw [abierto, List.foldl_append]
  rfl

theorem libre_nil : Libre [] := by
  intro i h
  cases h

theorem libre_snoc {tramo : List Nat} {n : Nat} :
    Libre (tramo ++ [n]) ↔ Libre tramo ∧ n ≠ tramo.length := by
  constructor
  · intro h
    refine ⟨fun i hi => h i ?_, ?_⟩
    · have hlt := (List.getElem?_eq_some_iff.mp hi).1
      rw [List.getElem?_append_left hlt, hi]
    · rintro rfl
      exact h tramo.length List.getElem?_concat_length
  · rintro ⟨hlibre, hn⟩ i hi
    rcases getElem?_snoc hi with ⟨-, h⟩ | ⟨rfl, rfl⟩
    · exact hlibre i h
    · exact hn rfl

theorem abierto_libre {antes tramo : List Nat} (h : abierto antes = 0) (hlibre : Libre tramo) :
    abierto (antes ++ tramo) = tramo.length := by
  induction tramo using List.reverseRecOn with
  | nil => rw [List.append_nil, h, List.length_nil]
  | append_singleton tramo n ih =>
    obtain ⟨htramo, hn⟩ := libre_snoc.mp hlibre
    rw [← List.append_assoc, abierto_snoc, ih htramo, if_neg hn, List.length_append,
      List.length_singleton]

theorem abierto_cerrados {antes : List Nat} (h : Cerrados antes) : abierto antes = 0 := by
  induction h with
  | nil => rfl
  | tramo _ hlibre ih => rw [abierto_snoc, abierto_libre ih hlibre, if_pos rfl]

/-- The blocks are closed stretches and an open one. -/
theorem exists_abierto (numeros : List Nat) : ∃ antes tramo, numeros = antes ++ tramo ∧
    Cerrados antes ∧ Libre tramo ∧ tramo.length = abierto numeros := by
  induction numeros using List.reverseRecOn with
  | nil => exact ⟨[], [], rfl, .nil, libre_nil, rfl⟩
  | append_singleton numeros n ih =>
    obtain ⟨antes, tramo, rfl, hantes, hlibre, hlargo⟩ := ih
    rw [abierto_snoc, ← hlargo]
    by_cases hn : n = tramo.length
    · rw [if_pos hn, hn]
      exact ⟨_, [], (List.append_nil _).symm, hantes.tramo hlibre, libre_nil, rfl⟩
    · rw [if_neg hn]
      refine ⟨antes, tramo ++ [n], List.append_assoc _ _ _, hantes, libre_snoc.mpr ⟨hlibre, hn⟩, ?_⟩
      rw [List.length_append, List.length_singleton]

theorem completa_iff {numeros : List Nat} : Completa s numeros ↔
    ∃ vistos, vistos <+: numeros ∧ 0 < abierto vistos ∧ s ≤ abierto vistos * dataSize % 2 ^ 64 := by
  constructor
  · rintro ⟨antes, tramo, despues, rfl, hantes, hlibre, hno, hs⟩
    have hlargo := abierto_libre (abierto_cerrados hantes) hlibre
    refine ⟨antes ++ tramo, List.prefix_append _ _, ?_, ?_⟩
    · rw [hlargo]
      exact List.length_pos_of_ne_nil hno
    · rw [hlargo]
      exact hs
  · rintro ⟨vistos, ⟨despues, rfl⟩, hpos, hs⟩
    obtain ⟨antes, tramo, rfl, hantes, hlibre, hlargo⟩ := exists_abierto vistos
    rw [← hlargo] at hpos hs
    exact ⟨antes, tramo, despues, rfl, hantes, hlibre, List.ne_nil_of_length_pos hpos, hs⟩

theorem completa_snoc {numeros : List Nat} {n : Nat} : Completa s (numeros ++ [n]) ↔
    Completa s numeros ∨ 0 < abierto (numeros ++ [n]) ∧
      s ≤ abierto (numeros ++ [n]) * dataSize % 2 ^ 64 := by
  rw [completa_iff, completa_iff]
  constructor
  · rintro ⟨vistos, hvistos, h⟩
    rcases List.prefix_concat_iff.mp hvistos with rfl | hmenos
    · exact .inr h
    · exact .inl ⟨vistos, hmenos, h⟩
  · rintro (⟨vistos, hvistos, h⟩ | h)
    · exact ⟨vistos, hvistos.trans (List.prefix_append _ _), h⟩
    · exact ⟨_, List.prefix_rfl, h⟩

/-! ## The receiver -/

variable {r r' : Receptor s} {b : Bloque s} {f : List TransferenciaToken.Mensaje}

/-- Copying the block does not leave `data_replica`, nor installing it `data_token`. -/
theorem memcpy_replica (r : Receptor s) (b : Bloque s) : ∃ d t,
    r.dataReplica.memcpy (b.numero * dataSize) b.data 0 (Receptor.tamanioBloque s b.numero) = .ok d ∧
      r.dataToken.memcpy 0 d 0 s = .ok t := by
  obtain ⟨d, hd, -⟩ := memcpy_bloque r.esSizeT b r.dataReplica
  have hleer : d.leer 0 s = .ok d.datos := by
    rw [leer_ok (by omega), List.drop_zero, List.take_of_length_le (by rw [d.largo])]
  obtain ⟨t, ht, -⟩ := escribir_cero (b := r.dataToken) (show d.datos.length ≤ s by rw [d.largo])
  refine ⟨d, t, hd, ?_⟩
  unfold Bufer.memcpy
  rw [hleer, ok_bind, ht]

/-- A block in its turn is discarded, with what was copied; any other is copied and counted. -/
theorem procesarReplica_cases (r : Receptor s) (b : Bloque s) :
    ∃ r' f, r.procesarReplica (memoryUpdate b) = .ok (r', f) ∧
      ((b.numero : Int) = r.numeroAnteriorReplica + 1 ∧ r'.numeroAnteriorReplica = -1 ∧
          r'.cantidadRecibidaReplica = 0 ∧ r'.replicaOk = r.replicaOk ∨
        (b.numero : Int) ≠ r.numeroAnteriorReplica + 1 ∧
          (s ≤ sumar r.cantidadRecibidaReplica dataSize ∧ r'.replicaOk = true ∨
            ¬s ≤ sumar r.cantidadRecibidaReplica dataSize ∧ r'.replicaOk = r.replicaOk ∧
              r'.numeroAnteriorReplica = r.numeroAnteriorReplica + 1 ∧
              r'.cantidadRecibidaReplica = sumar r.cantidadRecibidaReplica dataSize)) := by
  unfold Receptor.procesarReplica
  by_cases hturno : (b.numero : Int) = r.numeroAnteriorReplica + 1
  · have hno : ¬((memoryUpdate b).numeroDeMensaje : Int) ≠ r.numeroAnteriorReplica + 1 :=
      not_not.mpr hturno
    rw [if_neg hno]
    exact ⟨_, _, rfl, .inl ⟨hturno, rfl, rfl, rfl⟩⟩
  · have hsi : ((memoryUpdate b).numeroDeMensaje : Int) ≠ r.numeroAnteriorReplica + 1 := hturno
    obtain ⟨d, t, hd, ht⟩ := memcpy_replica r b
    rw [if_pos hsi]
    change ∃ r' f, (r.dataReplica.memcpy (b.numero * dataSize) b.data 0
      (Receptor.tamanioBloque s b.numero) >>= _) = _ ∧ _
    rw [hd, ok_bind]
    by_cases hcant : s ≤ sumar r.cantidadRecibidaReplica dataSize
    · have hcant' : (memoryUpdate b).cantidadBytesTotal ≤ sumar r.cantidadRecibidaReplica dataSize := hcant
      rw [if_pos hcant', ht, ok_bind]
      exact ⟨_, _, rfl, .inr ⟨hturno, .inl ⟨hcant, rfl⟩⟩⟩
    · have hcant' : ¬(memoryUpdate b).cantidadBytesTotal ≤ sumar r.cantidadRecibidaReplica dataSize := hcant
      rw [if_neg hcant']
      exact ⟨_, _, rfl, .inr ⟨hturno, .inr ⟨hcant, rfl, rfl, rfl⟩⟩⟩

/-- The state after block 0 and the blocks with these numbers. -/
structure EnCamino (r : Receptor s) (numeros : List Nat) : Prop where
  completa : Completa s numeros → r.replicaOk = true
  enCurso : ¬Completa s numeros → r.replicaOk = false ∧
    r.numeroAnteriorReplica + 1 = abierto numeros ∧
    r.cantidadRecibidaReplica = abierto numeros * dataSize % 2 ^ 64

theorem EnCamino.replicaOk_iff {numeros : List Nat} (h : EnCamino r numeros) :
    r.replicaOk = false ↔ ¬Completa s numeros := by
  constructor
  · intro hfalso hcompleta
    rw [h.completa hcompleta] at hfalso
    cases hfalso
  · exact fun hno => (h.enCurso hno).1

theorem not_completa_nil : ¬Completa s [] := by
  rw [completa_iff]
  rintro ⟨vistos, hvistos, hpos, -⟩
  rw [List.prefix_nil.mp hvistos] at hpos
  exact Nat.lt_irrefl 0 hpos

/-- Block 0 is itself in its turn: it is discarded, and starts the count. -/
theorem procesar_cero (r : Receptor s) (h : b.numero = 0) :
    ∃ r' f, r.procesarMemoryUpdate (memoryUpdate b) = .ok (r', f) ∧ EnCamino r' [] := by
  have hcero : (memoryUpdate b).numeroDeMensaje = 0 := h
  have hempezar : r.empezarReplica (memoryUpdate b) =
      { r with cantidadRecibidaReplica := 0, replicaOk := false, numeroAnteriorReplica := -1 } :=
    if_pos hcero
  unfold Receptor.procesarMemoryUpdate
  rw [hempezar]
  obtain ⟨r', f, hproc, ⟨-, hant, hcant, hok⟩ | ⟨hturno, -⟩⟩ := procesarReplica_cases
    { r with cantidadRecibidaReplica := 0, replicaOk := false, numeroAnteriorReplica := -1 } b
  · refine ⟨r', f, hproc, fun hc => absurd hc not_completa_nil, fun _ => ⟨hok, ?_, ?_⟩⟩
    · rw [hant]
      rfl
    · rw [hcant]
      rfl
  · exact absurd (by rw [h]; rfl) hturno

theorem procesar_otro {numeros : List Nat} (h : EnCamino r numeros) (hb : b.numero ≠ 0) :
    ∃ r' f, r.procesarMemoryUpdate (memoryUpdate b) = .ok (r', f) ∧
      EnCamino r' (numeros ++ [b.numero]) := by
  have hempezar : r.empezarReplica (memoryUpdate b) = r := if_neg hb
  unfold Receptor.procesarMemoryUpdate
  rw [hempezar]
  obtain ⟨r', f, hproc, hcasos⟩ := procesarReplica_cases r b
  refine ⟨r', f, hproc, ?_⟩
  by_cases hcompleta : Completa s numeros
  · -- nothing but a block 0 takes `replica_ok` back
    have hok := h.completa hcompleta
    have hsigue : r'.replicaOk = true := by
      obtain ⟨-, -, -, h⟩ | ⟨-, ⟨-, h⟩ | ⟨-, h, -⟩⟩ := hcasos
      · rw [h, hok]
      · exact h
      · rw [h, hok]
    exact ⟨fun _ => hsigue, fun hno => absurd (completa_snoc.mpr (.inl hcompleta)) hno⟩
  · obtain ⟨hok, hant, hcant⟩ := h.enCurso hcompleta
    rw [hcant, sumar_cuenta, hant, hok] at hcasos
    have habierto := abierto_snoc numeros b.numero
    obtain ⟨hturno, hant', hcant', hok'⟩ | ⟨hturno, hresto⟩ := hcasos
    · have hcero : abierto (numeros ++ [b.numero]) = 0 := by
        rw [habierto, if_pos (by omega)]
      refine ⟨fun hc => ?_, fun _ => ⟨hok', ?_, ?_⟩⟩
      · obtain h | ⟨h, -⟩ := completa_snoc.mp hc
        · exact absurd h hcompleta
        · omega
      · rw [hant', hcero]
        rfl
      · rw [hcant', hcero]
        rfl
    · have hmas : abierto (numeros ++ [b.numero]) = abierto numeros + 1 := by
        rw [habierto, if_neg (by omega)]
      obtain ⟨hs, hok'⟩ | ⟨hs, hok', hant', hcant'⟩ := hresto
      · refine ⟨fun _ => hok', fun hno => absurd (completa_snoc.mpr (.inr ?_)) hno⟩
        rw [hmas]
        exact ⟨Nat.succ_pos _, hs⟩
      · refine ⟨fun hc => ?_, fun _ => ⟨hok', ?_, ?_⟩⟩
        · rw [completa_snoc, hmas] at hc
          exact absurd hc (by tauto)
        · rw [hant', hmas]
          omega
        · rw [hcant', hmas]

/-! ## Runs -/

variable {r₁ r₂ : Receptor s} {f₁ f₂ : List TransferenciaToken.Mensaje} {bs bs' : List (Bloque s)}

theorem procesar_total (r : Receptor s) (b : Bloque s) :
    ∃ r' f, r.procesarMemoryUpdate (memoryUpdate b) = .ok (r', f) := by
  obtain ⟨r', f, h, -⟩ := procesarReplica_cases (r.empezarReplica (memoryUpdate b)) b
  exact ⟨r', f, h⟩

theorem recibir_cons (h₁ : r.procesarMemoryUpdate (memoryUpdate b) = .ok (r₁, f₁))
    (h₂ : recibir r₁ bs = .ok (r₂, f₂)) : recibir r (b :: bs) = .ok (r₂, f₁ ++ f₂) := by
  rw [recibir, h₁, ok_bind]
  show (recibir r₁ bs >>= _) = _
  rw [h₂, ok_bind]
  rfl

theorem recibir_total (bs : List (Bloque s)) (r : Receptor s) : ∃ r' f, recibir r bs = .ok (r', f) := by
  induction bs generalizing r with
  | nil => exact ⟨r, [], rfl⟩
  | cons b bs ih =>
    obtain ⟨r₁, f₁, h₁⟩ := procesar_total r b
    obtain ⟨r₂, f₂, h₂⟩ := ih r₁
    exact ⟨r₂, f₁ ++ f₂, recibir_cons h₁ h₂⟩

theorem recibir_append (h₁ : recibir r bs = .ok (r₁, f₁)) (h₂ : recibir r₁ bs' = .ok (r₂, f₂)) :
    recibir r (bs ++ bs') = .ok (r₂, f₁ ++ f₂) := by
  induction bs generalizing r f₁ with
  | nil =>
    cases h₁
    exact h₂
  | cons b bs ih =>
    obtain ⟨ra, fa, ha⟩ := procesar_total r b
    obtain ⟨rb, fb, hb⟩ := recibir_total bs ra
    have hcons := h₁.symm.trans (recibir_cons ha hb)
    cases hcons
    rw [List.append_assoc]
    exact recibir_cons ha (ih hb)

theorem recibir_resto {numeros : List Nat} (h : EnCamino r numeros) (bs : List (Bloque s))
    (hbs : ∀ b ∈ bs, b.numero ≠ 0) :
    ∃ r' f, recibir r bs = .ok (r', f) ∧ EnCamino r' (numeros ++ bs.map Bloque.numero) := by
  induction bs generalizing r numeros with
  | nil => exact ⟨r, [], rfl, by rwa [List.map_nil, List.append_nil]⟩
  | cons b bs ih =>
    obtain ⟨r₁, f₁, h₁, hcamino⟩ := procesar_otro h (hbs b List.mem_cons_self)
    obtain ⟨r₂, f₂, h₂, hfin⟩ := ih hcamino fun b hb => hbs b (List.mem_cons_of_mem _ hb)
    exact ⟨r₂, f₁ ++ f₂, recibir_cons h₁ h₂, by rwa [List.map_cons, List.append_cons]⟩

/-- From any state, block 0 and the blocks after it leave what their numbers say. -/
theorem recibir_bloques (r : Receptor s) (hb : b.numero = 0) (hbs : ∀ b ∈ bs, b.numero ≠ 0) :
    ∃ r' f, recibir r (b :: bs) = .ok (r', f) ∧ EnCamino r' (bs.map Bloque.numero) := by
  obtain ⟨r₁, f₁, h₁, hcero⟩ := procesar_cero r hb
  obtain ⟨r₂, f₂, h₂, hcamino⟩ := recibir_resto hcero bs hbs
  exact ⟨r₂, f₁ ++ f₂, recibir_cons h₁ h₂, hcamino⟩

/-! ## Updates in order -/

theorem bloques_lt {i k : Nat} (h : i < bloquesPorToken s) (hk : 0 < k) (hi : k ≤ i) :
    k * dataSize < s := by
  have hd : 0 < dataSize := by decide
  have hle : k * dataSize ≤ i * dataSize := Nat.mul_le_mul_right _ hi
  have hdiv : s / dataSize * dataSize + s % dataSize = s := by
    rw [Nat.mul_comm]
    exact Nat.div_add_mod s dataSize
  unfold bloquesPorToken Bloques.cantidad at h
  by_cases hresto : s % dataSize = 0
  · have hi' : (i + 1) * dataSize ≤ s / dataSize * dataSize := by
      refine Nat.mul_le_mul_right _ ?_
      split at h
      · -- the memory is smaller than a block: its only block is the first
        rename_i hchica
        have hs : s < dataSize := by omega
        rw [Nat.div_eq_of_lt hs] at h
        omega
      · exact h
    rw [Nat.succ_mul] at hi'
    omega
  · rw [if_pos (.inl hresto)] at h
    have hi' : i * dataSize ≤ s / dataSize * dataSize := Nat.mul_le_mul_right _ (by omega)
    omega

theorem Libre.prefijo {tramo vistos : List Nat} (h : Libre tramo) (hv : vistos <+: tramo) :
    Libre vistos := by
  obtain ⟨resto, rfl⟩ := hv
  intro i hi
  have hlt := (List.getElem?_eq_some_iff.mp hi).1
  exact h i (by rw [List.getElem?_append_left hlt, hi])

/-- The blocks of an image after the first, in order, are copied one place too late: the bytes counted
    never reach the size of the image. -/
theorem not_completa_enOrden {k : Nat} (h : k < bloquesPorToken s) (hs : s < 2 ^ 64) :
    ¬Completa s ((List.range k).map Nat.succ) := by
  have hlibre : Libre ((List.range k).map Nat.succ) := by
    intro i hi
    rw [List.getElem?_map, Option.map_eq_some_iff] at hi
    obtain ⟨j, hj, hji⟩ := hi
    obtain ⟨hlt, hval⟩ := List.getElem?_eq_some_iff.mp hj
    rw [List.getElem_range] at hval
    omega
  rw [completa_iff]
  rintro ⟨vistos, hvistos, hpos, hcant⟩
  have habierto : abierto ([] ++ vistos) = vistos.length :=
    abierto_libre rfl (hlibre.prefijo hvistos)
  rw [List.nil_append] at habierto
  have hlargo : vistos.length ≤ k := by
    have := hvistos.length_le
    rwa [List.length_map, List.length_range] at this
  rw [habierto] at hpos hcant
  have hlt := bloques_lt h hpos hlargo
  rw [Nat.mod_eq_of_lt (hlt.trans hs)] at hcant
  omega

theorem recibir_actualizacion (r : Receptor s) (a : Actualizacion s) :
    ∃ r' f, recibir r a.bloques = .ok (r', f) ∧ r'.replicaOk = false := by
  obtain ⟨k, hk⟩ : ∃ k, bloquesPorToken s = k + 1 :=
    Nat.exists_eq_succ_of_ne_zero (Nat.pos_iff_ne_zero.mp (Bloques.cantidad_pos (by decide)))
  have hnumeros := a.numeros
  rw [hk, List.range_succ_eq_map] at hnumeros
  cases hbloques : a.bloques with
  | nil =>
    rw [hbloques] at hnumeros
    cases hnumeros
  | cons b bs =>
    rw [hbloques, List.map_cons, List.cons.injEq] at hnumeros
    obtain ⟨hb, hbs⟩ := hnumeros
    have hno : ∀ b ∈ bs, b.numero ≠ 0 := by
      intro b' hb'
      have hmem := List.mem_map_of_mem (f := Bloque.numero) hb'
      rw [hbs] at hmem
      obtain ⟨j, -, hj⟩ := List.mem_map.mp hmem
      omega
    obtain ⟨r', f, hrecibe, hcamino⟩ := recibir_bloques r hb hno
    rw [hbs] at hcamino
    exact ⟨r', f, hrecibe, hcamino.replicaOk_iff.mpr (not_completa_enOrden (by omega) r.esSizeT)⟩

theorem not_instala (r : Receptor s) (previas : List (Bloque s)) (a : Actualizacion s) :
    ¬Instala r previas a := by
  rintro ⟨r₁, f₁, r₂, f₂, -, hrecibe, hok, -⟩
  obtain ⟨r', f, hrecibe', hno⟩ := recibir_actualizacion r₁ a
  cases hrecibe.symm.trans hrecibe'
  rw [hok] at hno
  cases hno

/-! ## Sequences that are not in order -/

theorem Completa.mono {numeros mas : List Nat} (h : Completa s numeros) (hmas : numeros <+: mas) :
    Completa s mas := by
  rw [completa_iff] at h ⊢
  obtain ⟨vistos, hvistos, hcompleta⟩ := h
  exact ⟨vistos, hvistos.trans hmas, hcompleta⟩

theorem recibir_vistos (r : Receptor s) (previas : List (Bloque s)) (q : Secuencia s)
    (h : bs <+: q.resto) : ∃ r' f, recibir r (previas ++ q.primero :: bs) = .ok (r', f) ∧
      (r'.replicaOk = false ↔ ¬Completa s (bs.map Bloque.numero)) := by
  obtain ⟨r₁, f₁, h₁⟩ := recibir_total previas r
  obtain ⟨r₂, f₂, h₂, hcamino⟩ := recibir_bloques r₁ q.cero fun b hb => q.noCero b (h.mem hb)
  exact ⟨r₂, f₁ ++ f₂, recibir_append h₁ h₂, hcamino.replicaOk_iff⟩

theorem noAdelanta_iff (r : Receptor s) (previas : List (Bloque s)) (q : Secuencia s) :
    NoAdelanta r previas q ↔ q.EnOrden ∨ ¬Completa s q.numeros := by
  constructor
  · intro h
    by_cases horden : q.EnOrden
    · exact .inl horden
    · obtain ⟨r', f, hrecibe, hno⟩ := h horden q.resto List.prefix_rfl
      obtain ⟨r₂, f₂, hrecibe', hiff⟩ := recibir_vistos r previas q List.prefix_rfl
      cases hrecibe.symm.trans hrecibe'
      exact .inr (hiff.mp hno)
  · rintro (horden | hcompleta) hno vistos hvistos
    · exact absurd horden hno
    · obtain ⟨r', f, hrecibe, hiff⟩ := recibir_vistos r previas q hvistos
      exact ⟨r', f, hrecibe, hiff.mpr fun h => hcompleta (h.mono (hvistos.map _))⟩

/-- No update is ever installed, whatever came before it and whoever receives it.  What comes in another
    order sets `replica_ok` exactly when as many blocks as an image has come one after the other without
    any of them in its turn. -/
theorem replica_iff (r : Receptor s) (previas : List (Bloque s)) :
    (∀ a : Actualizacion s, ¬Instala r previas a) ∧
      ∀ q : Secuencia s, NoAdelanta r previas q ↔ q.EnOrden ∨ ¬Completa s q.numeros :=
  ⟨not_instala r previas, noAdelanta_iff r previas⟩

/-- A memory of one byte, which is sent in one block. -/
theorem replica_un_bloque :
    ¬Instala (receptor 1 (by decide)) [] (Actualizacion.de (ceros 1)) :=
  not_instala _ _ _

end Replica
