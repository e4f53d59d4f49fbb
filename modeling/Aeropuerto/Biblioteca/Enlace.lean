import Aeropuerto.Biblioteca.Ejecucion

/-!
# A stop-and-wait link

A sender takes the items of a queue one after the other; of each it makes a packet or nothing, writes the
frame of the packet to a stream and waits for one byte.  A receiver reads frames from the stream, writes
that byte for each and does something with the packet, which may fail.  The two streams lose nothing and
keep the order; `send` takes any part of what it is given and `recv` gives any part of what has arrived.
-/

namespace Enlace

open Ejecucion

variable {α β γ δ ρ ν : Type}

/-! ## Readers -/

/-- A reader asks for some bytes and goes on with them. -/
inductive Lector (α β : Type) where
  | pide (n : Nat) (k : List β → Lector α β)
  | listo (a : α)
  | invalido

namespace Lector

/-- Nobody waits for no bytes. -/
def avanza : Lector α β → Lector α β
  | pide 0 k => avanza (k [])
  | pide (n + 1) k => pide (n + 1) k
  | listo a => listo a
  | invalido => invalido

/-- A part of the `n` bytes that it asked for. -/
def recibe (n : Nat) (k : List β → Lector α β) (chunk : List β) : Lector α β :=
  (pide (n - chunk.length) fun resto => k (chunk ++ resto)).avanza

/-- What it makes of a stream, and what it leaves. -/
def lee : Lector α β → List β → Option (α × List β)
  | pide n k, bs => if bs.length < n then none else lee (k (bs.take n)) (bs.drop n)
  | listo a, bs => some (a, bs)
  | invalido, _ => none

/-- With these bytes it reads `a`, whatever comes after. -/
def Espera (l : Lector α β) (bs : List β) (a : α) : Prop := ∀ resto, l.lee (bs ++ resto) = some (a, resto)

theorem lee_avanza (l : Lector α β) (bs : List β) : l.avanza.lee bs = l.lee bs := by
  induction l with
  | pide n k ih =>
    cases n with
    | zero =>
      rw [avanza, ih, lee, if_neg (Nat.not_lt_zero _)]
      rfl
    | succ n => rfl
  | listo a => rfl
  | invalido => rfl

theorem lee_pide {n : Nat} {bs : List β} (k : List β → Lector α β) (h : bs.length = n) (resto : List β) :
    (pide n k).lee (bs ++ resto) = (k bs).lee resto := by
  rw [lee, if_neg (by rw [List.length_append]; omega), List.take_left' h, List.drop_left' h]

/-- It makes no difference where the stream is cut. -/
theorem lee_recibe {n : Nat} {chunk : List β} (k : List β → Lector α β) (h : chunk.length ≤ n)
    (bs : List β) : (recibe n k chunk).lee bs = (pide n k).lee (chunk ++ bs) := by
  rw [recibe, lee_avanza, lee, lee, List.length_append]
  by_cases hfalta : bs.length < n - chunk.length
  · rw [if_pos hfalta, if_pos (by omega)]
  · rw [if_neg hfalta, if_neg (by omega), List.take_append, List.drop_append,
      List.take_of_length_le h, List.drop_of_length_le h]
    rfl

/-- After `avanza` it asks for something, or it is done. -/
theorem avanza_ne_pide_zero (l : Lector α β) (k : List β → Lector α β) : l.avanza ≠ pide 0 k := by
  induction l with
  | pide n k' ih =>
    cases n with
    | zero => exact ih []
    | succ n => rintro ⟨⟩
  | listo a => rintro ⟨⟩
  | invalido => rintro ⟨⟩

theorem Espera.recibe {n : Nat} {k : List β → Lector α β} {chunk bs : List β} {a : α}
    (h : (pide n k).Espera (chunk ++ bs) a) (hn : chunk.length ≤ n) :
    (Lector.recibe n k chunk).Espera bs a := by
  intro resto
  rw [lee_recibe k hn, ← List.append_assoc]
  exact h resto

theorem Espera.avanza {l : Lector α β} {bs : List β} {a : α} (h : l.Espera bs a) : l.avanza.Espera bs a := by
  intro resto
  rw [lee_avanza]
  exact h resto

/-- A reader that is done has taken all its bytes. -/
theorem Espera.listo {a a' : α} {bs : List β} (h : (listo a').Espera bs a) : a' = a ∧ bs = [] := by
  have hnada := h []
  rw [List.append_nil, lee, Option.some.injEq, Prod.mk.injEq] at hnada
  exact hnada

/-- One that asks for bytes has not taken them. -/
theorem Espera.pide {n : Nat} {k : List β → Lector α β} {bs : List β} {a : α}
    (h : (pide n k).Espera bs a) : n ≤ bs.length := by
  have hnada := h []
  rw [List.append_nil, lee] at hnada
  split at hnada
  case isTrue => cases hnada
  case isFalse hn => exact Nat.le_of_not_lt hn

theorem Espera.invalido {bs : List β} {a : α} : ¬(invalido : Lector α β).Espera bs a := by
  intro h
  cases h []

end Lector

/-! ## The link -/

/-- What the sender makes of an item. -/
inductive Salida (α δ : Type) where
  | descarta (d : δ)
  | envia (a : α) (d : δ)
  | termina

/-- Items `γ`, packets `α`, bytes `β`; the sender keeps a `δ`, the receiver a `ρ`, and `ν` is what the
    receiver finds around it. -/
structure Protocolo (α β γ δ ρ ν : Type) where
  trama : α → List β
  lector : Lector α β
  acuse : β
  saca : δ → γ → Salida α δ
  maneja : ρ → α → ν → Option ρ

inductive Emisor (β : Type) where
  -- at the queue
  | listo
  -- in the loop of send, and then waiting for the byte
  | enviando (resto : List β)
  | fin

inductive Receptor (α β : Type) where
  | leyendo (l : Lector α β)
  | manejando (a : α)
  | fin

structure Estado (α β γ δ ρ : Type) where
  cola : List γ
  driver : δ
  emisor : Emisor β
  -- the streams from the sender and to it
  ida : List β
  vuelta : List β
  receptor : Receptor α β
  datos : ρ
  -- the packets whose frame has been begun, and those that have been read
  enviados : List α
  recibidos : List α
  -- the bytes read by the sender, and those that send has taken
  acusados : Nat
  escritos : List β

inductive Evento (ν : Type) where
  | saca
  | send (k : Nat)
  | ack
  -- the sender finds that the receiver has closed the connection
  | corta
  | recv (k : Nat)
  | acusa
  | maneja (x : ν)
  -- the receiver finds something else than a frame, or that the sender has closed the connection
  | cae

variable (P : Protocolo α β γ δ ρ ν)

def inicial (cola : List γ) (d : δ) (r : ρ) : Estado α β γ δ ρ where
  cola := cola
  driver := d
  emisor := .listo
  ida := []
  vuelta := []
  receptor := .leyendo P.lector.avanza
  datos := r
  enviados := []
  recibidos := []
  acusados := 0
  escritos := []

def paso [DecidableEq β] (s : Estado α β γ δ ρ) : Evento ν → Option (Estado α β γ δ ρ)
  | .saca =>
    match s.emisor, s.cola with
    | .listo, x :: xs =>
      match P.saca s.driver x with
      | .descarta d => some { s with cola := xs, driver := d }
      | .envia a d =>
        some { s with cola := xs, driver := d, emisor := .enviando (P.trama a),
                      enviados := s.enviados ++ [a] }
      | .termina => some { s with cola := xs, emisor := .fin }
    | _, _ => none
  | .send k =>
    match s.emisor with
    | .enviando resto =>
      if 1 ≤ k ∧ k ≤ resto.length then
        some { s with emisor := .enviando (resto.drop k), ida := s.ida ++ resto.take k,
                      escritos := s.escritos ++ resto.take k }
      else none
    | _ => none
  | .ack =>
    match s.emisor, s.vuelta with
    | .enviando [], b :: bs =>
      if b = P.acuse then some { s with emisor := .listo, vuelta := bs, acusados := s.acusados + 1 }
      else some { s with emisor := .fin, vuelta := bs }
    | _, _ => none
  | .corta =>
    match s.emisor, s.receptor with
    | .enviando _, .fin => some { s with emisor := .fin }
    | _, _ => none
  | .recv k =>
    match s.receptor with
    | .leyendo (.pide n c) =>
      if 1 ≤ k ∧ k ≤ n ∧ k ≤ s.ida.length then
        some { s with receptor := .leyendo (Lector.recibe n c (s.ida.take k)), ida := s.ida.drop k }
      else none
    | _ => none
  | .acusa =>
    match s.receptor with
    | .leyendo (.listo a) =>
      some { s with receptor := .manejando a, vuelta := s.vuelta ++ [P.acuse],
                    recibidos := s.recibidos ++ [a] }
    | _ => none
  | .maneja x =>
    match s.receptor with
    | .manejando a =>
      match P.maneja s.datos a x with
      | some r => some { s with receptor := .leyendo P.lector.avanza, datos := r }
      | none => some { s with receptor := .fin }
    | _ => none
  | .cae =>
    match s.receptor, s.emisor, s.ida with
    | .leyendo .invalido, _, _ => some { s with receptor := .fin }
    | .leyendo (.pide _ _), .fin, [] => some { s with receptor := .fin }
    | _, _, _ => none

/-- The packets that the sender makes of a queue. -/
def emision (d : δ) : List γ → List α
  | [] => []
  | x :: xs =>
    match P.saca d x with
    | .descarta d' => emision d' xs
    | .envia a d' => a :: emision d' xs
    | .termina => []

/-- The receiver reads each frame as what it was made of, and does not begin without bytes. -/
structure Correcto : Prop where
  lee : ∀ a, P.lector.Espera (P.trama a) a
  pide : ∃ n k, P.lector.avanza = .pide (n + 1) k

/-! ## What holds of a run -/

variable {P}

/-- The reader with which the receiver goes on. -/
def Receptor.lector (P : Protocolo α β γ δ ρ ν) : Receptor α β → Option (Lector α β)
  | .leyendo l => some l
  | .manejando _ => some P.lector.avanza
  | .fin => none

/-- Where the two sides are: sender, streams, receiver, packets sent and read and bytes acknowledged, when
    the sender is to send `todos`. -/
inductive Sincronia (P : Protocolo α β γ δ ρ ν) (todos : List α) :
    Emisor β → List β → List β → Receptor α β → List α → List α → Nat → Prop where
  | quieto {e r xs} (he : e = .listo ∨ e = .fin) (hr : Receptor.lector P r = some P.lector.avanza) :
      Sincronia P todos e [] [] r xs xs xs.length
  | enCurso {resto ida r l xs a} (hr : Receptor.lector P r = some l) (hpide : ∀ k, l ≠ .pide 0 k)
      (hl : l.Espera (ida ++ resto) a) :
      Sincronia P todos (.enviando resto) ida [] r (xs ++ [a]) xs xs.length
  | acusado {r xs a} (hr : Receptor.lector P r = some P.lector.avanza) :
      Sincronia P todos (.enviando []) [] [P.acuse] r (xs ++ [a]) (xs ++ [a]) xs.length
  | cerrado : Sincronia P todos .fin [] [] .fin todos todos todos.length
  -- the receiver failed with a packet
  | roto {e ida vuelta xs ys k} (hxs : ys <+: xs) (hk : k + vuelta.length = ys.length)
      (hvuelta : ∀ b ∈ vuelta, b = P.acuse) (he : e = .listo → xs.length = k)
      (he' : ∀ resto, e = .enviando resto → xs.length = k + 1) (hlargo : xs.length ≤ k + 1)
      (hmal : ∃ zs a d x, ys = zs ++ [a] ∧ P.maneja d a x = none) :
      Sincronia P todos e ida vuelta .fin xs ys k

/-- The sender has sent a part of what it is to send, and the socket has taken a part of that. -/
def Origen (P : Protocolo α β γ δ ρ ν) (todos : List α) (s : Estado α β γ δ ρ) : Prop :=
  match s.emisor with
  | .listo => s.enviados ++ emision P s.driver s.cola = todos ∧ s.escritos = s.enviados.flatMap P.trama
  | .enviando resto =>
    s.enviados ++ emision P s.driver s.cola = todos ∧ s.escritos ++ resto = s.enviados.flatMap P.trama
  | .fin => s.enviados <+: todos ∧ (Receptor.lector P s.receptor ≠ none → s.enviados = todos) ∧
      s.escritos <+: s.enviados.flatMap P.trama

/-- The receiver has been able to do something with the packet. -/
def Manejado (P : Protocolo α β γ δ ρ ν) (a : α) : Prop := ∃ d x r, P.maneja d a x = some r

/-- It has with all the packets before the last one. -/
def Manejados (P : Protocolo α β γ δ ρ ν) (s : Estado α β γ δ ρ) : Prop :=
  match s.receptor with
  | .leyendo _ => ∀ a ∈ s.recibidos, Manejado P a
  | .manejando a => ∃ xs, s.recibidos = xs ++ [a] ∧ ∀ b ∈ xs, Manejado P b
  | .fin => ∀ a ∈ s.recibidos.dropLast, Manejado P a

structure Inv (P : Protocolo α β γ δ ρ ν) (todos : List α) (s : Estado α β γ δ ρ) : Prop where
  sincronia : Sincronia P todos s.emisor s.ida s.vuelta s.receptor s.enviados s.recibidos s.acusados
  origen : Origen P todos s
  manejados : Manejados P s

variable {todos : List α} {s t : Estado α β γ δ ρ} {e : Evento ν}

/-- What can always be said. -/
theorem Sincronia.cuentas {em ida vuelta r xs ys k} (h : Sincronia P todos em ida vuelta r xs ys k) :
    ys <+: xs ∧ k + vuelta.length = ys.length ∧ xs.length ≤ k + 1 := by
  cases h with
  | quieto => exact ⟨List.prefix_rfl, rfl, Nat.le_succ _⟩
  | enCurso => exact ⟨List.prefix_append _ _, rfl, by rw [List.length_append]; exact Nat.le_refl _⟩
  | acusado =>
    refine ⟨List.prefix_rfl, ?_, ?_⟩ <;> rw [List.length_append]
    exacts [rfl, Nat.le_refl _]
  | cerrado => exact ⟨List.prefix_rfl, rfl, Nat.le_succ _⟩
  | roto hxs hk _ _ _ hlargo => exact ⟨hxs, hk, hlargo⟩

theorem Sincronia.recibe {em ida vuelta n c xs ys k m}
    (h : Sincronia P todos em ida vuelta (.leyendo (.pide n c)) xs ys k) (hn : m ≤ n)
    (hm : m ≤ ida.length) (hm₀ : 1 ≤ m) :
    Sincronia P todos em (ida.drop m) vuelta (.leyendo (Lector.recibe n c (ida.take m))) xs ys k := by
  have hlargo : (ida.take m).length ≤ n := by
    rw [List.length_take]
    omega
  cases h with
  | quieto => exact absurd hm (by rw [List.length_nil]; omega)
  | enCurso hr _ hl =>
    cases hr
    refine .enCurso rfl (Lector.avanza_ne_pide_zero _) (Lector.Espera.recibe ?_ hlargo)
    rwa [← List.append_assoc, List.take_append_drop]
  | acusado => exact absurd hm (by rw [List.length_nil]; omega)

/-- What is read is what is being sent. -/
theorem Sincronia.acusa {em ida vuelta a xs ys k} (hP : Correcto P)
    (h : Sincronia P todos em ida vuelta (.leyendo (.listo a)) xs ys k) :
    Sincronia P todos em ida (vuelta ++ [P.acuse]) (.manejando a) xs (ys ++ [a]) k := by
  obtain ⟨n, c, hpide⟩ := hP.pide
  cases h with
  | quieto _ hr =>
    rw [hpide] at hr
    cases hr
  | enCurso hr _ hl =>
    cases hr
    obtain ⟨rfl, hnada⟩ := hl.listo
    obtain ⟨rfl, rfl⟩ := List.append_eq_nil_iff.mp hnada
    exact .acusado rfl
  | acusado hr =>
    rw [hpide] at hr
    cases hr

/-- The receiver ends only at the beginning of a frame and after everything has been read. -/
theorem Sincronia.cae {em ida vuelta l xs ys k} (hP : Correcto P)
    (h : Sincronia P todos em ida vuelta (.leyendo l) xs ys k)
    (hl : l = .invalido ∨ (em = .fin ∧ ida = [])) (htodos : em = .fin → xs = todos) :
    Sincronia P todos em ida vuelta .fin xs ys k := by
  obtain ⟨n, c, hpide⟩ := hP.pide
  have hno : (.invalido : Lector α β) ≠ P.lector.avanza := by
    rw [hpide]
    rintro ⟨⟩
  cases h with
  | quieto he hr =>
    rcases hl with rfl | ⟨rfl, -⟩
    · exact absurd (Option.some.inj hr) hno
    · rw [htodos rfl]
      exact .cerrado
  | enCurso hr _ hespera =>
    cases hr
    rcases hl with rfl | ⟨hfin, -⟩
    · exact absurd hespera Lector.Espera.invalido
    · cases hfin
  | acusado hr =>
    rcases hl with rfl | ⟨hfin, -⟩
    · exact absurd (Option.some.inj hr) hno
    · cases hfin

theorem Sincronia.cambia {em ida vuelta r r' xs ys k}
    (h : Sincronia P todos em ida vuelta r xs ys k) (hr : Receptor.lector P r ≠ none)
    (hr' : Receptor.lector P r' = Receptor.lector P r) : Sincronia P todos em ida vuelta r' xs ys k := by
  cases h with
  | quieto he hr₀ => exact .quieto he (hr'.trans hr₀)
  | enCurso hr₀ hpide hl => exact .enCurso (hr'.trans hr₀) hpide hl
  | acusado hr₀ => exact .acusado (hr'.trans hr₀)
  | cerrado => exact absurd rfl hr
  | roto => exact absurd rfl hr

/-- The receiver fails with a packet that it has read. -/
theorem Sincronia.rompe {em ida vuelta r xs ys k} (h : Sincronia P todos em ida vuelta r xs ys k)
    (hr : Receptor.lector P r ≠ none) (hmal : ∃ zs a d x, ys = zs ++ [a] ∧ P.maneja d a x = none) :
    Sincronia P todos em ida vuelta .fin xs ys k := by
  cases h with
  | quieto he =>
    refine .roto List.prefix_rfl rfl (by simp) (fun _ => rfl) (fun resto heq => ?_) (Nat.le_succ _) hmal
    rcases he with he | he <;> rw [heq] at he <;> cases he
  | enCurso =>
    refine .roto (List.prefix_append _ _) rfl (by simp) (fun heq => ?_) (fun _ _ => ?_) ?_ hmal
    · cases heq
    · rw [List.length_append, List.length_singleton]
    · rw [List.length_append, List.length_singleton]
  | acusado =>
    refine .roto List.prefix_rfl ?_ (by simp) (fun heq => ?_) (fun _ _ => ?_) ?_ hmal
    · rw [List.length_append]
      rfl
    · cases heq
    · rw [List.length_append, List.length_singleton]
    · rw [List.length_append, List.length_singleton]
  | cerrado => exact absurd rfl hr
  | roto => exact absurd rfl hr

theorem Sincronia.escribe {resto ida vuelta r xs ys k m}
    (h : Sincronia P todos (.enviando resto) ida vuelta r xs ys k) (hm₀ : 1 ≤ m) (hm : m ≤ resto.length) :
    Sincronia P todos (.enviando (resto.drop m)) (ida ++ resto.take m) vuelta r xs ys k := by
  cases h with
  | quieto he => rcases he with he | he <;> cases he
  | enCurso hr hpide hl =>
    refine .enCurso hr hpide ?_
    rwa [List.append_assoc, List.take_append_drop]
  | acusado => exact absurd hm (by rw [List.length_nil]; omega)
  | roto hxs hk hvuelta he he' hlargo hmal =>
    refine .roto hxs hk hvuelta (fun heq => ?_) (fun _ _ => he' _ rfl) hlargo hmal
    cases heq

theorem Sincronia.toma {ida vuelta r xs ys k} (hP : Correcto P)
    (h : Sincronia P todos .listo ida vuelta r xs ys k) (a : α) :
    Sincronia P todos (.enviando (P.trama a)) ida vuelta r (xs ++ [a]) ys k := by
  have hlargo : (xs ++ [a]).length = xs.length + 1 := by rw [List.length_append, List.length_singleton]
  cases h with
  | quieto _ hr => exact .enCurso hr (Lector.avanza_ne_pide_zero _) (hP.lee a).avanza
  | roto hxs hk hvuelta he _ _ hmal =>
    have hxs' := he rfl
    refine .roto (hxs.trans (List.prefix_append _ _)) hk hvuelta (fun heq => ?_) (fun _ _ => by omega)
      (by omega) hmal
    cases heq

theorem Sincronia.termina {em ida vuelta r xs ys k} (h : Sincronia P todos em ida vuelta r xs ys k)
    (hem : em = .listo ∨ r = .fin) : Sincronia P todos .fin ida vuelta r xs ys k := by
  cases h with
  | quieto _ hr => exact .quieto (.inr rfl) hr
  | enCurso hr =>
    rcases hem with hem | rfl
    · cases hem
    · cases hr
  | acusado hr =>
    rcases hem with hem | rfl
    · cases hem
    · cases hr
  | cerrado => exact .cerrado
  | roto hxs hk hvuelta _ _ hlargo hmal =>
    refine .roto hxs hk hvuelta (fun heq => ?_) (fun _ heq => ?_) hlargo hmal <;> cases heq

/-- The byte that the sender waits for is the right one. -/
theorem Sincronia.ack {ida b bs r xs ys k}
    (h : Sincronia P todos (.enviando []) ida (b :: bs) r xs ys k) :
    b = P.acuse ∧ Sincronia P todos .listo ida bs r xs ys (k + 1) := by
  cases h with
  | @acusado _ xs a hr =>
    have hlargo : xs.length + 1 = (xs ++ [a]).length := by rw [List.length_append, List.length_singleton]
    rw [hlargo]
    exact ⟨rfl, .quieto (.inl rfl) hr⟩
  | roto hxs hk hvuelta _ he' hlargo hmal =>
    have hxs' := he' _ rfl
    rw [List.length_cons] at hk
    refine ⟨hvuelta _ List.mem_cons_self, .roto hxs (by omega)
      (fun c hc => hvuelta c (List.mem_cons_of_mem _ hc)) (fun _ => hxs') (fun _ heq => ?_) (by omega) hmal⟩
    cases heq

theorem Origen.receptor {t : Estado α β γ δ ρ} (h : Origen P todos s) (hemisor : t.emisor = s.emisor)
    (henviados : t.enviados = s.enviados) (hdriver : t.driver = s.driver) (hcola : t.cola = s.cola)
    (hescritos : t.escritos = s.escritos)
    (hr : Receptor.lector P t.receptor ≠ none → Receptor.lector P s.receptor ≠ none) :
    Origen P todos t := by
  rw [Origen] at h ⊢
  rw [hemisor, henviados, hdriver, hcola, hescritos]
  split at h
  · exact h
  · exact h
  · exact ⟨h.1, fun ht => h.2.1 (hr ht), h.2.2⟩

/-- What an idle sender sends and has sent. -/
theorem Origen.listo (h : Origen P todos s) (hem : s.emisor = .listo) :
    s.enviados ++ emision P s.driver s.cola = todos ∧ s.escritos = s.enviados.flatMap P.trama := by
  rwa [Origen, hem] at h

theorem Origen.enviando {resto : List β} (h : Origen P todos s) (hem : s.emisor = .enviando resto) :
    s.enviados ++ emision P s.driver s.cola = todos ∧ s.escritos ++ resto = s.enviados.flatMap P.trama := by
  rwa [Origen, hem] at h

theorem Origen.fin (h : Origen P todos s) (hem : s.emisor = .fin) :
    s.enviados <+: todos ∧ (Receptor.lector P s.receptor ≠ none → s.enviados = todos) ∧
      s.escritos <+: s.enviados.flatMap P.trama := by
  rwa [Origen, hem] at h

theorem Manejados.leyendo {l : Lector α β} (h : Manejados P s) (hrec : s.receptor = .leyendo l) :
    ∀ a ∈ s.recibidos, Manejado P a := by
  rwa [Manejados, hrec] at h

theorem Manejados.manejando {a : α} (h : Manejados P s) (hrec : s.receptor = .manejando a) :
    ∃ xs, s.recibidos = xs ++ [a] ∧ ∀ b ∈ xs, Manejado P b := by
  rwa [Manejados, hrec] at h

theorem Manejados.dropLast (h : Manejados P s) : ∀ a ∈ s.recibidos.dropLast, Manejado P a := by
  rw [Manejados] at h
  split at h
  · exact fun a ha => h a (List.mem_of_mem_dropLast ha)
  · obtain ⟨xs, hxs, hman⟩ := h
    rw [hxs, List.dropLast_concat]
    exact hman
  · exact h

theorem Inv.inicial (cola : List γ) (d : δ) (r : ρ) : Inv P (emision P d cola) (inicial P cola d r) where
  sincronia := .quieto (.inl rfl) rfl
  origen := ⟨rfl, rfl⟩
  manejados := fun _ ha => absurd ha List.not_mem_nil

variable [DecidableEq β]

theorem Inv.saca (hP : Correcto P) (h : Inv P todos s) (hpaso : paso P s .saca = some t) :
    Inv P todos t := by
  obtain ⟨hsinc, hori, hman⟩ := h
  simp only [paso] at hpaso
  split at hpaso
  case h_2 => cases hpaso
  case h_1 x xs hem hcola =>
    obtain ⟨htodos, hescritos⟩ := hori.listo hem
    rw [hem] at hsinc
    rw [hcola, emision] at htodos
    split at hpaso <;> cases hpaso
    case h_1 d hsaca =>
      rw [hsaca] at htodos
      refine ⟨by rw [hem]; exact hsinc, ?_, hman⟩
      rw [Origen, hem]
      exact ⟨htodos, hescritos⟩
    case h_2 a d hsaca =>
      rw [hsaca] at htodos
      refine ⟨hsinc.toma hP a, ⟨?_, ?_⟩, hman⟩
      · rw [List.append_assoc]
        exact htodos
      · rw [List.flatMap_append, List.flatMap_singleton, ← hescritos]
    case h_3 hsaca =>
      rw [hsaca] at htodos
      dsimp only at htodos
      rw [List.append_nil] at htodos
      refine ⟨hsinc.termina (.inl rfl), ⟨?_, fun _ => htodos, ?_⟩, hman⟩
      · rw [htodos]
      · rw [hescritos]

theorem Inv.send {k : Nat} (h : Inv P todos s) (hpaso : paso P s (.send k) = some t) :
    Inv P todos t := by
  obtain ⟨hsinc, hori, hman⟩ := h
  simp only [paso] at hpaso
  split at hpaso
  case h_2 => cases hpaso
  case h_1 resto hem =>
    obtain ⟨htodos, hescritos⟩ := hori.enviando hem
    rw [hem] at hsinc
    split at hpaso <;> cases hpaso
    rename_i hk
    refine ⟨hsinc.escribe hk.1 hk.2, ⟨htodos, ?_⟩, hman⟩
    rw [List.append_assoc, List.take_append_drop]
    exact hescritos

theorem Inv.ack (h : Inv P todos s) (hpaso : paso P s .ack = some t) : Inv P todos t := by
  obtain ⟨hsinc, hori, hman⟩ := h
  simp only [paso] at hpaso
  split at hpaso
  case h_2 => cases hpaso
  case h_1 b bs hem hvuelta =>
    obtain ⟨htodos, hescritos⟩ := hori.enviando hem
    rw [hem, hvuelta] at hsinc
    obtain ⟨rfl, hsinc'⟩ := hsinc.ack
    rw [if_pos rfl] at hpaso
    cases hpaso
    refine ⟨hsinc', ⟨htodos, ?_⟩, hman⟩
    rwa [List.append_nil] at hescritos

theorem Inv.corta (h : Inv P todos s) (hpaso : paso P s .corta = some t) : Inv P todos t := by
  obtain ⟨hsinc, hori, hman⟩ := h
  simp only [paso] at hpaso
  split at hpaso <;> cases hpaso
  rename_i resto hem hrec
  obtain ⟨htodos, hescritos⟩ := hori.enviando hem
  refine ⟨?_, ⟨?_, ?_, ?_⟩, hman⟩
  · dsimp only
    rw [hem, hrec] at hsinc
    rw [hrec]
    exact hsinc.termina (.inr rfl)
  · rw [← htodos]
    exact List.prefix_append _ _
  · intro hr
    dsimp only at hr
    rw [hrec] at hr
    exact absurd rfl hr
  · rw [← hescritos]
    exact List.prefix_append _ _

theorem Inv.recv {k : Nat} (h : Inv P todos s) (hpaso : paso P s (.recv k) = some t) :
    Inv P todos t := by
  obtain ⟨hsinc, hori, hman⟩ := h
  simp only [paso] at hpaso
  split at hpaso
  case h_2 => cases hpaso
  case h_1 n c hrec =>
    split at hpaso <;> cases hpaso
    rename_i hk
    rw [hrec] at hsinc
    refine ⟨hsinc.recibe hk.2.1 hk.2.2 hk.1, hori.receptor rfl rfl rfl rfl rfl fun _ => ?_,
      hman.leyendo hrec⟩
    rw [hrec]
    exact Option.some_ne_none _

theorem Inv.acusa (hP : Correcto P) (h : Inv P todos s) (hpaso : paso P s .acusa = some t) :
    Inv P todos t := by
  obtain ⟨hsinc, hori, hman⟩ := h
  simp only [paso] at hpaso
  split at hpaso <;> cases hpaso
  rename_i a hrec
  rw [hrec] at hsinc
  refine ⟨hsinc.acusa hP, hori.receptor rfl rfl rfl rfl rfl fun _ => ?_,
    ⟨s.recibidos, rfl, hman.leyendo hrec⟩⟩
  rw [hrec]
  exact Option.some_ne_none _

theorem Inv.maneja {x : ν} (h : Inv P todos s) (hpaso : paso P s (.maneja x) = some t) :
    Inv P todos t := by
  obtain ⟨hsinc, hori, hman⟩ := h
  simp only [paso] at hpaso
  split at hpaso
  case h_2 => cases hpaso
  case h_1 a hrec =>
    obtain ⟨xs, hrecibidos, hxs⟩ := hman.manejando hrec
    rw [hrec] at hsinc
    have hvivo : Receptor.lector P (.manejando a) ≠ none := Option.some_ne_none _
    split at hpaso <;> cases hpaso
    case h_1 r hmaneja =>
      refine ⟨hsinc.cambia hvivo rfl, hori.receptor rfl rfl rfl rfl rfl fun _ => ?_, fun b hb => ?_⟩
      · rw [hrec]
        exact hvivo
      · dsimp only at hb
        rw [hrecibidos] at hb
        rcases List.mem_append.mp hb with hb | hb
        · exact hxs b hb
        · rw [List.mem_singleton.mp hb]
          exact ⟨_, _, r, hmaneja⟩
    case h_2 hmaneja =>
      exact ⟨hsinc.rompe hvivo ⟨xs, a, _, _, hrecibidos, hmaneja⟩,
        hori.receptor rfl rfl rfl rfl rfl fun hr => absurd rfl hr, hman.dropLast⟩

theorem Inv.cae (hP : Correcto P) (h : Inv P todos s) (hpaso : paso P s .cae = some t) :
    Inv P todos t := by
  obtain ⟨hsinc, hori, hman⟩ := h
  have hmuerto : Receptor.lector P (.fin : Receptor α β) ≠ none → Receptor.lector P s.receptor ≠ none :=
    fun hr => absurd rfl hr
  have htodos : ∀ l, s.receptor = .leyendo l → s.emisor = .fin → s.enviados = todos := by
    intro l hrec hem
    refine (hori.fin hem).2.1 ?_
    rw [hrec]
    exact Option.some_ne_none _
  simp only [paso] at hpaso
  split at hpaso
  case h_1 hrec =>
    cases hpaso
    refine ⟨?_, hori.receptor rfl rfl rfl rfl rfl hmuerto, hman.dropLast⟩
    rw [hrec] at hsinc
    exact hsinc.cae hP (.inl rfl) (htodos _ hrec)
  case h_2 hrec hem hida =>
    cases hpaso
    refine ⟨?_, hori.receptor rfl rfl rfl rfl rfl hmuerto, hman.dropLast⟩
    rw [hrec] at hsinc
    exact hsinc.cae hP (.inr ⟨hem, hida⟩) (htodos _ hrec)
  case h_3 => cases hpaso

theorem Inv.paso (hP : Correcto P) (h : Inv P todos s) (hpaso : paso P s e = some t) : Inv P todos t := by
  cases e with
  | saca => exact h.saca hP hpaso
  | send k => exact h.send hpaso
  | ack => exact h.ack hpaso
  | corta => exact h.corta hpaso
  | recv k => exact h.recv hpaso
  | acusa => exact h.acusa hP hpaso
  | maneja x => exact h.maneja hpaso
  | cae => exact h.cae hP hpaso

theorem inv_alcanza (hP : Correcto P) {cola : List γ} {d : δ} {r : ρ}
    (h : Alcanza (paso P) (Enlace.inicial P cola d r) s) : Inv P (emision P d cola) s :=
  h.induccion (Inv.inicial cola d r) fun _ _ _ hinv hpaso => hinv.paso hP hpaso

/-! ## Where a run ends -/

/-- What the sender has still to do, and the receiver with what has arrived. -/
def Emisor.pasos : Emisor β → Nat
  | .listo => 1
  | .enviando resto => 5 * resto.length + 2
  | .fin => 0

def Receptor.pasos : Receptor α β → Nat
  | .leyendo (.listo _) => 3
  | .leyendo _ => 1
  | .manejando _ => 2
  | .fin => 0

omit [DecidableEq β] in
theorem Receptor.pasos_le (r : Receptor α β) : r.pasos ≤ 3 := by
  rcases r with l | a | _
  · cases l with
    | pide n k => exact Nat.le_add_left 1 2
    | listo a => exact Nat.le_refl 3
    | invalido => exact Nat.le_add_left 1 2
  · exact Nat.le_add_left 2 1
  · exact Nat.zero_le 3

/-- No run is longer, when the frame of an item is no longer than `largo`. -/
def medida (largo : γ → Nat) (s : Estado α β γ δ ρ) : Nat :=
  (s.cola.map fun x => 5 * largo x + 4).sum + s.emisor.pasos + 4 * s.ida.length + s.receptor.pasos

theorem medida_paso (hP : Correcto P) (largo : γ → Nat)
    (hlargo : ∀ d x a d', P.saca d x = .envia a d' → (P.trama a).length ≤ largo x)
    (hpaso : paso P s e = some t) : medida largo t < medida largo s := by
  obtain ⟨n, c, hpide⟩ := hP.pide
  cases e with
  | saca =>
    simp only [Enlace.paso] at hpaso
    split at hpaso
    case h_2 => cases hpaso
    case h_1 x xs hem hcola =>
      split at hpaso <;> cases hpaso
      case h_1 => simp only [medida, hem, hcola, List.map_cons, List.sum_cons]; omega
      case h_2 a d hsaca =>
        have ha := hlargo _ _ _ _ hsaca
        simp only [medida, hem, hcola, List.map_cons, List.sum_cons, Emisor.pasos]
        omega
      case h_3 =>
        simp only [medida, hem, hcola, List.map_cons, List.sum_cons, Emisor.pasos]
        omega
  | send k =>
    simp only [Enlace.paso] at hpaso
    split at hpaso
    case h_2 => cases hpaso
    case h_1 resto hem =>
      split at hpaso <;> cases hpaso
      simp only [medida, hem, Emisor.pasos, List.length_append, List.length_take, List.length_drop]
      omega
  | ack =>
    simp only [Enlace.paso] at hpaso
    split at hpaso
    case h_2 => cases hpaso
    case h_1 b bs hem hvuelta =>
      split at hpaso <;> cases hpaso <;> simp only [medida, hem, Emisor.pasos] <;> omega
  | corta =>
    simp only [Enlace.paso] at hpaso
    split at hpaso <;> cases hpaso
    rename_i hem hrec
    simp only [medida, hem, Emisor.pasos]
    omega
  | recv k =>
    simp only [Enlace.paso] at hpaso
    split at hpaso
    case h_2 => cases hpaso
    case h_1 m c' hrec =>
      split at hpaso <;> cases hpaso
      rename_i hk
      have hmax := Receptor.pasos_le (.leyendo (Lector.recibe m c' (s.ida.take k)))
      have huno : (Receptor.leyendo (.pide m c')).pasos = 1 := rfl
      simp only [medida, hrec, huno, List.length_drop]
      omega
  | acusa =>
    simp only [Enlace.paso] at hpaso
    split at hpaso <;> cases hpaso
    rename_i hrec
    simp only [medida, hrec, Receptor.pasos]
    omega
  | maneja x =>
    have huno : (Receptor.leyendo P.lector.avanza).pasos = 1 := by rw [hpide]; rfl
    simp only [Enlace.paso] at hpaso
    split at hpaso
    case h_2 => cases hpaso
    case h_1 a hrec =>
      split at hpaso <;> cases hpaso
      · simp only [medida, hrec, huno]
        simp only [Receptor.pasos]
        omega
      · simp only [medida, hrec, Receptor.pasos]
        omega
  | cae =>
    simp only [Enlace.paso] at hpaso
    split at hpaso
    case h_1 hrec =>
      cases hpaso
      simp only [medida, hrec, Receptor.pasos]
      omega
    case h_2 hrec hem hida =>
      cases hpaso
      simp only [medida, hrec, Receptor.pasos]
      omega
    case h_3 => cases hpaso

/-- Every run can go on until nobody can move. -/
theorem exists_final (hP : Correcto P) {largo : γ → Nat}
    (hlargo : ∀ d x a d', P.saca d x = .envia a d' → (P.trama a).length ≤ largo x)
    (s : Estado α β γ δ ρ) : ∃ t, Alcanza (paso P) s t ∧ Bloqueado (paso P) t :=
  exists_bloqueado (fun _ _ _ hpaso => medida_paso hP _ hlargo hpaso) s

variable {cola : List γ} {d : δ} {r : ρ}

/-- No run takes more steps than the packages and their frames allow. -/
theorem length_le (hP : Correcto P) {n : Nat}
    (hn : ∀ d x a d', P.saca d x = .envia a d' → (P.trama a).length ≤ n) {es : List (Evento ν)}
    (h : correr (paso P) (inicial P cola d r) es = some s) :
    es.length ≤ cola.length * (5 * n + 4) + 2 := by
  obtain ⟨m, c, hpide⟩ := hP.pide
  have hmedida : medida (fun _ => n) (inicial P cola d r) ≤ cola.length * (5 * n + 4) + 2 := by
    have huno : (Receptor.leyendo P.lector.avanza).pasos = 1 := by rw [hpide]; rfl
    simp only [medida, inicial, huno, List.map_const', List.sum_replicate, smul_eq_mul]
    exact Nat.le_refl _
  have hpasos := length_add_le (fun _ _ _ hpaso => medida_paso hP (fun _ => n) hn hpaso) h
  omega

/-- The packets that have been read are the first ones of those sent, and of these only the last one has
    not been acknowledged. -/
theorem prefijos (hP : Correcto P) (h : Alcanza (paso P) (inicial P cola d r) s) :
    s.recibidos <+: s.enviados ∧ s.enviados <+: emision P d cola ∧
      s.acusados + s.vuelta.length = s.recibidos.length ∧ s.enviados.length ≤ s.acusados + 1 := by
  have hinv := inv_alcanza hP h
  obtain ⟨hrecibidos, hacusados, hlargo⟩ := hinv.sincronia.cuentas
  refine ⟨hrecibidos, ?_, hacusados, hlargo⟩
  cases hem : s.emisor with
  | listo =>
    rw [← (hinv.origen.listo hem).1]
    exact List.prefix_append _ _
  | enviando resto =>
    rw [← (hinv.origen.enviando hem).1]
    exact List.prefix_append _ _
  | fin => exact (hinv.origen.fin hem).1

/-- `send` has taken nothing but frames of packets that are to be sent. -/
theorem escritos_prefix (hP : Correcto P) (h : Alcanza (paso P) (inicial P cola d r) s) :
    s.escritos <+: s.enviados.flatMap P.trama := by
  have hinv := inv_alcanza hP h
  cases hem : s.emisor with
  | listo => rw [(hinv.origen.listo hem).2]
  | enviando resto =>
    rw [← (hinv.origen.enviando hem).2]
    exact List.prefix_append _ _
  | fin => exact (hinv.origen.fin hem).2.2

theorem manejados_dropLast (hP : Correcto P) (h : Alcanza (paso P) (inicial P cola d r) s) :
    ∀ a ∈ s.recibidos.dropLast, Manejado P a := (inv_alcanza hP h).manejados.dropLast

/-- When nobody can move, everything has been read, unless the receiver failed with a packet that was not
    the last one. -/
theorem completo [Inhabited ν] (hP : Correcto P)
    (hmaneja : ∀ a ∈ (emision P d cola).dropLast, ∀ r x, P.maneja r a x ≠ none)
    (h : Alcanza (paso P) (inicial P cola d r) s) (hfin : Bloqueado (paso P) s) :
    s.recibidos = emision P d cola ∧
      ((∀ a ∈ emision P d cola, ∀ r x, P.maneja r a x ≠ none) →
        s.acusados = (emision P d cola).length) := by
  obtain ⟨hsinc, hori, -⟩ := inv_alcanza hP h
  obtain ⟨hrecibidos, henviados, -⟩ := prefijos hP h
  -- the receiver does not stay with a packet
  have hmanejando : ∀ a, s.receptor ≠ .manejando a := by
    intro a hrec
    have hquieto := hfin (.maneja default)
    simp only [paso, hrec] at hquieto
    split at hquieto <;> cases hquieto
  have hescrito : ∀ resto, s.emisor = .enviando resto → resto = [] := by
    intro resto hem
    by_contra hne
    have hquieto := hfin (.send 1)
    simp only [paso, hem] at hquieto
    rw [if_pos ⟨Nat.le_refl 1, List.length_pos_of_ne_nil hne⟩] at hquieto
    cases hquieto
  have hsaca := hfin .saca
  have hack := hfin .ack
  have hrecv := hfin (.recv 1)
  have hacusa := hfin .acusa
  generalize hem : s.emisor = em at hsinc
  generalize hida : s.ida = ida at hsinc
  generalize hvuelta : s.vuelta = vuelta at hsinc
  generalize hrec : s.receptor = rec at hsinc
  generalize hxs : s.enviados = xs at hsinc
  generalize hys : s.recibidos = ys at hsinc
  generalize hk : s.acusados = k at hsinc
  cases hsinc with
  | quieto he hr =>
    suffices htodos : s.enviados = emision P d cola by
      rw [← hxs, htodos]
      exact ⟨rfl, fun _ => rfl⟩
    rcases he with rfl | rfl
    · have htodos := (hori.listo hem).1
      cases hcola : s.cola with
      | nil =>
        rw [hcola, emision, List.append_nil] at htodos
        exact htodos
      | cons x xs =>
        simp only [paso, hem, hcola] at hsaca
        split at hsaca <;> cases hsaca
    · exact (hori.fin hem).2.1 (by rw [hrec, hr]; exact Option.some_ne_none _)
  | @enCurso resto _ _ l _ a hr hpide hl =>
    rw [hescrito resto hem, List.append_nil] at hl
    cases rec with
    | fin => cases hr
    | manejando a => exact absurd hrec (hmanejando a)
    | leyendo l' =>
      cases hr
      cases l with
      | invalido => exact absurd hl Lector.Espera.invalido
      | listo a =>
        simp only [paso, hrec] at hacusa
        cases hacusa
      | pide n c =>
        have hn : n ≠ 0 := fun hn => hpide c (by rw [hn])
        have hlargo := hl.pide
        simp only [paso, hrec, hida] at hrecv
        rw [if_pos ⟨Nat.le_refl 1, by omega, by omega⟩] at hrecv
        cases hrecv
  | acusado hr =>
    simp only [paso, hem, hvuelta, if_pos] at hack
    cases hack
  | cerrado => exact ⟨rfl, fun _ => rfl⟩
  | roto _ _ _ _ _ _ hmal =>
    obtain ⟨zs, a, r, x, rfl, hnada⟩ := hmal
    obtain ⟨resto, htodos⟩ := hrecibidos.trans henviados
    rw [hys] at htodos
    cases resto with
    | nil =>
      rw [List.append_nil] at htodos
      refine ⟨htodos, fun htodo => absurd hnada (htodo a ?_ r x)⟩
      rw [← htodos]
      exact List.mem_append_right _ (List.mem_singleton_self a)
    | cons b resto =>
      refine absurd hnada (hmaneja a ?_ r x)
      rw [← htodos, List.dropLast_append_of_ne_nil (List.cons_ne_nil b resto)]
      exact List.mem_append_left _ (List.mem_append_right _ (List.mem_singleton_self a))

end Enlace
