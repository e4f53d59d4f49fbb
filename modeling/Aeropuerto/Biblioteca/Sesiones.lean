import Aeropuerto.Biblioteca.Enlace

/-!
# A link that is lost and made again

The two sides of a link go from one session to the next.  A session is a run of `Enlace` that either side
may leave at any moment, and both meet again with nothing on the streams.  The queue of the sender goes on;
the packet that it was sending is not sent again, and what the receiver had read of a frame is forgotten.  A
receiver that fails with a packet ends for good.
-/

namespace Sesiones

open Ejecucion Enlace

variable {α β γ δ ρ ν κ : Type}

/-- `enlace` is the session that goes on; of those before it, what has been sent, received and
    acknowledged. -/
structure Estado (α β γ δ ρ : Type) where
  enlace : Enlace.Estado α β γ δ ρ
  enviados : List α
  recibidos : List α
  acusados : List α
  reconexiones : Nat
  -- the packets that the receiver has done something with, and the items that have come to the queue
  manejados : List α
  encolados : List γ
  salio : Bool

inductive Evento (γ ρ ν κ : Type) where
  | encola (x : γ)
  | enlace (e : Enlace.Evento ν)
  -- the connection fails under the sender, or under the receiver
  | fallaEmisor
  | fallaReceptor
  | conecta (y : κ)
  -- what others do with the data of the receiver
  | entorno (r : ρ)

/-- What an event of the session does to the receiver outside of it. -/
def anota (s : Estado α β γ δ ρ) (l : Enlace.Estado α β γ δ ρ) : Enlace.Evento ν → Estado α β γ δ ρ
  | .maneja _ =>
    match s.enlace.receptor, l.receptor with
    | .manejando a, .leyendo _ => { s with enlace := l, manejados := s.manejados ++ [a] }
    | _, _ => { s with enlace := l, salio := true }
  | _ => { s with enlace := l }

/-- The session after this one. -/
def siguiente (P : Protocolo α β γ δ ρ ν) (s : Estado α β γ δ ρ) (r : ρ) : Estado α β γ δ ρ :=
  { s with
    enlace := Enlace.inicial P s.enlace.cola s.enlace.driver r
    enviados := s.enviados ++ s.enlace.enviados
    recibidos := s.recibidos ++ s.enlace.recibidos
    acusados := s.acusados ++ s.enlace.enviados.take s.enlace.acusados
    reconexiones := s.reconexiones + 1 }

/-- The receiver does `reinicia` between two sessions, with `none` for an exception. -/
def paso [DecidableEq β] (P : Protocolo α β γ δ ρ ν) (reinicia : ρ → κ → Option ρ)
    (s : Estado α β γ δ ρ) : Evento γ ρ ν κ → Option (Estado α β γ δ ρ)
  | .encola x =>
    some { s with enlace := { s.enlace with cola := s.enlace.cola ++ [x] }, encolados := s.encolados ++ [x] }
  | .enlace e => (Enlace.paso P s.enlace e).map fun l => anota s l e
  | .fallaEmisor =>
    match s.enlace.emisor with
    | .enviando _ => some { s with enlace := { s.enlace with emisor := .fin } }
    | _ => none
  | .fallaReceptor =>
    match s.enlace.receptor with
    | .leyendo _ => some { s with enlace := { s.enlace with receptor := .fin } }
    | _ => none
  | .conecta y =>
    match s.enlace.emisor, s.enlace.receptor, s.salio with
    | .fin, .fin, false =>
      match reinicia s.enlace.datos y with
      | some r => some (siguiente P s r)
      | none => some { s with salio := true }
    | _, _, _ => none
  | .entorno r => some { s with enlace := { s.enlace with datos := r } }

def inicial (P : Protocolo α β γ δ ρ ν) (d : δ) (r : ρ) : Estado α β γ δ ρ where
  enlace := Enlace.inicial P [] d r
  enviados := []
  recibidos := []
  acusados := []
  reconexiones := 0
  manejados := []
  encolados := []
  salio := false

namespace Estado

variable (s : Estado α β γ δ ρ)

def todosEnviados : List α := s.enviados ++ s.enlace.enviados

def todosRecibidos : List α := s.recibidos ++ s.enlace.recibidos

/-- The packets whose byte has come. -/
def todosAcusados : List α := s.acusados ++ s.enlace.enviados.take s.enlace.acusados

end Estado

/-! ## What the sender makes of a queue -/

variable (P : Protocolo α β γ δ ρ ν)

/-- The packets of the sessions that a queue lasts: an item that ends one of them is left out. -/
def emision (d : δ) : List γ → List α
  | [] => []
  | x :: xs =>
    match P.saca d x with
    | .descarta d' => emision d' xs
    | .envia a d' => a :: emision d' xs
    | .termina => emision d xs

/-- What the sender keeps after a queue. -/
def driverTras (d : δ) : List γ → δ
  | [] => d
  | x :: xs =>
    match P.saca d x with
    | .descarta d' | .envia _ d' => driverTras d' xs
    | .termina => driverTras d xs

variable {P}

theorem emision_append (d : δ) (xs ys : List γ) :
    emision P d (xs ++ ys) = emision P d xs ++ emision P (driverTras P d xs) ys := by
  induction xs generalizing d with
  | nil => rfl
  | cons x xs ih =>
    rw [List.cons_append, emision, emision, driverTras]
    cases P.saca d x with
    | descarta d' => exact ih d'
    | envia a d' =>
      dsimp only
      rw [ih d']
      rfl
    | termina => exact ih d

theorem driverTras_append (d : δ) (xs ys : List γ) :
    driverTras P d (xs ++ ys) = driverTras P (driverTras P d xs) ys := by
  induction xs generalizing d with
  | nil => rfl
  | cons x xs ih =>
    rw [List.cons_append, driverTras, driverTras]
    cases P.saca d x with
    | descarta d' => exact ih d'
    | envia a d' => exact ih d'
    | termina => exact ih d

/-! ## One session -/

/-- Sender, streams, receiver, packets sent and read and bytes acknowledged in a session that may have been
    left by either side. -/
structure Sesion (P : Protocolo α β γ δ ρ ν) (em : Emisor β) (ida vuelta : List β) (r : Receptor α β)
    (xs ys : List α) (k : Nat) : Prop where
  prefijo : ys <+: xs
  cuenta : k + vuelta.length = ys.length
  acuses : ∀ b ∈ vuelta, b = P.acuse
  listo : em = .listo → xs.length = k
  enviando : ∀ resto, em = .enviando resto → xs.length = k + 1
  largo : xs.length ≤ k + 1
  -- the receiver is between two frames, or in the one that is being sent
  lectura : ∀ l, Receptor.lector P r = some l →
    (xs = ys ∧ l = P.lector.avanza ∧ ida = [] ∧ ∀ resto, em = .enviando resto → resto = []) ∨
      ∃ a resto, xs = ys ++ [a] ∧ (∀ resto', em = .enviando resto' → resto' = resto) ∧
        (∀ c, l ≠ .pide 0 c) ∧ l.Espera (ida ++ resto) a

variable {em : Emisor β} {ida vuelta : List β} {r r' : Receptor α β} {xs ys : List α} {k : Nat}

theorem Sesion.inicial : Sesion P .listo [] [] (.leyendo P.lector.avanza) [] [] 0 where
  prefijo := List.prefix_rfl
  cuenta := rfl
  acuses b hb := by cases hb
  listo _ := rfl
  enviando resto h := by cases h
  largo := Nat.zero_le 1
  lectura l hl := by
    cases hl
    exact .inl ⟨rfl, rfl, rfl, fun resto h => (by cases h)⟩

/-- A sender at the queue has had everything acknowledged. -/
theorem Sesion.quieta (h : Sesion P .listo ida vuelta r xs ys k) :
    xs = ys ∧ vuelta = [] ∧ ∀ l, Receptor.lector P r = some l → l = P.lector.avanza ∧ ida = [] := by
  have hlargo := h.listo rfl
  have hcuenta := h.cuenta
  have hprefijo := h.prefijo.length_le
  have higuales : xs = ys := (h.prefijo.eq_of_length (by omega)).symm
  refine ⟨higuales, List.eq_nil_of_length_eq_zero (by omega), fun l hl => ?_⟩
  rcases h.lectura l hl with ⟨-, havanza, hida, -⟩ | ⟨a, resto, hxs, -⟩
  · exact ⟨havanza, hida⟩
  · have hmas := congrArg List.length (higuales.symm.trans hxs)
    rw [List.length_append, List.length_singleton] at hmas
    omega

theorem Sesion.toma (hP : Correcto P) (h : Sesion P .listo ida vuelta r xs ys k) (a : α) :
    Sesion P (.enviando (P.trama a)) ida vuelta r (xs ++ [a]) ys k := by
  have hlargo : (xs ++ [a]).length = k + 1 := by
    rw [List.length_append, List.length_singleton, h.listo rfl]
  refine ⟨h.prefijo.trans (List.prefix_append _ _), h.cuenta, h.acuses, fun hem => (by cases hem),
    fun _ _ => hlargo, hlargo.le, fun l hl => .inr ⟨a, P.trama a, ?_, ?_, ?_⟩⟩
  · rw [h.quieta.1]
  · rintro resto' ⟨⟩
    rfl
  · obtain ⟨rfl, rfl⟩ := h.quieta.2.2 l hl
    exact ⟨Lector.avanza_ne_pide_zero _, (hP.lee a).avanza⟩

/-- The sender leaves. -/
theorem Sesion.fallaEmisor (h : Sesion P em ida vuelta r xs ys k) : Sesion P .fin ida vuelta r xs ys k := by
  refine ⟨h.prefijo, h.cuenta, h.acuses, fun hem => (by cases hem), fun _ hem => (by cases hem), h.largo,
    fun l hl => ?_⟩
  rcases h.lectura l hl with ⟨hxs, hl', hida, -⟩ | ⟨a, resto, hxs, -, hpide, hespera⟩
  · exact .inl ⟨hxs, hl', hida, fun _ hem => (by cases hem)⟩
  · exact .inr ⟨a, resto, hxs, fun _ hem => (by cases hem), hpide, hespera⟩

/-- The receiver leaves. -/
theorem Sesion.fallaReceptor (h : Sesion P em ida vuelta r xs ys k) :
    Sesion P em ida vuelta .fin xs ys k :=
  ⟨h.prefijo, h.cuenta, h.acuses, h.listo, h.enviando, h.largo, fun _ hl => (by cases hl)⟩

theorem Sesion.cambia (h : Sesion P em ida vuelta r xs ys k)
    (hr : Receptor.lector P r' = Receptor.lector P r) : Sesion P em ida vuelta r' xs ys k :=
  ⟨h.prefijo, h.cuenta, h.acuses, h.listo, h.enviando, h.largo, fun l hl => h.lectura l (hr ▸ hl)⟩

theorem Sesion.escribe {resto : List β} {m : Nat} (h : Sesion P (.enviando resto) ida vuelta r xs ys k)
    (hm₀ : 1 ≤ m) (hm : m ≤ resto.length) :
    Sesion P (.enviando (resto.drop m)) (ida ++ resto.take m) vuelta r xs ys k := by
  refine ⟨h.prefijo, h.cuenta, h.acuses, fun hem => (by cases hem), fun _ _ => h.enviando resto rfl, h.largo,
    fun l hl => ?_⟩
  rcases h.lectura l hl with ⟨-, -, -, hresto⟩ | ⟨a, resto', hxs, hresto, hpide, hespera⟩
  · rw [hresto resto rfl, List.length_nil] at hm
    omega
  · refine .inr ⟨a, resto.drop m, hxs, ?_, hpide, ?_⟩
    · rintro _ ⟨⟩
      rfl
    · rw [List.append_assoc, List.take_append_drop, hresto resto rfl]
      exact hespera

/-- The byte that the sender waits for is the right one. -/
theorem Sesion.ack {b : β} {bs : List β} (h : Sesion P (.enviando []) ida (b :: bs) r xs ys k) :
    b = P.acuse ∧ Sesion P .listo ida bs r xs ys (k + 1) := by
  have hlargo := h.enviando [] rfl
  have hcuenta := h.cuenta
  rw [List.length_cons] at hcuenta
  refine ⟨h.acuses b List.mem_cons_self, h.prefijo, by omega,
    fun c hc => h.acuses c (List.mem_cons_of_mem b hc), fun _ => hlargo, fun _ hem => (by cases hem), by omega,
    fun l hl => ?_⟩
  rcases h.lectura l hl with ⟨hxs, hl', hida, -⟩ | ⟨a, resto, hxs, -⟩
  · exact .inl ⟨hxs, hl', hida, fun _ hem => (by cases hem)⟩
  · have hmas := congrArg List.length hxs
    rw [List.length_append, List.length_singleton] at hmas
    omega

theorem Sesion.recibe {n m : Nat} {c : List β → Lector α β}
    (h : Sesion P em ida vuelta (.leyendo (.pide n c)) xs ys k) (hm₀ : 1 ≤ m) (hn : m ≤ n)
    (hm : m ≤ ida.length) :
    Sesion P em (ida.drop m) vuelta (.leyendo (Lector.recibe n c (ida.take m))) xs ys k := by
  refine ⟨h.prefijo, h.cuenta, h.acuses, h.listo, h.enviando, h.largo, fun l hl => ?_⟩
  cases hl
  rcases h.lectura _ rfl with ⟨-, -, hida, -⟩ | ⟨a, resto, hxs, hresto, -, hespera⟩
  · rw [hida, List.length_nil] at hm
    omega
  · have hlargo : (ida.take m).length ≤ n := by
      rw [List.length_take]
      omega
    refine .inr ⟨a, resto, hxs, hresto, Lector.avanza_ne_pide_zero _, Lector.Espera.recibe ?_ hlargo⟩
    rwa [← List.append_assoc, List.take_append_drop]

/-- What is read is what is being sent. -/
theorem Sesion.acusa {a : α} (hP : Correcto P) (h : Sesion P em ida vuelta (.leyendo (.listo a)) xs ys k) :
    Sesion P em ida (vuelta ++ [P.acuse]) (.manejando a) xs (ys ++ [a]) k := by
  obtain ⟨n, c, hpide⟩ := hP.pide
  have hcuenta := h.cuenta
  rcases h.lectura _ rfl with ⟨-, hlisto, -⟩ | ⟨b, resto, hxs, hresto, -, hespera⟩
  · rw [hpide] at hlisto
    cases hlisto
  · obtain ⟨rfl, hnada⟩ := hespera.listo
    obtain ⟨rfl, rfl⟩ := List.append_eq_nil_iff.mp hnada
    refine ⟨by rw [hxs], ?_, fun c hc => ?_, h.listo, h.enviando, h.largo, fun l hl => ?_⟩
    · rw [List.length_append, List.length_append, List.length_singleton, List.length_singleton]
      omega
    · rcases List.mem_append.mp hc with hc | hc
      · exact h.acuses c hc
      · exact List.mem_singleton.mp hc
    · cases hl
      exact .inl ⟨hxs, rfl, rfl, hresto⟩

/-- The packets whose byte has come have been read, and one more at most has been begun. -/
theorem Sesion.acusados (h : Sesion P em ida vuelta r xs ys k) :
    (xs.take k).Sublist ys ∧ xs.length ≤ (xs.take k).length + 1 := by
  have hcuenta := h.cuenta
  have hlargo := h.largo
  have hprefijo := h.prefijo.length_le
  have htake : xs.take k = ys.take k := by
    obtain ⟨zs, rfl⟩ := h.prefijo
    exact List.take_append_of_le_length (by omega)
  refine ⟨htake ▸ List.take_sublist k ys, ?_⟩
  rw [List.length_take]
  omega

/-! ## All the sessions -/

variable {s t : Estado α β γ δ ρ} {d : δ} {reinicia : ρ → κ → Option ρ}

/-- The receiver has done something with all it has read, but for the packet that it has or that it failed
    with. -/
def Manejados (P : Protocolo α β γ δ ρ ν) (reinicia : ρ → κ → Option ρ) (s : Estado α β γ δ ρ) : Prop :=
  match s.enlace.receptor with
  | .leyendo _ => s.todosRecibidos = s.manejados ∧ s.salio = false
  | .manejando a => s.todosRecibidos = s.manejados ++ [a] ∧ s.salio = false
  | .fin => (s.todosRecibidos = s.manejados ∧ (s.salio = true → ∃ r y, reinicia r y = none)) ∨
      s.salio = true ∧ ∃ a r x, s.todosRecibidos = s.manejados ++ [a] ∧ P.maneja r a x = none

structure Inv (P : Protocolo α β γ δ ρ ν) (reinicia : ρ → κ → Option ρ) (d : δ) (s : Estado α β γ δ ρ) : Prop where
  sesion : Sesion P s.enlace.emisor s.enlace.ida s.enlace.vuelta s.enlace.receptor s.enlace.enviados
    s.enlace.recibidos s.enlace.acusados
  -- the sessions before this one
  recibidos : s.recibidos.Sublist s.enviados
  acusados : s.acusados.Sublist s.recibidos
  perdidos : s.enviados.length ≤ s.acusados.length + s.reconexiones
  origen : s.todosEnviados ++ emision P s.enlace.driver s.enlace.cola = emision P d s.encolados
  driver : driverTras P s.enlace.driver s.enlace.cola = driverTras P d s.encolados
  manejados : Manejados P reinicia s

theorem Inv.inicial (d : δ) (r : ρ) : Inv P reinicia d (inicial P d r) where
  sesion := Sesion.inicial
  recibidos := List.Sublist.refl _
  acusados := List.Sublist.refl _
  perdidos := Nat.le_refl _
  origen := rfl
  driver := rfl
  manejados := ⟨rfl, rfl⟩

variable {l : Enlace.Estado α β γ δ ρ}

/-- A step of the session that is neither of the queue nor of the receiver. -/
theorem Inv.cambia (h : Inv P reinicia d s)
    (hsesion : Sesion P l.emisor l.ida l.vuelta l.receptor l.enviados l.recibidos l.acusados)
    (hcola : l.cola = s.enlace.cola) (hdriver : l.driver = s.enlace.driver)
    (henviados : l.enviados = s.enlace.enviados) (hman : Manejados P reinicia { s with enlace := l }) :
    Inv P reinicia d { s with enlace := l } := by
  refine ⟨hsesion, h.recibidos, h.acusados, h.perdidos, ?_, ?_, hman⟩
  · rw [Estado.todosEnviados, henviados, hcola, hdriver]
    exact h.origen
  · rw [hcola, hdriver]
    exact h.driver

theorem Manejados.cambia (h : Manejados P reinicia s) (hrec : l.receptor = s.enlace.receptor)
    (hrecibidos : l.recibidos = s.enlace.recibidos) : Manejados P reinicia { s with enlace := l } := by
  unfold Manejados Estado.todosRecibidos at h ⊢
  dsimp only
  rw [hrec, hrecibidos]
  exact h

theorem Manejados.leyendo {l : Lector α β} (h : Manejados P reinicia s) (hrec : s.enlace.receptor = .leyendo l) :
    s.todosRecibidos = s.manejados ∧ s.salio = false := by
  rw [Manejados, hrec] at h
  exact h

theorem Manejados.manejando {a : α} (h : Manejados P reinicia s) (hrec : s.enlace.receptor = .manejando a) :
    s.todosRecibidos = s.manejados ++ [a] ∧ s.salio = false := by
  rw [Manejados, hrec] at h
  exact h

theorem Manejados.fin (h : Manejados P reinicia s) (hrec : s.enlace.receptor = .fin) (hsalio : s.salio = false) :
    s.todosRecibidos = s.manejados := by
  rw [Manejados, hrec] at h
  rcases h with ⟨h, -⟩ | ⟨hsi, -⟩
  · exact h
  · rw [hsalio] at hsi
    cases hsi

/-- It leaves a session between two frames or in one. -/
theorem Manejados.cae {l : Lector α β} (h : Manejados P reinicia s) (hrec : s.enlace.receptor = .leyendo l) :
    Manejados P reinicia { s with enlace := { s.enlace with receptor := .fin } } := by
  obtain ⟨htodos, hsalio⟩ := h.leyendo hrec
  refine .inl ⟨htodos, fun hsi => ?_⟩
  dsimp only at hsi
  rw [hsalio] at hsi
  cases hsi

theorem Manejados.prefijo (h : Manejados P reinicia s) :
    s.manejados <+: s.todosRecibidos ∧ s.todosRecibidos.length ≤ s.manejados.length + 1 := by
  have huno : ∀ a, s.todosRecibidos = s.manejados ++ [a] →
      s.manejados <+: s.todosRecibidos ∧ s.todosRecibidos.length ≤ s.manejados.length + 1 := by
    intro a ha
    rw [ha, List.length_append]
    exact ⟨List.prefix_append _ _, Nat.le_refl _⟩
  have hnada : s.todosRecibidos = s.manejados →
      s.manejados <+: s.todosRecibidos ∧ s.todosRecibidos.length ≤ s.manejados.length + 1 := by
    intro hnada
    rw [hnada]
    exact ⟨List.prefix_rfl, Nat.le_succ _⟩
  cases hrec : s.enlace.receptor with
  | leyendo l => exact hnada (h.leyendo hrec).1
  | manejando a => exact huno a (h.manejando hrec).1
  | fin =>
    rw [Manejados, hrec] at h
    rcases h with ⟨h, -⟩ | ⟨-, a, -, -, ha, -⟩
    · exact hnada h
    · exact huno a ha

variable [DecidableEq β]

theorem Inv.saca (hP : Correcto P) (h : Inv P reinicia d s) (hpaso : Enlace.paso P s.enlace .saca = some l) :
    Inv P reinicia d { s with enlace := l } := by
  have hsesion := h.sesion
  have horigen := h.origen
  have hdriver := h.driver
  simp only [Enlace.paso] at hpaso
  split at hpaso
  case h_2 => cases hpaso
  case h_1 x xs hem hcola =>
    rw [hem] at hsesion
    rw [hcola, emision] at horigen
    rw [hcola, driverTras] at hdriver
    split at hpaso <;> cases hpaso
    case h_1 d' hsaca =>
      rw [hsaca] at horigen hdriver
      exact ⟨by rw [hem]; exact hsesion, h.recibidos, h.acusados, h.perdidos, horigen, hdriver,
        h.manejados.cambia rfl rfl⟩
    case h_2 a d' hsaca =>
      rw [hsaca] at horigen hdriver
      refine ⟨hsesion.toma hP a, h.recibidos, h.acusados, h.perdidos, ?_, hdriver,
        h.manejados.cambia rfl rfl⟩
      rw [Estado.todosEnviados, ← List.append_assoc, List.append_assoc]
      exact horigen
    case h_3 hsaca =>
      rw [hsaca] at horigen hdriver
      exact ⟨hsesion.fallaEmisor, h.recibidos, h.acusados, h.perdidos, horigen, hdriver,
        h.manejados.cambia rfl rfl⟩

theorem Inv.send {k : Nat} (h : Inv P reinicia d s) (hpaso : Enlace.paso P s.enlace (.send k) = some l) :
    Inv P reinicia d { s with enlace := l } := by
  have hsesion := h.sesion
  simp only [Enlace.paso] at hpaso
  split at hpaso
  case h_2 => cases hpaso
  case h_1 resto hem =>
    rw [hem] at hsesion
    split at hpaso <;> cases hpaso
    rename_i hk
    exact h.cambia (hsesion.escribe hk.1 hk.2) rfl rfl rfl (h.manejados.cambia rfl rfl)

theorem Inv.ack (h : Inv P reinicia d s) (hpaso : Enlace.paso P s.enlace .ack = some l) :
    Inv P reinicia d { s with enlace := l } := by
  have hsesion := h.sesion
  simp only [Enlace.paso] at hpaso
  split at hpaso
  case h_2 => cases hpaso
  case h_1 b bs hem hvuelta =>
    rw [hem, hvuelta] at hsesion
    obtain ⟨rfl, hsesion'⟩ := hsesion.ack
    rw [if_pos rfl] at hpaso
    cases hpaso
    exact h.cambia hsesion' rfl rfl rfl (h.manejados.cambia rfl rfl)

theorem Inv.corta (h : Inv P reinicia d s) (hpaso : Enlace.paso P s.enlace .corta = some l) :
    Inv P reinicia d { s with enlace := l } := by
  simp only [Enlace.paso] at hpaso
  split at hpaso <;> cases hpaso
  exact h.cambia h.sesion.fallaEmisor rfl rfl rfl (h.manejados.cambia rfl rfl)

theorem Inv.recv {k : Nat} (h : Inv P reinicia d s) (hpaso : Enlace.paso P s.enlace (.recv k) = some l) :
    Inv P reinicia d { s with enlace := l } := by
  have hsesion := h.sesion
  simp only [Enlace.paso] at hpaso
  split at hpaso
  case h_2 => cases hpaso
  case h_1 n c hrec =>
    rw [hrec] at hsesion
    split at hpaso <;> cases hpaso
    rename_i hk
    exact h.cambia (hsesion.recibe hk.1 hk.2.1 hk.2.2) rfl rfl rfl (h.manejados.leyendo hrec)

theorem Inv.acusa (hP : Correcto P) (h : Inv P reinicia d s) (hpaso : Enlace.paso P s.enlace .acusa = some l) :
    Inv P reinicia d { s with enlace := l } := by
  have hsesion := h.sesion
  simp only [Enlace.paso] at hpaso
  split at hpaso <;> cases hpaso
  rename_i a hrec
  rw [hrec] at hsesion
  obtain ⟨htodos, hsalio⟩ := h.manejados.leyendo hrec
  refine h.cambia (hsesion.acusa hP) rfl rfl rfl ⟨?_, hsalio⟩
  rw [Estado.todosRecibidos, ← List.append_assoc]
  exact congrArg (· ++ [a]) htodos

theorem Inv.maneja {x : ν} (h : Inv P reinicia d s) (hpaso : Enlace.paso P s.enlace (.maneja x) = some l) :
    Inv P reinicia d (anota s l (.maneja x)) := by
  have hsesion := h.sesion
  simp only [Enlace.paso] at hpaso
  split at hpaso
  case h_2 => cases hpaso
  case h_1 a hrec =>
    rw [hrec] at hsesion
    obtain ⟨htodos, hsalio⟩ := h.manejados.manejando hrec
    split at hpaso <;> cases hpaso
    case h_1 r hmaneja =>
      rw [anota, hrec]
      exact ⟨hsesion.cambia rfl, h.recibidos, h.acusados, h.perdidos, h.origen, h.driver, htodos, hsalio⟩
    case h_2 hmaneja =>
      rw [anota, hrec]
      exact ⟨hsesion.fallaReceptor, h.recibidos, h.acusados, h.perdidos, h.origen, h.driver,
        .inr ⟨rfl, a, _, _, htodos, hmaneja⟩⟩

theorem Inv.cae (h : Inv P reinicia d s) (hpaso : Enlace.paso P s.enlace .cae = some l) :
    Inv P reinicia d { s with enlace := l } := by
  simp only [Enlace.paso] at hpaso
  split at hpaso
  case h_1 hrec =>
    cases hpaso
    exact h.cambia h.sesion.fallaReceptor rfl rfl rfl (h.manejados.cae hrec)
  case h_2 hrec hem hida =>
    cases hpaso
    exact h.cambia h.sesion.fallaReceptor rfl rfl rfl (h.manejados.cae hrec)
  case h_3 => cases hpaso

theorem Inv.enlace {e : Enlace.Evento ν} (hP : Correcto P) (h : Inv P reinicia d s)
    (hpaso : Enlace.paso P s.enlace e = some l) : Inv P reinicia d (anota s l e) := by
  cases e with
  | saca => exact h.saca hP hpaso
  | send k => exact h.send hpaso
  | ack => exact h.ack hpaso
  | corta => exact h.corta hpaso
  | recv k => exact h.recv hpaso
  | acusa => exact h.acusa hP hpaso
  | maneja x => exact h.maneja hpaso
  | cae => exact h.cae hpaso

omit [DecidableEq β] in
/-- What has been sent in a session goes to the account, with one packet lost at most. -/
theorem Inv.siguiente (h : Inv P reinicia d s) (hrec : s.enlace.receptor = .fin) (hsalio : s.salio = false)
    (r : ρ) : Inv P reinicia d (siguiente P s r) := by
  obtain ⟨hacusados, hlargo⟩ := h.sesion.acusados
  have hperdidos := h.perdidos
  refine ⟨Sesion.inicial, h.recibidos.append h.sesion.prefijo.sublist, h.acusados.append hacusados, ?_, ?_,
    h.driver, ?_, hsalio⟩
  · simp only [Sesiones.siguiente, List.length_append]
    omega
  · rw [Estado.todosEnviados]
    exact (congrArg (· ++ _) (List.append_nil _)).trans h.origen
  · rw [Estado.todosRecibidos]
    exact (List.append_nil _).trans (h.manejados.fin hrec hsalio)

theorem Inv.paso {e : Evento γ ρ ν κ} (hP : Correcto P) (h : Inv P reinicia d s)
    (hpaso : paso P reinicia s e = some t) : Inv P reinicia d t := by
  cases e with
  | encola x =>
    cases hpaso
    refine ⟨h.sesion, h.recibidos, h.acusados, h.perdidos, ?_, ?_, h.manejados.cambia rfl rfl⟩
    · dsimp only
      rw [emision_append, emision_append, ← h.driver, ← h.origen, List.append_assoc]
      rfl
    · dsimp only
      rw [driverTras_append, driverTras_append, h.driver]
  | enlace e =>
    simp only [Sesiones.paso, Option.map_eq_some_iff] at hpaso
    obtain ⟨l, hl, rfl⟩ := hpaso
    exact h.enlace hP hl
  | fallaEmisor =>
    simp only [Sesiones.paso] at hpaso
    split at hpaso <;> cases hpaso
    exact h.cambia h.sesion.fallaEmisor rfl rfl rfl (h.manejados.cambia rfl rfl)
  | fallaReceptor =>
    simp only [Sesiones.paso] at hpaso
    split at hpaso <;> cases hpaso
    rename_i hrec
    exact h.cambia h.sesion.fallaReceptor rfl rfl rfl (h.manejados.cae hrec)
  | conecta y =>
    simp only [Sesiones.paso] at hpaso
    split at hpaso
    case h_2 => cases hpaso
    case h_1 hem hrec hsalio =>
      split at hpaso <;> cases hpaso
      case h_1 => exact h.siguiente hrec hsalio _
      case h_2 hreinicia =>
        refine ⟨h.sesion, h.recibidos, h.acusados, h.perdidos, h.origen, h.driver, ?_⟩
        rw [Manejados, hrec]
        exact .inl ⟨h.manejados.fin hrec hsalio, fun _ => ⟨_, y, hreinicia⟩⟩
  | entorno r =>
    cases hpaso
    exact h.cambia h.sesion rfl rfl rfl (h.manejados.cambia rfl rfl)

theorem inv_alcanza (hP : Correcto P) {r : ρ} (h : Alcanza (paso P reinicia) (Sesiones.inicial P d r) s) :
    Inv P reinicia d s :=
  h.induccion (Inv.inicial d r) fun _ _ _ hinv hpaso => hinv.paso hP hpaso

omit [DecidableEq β] in
/-- Of a kind of items no more is lost than of all of them. -/
theorem length_filterMap_le (f : α → Option γ) {xs ys : List α} (h : xs.Sublist ys) :
    (ys.filterMap f).length + xs.length ≤ (xs.filterMap f).length + ys.length := by
  induction h with
  | slnil => exact Nat.le_refl _
  | @cons xs ys y hsub ih =>
    have hmas : ((y :: ys).filterMap f).length ≤ (ys.filterMap f).length + 1 := by
      rw [List.filterMap_cons]
      split
      · exact Nat.le_succ _
      · exact Nat.le_refl _
    rw [List.length_cons]
    omega
  | @cons_cons xs ys y hsub ih =>
    rw [List.filterMap_cons, List.filterMap_cons, List.length_cons, List.length_cons]
    split
    · omega
    · rw [List.length_cons, List.length_cons]
      omega

/-- Nothing is read twice nor out of order in all the sessions, what has been acknowledged has been read,
    and a session loses one packet at most. -/
theorem perdidas (hP : Correcto P) {r : ρ} (h : Alcanza (paso P reinicia) (Sesiones.inicial P d r) s) :
    (s.todosAcusados.Sublist s.todosRecibidos ∧ s.todosRecibidos.Sublist s.todosEnviados ∧
      s.todosEnviados <+: emision P d s.encolados) ∧
    s.todosEnviados.length ≤ s.todosAcusados.length + s.reconexiones + 1 ∧
    (s.enlace.emisor = .listo → s.enlace.cola = [] →
      (emision P d s.encolados).length ≤ s.todosAcusados.length + s.reconexiones) := by
  have hinv := inv_alcanza hP h
  obtain ⟨hacusados, hlargo⟩ := hinv.sesion.acusados
  have hperdidos := hinv.perdidos
  refine ⟨⟨hinv.acusados.append hacusados, hinv.recibidos.append hinv.sesion.prefijo.sublist, ?_⟩, ?_,
    fun hem hcola => ?_⟩
  · rw [← hinv.origen]
    exact List.prefix_append _ _
  · rw [Estado.todosEnviados, Estado.todosAcusados, List.length_append, List.length_append]
    omega
  · have horigen := hinv.origen
    have hcuenta := hinv.sesion.listo hem
    rw [hcola, emision, List.append_nil] at horigen
    rw [← horigen, Estado.todosEnviados, Estado.todosAcusados, List.length_append, List.length_append,
      List.length_take]
    omega

/-- Why the receiver ended. -/
theorem salida (hP : Correcto P) {r : ρ} (h : Alcanza (paso P reinicia) (Sesiones.inicial P d r) s)
    (hsalio : s.salio = true) :
    (∃ r y, reinicia r y = none) ∨ ∃ a ∈ s.todosRecibidos, ∃ r x, P.maneja r a x = none := by
  have hman := (inv_alcanza hP h).manejados
  cases hrec : s.enlace.receptor with
  | leyendo l =>
    rw [(hman.leyendo hrec).2] at hsalio
    cases hsalio
  | manejando a =>
    rw [(hman.manejando hrec).2] at hsalio
    cases hsalio
  | fin =>
    rw [Manejados, hrec] at hman
    rcases hman with ⟨-, hreinicia⟩ | ⟨-, a, r, x, ha, hmaneja⟩
    · exact .inl (hreinicia hsalio)
    · refine .inr ⟨a, ?_, r, x, hmaneja⟩
      rw [ha]
      exact List.mem_append_right _ (List.mem_singleton_self a)

theorem manejados_prefix (hP : Correcto P) {r : ρ}
    (h : Alcanza (paso P reinicia) (Sesiones.inicial P d r) s) :
    s.manejados <+: s.todosRecibidos ∧ s.todosRecibidos.length ≤ s.manejados.length + 1 :=
  (inv_alcanza hP h).manejados.prefijo

end Sesiones
