import Mathlib.Data.List.Basic
import Mathlib.Tactic.Common

/-!
# Buffers over a byte stream

A buffer has a fixed size, and an access that leaves it is a fault.  What is copied piece after piece
into a buffer is, at each moment, a mixture of the source and of what the buffer had before; receiving
from a stream that is cut anywhere and sending through a socket that takes any part at a time are two
instances of this.
-/

namespace Flujo

variable {β σ : Type*} {n : Nat}

/-- The access leaves the buffer, or the peer closes the connection. -/
inductive Falla where
  | fueraDeRango
  | cerrado
  deriving DecidableEq, Repr

@[ext] structure Bufer (β : Type*) (n : Nat) where
  datos : List β
  largo : datos.length = n

def Bufer.leer (b : Bufer β n) (desde cuantos : Nat) : Except Falla (List β) :=
  if desde + cuantos ≤ n then .ok ((b.datos.drop desde).take cuantos) else .error .fueraDeRango

def Bufer.escribir (b : Bufer β n) (desde : Nat) (xs : List β) : Except Falla (Bufer β n) :=
  if h : desde + xs.length ≤ n then
    .ok ⟨b.datos.take desde ++ xs ++ b.datos.drop (desde + xs.length), by
      have := b.largo
      simp only [List.length_append, List.length_take, List.length_drop]
      omega⟩
  else .error .fueraDeRango

/-- `memcpy(destino + d, origen + o, cuantos)`. -/
def Bufer.memcpy {k : Nat} (destino : Bufer β n) (d : Nat) (origen : Bufer β k) (o cuantos : Nat) :
    Except Falla (Bufer β n) := do
  destino.escribir d (← origen.leer o cuantos)

/-! ## Half-copied buffers -/

/-- The first `a` cells of `xs` over `ys`. -/
def mezcla (a : Nat) (xs ys : List β) : List β := xs.take a ++ ys.drop a

@[simp] theorem mezcla_zero (xs ys : List β) : mezcla 0 xs ys = ys := by simp [mezcla]

theorem mezcla_length {xs ys : List β} (h : xs.length = ys.length) : mezcla xs.length xs ys = xs := by
  rw [mezcla, List.take_length, h, List.drop_length, List.append_nil]

theorem take_mezcla {a : Nat} {xs ys : List β} (h : a ≤ xs.length) :
    (mezcla a xs ys).take a = xs.take a :=
  List.take_left' (List.length_take_of_le h)

theorem drop_mezcla {a k : Nat} {xs ys : List β} (h : a ≤ xs.length) :
    (mezcla a xs ys).drop (a + k) = ys.drop (a + k) := by
  have ha := List.length_take_of_le h
  rw [mezcla, List.drop_append, List.drop_eq_nil_of_le (by omega), List.nil_append, ha,
    Nat.add_sub_cancel_left, List.drop_drop]

theorem leer_ok {b : Bufer β n} {desde cuantos : Nat} (h : desde + cuantos ≤ n) :
    b.leer desde cuantos = .ok ((b.datos.drop desde).take cuantos) :=
  if_pos h

theorem length_tramo {xs : List β} {a k : Nat} (h : a + k ≤ xs.length) :
    ((xs.drop a).take k).length = k :=
  List.length_take_of_le (by rw [List.length_drop]; omega)

/-- A read depends on the cells it reads. -/
theorem leer_congr {k : Nat} {b : Bufer β n} {b' : Bufer β k} {a desde cuantos : Nat}
    (h : b.datos.take a = b'.datos.take a) (ha : desde + cuantos ≤ a) (hn : a ≤ n) (hk : a ≤ k) :
    b.leer desde cuantos = b'.leer desde cuantos := by
  have htramo : ∀ xs : List β,
      (xs.drop desde).take cuantos = ((xs.take a).drop desde).take cuantos := by
    intro xs
    rw [List.drop_take, List.take_take, Nat.min_eq_left (by omega)]
  rw [leer_ok (by omega), leer_ok (by omega), htramo b.datos, h, ← htramo b'.datos]

/-- What is written is read back, and what is before it stays. -/
theorem escribir_ok {b : Bufer β n} {desde : Nat} {xs : List β} (h : desde + xs.length ≤ n) :
    ∃ b', b.escribir desde xs = .ok b' ∧ b'.datos.take desde = b.datos.take desde ∧
      (b'.datos.drop desde).take xs.length = xs := by
  have hdesde : (b.datos.take desde).length = desde :=
    List.length_take_of_le (by rw [b.largo]; omega)
  refine ⟨_, dif_pos h, ?_, ?_⟩
  · show (b.datos.take desde ++ xs ++ _).take desde = _
    rw [List.append_assoc, List.take_left' hdesde]
  · show ((b.datos.take desde ++ xs ++ _).drop desde).take xs.length = xs
    rw [List.append_assoc, List.drop_left' hdesde, List.take_left' rfl]

theorem escribir_cero {b : Bufer β n} {xs : List β} (h : xs.length ≤ n) :
    ∃ b', b.escribir 0 xs = .ok b' ∧ b'.datos = xs ++ b.datos.drop xs.length := by
  refine ⟨_, dif_pos (by omega), ?_⟩
  show b.datos.take 0 ++ xs ++ b.datos.drop (0 + xs.length) = _
  rw [List.take_zero, List.nil_append, Nat.zero_add]

/-- The next piece of `xs` extends the part that has been copied. -/
theorem escribir_mezcla {b : Bufer β n} {xs ys : List β} {a k : Nat} (hb : b.datos = mezcla a xs ys)
    (hx : a + k ≤ xs.length) (hn : a + k ≤ n) :
    ∃ b', b.escribir a ((xs.drop a).take k) = .ok b' ∧ b'.datos = mezcla (a + k) xs ys := by
  have hk := length_tramo hx
  refine ⟨_, dif_pos (by omega), ?_⟩
  show b.datos.take a ++ _ ++ b.datos.drop (a + _) = _
  rw [hk, hb, take_mezcla (by omega), drop_mezcla (by omega), mezcla, List.take_add]

/-! ## Loops that count up -/

theorem ok_bind.{u} {α γ : Type u} (a : α) (f : α → Except Falla γ) : (Except.ok a >>= f) = f a := (rfl)

/-- The state after each iteration satisfies the invariant of the next one. -/
theorem foldlM_range (paso : σ → Nat → Except Falla σ) (I : Nat → σ → Prop) {s : σ} (h₀ : I 0 s)
    (hpaso : ∀ i s, i < n → I i s → ∃ s', paso s i = .ok s' ∧ I (i + 1) s') :
    ∃ s', (List.range n).foldlM paso s = .ok s' ∧ I n s' := by
  induction n with
  | zero => exact ⟨s, rfl, h₀⟩
  | succ n ih =>
    obtain ⟨s₁, hs₁, hI₁⟩ := ih fun i s hi => hpaso i s (by omega)
    obtain ⟨s₂, hs₂, hI₂⟩ := hpaso n s₁ (by omega) hI₁
    refine ⟨s₂, ?_, hI₂⟩
    rw [List.range_succ, List.foldlM_append, hs₁]
    show [n].foldlM paso s₁ = _
    rw [List.foldlM_cons, hs₂]
    rfl

/-- Two loops whose iterations agree on the states that satisfy the invariant. -/
theorem foldlM_congr {paso paso' : σ → Nat → Except Falla σ} {I : σ → Prop} {l : List Nat} {s : σ}
    (hs : I s) (h : ∀ s, ∀ i ∈ l, I s → paso s i = paso' s i)
    (hI : ∀ s, ∀ i ∈ l, ∀ s', I s → paso s i = .ok s' → I s') : l.foldlM paso s = l.foldlM paso' s := by
  induction l generalizing s with
  | nil => rfl
  | cons i l ih =>
    rw [List.foldlM_cons, List.foldlM_cons, ← h s i List.mem_cons_self hs]
    cases hp : paso s i with
    | error e => rfl
    | ok s' =>
      exact ih (hI s i List.mem_cons_self s' hs hp) (fun s j hj => h s j (List.mem_cons_of_mem _ hj))
        fun s j hj => hI s j (List.mem_cons_of_mem _ hj)

/-! ## Receiving -/

/-- What is still to be received, and how much each receive brings: at least one byte when there is
    one, and no more than it is asked for. -/
structure Red (β : Type*) where
  bytes : List β
  trozos : List Nat

def Red.receivesome (r : Red β) (cuantos : Nat) : List β × Red β :=
  let k := min (max 1 (r.trozos.headD cuantos)) cuantos
  (r.bytes.take k, ⟨r.bytes.drop k, r.trozos.tail⟩)

/-- Fills the buffer from `cant` on, one receive after another.  It ends before the buffer is full,
    with `false`, when the part received makes `corta` true or the peer closes the connection. -/
def recibir (corta : List β → Bool) (b : Bufer β n) (r : Red β) (cant : Nat) :
    Except Falla (Bufer β n × Red β × Bool) :=
  let (leidos, r') := r.receivesome (n - cant)
  match b.escribir cant leidos with
  | .error e => .error e
  | .ok b' =>
    if corta b'.datos then .ok (b', r', false)
    else if _ : leidos = [] then .ok (b', r', false)
    else if cant + leidos.length < n then recibir corta b' r' (cant + leidos.length)
    else .ok (b', r', true)
termination_by n - cant
decreasing_by
  rename_i hne hlt
  have := List.length_pos_of_ne_nil hne
  omega

/-- However the stream is cut, what is received is what was sent. -/
theorem recibir_ok {corta : List β → Bool} {b : Bufer β n} {r : Red β} {mensaje viejo resto : List β}
    {cant : Nat} (hn : mensaje.length = n) (hviejo : viejo.length = n) (hcant : cant < n)
    (hb : b.datos = mezcla cant mensaje viejo)
    (hr : r.bytes = mensaje.drop cant ++ resto)
    (hcorta : ∀ a, 0 < a → a ≤ n → corta (mezcla a mensaje viejo) = false) :
    ∃ b' r', recibir corta b r cant = .ok (b', r', true) ∧ b'.datos = mensaje ∧ r'.bytes = resto := by
  obtain ⟨m, hm⟩ : ∃ m, n - cant = m := ⟨_, rfl⟩
  induction m using Nat.strongRecOn generalizing b r cant with
  | ind m ih =>
    obtain ⟨k, hk⟩ : ∃ k, min (max 1 (r.trozos.headD (n - cant))) (n - cant) = k := ⟨_, rfl⟩
    have hk₁ : 0 < k ∧ cant + k ≤ n := by omega
    have hleidos : r.bytes.take k = (mensaje.drop cant).take k := by
      rw [hr, List.take_append_of_le_length (by rw [List.length_drop]; omega)]
    have hdrop : r.bytes.drop k = mensaje.drop (cant + k) ++ resto := by
      rw [hr, List.drop_append_of_le_length (by rw [List.length_drop]; omega), List.drop_drop]
    have hlargo := length_tramo (show cant + k ≤ mensaje.length by omega)
    obtain ⟨b', hb', hdatos⟩ := escribir_mezcla (k := k) hb (by omega) (by omega)
    have hne : (mensaje.drop cant).take k ≠ [] := List.ne_nil_of_length_pos (by omega)
    rw [recibir]
    simp only [Red.receivesome, hk, hleidos, hb', hdatos, hcorta (cant + k) (by omega) hk₁.2,
      Bool.false_eq_true, if_false, dif_neg hne, hlargo, hdrop]
    split
    · exact ih (n - (cant + k)) (by omega) (by omega) hdatos rfl rfl
    · have hfin : cant + k = mensaje.length := by omega
      refine ⟨b', _, rfl, ?_, ?_⟩
      · rw [hdatos, hfin]
        exact mezcla_length (hn.trans hviejo.symm)
      · simp only [hfin, List.drop_length, List.nil_append]

/-! ## Sending -/

/-- Sends the buffer from `enviados` on.  `preparar` is done before each attempt; an attempt is
    interrupted or takes at most so many bytes, and after the attempts of the list all is taken. -/
def enviar (preparar : Bufer β n → Bufer β n) :
    Bufer β n → List (Option Nat) → Nat → List β → Except Falla (Bufer β n × List β × List (Option Nat))
  | b, intentos, enviados, salida =>
    if enviados < n then
      match intentos with
      | [] => do
        let b := preparar b
        let xs ← b.leer enviados (n - enviados)
        return (b, salida ++ xs, [])
      | none :: intentos => enviar preparar (preparar b) intentos enviados salida
      | some k :: intentos => do
        let b := preparar b
        let xs ← b.leer enviados (min k (n - enviados))
        enviar preparar b intentos (enviados + xs.length) (salida ++ xs)
    else .ok (b, salida, intentos)

/-- Whatever part is taken each time, the whole buffer is sent once. -/
theorem enviar_ok {preparar : Bufer β n → Bufer β n} (hp : ∀ b, preparar (preparar b) = preparar b)
    {b : Bufer β n} {intentos : List (Option Nat)} {enviados : Nat} {salida : List β}
    (hb : enviados < n ∨ preparar b = b) (hn : enviados ≤ n) :
    ∃ intentos', enviar preparar b intentos enviados salida =
      .ok (preparar b, salida ++ (preparar b).datos.drop enviados, intentos') := by
  induction intentos generalizing b enviados salida with
  | nil =>
    unfold enviar
    split
    · have htodo : ((preparar b).datos.drop enviados).take (n - enviados) =
          (preparar b).datos.drop enviados :=
        List.take_of_length_le (Nat.le_of_eq (by rw [List.length_drop, Bufer.largo]))
      refine ⟨[], ?_⟩
      simp only [leer_ok (show enviados + (n - enviados) ≤ n by omega), htodo]
      rfl
    · rename_i hfin
      rw [hb.resolve_left hfin, List.drop_eq_nil_of_le (by rw [b.largo]; omega), List.append_nil]
      exact ⟨[], rfl⟩
  | cons intento intentos ih =>
    unfold enviar
    split
    · cases intento with
      | none =>
        obtain ⟨intentos', h⟩ := ih (b := preparar b) (.inr (hp b)) hn
        rw [hp b] at h
        exact ⟨intentos', h⟩
      | some k =>
        have hlargo := (preparar b).largo
        obtain ⟨j, hj⟩ : ∃ j, min k (n - enviados) = j := ⟨_, rfl⟩
        have htramo := length_tramo (show enviados + j ≤ (preparar b).datos.length by omega)
        have hsigue := List.take_append_drop j ((preparar b).datos.drop enviados)
        have hresto : enviados + j ≤ n := by omega
        obtain ⟨intentos', h⟩ := @ih (preparar b) (enviados + j)
          (salida ++ ((preparar b).datos.drop enviados).take j) (.inr (hp b)) hresto
        rw [hp b, List.append_assoc, ← List.drop_drop, hsigue] at h
        refine ⟨intentos', ?_⟩
        simp only [hj, leer_ok hresto]
        show enviar preparar (preparar b) intentos (enviados + _) _ = _
        rw [htramo, h]
    · rename_i hfin
      rw [hb.resolve_left hfin, List.drop_eq_nil_of_le (by rw [b.largo]; omega), List.append_nil]
      exact ⟨_, rfl⟩

end Flujo
