import Mathlib.Data.List.TakeDrop
import Aeropuerto.Broker.InitParser

/-!
# The buffer of the init parser over a sequence of lines

The first buffer has one byte more than `size`, and those that replace it have `size` bytes: once a line
has replaced the buffer, the line that is one character longer is not given another and does not fit.
-/

namespace InitParser

open Cadenas

/-- A C string. -/
abbrev Linea := {l : List UInt8 // 0 ∉ l}

/-- What follows the first word of the line and the blanks after it. -/
def desdeValor (l : List UInt8) : List UInt8 := (l.dropWhile (· != blanco)).dropWhile (· == blanco)

/-- There is a blank, and a bracket that follows it is closed, or followed by another blank. -/
def Cortable (l : List UInt8) : Prop :=
  blanco ∈ l ∧ ((desdeValor l).head? = some abre → ∃ c ∈ desdeValor l, c = blanco ∨ c = cierra)

/-- What `vector` returns after the line. -/
def vectorDe (sizeofEquipaje : Nat) (l : List UInt8) : Int :=
  match desdeValor l with
  | [] => 1
  | c :: cola =>
    if c = abre then parseIntVal sizeofEquipaje (cola.takeWhile fun c => c != blanco && c != cierra) else 1

/-- What `type` returns after the line. -/
def tipoDe (tipo : Nat) (l : List UInt8) : Nat :=
  if l.takeWhile (· != blanco) = bytes "int" then tInt else tipo

def largoMax (ls : List Linea) : Nat := (ls.map fun l => l.1.length).foldr max 0

section

variable (nuevo : Nat → List UInt8) (sizeofEquipaje : Nat)

/-- Each line is parsed without leaving the buffer, and the loops stop at the end of the line or before. -/
def Dentro (p : Parser) : List Linea → Prop
  | [] => True
  | l :: ls => ∃ p' fines, p.parseLine nuevo sizeofEquipaje l.1 = some (p', fines) ∧
      (∀ f ∈ fines, f ≤ l.1.length) ∧ Dentro p' ls

end

variable {nuevo : Nat → List UInt8} {sizeofEquipaje m n : Nat} {p p' q : Parser} {l viejo : List UInt8}
  {fines : List Nat}

/-! ## Cutting one line -/

theorem exists_primero {P : UInt8 → Prop} [DecidablePred P] {l : List UInt8} (h : ∃ c ∈ l, P c) :
    ∃ xs c ys, l = xs ++ c :: ys ∧ (∀ x ∈ xs, ¬P x) ∧ P c := by
  induction l with
  | nil =>
    obtain ⟨c, hc, -⟩ := h
    cases hc
  | cons a l ih =>
    by_cases ha : P a
    · exact ⟨[], a, l, rfl, by simp, ha⟩
    · have hl : ∃ c ∈ l, P c := by
        obtain ⟨c, hc, hpc⟩ := h
        rcases List.mem_cons.mp hc with rfl | hc
        · exact absurd hpc ha
        · exact ⟨c, hc, hpc⟩
      obtain ⟨xs, c, ys, rfl, hxs, hc⟩ := ih hl
      refine ⟨a :: xs, c, ys, rfl, fun x hx => ?_, hc⟩
      rcases List.mem_cons.mp hx with rfl | hx
      · exact ha
      · exact hxs x hx

theorem exists_blancos (l : List UInt8) :
    ∃ xs ys, l = xs ++ ys ∧ (∀ x ∈ xs, x = blanco) ∧ ys.head? ≠ some blanco := by
  induction l with
  | nil => exact ⟨[], [], rfl, by simp, by simp⟩
  | cons a l ih =>
    by_cases ha : a = blanco
    · obtain ⟨xs, ys, rfl, hxs, hys⟩ := ih
      refine ⟨a :: xs, ys, rfl, fun x hx => ?_, hys⟩
      rcases List.mem_cons.mp hx with rfl | hx
      · exact ha
      · exact hxs x hx
    · refine ⟨[], a :: l, rfl, by simp, ?_⟩
      rw [List.head?_cons]
      exact fun h => ha (Option.some.inj h)

theorem desdeValor_partes {tipo blancos resto : List UInt8} (htipo : ∀ c ∈ tipo, c ≠ blanco)
    (hblancos : ∀ c ∈ blancos, c = blanco) (hresto : resto.head? ≠ some blanco) :
    desdeValor (tipo ++ blanco :: (blancos ++ resto)) = resto := by
  have hresto' : resto.dropWhile (· == blanco) = resto := by
    cases resto with
    | nil => rfl
    | cons c resto =>
      refine List.dropWhile_cons_of_neg ?_
      rw [beq_iff_eq]
      rintro rfl
      exact hresto rfl
  rw [desdeValor, List.dropWhile_append_of_pos fun c hc => bne_iff_ne.mpr (htipo c hc),
    List.dropWhile_cons_of_neg (by decide), List.dropWhile_cons_of_pos (by decide),
    List.dropWhile_append_of_pos fun c hc => beq_iff_eq.mpr (hblancos c hc), hresto']

/-- A line with a blank has a first word and what follows the blanks. -/
theorem exists_partes (h : blanco ∈ l) : ∃ tipo blancos resto, l = tipo ++ blanco :: (blancos ++ resto) ∧
    (∀ c ∈ tipo, c ≠ blanco) ∧ (∀ c ∈ blancos, c = blanco) ∧ resto.head? ≠ some blanco ∧
    desdeValor l = resto := by
  obtain ⟨tipo, c, cola, rfl, htipo, rfl⟩ := exists_primero (P := (· = blanco)) ⟨blanco, h, rfl⟩
  obtain ⟨blancos, resto, rfl, hblancos, hresto⟩ := exists_blancos cola
  exact ⟨tipo, blancos, resto, rfl, htipo, hblancos, hresto, desdeValor_partes htipo hblancos hresto⟩

theorem tipoDe_partes {tipo cola : List UInt8} (htipo : ∀ c ∈ tipo, c ≠ blanco) (p : Parser) :
    p.parseType tipo = tipoDe p.tipo (tipo ++ blanco :: cola) := by
  have hpalabra : (tipo ++ blanco :: cola).takeWhile (· != blanco) = tipo := by
    rw [List.takeWhile_append_of_pos fun c hc => bne_iff_ne.mpr (htipo c hc),
      List.takeWhile_cons_of_neg (by decide), List.append_nil]
  rw [tipoDe, hpalabra, Parser.parseType]

theorem vectorDe_simple (hresto : (desdeValor l).head? ≠ some abre) : vectorDe sizeofEquipaje l = 1 := by
  rw [vectorDe]
  cases hl : desdeValor l with
  | nil => rfl
  | cons c cola =>
    rw [hl, List.head?_cons] at hresto
    exact if_neg fun hc => hresto (congrArg some hc)

theorem vectorDe_vector {tok cola : List UInt8} {fin : UInt8} (hl : desdeValor l = abre :: (tok ++ fin :: cola))
    (htok : ∀ c ∈ tok, c ≠ blanco ∧ c ≠ cierra) (hfin : fin = blanco ∨ fin = cierra) :
    vectorDe sizeofEquipaje l = parseIntVal sizeofEquipaje tok := by
  have hseguir : ∀ c ∈ tok, (c != blanco && c != cierra) = true := fun c hc => by
    rw [Bool.and_eq_true, bne_iff_ne, bne_iff_ne]
    exact htok c hc
  have hpara : (fin != blanco && fin != cierra) = false := by rcases hfin with rfl | rfl <;> rfl
  rw [vectorDe, hl]
  dsimp only
  rw [if_pos rfl, List.takeWhile_append_of_pos hseguir,
    List.takeWhile_cons_of_neg (by rw [hpara]; exact Bool.false_ne_true), List.append_nil]

/-- A line that can be cut is cut within the line. -/
theorem cortar_dentro (sizeofEquipaje : Nat) (p : Parser) (viejo : List UInt8) (h : Cortable l)
    (hcero : 0 ∉ l) : ∃ p' fines,
    p.cortar sizeofEquipaje (l ++ 0 :: viejo) = some (p', fines) ∧ (∀ f ∈ fines, f ≤ l.length) ∧
      p'.size = p.size ∧ p'.linea.length = (l ++ 0 :: viejo).length ∧ p'.tipo = tipoDe p.tipo l ∧
      p'.cantVector = vectorDe sizeofEquipaje l := by
  obtain ⟨hblanco, hcierra⟩ := h
  obtain ⟨tipo, blancos, resto, rfl, htipo, hblancos, hresto, hdesde⟩ := exists_partes hblanco
  rw [hdesde] at hcierra
  have htipo' : ∀ c ∈ tipo, c ≠ blanco ∧ c ≠ 0 := by
    intro c hc
    refine ⟨htipo c hc, ?_⟩
    rintro rfl
    exact hcero (List.mem_append_left _ hc)
  have hresto' : 0 ∉ resto := fun h =>
    hcero (List.mem_append_right _ (List.mem_cons_of_mem _ (List.mem_append_right _ h)))
  by_cases habre : resto.head? = some abre
  · obtain ⟨cola, rfl⟩ := List.head?_eq_some_iff.mp habre
    have hcola : ∃ c ∈ cola, c = blanco ∨ c = cierra := by
      obtain ⟨c, hc, hfin⟩ := hcierra habre
      rcases List.mem_cons.mp hc with rfl | hc
      · exact absurd hfin (by decide)
      · exact ⟨c, hc, hfin⟩
    obtain ⟨tok, fin, cola', rfl, htok, hfin⟩ := exists_primero hcola
    obtain ⟨blancos', val, rfl, hblancos', hval⟩ := exists_blancos cola'
    have htok' : ∀ c ∈ tok, c ≠ blanco ∧ c ≠ cierra ∧ c ≠ 0 := by
      intro c hc
      refine ⟨fun h => htok c hc (.inl h), fun h => htok c hc (.inr h), ?_⟩
      rintro rfl
      exact hresto' (List.mem_cons_of_mem _ (List.mem_append_left _ hc))
    have hval' : 0 ∉ val := fun h => hresto' (List.mem_cons_of_mem _
      (List.mem_append_right _ (List.mem_cons_of_mem _ (List.mem_append_right _ h))))
    have hbuf : tipo ++ blanco :: (blancos ++ abre :: (tok ++ fin :: (blancos' ++ val))) ++ 0 :: viejo =
        tipo ++ blanco :: (blancos ++ abre :: (tok ++ fin :: (blancos' ++ (val ++ 0 :: viejo)))) := by
      simp only [List.append_assoc, List.cons_append]
    rw [hbuf]
    refine ⟨_, _, cortar_vector htipo' hblancos htok' hfin hblancos' hval hval', ?_, rfl, ?_,
      tipoDe_partes htipo p,
      (vectorDe_vector hdesde (fun c hc => ⟨(htok' c hc).1, (htok' c hc).2.1⟩) hfin).symm⟩
    · simp only [List.forall_mem_cons, List.length_append, List.length_cons]
      refine ⟨?_, ?_, ?_, ?_, by simp⟩ <;> omega
    · show (tipo ++ 0 :: _).length = _
      simp only [List.length_append, List.length_cons]
  · have hbuf : tipo ++ blanco :: (blancos ++ resto) ++ 0 :: viejo =
        tipo ++ blanco :: (blancos ++ (resto ++ 0 :: viejo)) := by
      simp only [List.append_assoc, List.cons_append]
    rw [hbuf]
    refine ⟨_, _, cortar_simple htipo' hblancos hresto habre hresto', ?_, rfl, ?_, tipoDe_partes htipo p,
      (vectorDe_simple (by rwa [hdesde])).symm⟩
    · simp only [List.forall_mem_cons, List.length_append, List.length_cons]
      refine ⟨?_, ?_, by simp⟩ <;> omega
    · show (tipo ++ 0 :: _).length = _
      simp only [List.length_append, List.length_cons]

/-- What the loops did in a line that was cut. -/
theorem cortar_inv {linea : List UInt8} (h : p.cortar sizeofEquipaje linea = some (p', fines)) :
    ∃ pos₁ linea₁ pos₂ c, mientras (· != blanco) linea 0 = some pos₁ ∧ poner linea pos₁ 0 = some linea₁ ∧
      mientras (· == blanco) linea₁ (pos₁ + 1) = some pos₂ ∧ leer linea₁ pos₂ = some c ∧ pos₁ ∈ fines ∧
      (c = abre → ∃ pos₃, mientras (fun c => c != blanco && c != cierra) linea₁ pos₂ = some pos₃ ∧
        pos₃ ∈ fines) := by
  obtain ⟨pos₁, h₁, h⟩ := Option.bind_eq_some_iff.mp h
  obtain ⟨linea₁, hponer, h⟩ := Option.bind_eq_some_iff.mp h
  obtain ⟨pos₂, h₂, h⟩ := Option.bind_eq_some_iff.mp h
  obtain ⟨c, hleer, h⟩ := Option.bind_eq_some_iff.mp h
  refine ⟨pos₁, linea₁, pos₂, c, h₁, hponer, h₂, hleer, ?_⟩
  split at h
  case isTrue habre =>
    obtain ⟨pos₃, h₃, h⟩ := Option.bind_eq_some_iff.mp h
    obtain ⟨linea₂, -, h⟩ := Option.bind_eq_some_iff.mp h
    obtain ⟨pos₄, -, h⟩ := Option.bind_eq_some_iff.mp h
    obtain ⟨q, -, h⟩ := Option.bind_eq_some_iff.mp h
    cases h
    exact ⟨by simp, fun _ => ⟨pos₃, h₃, by simp⟩⟩
  case isFalse habre =>
    obtain ⟨q, -, h⟩ := Option.bind_eq_some_iff.mp h
    cases h
    exact ⟨by simp, fun h => absurd h habre⟩

/-- A line that is cut within the line can be cut: a loop that finds nothing to stop at goes past the zero
    byte. -/
theorem cortable_of_cortar (h : p.cortar sizeofEquipaje (l ++ 0 :: viejo) = some (p', fines))
    (hfines : ∀ f ∈ fines, f ≤ l.length) : Cortable l := by
  obtain ⟨pos₁, linea₁, pos₂, c, h₁, hponer, h₂, hleer, hpos₁, h₃⟩ := cortar_inv h
  have hblanco : blanco ∈ l := by
    by_contra hno
    rw [List.append_cons] at h₁
    have hpasa := mientras_pasa_cero (fun c hc => ?_) h₁
    · have hfin := hfines pos₁ hpos₁
      rw [List.length_append, List.length_singleton] at hpasa
      omega
    · rw [bne_iff_ne]
      rintro rfl
      rcases List.mem_append.mp hc with hc | hc
      · exact hno hc
      · exact absurd (List.mem_singleton.mp hc) (by decide)
  refine ⟨hblanco, fun habre => ?_⟩
  obtain ⟨tipo, blancos, resto, rfl, htipo, hblancos, hresto, hdesde⟩ := exists_partes hblanco
  rw [hdesde] at habre ⊢
  obtain ⟨cola, rfl⟩ := List.head?_eq_some_iff.mp habre
  by_contra hno
  have hbuf : tipo ++ blanco :: (blancos ++ abre :: cola) ++ 0 :: viejo =
      tipo ++ blanco :: (blancos ++ (abre :: cola ++ 0 :: viejo)) := by
    simp only [List.append_assoc, List.cons_append]
  rw [hbuf, mientras_para_cero (fun c hc => bne_iff_ne.mpr (htipo c hc)) (bne_self_eq_false blanco)] at h₁
  cases h₁
  rw [hbuf, poner_append rfl] at hponer
  cases hponer
  have hantes : (tipo ++ [0] ++ blancos).length = tipo.length + 1 + blancos.length := by
    rw [List.length_append, List.length_append, List.length_singleton]
  have hcero : (tipo ++ [0]).length = tipo.length + 1 := List.length_append
  rw [List.append_cons] at h₂ hleer h₃
  rw [List.cons_append, mientras_para hcero (fun c hc => beq_iff_eq.mpr (hblancos c hc)) rfl] at h₂
  cases h₂
  rw [List.cons_append, ← List.append_assoc, leer_append hantes] at hleer
  cases hleer
  obtain ⟨pos₃, h₃, hpos₃⟩ := h₃ rfl
  have hpartes : tipo ++ [0] ++ (blancos ++ (abre :: cola ++ 0 :: viejo)) =
      tipo ++ [0] ++ blancos ++ (abre :: cola ++ [0] ++ viejo) := by
    simp only [List.append_assoc, List.cons_append, List.nil_append]
  rw [hpartes] at h₃
  have hpasa := mientras_pasa hantes (fun c hc => ?_) h₃
  · have hfin := hfines pos₃ hpos₃
    simp only [List.length_append, List.length_cons, List.length_nil] at hpasa hfin
    omega
  · rw [Bool.and_eq_true, bne_iff_ne, bne_iff_ne]
    rcases List.mem_append.mp hc with hc | hc
    · exact ⟨fun h => hno ⟨c, hc, .inl h⟩, fun h => hno ⟨c, hc, .inr h⟩⟩
    · rw [List.mem_singleton.mp hc]
      exact ⟨by decide, by decide⟩

/-! ## The buffer -/

/-- The buffer and `size` after lines the longest of which has `m` characters. -/
structure Reservado (p : Parser) (m : Nat) : Prop where
  menor : m < 2 ^ 31 - 1
  primero : m ≤ 100 → p.size = 100 ∧ p.linea.length = 101
  nuevo : 100 < m → p.size = m + 1 ∧ p.linea.length = m + 1

/-- A line of `n` characters has room after lines of up to `m`. -/
def Cabe (m n : Nat) : Prop := n < 2 ^ 31 - 1 ∧ ¬(100 < m ∧ n = m + 1)

theorem nuevoBufer_length (nuevo : Nat → List UInt8) (n : Nat) : (nuevoBufer nuevo n).length = n :=
  List.takeD_length _ _ _

theorem aInt_of_lt {n : Nat} (h : n < 2 ^ 31) : aInt n = n := by
  unfold aInt
  rw [Int.bmod_eq_of_le] <;> omega

theorem aInt_lt (x : Int) : aInt x < 2 ^ 31 := by
  unfold aInt
  have h := Int.bmod_lt (x := x) (m := 2 ^ 32) (by decide)
  omega

theorem strcpy_cabe {linea : List UInt8} (h : l.length + 1 ≤ linea.length) :
    ∃ viejo, strcpy linea l = some (l ++ 0 :: viejo) ∧ (l ++ 0 :: viejo).length = linea.length := by
  have hcopia : strcpy linea l = some (l ++ 0 :: linea.drop (l.length + 1)) := if_pos h
  exact ⟨_, hcopia, strcpy_length hcopia⟩

/-- A line that has room is copied, to a buffer of its own when it is the longest of all. -/
theorem reservar_cabe (nuevo : Nat → List UInt8) (h : Reservado p m) (hn : Cabe m l.length) :
    ∃ q viejo, p.reservar nuevo l = some q ∧ strcpy q.linea l = some (l ++ 0 :: viejo) ∧
      (l ++ 0 :: viejo).length = q.linea.length ∧ Reservado q (max m l.length) ∧ q.tipo = p.tipo := by
  obtain ⟨hmenor, huno⟩ := hn
  have hm := h.menor
  unfold Parser.reservar
  rw [aInt_of_lt (by omega)]
  dsimp only
  by_cases hlen : (l.length : Int) > p.size
  · have hint : (l.length : Int) + 1 < 2 ^ 31 := by omega
    have hnuevo : (nuevoBufer nuevo ((l.length : Int) + 1).toNat).length = l.length + 1 := by
      rw [nuevoBufer_length]
      omega
    have hmax : max m l.length = l.length ∧ 100 < l.length := by
      by_cases hcien : m ≤ 100
      · have hsize := (h.primero hcien).1
        omega
      · have hsize := (h.nuevo (by omega)).1
        omega
    obtain ⟨viejo, hcopia, hlargo⟩ := strcpy_cabe (Nat.le_of_eq hnuevo.symm)
    rw [if_pos hlen, if_pos hint]
    refine ⟨_, viejo, rfl, hcopia, hlargo, ?_, rfl⟩
    rw [hmax.1]
    exact ⟨hmenor, fun hno => by omega, fun _ => ⟨rfl, hnuevo⟩⟩
  · rw [if_neg hlen]
    have hcabe : l.length + 1 ≤ p.linea.length ∧ Reservado p (max m l.length) := by
      by_cases hcien : m ≤ 100
      · obtain ⟨hsize, hlargo⟩ := h.primero hcien
        exact ⟨by omega, by omega, fun _ => ⟨hsize, hlargo⟩, fun hno => by omega⟩
      · obtain ⟨hsize, hlargo⟩ := h.nuevo (by omega)
        have hmax : max m l.length = m := by omega
        rw [hmax]
        exact ⟨by omega, h⟩
    obtain ⟨viejo, hcopia, hlargo⟩ := strcpy_cabe hcabe.1
    exact ⟨p, viejo, rfl, hcopia, hlargo, hcabe.2, rfl⟩

/-- A line that has none does not fit in the buffer that it finds or is given. -/
theorem reservar_no_cabe (h : Reservado p m) (hn : ¬Cabe m l.length)
    (hq : p.reservar nuevo l = some q) : strcpy q.linea l = none := by
  have hm := h.menor
  refine if_neg fun hcabe => hn ?_
  unfold Parser.reservar at hq
  dsimp only at hq
  have hmax := aInt_lt l.length
  by_cases hlen : aInt l.length > p.size
  · rw [if_pos hlen] at hq
    split at hq
    case isFalse => cases hq
    case isTrue hint =>
      rw [← Option.some.inj hq] at hcabe
      dsimp only at hcabe
      rw [nuevoBufer_length] at hcabe
      have hpos : 0 ≤ p.size := by
        by_cases hcien : m ≤ 100
        · rw [(h.primero hcien).1]
          decide
        · rw [(h.nuevo (by omega)).1]
          omega
      have hlargo : l.length < 2 ^ 31 - 1 := by omega
      rw [aInt_of_lt (by omega)] at hlen
      refine ⟨hlargo, fun huno => ?_⟩
      rw [(h.nuevo huno.1).1] at hlen
      omega
  · rw [if_neg hlen] at hq
    cases hq
    by_cases hcien : m ≤ 100
    · rw [(h.primero hcien).2] at hcabe
      exact ⟨by omega, by omega⟩
    · rw [(h.nuevo (by omega)).2] at hcabe
      exact ⟨by omega, by omega⟩

/-! ## All the lines -/

theorem reservado_crear (nuevo : Nat → List UInt8) (p : Parser) : Reservado (p.crear nuevo) 0 :=
  ⟨by decide, fun _ => ⟨rfl, nuevoBufer_length nuevo 101⟩, fun h => absurd h (by decide)⟩

/-- A line that has room and can be cut is parsed within the buffer. -/
theorem parseLine_dentro (nuevo : Nat → List UInt8) (sizeofEquipaje : Nat) (h : Reservado p m)
    (hcero : 0 ∉ l) (hn : Cabe m l.length) (hl : Cortable l) : ∃ p' fines,
    p.parseLine nuevo sizeofEquipaje l = some (p', fines) ∧ (∀ f ∈ fines, f ≤ l.length) ∧
      Reservado p' (max m l.length) ∧ p'.tipo = tipoDe p.tipo l ∧
      p'.cantVector = vectorDe sizeofEquipaje l := by
  obtain ⟨q, viejo, hq, hcopia, hlargo, hres, htipo⟩ := reservar_cabe nuevo h hn
  obtain ⟨p', fines, hcorta, hfines, hsize, hlinea, htipo', hvector⟩ :=
    cortar_dentro sizeofEquipaje q viejo hl hcero
  refine ⟨p', fines, ?_, hfines, ⟨hres.menor, ?_, ?_⟩, htipo ▸ htipo', hvector⟩
  · rw [Parser.parseLine, hq, Option.bind_eq_bind, Option.bind_some, hcopia, Option.bind_eq_bind,
      Option.bind_some, hcorta]
  · rw [hsize, hlinea, hlargo]
    exact hres.primero
  · rw [hsize, hlinea, hlargo]
    exact hres.nuevo

/-- What is parsed within the buffer had room and can be cut. -/
theorem cabe_of_parseLine (h : Reservado p m)
    (hparse : p.parseLine nuevo sizeofEquipaje l = some (p', fines)) (hfines : ∀ f ∈ fines, f ≤ l.length) :
    Cabe m l.length ∧ Cortable l := by
  rw [Parser.parseLine, Option.bind_eq_bind, Option.bind_eq_some_iff] at hparse
  obtain ⟨q, hq, hparse⟩ := hparse
  obtain ⟨linea, hcopia, hcorta⟩ := Option.bind_eq_some_iff.mp hparse
  by_cases hn : Cabe m l.length
  · obtain ⟨q', viejo, hq', hcopia', -⟩ := reservar_cabe nuevo h hn
    cases hq.symm.trans hq'
    cases hcopia.symm.trans hcopia'
    exact ⟨hn, cortable_of_cortar hcorta hfines⟩
  · rw [reservar_no_cabe h hn hq] at hcopia
    cases hcopia

/-- No line is one character longer than the longest before it, when this one replaced the buffer. -/
def SinUnoMas (ls : List Linea) : Prop :=
  ∀ antes l despues, ls = antes ++ l :: despues →
    ¬(100 < largoMax antes ∧ l.1.length = largoMax antes + 1)

theorem largoMax_cons (l : Linea) (ls : List Linea) : largoMax (l :: ls) = max l.1.length (largoMax ls) :=
  rfl

theorem dentro_desde (nuevo : Nat → List UInt8) (sizeofEquipaje : Nat) (h : Reservado p m) (ls : List Linea) :
    Dentro nuevo sizeofEquipaje p ls ↔ (∀ l ∈ ls, Cortable l.1 ∧ l.1.length < 2 ^ 31 - 1) ∧
      ∀ antes l despues, ls = antes ++ l :: despues →
        ¬(100 < max m (largoMax antes) ∧ l.1.length = max m (largoMax antes) + 1) := by
  induction ls generalizing p m with
  | nil =>
    refine ⟨fun _ => ⟨by simp, fun antes l despues h => ?_⟩, fun _ => trivial⟩
    cases antes <;> cases h
  | cons l ls ih =>
    constructor
    · rintro ⟨p', fines, hparse, hfines, hresto⟩
      obtain ⟨hcabe, hcorta⟩ := cabe_of_parseLine h hparse hfines
      obtain ⟨p'', fines', hparse', -, hres, -⟩ := parseLine_dentro nuevo sizeofEquipaje h l.2 hcabe hcorta
      cases hparse.symm.trans hparse'
      obtain ⟨htodas, huno⟩ := (ih hres).mp hresto
      refine ⟨List.forall_mem_cons.mpr ⟨⟨hcorta, hcabe.1⟩, htodas⟩, fun antes l' despues hls => ?_⟩
      cases antes with
      | nil =>
        cases hls
        rw [largoMax, List.map_nil, List.foldr_nil, Nat.max_zero]
        exact hcabe.2
      | cons a antes =>
        cases hls
        rw [largoMax_cons, ← Nat.max_assoc]
        exact huno antes l' despues rfl
    · rintro ⟨htodas, huno⟩
      obtain ⟨⟨hcorta, hlargo⟩, htodas⟩ := List.forall_mem_cons.mp htodas
      have hcabe : Cabe m l.1.length := by
        have hprimera := huno [] l ls rfl
        rw [largoMax, List.map_nil, List.foldr_nil, Nat.max_zero] at hprimera
        exact ⟨hlargo, hprimera⟩
      obtain ⟨p', fines, hparse, hfines, hres, -⟩ := parseLine_dentro nuevo sizeofEquipaje h l.2 hcabe hcorta
      refine ⟨p', fines, hparse, hfines, (ih hres).mpr ⟨htodas, fun antes l' despues hls => ?_⟩⟩
      have hresto := huno (l :: antes) l' despues (by rw [hls, List.cons_append])
      rwa [largoMax_cons, ← Nat.max_assoc] at hresto

/-- The parser stays inside its buffer exactly when every line can be cut and none is one character longer
    than the longest before it, this one having more than 100. -/
theorem dentro_iff (nuevo : Nat → List UInt8) (sizeofEquipaje : Nat) (p : Parser) (ls : List Linea) :
    Dentro nuevo sizeofEquipaje (p.crear nuevo) ls ↔
      (∀ l ∈ ls, Cortable l.1 ∧ l.1.length < 2 ^ 31 - 1) ∧ SinUnoMas ls := by
  have h := dentro_desde nuevo sizeofEquipaje (reservado_crear nuevo p) ls
  simp only [Nat.zero_max] at h
  exact h

/-- `int` and as many zeros. -/
def lineaDe (ceros : Nat) : Linea :=
  ⟨bytes "int " ++ List.replicate ceros 48, by
    rw [List.mem_append, List.mem_replicate]
    rintro (h | h)
    · exact absurd h (by decide)
    · exact absurd h.2 (by decide)⟩

def parserSinCrear : Parser := ⟨[], 0, 0, 0, 1⟩

/-- A line without a blank is scanned past its end; and after a line of 101 characters, one of 102 does not
    fit in the buffer. -/
theorem fuera_del_bufer :
    ¬Dentro (fun _ => []) 0 (parserSinCrear.crear fun _ => []) [⟨bytes "int", by decide⟩] ∧
      ¬Dentro (fun _ => []) 0 (parserSinCrear.crear fun _ => []) [lineaDe 97, lineaDe 98] := by
  have hcrear := reservado_crear (fun _ => []) parserSinCrear
  constructor
  · rintro ⟨p', fines, hparse, hfines, -⟩
    exact absurd (cabe_of_parseLine hcrear hparse hfines).2.1 (by decide)
  · intro h
    have huno := ((dentro_desde _ _ hcrear _).mp h).2 [lineaDe 97] (lineaDe 98) [] rfl
    exact huno (by decide)

end InitParser
