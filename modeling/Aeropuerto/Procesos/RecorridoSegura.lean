import Aeropuerto.Biblioteca.Inventario
import Aeropuerto.Procesos.DespachoSegura
import Aeropuerto.Procesos.Recorrido

/-!
# No bag is lost on its way to a container belt

The belts keep what they keep on their own; here is what happens between them.  A robot is inside a
call exactly while the belt says so, so a return never finds it with something in its hands.  What the
central belt does to the bags is known by their order there, and the two inventories are put together.
-/

/-! ## The bags that the central belt has been given -/

namespace Despacho

variable {P : Parametros} {s t : Estado} {ev : Evento} {i : Nat} {e : Equipaje}

theorem pone_eq_some (hs : paso P s (.pone i e) = some t) :
    t.entradas = s.entradas ++ [e] ∧
      s.cintaPaso P (.colocarElemento i ⟨e, s.entradas.length, []⟩) = some t.cinta := by
  simp only [paso] at hs
  split at hs
  · obtain ⟨cinta, hc, rfl⟩ := Option.map_eq_some_iff.mp hs
    exact ⟨rfl, hc⟩
  · cases hs

theorem entradas_despacho {j : Nat} {z : Int} (hs : pasoDespacho P s j z = some t) :
    t.entradas = s.entradas := by
  unfold pasoDespacho at hs
  dsimp only at hs
  split at hs
  · split at hs <;> obtain ⟨cinta, -, rfl⟩ := Option.map_eq_some_iff.mp hs <;> rfl
  · split at hs <;> cases hs
    rfl
  · cases hs
    rfl
  · split at hs
    · cases hs
      rfl
    · obtain ⟨cinta, -, rfl⟩ := Option.map_eq_some_iff.mp hs
      rfl
  · obtain ⟨cinta, -, rfl⟩ := Option.map_eq_some_iff.mp hs
    rfl
  · obtain ⟨zona, -, rfl⟩ := Option.map_eq_some_iff.mp hs
    rfl

theorem entradas_robotControl {z : Int} (hs : pasoRobotControl P s z = some t) :
    t.entradas = s.entradas := by
  unfold pasoRobotControl at hs
  split at hs
  · obtain ⟨cinta, -, rfl⟩ := Option.map_eq_some_iff.mp hs
    rfl
  · split at hs <;> cases hs
    rfl
  · obtain ⟨cinta, -, rfl⟩ := Option.map_eq_some_iff.mp hs
    rfl
  · dsimp only at hs
    split at hs <;> cases hs <;> rfl
  · cases hs
    rfl

theorem entradas_control (hs : pasoControl P s = some t) : t.entradas = s.entradas := by
  unfold pasoControl at hs
  split at hs
  · split at hs <;> cases hs
    rfl
  · obtain ⟨cinta, -, rfl⟩ := Option.map_eq_some_iff.mp hs
    rfl
  · split at hs <;> cases hs
    rfl

/-- The steps that bring nothing. -/
theorem entradas_paso (hev : ∀ i e, ev ≠ .pone i e) (hs : paso P s ev = some t) :
    t.entradas = s.entradas := by
  cases ev with
  | cinta ev =>
    simp only [paso] at hs
    split at hs
    · obtain ⟨cinta, -, rfl⟩ := Option.map_eq_some_iff.mp hs
      rfl
    · cases hs
  | pone i e => exact absurd rfl (hev i e)
  | despacho j z =>
    simp only [paso] at hs
    split at hs
    · exact entradas_despacho hs
    · cases hs
  | robotControl z => exact entradas_robotControl hs
  | control => exact entradas_control hs

end Despacho

namespace Recorrido

open Ejecucion Despacho

variable {P : Parametros} {s t : Estado} {b : Bulto} {i : Nat}

/-- What has become of the bag that came as `e`. -/
def Viene (e : Equipaje) (b : Bulto) : Prop := e.rfid ≠ 0 ∧ Mismo e b.equipaje

structure Inv (P : Parametros) (s : Estado) : Prop where
  checkin : Cinta.Inv P.capacidadCheckin P.puestos s.checkin
  enCola : Banda.EnCola P.capacidadCheckin s.checkin.compartido.anillo s.checkin.puestos s.checkin.devueltos
  scanner : CintaScanner.Inv P.maxScanners P.capacidadScanner s.scanner
  despacho : Despacho.Inv P.despacho s.despacho
  inventario : Inventario Bulto.numero Viene s.llegadas s.antes
  sacando : s.checkin.consumidor 0 ≠ .reposo → s.robotCheckin = .sacando
  poniendo : s.scanner.productor.manos ≠ [] → s.robotCheckin = .poniendo
  escaneando : ∀ i, (s.scanner.escaner i).sacando = true → s.robotScanner i = .sacando
  entradas : s.despacho.entradas = s.entregas.map fun x => x.2.equipaje

theorem inv_inicial (P : Parametros) : Inv P (inicial P) where
  checkin := Cinta.inv_inicial P.hayCheckin _
  enCola := ⟨Anillo.fifo_vacio P.hayCheckin _, rfl⟩
  scanner := CintaScanner.inv_inicial P.hayScanners P.hayScanner _
  despacho := Despacho.inv_inicial _
  inventario := by
    apply Inventario.vacio
    intro l
    cases l with
    | none => rfl
    | some l => cases l <;> rfl
  sacando h := absurd rfl h
  poniendo h := absurd rfl h
  escaneando _ h := by cases h
  entradas := rfl

theorem coe_concat (bs : List Bulto) (b : Bulto) :
    ((bs ++ [b] : List Bulto) : Multiset Bulto) = b ::ₘ (bs : Multiset Bulto) := by
  rw [← Multiset.coe_add, Multiset.add_comm]
  rfl

/-! ## The bags that come -/

theorem inv_registrar {d : Nat} {e : Equipaje} {checkin : Cinta.Estado Bulto} (hi : Inv P s)
    (he : e.rfid ≠ 0)
    (hc : s.checkinPaso P (.ponerEquipaje d ⟨e, s.llegadas.length⟩) = some checkin) :
    Inv P { s with checkin := checkin, llegadas := s.llegadas ++ [e] } := by
  have hcheckin := Cinta.inv_paso hi.checkin hc
  have henCola := Cinta.enCola_paso hi.enCola hc
  obtain ⟨hreposo, rfl⟩ := Cinta.ponerEquipaje_eq_some hc
  refine ⟨hcheckin, henCola, hi.scanner, hi.despacho, ?_, hi.sacando, hi.poniendo, hi.escaneando,
    hi.entradas⟩
  refine hi.inventario.llega (some (.puesto d)) ⟨e, s.llegadas.length⟩ rfl ⟨he, rfl, rfl⟩ ?_
    fun l hl => ?_
  · change ((Function.update s.checkin.productor d _ d).manos : Multiset Bulto) =
      _ ::ₘ ((s.checkin.productor d).manos : Multiset Bulto)
    rw [Function.update_self, hreposo]
    rfl
  · cases l with
    | none => rfl
    | some l =>
      cases l with
      | puesto m =>
        change (Function.update s.checkin.productor d _ m).manos = (s.checkin.productor m).manos
        rw [Function.update_of_ne fun hm => hl (by rw [hm])]
      | _ => rfl

theorem inv_intercargo {e : Equipaje} (hi : Inv P s) (he : e.rfid ≠ 0) :
    Inv P { s with
      colaIntercargo := s.colaIntercargo ++ [⟨e, s.llegadas.length⟩]
      llegadas := s.llegadas ++ [e] } := by
  refine ⟨hi.checkin, hi.enCola, hi.scanner, hi.despacho, ?_, hi.sacando, hi.poniendo, hi.escaneando,
    hi.entradas⟩
  refine hi.inventario.llega (some .colaIntercargo) ⟨e, s.llegadas.length⟩ rfl ⟨he, rfl, rfl⟩
    (coe_concat _ _) fun l hl => ?_
  cases l with
  | none => rfl
  | some l =>
    cases l with
    | colaIntercargo => exact absurd rfl hl
    | _ => rfl

/-! ## The check-in belt -/

theorem inv_checkin {e : Cinta.Evento Bulto} (hi : Inv P s) (he : e.interno = true)
    (hs : pasoCheckin P s e = some t) : Inv P t := by
  obtain ⟨checkin, hc, ht⟩ := Option.map_eq_some_iff.mp hs
  have hcheckin := Cinta.inv_paso hi.checkin hc
  have henCola := Cinta.enCola_paso hi.enCola hc
  rcases Cinta.interno_cases he hc with ⟨hp, hd, hmanos, hsaca⟩ |
    ⟨d, b, hantes, hdespues, hotros, hp, hd, hsaca⟩ | ⟨b, hprod, hp, hd, hsaca⟩
  · rw [hsaca] at ht
    subst ht
    refine ⟨hcheckin, henCola, hi.scanner, hi.despacho, hi.inventario.igual fun l => ?_,
      fun hcons => hi.sacando (Cinta.consumidor_interno hi.checkin he hc hsaca hcons), hi.poniendo,
      hi.escaneando, hi.entradas⟩
    cases l with
    | none => rfl
    | some l =>
      cases l with
      | puesto d => exact hmanos d
      | cintaCheckin =>
        have hfifo := henCola.fifo
        rw [hp, hd] at hfifo
        exact hi.enCola.fifo.igual hfifo
      | _ => rfl
  · -- the bag goes from the hands of its desk to the belt
    rw [hsaca] at ht
    subst ht
    have hfifo := henCola.fifo
    rw [hp, hd] at hfifo
    refine ⟨hcheckin, henCola, hi.scanner, hi.despacho, ?_,
      fun hcons => hi.sacando (Cinta.consumidor_interno hi.checkin he hc hsaca hcons), hi.poniendo,
      hi.escaneando, hi.entradas⟩
    refine hi.inventario.traslada (some (.puesto d)) (some .cintaCheckin) b b
      ⟨nofun, ?_, ?_, fun l h₁ h₂ => ?_, rfl⟩ fun e he => he
    · change ((s.checkin.productor d).manos : Multiset Bulto) =
        b ::ₘ ((checkin.productor d).manos : Multiset Bulto)
      rw [hantes, hdespues]
      rfl
    · change (checkin.compartido.anillo.contenido : Multiset Bulto) = _
      rw [hi.enCola.fifo.puesto hfifo]
      exact coe_concat _ _
    · cases l with
      | none => rfl
      | some l =>
        cases l with
        | puesto m =>
          change (checkin.productor m).manos = (s.checkin.productor m).manos
          rw [hotros m fun hm => h₁ (by rw [hm])]
        | cintaCheckin => exact absurd rfl h₂
        | _ => rfl
  · -- the bag goes from the belt to the hands of the robot, which is in its call
    rw [hsaca] at ht
    subst ht
    obtain ⟨hdentro, hfuera⟩ := Cinta.consumidor_saca hi.checkin he hc hsaca
    have hrobot := hi.sacando hdentro
    have hfifo := henCola.fifo
    rw [hp, hd] at hfifo
    refine ⟨hcheckin, henCola, hi.scanner, hi.despacho, ?_, fun hcons => absurd hfuera hcons,
      fun hman => ?_, hi.escaneando, hi.entradas⟩
    · refine hi.inventario.traslada (some .cintaCheckin) (some .robotCheckin) b b
        ⟨nofun, ?_, ?_, fun l h₁ h₂ => ?_, rfl⟩ fun e he => he
      · exact congrArg _ (hi.enCola.fifo.sacado hfifo)
      · change ([b] ++ s.scanner.productor.manos : Multiset Bulto) =
          b ::ₘ (s.robotCheckin.manos ++ s.scanner.productor.manos : Multiset Bulto)
        rw [hrobot]
        rfl
      · cases l with
        | none => rfl
        | some l =>
          cases l with
          | puesto m =>
            change (checkin.productor m).manos = (s.checkin.productor m).manos
            rw [hprod]
          | cintaCheckin => exact absurd rfl h₁
          | robotCheckin => exact absurd rfl h₂
          | _ => rfl
    · have hpon := hi.poniendo hman
      rw [hrobot] at hpon
      cases hpon

theorem inv_robotCheckin (hi : Inv P s) (hs : pasoRobotCheckin P s = some t) : Inv P t := by
  unfold pasoRobotCheckin at hs
  cases hpc : s.robotCheckin with
  | saca =>
    simp only [hpc] at hs
    obtain ⟨checkin, hc, rfl⟩ := Option.map_eq_some_iff.mp hs
    have hcheckin := Cinta.inv_paso hi.checkin hc
    have henCola := Cinta.enCola_paso hi.enCola hc
    have hrest := Cinta.sacarEquipaje_eq_some hc
    subst hrest
    refine ⟨hcheckin, henCola, hi.scanner, hi.despacho, hi.inventario.igual fun l => ?_, fun _ => rfl,
      fun hman => ?_, hi.escaneando, hi.entradas⟩
    · cases l with
      | none => rfl
      | some l =>
        cases l with
        | robotCheckin =>
          change [] ++ s.scanner.productor.manos = s.robotCheckin.manos ++ s.scanner.productor.manos
          rw [hpc]
          rfl
        | _ => rfl
    · have hpon := hi.poniendo hman
      rw [hpc] at hpon
      cases hpon
  | sacando =>
    simp only [hpc] at hs
    cases hs
  | pone b =>
    simp only [hpc] at hs
    obtain ⟨scanner, hc, rfl⟩ := Option.map_eq_some_iff.mp hs
    have hscanner := CintaScanner.inv_paso hi.scanner hc
    obtain ⟨hreposo, rfl⟩ := CintaScanner.ponerEquipaje_eq_some hc
    refine ⟨hi.checkin, hi.enCola, hscanner, hi.despacho, hi.inventario.igual fun l => ?_, fun hcons => ?_,
      fun _ => rfl, hi.escaneando, hi.entradas⟩
    · cases l with
      | none => rfl
      | some l =>
        cases l with
        | robotCheckin =>
          -- from the hands of the robot to those of its call
          change [] ++ [b] = s.robotCheckin.manos ++ s.scanner.productor.manos
          rw [hpc, hreposo]
          rfl
        | _ => rfl
    · have hsac := hi.sacando hcons
      rw [hpc] at hsac
      cases hsac
  | poniendo =>
    simp only [hpc] at hs
    split at hs <;> cases hs
    rename_i hreposo
    refine ⟨hi.checkin, hi.enCola, hi.scanner, hi.despacho, hi.inventario.igual fun l => ?_,
      fun hcons => ?_, fun hman => ?_, hi.escaneando, hi.entradas⟩
    · cases l with
      | none => rfl
      | some l =>
        cases l with
        | robotCheckin =>
          change [] ++ s.scanner.productor.manos = s.robotCheckin.manos ++ s.scanner.productor.manos
          rw [hpc]
          rfl
        | _ => rfl
    · have hsac := hi.sacando hcons
      rw [hpc] at hsac
      cases hsac
    · exact absurd (congrArg CintaScanner.PcProductor.manos hreposo) hman

/-! ## The belts of the scanners -/

theorem inv_productorScanner (hi : Inv P s) (hs : pasoProductorScanner P s = some t) : Inv P t := by
  obtain ⟨scanner, hc, rfl⟩ := Option.map_eq_some_iff.mp hs
  have hscanner := CintaScanner.inv_paso hi.scanner hc
  obtain ⟨hesc, hsac, ⟨hp, hmanos⟩ | ⟨i, b, hantes, hdespues, hp⟩⟩ := CintaScanner.productor_cases hc
  · refine ⟨hi.checkin, hi.enCola, hscanner, hi.despacho, hi.inventario.igual fun l => ?_, hi.sacando,
      fun hman => hi.poniendo (by rwa [← hmanos]), fun i hsac => hi.escaneando i (by rwa [← hesc]),
      hi.entradas⟩
    cases l with
    | none => rfl
    | some l =>
      cases l with
      | robotCheckin =>
        change s.robotCheckin.manos ++ scanner.productor.manos =
          s.robotCheckin.manos ++ s.scanner.productor.manos
        rw [hmanos]
      | cintaScanner i =>
        have hfifo := (hscanner.cintas i).fifo
        rw [hp, hsac] at hfifo
        exact (hi.scanner.cintas i).fifo.igual hfifo
      | robotScanner i =>
        change (scanner.escaner i).manos ++ (s.robotScanner i).manos =
          (s.scanner.escaner i).manos ++ (s.robotScanner i).manos
        rw [hesc]
      | _ => rfl
  · -- the bag goes from the hands of the call to the chosen belt
    refine ⟨hi.checkin, hi.enCola, hscanner, hi.despacho, ?_, hi.sacando,
      fun hman => absurd hdespues hman, fun i hsac => hi.escaneando i (by rwa [← hesc]), hi.entradas⟩
    refine hi.inventario.traslada (some .robotCheckin) (some (.cintaScanner i)) b b
      ⟨nofun, ?_, ?_, fun l h₁ h₂ => ?_, rfl⟩ fun e he => he
    · have hrobot := hi.poniendo (by rw [hantes]; nofun)
      change (s.robotCheckin.manos ++ s.scanner.productor.manos : Multiset Bulto) =
        b ::ₘ (s.robotCheckin.manos ++ scanner.productor.manos : Multiset Bulto)
      rw [hrobot, hantes, hdespues]
      rfl
    · have hfifo := (hscanner.cintas i).fifo
      rw [hp, hsac, Function.update_self] at hfifo
      change ((scanner.cintas i).anillo.contenido : Multiset Bulto) =
        b ::ₘ ((s.scanner.cintas i).anillo.contenido : Multiset Bulto)
      rw [(hi.scanner.cintas i).fifo.puesto hfifo]
      exact coe_concat _ _
    · cases l with
      | none => rfl
      | some l =>
        cases l with
        | robotCheckin => exact absurd rfl h₁
        | cintaScanner m =>
          have hfifo := (hscanner.cintas m).fifo
          rw [hp, hsac, Function.update_of_ne fun hm => h₂ (by rw [hm])] at hfifo
          exact (hi.scanner.cintas m).fifo.igual hfifo
        | robotScanner m =>
          change (scanner.escaner m).manos ++ (s.robotScanner m).manos =
            (s.scanner.escaner m).manos ++ (s.robotScanner m).manos
          rw [hesc]
        | _ => rfl

/-- What one scanner does with its belt moves nothing anywhere else. -/
theorem antes_escaner {scanner : CintaScanner.Estado Bulto} {pc : Nat → PcRobotScanner} {l : Lugar}
    (hinv : CintaScanner.Inv P.maxScanners P.capacidadScanner s.scanner)
    (hinv' : CintaScanner.Inv P.maxScanners P.capacidadScanner scanner)
    (hprod : scanner.productor = s.scanner.productor) (hp : scanner.puestos = s.scanner.puestos)
    (hotros : ∀ m, m ≠ i → scanner.escaner m = s.scanner.escaner m)
    (hsac : ∀ m, m ≠ i → scanner.sacados m = s.scanner.sacados m)
    (hpc : ∀ m, m ≠ i → pc m = s.robotScanner m) (h₁ : l ≠ .cintaScanner i)
    (h₂ : l ≠ .robotScanner i) :
    { s with scanner := scanner, robotScanner := pc }.antes (some l) = s.antes (some l) := by
  cases l with
  | robotCheckin =>
    change s.robotCheckin.manos ++ scanner.productor.manos =
      s.robotCheckin.manos ++ s.scanner.productor.manos
    rw [hprod]
  | cintaScanner m =>
    have hm : m ≠ i := fun hm => h₁ (by rw [hm])
    have hfifo := (hinv'.cintas m).fifo
    rw [hp, hsac m hm] at hfifo
    exact (hinv.cintas m).fifo.igual hfifo
  | robotScanner m =>
    have hm : m ≠ i := fun hm => h₂ (by rw [hm])
    change (scanner.escaner m).manos ++ (pc m).manos =
      (s.scanner.escaner m).manos ++ (s.robotScanner m).manos
    rw [hotros m hm, hpc m hm]
  | _ => rfl

theorem inv_escaner (hi : Inv P s) (hs : pasoEscaner P s i = some t) : Inv P t := by
  obtain ⟨scanner, hc, ht⟩ := Option.map_eq_some_iff.mp hs
  have hscanner := CintaScanner.inv_paso hi.scanner hc
  obtain ⟨hprod, hp, hotros, ⟨hsac, hmanos, hdentro, hsaca⟩ |
    ⟨b, hsac, hantes, hdespues, hdentro, hsaca⟩ | ⟨b, hsac, hantes, hfuera, hdentro, hsaca⟩⟩ :=
    CintaScanner.escaner_cases hc
  · rw [hsaca] at ht
    subst ht
    refine ⟨hi.checkin, hi.enCola, hscanner, hi.despacho, hi.inventario.igual fun l => ?_, hi.sacando,
      fun hman => hi.poniendo (by rwa [← hprod]), fun m hm => hi.escaneando m ?_, hi.entradas⟩
    · cases l with
      | none => rfl
      | some l =>
        by_cases h₁ : l = .cintaScanner i
        · subst h₁
          have hfifo := (hscanner.cintas i).fifo
          rw [hp, hsac] at hfifo
          exact (hi.scanner.cintas i).fifo.igual hfifo
        by_cases h₂ : l = .robotScanner i
        · subst h₂
          change (scanner.escaner i).manos ++ (s.robotScanner i).manos =
            (s.scanner.escaner i).manos ++ (s.robotScanner i).manos
          rw [hmanos]
        exact antes_escaner hi.scanner hscanner hprod hp hotros (fun m _ => by rw [hsac])
          (fun _ _ => rfl) h₁ h₂
    · by_cases hmi : m = i
      · rw [hmi] at hm ⊢
        rwa [← hdentro]
      · rwa [← hotros m hmi]
  · -- the bag goes from the belt to the hands of the call
    rw [hsaca] at ht
    subst ht
    have hrobot := hi.escaneando i hdentro
    have hfifo := (hscanner.cintas i).fifo
    rw [hp, hsac, Function.update_self] at hfifo
    refine ⟨hi.checkin, hi.enCola, hscanner, hi.despacho, ?_, hi.sacando,
      fun hman => hi.poniendo (by rwa [← hprod]), fun m hm => ?_, hi.entradas⟩
    · refine hi.inventario.traslada (some (.cintaScanner i)) (some (.robotScanner i)) b b
        ⟨nofun, congrArg _ ((hi.scanner.cintas i).fifo.sacado hfifo), ?_, fun l h₁ h₂ => ?_, rfl⟩
        fun e he => he
      · change ((scanner.escaner i).manos ++ (s.robotScanner i).manos : Multiset Bulto) =
          b ::ₘ ((s.scanner.escaner i).manos ++ (s.robotScanner i).manos : Multiset Bulto)
        rw [hantes, hdespues]
        rfl
      · cases l with
        | none => rfl
        | some l =>
          exact antes_escaner hi.scanner hscanner hprod hp hotros
            (fun m hm => by rw [hsac, Function.update_of_ne hm]) (fun _ _ => rfl)
            (fun h => h₁ (by rw [h])) (fun h => h₂ (by rw [h]))
    · by_cases hmi : m = i
      · rw [hmi]
        exact hrobot
      · exact hi.escaneando m (by rwa [← hotros m hmi])
  · -- the call returns the bag to the robot
    rw [hsaca] at ht
    subst ht
    have hrobot := hi.escaneando i hdentro
    refine ⟨hi.checkin, hi.enCola, hscanner, hi.despacho, hi.inventario.igual fun l => ?_, hi.sacando,
      fun hman => hi.poniendo (by rwa [← hprod]), fun m hm => ?_, hi.entradas⟩
    · cases l with
      | none => rfl
      | some l =>
        by_cases h₁ : l = .cintaScanner i
        · subst h₁
          have hfifo := (hscanner.cintas i).fifo
          rw [hp, hsac] at hfifo
          exact (hi.scanner.cintas i).fifo.igual hfifo
        by_cases h₂ : l = .robotScanner i
        · subst h₂
          change (scanner.escaner i).manos ++
              (Function.update s.robotScanner i (.escanea b) i).manos =
            (s.scanner.escaner i).manos ++ (s.robotScanner i).manos
          rw [hfuera, Function.update_self, hantes, hrobot]
          rfl
        exact antes_escaner hi.scanner hscanner hprod hp hotros (fun m _ => by rw [hsac])
          (fun m hm => Function.update_of_ne hm _ _) h₁ h₂
    · change (scanner.escaner m).sacando = true at hm
      by_cases hmi : m = i
      · rw [hmi, hfuera] at hm
        cases hm
      · change Function.update s.robotScanner i (.escanea b) m = _
        rw [Function.update_of_ne hmi]
        exact hi.escaneando m (by rwa [← hotros m hmi])

/-! ## The robots of the scanners -/

/-- The belt of a robot that is not in `sacar_equipaje` has nothing for it. -/
theorem Inv.fueraScanner (hi : Inv P s) (hno : s.robotScanner i ≠ .sacando) :
    (s.scanner.escaner i).sacando = false ∧ (s.scanner.escaner i).manos = [] := by
  have hfuera : (s.scanner.escaner i).sacando = false := by
    by_contra hdentro
    exact hno (hi.escaneando i (by simpa using hdentro))
  refine ⟨hfuera, ?_⟩
  cases hpc : s.scanner.escaner i <;> rw [hpc] at hfuera <;> first | rfl | cases hfuera

/-- A robot of a scanner that is not in a call goes on, with nothing or with the same bag. -/
theorem Inv.irScanner {pc : PcRobotScanner} (hi : Inv P s) (hno : s.robotScanner i ≠ .sacando)
    (hpc : pc.manos = (s.robotScanner i).manos) : Inv P (s.irScanner i pc) := by
  refine ⟨hi.checkin, hi.enCola, hi.scanner, hi.despacho, hi.inventario.igual fun l => ?_, hi.sacando,
    hi.poniendo, fun m hm => ?_, hi.entradas⟩
  · cases l with
    | none => rfl
    | some l =>
      cases l with
      | robotScanner m =>
        change (s.scanner.escaner m).manos ++ (Function.update s.robotScanner i pc m).manos =
          (s.scanner.escaner m).manos ++ (s.robotScanner m).manos
        by_cases hmi : m = i
        · rw [hmi, Function.update_self, hpc]
        · rw [Function.update_of_ne hmi]
      | _ => rfl
  · change Function.update s.robotScanner i pc m = _
    have hsac := hi.escaneando m hm
    by_cases hmi : m = i
    · rw [hmi] at hsac
      exact absurd hsac hno
    · rw [Function.update_of_ne hmi]
      exact hsac

/-- It calls the constructor or `sacar_equipaje`. -/
theorem Inv.llamaScanner {pc : PcRobotScanner} {pc' : CintaScanner.PcEscaner Bulto} (hi : Inv P s)
    (hscanner : CintaScanner.Inv P.maxScanners P.capacidadScanner (s.scanner.irEscaner i pc'))
    (hmanos : pc'.manos = (s.scanner.escaner i).manos)
    (hpc : pc.manos = (s.robotScanner i).manos) (hdentro : pc'.sacando = true → pc = .sacando) :
    Inv P ({ s with scanner := s.scanner.irEscaner i pc' }.irScanner i pc) := by
  refine ⟨hi.checkin, hi.enCola, hscanner, hi.despacho, hi.inventario.igual fun l => ?_, hi.sacando,
    hi.poniendo, fun m hm => ?_, hi.entradas⟩
  · cases l with
    | none => rfl
    | some l =>
      cases l with
      | robotScanner m =>
        change (Function.update s.scanner.escaner i pc' m).manos ++
            (Function.update s.robotScanner i pc m).manos =
          (s.scanner.escaner m).manos ++ (s.robotScanner m).manos
        by_cases hmi : m = i
        · rw [hmi, Function.update_self, Function.update_self, hpc, hmanos]
        · rw [Function.update_of_ne hmi, Function.update_of_ne hmi]
      | _ => rfl
  · change Function.update s.robotScanner i pc m = _
    change (Function.update s.scanner.escaner i pc' m).sacando = true at hm
    by_cases hmi : m = i
    · rw [hmi, Function.update_self] at hm ⊢
      exact hdentro hm
    · rw [Function.update_of_ne hmi] at hm ⊢
      exact hi.escaneando m hm

/-- The central belt is given a bag that was in the hands of a robot. -/
theorem Inv.colocarElemento {l : Lugar} {despacho : Despacho.Estado} {u : Estado} (hi : Inv P s)
    (hd : Despacho.paso P.despacho s.despacho (.pone i b.equipaje) = some despacho)
    (hu : u = { s with
      despacho := despacho
      entregas := s.entregas ++ [(i, b)]
      robotScanner := u.robotScanner
      robotIntercargo := u.robotIntercargo })
    (hsale : s.antes (some l) = b :: u.antes (some l))
    (hresto : ∀ m, m ≠ l → u.antes (some m) = s.antes (some m))
    (hesc : ∀ m, (s.scanner.escaner m).sacando = true → u.robotScanner m = .sacando) : Inv P u := by
  obtain ⟨hentradas, -⟩ := pone_eq_some hd
  have hdespacho := Despacho.inv_paso hi.despacho hd
  have hinv : Inventario Bulto.numero Viene s.llegadas u.antes := by
    refine hi.inventario.traslada (some l) none b b
      ⟨nofun, congrArg _ hsale, ?_, fun m h₁ h₂ => ?_, rfl⟩ fun e he => he
    · rw [hu]
      change ((s.entregas ++ [(i, b)]).map Prod.snd : Multiset Bulto) = _
      rw [List.map_append]
      exact coe_concat _ _
    · cases m with
      | none => exact absurd rfl h₂
      | some m => exact hresto m fun hm => h₁ (by rw [hm])
  rw [hu] at hinv hesc ⊢
  refine ⟨hi.checkin, hi.enCola, hi.scanner, hdespacho, hinv, hi.sacando, hi.poniendo, hesc, ?_⟩
  change despacho.entradas = (s.entregas ++ [(i, b)]).map _
  rw [hentradas, hi.entradas, List.map_append]
  rfl

theorem inv_robotScanner {sospechoso : Bool} (hi : Inv P s)
    (hs : pasoRobotScanner P s i sospechoso = some t) : Inv P t := by
  unfold pasoRobotScanner at hs
  cases hpc : s.robotScanner i with
  | construye =>
    simp only [hpc] at hs
    obtain ⟨scanner, hc, rfl⟩ := Option.map_eq_some_iff.mp hs
    have hscanner := CintaScanner.inv_paso hi.scanner hc
    obtain ⟨hfuera, rfl⟩ := CintaScanner.construir_eq_some hc
    exact hi.llamaScanner hscanner (by rw [hfuera]; rfl) (by rw [hpc]; rfl) nofun
  | construyendo =>
    simp only [hpc] at hs
    split at hs <;> cases hs
    exact hi.irScanner (by rw [hpc]; nofun) (by rw [hpc]; rfl)
  | saca =>
    simp only [hpc] at hs
    obtain ⟨scanner, hc, rfl⟩ := Option.map_eq_some_iff.mp hs
    have hscanner := CintaScanner.inv_paso hi.scanner hc
    obtain ⟨hreposo, rfl⟩ := CintaScanner.sacarEquipaje_eq_some hc
    exact hi.llamaScanner hscanner (by rw [hreposo]; rfl) (by rw [hpc]; rfl) fun _ => rfl
  | sacando =>
    simp only [hpc] at hs
    cases hs
  | escanea b =>
    simp only [hpc] at hs
    cases hs
    obtain ⟨hfuera, hmanos⟩ := hi.fueraScanner (i := i) (by rw [hpc]; nofun)
    refine ⟨hi.checkin, hi.enCola, hi.scanner, hi.despacho, ?_, hi.sacando, hi.poniendo, fun m hm => ?_,
      hi.entradas⟩
    · refine hi.inventario.anota (l := some (.robotScanner i)) (v := b)
        (w := b.setSospechoso sospechoso) ?_ ?_ (fun l hl => ?_) rfl fun e he => he
      · change (s.scanner.escaner i).manos ++ (s.robotScanner i).manos = [b]
        rw [hmanos, hpc]
        rfl
      · change (s.scanner.escaner i).manos ++ (Function.update s.robotScanner i _ i).manos = _
        rw [hmanos, Function.update_self]
        rfl
      · cases l with
        | none => rfl
        | some l =>
          cases l with
          | robotScanner m =>
            change (s.scanner.escaner m).manos ++ (Function.update s.robotScanner i _ m).manos =
              (s.scanner.escaner m).manos ++ (s.robotScanner m).manos
            rw [Function.update_of_ne fun hm => hl (by rw [hm])]
          | _ => rfl
    · have hsac := hi.escaneando m hm
      by_cases hmi : m = i
      · rw [hmi, hpc] at hsac
        cases hsac
      · exact (Function.update_of_ne hmi _ _).trans hsac
  | coloca b =>
    simp only [hpc] at hs
    obtain ⟨u, hu, rfl⟩ := Option.map_eq_some_iff.mp hs
    obtain ⟨despacho, hd, rfl⟩ := Option.map_eq_some_iff.mp hu
    obtain ⟨hfuera, hmanos⟩ := hi.fueraScanner (i := i) (by rw [hpc]; nofun)
    refine hi.colocarElemento (l := .robotScanner i) hd rfl ?_ (fun m hm => ?_) fun m hm => ?_
    · change (s.scanner.escaner i).manos ++ (s.robotScanner i).manos =
        b :: ((s.scanner.escaner i).manos ++ (Function.update s.robotScanner i .colocando i).manos)
      rw [hmanos, hpc, Function.update_self]
      rfl
    · cases m with
      | robotScanner m =>
        change (s.scanner.escaner m).manos ++ (Function.update s.robotScanner i .colocando m).manos =
          (s.scanner.escaner m).manos ++ (s.robotScanner m).manos
        rw [Function.update_of_ne fun h => hm (by rw [h])]
      | _ => rfl
    · by_cases hmi : m = i
      · rw [hmi, hfuera] at hm
        cases hm
      · exact (Function.update_of_ne hmi _ _).trans (hi.escaneando m hm)
  | colocando =>
    simp only [hpc] at hs
    split at hs <;> cases hs
    exact hi.irScanner (by rw [hpc]; nofun) (by rw [hpc]; rfl)

/-! ## The robot of intercargo -/

theorem inv_robotIntercargo (hi : Inv P s) (hs : pasoRobotIntercargo P s = some t) : Inv P t := by
  unfold pasoRobotIntercargo at hs
  cases hpc : s.robotIntercargo with
  | recibe =>
    simp only [hpc] at hs
    split at hs <;> cases hs
    rename_i b cola hcola
    refine ⟨hi.checkin, hi.enCola, hi.scanner, hi.despacho, ?_, hi.sacando, hi.poniendo, hi.escaneando,
      hi.entradas⟩
    refine hi.inventario.traslada (some .colaIntercargo) (some .robotIntercargo) b b
      ⟨nofun, congrArg _ hcola, ?_, fun l h₁ h₂ => ?_, rfl⟩ fun e he => he
    · change _ = b ::ₘ (s.robotIntercargo.manos : Multiset Bulto)
      rw [hpc]
      rfl
    · cases l with
      | none => rfl
      | some l =>
        cases l with
        | colaIntercargo => exact absurd rfl h₁
        | robotIntercargo => exact absurd rfl h₂
        | _ => rfl
  | pone b =>
    simp only [hpc] at hs
    obtain ⟨u, hu, rfl⟩ := Option.map_eq_some_iff.mp hs
    obtain ⟨despacho, hd, rfl⟩ := Option.map_eq_some_iff.mp hu
    refine hi.colocarElemento (l := .robotIntercargo) hd rfl ?_ (fun m hm => ?_) hi.escaneando
    · change s.robotIntercargo.manos = _
      rw [hpc]
      rfl
    · cases m with
      | robotIntercargo => exact absurd rfl hm
      | _ => rfl
  | poniendo =>
    simp only [hpc] at hs
    split at hs <;> cases hs
    refine ⟨hi.checkin, hi.enCola, hi.scanner, hi.despacho, hi.inventario.igual fun l => ?_, hi.sacando,
      hi.poniendo, hi.escaneando, hi.entradas⟩
    cases l with
    | none => rfl
    | some l =>
      cases l with
      | robotIntercargo =>
        change [] = s.robotIntercargo.manos
        rw [hpc]
        rfl
      | _ => rfl

/-! ## The runs -/

theorem inv_despacho {e : Despacho.Evento} {despacho : Despacho.Estado} (hi : Inv P s)
    (he : ∀ i b, e ≠ .pone i b) (hs : Despacho.paso P.despacho s.despacho e = some despacho) :
    Inv P { s with despacho := despacho } := by
  refine ⟨hi.checkin, hi.enCola, hi.scanner, Despacho.inv_paso hi.despacho hs,
    hi.inventario.igual fun l => ?_, hi.sacando, hi.poniendo, hi.escaneando, ?_⟩
  · cases l with
    | none => rfl
    | some l => cases l <;> rfl
  · change despacho.entradas = _
    rw [entradas_paso he hs]
    exact hi.entradas

theorem inv_paso {ev : Evento} (hi : Inv P s) (hs : paso P s ev = some t) : Inv P t := by
  cases ev with
  | registrarEquipaje d e =>
    simp only [paso] at hs
    split at hs
    · obtain ⟨checkin, hc, rfl⟩ := Option.map_eq_some_iff.mp hs
      exact inv_registrar hi ‹_› hc
    · cases hs
  | enviarEquipajeIntercargo e =>
    simp only [paso] at hs
    split at hs <;> cases hs
    exact inv_intercargo hi ‹_›
  | checkin e =>
    simp only [paso] at hs
    split at hs
    · exact inv_checkin hi ‹_› hs
    · cases hs
  | robotCheckin => exact inv_robotCheckin hi hs
  | scanner e =>
    cases e with
    | productor => exact inv_productorScanner hi hs
    | escaner i => exact inv_escaner hi hs
    | ponerEquipaje b | construir i | sacarEquipaje i => cases hs
  | robotScanner i sospechoso =>
    simp only [paso] at hs
    split at hs
    · exact inv_robotScanner hi hs
    · cases hs
  | robotIntercargo => exact inv_robotIntercargo hi hs
  | despacho e =>
    cases e with
    | pone i b => cases hs
    | cinta e | despacho j z | robotControl z | control =>
      obtain ⟨despacho, hd, rfl⟩ := Option.map_eq_some_iff.mp hs
      exact inv_despacho hi (fun _ _ h => by cases h) hd

theorem alcanza_inv (hs : Alcanza (paso P) (inicial P) s) : Inv P s :=
  hs.induccion (inv_inicial P) fun _ _ _ ha hb => inv_paso ha hb

/-! ## One inventory -/

def Estado.origen (s : Estado) : List Nat := s.entregas.map fun x => x.2.numero

theorem origen_getElem? (s : Estado) (k : Nat) :
    s.origen[k]? = (s.entregas[k]?).map fun x => x.2.numero :=
  List.getElem?_map

/-- The bags of a place of the central belt, by their number there and by the one of their arrival. -/
theorem numeros_despues (s : Estado) (l : Despacho.Lugar) :
    (s.numeros (.inr l) : Multiset Nat) =
      (s.despacho.numeros l).filterMap fun k => s.origen[k]? := by
  change ((((s.despacho.en l).filterMap _).map Prod.fst : List Nat) : Multiset Nat) =
    (((s.despacho.en l).map Valija.numero : List Nat) : Multiset Nat).filterMap _
  rw [Multiset.filterMap_coe, List.map_filterMap, List.filterMap_map]
  congr 2
  funext v
  rw [Function.comp_apply, origen_getElem?, Option.map_map]
  rfl

/-- Each bag that has come is in one place before the central belt or in one of its places. -/
theorem Inv.unReparto (hi : Inv P s) :
    ∃ lugar, Reparto (fun l => (s.numeros l : Multiset Nat)) lugar ∧
      ∀ n, lugar n ≠ none ↔ n < s.llegadas.length := by
  obtain ⟨lugar, hlugar, hn⟩ := hi.inventario.reparto
  obtain ⟨lugar', hlugar', hn'⟩ := hi.despacho.conservado.reparto
  have horigen : numerosEn Bulto.numero s.antes none = (s.origen : Multiset Nat) := by
    change (((s.entregas.map Prod.snd).map Bulto.numero : List Nat) : Multiset Nat) = _
    rw [List.map_map]
    rfl
  have hlargo : ∀ k, lugar' k ≠ none ↔ k < s.origen.length := by
    intro k
    rw [hn' k, hi.entradas, List.length_map]
    unfold Estado.origen
    rw [List.length_map]
  refine ⟨_, (hlugar.componer horigen hlugar').congr fun l => ?_, fun n => ?_⟩
  · cases l with
    | inl l => rfl
    | inr l => exact numeros_despues s l
  · rw [Reparto.lugarCompuesto_ne_none hlugar horigen hlargo, hn]

theorem mem_despues {l : Despacho.Lugar} {x : Nat × Valija} (hx : x ∈ s.despues l) :
    x.2 ∈ s.despacho.en l ∧ ∃ y, s.entregas[x.2.numero]? = some y ∧ y.2.numero = x.1 := by
  obtain ⟨v, hv, hmap⟩ := List.mem_filterMap.mp hx
  obtain ⟨y, hy, rfl⟩ := Option.map_eq_some_iff.mp hmap
  exact ⟨hv, y, hy, rfl⟩

/-- Of two bags brought to the central belt with one number there is only one. -/
theorem Inv.entrega_unica {x y : Nat × Bulto} (hi : Inv P s) (hx : x ∈ s.entregas) (hy : y ∈ s.entregas)
    (h : x.2.numero = y.2.numero) : x = y := by
  have hnodup := hi.inventario.unaVez none
  rw [show s.antes none = s.entregas.map Prod.snd from rfl, List.map_map] at hnodup
  exact List.inj_on_of_nodup_map hnodup hx hy h

theorem Inv.viene_despues {l : Despacho.Lugar} {x : Nat × Valija} (hi : Inv P s)
    (hx : x ∈ s.despues l) : ∃ y ∈ s.entregas, y.2.numero = x.1 ∧ x.2.Viene y.2.equipaje := by
  obtain ⟨hv, y, hy, hny⟩ := mem_despues hx
  obtain ⟨e, he, -, hviene⟩ := hi.despacho.conservado.traida l x.2 hv
  rw [hi.entradas, List.getElem?_map, hy] at he
  cases he
  exact ⟨y, List.mem_of_getElem? hy, hny, hviene⟩

/-- In every reachable state each bag that came to a desk or to the robot of intercargo is in exactly one
    place of the airport, once, with its tag and its flight; a container belt has only bags that a robot
    of its zone extracted and that are not suspicious, and those that their scanner found suspicious have
    been through the control.  The control has discarded only bags without a zone. -/
theorem recorrido_conserva (P : Parametros) (hs : Alcanza (paso P) (inicial P) s) : Conserva P s := by
  have hi := alcanza_inv hs
  obtain ⟨lugar, hlugar, hn⟩ := hi.unReparto
  refine ⟨fun n hlt => ?_, fun l => ?_, fun l b hb => ?_, fun l x hx => ?_, fun z x hx => ?_,
    fun z x hx y hy hnum hsosp => ?_, fun x hx => hi.despacho.descarte x.2 (mem_despues hx).1⟩
  · exact hlugar.existsUnique ((hn n).mpr hlt)
  · exact Multiset.coe_nodup.mp (hlugar.nodup l)
  · obtain ⟨e, he, -, hmismo⟩ := hi.inventario.viene (some l) b hb
    exact ⟨e, he, hmismo⟩
  · obtain ⟨y, hy, hny, hviene⟩ := hi.viene_despues hx
    obtain ⟨e, he, -, hrfid, hvuelo⟩ :=
      hi.inventario.viene none y.2 (List.mem_map_of_mem hy)
    refine ⟨e, by rw [← hny]; exact he, ?_, ?_⟩
    · rw [hviene]
      exact hrfid
    · rw [hviene]
      exact hvuelo
  · exact hi.despacho.contenedor z x.2 (mem_despues hx).1
  · obtain ⟨y', hy', hny', hviene⟩ := hi.viene_despues hx
    have hyy : y = y' := hi.entrega_unica hy hy' (by rw [hnum, hny'])
    subst hyy
    obtain ⟨hlimpio, -⟩ := hi.despacho.contenedor z x.2 (mem_despues hx).1
    -- the mark it came with is not there any more
    rw [hviene, hsosp] at hlimpio
    simpa using hlimpio

/-- One desk, one scanner and one robot of despacho with the zones 3 and 4. -/
def unAeropuerto : Parametros where
  capacidadCheckin := 2
  puestos := 1
  capacidadScanner := 2
  maxScanners := 1
  capacidadCentral := 2
  despachantes := 1
  zonaDesde _ := 3
  zonaHasta _ := 4
  hayCheckin := Nat.le_succ 1
  hayScanner := Nat.le_succ 1
  hayScanners := Nat.le_refl 1
  hayCentral := Nat.le_succ 1

/-- The constructor of the scanner. -/
def seRegistra : List Evento :=
  [Evento.robotScanner 0 false, Evento.scanner (.escaner 0), Evento.scanner (.escaner 0),
    Evento.scanner (.escaner 0), Evento.robotScanner 0 false]

/-- The desk puts a bag and robot_checkin takes it to the belt of the scanner. -/
def seEmbarca (equipaje : Equipaje) : List Evento :=
  [Evento.registrarEquipaje 0 equipaje, Evento.checkin (.waitProductor 0), Evento.checkin (.seccionProductor 0),
    Evento.robotCheckin, Evento.checkin (.waitConsumidor 0), Evento.checkin (.seccionConsumidor 0),
    Evento.robotCheckin] ++ List.replicate 8 (Evento.scanner .productor) ++ [Evento.robotCheckin]

/-- The scanner takes a bag, looks at it and puts it on the central belt. -/
def seEscanea (sospechoso : Bool) : List Evento :=
  Evento.robotScanner 0 false :: List.replicate 5 (Evento.scanner (.escaner 0)) ++
    [Evento.robotScanner 0 sospechoso, Evento.robotScanner 0 false,
      Evento.despacho (.cinta (.waitProductor 0)), Evento.despacho (.cinta (.seccionColocar 0)),
      Evento.robotScanner 0 false]

/-- Consumer `j` of the central belt reads. -/
def seLee (j : Nat) : List Evento :=
  [Evento.despacho (.cinta (.waitConsumidor j)), Evento.despacho (.cinta (.seccionLeer j))]

/-- The robot of despacho reads a bag and takes it to zone 3. -/
def seDespacha : List Evento :=
  Evento.despacho (.despacho 0 3) :: seLee 0 ++ List.replicate 4 (Evento.despacho (.despacho 0 3))

/-- A bag passes the robot of despacho and goes through the control. -/
def seControla : List Evento :=
  Evento.despacho (.despacho 0 3) :: seLee 0 ++ List.replicate 3 (Evento.despacho (.despacho 0 3)) ++
    Evento.despacho (.robotControl 3) :: seLee 1 ++ List.replicate 4 (Evento.despacho (.robotControl 3)) ++
    [Evento.despacho .control, Evento.despacho .control,
      Evento.despacho (.cinta (.waitProductor 1)), Evento.despacho (.cinta (.seccionColocar 1))]

/-- A bag that its scanner finds suspicious gets to zone 3 after the control. -/
def unaValija : List Evento :=
  seRegistra ++ seEmbarca ⟨7, 12, false⟩ ++ seEscanea true ++ seControla ++ seDespacha

theorem recorrido_conserva_una_valija :
    ∃ s : Estado, Alcanza (paso unAeropuerto) (inicial unAeropuerto) s ∧
      s.numeros (.inr (.contenedor 3)) = [0] ∧ Conserva unAeropuerto s := by
  have hrun : (correr (paso unAeropuerto) (inicial unAeropuerto) unaValija).map
      (fun s => s.numeros (.inr (.contenedor 3))) = some [0] := by decide +kernel
  obtain ⟨s, hs, hn⟩ := Option.map_eq_some_iff.mp hrun
  exact ⟨s, ⟨_, hs⟩, hn, recorrido_conserva unAeropuerto ⟨_, hs⟩⟩

end Recorrido
