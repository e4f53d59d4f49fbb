import Aeropuerto.Clientes.MemoriaDistribuida

/-!
# Exclusion and coherence of the distributed memory

The token of a group is in the broker or with one handler.  The memory travels with it: from the
image in the broker to the memory of the application and back, one block after another.  `Fase` says
how far the journey of a connection has got and which copies already agree with what the last
`unlock` left; a connection without the token is at rest.
-/

namespace MemoriaDistribuida

open Ejecucion Bloques

variable {ι ν β : Type} {M : Nat}

/-! ## The journey of the token through one connection -/

/-- How often application `p` is past the wait of `lock` on group `g` and not past its signal. -/
def App.dentro (p : App) (g : Nat) : Nat :=
  (if p.pc = .limpiando g then 1 else 0) + (if p.adentro g then 1 else 0) +
    if p.pc = .senalando g then 1 else 0

/-- The handler holds the token. -/
def PcManejador.ficha : PcManejador M → Nat
  | .envia _ | .recibe _ | .actualiza | .libera => 1
  | _ => 0

/-- No token is between `LocalBrokerComm` and the application, which is `d` times inside. -/
structure Conexion.Quieta (c : Conexion M β) (d : Nat) : Prop where
  entrega : c.entrega = 0
  devolucion : c.devolucion = 0
  dentro : d = 0

/-- `LocalBrokerComm` has lent the token to the application, which may write while `adentro`. -/
structure Conexion.Presta (tamanio : Nat) (ultima : Nat → β) (c : Conexion M β) (d : Nat)
    (adentro : Bool) : Prop where
  manejador : c.manejador = .recibe 0
  comm : c.comm = .espera
  bajada : c.bajada = []
  subida : c.subida = []
  unica : c.entrega + d + c.devolucion = 1
  memoria : adentro = false → Coincide tamanio c.memoria ultima

inductive Fase (tamanio : Nat) (imagen ultima : Nat → β) (c : Conexion M β) (d : Nat)
    (adentro : Bool) : Prop where
  | libre (hm : c.manejador.ficha = 0)
      (hcomm : c.comm = .sinConectar ∧ c.manejador = .inexistente ∨ c.comm = .conectando ∨
        c.comm = .recibe 0)
      (hbajada : c.bajada = []) (hsubida : c.subida = []) (hq : c.Quieta d)
  -- i blocks sent and j received
  | baja (i j : Nat)
      (hm : c.manejador = .envia i ∧ i < cantidad dataSize tamanio ∨
        c.manejador = .recibe 0 ∧ i = cantidad dataSize tamanio)
      (hcomm : c.comm = .conectando ∧ j = 0 ∨ c.comm = .recibe j)
      (hj : j < cantidad dataSize tamanio) (hji : j ≤ i)
      (hbajada : c.bajada = bloques dataSize tamanio imagen j i)
      (hmem : Coincide (hasta dataSize tamanio j) c.memoria imagen)
      (himagen : Coincide tamanio imagen ultima) (hsubida : c.subida = []) (hq : c.Quieta d)
  | presenta (hm : c.manejador = .recibe 0) (hcomm : c.comm = .compara ∨ c.comm = .entrega)
      (hmem : Coincide tamanio c.memoria ultima)
      (hbajada : c.bajada = []) (hsubida : c.subida = []) (hq : c.Quieta d)
  | presta (h : c.Presta tamanio ultima d adentro)
  -- j blocks sent back and k received
  | sube (k j : Nat) (hm : c.manejador = .recibe k) (hk : k < cantidad dataSize tamanio)
      (hcomm : c.comm = .envia j ∧ j < cantidad dataSize tamanio ∨
        c.comm = .recibe 0 ∧ j = cantidad dataSize tamanio)
      (hkj : k ≤ j) (hsubida : c.subida = bloques dataSize tamanio c.memoria k j)
      (hlocal : Coincide (hasta dataSize tamanio k) c.memLocal c.memoria)
      (hmem : Coincide tamanio c.memoria ultima) (hbajada : c.bajada = []) (hq : c.Quieta d)
  | actualiza (hm : c.manejador = .actualiza) (hcomm : c.comm = .recibe 0)
      (hlocal : Coincide tamanio c.memLocal ultima)
      (hbajada : c.bajada = []) (hsubida : c.subida = []) (hq : c.Quieta d)
  | libera (hm : c.manejador = .libera) (hcomm : c.comm = .recibe 0)
      (himagen : Coincide tamanio imagen ultima)
      (hbajada : c.bajada = []) (hsubida : c.subida = []) (hq : c.Quieta d)

section Fase

variable {tamanio d i : Nat} {imagen ultima : Nat → β} {c c' : Conexion M β} {adentro e : Bool}

theorem cantidad_dataSize_pos (tamanio : Nat) : 0 < cantidad dataSize tamanio :=
  cantidad_pos (by decide)

theorem hasta_dataSize (tamanio : Nat) :
    hasta dataSize tamanio (cantidad dataSize tamanio) = tamanio :=
  hasta_cantidad (by decide)

/-- Without the token a connection says nothing of the image or of what the last `unlock` left. -/
theorem Fase.sinFicha (h : Fase tamanio imagen ultima c d adentro) (h0 : c.manejador.ficha = 0)
    (imagen' ultima' : Nat → β) : Fase tamanio imagen' ultima' c d adentro := by
  cases h with
  | libre hm hcomm hbajada hsubida hq => exact .libre hm hcomm hbajada hsubida hq
  | baja i j hm => rcases hm with ⟨hm, -⟩ | ⟨hm, -⟩ <;> rw [hm] at h0 <;> cases h0
  | presenta hm => rw [hm] at h0; cases h0
  | presta h => rw [h.manejador] at h0; cases h0
  | sube k j hm => rw [hm] at h0; cases h0
  | actualiza hm => rw [hm] at h0; cases h0
  | libera hm => rw [hm] at h0; cases h0

/-- A token on the side of the application has been lent. -/
theorem Fase.prestada (h : Fase tamanio imagen ultima c d adentro)
    (hpos : 0 < c.entrega + d + c.devolucion) : c.Presta tamanio ultima d adentro := by
  have hno : ¬ c.Quieta d := by
    intro hq
    rw [hq.entrega, hq.dentro, hq.devolucion] at hpos
    omega
  cases h with
  | presta h => exact h
  | libre _ _ _ _ hq | baja _ _ _ _ _ _ _ _ _ _ hq | presenta _ _ _ _ _ hq
  | sube _ _ _ _ _ _ _ _ _ _ hq | actualiza _ _ _ _ _ hq | libera _ _ _ _ _ hq =>
    exact absurd hq hno

/-- The steps of `LocalBrokerComm`. -/
theorem Fase.pasoComm (h : Fase tamanio imagen ultima c d adentro) (hd : adentro = true → 0 < d)
    (hs : c.pasoComm tamanio e = some c') : Fase tamanio imagen ultima c' d adentro := by
  have hcant := cantidad_dataSize_pos tamanio
  cases h with
  | libre hm hcomm hbajada hsubida hq =>
    rcases hcomm with ⟨hcomm, -⟩ | hcomm | hcomm <;> simp only [Conexion.pasoComm, hcomm] at hs
    · cases hs
    · split at hs <;> cases hs
      exact .libre hm (.inr (.inr rfl)) hbajada hsubida ⟨hq.entrega, hq.devolucion, hq.dentro⟩
    · rw [hbajada] at hs
      cases hs
  | baja i j hm hcomm hj hji hbajada hmem himagen hsubida hq =>
    rcases hcomm with ⟨hcomm, rfl⟩ | hcomm <;> simp only [Conexion.pasoComm, hcomm] at hs
    · split at hs <;> cases hs
      exact .baja i 0 hm (.inr rfl) hj hji hbajada hmem himagen hsubida
        ⟨hq.entrega, hq.devolucion, hq.dentro⟩
    · split at hs
      · rename_i datos resto hcola
        cases hs
        have hlt : j < i := by
          by_contra hge
          rw [hbajada, show j = i by omega, bloques_self] at hcola
          cases hcola
        rw [hbajada, bloques_cons imagen hlt] at hcola
        obtain ⟨rfl, rfl⟩ := List.cons.inj hcola
        have hrec := coincide_guardar hmem
        by_cases hfin : j + 1 < cantidad dataSize tamanio
        · exact .baja i (j + 1) hm (.inr (if_pos hfin)) hfin hlt rfl hrec himagen hsubida
            ⟨hq.entrega, hq.devolucion, hq.dentro⟩
        · -- the last block: all have been sent
          have hi : j + 1 = cantidad dataSize tamanio := by omega
          rw [hi, hasta_dataSize] at hrec
          have hm' : c.manejador = .recibe 0 := by
            rcases hm with ⟨-, hi'⟩ | ⟨hm, -⟩
            · omega
            · exact hm
          have hvacia : bloques dataSize tamanio imagen (j + 1) i = [] := by
            rcases hm with ⟨-, hi'⟩ | ⟨-, hi'⟩
            · omega
            · rw [hi, hi', bloques_self]
          exact .presenta hm' (.inl (if_neg hfin)) (hrec.trans himagen) hvacia hsubida
            ⟨hq.entrega, hq.devolucion, hq.dentro⟩
      · cases hs
  | presenta hm hcomm hmem hbajada hsubida hq =>
    rcases hcomm with hcomm | hcomm <;> simp only [Conexion.pasoComm, hcomm] at hs <;> cases hs
    · cases e with
      | true =>
        exact .presenta hm (.inr rfl) hmem hbajada hsubida ⟨hq.entrega, hq.devolucion, hq.dentro⟩
      | false =>
        exact .sube 0 0 hm hcant (.inl ⟨rfl, hcant⟩) (le_refl 0)
          (hsubida.trans (bloques_self _ 0).symm) (coincide_hasta_zero _ _) hmem hbajada
          ⟨hq.entrega, hq.devolucion, hq.dentro⟩
    · refine .presta ⟨hm, rfl, hbajada, hsubida, ?_, fun _ => hmem⟩
      dsimp only
      rw [hq.entrega, hq.dentro, hq.devolucion]
  | presta h =>
    simp only [Conexion.pasoComm, h.comm] at hs
    split at hs <;> cases hs
    rename_i hpos
    have hunica := h.unica
    have hfuera : adentro = false := by
      by_contra hno
      have := hd (by simpa using hno)
      omega
    exact .sube 0 0 h.manejador hcant (.inl ⟨rfl, hcant⟩) (le_refl 0)
      (h.subida.trans (bloques_self _ 0).symm)
      (coincide_hasta_zero _ _) (h.memoria hfuera) h.bajada
      ⟨show c.entrega = 0 by omega, show c.devolucion - 1 = 0 by omega, by omega⟩
  | sube k j hm hk hcomm hkj hsubida hlocal hmem hbajada hq =>
    rcases hcomm with ⟨hcomm, hj⟩ | ⟨hcomm, -⟩ <;> simp only [Conexion.pasoComm, hcomm] at hs
    · cases hs
      refine .sube k (j + 1) hm hk ?_ (by omega) ?_ hlocal hmem hbajada
        ⟨hq.entrega, hq.devolucion, hq.dentro⟩
      · by_cases hfin : j + 1 < cantidad dataSize tamanio
        · exact .inl ⟨if_pos hfin, hfin⟩
        · exact .inr ⟨if_neg hfin, by omega⟩
      · dsimp only
        rw [hsubida, bloques_snoc _ hkj]
    · rw [hbajada] at hs
      cases hs
  | actualiza hm hcomm hlocal hbajada hsubida hq =>
    simp only [Conexion.pasoComm, hcomm, hbajada] at hs
    cases hs
  | libera hm hcomm himagen hbajada hsubida hq =>
    simp only [Conexion.pasoComm, hcomm, hbajada] at hs
    cases hs

/-! ### The steps of the handler -/

theorem Fase.conectar (h : Fase tamanio imagen ultima c d adentro) (hcomm : c.comm = .sinConectar) :
    Fase tamanio imagen ultima { c with comm := .conectando, manejador := .une .avisa } d adentro ∧
      c.manejador.ficha = 0 := by
  cases h with
  | libre hm _ hbajada hsubida hq =>
    exact ⟨.libre rfl (.inr (.inl rfl)) hbajada hsubida ⟨hq.entrega, hq.devolucion, hq.dentro⟩, hm⟩
  | baja i j hm hc => rcases hc with ⟨hc, -⟩ | hc <;> rw [hc] at hcomm <;> cases hcomm
  | presenta hm hc => rcases hc with hc | hc <;> rw [hc] at hcomm <;> cases hcomm
  | presta h => rw [h.comm] at hcomm; cases hcomm
  | sube k j hm hk hc => rcases hc with ⟨hc, -⟩ | ⟨hc, -⟩ <;> rw [hc] at hcomm <;> cases hcomm
  | actualiza hm hc => rw [hc] at hcomm; cases hcomm
  | libera hm hc => rw [hc] at hcomm; cases hcomm

/-- A connection without the token, up to what its handler does before it takes one. -/
theorem Fase.unir {m : PcManejador M} {k : Fin M} {r : Bool}
    (h : Fase tamanio imagen ultima c d adentro) (h0 : c.manejador.ficha = 0)
    (hm : c.manejador ≠ .inexistente) (hm' : m.ficha = 0) :
    Fase tamanio imagen ultima { c with manejador := m, numeroCola := k, respuesta := r } d
      adentro := by
  cases h with
  | libre _ hcomm hbajada hsubida hq =>
    refine .libre hm' (.inr ?_) hbajada hsubida ⟨hq.entrega, hq.devolucion, hq.dentro⟩
    rcases hcomm with ⟨-, he⟩ | hcomm
    · exact absurd he hm
    · exact hcomm
  | baja i j hc => rcases hc with ⟨hc, -⟩ | ⟨hc, -⟩ <;> rw [hc] at h0 <;> cases h0
  | presenta hc => rw [hc] at h0; cases h0
  | presta h => rw [h.manejador] at h0; cases h0
  | sube k j hc => rw [hc] at h0; cases h0
  | actualiza hc => rw [hc] at h0; cases h0
  | libera hc => rw [hc] at h0; cases h0

/-- `lock_token` starts the journey, with the image as the last `unlock` left it. -/
theorem Fase.pedir (h : Fase tamanio imagen ultima c d adentro) (hm : c.manejador = .pide)
    (himagen : Coincide tamanio imagen ultima) :
    Fase tamanio imagen ultima { c with manejador := .envia 0 } d adentro := by
  have hcant := cantidad_dataSize_pos tamanio
  have hlibre : c.manejador.ficha = 0 := by rw [hm]; rfl
  cases h with
  | libre _ hcomm hbajada hsubida hq =>
    refine .baja 0 0 (.inl ⟨rfl, hcant⟩) ?_ hcant (le_refl 0)
      (hbajada.trans (bloques_self _ 0).symm) (coincide_hasta_zero _ _) himagen hsubida
      ⟨hq.entrega, hq.devolucion, hq.dentro⟩
    rcases hcomm with ⟨-, he⟩ | hcomm | hcomm
    · rw [hm] at he
      cases he
    · exact .inl ⟨hcomm, rfl⟩
    · exact .inr hcomm
  | baja i j hc => rcases hc with ⟨hc, -⟩ | ⟨hc, -⟩ <;> rw [hc] at hm <;> cases hm
  | presenta hc => rw [hc] at hm; cases hm
  | presta h => rw [h.manejador] at hm; cases hm
  | sube k j hc => rw [hc] at hm; cases hm
  | actualiza hc => rw [hc] at hm; cases hm
  | libera hc => rw [hc] at hm; cases hm

theorem Fase.enviar [Zero β] (h : Fase tamanio imagen ultima c d adentro)
    (hm : c.manejador = .envia i) :
    Fase tamanio imagen ultima (c.enviar tamanio imagen i) d adentro := by
  cases h with
  | baja k j hc hcomm hj hji hbajada hmem himagen hsubida hq =>
    rcases hc with ⟨hc, hk⟩ | ⟨hc, -⟩
    · obtain rfl : k = i := by
        rw [hm] at hc
        cases hc
        rfl
      have hcola : c.bajada ++ [bloque dataSize tamanio imagen k] =
          bloques dataSize tamanio imagen j (k + 1) := by rw [hbajada, bloques_snoc _ hji]
      unfold Conexion.enviar
      dsimp only
      split
      · rename_i hmas
        exact .baja (k + 1) j (.inl ⟨rfl, hmas⟩) hcomm hj (Nat.le_succ_of_le hji) hcola hmem
          himagen hsubida ⟨hq.entrega, hq.devolucion, hq.dentro⟩
      · exact .baja (k + 1) j (.inr ⟨rfl, by omega⟩) hcomm hj (Nat.le_succ_of_le hji) hcola hmem
          himagen hsubida ⟨hq.entrega, hq.devolucion, hq.dentro⟩
    · rw [hm] at hc
      cases hc
  | libre hc => rw [hm] at hc; cases hc
  | presenta hc => rw [hc] at hm; cases hm
  | presta h => rw [h.manejador] at hm; cases hm
  | sube k j hc => rw [hc] at hm; cases hm
  | actualiza hc => rw [hc] at hm; cases hm
  | libera hc => rw [hc] at hm; cases hm

theorem Fase.recibir (h : Fase tamanio imagen ultima c d adentro) (hm : c.manejador = .recibe i)
    (hs : c.recibir tamanio i = some c') : Fase tamanio imagen ultima c' d adentro := by
  have hcola : c.subida ≠ [] := by
    intro hvacia
    rw [Conexion.recibir, hvacia] at hs
    cases hs
  cases h with
  | sube k j hc hk hcomm hkj hsubida hlocal hmem hbajada hq =>
    obtain rfl : k = i := by
      rw [hm] at hc
      cases hc
      rfl
    have hlt : k < j := by
      by_contra hge
      rw [hsubida, show j = k by omega, bloques_self] at hcola
      exact hcola rfl
    have hrec := coincide_guardar hlocal
    rw [Conexion.recibir, hsubida, bloques_cons _ hlt] at hs
    cases hs
    by_cases hfin : k + 1 < cantidad dataSize tamanio
    · exact .sube (k + 1) j (if_pos hfin) hfin hcomm hlt rfl hrec hmem hbajada
        ⟨hq.entrega, hq.devolucion, hq.dentro⟩
    · -- the last block, so LocalBrokerComm has sent them all
      have hk : k + 1 = cantidad dataSize tamanio := by omega
      rw [hk, hasta_dataSize] at hrec
      rcases hcomm with ⟨-, hj⟩ | ⟨hcomm, hj⟩
      · omega
      · refine .actualiza (if_neg hfin) hcomm (hrec.trans hmem) hbajada ?_
          ⟨hq.entrega, hq.devolucion, hq.dentro⟩
        dsimp only
        rw [hk, hj, bloques_self]
  | libre hc => rw [hm] at hc; cases hc
  | baja _ _ _ _ _ _ _ _ _ hsubida => exact absurd hsubida hcola
  | presenta _ _ _ _ hsubida => exact absurd hsubida hcola
  | presta h => exact absurd h.subida hcola
  | actualiza _ _ _ _ hsubida => exact absurd hsubida hcola
  | libera _ _ _ _ hsubida => exact absurd hsubida hcola

theorem Fase.actualizar (h : Fase tamanio imagen ultima c d adentro)
    (hm : c.manejador = .actualiza) :
    Fase tamanio (copiar tamanio imagen c.memLocal) ultima { c with manejador := .libera } d
      adentro := by
  cases h with
  | actualiza _ hcomm hlocal hbajada hsubida hq =>
    exact .libera rfl hcomm ((coincide_copiar tamanio imagen c.memLocal).trans hlocal) hbajada
      hsubida ⟨hq.entrega, hq.devolucion, hq.dentro⟩
  | libre hc => rw [hm] at hc; cases hc
  | baja i j hc => rcases hc with ⟨hc, -⟩ | ⟨hc, -⟩ <;> rw [hc] at hm <;> cases hm
  | presenta hc => rw [hc] at hm; cases hm
  | presta h => rw [h.manejador] at hm; cases hm
  | sube k j hc => rw [hc] at hm; cases hm
  | libera hc => rw [hc] at hm; cases hm

/-! ### The steps of the application -/

theorem Conexion.Presta.waitOn (h : c.Presta tamanio ultima d adentro) (hpos : 0 < c.entrega) :
    Conexion.Presta tamanio ultima { c with entrega := c.entrega - 1 } (d + 1) adentro where
  manejador := h.manejador
  comm := h.comm
  bajada := h.bajada
  subida := h.subida
  unica := by
    have := h.unica
    dsimp only
    omega
  memoria := h.memoria

/-- `lock` has returned: from now on the memory may differ from what the last `unlock` left. -/
theorem Conexion.Presta.entrar (h : c.Presta tamanio ultima d adentro) :
    c.Presta tamanio ultima d true :=
  ⟨h.manejador, h.comm, h.bajada, h.subida, h.unica, nofun⟩

theorem Conexion.Presta.escribir (h : c.Presta tamanio ultima d true) (m : Nat → β) :
    Conexion.Presta tamanio ultima { c with memoria := m } d true :=
  ⟨h.manejador, h.comm, h.bajada, h.subida, h.unica, nofun⟩

theorem Conexion.Presta.unlock (h : c.Presta tamanio ultima d adentro) :
    c.Presta tamanio c.memoria d false :=
  ⟨h.manejador, h.comm, h.bajada, h.subida, h.unica, fun _ => .refl _ _⟩

theorem Conexion.Presta.signalize (h : c.Presta tamanio ultima (d + 1) adentro) :
    Conexion.Presta tamanio ultima { c with devolucion := c.devolucion + 1 } d adentro where
  manejador := h.manejador
  comm := h.comm
  bajada := h.bajada
  subida := h.subida
  unica := by
    have := h.unica
    dsimp only
    omega
  memoria := h.memoria

/-- The token goes back with the image that the last `unlock` left. -/
theorem Fase.liberar (h : Fase tamanio imagen ultima c d adentro) (hm : c.manejador = .libera) :
    Fase tamanio imagen ultima { c with manejador := .pide } d adentro ∧
      Coincide tamanio imagen ultima := by
  cases h with
  | libera _ hcomm himagen hbajada hsubida hq =>
    exact ⟨.libre rfl (.inr (.inr hcomm)) hbajada hsubida ⟨hq.entrega, hq.devolucion, hq.dentro⟩,
      himagen⟩
  | libre hc => rw [hm] at hc; cases hc
  | baja i j hc => rcases hc with ⟨hc, -⟩ | ⟨hc, -⟩ <;> rw [hc] at hm <;> cases hm
  | presenta hc => rw [hc] at hm; cases hm
  | presta h => rw [h.manejador] at hm; cases hm
  | sube k j hc => rw [hc] at hm; cases hm
  | actualiza hc => rw [hc] at hm; cases hm

end Fase

/-! ## The invariant -/

section Inv

variable [DecidableEq ι] [Fintype ι] {P : Parametros ι ν β} {s t : Estado ι M ν β} {a : ι} {g : Nat}

/-- The system between two steps. -/
structure Inv (P : Parametros ι ν β) (s : Estado ι M ν β) : Prop where
  bien : s.broker.Bien P.toConfig
  fase : ∀ a g, Fase (P.tamanio g) (s.imagen g) (s.ultima g) (s.conexion (a, g))
    ((s.app a).dentro g) ((s.app a).adentro g)
  unaFicha : ∀ g, s.broker.saldo P.toConfig g +
    ∑ a, (s.conexion (a, g)).manejador.ficha ≤ 1
  listo : ∀ a g, 0 < (s.conexion (a, g)).manejador.ficha → s.broker.listo g
  coherente : ∀ g, s.broker.listo g → (∀ a, (s.conexion (a, g)).manejador.ficha = 0) →
    Coincide (P.tamanio g) (s.imagen g) (s.ultima g)
  sinUso : ∀ g, ¬ s.broker.listo g → s.ultima g = P.imagenInicial g

/-- What a step of application `a` in group `g`, or of one of its two processes, changes. -/
def Estado.cambiar (s : Estado ι M ν β) (b : Broker M ν) (a : ι) (g : Nat) (p : App)
    (c : Conexion M β) (imagen ultima : Nat → β) : Estado ι M ν β where
  broker := b
  app := Function.update s.app a p
  conexion := Function.update s.conexion (a, g) c
  imagen := Function.update s.imagen g imagen
  ultima := Function.update s.ultima g ultima

/-- A step keeps the invariant if the journey of its own connection goes on, the token is neither
    made nor lost, and only its holder touches the image or unlocks. -/
theorem Inv.cambiar {b : Broker M ν} {p : App} {c : Conexion M β} {imagen ultima : Nat → β}
    (hi : Inv P s) (hb : b.Bien P.toConfig) (hlisto : ∀ h, b.listo h ↔ s.broker.listo h)
    (hfase : Fase (P.tamanio g) imagen ultima c (p.dentro g) (p.adentro g))
    (hp : ∀ h, h ≠ g → p.dentro h = (s.app a).dentro h ∧ p.adentro h = (s.app a).adentro h)
    (hsaldo : ∀ h, b.saldo P.toConfig h + (if h = g then c.manejador.ficha else 0) =
      s.broker.saldo P.toConfig h + if h = g then (s.conexion (a, g)).manejador.ficha else 0)
    (hl : 0 < c.manejador.ficha → s.broker.listo g)
    (hdueno : imagen = s.imagen g ∧ ultima = s.ultima g ∨
      0 < (s.conexion (a, g)).manejador.ficha ∧ 0 < c.manejador.ficha)
    (hvuelve : 0 < (s.conexion (a, g)).manejador.ficha → c.manejador.ficha = 0 →
      Coincide (P.tamanio g) imagen ultima) :
    Inv P (s.cambiar b a g p c imagen ultima) := by
  have hpar : ∀ {x : ι} {h : Nat}, ¬ (x = a ∧ h = g) → (x, h) ≠ (a, g) := by
    intro x h hne he
    exact hne (Prod.mk.inj he)
  refine ⟨hb, fun x h => ?_, fun h => ?_, fun x h hpos => ?_, fun h hlis hcero => ?_,
    fun h hno => ?_⟩ <;> unfold Estado.cambiar at * <;> dsimp only at *
  · by_cases hh : h = g
    · subst hh
      rw [Function.update_self, Function.update_self]
      by_cases hx : x = a
      · subst hx
        rw [Function.update_self, Function.update_self]
        exact hfase
      · rw [Function.update_of_ne (hpar fun he => hx he.1), Function.update_of_ne hx]
        rcases hdueno with ⟨rfl, rfl⟩ | ⟨hpos, -⟩
        · exact hi.fase x h
        · -- the token is with a, so this connection is at rest
          have hx0 : (s.conexion (x, h)).manejador.ficha = 0 := by
            by_contra hne
            have huno := Nat.le_trans (Nat.le_add_left _ _) (hi.unaFicha h)
            exact hx (Sumas.suma_le_uno huno (Finset.mem_univ x) (Finset.mem_univ a)
              (Nat.pos_of_ne_zero hne) hpos)
          exact (hi.fase x h).sinFicha hx0 imagen ultima
    · rw [Function.update_of_ne hh, Function.update_of_ne hh,
        Function.update_of_ne (hpar fun he => hh he.2)]
      by_cases hx : x = a
      · subst hx
        rw [Function.update_self, (hp h hh).1, (hp h hh).2]
        exact hi.fase x h
      · rw [Function.update_of_ne hx]
        exact hi.fase x h
  · -- the handlers that hold the token
    have hsuma := Sumas.suma_update_par (fun c : Conexion M β => c.manejador.ficha) s.conexion
      (Finset.mem_univ a) g h c
    have huno := hi.unaFicha h
    have hs := hsaldo h
    omega
  · rw [hlisto]
    by_cases hx : x = a ∧ h = g
    · obtain ⟨rfl, rfl⟩ := hx
      rw [Function.update_self] at hpos
      exact hl hpos
    · rw [Function.update_of_ne (hpar hx)] at hpos
      exact hi.listo x h hpos
  · rw [hlisto] at hlis
    by_cases hh : h = g
    · subst hh
      have hc0 := hcero a
      rw [Function.update_self] at hc0 ⊢
      rw [Function.update_self]
      rcases hdueno with ⟨rfl, rfl⟩ | ⟨-, hpos⟩
      · by_cases hpos : 0 < (s.conexion (a, h)).manejador.ficha
        · exact hvuelve hpos hc0
        · refine hi.coherente h hlis fun x => ?_
          by_cases hx : x = a
          · rw [hx]
            exact Nat.eq_zero_of_not_pos hpos
          · have := hcero x
            rwa [Function.update_of_ne (hpar fun he => hx he.1)] at this
      · omega
    · rw [Function.update_of_ne hh, Function.update_of_ne hh]
      refine hi.coherente h hlis fun x => ?_
      have := hcero x
      rwa [Function.update_of_ne (hpar fun he => hh he.2)] at this
  · rw [hlisto] at hno
    by_cases hh : h = g
    · subst hh
      rw [Function.update_self]
      rcases hdueno with ⟨-, rfl⟩ | ⟨hpos, -⟩
      · exact hi.sinUso h hno
      · exact absurd (hi.listo a h hpos) hno
    · rw [Function.update_of_ne hh]
      exact hi.sinUso h hno

/-- A step that leaves the broker, the image and what the last `unlock` left as they are. -/
theorem Inv.local {p : App} {c : Conexion M β} (hi : Inv P s)
    (hfase : Fase (P.tamanio g) (s.imagen g) (s.ultima g) c (p.dentro g) (p.adentro g))
    (hp : ∀ h, h ≠ g → p.dentro h = (s.app a).dentro h ∧ p.adentro h = (s.app a).adentro h)
    (hficha : c.manejador.ficha = (s.conexion (a, g)).manejador.ficha) :
    Inv P ((s.setConexion a g c).setApp a p) := by
  have hcambio := hi.cambiar hi.bien (fun _ => Iff.rfl) hfase hp (fun _ => by rw [hficha])
    (fun hpos => hi.listo a g (hficha ▸ hpos)) (.inl ⟨rfl, rfl⟩)
    (fun hpos hcero => absurd hpos (by omega))
  unfold Estado.cambiar at hcambio
  rw [Function.update_eq_self, Function.update_eq_self] at hcambio
  exact hcambio

/-- A step of one of the two processes. -/
theorem Inv.proceso {c : Conexion M β} (hi : Inv P s)
    (hfase : Fase (P.tamanio g) (s.imagen g) (s.ultima g) c ((s.app a).dentro g)
      ((s.app a).adentro g))
    (hficha : c.manejador.ficha = (s.conexion (a, g)).manejador.ficha) :
    Inv P (s.setConexion a g c) := by
  have hlocal := hi.local hfase (fun _ _ => ⟨rfl, rfl⟩) hficha
  unfold Estado.setApp at hlocal
  rw [show (s.setConexion a g c).app = s.app from rfl, Function.update_eq_self] at hlocal
  exact hlocal

/-- A step of the application that leaves its connections as they are. -/
theorem Inv.soloApp {p : App} (hi : Inv P s) (g : Nat)
    (hfase : Fase (P.tamanio g) (s.imagen g) (s.ultima g) (s.conexion (a, g)) (p.dentro g)
      (p.adentro g))
    (hp : ∀ h, h ≠ g → p.dentro h = (s.app a).dentro h ∧ p.adentro h = (s.app a).adentro h) :
    Inv P (s.setApp a p) := by
  have hlocal := hi.local hfase hp rfl
  unfold Estado.setConexion at hlocal
  rw [Function.update_eq_self] at hlocal
  exact hlocal

/-- A step of the handler that also moves the broker. -/
theorem Inv.conBroker {b : Broker M ν} {c : Conexion M β} (hi : Inv P s)
    (hb : b.Bien P.toConfig) (hlisto : ∀ h, b.listo h ↔ s.broker.listo h)
    (hfase : Fase (P.tamanio g) (s.imagen g) (s.ultima g) c ((s.app a).dentro g)
      ((s.app a).adentro g))
    (hsaldo : ∀ h, b.saldo P.toConfig h + (if h = g then c.manejador.ficha else 0) =
      s.broker.saldo P.toConfig h + if h = g then (s.conexion (a, g)).manejador.ficha else 0)
    (hl : 0 < c.manejador.ficha → s.broker.listo g)
    (hvuelve : 0 < (s.conexion (a, g)).manejador.ficha → c.manejador.ficha = 0 →
      Coincide (P.tamanio g) (s.imagen g) (s.ultima g)) :
    Inv P ({ s with broker := b }.setConexion a g c) := by
  have hcambio := hi.cambiar hb hlisto hfase (fun _ _ => ⟨rfl, rfl⟩) hsaldo hl (.inl ⟨rfl, rfl⟩)
    hvuelve
  unfold Estado.cambiar at hcambio
  rw [Function.update_eq_self, Function.update_eq_self, Function.update_eq_self] at hcambio
  exact hcambio

omit [DecidableEq ι] [Fintype ι] in
/-- Inside the section in two places at once would be two tokens. -/
theorem App.adentro_dentro {p : App} (h : p.adentro g = true) : 0 < p.dentro g := by
  unfold App.dentro
  rw [if_pos h]
  omega

omit [DecidableEq ι] in
/-- Inside the section the connection has lent its token. -/
theorem Inv.prestada (hi : Inv P s) (h : (s.app a).adentro g = true) :
    (s.conexion (a, g)).Presta (P.tamanio g) (s.ultima g) ((s.app a).dentro g)
      ((s.app a).adentro g) := by
  have := App.adentro_dentro h
  exact (hi.fase a g).prestada (by omega)

/-! ## The steps -/

section Pasos

variable [NeZero M] [DecidableEq ν] [Zero β]

omit [DecidableEq ι] [DecidableEq ν] in
theorem inv_inicial (P : Parametros ι ν β) : Inv P (inicial P : Estado ι M ν β) where
  bien := Broker.bien_inicial
  fase _ _ := .libre rfl (.inl ⟨rfl, rfl⟩) rfl rfl ⟨rfl, rfl, rfl⟩
  unaFicha g := by
    have hsuma : (∑ a : ι, ((inicial P : Estado ι M ν β).conexion (a, g)).manejador.ficha) = 0 :=
      Finset.sum_const_zero
    rw [hsuma]
    show (Broker.inicial : Broker M ν).saldo P.toConfig g + 0 ≤ 1
    rw [Broker.saldo_inicial]
    exact Broker.valorInicial_le P.toConfig g
  listo _ _ := nofun
  coherente _ := fun h => absurd h.1 (by simp [inicial, Broker.inicial])
  sinUso _ _ := rfl

omit [DecidableEq ι] [DecidableEq ν] [Zero β] in
theorem inv_tokenManager (hi : Inv P s) (hs : pasoTokenManager P s = some t) : Inv P t := by
  obtain ⟨b, hb, rfl⟩ := Option.map_eq_some_iff.mp hs
  have hbien := hi.bien.pasoTokenManager hb
  have hficha : ∀ g, b.saldo P.toConfig g + ∑ a, (s.conexion (a, g)).manejador.ficha ≤ 1 := by
    intro g
    rw [Broker.saldo_pasoTokenManager hi.bien hb]
    exact hi.unaFicha g
  have hlisto : ∀ {g}, s.broker.listo g → b.listo g := fun h =>
    Broker.listo_pasoTokenManager h hb
  split
  · -- the memory of the group is written while no handler can have its token
    rename_i g htm
    have hno : ¬ s.broker.listo g := fun h => h.2 (by rw [htm]; rfl)
    have hcero : ∀ a, (s.conexion (a, g)).manejador.ficha = 0 := by
      intro a
      by_contra hne
      exact hno (hi.listo a g (Nat.pos_of_ne_zero hne))
    refine ⟨hbien, fun a h => ?_, hficha, fun a h hpos => hlisto (hi.listo a h hpos),
      fun h hl hcero' => ?_, fun h hno' => hi.sinUso h fun hl => hno' (hlisto hl)⟩
    · dsimp only
      by_cases hh : h = g
      · subst hh
        exact (hi.fase a h).sinFicha (hcero a) _ _
      · rw [Function.update_of_ne hh]
        exact hi.fase a h
    · dsimp only
      by_cases hh : h = g
      · subst hh
        rw [Function.update_self, hi.sinUso h hno]
        exact .refl _ _
      · rw [Function.update_of_ne hh]
        rcases Broker.listo_of_pasoTokenManager hb hl with hl | he
        · exact hi.coherente h hl hcero'
        · rw [htm] at he
          exact absurd (PcTokenManager.inicializa.inj he).symm hh
  · rename_i htm
    refine ⟨hbien, hi.fase, hficha, fun a h hpos => hlisto (hi.listo a h hpos),
      fun h hl hcero => ?_, fun h hno => hi.sinUso h fun hl => hno (hlisto hl)⟩
    rcases Broker.listo_of_pasoTokenManager hb hl with hl | he
    · exact hi.coherente h hl hcero
    · exact absurd he (htm h)

omit [NeZero M] in
theorem inv_manejador (hi : Inv P s) (hs : pasoManejador P s a g = some t) : Inv P t := by
  have hfase := hi.fase a g
  cases hm : (s.conexion (a, g)).manejador with
  | inexistente | rechazado =>
    simp only [pasoManejador, hm] at hs
    cases hs
  | une pc =>
    have h0 : (s.conexion (a, g)).manejador.ficha = 0 := by rw [hm]; rfl
    have hne : (s.conexion (a, g)).manejador ≠ .inexistente := by rw [hm]; nofun
    -- no step of join_group touches the token
    have hune : ∀ {b r m k o}, s.broker.pasoJoin g (P.nombre a) pc = some (b, r) →
        m.ficha = 0 → Inv P ({ s with broker := b }.setConexion a g
          { s.conexion (a, g) with manejador := m, numeroCola := k, respuesta := o }) := by
      intro b r m k o hj hm0
      apply hi.conBroker (hi.bien.pasoJoin (P.sinBrokers a) hj) (Broker.listo_pasoJoin hj)
        (hfase.unir h0 hne hm0)
      · intro h
        rw [Broker.saldo_pasoJoin hj, hm0, h0]
      · intro hpos
        exact absurd hpos (by rw [hm0]; omega)
      · intro hpos
        exact absurd hpos (by rw [h0]; omega)
    simp only [pasoManejador, hm] at hs
    split at hs <;> cases hs
    · exact hune ‹_› rfl
    · exact hune ‹_› rfl
    · exact hune ‹_› rfl
  | pide =>
    simp only [pasoManejador, hm] at hs
    obtain ⟨b, hb, rfl⟩ := Option.map_eq_some_iff.mp hs
    have hlisto := hi.bien.listo_of_lockToken hb
    have hsaldo : ∀ h, s.broker.saldo P.toConfig h =
        b.saldo P.toConfig h + if h = g then 1 else 0 := Broker.saldo_lockToken hb
    -- the token was in the broker, so nobody else has it
    have hcero : ∀ x, (s.conexion (x, g)).manejador.ficha = 0 := by
      intro x
      have huno := hi.unaFicha g
      have hsub := Finset.single_le_sum
        (f := fun x => (s.conexion (x, g)).manejador.ficha) (fun _ _ => Nat.zero_le _)
        (Finset.mem_univ x)
      have hg := hsaldo g
      rw [if_pos rfl] at hg
      omega
    apply hi.conBroker (hi.bien.lockToken hb) (Broker.listo_lockToken hb)
      (hfase.pedir hm (hi.coherente g hlisto hcero))
    · intro h
      simp only [hsaldo h, hm, PcManejador.ficha, ite_self, Nat.add_zero]
    · exact fun _ => hlisto
    · intro hpos
      exact absurd hpos (by rw [hm]; exact Nat.lt_irrefl 0)
  | envia i =>
    simp only [pasoManejador, hm] at hs
    cases hs
    refine hi.proceso (hfase.enviar hm) ?_
    rw [hm]
    unfold Conexion.enviar
    dsimp only
    split <;> rfl
  | recibe i =>
    simp only [pasoManejador, hm] at hs
    obtain ⟨c, hc, rfl⟩ := Option.map_eq_some_iff.mp hs
    refine hi.proceso (hfase.recibir hm hc) ?_
    rw [hm]
    unfold Conexion.recibir at hc
    split at hc <;> cases hc
    dsimp only
    split <;> rfl
  | actualiza =>
    simp only [pasoManejador, hm] at hs
    cases hs
    have hcambio := hi.cambiar hi.bien (fun _ => Iff.rfl) (hfase.actualizar hm)
      (fun _ _ => ⟨rfl, rfl⟩) (fun _ => by rw [hm]; rfl)
      (fun _ => hi.listo a g (by rw [hm]; exact Nat.one_pos))
      (.inr ⟨by rw [hm]; exact Nat.one_pos, Nat.one_pos⟩)
      (fun _ => nofun)
    unfold Estado.cambiar at hcambio
    rw [Function.update_eq_self, Function.update_eq_self] at hcambio
    exact hcambio
  | libera =>
    simp only [pasoManejador, hm] at hs
    cases hs
    obtain ⟨hlibre, himagen⟩ := hfase.liberar hm
    apply hi.conBroker (b := s.broker.releaseToken g) (hi.bien.enviar _) (fun _ => Iff.rfl) hlibre
    · intro h
      simp only [Broker.saldo_releaseToken, hm, PcManejador.ficha, ite_self, Nat.add_zero]
    · nofun
    · exact fun _ _ => himagen

theorem inv_comm (hi : Inv P s) (hs : paso P s (.comm a g) = some t) : Inv P t := by
  obtain ⟨c, hc, rfl⟩ := Option.map_eq_some_iff.mp hs
  refine hi.proceso ((hi.fase a g).pasoComm App.adentro_dentro hc) ?_
  cases hcomm : (s.conexion (a, g)).comm with
  | sinConectar =>
    simp only [Conexion.pasoComm, hcomm] at hc
    cases hc
  | conectando | recibe i | espera =>
    simp only [Conexion.pasoComm, hcomm] at hc
    split at hc <;> cases hc
    rfl
  | compara | entrega | envia i =>
    simp only [Conexion.pasoComm, hcomm] at hc
    cases hc
    rfl

theorem inv_waitOn (hi : Inv P s) (hs : paso P s (.waitOn a) = some t) : Inv P t := by
  simp only [paso] at hs
  split at hs
  · rename_i g hpc
    split at hs <;> cases hs
    rename_i hpos
    have hpresta := (hi.fase a g).prestada (by omega)
    have hdentro : App.dentro { s.app a with pc := .limpiando g } g = (s.app a).dentro g + 1 := by
      simp [App.dentro, hpc]
      omega
    refine hi.local (.presta ?_) (fun h hh => ⟨?_, rfl⟩) rfl
    · rw [hdentro]
      exact hpresta.waitOn hpos
    · simp [App.dentro, hpc, Ne.symm hh]
  · cases hs

theorem inv_limpiar (hi : Inv P s) (hs : paso P s (.limpiar a) = some t) : Inv P t := by
  simp only [paso] at hs
  split at hs
  · rename_i g hpc
    cases hs
    have hdentro : (s.app a).dentro g = 1 + if (s.app a).adentro g then 1 else 0 := by
      simp [App.dentro, hpc]
    have hpresta := (hi.fase a g).prestada (by omega)
    -- the token just taken is the only one, so the application was not inside already
    have huno : (s.app a).dentro g = 1 := by
      have := hpresta.unica
      omega
    have hentrar : ((s.app a).entrar g).dentro g = (s.app a).dentro g := by
      rw [huno]
      simp [App.dentro, App.entrar]
    refine hi.soloApp g (.presta ?_) fun h hh => ⟨?_, Function.update_of_ne hh ..⟩
    · rw [hentrar, show ((s.app a).entrar g).adentro g = true from Function.update_self ..]
      exact hpresta.entrar
    · simp [App.dentro, App.entrar, hpc, hh, Ne.symm hh]
  · cases hs

theorem inv_escribir {x : Nat} {v : β} (hi : Inv P s)
    (hs : paso P s (.escribir a g x v) = some t) : Inv P t := by
  simp only [paso] at hs
  split at hs
  · split at hs <;> cases hs
    rename_i hadentro
    have hpresta := hi.prestada hadentro
    rw [hadentro] at hpresta
    refine hi.proceso (.presta ?_) rfl
    rw [hadentro]
    exact hpresta.escribir _
  · cases hs

theorem inv_unlock (hi : Inv P s) (hs : paso P s (.unlock a g) = some t) : Inv P t := by
  simp only [paso] at hs
  split at hs
  · rename_i hpc
    split at hs <;> cases hs
    rename_i hadentro
    have hpresta := hi.prestada hadentro
    have hficha : 0 < (s.conexion (a, g)).manejador.ficha := by
      rw [hpresta.manejador]
      exact Nat.one_pos
    have hsalir : ((s.app a).salir g).dentro g = (s.app a).dentro g := by
      simp [App.dentro, App.salir, hpc, hadentro]
    have hfase : Fase (P.tamanio g) (s.imagen g) (s.conexion (a, g)).memoria (s.conexion (a, g))
        (((s.app a).salir g).dentro g) (((s.app a).salir g).adentro g) := by
      rw [hsalir, show ((s.app a).salir g).adentro g = false from Function.update_self ..]
      exact .presta hpresta.unlock
    have hcambio := hi.cambiar hi.bien (fun _ => Iff.rfl) hfase
      (fun h hh => ⟨by simp [App.dentro, App.salir, hpc, hh, Ne.symm hh],
        Function.update_of_ne hh ..⟩)
      (fun _ => rfl) (fun hpos => hi.listo a g hpos) (.inr ⟨hficha, hficha⟩)
      (fun hpos hcero => absurd hpos (by omega))
    unfold Estado.cambiar at hcambio
    rw [Function.update_eq_self, Function.update_eq_self] at hcambio
    exact hcambio
  · cases hs

theorem inv_signalize (hi : Inv P s) (hs : paso P s (.signalize a) = some t) : Inv P t := by
  simp only [paso] at hs
  split at hs
  · rename_i g hpc
    cases hs
    have hdentro : (s.app a).dentro g = App.dentro { s.app a with pc := .reposo } g + 1 := by
      simp [App.dentro, hpc]
    have hpresta := (hi.fase a g).prestada (by omega)
    rw [hdentro] at hpresta
    refine hi.local (.presta hpresta.signalize) (fun h hh => ⟨?_, rfl⟩) rfl
    simp [App.dentro, hpc, Ne.symm hh]
  · cases hs

theorem inv_paso {e : Evento ι β} (hi : Inv P s) (hs : paso P s e = some t) : Inv P t := by
  cases e with
  | tokenManager => exact inv_tokenManager hi hs
  | conectar a g =>
    simp only [paso] at hs
    split at hs <;> cases hs
    rename_i hcomm
    obtain ⟨hfase, hficha⟩ := (hi.fase a g).conectar hcomm
    exact hi.proceso hfase hficha.symm
  | manejador a g => exact inv_manejador hi hs
  | comm a g => exact inv_comm hi hs
  | lock a g =>
    simp only [paso] at hs
    split at hs <;> cases hs
    rename_i hpc
    have hdentro : ∀ h, App.dentro { s.app a with pc := .esperando g, tokenEsperando := some g } h =
        (s.app a).dentro h := by
      intro h
      simp [App.dentro, hpc]
    refine hi.soloApp g ?_ fun h _ => ⟨hdentro h, rfl⟩
    rw [hdentro]
    exact hi.fase a g
  | waitOn a => exact inv_waitOn hi hs
  | limpiar a => exact inv_limpiar hi hs
  | escribir a g x v => exact inv_escribir hi hs
  | unlock a g => exact inv_unlock hi hs
  | signalize a => exact inv_signalize hi hs

theorem alcanza_inv (P : Parametros ι ν β)
    (h : Alcanza (paso P) (inicial P : Estado ι M ν β) s) : Inv P s :=
  h.induccion (inv_inicial P) fun _ _ _ => inv_paso

/-- At most one application is between the return of `lock` on a group and its `unlock`, and the
    one whose `lock` returns sees what the last `unlock` left. -/
structure ExclusivaYCoherente (P : Parametros ι ν β) (s : Estado ι M ν β) : Prop where
  exclusiva : ∀ g a b, (s.app a).adentro g = true → (s.app b).adentro g = true → a = b
  coherente : ∀ a g t, (s.app a).pc = .limpiando g → paso P s (.limpiar a) = some t →
    (t.app a).adentro g = true ∧
      ∀ x < P.tamanio g, (t.conexion (a, g)).memoria x = t.ultima g x

/-- The memory of every group is exclusive and coherent, for any number of applications and groups,
    whenever they join, under every interleaving. -/
theorem memoria_distribuida_exclusiva_y_coherente (P : Parametros ι ν β)
    (h : Alcanza (paso P) (inicial P : Estado ι M ν β) s) : ExclusivaYCoherente P s := by
  have hi := alcanza_inv P h
  refine ⟨fun g a b ha hb => ?_, fun a g t hpc hs => ?_⟩
  · have huno := Nat.le_trans (Nat.le_add_left _ _) (hi.unaFicha g)
    apply Sumas.suma_le_uno huno (Finset.mem_univ a) (Finset.mem_univ b)
    · rw [(hi.prestada ha).manejador]
      exact Nat.one_pos
    · rw [(hi.prestada hb).manejador]
      exact Nat.one_pos
  · simp only [paso, hpc] at hs
    cases hs
    have hdentro : (s.app a).dentro g = 1 + if (s.app a).adentro g then 1 else 0 := by
      simp [App.dentro, hpc]
    have hpresta := (hi.fase a g).prestada (by omega)
    have hunica := hpresta.unica
    refine ⟨?_, hpresta.memoria ?_⟩
    · show (Function.update s.app a ((s.app a).entrar g) a).adentro g = true
      rw [Function.update_self]
      exact Function.update_self ..
    · by_contra hno
      rw [Bool.not_eq_false] at hno
      rw [if_pos hno] at hdentro
      omega

end Pasos

end Inv

/-- Two applications and one group of two bytes that start with the value 5. -/
def dosApps : Parametros (Fin 2) Nat Nat where
  esBroker := fun _ => false
  grupos := fun g => if g = 0 then some (2, 1) else none
  nombre := fun a => a
  sinBrokers := fun _ => rfl
  imagenInicial := fun _ _ => 5

/-- Application `a` writes a byte; `b` joins later and gets the token next. -/
def dosVueltas (a b : ι) : List (Evento ι Nat) :=
  [.conectar a 0, .manejador a 0, .tokenManager, .tokenManager, .tokenManager, .tokenManager,
    .manejador a 0, .manejador a 0, .manejador a 0, .manejador a 0, .comm a 0,
    .tokenManager, .tokenManager, .tokenManager, .tokenManager, .tokenManager,
    .lock a 0, .manejador a 0, .manejador a 0, .comm a 0, .comm a 0, .comm a 0, .waitOn a,
    .limpiar a, .escribir a 0 0 7, .unlock a 0, .signalize a, .comm a 0, .comm a 0,
    .manejador a 0, .manejador a 0, .manejador a 0,
    .conectar b 0, .manejador b 0, .manejador b 0, .manejador b 0, .manejador b 0,
    .manejador b 0, .comm b 0,
    .tokenManager, .tokenManager, .tokenManager, .tokenManager, .tokenManager,
    .lock b 0, .manejador b 0, .manejador b 0, .comm b 0, .comm b 0, .comm b 0, .waitOn b,
    .limpiar b]

/-- The theorem where the second application has entered after the first one wrote. -/
theorem memoria_distribuida_exclusiva_y_coherente_dos_apps :
    ∃ s : Estado (Fin 2) 2 Nat Nat, (s.app 1).adentro 0 = true ∧
      (s.conexion (1, 0)).memoria 0 = 7 ∧ (s.conexion (1, 0)).memoria 1 = 5 ∧
      ExclusivaYCoherente dosApps s := by
  have hrun : (correr (paso dosApps) (inicial dosApps : Estado (Fin 2) 2 Nat Nat)
      (dosVueltas 0 1)).map
      (fun s => ((s.app 1).adentro 0, (s.conexion (1, 0)).memoria 0,
        (s.conexion (1, 0)).memoria 1)) = some (true, 7, 5) := by decide +kernel
  obtain ⟨s, hs, hvalores⟩ := Option.map_eq_some_iff.mp hrun
  obtain ⟨hadentro, h0, h1⟩ : _ ∧ _ ∧ _ := by simpa only [Prod.mk.injEq] using hvalores
  exact ⟨s, hadentro, h0, h1, memoria_distribuida_exclusiva_y_coherente dosApps ⟨dosVueltas 0 1, hs⟩⟩

end MemoriaDistribuida
