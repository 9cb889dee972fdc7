import Voilier.CompassRuns

/-!
# The headings of a pulse

What Conversion_Adaptation loads at the falling edge, for every width of the
pulse and every phase of the microsecond.
-/

set_option autoImplicit false

namespace Voilier.ConversionAdaptation

open DeltaCycle

theorem follows_regs (wave : Nat → Ports) : Follows wave (regs wave) where
  start := Regs.next_cleared (wave 0) {} (Or.inl rfl)
  step t := ⟨wave (t + 1), fun _ => rfl, rfl⟩

/-! ## The three truncations -/

theorem heading_toNat (n usec : Nat) :
    (heading n usec).toNat = ((n + usec) / 50 % 65536 + 64536) % 65536 / 100 % 512 := by
  rw [heading, ConversionDegres.degres_toNat, BitVec.toNat_ofNat]

/-- Up to 36 999 microseconds the heading is one, even below the millisecond
where the subtraction wraps. -/
theorem heading_le {n usec : Nat} (short : (n + usec) / 50 ≤ 36999) :
    (heading n usec).toNat ≤ 359 := by
  rw [heading_toNat]
  generalize (n + usec) / 50 = temps at short ⊢
  by_cases below : temps < 1000
  · have wraps : (temps % 65536 + 64536) % 65536 = temps + 64536 := by omega
    omega
  · have inside : (temps % 65536 + 64536) % 65536 = temps - 1000 := by omega
    omega

/-- From the millisecond on, and until the quotient fills nine bits, no bit is
lost. -/
theorem heading_exact {n usec : Nat} (long : 1000 ≤ (n + usec) / 50)
    (short : (n + usec) / 50 ≤ 52199) :
    (heading n usec).toNat = ((n + usec) / 50 - 1000) / 100 := by
  have value := heading_toNat n usec
  have inside : ((n + usec) / 50 % 65536 + 64536) % 65536 = (n + usec) / 50 - 1000 := by omega
  rw [inside] at value
  omega

theorem heading_mono {n n' usec : Nat} (long : 1000 ≤ (n + usec) / 50) (wider : n ≤ n')
    (short : (n' + usec) / 50 ≤ 52199) :
    (heading n usec).toNat ≤ (heading n' usec).toNat := by
  have grows : (n + usec) / 50 ≤ (n' + usec) / 50 :=
    Nat.div_le_div_right (Nat.add_le_add_right wider usec)
  rw [heading_exact long (by omega), heading_exact (by omega) short]
  apply Nat.div_le_div_right
  omega

/-! ## Pulses of a run -/

def usec (wave : Nat → Ports) (t : Nat) : Nat :=
  (run wave t).signals.cascade.horloge.qnO.toNat

def tempsMs (wave : Nat → Ports) (t : Nat) : Nat :=
  (run wave t).signals.cascade.cascade.qnO.toNat

/-- A pulse of `pwm_sync` after cycle `b` whose heading the register still shows in
the cycle that follows the falling edge. -/
structure Measured (wave : Nat → Ports) (b n : Nat) : Prop extends
    Pulse (fun t => (wave t).razNI) (fun t => (run wave t).signals.bascule.sO) b n where
  kept : (wave (b + 1 + n + 1)).razNI = true

/-- The value loaded into `degres_stable_periode` at the falling edge. -/
def loaded (wave : Nat → Ports) (b n : Nat) : Nat :=
  (run wave (b + 1 + n + 1)).signals.registre.sO.toNat

section Measured
variable {wave : Nat → Ports} {b n : Nat}

theorem Measured.pulse (measured : Measured wave b n) :
    Pulse (fun t => (wave t).razNI) (fun t => (regs wave t).pwmSync) b n := by
  have seen := measured.toPulse
  simp only [run_eq] at seen
  exact seen

theorem Measured.loaded_eq (measured : Measured wave b n) :
    loaded wave b n = (heading n (usec wave (b + 1))).toNat := by
  have shown := measured.pulse.loaded (follows_regs wave) measured.kept
  rw [loaded, usec, run_eq, run_eq]
  exact congrArg BitVec.toNat shown

theorem Measured.tempsMs_eq (measured : Measured wave b n) :
    tempsMs wave (b + 1 + n) = (n + usec wave (b + 1)) / 50 % 65536 := by
  have counted := congrArg BitVec.toNat (measured.pulse.tempsMs_fall (follows_regs wave))
  rw [BitVec.toNat_ofNat] at counted
  rw [tempsMs, usec, run_eq, run_eq]
  exact counted

theorem usec_le (wave : Nat → Ports) (t : Nat) : usec wave t ≤ 49 := by
  rw [usec, run_eq]
  exact (follows_regs wave).usec_le t

/-- The measure is exact up to the phase of the microsecond, and the heading up to
one degree. -/
theorem measure_exact (measured : Measured wave b n) :
    usec wave (b + 1) ≤ 49 ∧
      tempsMs wave (b + 1 + n) = (n + usec wave (b + 1)) / 50 % 65536 ∧
      (50000 ≤ n → n ≤ 1849950 →
        (n / 50 - 1000) / 100 ≤ loaded wave b n ∧
          loaded wave b n ≤ (n / 50 - 1000) / 100 + 1 ∧ loaded wave b n ≤ 359) := by
  have phase := usec_le wave (b + 1)
  refine ⟨phase, measured.tempsMs_eq, fun long short => ?_⟩
  rw [measured.loaded_eq, heading_exact (by omega) (by omega)]
  generalize usec wave (b + 1) = p at phase ⊢
  -- the phase adds at most one microsecond
  have counted : n / 50 ≤ (n + p) / 50 ∧ (n + p) / 50 ≤ n / 50 + 1 := by omega
  have last : (n + p) / 50 ≤ 36999 := by omega
  omega

end Measured

theorem headings_sane {wave wave' : Nat → Ports} {b b' n n' : Nat}
    (measured : Measured wave b n) (measured' : Measured wave' b' n')
    (samePhase : usec wave (b + 1) = usec wave' (b' + 1)) :
    ((n + usec wave (b + 1)) / 50 ≤ 36999 → loaded wave b n ≤ 359) ∧
      (1000 ≤ (n + usec wave (b + 1)) / 50 → n ≤ n' →
        (n' + usec wave (b + 1)) / 50 ≤ 52199 → loaded wave b n ≤ loaded wave' b' n') := by
  rw [measured.loaded_eq, measured'.loaded_eq, ← samePhase]
  exact ⟨heading_le, heading_mono⟩

def pulseWave (n t : Nat) : Ports := ⟨false, decide (0 < t), decide (t < n), true, false⟩

theorem pulseWave_measured {n : Nat} (positive : 0 < n) : Measured (pulseWave n) 0 n := by
  have synced : ∀ i, (run (pulseWave n) (0 + 1 + i)).signals.bascule.sO = decide (i < n) := by
    intro i
    rw [show 0 + 1 + i = i + 1 by omega, run_eq]
    exact (follows_regs (pulseWave n)).pwmSync i
  refine ⟨⟨positive, ?_, ?_, ?_, ?_⟩, ?_⟩
  · rw [run_eq]
    rfl
  · intro i lt
    rw [synced]
    exact decide_eq_true lt
  · rw [synced]
    exact decide_eq_false (Nat.lt_irrefl n)
  · intro i _
    simp [pulseWave]
  · simp [pulseWave]

theorem pulseWave_usec (n : Nat) : usec (pulseWave n) (0 + 1) = 0 := by
  rw [usec, run_eq]
  exact congrArg BitVec.toNat ((follows_regs (pulseWave n)).usec 0)

theorem pulseWave_loaded {n : Nat} (positive : 0 < n) :
    loaded (pulseWave n) 0 n = (heading n 0).toNat := by
  rw [(pulseWave_measured positive).loaded_eq, pulseWave_usec]

theorem headings_sane_quarter_turn :
    loaded (pulseWave 500000) 0 500000 ≤ 359 ∧
      loaded (pulseWave 500000) 0 500000 ≤ loaded (pulseWave 950000) 0 950000 := by
  have sane := headings_sane (pulseWave_measured (n := 500000) (by decide))
    (pulseWave_measured (n := 950000) (by decide))
    ((pulseWave_usec 500000).trans (pulseWave_usec 950000).symm)
  rw [pulseWave_usec] at sane
  exact ⟨sane.1 (by decide), sane.2 (by decide) (by decide) (by decide)⟩

theorem measure_exact_half_turn :
    180 ≤ loaded (pulseWave 950000) 0 950000 ∧ loaded (pulseWave 950000) 0 950000 ≤ 181 := by
  obtain ⟨-, -, bounds⟩ := measure_exact (pulseWave_measured (n := 950000) (by decide))
  obtain ⟨least, most, -⟩ := bounds (by decide) (by decide)
  exact ⟨least, most⟩

/-- A pulse of 37 ms reads 360, and a pulse one clock short of a millisecond reads
more than one of a millisecond. -/
theorem headings_wrap :
    (¬ ∀ (wave : Nat → Ports) (b n : Nat), Measured wave b n → loaded wave b n ≤ 359) ∧
      ¬ ∀ (wave wave' : Nat → Ports) (b b' n n' : Nat), Measured wave b n →
        Measured wave' b' n' → usec wave (b + 1) = usec wave' (b' + 1) → n ≤ n' →
        loaded wave b n ≤ loaded wave' b' n' := by
  constructor
  · intro range
    have bounded := range (pulseWave 1850000) 0 1850000 (pulseWave_measured (by decide))
    rw [pulseWave_loaded (by decide)] at bounded
    exact absurd bounded (by decide)
  · intro mono
    have ordered := mono (pulseWave 49999) (pulseWave 50000) 0 0 49999 50000
      (pulseWave_measured (by decide)) (pulseWave_measured (by decide))
      ((pulseWave_usec 49999).trans (pulseWave_usec 50000).symm) (by decide)
    rw [pulseWave_loaded (by decide), pulseWave_loaded (by decide)] at ordered
    exact absurd ordered (by decide)

end Voilier.ConversionAdaptation
