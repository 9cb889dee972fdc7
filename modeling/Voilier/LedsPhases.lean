import Voilier.LedsBlink

/-!
# The phases of the standby blink

The blink neither freezes nor flickers: in standby the two flags and the two delays are
together one counter that goes round.
-/

set_option autoImplicit false

namespace Voilier.GestionLeds

open DeltaCycle

/-- How far the blink has come: the led is lit for 499 999 cycles and dark for 249 999. -/
def phase (s : Lamps) (allume eteindre : Nat) : Nat :=
  if s.allumeLedStby = true then allume else 499999 + eteindre

def Regs.phase (x : Regs) : Nat :=
  GestionLeds.phase x.lamps x.allume.qn.toNat x.eteindre.qn.toNat

def Signals.phase (s : Signals) : Nat :=
  GestionLeds.phase s.lamps s.counterAllume.qnO.toNat s.counterEteindre.qnO.toNat

section Step
variable {p p' : Ports} {x : Regs}

theorem Regs.Blinks.phase_lit (blinks : x.Blinks p) (standby : p.modeLedsI = false) :
    x.phase < 499999 ↔ x.lamps.allumeLedStby = true := by
  unfold Regs.phase GestionLeds.phase
  split_ifs with lit
  · exact iff_of_true (blinks.allumeRuns standby lit) lit
  · exact iff_of_false (by omega) lit

theorem Regs.Blinks.phase_lt (blinks : x.Blinks p) (standby : p.modeLedsI = false) :
    x.phase < 749998 := by
  have opposite : x.lamps.eteindLedStby = !x.lamps.allumeLedStby := blinks.opposite
  unfold Regs.phase GestionLeds.phase
  split_ifs with lit
  · have runs := blinks.allumeRuns standby lit
    omega
  · have runs := blinks.eteindreRuns standby (by simpa [opposite] using lit)
    omega

theorem next_delays (blinking : p.Blinking) (p₃ : Ports) (blinking' : p'.Blinking) :
    (x.next p p₃ p').allume =
        x.allume.next (49999999 / 100) false false x.lamps.allumeLedStby ∧
      (x.next p p₃ p').eteindre =
        x.eteindre.next (24999999 / 100) false false x.lamps.eteindLedStby := by
  change x.nextAllume p p' = _ ∧ x.nextEteindre p p' = _
  rw [Regs.nextAllume, Regs.nextEteindre, blinking.running, blinking'.running]
  exact ⟨rfl, rfl⟩

/-- Where the led is lit its own delay counts, and the other one is empty when it goes
dark. -/
theorem Regs.Blinks.next_lit (blinks : x.Blinks p) (blinking : p.Blinking) (p₃ : Ports)
    (blinking' : p'.Blinking) (lit : x.lamps.allumeLedStby = true) :
    (x.next p p₃ p').phase = (x.phase + 1) % 749998 := by
  have opposite : x.lamps.eteindLedStby = !x.lamps.allumeLedStby := blinks.opposite
  have runs : x.allume.qn.toNat < 499999 := blinks.allumeRuns blinking.standby lit
  have flag := blinks.next_flag p₃ p'
  have resting := blinks.eteindre
  obtain ⟨allume, eteindre⟩ := next_delays (x := x) blinking p₃ blinking'
  rw [lit] at opposite allume flag
  rw [opposite] at eteindre resting
  rw [blinking'.standby, blinking.running, if_neg Bool.false_ne_true, if_pos rfl, Bool.not_true]
    at flag
  have counted : (x.next p p₃ p').allume.qn.toNat = x.allume.qn.toNat + 1 := by
    rw [allume, Pulse.next_toNat false false true (by decide) blinks.allume.le,
      if_neg (by simp; omega), if_pos rfl]
  have empty : (x.next p p₃ p').eteindre.qn.toNat = 0 := by
    rw [eteindre]
    exact resting.next_empty (by decide)
  have pulse := Pulse.reAtEdge_iff false true (by decide) (by decide) blinks.allume.le
  rw [Regs.phase, Regs.phase, GestionLeds.phase, GestionLeds.phase, flag, if_pos lit, counted,
    empty]
  by_cases last : x.allume.qn.toNat + 1 = 49999999 / 100
  · rw [if_neg (by simp [pulse.mpr ⟨rfl, rfl, last⟩])]
    omega
  · have quiet : x.allume.reAtEdge (49999999 / 100) false true = false :=
      Bool.eq_false_iff.mpr fun raised => last (pulse.mp raised).2.2
    rw [quiet, Bool.not_false, if_pos rfl]
    omega

theorem Regs.Blinks.next_dark (blinks : x.Blinks p) (blinking : p.Blinking) (p₃ : Ports)
    (blinking' : p'.Blinking) (dark : x.lamps.allumeLedStby = false) :
    (x.next p p₃ p').phase = (x.phase + 1) % 749998 := by
  have opposite : x.lamps.eteindLedStby = !x.lamps.allumeLedStby := blinks.opposite
  rw [dark, Bool.not_false] at opposite
  have runs : x.eteindre.qn.toNat < 249999 := blinks.eteindreRuns blinking.standby opposite
  have flag := blinks.next_flag p₃ p'
  have resting := blinks.allume
  obtain ⟨allume, eteindre⟩ := next_delays (x := x) blinking p₃ blinking'
  rw [dark] at allume flag resting
  rw [opposite] at eteindre flag
  rw [blinking'.standby, blinking.running, if_neg Bool.false_ne_true, if_neg Bool.false_ne_true,
    Bool.not_true] at flag
  have counted : (x.next p p₃ p').eteindre.qn.toNat = x.eteindre.qn.toNat + 1 := by
    rw [eteindre, Pulse.next_toNat false false true (by decide) blinks.eteindre.le,
      if_neg (by simp; omega), if_pos rfl]
  have empty : (x.next p p₃ p').allume.qn.toNat = 0 := by
    rw [allume]
    exact resting.next_empty (by decide)
  have pulse := Pulse.reAtEdge_iff false true (by decide) (by decide) blinks.eteindre.le
  rw [Regs.phase, Regs.phase, GestionLeds.phase, GestionLeds.phase, flag,
    if_neg (by simp [dark] : ¬ x.lamps.allumeLedStby = true), counted, empty]
  by_cases last : x.eteindre.qn.toNat + 1 = 24999999 / 100
  · rw [if_pos (pulse.mpr ⟨rfl, rfl, last⟩)]
    omega
  · rw [if_neg fun raised => last (pulse.mp raised).2.2]
    omega

theorem Regs.Blinks.next_phase (blinks : x.Blinks p) (blinking : p.Blinking) (p₃ : Ports)
    (blinking' : p'.Blinking) : (x.next p p₃ p').phase = (x.phase + 1) % 749998 := by
  cases lit : x.lamps.allumeLedStby with
  | true => exact blinks.next_lit blinking p₃ blinking' lit
  | false => exact blinks.next_dark blinking p₃ blinking' lit

end Step

section Runs
variable {p : Ports} {wave : Nat → Ports} {t : Nat}

theorem run_phase (n : Nat) (blinking : ∀ i ≤ n, (wave (t + i)).Blinking) :
    (Regs.run p wave {} (t + n)).phase = ((Regs.run p wave {} t).phase + n) % 749998 := by
  induction n with
  | zero =>
      have below := (run_blinks p wave t).phase_lt (blinking 0 (Nat.le_refl 0)).standby
      exact (Nat.mod_eq_of_lt below).symm
  | succ n ih =>
      have before := ih fun i le => blinking i (Nat.le_succ_of_le le)
      have step := (run_blinks p wave (t + n)).next_phase (blinking n (Nat.le_succ n))
        (wave (t + n + 1)) (blinking (n + 1) (Nat.le_refl _))
      rw [before, Nat.mod_add_mod] at step
      exact step

/-- In standby and out of reset the blink is a counter modulo 749 998, whatever the mode,
the buttons and the resets did before: the led is lit over the first 499 999 values. -/
theorem blink_counts (n : Nat) (blinking : ∀ i ≤ n, (wave (t + i)).Blinking) :
    (run p wave (t + n)).signals.lamps.ledSTBYO =
      decide (((run p wave t).signals.phase + n) % 749998 < 499999) := by
  have standby := (blinking n (Nat.le_refl n)).standby
  have lit := (run_blinks p wave (t + n)).phase_lit standby
  rw [run_phase n blinking] at lit
  rw [run_ledSTBYO standby, Bool.eq_iff_iff, decide_eq_true_iff, ← lit, run_eq p wave t]
  rfl

end Runs

theorem standbyPorts_blinks : (run standbyPorts (fun _ => standbyPorts)
    (0 + 1000000)).signals.lamps.ledSTBYO = true := by
  refine (blink_counts 1000000 fun _ _ => ⟨rfl, rfl⟩).trans ?_
  rw [run_eq]
  decide +kernel

end Voilier.GestionLeds
