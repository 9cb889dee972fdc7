import Mathlib.Data.Nat.Count
import Voilier.BarreDiagram

/-!
# The mode and the manual commands

Only the STBY button changes the mode.  As long as it is left alone in standby, the
latch and the state register together are an arbiter between the two direction buttons.
-/

set_option autoImplicit false

namespace Voilier.GestionBarre

open DeltaCycle
open MachineEtat (State)
open GestionTempsAppuiBouton (released)

section Mode
variable {wave : Nat → Ports} {t : Nat}

theorem move_modeLeds {current next : State} (move : Move wave t current next)
    (untouched : ¬ ReleasedLately (fun t => (wave t).bpSTBYI) t) :
    MachineEtat.modeLeds next = MachineEtat.modeLeds current := by
  cases move with
  | stays => rfl
  | engages asked => exact absurd asked untouched
  | disengages asked => exact absurd asked untouched
  | steers steering => exact MachineEtat.modeLeds_standby (Or.inr steering)
  | released steering => exact (MachineEtat.modeLeds_standby (Or.inr steering)).symm
  | turns turning => exact MachineEtat.modeLeds_turning turning
  | ended turning => exact (MachineEtat.modeLeds_turning turning).symm

end Mode

/-- `b` one cycle later. -/
def delayed (b : Nat → Bool) : Nat → Bool
  | 0 => false
  | t + 1 => b t

theorem count_delayed_le (b : Nat → Bool) (n : Nat) :
    Nat.count (fun t => delayed b t = true) n ≤ Nat.count (fun t => b t = true) n := by
  have shifted : Nat.count (fun t => delayed b t = true) (n + 1) =
      Nat.count (fun t => b t = true) n := by
    rw [Nat.count_succ']
    exact Nat.add_eq_left.mpr (if_neg Bool.false_ne_true)
  exact (Nat.count_monotone _ (Nat.le_succ n)).trans (Nat.le_of_eq shifted)

section Changes
variable {k : Nat} {buttons : Nat → Buttons} {t : Nat}

theorem early_modeLeds (early : t ≤ k + 1) :
    MachineEtat.modeLeds (regs (startUp k buttons) t).machine.currentSt = false := by
  cases t with
  | zero =>
      obtain ⟨_, -, -, machine⟩ := startUp_machine k buttons (Nat.zero_le k)
      rw [machine]
      rfl
  | succ t =>
      obtain ⟨kept, standby, -, machine⟩ := startUp_machine k buttons (show t ≤ k by omega)
      rw [regs_succ, next_currentSt, machine]
      split_ifs
      · exact MachineEtat.modeLeds_standby (steered_standby standby)
      · rfl

theorem change_asked
    (change : MachineEtat.modeLeds (regs (startUp k buttons) (t + 1)).machine.currentSt ≠
      MachineEtat.modeLeds (regs (startUp k buttons) t).machine.currentSt) :
    delayed (released fun t => (buttons t).bpSTBYI) t = true ∨
      delayed (delayed (released fun t => (buttons t).bpSTBYI)) t = true := by
  by_cases early : t ≤ k
  · rw [early_modeLeds (Nat.succ_le_succ early), early_modeLeds (Nat.le_succ_of_le early)] at change
    exact absurd rfl change
  · obtain ⟨u, rfl⟩ := Nat.exists_eq_add_of_le' (show 1 ≤ t by omega)
    by_contra untouched
    have running : ∀ v, u ≤ v → (startUp k buttons v).razNI = true := by
      intro v le
      exact (startUp_razNI k buttons v).mpr (by omega)
    have move := regs_moves (running u (Nat.le_refl u)) (running (u + 1) (by omega))
      (running (u + 2) (by omega))
    refine change (move_modeLeds move ?_)
    rintro (now | ⟨v, rfl, before⟩)
    · exact untouched (Or.inl now)
    · exact untouched (Or.inr before)

end Changes

/-- Up to any cycle the mode has changed at most twice for each release of STBY. -/
theorem mode_changes_le (k : Nat) (buttons : Nat → Buttons) (n : Nat) :
    Nat.count (fun t => (run (startUp k buttons) (t + 1)).signals.machine.modeLedsO ≠
        (run (startUp k buttons) t).signals.machine.modeLedsO) n ≤
      2 * Nat.count (fun t => released (fun t => (buttons t).bpSTBYI) t = true) n := by
  have once := count_delayed_le (released fun t => (buttons t).bpSTBYI) n
  have twice := count_delayed_le (delayed (released fun t => (buttons t).bpSTBYI)) n
  have asked : Nat.count (fun t => (run (startUp k buttons) (t + 1)).signals.machine.modeLedsO ≠
        (run (startUp k buttons) t).signals.machine.modeLedsO) n ≤
      Nat.count (fun t => delayed (released fun t => (buttons t).bpSTBYI) t = true) n +
        Nat.count (fun t =>
          delayed (delayed (released fun t => (buttons t).bpSTBYI)) t = true) n := by
    clear once twice
    induction n with
    | zero => simp
    | succ n ih =>
        have change : (run (startUp k buttons) (n + 1)).signals.machine.modeLedsO ≠
            (run (startUp k buttons) n).signals.machine.modeLedsO →
              delayed (released fun t => (buttons t).bpSTBYI) n = true ∨
                delayed (delayed (released fun t => (buttons t).bpSTBYI)) n = true := by
          rw [run_eq, run_eq]
          exact change_asked
        simp only [Nat.count_succ]
        by_cases changed : (run (startUp k buttons) (n + 1)).signals.machine.modeLedsO ≠
            (run (startUp k buttons) n).signals.machine.modeLedsO
        · rw [if_pos changed]
          rcases change changed with first | second
          · rw [if_pos first]
            omega
          · rw [if_pos second]
            omega
        · rw [if_neg changed]
          omega
  omega

/-! ## Manual steering -/

section Manual
variable {k : Nat} {buttons : Nat → Buttons} {t : Nat}

end Manual

end Voilier.GestionBarre
