import Voilier.BarreToggle

/-!
# One short press, one change of mode

The machine enters its next state one delta before the code of the press is gone.
Only the beep of the press keeps it from toggling back, so the code must not come in
the cycle in which a beep ends.
-/

set_option autoImplicit false

namespace Voilier.GestionBarre

open DeltaCycle
open GestionTempsAppuiBouton (Press SpacedPresses released)

/-- The counter of the beep reaches its limit at the edge that begins cycle `t`. -/
def BeepEndsIn (wave : Nat → Ports) (t : Nat) : Prop :=
  ∃ v, t = v + 1 ∧ (run wave v).signals.bip.latches.activationBip = true ∧
    (run wave v).signals.bip.counterBip.qnO.toNat + 1 = 49999999 / 100

/-- `mode_leds` changes at the edge that ends cycle `t`. -/
def ModeChanges (wave : Nat → Ports) (t : Nat) : Prop :=
  (run wave t).signals.machine.modeLedsO ≠ (run wave (t + 1)).signals.machine.modeLedsO

section Once
variable {k : Nat} {stby : Nat → Bool}

theorem modeLeds_add (n : Nat) (toggled : Bool) :
    MachineEtat.modeLeds (modeAfter n) ≠ MachineEtat.modeLeds (modeAfter (n + toggled.toNat)) ↔
      toggled = true := by
  unfold modeAfter
  cases toggled with
  | false => simp
  | true =>
      rcases Nat.mod_two_eq_zero_or_one n with even | odd
      · simp [Nat.add_mod, even, MachineEtat.modeLeds]
      · simp [Nat.add_mod, odd, MachineEtat.modeLeds]

theorem modal (k : Nat) (stby : Nat → Bool) (t : Nat) :
    ∃ n, (regs (startUp k (stbyOnly stby)) t).machine.nextSt = modeAfter n := by
  induction t with
  | zero => exact ⟨0, congrArg MachineEtat.Regs.nextSt (reset_machine powerUp_wf rfl)⟩
  | succ t ih =>
      obtain ⟨n, mode⟩ := ih
      by_cases running : k ≤ t
      · exact ⟨_, congrArg MachineEtat.Regs.nextSt (mode_step running mode)⟩
      · rw [mode_reset (by omega)]
        exact ⟨n, mode⟩

theorem appuiBtnO_eq (k : Nat) (stby : Nat → Bool) (t : Nat) :
    (run (startUp k (stbyOnly stby)) t).signals.btnAuto.appuiBtnO = stbyCode k stby t := by
  rw [run_eq]
  rfl

theorem stbyCode_fresh (t : Nat) :
    stbyCode k stby t = 0b00#2 ∨ stbyCode k stby (t + 1) = 0b00#2 :=
  ((regs_coded (startUp k (stbyOnly stby)) t).fresh (startUp k (stbyOnly stby) t)
    (startUp k (stbyOnly stby) (t + 1))).auto

theorem running_of_code {t : Nat} (short : stbyCode k stby t = 0b01#2) :
    ∃ v, t = v + 1 ∧ k ≤ v := by
  have silent : ∀ {p p' : Ports} {x : Regs}, p.razNI = false →
      (x.next p p').codes.auto = 0b00#2 := fun resetting =>
    GestionTempsAppuiBouton.Regs.next_silent resetting _ _
  cases t with
  | zero =>
      have none : stbyCode k stby 0 = 0b00#2 := silent rfl
      simp [none] at short
  | succ v =>
      refine ⟨v, rfl, ?_⟩
      by_contra resetting
      have none : stbyCode k stby (v + 1) = 0b00#2 := silent (by simp [startUp]; omega)
      simp [none] at short

theorem rings_code {t : Nat} (short : stbyCode k stby t = 0b01#2) :
    (beepPorts (startUp k (stbyOnly stby) t)
      (regs (startUp k (stbyOnly stby)) t).codes).rings = true := by
  rw [codes_stby, short]
  rfl

theorem beepEndsIn_iff {v : Nat} (running : k ≤ v) :
    BeepEndsIn (startUp k (stbyOnly stby)) (v + 1) ↔
      (regs (startUp k (stbyOnly stby)) v).bip.re1secAtEdge
        (beepPorts (startUp k (stbyOnly stby) v) (regs (startUp k (stbyOnly stby)) v).codes) =
          true := by
  have pulse := (regs_sequenced k (stbyOnly stby) v).re1sec_iff
  constructor
  · rintro ⟨u, next, sounding, count⟩
    obtain rfl : v = u := Nat.succ_inj.mp next
    rw [run_eq] at sounding count
    exact pulse.mpr ⟨decide_eq_true running, sounding, count⟩
  · intro raised
    obtain ⟨-, sounding, count⟩ := pulse.mp raised
    refine ⟨v, rfl, ?_⟩
    rw [run_eq]
    exact ⟨sounding, count⟩

theorem beepEndsIn_of {v count : Nat} (sounding : beeping k stby v = true)
    (value : (regs (startUp k (stbyOnly stby)) v).bip.oneSec.qn.toNat = count)
    (last : count + 1 = 49999999 / 100) :
    BeepEndsIn (startUp k (stbyOnly stby)) (v + 1) := by
  refine ⟨v, rfl, ?_⟩
  rw [run_eq, ← last, ← value]
  exact ⟨sounding, rfl⟩

/-- The beep is silent in the cycle of a code only where it ends in that cycle. -/
theorem silent_code_iff {v : Nat} (short : stbyCode k stby (v + 1) = 0b01#2) (running : k ≤ v) :
    beeping k stby (v + 1) = false ↔ BeepEndsIn (startUp k (stbyOnly stby)) (v + 1) := by
  rw [beepEndsIn_iff running]
  exact (bip_sequence k (stbyOnly stby)).silent_code_iff (t := v)
    (decide_eq_true (Nat.le_succ_of_le running)) (rings_code short)

/-- The two edges after a code: the first one enters what the code has chosen, and
the second one is a change only if the beep was silent at the first. -/
theorem changes_iff {t : Nat} (short : stbyCode k stby t = 0b01#2) :
    (ModeChanges (startUp k (stbyOnly stby)) t ∧
        ModeChanges (startUp k (stbyOnly stby)) (t + 1)) ↔
      BeepEndsIn (startUp k (stbyOnly stby)) t := by
  obtain ⟨v, rfl, running⟩ := running_of_code short
  have before : stbyCode k stby v = 0b00#2 :=
    (stbyCode_fresh v).resolve_right (by simp [short])
  have after : stbyCode k stby (v + 1 + 1) = 0b00#2 :=
    (stbyCode_fresh (v + 1)).resolve_left (by simp [short])
  obtain ⟨n, mode⟩ := modal k stby v
  have first := mode_step running mode
  have second := mode_step (Nat.le_succ_of_le running) (congrArg MachineEtat.Regs.nextSt first)
  have third := mode_step (Nat.le_succ_of_le (Nat.le_succ_of_le running))
    (congrArg MachineEtat.Regs.nextSt second)
  rw [← silent_code_iff short running]
  simp only [ModeChanges, run_eq]
  change (MachineEtat.modeLeds (regs _ (v + 1)).machine.currentSt ≠
        MachineEtat.modeLeds (regs _ (v + 1 + 1)).machine.currentSt ∧
      MachineEtat.modeLeds (regs _ (v + 1 + 1)).machine.currentSt ≠
        MachineEtat.modeLeds (regs _ (v + 1 + 1 + 1)).machine.currentSt) ↔ _
  rw [first, second, third]
  simp only [modeLeds_add, before, after, short]
  cases beeping k stby v <;> cases beeping k stby (v + 1) <;> simp [toggles]

/-- A short code changes the mode at most once exactly when no beep ends in its
cycle. -/
theorem single_toggle_iff {t : Nat}
    (short : (run (startUp k (stbyOnly stby)) t).signals.btnAuto.appuiBtnO = 0b01#2) :
    ¬ (ModeChanges (startUp k (stbyOnly stby)) t ∧
        ModeChanges (startUp k (stbyOnly stby)) (t + 1)) ↔
      ¬ BeepEndsIn (startUp k (stbyOnly stby)) t := by
  rw [appuiBtnO_eq] at short
  exact not_congr (changes_iff short)

end Once

theorem onePress_changes_once :
    ¬ (ModeChanges (startUp 1 (stbyOnly onePress)) 6 ∧
      ModeChanges (startUp 1 (stbyOnly onePress)) (6 + 1)) := by
  refine (single_toggle_iff ?_).mpr ?_
  · rw [appuiBtnO_eq]
    exact stbyCode_succ onePress_short.spaced (by decide) 5
  · rintro ⟨v, next, sounding, -⟩
    obtain rfl : 5 = v := Nat.succ_inj.mp next
    rw [run_eq] at sounding
    exact absurd sounding (by decide +kernel)

/-! ## Two presses one beep apart -/

def twoPresses (t : Nat) : Bool :=
  decide (2 ≤ t ∧ t < 5 ∨ 500001 ≤ t ∧ t < 500004)

theorem twoPresses_press {u : Nat} (starts : u = 2 ∨ u = 500001) : Press twoPresses u 3 where
  some := by decide
  high i lt := decide_eq_true (by omega)
  fresh v next := decide_eq_false (by omega)
  released := decide_eq_false (by omega)

theorem twoPresses_only {u n : Nat} (press : Press twoPresses u n) :
    (u = 2 ∨ u = 500001) ∧ n = 3 := by
  have high := press.high 0 press.some
  simp only [twoPresses, decide_eq_true_eq] at high
  have some := press.some
  rcases high with first | second
  · have same := press.eq_of_meet (twoPresses_press (Or.inl rfl)) (t := u) (by omega) (by omega)
    omega
  · have same := press.eq_of_meet (twoPresses_press (Or.inr rfl)) (t := u) (by omega) (by omega)
    omega

theorem twoPresses_spaced : SpacedPresses twoPresses := by
  refine ⟨fun t high => ?_, fun u n v m first second order => ?_⟩
  · simp only [twoPresses, decide_eq_true_eq] at high
    by_cases early : t < 5
    · exact ⟨2, 3, twoPresses_press (Or.inl rfl), by omega, by omega, by omega, by omega⟩
    · exact ⟨500001, 3, twoPresses_press (Or.inr rfl), by omega, by omega, by omega, by omega⟩
  · have one := twoPresses_only first
    have other := twoPresses_only second
    omega

theorem twoPresses_code {t : Nat} (last : t = 5 ∨ t = 500004) :
    stbyCode 1 twoPresses (t + 1) = 0b01#2 := by
  have now : released twoPresses t = true := by
    obtain ⟨v, rfl⟩ : ∃ v, t = v + 1 := ⟨t - 1, by omega⟩
    have high : twoPresses v = true := decide_eq_true (by omega)
    have low : twoPresses (v + 1) = false := decide_eq_false (by omega)
    rw [released, high, low]
    rfl
  rw [stbyCode_succ twoPresses_spaced (by decide), now]
  rfl

theorem twoPresses_quiet {t : Nat} (between : 5 < t ∧ t < 500004) :
    stbyCode 1 twoPresses (t + 1) = 0b00#2 := by
  have none : released twoPresses t = false := by
    by_contra now
    obtain ⟨u, n, press, last⟩ :=
      GestionTempsAppuiBouton.released_press twoPresses_spaced (by simpa using now)
    have only := twoPresses_only press
    omega
  rw [stbyCode_succ twoPresses_spaced (by decide), none]
  rfl

theorem twoPresses_meet : BeepEndsIn (startUp 1 (stbyOnly twoPresses)) (500004 + 1) := by
  have start : (regs (startUp 1 (stbyOnly twoPresses)) 6).bip.latches = ⟨true, false, false⟩ ∧
      (regs (startUp 1 (stbyOnly twoPresses)) 6).bip.oneSec.qn.toNat = 0 := by
    decide +kernel
  have silent : ∀ j < 499998, (beepPorts (startUp 1 (stbyOnly twoPresses) (6 + (j + 1)))
      (regs (startUp 1 (stbyOnly twoPresses)) (6 + (j + 1))).codes).rings = false := by
    intro j lt
    rw [codes_stby, ← Nat.add_assoc, twoPresses_quiet (by omega)]
    rfl
  have beeps := (bip_sequence 1 (stbyOnly twoPresses)).beeps start.1 start.2 silent
    (show 499998 ≤ 499999 by decide)
  rw [show 6 + 499998 = 500004 by decide, if_pos (by decide)] at beeps
  obtain ⟨latches, value⟩ := beeps
  have sounding : beeping 1 twoPresses 500004 = true := by
    rw [beeping, latches]
  exact beepEndsIn_of sounding value (by decide)

/-- The second of two presses whose codes are 499 999 cycles apart toggles the mode
twice. -/
theorem second_press_toggles_back :
    ¬ ∀ (k : Nat) (stby : Nat → Bool) (t : Nat),
      (run (startUp k (stbyOnly stby)) t).signals.btnAuto.appuiBtnO = 0b01#2 →
      ¬ (ModeChanges (startUp k (stbyOnly stby)) t ∧
        ModeChanges (startUp k (stbyOnly stby)) (t + 1)) := by
  intro once
  have code := twoPresses_code (Or.inr rfl)
  refine once 1 twoPresses (500004 + 1) ?_ ((changes_iff code).mpr twoPresses_meet)
  rw [appuiBtnO_eq]
  exact code

end Voilier.GestionBarre
