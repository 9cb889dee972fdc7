import Voilier.PressTimer
import Voilier.RegisterTransfer

/-!
# The length of a press

The counter is to stop at its last value so that a button held for long stays
held for long.  The stop goes through `valid_cpt`, which follows one cycle later:
by then the counter has gone round.
-/

set_option autoImplicit false

namespace Voilier.GestionTempsAppuiBouton

open DeltaCycle RegisterTransfer

/-! ## The timer on its own -/

instance : DeltaCycle.Driven Ports where
  rising old next d :=
    if d = 0 then { old with clkI := false }
    else if d = 1 then { old with clkI := true }
    else { next with clkI := true }
  falling next d := { next with clkI := decide (d = 0) }

section Cycle
variable {p p' : Ports} {x : Regs}

theorem rises_driven (p p' : Ports) : Rises (DeltaCycle.Driven.rising p p') p p' where
  clk d := by rcases d with _ | _ | d <;> rfl
  razN d := by rcases d with _ | _ | d <;> rfl
  btn d := by rcases d with _ | _ | d <;> rfl

theorem falling_quiet (held : x.Held p) (d : Nat) :
    entity.delta (DeltaCycle.Driven.falling p d) (DeltaCycle.Driven.falling p (d + 1))
      (stable p x) (stable p x) = stable p x :=
  delta_quiet (DeltaCycle.Driven.falling p d) (DeltaCycle.Driven.falling p (d + 1)) x held
    (risingEdge_falling d)

theorem cycle_eq (p p' : Ports) (x : Regs) (_ : x.Held p) :
    entity.cycle ⟨p, stable p x⟩ p' = ⟨p', stable p' (x.next p p')⟩ := by
  have risen : entity.rise ⟨p, stable p x⟩ p' = stable p' (x.next p p') :=
    rising_stable (rises_driven p p') (by decide)
  exact cycle_of_edges risen (falling_quiet (x.next_held p p'))

end Cycle

theorem implements : Implements entity stable Regs.next fun p x => x.Held p where
  cycle := cycle_eq
  wf p p' x _ := x.next_held p p'

def Regs.run (p : Ports) (wave : Nat → Ports) (x : Regs) : Nat → Regs :=
  runRegs Regs.next p wave x

/-! ## A button held for any time -/

/-- The cycles after which a held button is counted as if it had just been pressed. -/
def round : Nat := 2 ^ 27 + 1

/-- The timer of a button that has been high for `j` cycles. -/
def heldFor (j : Nat) : Regs :=
  ⟨BitVec.ofNat 27 (j % round - 1), decide (0 < j), ⟨false, decide (0 < j % round), 0b00#2⟩⟩

section Held
variable {p p' : Ports}

theorem heldFor_next (running : p.razNI = true) (running' : p'.razNI = true)
    (pressed : p.btnI = true) (j : Nat) : (heldFor j).next p p' = heldFor (j + 1) := by
  have residue : (j + 1) % round = if j % round = 2 ^ 27 then 0 else j % round + 1 :=
    succ_mod_cycle j (2 ^ 27)
  have below : j % round < round := Nat.mod_lt j (by decide)
  rw [next_running running running', pressed]
  unfold heldFor
  rw [residue]
  generalize j % round = r at below
  by_cases last : r = 2 ^ 27
  · -- the last value, counted once more
    subst last
    have wraps : 0b111111111111111111111111111#27 + 1#27 = 0#27 := by decide
    simp [Counter.clocked, clocked, wraps]
  · rw [if_neg last]
    have notMax := counting_ne_max (show r - 1 < 2 ^ 27 - 1 by unfold round at below; omega)
    by_cases first : r = 0
    · subst first
      rfl
    · have counted := counting_succ first
      simp [Counter.clocked, clocked, Nat.pos_of_ne_zero first, notMax, counted]

theorem heldFor_released (running : p.razNI = true) (running' : p'.razNI = true)
    (released : p.btnI = false) {n : Nat} (some : 0 < n) :
    ((heldFor n).next p p').driven.tempoAppuiBtn = classify (BitVec.ofNat 27 (n % round - 1)) := by
  rw [next_running running running', released]
  simp [heldFor, clocked_tempoAppuiBtn, some]

theorem classify_counted {g : Nat} (lt : g < 2 ^ 27) :
    classify (BitVec.ofNat 27 g) =
      if 999999 ≤ g then 0b10#2 else if g = 0 then 0b00#2 else 0b01#2 := by
  have value : (BitVec.ofNat 27 g).toNat = g := by
    rw [BitVec.toNat_ofNat, Nat.mod_eq_of_lt lt]
  unfold classify
  rw [value]
  by_cases long : 999999 ≤ g
  · rw [if_pos long, if_pos long]
  · rw [if_neg long, if_neg long]
    by_cases zero : g = 0
    · simp [zero]
    · rw [if_pos ⟨by omega, zero⟩, if_neg zero]

end Held

/-! ## One press from the idle state -/

/-- No button, and every register of the timer at 0. -/
def idle : Snapshot Ports Signals := ⟨⟨false, true, false⟩, stable ⟨false, true, false⟩ {}⟩

/-- The code of a press of `n` cycles is the right one. -/
def Classified (n : Nat) (code : BitVec 2) : Prop :=
  (1000000 ≤ n → code = 0b10#2) ∧ (2 ≤ n → n < 1000000 → code = 0b01#2)

/-- The button is high for exactly `n` cycles, out of reset up to the cycle after the
falling edge. -/
structure PressOf (n : Nat) (wave : Nat → Ports) : Prop where
  high : ∀ t < n, (wave t).btnI = true
  low : (wave n).btnI = false
  running : ∀ t ≤ n + 1, (wave t).razNI = true

section Press
variable {n : Nat} {wave : Nat → Ports}

theorem PressOf.held (press : PressOf n wave) {t : Nat} (le : t ≤ n) :
    Regs.run idle.ports wave {} t = heldFor t := by
  induction t with
  | zero =>
      have running := press.running 0 (Nat.zero_le _)
      change Regs.next idle.ports (wave 0) {} = _
      rw [next_running rfl running]
      rfl
  | succ t ih =>
      change (Regs.run idle.ports wave {} t).next (wave t) (wave (t + 1)) = _
      rw [ih (by omega)]
      exact heldFor_next (press.running t (by omega)) (press.running (t + 1) (by omega))
        (press.high t le) t

theorem PressOf.code (press : PressOf n wave) (some : 0 < n) :
    (entity.run idle wave (n + 1)).signals.appuiBtnO =
      classify (BitVec.ofNat 27 (n % round - 1)) := by
  have held := press.held (Nat.le_refl n)
  rw [idle, implements.run_eq fun reset => by simp at reset]
  change (((Regs.run idle.ports wave {} n).next (wave n) (wave (n + 1))).driven.tempoAppuiBtn) = _
  rw [held]
  exact heldFor_released (press.running n (by omega)) (press.running (n + 1) (Nat.le_refl _))
    press.low some

theorem PressOf.classified_iff (press : PressOf n wave) :
    Classified n (entity.run idle wave (n + 1)).signals.appuiBtnO ↔
      (1000000 ≤ n → 1000000 ≤ n % round) := by
  by_cases none : n = 0
  · subst none
    simp [Classified]
  · have below : n % round < 2 ^ 27 + 1 := Nat.mod_lt n (by decide)
    rw [press.code (Nat.pos_of_ne_zero none), classify_counted (by omega), Classified]
    by_cases long : 1000000 ≤ n
    · by_cases counted : 1000000 ≤ n % round
      · rw [if_pos (by omega)]
        simp [long, counted]
      · rw [if_neg (by omega)]
        split_ifs <;> simp [long, counted]
    · have same : n % round = n := Nat.mod_eq_of_lt (by unfold round; omega)
      rw [same, if_neg (by omega)]
      by_cases bounce : n = 1
      · simp [bounce]
      · rw [if_neg (by omega)]
        simp [long]

/-- A press is classified rightly exactly when it is short, or long by what is left
of it after whole rounds of the counter. -/
theorem press_classified_iff (press : PressOf n wave) :
    Classified n (entity.run idle wave (n + 1)).signals.appuiBtnO ↔
      (1000000 ≤ n → 1000000 ≤ n % (2 ^ 27 + 1)) :=
  press.classified_iff

end Press

def pressWave (n t : Nat) : Ports := ⟨false, true, decide (t < n)⟩

theorem pressWave_press (n : Nat) : PressOf n (pressWave n) :=
  ⟨fun _ lt => decide_eq_true lt, decide_eq_false (Nat.lt_irrefl n), fun _ _ => rfl⟩

theorem press_classified_one_second :
    Classified 50000000 (entity.run idle (pressWave 50000000) (50000000 + 1)).signals.appuiBtnO :=
  (press_classified_iff (pressWave_press 50000000)).mpr (by decide)

/-- The longest press the counter can follow, one cycle longer, shows no code. -/
theorem long_press_forgotten :
    ¬ ∀ (n : Nat) (wave : Nat → Ports), PressOf n wave →
      Classified n (entity.run idle wave (n + 1)).signals.appuiBtnO := by
  intro classified
  have counted := (pressWave_press 134217729).classified_iff.mp (classified _ _ (pressWave_press _))
  exact absurd (counted (by decide)) (by decide)

end Voilier.GestionTempsAppuiBouton
