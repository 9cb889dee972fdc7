import Mathlib.Algebra.Group.Nat.Defs
import Voilier.GestionTempsAppuiBouton

/-!
# The press timer over a waveform of its button

For presses the timer can follow, its registers are a function of where the
button is in its press: how long it has been high, or how long ago it was
released.
-/

set_option autoImplicit false

namespace Voilier.GestionTempsAppuiBouton

/-- `counting g`: the button was high in the last `g` cycles.  `shown g`: the code
of a press of `g` cycles is shown.  `clearing`: the counter has just been reset. -/
inductive Phase where
  | counting (g : Nat)
  | shown (g : Nat)
  | clearing
deriving DecidableEq

def Phase.next (btnI : Bool) : Phase → Phase
  | .counting g => if btnI then .counting (g + 1) else if g = 0 then .counting 0 else .shown g
  | .shown _ => .clearing
  | .clearing => .counting 0

def Phase.regs : Phase → Regs
  | .counting g => ⟨BitVec.ofNat 27 (g - 1), decide (0 < g), ⟨false, decide (0 < g), 0b00#2⟩⟩
  | .shown g => ⟨BitVec.ofNat 27 g, false, ⟨true, false, 0b01#2⟩⟩
  | .clearing => ⟨0, false, ⟨true, false, 0b00#2⟩⟩

/-- The button may be `btnI` in this phase: presses are short but longer than one
cycle, and the next one waits until the timer is clear. -/
def Phase.Admits (btnI : Bool) : Phase → Prop
  | .counting g => g < 1000000 ∧ (btnI = false → g ≠ 1)
  | .shown g => btnI = false ∧ g ≠ 0 ∧ g < 1000000
  | .clearing => btnI = false

section Step
variable {p p' : Ports} {phase : Phase}

theorem counting_ne_max {g : Nat} (below : g < 2 ^ 27 - 1) :
    BitVec.ofNat 27 g ≠ 0b111111111111111111111111111#27 := by
  intro full
  have value := congrArg BitVec.toNat full
  simp only [BitVec.toNat_ofNat] at value
  omega

theorem counting_toNat {g : Nat} (short : g < 1000000) :
    (BitVec.ofNat 27 g).toNat = g := by
  simp only [BitVec.toNat_ofNat]
  omega

theorem classify_short {g : Nat} (long : 1 < g) (short : g < 1000000) :
    classify (BitVec.ofNat 27 (g - 1)) = 0b01#2 := by
  have value := counting_toNat (show g - 1 < 1000000 by omega)
  unfold classify
  rw [value, if_neg (by omega), if_pos ⟨by omega, by omega⟩]

theorem counting_succ {g : Nat} (some : g ≠ 0) :
    BitVec.ofNat 27 (g - 1) + 1#27 = BitVec.ofNat 27 g := by
  rw [← BitVec.ofNat_add, Nat.sub_add_cancel (by omega)]

theorem counting_ne_zero {g : Nat} (some : g ≠ 0) (short : g < 1000000) :
    BitVec.ofNat 27 g ≠ 0b000000000000000000000000000#27 := by
  intro zero
  have value := congrArg BitVec.toNat zero
  rw [counting_toNat short] at value
  exact some value

theorem next_running (running : p.razNI = true) (running' : p'.razNI = true) (x : Regs) :
    x.next p p' =
      ⟨Counter.clocked x.driven.rstComp x.driven.validCpt x.tps, p.btnI,
        clocked x.tps (!p.btnI && x.s) p.btnI x.driven⟩ := by
  simp [Regs.next, Regs.atEdge, Regs.feBtn, running, running', Counter.afterEdge]

theorem Phase.next_regs (running : p.razNI = true) (running' : p'.razNI = true)
    (admits : phase.Admits p.btnI) : phase.regs.next p p' = (phase.next p.btnI).regs := by
  rw [next_running running running']
  cases phase with
  | counting g =>
      obtain ⟨short, long⟩ := admits
      have notMax := counting_ne_max (show g - 1 < 2 ^ 27 - 1 by omega)
      by_cases never : g = 0
      · subst never
        cases p.btnI <;> rfl
      · have some : 0 < g := by omega
        have counted := counting_succ never
        cases pressed : p.btnI with
        | true =>
            simp [Phase.regs, Phase.next, Counter.clocked, clocked, some, notMax, counted]
        | false =>
            have more := long pressed
            have nonzero := counting_ne_zero (show g - 1 ≠ 0 by omega) (by omega)
            have code := classify_short (show 1 < g by omega) short
            simp [Phase.regs, Phase.next, Counter.clocked, clocked, never, some, notMax, counted,
              nonzero, code]
  | shown g =>
      obtain ⟨released, some, short⟩ := admits
      have nonzero := counting_ne_zero some short
      have notMax := counting_ne_max (show g < 2 ^ 27 - 1 by omega)
      simp [Phase.regs, Phase.next, Counter.clocked, clocked, released, nonzero, notMax]
  | clearing =>
      have released : p.btnI = false := admits
      rw [released]
      rfl

theorem reset_regs (resetting : p.razNI = false) (low : p.btnI = false) :
    (Phase.counting 0).regs.next p p' = (Phase.counting 0).regs := by
  simp only [Phase.regs, Regs.next, Regs.atEdge, low, resetting]
  cases p'.razNI <;> rfl

end Step

/-! ## Presses -/

def phaseAt (btn : Nat → Bool) : Nat → Phase
  | 0 => .counting 0
  | t + 1 => (phaseAt btn t).next (btn t)

/-- The button is high in exactly the `n` cycles from `u` on. -/
structure Press (btn : Nat → Bool) (u n : Nat) : Prop where
  some : 0 < n
  high : ∀ i < n, btn (u + i) = true
  fresh : ∀ v, u = v + 1 → btn v = false
  released : btn (u + n) = false

/-- Every press lasts at least two and fewer than `1 000 000` cycles, with at least
four low cycles before the next one and releases at least `500 000` cycles
apart. -/
structure ShortPresses (btn : Nat → Bool) : Prop where
  short : ∀ t, btn t = true → ∃ u n, Press btn u n ∧ u ≤ t ∧ t < u + n ∧ 2 ≤ n ∧ n < 1000000
  gap : ∀ u n v m, Press btn u n → Press btn v m → u < v → u + n + 4 ≤ v
  apart : ∀ u n v m, Press btn u n → Press btn v m → u < v → u + n + 500000 ≤ v + m

/-- Presses the timer can follow, however soon their codes come after one another. -/
structure SpacedPresses (btn : Nat → Bool) : Prop where
  short : ∀ t, btn t = true → ∃ u n, Press btn u n ∧ u ≤ t ∧ t < u + n ∧ 2 ≤ n ∧ n < 1000000
  gap : ∀ u n v m, Press btn u n → Press btn v m → u < v → u + n + 4 ≤ v

theorem ShortPresses.spaced {btn : Nat → Bool} (presses : ShortPresses btn) : SpacedPresses btn :=
  ⟨presses.short, presses.gap⟩

section Presses
variable {btn : Nat → Bool}

theorem Press.high_at {u n t : Nat} (press : Press btn u n) (from_u : u ≤ t) (before : t < u + n) :
    btn t = true := by
  have high := press.high (t - u) (by omega)
  rwa [Nat.add_sub_cancel' from_u] at high

theorem Press.start_le {u n v m t : Nat} (first : Press btn u n) (second : Press btn v m)
    (after : u ≤ t ∧ v ≤ t) (before : t < v + m) : u ≤ v := by
  by_contra later
  have low := first.fresh (u - 1) (by omega)
  have high := second.high_at (t := u - 1) (by omega) (by omega)
  simp [low] at high

theorem Press.stop_le {u n v m t : Nat} (first : Press btn u n) (second : Press btn v m)
    (after : u ≤ t) (before : t < u + n ∧ t < v + m) : u + n ≤ v + m := by
  by_contra longer
  have low := second.released
  have high := first.high_at (t := v + m) (by omega) (by omega)
  simp [low] at high

/-- Two presses that share a cycle are one. -/
theorem Press.eq_of_meet {u n v m t : Nat} (first : Press btn u n) (second : Press btn v m)
    (after : u ≤ t ∧ v ≤ t) (before : t < u + n ∧ t < v + m) : u = v ∧ n = m := by
  have start : u = v := Nat.le_antisymm (first.start_le second after before.2)
    (second.start_le first after.symm before.1)
  have stop : u + n = v + m := Nat.le_antisymm (first.stop_le second after.1 before)
    (second.stop_le first after.2 before.symm)
  omega

theorem Press.start_lt {u n v m : Nat} (first : Press btn u n) (second : Press btn v m)
    (order : u + n < v + m) : u < v := by
  by_contra later
  have high := second.high_at (t := u + n) (by omega) order
  simp [first.released] at high

theorem SpacedPresses.low_after (presses : SpacedPresses btn) {u n : Nat} (press : Press btn u n)
    {j : Nat} (soon : j < 4) : btn (u + n + j) = false := by
  by_contra high
  obtain ⟨v, m, other, start, stop, -, -⟩ := presses.short (u + n + j) (by simpa using high)
  have late : u + n < v := by
    by_contra early
    have still := other.high_at (t := u + n) (by omega) (by omega)
    simp [press.released] at still
  have gap := presses.gap u n v m press other (by omega)
  omega

/-- What the phase of cycle `t` says about the button. -/
def Tracks (btn : Nat → Bool) (t : Nat) : Phase → Prop
  | .counting g => g ≤ t ∧ (∀ v, t - g ≤ v → v < t → btn v = true) ∧
      ∀ v, t - g = v + 1 → btn v = false
  | .shown g => g < 1000000 ∧ ∃ u, Press btn u g ∧ t = u + g + 1
  | .clearing => ∃ u n, Press btn u n ∧ t = u + n + 2

theorem Tracks.admits (presses : SpacedPresses btn) {t : Nat} {phase : Phase}
    (tracks : Tracks btn t phase) : phase.Admits (btn t) := by
  cases phase with
  | counting g =>
      obtain ⟨le, high, fresh⟩ := tracks
      by_cases never : g = 0
      · subst never
        exact ⟨by omega, fun _ => by omega⟩
      · obtain ⟨u, n, press, start, stop, long, short⟩ :=
          presses.short (t - 1) (high (t - 1) (by omega) (by omega))
        have covers : u ≤ t - g := by
          by_contra inside
          have low := press.fresh (u - 1) (by omega)
          have up := high (u - 1) (by omega) (by omega)
          simp [low] at up
        refine ⟨by omega, fun released one => ?_⟩
        subst one
        have begins : u = t - 1 := by
          by_contra earlier
          have low := fresh (t - 2) (by omega)
          have up := press.high_at (t := t - 2) (by omega) (by omega)
          simp [low] at up
        have up := press.high_at (t := t) (by omega) (by omega)
        simp [released] at up
  | shown g =>
      obtain ⟨short, u, press, rfl⟩ := tracks
      exact ⟨presses.low_after press (by decide), Nat.pos_iff_ne_zero.mp press.some, short⟩
  | clearing =>
      obtain ⟨u, n, press, rfl⟩ := tracks
      exact presses.low_after press (by decide)

theorem Tracks.next (presses : SpacedPresses btn) {t : Nat} {phase : Phase}
    (tracks : Tracks btn t phase) : Tracks btn (t + 1) (phase.next (btn t)) := by
  have admits := tracks.admits presses
  cases phase with
  | counting g =>
      obtain ⟨le, high, fresh⟩ := tracks
      cases pressed : btn t with
      | true =>
          refine ⟨by omega, fun v after before => ?_, fun v start => fresh v (by omega)⟩
          by_cases now : v = t
          · rw [now, pressed]
          · exact high v (by omega) (by omega)
      | false =>
          by_cases never : g = 0
          · subst never
            refine ⟨by omega, fun v after before => by omega, fun v start => ?_⟩
            obtain rfl : v = t := by omega
            exact pressed
          · simp only [Phase.next, never, if_false]
            refine ⟨admits.1, t - g, ⟨by omega, fun i lt => high _ (by omega) (by omega), fresh,
              ?_⟩, by omega⟩
            rwa [Nat.sub_add_cancel le]
  | shown g =>
      obtain ⟨-, u, press, rfl⟩ := tracks
      exact ⟨u, g, press, rfl⟩
  | clearing =>
      obtain ⟨u, n, press, rfl⟩ := tracks
      refine ⟨by omega, fun v after before => by omega, fun v start => ?_⟩
      obtain rfl : v = u + n + 2 := by omega
      exact presses.low_after press (by decide)

theorem tracks_phaseAt (presses : SpacedPresses btn) (t : Nat) : Tracks btn t (phaseAt btn t) := by
  induction t with
  | zero => exact ⟨by omega, fun v _ before => by omega, fun v start => by omega⟩
  | succ t ih => exact ih.next presses

def released (btn : Nat → Bool) : Nat → Bool
  | 0 => false
  | t + 1 => btn t && !btn (t + 1)

/-- The number of releases before cycle `t`. -/
def releases (btn : Nat → Bool) : Nat → Nat
  | 0 => 0
  | t + 1 => releases btn t + (released btn t).toNat

/-- After a high cycle a press is being counted. -/
theorem Tracks.of_high (presses : SpacedPresses btn) {t : Nat} {phase : Phase}
    (tracks : Tracks btn (t + 1) phase) (high : btn t = true) :
    ∃ g, g ≠ 0 ∧ phase = .counting g := by
  cases phase with
  | counting g =>
      refine ⟨g, fun never => ?_, rfl⟩
      have low := tracks.2.2 t (by omega)
      simp [high] at low
  | shown g =>
      obtain ⟨-, u, press, last⟩ := tracks
      have low := press.released
      rw [show u + g = t by omega, high] at low
      simp at low
  | clearing =>
      obtain ⟨u, n, press, last⟩ := tracks
      have low := presses.low_after press (show 1 < 4 by decide)
      rw [show u + n + 1 = t by omega, high] at low
      simp at low

/-- A code is shown in the cycle after a release. -/
theorem released_iff (presses : SpacedPresses btn) (t : Nat) :
    released btn t = true ↔ ∃ g, phaseAt btn (t + 1) = .shown g := by
  constructor
  · intro now
    obtain ⟨v, rfl⟩ : ∃ v, t = v + 1 := by
      cases t with
      | zero => simp [released] at now
      | succ v => exact ⟨v, rfl⟩
    simp only [released, Bool.and_eq_true, Bool.not_eq_true'] at now
    obtain ⟨high, low⟩ := now
    obtain ⟨g, some, phase⟩ := (tracks_phaseAt presses (v + 1)).of_high presses high
    refine ⟨g, ?_⟩
    rw [phaseAt, phase, low]
    simp [Phase.next, some]
  · rintro ⟨g, phase⟩
    have after := tracks_phaseAt presses (t + 1)
    rw [phase] at after
    obtain ⟨-, u, press, last⟩ := after
    have some := press.some
    obtain ⟨v, rfl⟩ : ∃ v, t = v + 1 := ⟨t - 1, by omega⟩
    have high := press.high_at (t := v) (by omega) (by omega)
    have low := press.released
    rw [show u + g = v + 1 by omega] at low
    simp [released, high, low]

theorem released_press (presses : SpacedPresses btn) {t : Nat} (now : released btn t = true) :
    ∃ u n, Press btn u n ∧ u + n = t := by
  obtain ⟨g, phase⟩ := (released_iff presses t).mp now
  have tracks := tracks_phaseAt presses (t + 1)
  rw [phase] at tracks
  obtain ⟨-, u, press, last⟩ := tracks
  exact ⟨u, g, press, by omega⟩

theorem phaseAt_low {t : Nat} (low : ∀ u < t, btn u = false) : phaseAt btn t = .counting 0 := by
  induction t with
  | zero => rfl
  | succ t ih =>
      rw [phaseAt, ih fun u lt => low u (by omega), low t (by omega)]
      rfl

theorem releases_low {t : Nat} (low : ∀ u < t, btn u = false) : releases btn t = 0 := by
  induction t with
  | zero => rfl
  | succ t ih =>
      have quiet : released btn t = false := by
        cases t with
        | zero => rfl
        | succ v => simp [released, low v (by omega)]
      rw [releases, ih fun u lt => low u (by omega), quiet]
      rfl

/-- A timer whose button is short-pressed after a reset of `k` cycles follows the
phases of its button. -/
theorem run_phase {k : Nat} (ports : Nat → Ports) (timer : Nat → Regs)
    (presses : SpacedPresses btn) (low : ∀ t < k, btn t = false)
    (raz : ∀ t, (ports t).razNI = decide (k ≤ t)) (button : ∀ t, (ports t).btnI = btn t)
    (start : timer 0 = (Phase.counting 0).regs)
    (step : ∀ t, timer (t + 1) = (timer t).next (ports t) (ports (t + 1))) (t : Nat) :
    timer t = (phaseAt btn t).regs := by
  induction t with
  | zero => exact start
  | succ t ih =>
      rw [step, ih]
      by_cases running : k ≤ t
      · have admits := (tracks_phaseAt presses t).admits presses
        rw [← button] at admits
        rw [Phase.next_regs (by simpa [raz] using running) (by simp [raz]; omega) admits, button]
        rfl
      · rw [phaseAt_low fun u lt => low u (by omega), phaseAt_low fun u lt => low u (by omega)]
        exact reset_regs (by simpa [raz] using running) (by rw [button, low t (by omega)])

end Presses

end Voilier.GestionTempsAppuiBouton
