import Voilier.PressResidue

/-!
# The events of a button

The last `if` of the classification process withdraws whatever code is shown, so a
release in that very cycle would be lost.  There is none: a code follows a low
button, which the edge detector has seen by then.
-/

set_option autoImplicit false

namespace Voilier.GestionTempsAppuiBouton

open DeltaCycle

/-- A code is shown only while the edge detector remembers a low button. -/
def Regs.Released (x : Regs) : Prop :=
  x.driven.tempoAppuiBtn = 0b00#2 ∨ x.s = false

/-- The code shown after the cycle with signals `s` reports the release of that
cycle, and no code was shown in it. -/
structure Reports (s s' : Signals) : Prop where
  event : s'.appuiBtnO ≠ 0b00#2 ↔ s.edge.feO = true ∧ s.counter.qnO ≠ 0
  code : s'.appuiBtnO ≠ 0b00#2 →
    s'.appuiBtnO = if 999999 ≤ s.counter.qnO.toNat then 0b10#2 else 0b01#2
  single : s.appuiBtnO = 0b00#2 ∨ s'.appuiBtnO = 0b00#2

section Step
variable {p p' : Ports} {x : Regs}

theorem classify_ne_zero (tps : BitVec 27) : classify tps ≠ 0b00#2 ↔ tps ≠ 0 := by
  have zero : tps.toNat = 0 ↔ tps = 0 := by
    rw [← BitVec.toNat_inj]
    rfl
  rw [ne_eq, ne_eq, not_iff_not, ← zero]
  unfold classify
  split_ifs with long short
  · simp
    omega
  · simp [short.2]
  · simp
    omega

theorem classify_of_ne_zero {tps : BitVec 27} (counted : classify tps ≠ 0b00#2) :
    classify tps = if 999999 ≤ tps.toNat then 0b10#2 else 0b01#2 := by
  unfold classify at counted ⊢
  split_ifs at counted ⊢
  · rfl
  · rfl
  · exact absurd rfl counted

theorem next_code (running : p.razNI = true) (running' : p'.razNI = true) (coded : x.Coded) :
    (x.next p p').driven.tempoAppuiBtn =
      if x.driven.tempoAppuiBtn = 0b00#2 ∧ x.feBtn p = true then classify x.tps else 0b00#2 := by
  rw [next_running running running', clocked_tempoAppuiBtn]
  change _ = if _ ∧ (!p.btnI && x.s) = true then _ else _
  rcases coded with none | short | long
  · simp [none]
  · simp [short]
  · simp [long]

theorem feBtn_of_code (coded : x.Coded) (shown : (x.next p p').driven.tempoAppuiBtn ≠ 0b00#2) :
    x.feBtn p = true := by
  cases running : p.razNI with
  | false => exact absurd (x.next_silent running p') shown
  | true =>
      cases running' : p'.razNI with
      | false =>
          have withdrawn : (x.next p p').driven.tempoAppuiBtn = 0b00#2 := by
            simp [Regs.next, running', cleared]
          exact absurd withdrawn shown
      | true =>
          rw [next_code running running' coded] at shown
          by_contra still
          exact shown (if_neg fun both => still both.2)

theorem Regs.Released.next (running : p.razNI = true) (running' : p'.razNI = true)
    (coded : x.Coded) : (x.next p p').Released := by
  unfold Regs.Released
  rw [next_code running running' coded]
  split_ifs with release
  · have low : p.btnI = false := by
      have fallen := release.2
      simp only [Regs.feBtn, Bool.and_eq_true, Bool.not_eq_true'] at fallen
      exact fallen.1
    exact Or.inr low
  · exact Or.inl rfl

theorem Regs.Released.reports (released : x.Released) (running : p.razNI = true)
    (running' : p'.razNI = true) (coded : x.Coded) :
    Reports (stable p x) (stable p' (x.next p p')) := by
  have silent : x.feBtn p = true → x.driven.tempoAppuiBtn = 0b00#2 := by
    intro fallen
    rcases released with silent | low
    · exact silent
    · simp [Regs.feBtn, low] at fallen
  have shown : (x.next p p').driven.tempoAppuiBtn =
      if x.feBtn p = true then classify x.tps else 0b00#2 := by
    rw [next_code running running' coded]
    by_cases fallen : x.feBtn p = true
    · rw [if_pos ⟨silent fallen, fallen⟩, if_pos fallen]
    · rw [if_neg (fun both => fallen both.2), if_neg fallen]
  constructor
  · change (x.next p p').driven.tempoAppuiBtn ≠ _ ↔ x.feBtn p = true ∧ x.tps ≠ 0
    rw [shown]
    by_cases fallen : x.feBtn p = true
    · simp only [fallen, if_true, true_and]
      exact classify_ne_zero x.tps
    · simp [fallen]
  · change (x.next p p').driven.tempoAppuiBtn ≠ _ → (x.next p p').driven.tempoAppuiBtn = _
    rw [shown]
    by_cases fallen : x.feBtn p = true
    · rw [if_pos fallen]
      exact classify_of_ne_zero
    · simp [fallen]
  · exact coded.fresh p p'

end Step

section Stretch
variable {p : Ports} {wave : Nat → Ports} {m n : Nat}

theorem run_released (running : ∀ t, m ≤ t → t ≤ n → (wave t).razNI = true)
    (silent : (reached p wave m).signals.driven.tempoAppuiBtn = 0b00#2) {t : Nat} (after : m ≤ t)
    (upTo : t ≤ n) : (Regs.run p wave {} t).Released := by
  rw [reached_regs] at silent
  rcases Nat.eq_or_lt_of_le after with rfl | later
  · exact Or.inl silent
  · obtain ⟨u, rfl⟩ := Nat.exists_eq_add_of_le' (show 1 ≤ t by omega)
    exact Regs.Released.next (running u (by omega) (by omega)) (running (u + 1) after upTo)
      (run_coded p wave u)

/-- One event of one cycle for every release that was counted, in any stretch of a
run without reset that starts with no code shown. -/
theorem every_release_reported (running : ∀ t, m ≤ t → t ≤ n → (wave t).razNI = true)
    (silent : (reached p wave m).signals.driven.tempoAppuiBtn = 0b00#2) {t : Nat} (after : m ≤ t)
    (before : t < n) : Reports (reached p wave t).signals (reached p wave (t + 1)).signals := by
  have released := run_released running silent after (Nat.le_of_lt before)
  rw [reached_regs, reached_regs]
  exact released.reports (running t after (Nat.le_of_lt before))
    (running (t + 1) (by omega) before) (run_coded p wave t)

end Stretch

/-! ## Codes and releases -/

/-- Whatever the resets, a code that is shown comes from a release in the cycle
before. -/
theorem code_asked (ports : Nat → Ports) (x : Nat → Regs)
    (step : ∀ t, x (t + 1) = (x t).next (ports t) (ports (t + 1)))
    (coded : ∀ t, (x t).Coded) (silent : (x 0).driven.tempoAppuiBtn = 0b00#2)
    (low : (x 0).s = false) {t : Nat} (shown : (x t).driven.tempoAppuiBtn ≠ 0b00#2) :
    ∃ u, t = u + 1 ∧ released (fun t => (ports t).btnI) u = true := by
  cases t with
  | zero => exact absurd silent shown
  | succ u =>
      refine ⟨u, rfl, ?_⟩
      rw [step] at shown
      have fallen := feBtn_of_code (coded u) shown
      cases u with
      | zero => simp [Regs.feBtn, low] at fallen
      | succ u =>
          rw [step] at fallen
          simp only [Regs.feBtn, Regs.next, Bool.and_eq_true, Bool.not_eq_true'] at fallen
          simp [released, fallen]

theorem short_release_reported :
    Reports (reached ⟨false, true, false⟩ (feed fun t => decide (t < 2)) 2).signals
      (reached ⟨false, true, false⟩ (feed fun t => decide (t < 2)) 3).signals :=
  every_release_reported (m := 0) (n := 3) (fun _ _ _ => rfl) (by rw [reached_regs]; rfl)
    (by decide) (by decide)

end Voilier.GestionTempsAppuiBouton
