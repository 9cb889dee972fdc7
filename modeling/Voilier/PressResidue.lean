import Voilier.PressLength

/-!
# What an earlier press leaves behind

Four low cycles bring the timer to rest, but for its counter: a bounce of one cycle
is counted after its falling edge, and nothing clears that count before the next
press.
-/

set_option autoImplicit false

namespace Voilier.GestionTempsAppuiBouton

open DeltaCycle

/-- A released timer that is not being cleared has counted nothing, or one cycle. -/
def Regs.Residual (x : Regs) : Prop :=
  x.s = false → x.driven.rstComp = false →
    x.tps = 0 ∨ x.tps = 1 ∧ x.driven.validCpt = false

/-- A released timer that shows nothing and holds the count `c`. -/
def residue (c : BitVec 27) : Regs := ⟨c, false, {}⟩

section Low
variable {p p' : Ports} {x : Regs}

theorem clocked_low (tps : BitVec 27) (feBtn : Bool) (s : Driven) :
    clocked tps feBtn false s =
      ⟨decide (tps ≠ 0) && (feBtn || s.rstComp), false,
        (clocked tps feBtn false s).tempoAppuiBtn⟩ := by
  unfold clocked
  split_ifs with full fell zero shown <;> simp_all

theorem next_low (running : p.razNI = true) (running' : p'.razNI = true)
    (released : p.btnI = false) (x : Regs) :
    x.next p p' =
      ⟨Counter.clocked x.driven.rstComp x.driven.validCpt x.tps, false,
        decide (x.tps ≠ 0) && (x.s || x.driven.rstComp), false,
        (clocked x.tps x.s false x.driven).tempoAppuiBtn⟩ := by
  rw [next_running running running', released, Bool.not_false, Bool.true_and, clocked_low]

theorem Regs.Residual.next (residual : x.Residual) (p p' : Ports) : (x.next p p').Residual := by
  by_cases resetting : p.razNI = true ∧ p'.razNI = true
  · obtain ⟨running, running'⟩ := resetting
    intro released cleared
    have low : p.btnI = false := released
    rw [next_low running running' low] at cleared ⊢
    by_cases zero : x.tps = 0
    · rw [zero]
      cases x.driven.rstComp <;> cases x.driven.validCpt <;> simp [Counter.clocked]
    · simp only [ne_eq, zero, not_false_eq_true, decide_true, Bool.true_and,
        Bool.or_eq_false_iff] at cleared
      rcases residual cleared.1 cleared.2 with none | ⟨one, disabled⟩
      · exact absurd none zero
      · simp [Counter.clocked, cleared.2, disabled, one]
  · intro _ _
    left
    cases running' : p'.razNI with
    | false => simp [Regs.next, running']
    | true =>
        have reset : p.razNI = false := by simpa [running'] using resetting
        simp [Regs.next, running', reset, Counter.afterEdge]

theorem next_low_again (running : p.razNI = true) (running' : p'.razNI = true)
    (released : p.btnI = false) (coded : x.Coded) (low : x.s = false)
    (stopped : x.driven.validCpt = false) :
    x.next p p' =
      ⟨if x.driven.rstComp = true then 0 else x.tps, false,
        decide (x.tps ≠ 0) && x.driven.rstComp, false, 0b00#2⟩ := by
  have silent : (clocked x.tps false false x.driven).tempoAppuiBtn = 0b00#2 := by
    rw [clocked_tempoAppuiBtn]
    rcases coded with none | short | long
    · simp [none]
    · simp [short]
    · simp [long]
  rw [next_low running running' released, low, stopped, silent, Bool.false_or]
  simp [Counter.clocked]

/-- The state after four low cycles: a count of 0 or 1 is all that is left. -/
theorem settles {p₁ p₂ p₃ : Ports} (coded : x.Coded) (residual : x.Residual)
    (low : ∀ q ∈ [p, p₁, p₂], q.btnI = false) (running : ∀ q ∈ [p, p₁, p₂, p₃], q.razNI = true) :
    ∃ c, (c = 0 ∨ c = 1) ∧ ((x.next p p₁).next p₁ p₂).next p₂ p₃ = residue c := by
  simp only [List.forall_mem_cons, List.not_mem_nil, false_imp_iff, implies_true,
    and_true] at low running
  have first := next_low running.1 running.2.1 low.1 x
  have coded₁ := coded.next p p₁
  have residual₁ := residual.next p p₁
  generalize x.next p p₁ = y at first coded₁ residual₁
  have released : y.s = false := by rw [first]
  have stopped : y.driven.validCpt = false := by rw [first]
  have coded₂ := coded₁.next p₁ p₂
  rw [next_low_again running.2.1 running.2.2.1 low.2.1 coded₁ released stopped] at coded₂ ⊢
  rw [next_low_again running.2.2.1 running.2.2.2 low.2.2 coded₂ rfl rfl]
  cases clearing : y.driven.rstComp with
  | true => exact ⟨0, Or.inl rfl, by simp [residue]⟩
  | false =>
      rcases residual₁ released clearing with none | ⟨one, -⟩
      · exact ⟨0, Or.inl rfl, by simp [residue, none]⟩
      · exact ⟨1, Or.inr rfl, by simp [residue, one]⟩

theorem residue_low (running : p.razNI = true) (running' : p'.razNI = true)
    (released : p.btnI = false) (c : BitVec 27) : (residue c).next p p' = residue c := by
  rw [next_low_again running running' released (Or.inl rfl) rfl rfl]
  simp [residue]

/-- A bounce of one cycle shows the count that was left. -/
theorem bounce_code {p₁ p₂ p₃ : Ports} (c : BitVec 27) (low : p.btnI = false)
    (high : p₁.btnI = true) (released : p₂.btnI = false)
    (running : ∀ q ∈ [p, p₁, p₂, p₃], q.razNI = true) :
    ((((residue c).next p p₁).next p₁ p₂).next p₂ p₃).driven.tempoAppuiBtn = classify c := by
  simp only [List.forall_mem_cons, List.not_mem_nil, false_imp_iff, implies_true,
    and_true] at running
  rw [residue_low running.1 running.2.1 low, next_running running.2.2.1 running.2.2.2, released,
    next_running running.2.1 running.2.2.1, high]
  simp [residue, clocked_tempoAppuiBtn, Counter.clocked]

/-- The timer of a button that has been high for `j` cycles, after a rest that left the
count `g`. -/
def pressedFor (g j : Nat) : Regs :=
  ⟨BitVec.ofNat 27 (g + (j - 1)), decide (0 < j), ⟨false, decide (0 < j), 0b00#2⟩⟩

theorem pressedFor_next (running : p.razNI = true) (running' : p'.razNI = true)
    (pressed : p.btnI = true) {g j : Nat} (fits : g + j < 2 ^ 27 - 1) :
    (pressedFor g j).next p p' = pressedFor g (j + 1) := by
  rw [next_running running running', pressed]
  cases j with
  | zero =>
      have notMax := counting_ne_max (show g < 2 ^ 27 - 1 by omega)
      simp [pressedFor, Counter.clocked, clocked, notMax]
  | succ j =>
      have notMax := counting_ne_max (show g + j < 2 ^ 27 - 1 by omega)
      have counted : BitVec.ofNat 27 (g + j) + 1#27 = BitVec.ofNat 27 (g + (j + 1)) :=
        counting_succ (Nat.succ_ne_zero (g + j))
      simp [pressedFor, Counter.clocked, clocked, notMax, counted]

theorem pressedFor_released (running : p.razNI = true) (running' : p'.razNI = true)
    (released : p.btnI = false) {g n : Nat} (some : 0 < n) :
    ((pressedFor g n).next p p').driven.tempoAppuiBtn =
      classify (BitVec.ofNat 27 (g + (n - 1))) := by
  rw [next_running running running', released]
  simp [pressedFor, clocked_tempoAppuiBtn, some]

end Low

/-! ## Two histories -/

/-- A state of the timer some cycles after power-up. -/
def reached (p : Ports) (wave : Nat → Ports) (t : Nat) : Snapshot Ports Signals :=
  entity.run ⟨p, stable p {}⟩ wave t

/-- The button was low in the four cycles up to `t`, none of them in reset. -/
structure Rested (wave : Nat → Ports) (t : Nat) : Prop where
  enough : 3 ≤ t
  low : ∀ v ≤ t, t ≤ v + 3 → (wave v).btnI = false
  running : ∀ v ≤ t, t ≤ v + 3 → (wave v).razNI = true

/-- The button follows `btn`, out of reset. -/
def feed (btn : Nat → Bool) (t : Nat) : Ports := ⟨false, true, btn t⟩

/-- Whatever the button does, the two states lead to the same codes. -/
def SameCodes (s s' : Snapshot Ports Signals) : Prop :=
  ∀ btn t, (entity.run s (feed btn) t).signals.appuiBtnO =
    (entity.run s' (feed btn) t).signals.appuiBtnO

theorem run_coded (p : Ports) (wave : Nat → Ports) (t : Nat) : (Regs.run p wave {} t).Coded := by
  induction t with
  | zero => exact Regs.Coded.next (Or.inl rfl) p (wave 0)
  | succ t ih => exact ih.next (wave t) (wave (t + 1))

theorem run_residual (p : Ports) (wave : Nat → Ports) (t : Nat) :
    (Regs.run p wave {} t).Residual := by
  induction t with
  | zero => exact Regs.Residual.next (fun _ _ => Or.inl rfl) p (wave 0)
  | succ t ih => exact ih.next (wave t) (wave (t + 1))

section Reached
variable {p : Ports} {wave : Nat → Ports} {t : Nat}

theorem Rested.regs (rested : Rested wave t) :
    ∃ c, (c = 0 ∨ c = 1) ∧ Regs.run p wave {} t = residue c := by
  obtain ⟨v, rfl⟩ := Nat.exists_eq_add_of_le' rested.enough
  have window : ∀ j ≤ 3, v + j ≤ v + 3 ∧ v + 3 ≤ v + j + 3 := by omega
  refine settles (run_coded p wave v) (run_residual p wave v) ?_ ?_
  · simp only [List.forall_mem_cons, List.not_mem_nil, false_imp_iff, implies_true, and_true]
    exact ⟨rested.low v (by omega) (by omega), rested.low (v + 1) (by omega) (by omega),
      rested.low (v + 2) (by omega) (by omega)⟩
  · simp only [List.forall_mem_cons, List.not_mem_nil, false_imp_iff, implies_true, and_true]
    exact ⟨rested.running v (by omega) (by omega), rested.running (v + 1) (by omega) (by omega),
      rested.running (v + 2) (by omega) (by omega), rested.running (v + 3) (by omega) (by omega)⟩

theorem reached_regs (p : Ports) (wave : Nat → Ports) (t : Nat) :
    reached p wave t = ⟨wave t, stable (wave t) (Regs.run p wave {} t)⟩ :=
  implements.run_eq (fun _ => ⟨rfl, rfl⟩) wave t

theorem Rested.reached_eq (rested : Rested wave t) :
    ∃ c, (c = 0 ∨ c = 1) ∧ reached p wave t = ⟨wave t, stable (wave t) (residue c)⟩ := by
  obtain ⟨c, count, regs⟩ := rested.regs (p := p)
  exact ⟨c, count, by rw [reached_regs, regs]⟩

end Reached

section Pair
variable {p p' : Ports}

theorem fed_code (running : p.razNI = true) (x : Regs) (btn : Nat → Bool) (t : Nat) :
    (entity.run ⟨p, stable p x⟩ (feed btn) t).signals.appuiBtnO =
      (Regs.run p (feed btn) x t).driven.tempoAppuiBtn := by
  rw [implements.run_eq fun reset => by simp [running] at reset]
  rfl

theorem residue_run_eq (running : p.razNI = true) (running' : p'.razNI = true)
    (low : p.btnI = false) (low' : p'.btnI = false) (c : BitVec 27) (btn : Nat → Bool) (t : Nat) :
    Regs.run p (feed btn) (residue c) t = Regs.run p' (feed btn) (residue c) t := by
  induction t with
  | zero =>
      change (residue c).next p (feed btn 0) = (residue c).next p' (feed btn 0)
      rw [residue_low running rfl low, residue_low running' rfl low']
  | succ t ih =>
      change (Regs.run p (feed btn) (residue c) t).next (feed btn t) (feed btn (t + 1)) =
        (Regs.run p' (feed btn) (residue c) t).next (feed btn t) (feed btn (t + 1))
      rw [ih]

def bounce (t : Nat) : Bool := decide (t = 0)

theorem residue_bounce (running : p.razNI = true) (low : p.btnI = false) (c : BitVec 27) :
    (Regs.run p (feed bounce) (residue c) 2).driven.tempoAppuiBtn = classify c :=
  bounce_code c low rfl rfl (by simp [running, feed])

theorem classify_inj {c c' : BitVec 27} (count : c = 0 ∨ c = 1) (count' : c' = 0 ∨ c' = 1)
    (same : classify c = classify c') : c = c' := by
  rcases count with rfl | rfl <;> rcases count' with rfl | rfl
  · rfl
  · exact absurd same (by decide)
  · exact absurd same (by decide)
  · rfl

end Pair

/-- Two rested states lead to the same codes exactly when they hold the same count. -/
theorem presses_independent_iff {p p' : Ports} {wave wave' : Nat → Ports} {t t' : Nat}
    (rested : Rested wave t) (rested' : Rested wave' t') :
    SameCodes (reached p wave t) (reached p' wave' t') ↔
      (reached p wave t).signals.counter.qnO = (reached p' wave' t').signals.counter.qnO := by
  obtain ⟨c, count, state⟩ := rested.reached_eq (p := p)
  obtain ⟨c', count', state'⟩ := rested'.reached_eq (p := p')
  have running := rested.running t (Nat.le_refl t) (Nat.le_add_right t 3)
  have running' := rested'.running t' (Nat.le_refl t') (Nat.le_add_right t' 3)
  have low := rested.low t (Nat.le_refl t) (Nat.le_add_right t 3)
  have low' := rested'.low t' (Nat.le_refl t') (Nat.le_add_right t' 3)
  rw [state, state']
  change _ ↔ c = c'
  constructor
  · intro same
    -- a bounce of one cycle tells the counts apart
    have codes := same bounce 2
    rw [fed_code running, fed_code running', residue_bounce running low,
      residue_bounce running' low'] at codes
    exact classify_inj count count' codes
  · rintro rfl btn u
    rw [fed_code running, fed_code running', residue_run_eq running running' low low']

def quiet (_ : Nat) : Bool := false

theorem presses_independent_after_press :
    SameCodes (reached ⟨false, true, false⟩ (feed fun t => decide (t < 2)) 6)
      (reached ⟨false, true, false⟩ (feed quiet) 3) := by
  refine (presses_independent_iff ?_ ?_).mpr ?_
  · exact ⟨by decide, fun v _ soon => by simp [feed]; omega, fun _ _ _ => rfl⟩
  · exact ⟨by decide, fun _ _ _ => rfl, fun _ _ _ => rfl⟩
  · rw [reached_regs, reached_regs]
    decide

/-- A timer that has seen one bounce takes the next one for a short press. -/
theorem bounce_remembered :
    ¬ ∀ (p p' : Ports) (wave wave' : Nat → Ports) (t t' : Nat), Rested wave t → Rested wave' t' →
      SameCodes (reached p wave t) (reached p' wave' t') := by
  intro independent
  have codes := independent ⟨false, true, false⟩ ⟨false, true, false⟩ (feed bounce) (feed quiet) 4 3
    ⟨by decide, fun v _ soon => by simp [feed, bounce]; omega, fun _ _ _ => rfl⟩
    ⟨by decide, fun _ _ _ => rfl, fun _ _ _ => rfl⟩ bounce 2
  rw [reached_regs, reached_regs, fed_code rfl, fed_code rfl] at codes
  exact absurd codes (by decide)

end Voilier.GestionTempsAppuiBouton
