import Mathlib.Data.Nat.Count
import Voilier.BipTiming

/-!
# How soon the beep sequencer rests

From any state that a run reaches, beeps and pauses under way or not, the number of
cycles up to the rest is known: it goes down by one with every cycle without a code.
Neither does the sequencer beep more often than it was asked to.
-/

set_option autoImplicit false

namespace Voilier.GestionBip

open DeltaCycle

/-- The cycles that a sequencer still needs without further codes: what is left of the
beep or of the pause, and the pause and the beep that a choice still calls for. -/
def due (s : Latches) (oneSec zeroFiveSec : Nat) : Nat :=
  if s.activationBip = true then
    499999 - oneSec +
      if s.tempChoixBtn = true ∧ s.attenteBip = false then 249999 + 499999 else 0
  else if s.attenteBip = true then 249999 - zeroFiveSec + 499999
  else 0

def Regs.rank (x : Regs) : Nat := due x.latches x.oneSec.qn.toNat x.zeroFiveSec.qn.toNat

def Signals.rank (s : Signals) : Nat :=
  due s.latches s.counterBip.qnO.toNat s.counterAttenteBip.qnO.toNat

theorem due_le (s : Latches) (oneSec zeroFiveSec : Nat) :
    due s oneSec zeroFiveSec ≤ 499999 + 249999 + 499999 := by
  unfold due
  split_ifs <;> omega

theorem Regs.beeping_of_rank {x : Regs} (some : 0 < x.rank) (last : x.rank < 499999) :
    x.latches.activationBip = true := by
  by_contra quiet
  rw [Regs.rank, due, if_neg quiet] at some last
  split_ifs at some last <;> omega

section Rank
variable {ports : Nat → Ports} {x : Nat → Regs}

theorem Regs.Sequenced.rank_eq_zero_iff {p : Ports} {y : Regs} (sequenced : y.Sequenced p) :
    y.rank = 0 ↔ y.latches = {} := by
  constructor
  · intro none
    have idle : y.latches.activationBip = false ∧ y.latches.attenteBip = false := by
      cases beeping : y.latches.activationBip with
      | true =>
          have counting := sequenced.beep.counting beeping
          rw [Regs.rank, due, if_pos beeping] at none
          omega
      | false =>
          cases pausing : y.latches.attenteBip with
          | true => simp [Regs.rank, due, beeping, pausing] at none
          | false => exact ⟨rfl, rfl⟩
    have closed : y.latches.tempChoixBtn = false := by
      by_contra choice
      have busy := sequenced.busy (by simpa using choice)
      simp [idle] at busy
    exact Latches.ext idle.1 idle.2 closed
  · intro idle
    simp [Regs.rank, due, idle]

theorem Sequence.rank_beeping (sequence : Sequence ports x) {t : Nat}
    (silent : (ports (t + 1)).rings = false) (beeping : (x t).latches.activationBip = true) :
    (x (t + 1)).rank + 1 = (x t).rank := by
  have sequenced := sequence.sequenced t
  have running := sequence.running (t := t) fun idle => by simp [idle] at beeping
  have stepped := sequence.step_alone (sequence.once t running) silent
  have counting := sequenced.beep.counting beeping
  have counted := sequence.oneSec_beeping beeping
  have here : (x t).rank = 499999 - (x t).oneSec.qn.toNat +
      if (x t).latches.tempChoixBtn = true ∧ (x t).latches.attenteBip = false
        then 249999 + 499999 else 0 := if_pos beeping
  rw [sequence.re1sec_beeping beeping] at stepped
  rw [here]
  by_cases last : (x t).oneSec.qn.toNat + 1 = 49999999 / 100
  · -- the beep ends, and with it no pause is under way
    have waiting : (x t).latches.attenteBip = false := by
      by_contra pausing
      have order := sequenced.order (by simpa using pausing)
      have half := sequenced.pause.le
      omega
    have emptied := sequence.zeroFiveSec_silent waiting
    rw [sequence.re05sec_silent waiting, decide_eq_true last] at stepped
    cases choice : (x t).latches.tempChoixBtn <;>
      simp [Regs.rank, due, stepped, Latches.step, waiting, choice, emptied] <;> omega
  · rw [decide_eq_false last] at stepped
    cases pausing : (x t).latches.attenteBip with
    | true =>
        cases ends : (x t).re05secAtEdge (ports t) <;> rw [ends] at stepped <;>
          simp [Regs.rank, due, stepped, Latches.step, beeping, pausing, counted] <;> omega
    | false =>
        rw [sequence.re05sec_silent pausing] at stepped
        cases choice : (x t).latches.tempChoixBtn <;>
          simp [Regs.rank, due, stepped, Latches.step, beeping, pausing, choice, counted] <;> omega

theorem Sequence.rank_pausing (sequence : Sequence ports x) {t : Nat}
    (silent : (ports (t + 1)).rings = false) (quiet : (x t).latches.activationBip = false)
    (pausing : (x t).latches.attenteBip = true) : (x (t + 1)).rank + 1 = (x t).rank := by
  have sequenced := sequence.sequenced t
  have running := sequence.running (t := t) fun idle => by simp [idle] at pausing
  have stepped := sequence.step_alone (sequence.once t running) silent
  have counting := sequenced.pause.counting pausing
  have counted := sequence.zeroFiveSec_pausing pausing
  have emptied := sequence.oneSec_silent quiet
  have here : (x t).rank = 249999 - (x t).zeroFiveSec.qn.toNat + 499999 := by
    rw [Regs.rank, due, if_neg (by simp [quiet]), if_pos pausing]
  rw [sequence.re1sec_silent quiet, sequence.re05sec_pausing pausing] at stepped
  rw [here]
  by_cases last : (x t).zeroFiveSec.qn.toNat + 1 = 24999999 / 100
  · rw [decide_eq_true last] at stepped
    simp [Regs.rank, due, stepped, Latches.step, emptied]
    omega
  · rw [decide_eq_false last] at stepped
    simp [Regs.rank, due, stepped, Latches.step, quiet, pausing, counted]
    omega

theorem Sequence.rank_resting (sequence : Sequence ports x) {t : Nat}
    (silent : (ports (t + 1)).rings = false) (idle : (x t).latches = {}) :
    (x (t + 1)).latches = {} := by
  by_cases running' : (ports (t + 1)).razNI = true
  · rw [sequence.step_alone running' silent, sequence.re1sec_silent (by rw [idle]),
      sequence.re05sec_silent (by rw [idle]), idle]
    rfl
  · exact (sequence.sequenced (t + 1)).reset (by simpa using running')

theorem Sequence.rank_step (sequence : Sequence ports x) {t : Nat}
    (silent : (ports (t + 1)).rings = false) : (x (t + 1)).rank = (x t).rank - 1 := by
  cases beeping : (x t).latches.activationBip with
  | true =>
      have descends := sequence.rank_beeping silent beeping
      omega
  | false =>
      cases pausing : (x t).latches.attenteBip with
      | true =>
          have descends := sequence.rank_pausing silent beeping pausing
          omega
      | false =>
          have none : (x t).rank = 0 := by simp [Regs.rank, due, beeping, pausing]
          have idle := (sequence.sequenced t).rank_eq_zero_iff.mp none
          rw [none, (sequence.sequenced (t + 1)).rank_eq_zero_iff]
          exact sequence.rank_resting silent idle

theorem Sequence.rank_add (sequence : Sequence ports x) {t : Nat} (n : Nat)
    (silent : ∀ i < n, (ports (t + (i + 1))).rings = false) :
    (x (t + n)).rank = (x t).rank - n := by
  induction n with
  | zero => rfl
  | succ n ih =>
      have descends := sequence.rank_step (t := t + n) (silent n (Nat.lt_succ_self n))
      rw [ih fun i lt => silent i (Nat.lt_succ_of_lt lt)] at descends
      exact descends.trans (Nat.sub_sub _ _ _)

theorem Sequence.rests_iff (sequence : Sequence ports x) {t : Nat} (n : Nat)
    (silent : ∀ i < n, (ports (t + (i + 1))).rings = false) :
    (x (t + n)).latches = {} ↔ (x t).rank ≤ n := by
  rw [← (sequence.sequenced (t + n)).rank_eq_zero_iff, sequence.rank_add n silent,
    Nat.sub_eq_zero_iff_le]

end Rank

/-! ## No more beeps than codes -/

/-- A beep begins: the output is up and was not in the cycle before. -/
def starts (bip : Nat → Bool) : Nat → Bool
  | 0 => bip 0
  | t + 1 => bip (t + 1) && !bip t

section Count
variable {ports : Nat → Ports} {x : Nat → Regs}

theorem Latches.step_charged (rings opensChoice re1sec : Bool) {re05sec : Bool} {s : Latches}
    (choice : re05sec = true → s.tempChoixBtn = true) :
    ((s.step rings opensChoice re1sec re05sec).activationBip && !s.activationBip).toNat +
        (s.step rings opensChoice re1sec re05sec).tempChoixBtn.toNat ≤
      s.tempChoixBtn.toNat + rings.toNat + opensChoice.toNat := by
  rcases s with ⟨activation, attente, choix⟩
  cases re05sec with
  | true =>
      obtain rfl : choix = true := choice rfl
      cases activation <;> simp [Latches.step, Nat.add_assoc]
  | false =>
      cases re1sec <;> cases activation <;> cases choix <;> cases opensChoice <;> cases rings <;>
        simp [Latches.step]

theorem Sequence.start_charged (sequence : Sequence ports x) (t : Nat) :
    ((x (t + 1)).latches.activationBip && !(x t).latches.activationBip).toNat +
        (x (t + 1)).latches.tempChoixBtn.toNat ≤
      (x t).latches.tempChoixBtn.toNat + (ports (t + 1)).rings.toNat +
        (ports (t + 1)).opensChoice.toNat := by
  by_cases running' : (ports (t + 1)).razNI = true
  · have sequenced := sequence.sequenced t
    rw [sequence.latches_step running']
    exact Latches.step_charged _ _ _ fun ends =>
      sequenced.choice (sequenced.re05sec_iff.mp ends).2.1
  · have idle := (sequence.sequenced (t + 1)).reset (by simpa using running')
    simp [idle]

/-- The choice that is open is a beep still owed. -/
theorem Sequence.starts_le (sequence : Sequence ports x) (fresh : (x 0).latches = {}) (n : Nat) :
    Nat.count (fun t =>
          ((x (t + 1)).latches.activationBip && !(x t).latches.activationBip) = true) n +
        (x n).latches.tempChoixBtn.toNat ≤
      Nat.count (fun t => (ports (t + 1)).rings = true) n +
        Nat.count (fun t => (ports (t + 1)).opensChoice = true) n := by
  induction n with
  | zero => simp [fresh]
  | succ n ih =>
      have unit : ∀ b : Bool, (if b = true then 1 else 0) = b.toNat := by decide
      have charged := sequence.start_charged n
      simp only [Nat.count_succ, unit]
      omega

end Count

/-! ## Runs of the entity on its own -/

section Run
variable {k : Nat} {wave : Nat → Ports}

/-- From any cycle of a run, and without further codes, the sequencer rests after the
cycles that are due and not before; they are 1 249 997 at most. -/
theorem rests_when_due (plays : Plays k wave) (t n : Nat)
    (silent : ∀ i < n, (wave (t + (i + 1))).rings = false) :
    ((run wave (t + n)).signals.latches = {} ↔ (run wave t).signals.rank ≤ n) ∧
      (run wave t).signals.rank ≤ 1249997 := by
  have rests := plays.sequence.rests_iff (t := t + 1) n fun i lt => by
    rw [Nat.add_right_comm]
    exact silent i lt
  rw [Nat.add_right_comm] at rests
  rw [run_signals, run_signals]
  exact ⟨rests, due_le _ _ _⟩

/-- No beep without a code: up to any cycle there are at most as many beeps as codes
and long direction codes together. -/
theorem beeps_asked (plays : Plays k wave) (n : Nat) :
    Nat.count (fun t => starts (fun t => (run wave t).signals.bipO) t = true) n ≤
      Nat.count (fun t => (wave t).rings = true) n +
        Nat.count (fun t => (wave t).opensChoice = true) n := by
  have began : ∀ t, starts (fun t => (run wave t).signals.bipO) t =
      ((regsFrom wave (t + 1)).latches.activationBip &&
        !(regsFrom wave t).latches.activationBip) := by
    intro t
    cases t with
    | zero =>
        change (run wave 0).signals.bipO = _
        rw [run_signals]
        exact (Bool.and_true _).symm
    | succ t =>
        simp only [starts, run_signals]
        rfl
  have asked := plays.sequence.starts_le rfl n
  simp only [began]
  exact (Nat.le_add_right _ _).trans asked

end Run

theorem longPort_silent (i : Nat) : (longPort (2 + (i + 1))).rings = false :=
  (longPort_lone (i + 1)).alone _ (by omega) (Nat.le_refl _)

theorem longPort_rests : (run longPort (2 + 1249997)).signals.latches = {} := by
  have due := rests_when_due longPort_plays 2 1249997 fun i _ => longPort_silent i
  exact due.1.mpr due.2

theorem longPort_asks :
    Nat.count (fun t => starts (fun t => (run longPort t).signals.bipO) t = true) 3 ≤
      Nat.count (fun t => (longPort t).rings = true) 3 +
        Nat.count (fun t => (longPort t).opensChoice = true) 3 :=
  beeps_asked longPort_plays 3

end Voilier.GestionBip
