import Voilier.DefEtats

/-!
# Runs of def_etats

The case statement describes a machine with one register, in which a branch that
assigns nothing stays in its state.  The latch `next_st` plays that part in every
cycle but the one that releases the reset.
-/

set_option autoImplicit false

namespace Voilier.DefEtats

open DeltaCycle

/-- The transition of the case statement. -/
def successor (i : Inputs) (st : State) : State := decode i st st

/-- The latch holds the successor, as it always does outside st_continu. -/
def Regs.Latched (i : Inputs) (x : Regs) : Prop :=
  x.currentSt ≠ .stContinu → x.nextSt = successor i x.currentSt

theorem Regs.next_follows (i' : Inputs) (x : Regs) :
    (x.next false false i' i').nextSt = successor i' (x.next false false i' i').currentSt := by
  simp [Regs.next, Regs.entered, Regs.atEdge, successor]

theorem Regs.next_released (i' : Inputs) (x : Regs) :
    (x.next true false i' i').nextSt = decode i' .stContinu x.nextSt := by
  simp [Regs.next, Regs.entered, Regs.atEdge]

theorem Regs.next_latched (arst arst' : Bool) (i' : Inputs) (x : Regs) :
    (x.next arst arst' i' i').Latched i' := by
  intro running
  cases arst with
  | true => exact absurd (by cases arst' <;> rfl) running
  | false =>
      cases arst' with
      | true => exact absurd rfl running
      | false => exact x.next_follows i'

/-- Out of continuous mode st_continu assigns the latch too. -/
theorem Regs.Latched.follows {i : Inputs} {x : Regs} (latched : x.Latched i)
    (settled : x.Settled i) (single : i.continuI = false) :
    x.nextSt = successor i x.currentSt := by
  by_cases continuous : x.currentSt = .stContinu
  · rw [← settled, continuous]
    cases ss : i.startStopI <;> simp [decode, successor, single, ss]
  · exact latched continuous

/-- Out of reset the machine goes through the round trip of start/stop mode at most before
it settles in continuous mode. -/
theorem continu_of_steps {x : Nat → Regs} {arst : Nat → Bool} {i : Nat → Inputs} {n t : Nat}
    (step : ∀ t, x (t + 1) = (x t).next (arst t) (arst (t + 1)) (i (t + 1)) (i (t + 1)))
    (running : ∀ t ≤ n, arst t = false) (continuous : ∀ t ≤ n, i t = ⟨true, false⟩)
    (le : t + 4 ≤ n) : (x (t + 4)).currentSt = .stContinu := by
  have advance : ∀ u, u + 1 ≤ n →
      x (u + 1) = (x u).next false false ⟨true, false⟩ ⟨true, false⟩ := by
    intro u le
    rw [step u, running u (by omega), running (u + 1) le, continuous (u + 1) le]
  have moves : ∀ u, u + 2 ≤ n →
      (x (u + 2)).currentSt = successor ⟨true, false⟩ (x (u + 1)).currentSt := by
    intro u le
    have follows := (x u).next_follows ⟨true, false⟩
    rw [← advance u (by omega)] at follows
    rw [← follows, advance (u + 1) le]
    rfl
  rw [moves (t + 2) le, moves (t + 1) (by omega), moves t (by omega)]
  cases (x (t + 1)).currentSt <;> rfl

/-! ## The entity on its own -/

/-- The mode bits move with the registers, the reset one delta later, through the
inverter it comes from. -/
instance : Driven Ports where
  rising old next d :=
    if d = 0 then { old with clkI := false }
    else if d = 1 then { old with clkI := true }
    else if d = 2 then { next with clkI := true, arstI := old.arstI }
    else { next with clkI := true }
  falling next d := { next with clkI := decide (d = 0) }

def Regs.step (p p' : Ports) (x : Regs) : Regs :=
  x.next p.arstI p'.arstI (inputs p') (inputs p')

structure Regs.Wf (p : Ports) (x : Regs) : Prop where
  held : p.arstI = true → x.currentSt = .stContinu
  settled : x.Settled (inputs p)
  latched : x.Latched (inputs p)

theorem Regs.step_wf (p p' : Ports) (x : Regs) : (x.step p p').Wf p' where
  held reset := by
    rw [Regs.step, reset]
    rfl
  settled := x.next_settled _ _ _ _
  latched := x.next_latched _ _ _

theorem falling_quiet {p : Ports} {x : Regs} (wf : x.Wf p) (d : Nat) :
    entity.delta (Driven.falling p d) (Driven.falling p (d + 1)) (stable p.arstI x)
      (stable p.arstI x) = stable p.arstI x :=
  delta_quiet (Driven.falling p d) (Driven.falling p (d + 1)) x (risingEdge_falling d) wf.held rfl

theorem cycle_eq (p p' : Ports) (x : Regs) (wf : x.Wf p) :
    entity.cycle ⟨p, stable p.arstI x⟩ p' = ⟨p', stable p'.arstI (x.step p p')⟩ := by
  have clk : ∀ d, (Driven.rising p p' d).clkI = wave [false] true d := by
    intro d
    rcases d with _ | _ | _ | d <;> rfl
  have reset : ∀ d, (Driven.rising p p' d).arstI =
      wave [p.arstI, p.arstI, p.arstI, p'.arstI] p'.arstI d := by
    intro d
    rcases d with _ | _ | _ | _ | d <;> rfl
  have seen : ∀ d, inputs (Driven.rising p p' d) =
      wave [inputs p, inputs p, inputs p'] (inputs p') d := by
    intro d
    rcases d with _ | _ | _ | d <;> rfl
  have risen : entity.rise ⟨p, stable p.arstI x⟩ p' = stable p'.arstI (x.step p p') :=
    rising_stable clk reset id seen wf.settled (by decide)
  exact cycle_of_edges risen (falling_quiet (x.step_wf p p'))

theorem implements : Implements entity (fun p x => stable p.arstI x) Regs.step Regs.Wf where
  cycle := cycle_eq
  wf p p' x _ := x.step_wf p p'

/-- The registers after every process has run once on the inputs of power-up. -/
def Regs.start (p : Ports) : Regs := ⟨.stContinu, successor (inputs p) .stContinu⟩

theorem Regs.start_wf (p : Ports) : (Regs.start p).Wf p where
  held _ := rfl
  settled := decode_decode (inputs p) .stContinu .stContinu
  latched running := absurd rfl running

def powerUp (p : Ports) : Snapshot Ports Signals := ⟨p, stable p.arstI (Regs.start p)⟩

/-- The run whose first cycle is power-up. -/
def run (wave : Nat → Ports) : Nat → Snapshot Ports Signals
  | 0 => powerUp (wave 0)
  | t + 1 => entity.cycle (run wave t) (wave (t + 1))

def regs (wave : Nat → Ports) : Nat → Regs
  | 0 => Regs.start (wave 0)
  | t + 1 => (regs wave t).step (wave t) (wave (t + 1))

theorem regs_wf (wave : Nat → Ports) (t : Nat) : (regs wave t).Wf (wave t) := by
  cases t with
  | zero => exact Regs.start_wf (wave 0)
  | succ t => exact (regs wave t).step_wf (wave t) (wave (t + 1))

theorem run_eq (wave : Nat → Ports) (t : Nat) :
    run wave t = ⟨wave t, stable (wave t).arstI (regs wave t)⟩ := by
  induction t with
  | zero => rfl
  | succ t ih =>
      rw [run, ih]
      exact cycle_eq (wave t) (wave (t + 1)) (regs wave t) (regs_wf wave t)

/-! ## The reference machine -/

/-- The machine with a single state register. -/
def reference (wave : Nat → Ports) : Nat → State
  | 0 => .stContinu
  | t + 1 =>
      if (wave (t + 1)).arstI || (wave t).arstI then .stContinu
      else successor (inputs (wave t)) (reference wave t)

/-- Cycle `t` ends a reset, and two running cycles follow of which the first asks
for continuous mode. -/
structure ReleasesContinuous (wave : Nat → Ports) (t : Nat) : Prop where
  reset : (wave t).arstI = true
  released : (wave (t + 1)).arstI = false
  running : (wave (t + 2)).arstI = false
  continuous : (wave (t + 1)).continuI = true

/-- From the release of a reset in cycle `t` up to cycle `u`, continuous mode is
asked for. -/
structure Continuous (wave : Nat → Ports) (t u : Nat) : Prop where
  reset : (wave t).arstI = true
  later : t < u
  running : ∀ v, t < v → v ≤ u → (wave v).arstI = false
  continuous : ∀ v, t < v → v ≤ u → (wave v).continuI = true

/-- The states are those of the reference machine, so that a release in continuous
mode keeps both outputs. -/
structure FollowsReference (wave : Nat → Ports) : Prop where
  states : ∀ t, (run wave t).signals.currentSt = reference wave t
  outputs : ∀ t u, Continuous wave t u →
    (run wave u).signals.dataValidO = true ∧ (run wave u).signals.acquisitionO = true

section Reference
variable {wave : Nat → Ports}

theorem successor_continuous {i : Inputs} (continuous : i.continuI = true) :
    successor i .stContinu = .stContinu := by
  simp [successor, decode, continuous]

theorem reference_continuous {t u : Nat} (continuous : Continuous wave t u) :
    reference wave u = .stContinu := by
  obtain ⟨reset, later, running, asked⟩ := continuous
  induction u with
  | zero => omega
  | succ u ih =>
      rw [reference]
      by_cases first : u = t
      · rw [first, reset, Bool.or_true, if_pos rfl]
      · have before : t < u := by omega
        have still := ih before (fun v after le => running v after (by omega))
          fun v after le => asked v after (by omega)
        rw [running (u + 1) later (Nat.le_refl _), running u before (by omega), still]
        exact successor_continuous (asked u before (by omega))

theorem reset_currentSt {t : Nat} (reset : (wave t).arstI = true) :
    (regs wave t).currentSt = .stContinu ∧ reference wave t = .stContinu := by
  refine ⟨(regs_wf wave t).held reset, ?_⟩
  cases t with
  | zero => rfl
  | succ t => rw [reference, reset, Bool.true_or, if_pos rfl]

/-- The latch after the release of a reset. -/
theorem released_nextSt {t : Nat} (reset : (wave t).arstI = true)
    (released : (wave (t + 1)).arstI = false) :
    (regs wave (t + 1)).nextSt =
      decode (inputs (wave (t + 1))) .stContinu (regs wave t).nextSt := by
  rw [regs, Regs.step, reset, released]
  exact Regs.next_released _ _

theorem running_nextSt {t : Nat} (running : (wave t).arstI = false)
    (running' : (wave (t + 1)).arstI = false) :
    (regs wave (t + 1)).nextSt =
      successor (inputs (wave (t + 1))) (regs wave (t + 1)).currentSt := by
  rw [regs, Regs.step, running, running']
  exact Regs.next_follows _ _

theorem running_currentSt {t : Nat} (running : (wave t).arstI = false)
    (running' : (wave (t + 1)).arstI = false) :
    (regs wave (t + 1)).currentSt = (regs wave t).nextSt := by
  rw [regs, Regs.step, running, running']
  rfl

/-- One step of the refinement: the latch holds the successor unless a release in
continuous mode finds it with something else. -/
theorem nextSt_follows {t : Nat} (running : (wave t).arstI = false)
    (running' : (wave (t + 1)).arstI = false)
    (clean : ∀ u, ReleasesContinuous wave u → (regs wave u).nextSt = .stContinu) :
    (regs wave t).nextSt = successor (inputs (wave t)) (regs wave t).currentSt := by
  cases t with
  | zero => rfl
  | succ t =>
      cases reset : (wave t).arstI with
      | false => exact running_nextSt reset running
      | true =>
          have entered : (regs wave (t + 1)).currentSt = .stContinu := by
            rw [regs, Regs.step, reset, running]
            rfl
          rw [released_nextSt reset running, entered]
          cases continuous : (wave (t + 1)).continuI with
          | true =>
              rw [clean t ⟨reset, running, running', continuous⟩]
              rfl
          | false =>
              cases ss : (wave (t + 1)).startStopI <;>
                simp [decode, successor, inputs, continuous, ss]

theorem currentSt_eq_reference
    (clean : ∀ u, ReleasesContinuous wave u → (regs wave u).nextSt = .stContinu) (t : Nat) :
    (regs wave t).currentSt = reference wave t := by
  induction t with
  | zero => rfl
  | succ t ih =>
      cases reset' : (wave (t + 1)).arstI with
      | true =>
          obtain ⟨entered, entered'⟩ := reset_currentSt reset'
          rw [entered, entered']
      | false =>
          rw [reference, reset', Bool.false_or]
          cases reset : (wave t).arstI with
          | true =>
              rw [regs, Regs.step, reset, reset']
              rfl
          | false =>
              rw [running_currentSt reset reset', nextSt_follows reset reset' clean, ih]
              rfl

/-- The entity is its reference machine exactly when every release in continuous
mode finds st_continu in the latch. -/
theorem follows_reference_iff (wave : Nat → Ports) :
    FollowsReference wave ↔
      ∀ t, ReleasesContinuous wave t → (run wave t).signals.nextSt = .stContinu := by
  simp only [run_eq]
  constructor
  · rintro ⟨states, -⟩ t release
    obtain ⟨reset, released, running, continuous⟩ := release
    have state := states (t + 2)
    rw [run_eq] at state
    change (regs wave (t + 2)).currentSt = _ at state
    rw [running_currentSt released running, released_nextSt reset released, reference, running,
      released, (show reference wave (t + 1) = .stContinu by simp [reference, reset])] at state
    change _ = successor _ _ at state
    rw [successor_continuous continuous] at state
    change (regs wave t).nextSt = .stContinu
    simpa [decode, inputs, continuous] using state
  · intro clean
    have states := currentSt_eq_reference clean
    constructor
    · intro t
      rw [run_eq]
      exact states t
    · intro t u continuous
      have entered := (states u).trans (reference_continuous continuous)
      have running := continuous.running u continuous.later (Nat.le_refl u)
      rw [run_eq]
      simp [stable, entered, running, dataValid, acquisition]

end Reference

/-- The bench's release: the reset is asserted with the mode bits low, and released
with `continu_i`. -/
def releaseWave (t : Nat) : Ports := ⟨false, decide (t < 1), decide (1 ≤ t), false⟩

theorem release_leaves_continu :
    ¬ (∀ wave t, (run wave t).signals.currentSt = reference wave t) ∧
      ¬ ∀ wave t u, Continuous wave t u →
        (run wave u).signals.dataValidO = true ∧ (run wave u).signals.acquisitionO = true := by
  constructor
  · intro states
    exact absurd (states releaseWave 2) (by rw [run_eq]; decide)
  · intro outputs
    have continuous : Continuous releaseWave 0 2 := by
      refine ⟨rfl, by decide, fun v after _ => ?_, fun v after _ => ?_⟩
      · exact decide_eq_false (by omega)
      · exact decide_eq_true (by omega)
    exact absurd (outputs releaseWave 0 2 continuous).1 (by rw [run_eq]; decide)

end Voilier.DefEtats
