import Voilier.Primitives

/-!
# def_etats

The mode machine of the two sensors: continuous acquisition, or one acquisition
for each request.  Its next-state process leaves `next_st` unassigned on some
paths, which makes `next_st` a latch.
-/

set_option autoImplicit false

namespace Voilier.DefEtats

open DeltaCycle

inductive State where
  | stContinu
  | stStartAq
  | stAcquisition
  | stStopAq
deriving DecidableEq, Repr

structure Ports where
  clkI : Bool
  arstI : Bool
  continuI : Bool
  startStopI : Bool

@[ext]
structure Signals where
  currentSt : State := .stContinu
  nextSt : State := .stContinu
  dataValidO : Bool := false
  acquisitionO : Bool := false
deriving DecidableEq

structure Inputs where
  continuI : Bool
  startStopI : Bool
deriving DecidableEq

def inputs (p : Ports) : Inputs := ⟨p.continuI, p.startStopI⟩

/-- The body of the next-state process: `nextSt` is returned where no branch
assigns it. -/
def decode (i : Inputs) (currentSt nextSt : State) : State :=
  match currentSt with
  | .stContinu =>
      if i.continuI = false ∧ i.startStopI = false then .stStopAq
      else if i.continuI = false ∧ i.startStopI = true then .stAcquisition
      else nextSt
  | .stStartAq =>
      if i.startStopI = false then .stStopAq
      else if i.continuI = true then .stContinu
      else nextSt
  | .stAcquisition => .stStartAq
  | .stStopAq =>
      if i.startStopI = true then .stAcquisition
      else if i.continuI = true then .stContinu
      else nextSt

/-- `process(current_st, continu_i, start_stop_i)`. -/
def decodeProcess (p p' : Ports) (s s' : Signals) : State :=
  if event s.currentSt s'.currentSt || event p.continuI p'.continuI ||
      event p.startStopI p'.startStopI then
    decode (inputs p') s'.currentSt s'.nextSt
  else s'.nextSt

/-- `process(clk_i, arst_i)`. -/
def register (p p' : Ports) (s' : Signals) : State :=
  if event p.clkI p'.clkI || event p.arstI p'.arstI then
    if p'.arstI then .stContinu
    else if risingEdge p.clkI p'.clkI then s'.nextSt
    else s'.currentSt
  else s'.currentSt

def acquisition (currentSt : State) : Bool :=
  if currentSt = .stContinu then true
  else if currentSt = .stAcquisition then true
  else false

def dataValid (arstI : Bool) (currentSt : State) : Bool :=
  if currentSt = .stStopAq then false
  else if arstI then false
  else if currentSt = .stAcquisition then true
  else if currentSt = .stContinu then true
  else if currentSt = .stStartAq then true
  else false

def entity : Entity Ports Signals where
  delta p p' s s' :=
    { currentSt := register p p' s'
      nextSt := decodeProcess p p' s s'
      dataValidO := dataValid p'.arstI s'.currentSt
      acquisitionO := acquisition s'.currentSt }

/-! ## One clock cycle -/

structure Regs where
  currentSt : State := .stContinu
  nextSt : State := .stStopAq
deriving DecidableEq

def stable (arstI : Bool) (x : Regs) : Signals where
  currentSt := x.currentSt
  nextSt := x.nextSt
  dataValidO := dataValid arstI x.currentSt
  acquisitionO := acquisition x.currentSt

def Regs.Settled (i : Inputs) (x : Regs) : Prop := decode i x.currentSt x.nextSt = x.nextSt

def Regs.atEdge (arst : Bool) (x : Regs) : State := if arst then .stContinu else x.nextSt

def Regs.entered (arst arst' : Bool) (x : Regs) : State :=
  if arst' then .stContinu else x.atEdge arst

/-- The registers one cycle later.  The mode bits are registers of the same
clock: they are `i₂` when the state changes and become `i'` when a reset of their
own arrives. -/
def Regs.next (arst arst' : Bool) (i₂ i' : Inputs) (x : Regs) : Regs where
  currentSt := x.entered arst arst'
  nextSt := decode i' (x.entered arst arst') <| decode i' (x.atEdge arst) <|
    decode i₂ (x.atEdge arst) x.nextSt

@[simp] theorem decode_decode (i : Inputs) (c n : State) :
    decode i c (decode i c n) = decode i c n := by
  cases c <;> simp only [decode] <;> split_ifs <;> rfl

theorem Regs.next_settled (arst arst' : Bool) (i₂ i' : Inputs) (x : Regs) :
    (x.next arst arst' i₂ i').Settled i' := by
  simp [Regs.Settled, Regs.next]

theorem Regs.next_reset (arst : Bool) (i₂ i' : Inputs) (x : Regs) :
    (x.next arst true i₂ i').currentSt = .stContinu := rfl

/-- What the mode bits were before a reset cleared them as well leaves no trace. -/
theorem Regs.next_cleared {arst arst' : Bool} {i₂ i' : Inputs} (x : Regs)
    (agrees : i₂ = i' ∨ arst' = true ∧ i' = ⟨false, false⟩) :
    x.next arst arst' i₂ i' = x.next arst arst' i' i' := by
  rcases agrees with rfl | ⟨rfl, rfl⟩
  · rfl
  · simp [Regs.next, Regs.entered, decode]

section Rising
variable {ports : Nat → Ports} {arst arst₃ arst' : Bool} {i i₂ i' : Inputs} {x : Regs}

theorem rising_currentSt (clk : ∀ d, (ports d).clkI = wave [false] true d)
    (reset : ∀ d, (ports d).arstI = wave [arst, arst, arst, arst₃] arst' d)
    (kept : arst₃ = true → arst' = true) (start : Signals)
    (current : start.currentSt = x.currentSt) (next : start.nextSt = x.nextSt) (d : Nat) :
    (entity.trace ports start d).currentSt =
      wave [x.currentSt, x.currentSt, x.atEdge arst, x.atEdge arst, x.entered arst arst₃]
        (x.entered arst arst') d := by
  induction d with
  | zero => exact current
  | succ d ih =>
      cases d with
      | zero => exact current
      | succ d =>
          rw [trace_step]
          change register (ports d) (ports (d + 1)) _ = _
          unfold register
          rw [ih]
          rcases d with _ | _ | _ | _ | d
          · cases arst <;> simp [clk, reset, event, risingEdge, Regs.atEdge, next]
          · cases arst <;> simp [clk, reset, event, Regs.atEdge]
          · cases arst <;> cases arst₃ <;> simp [clk, reset, event, Regs.atEdge, Regs.entered]
          · cases arst₃ <;> cases arst' <;> simp_all [event, Regs.entered]
          · cases arst' <;> simp [clk, reset, event, Regs.entered]

/-- The process is woken by everything it reads and idempotent, so each delta
applies it to the values of the delta before. -/
theorem trace_nextSt (arstI : Bool) (settled : x.Settled (inputs (ports 0))) (d : Nat) :
    (entity.trace ports (stable arstI x) (d + 1)).nextSt =
      decode (inputs (ports d)) (entity.trace ports (stable arstI x) d).currentSt
        (entity.trace ports (stable arstI x) d).nextSt := by
  induction d with
  | zero => exact settled.symm
  | succ d ih =>
      rw [trace_step]
      change decodeProcess (ports d) (ports (d + 1)) _ _ = _
      unfold decodeProcess
      split_ifs with awake
      · rfl
      · simp only [Bool.or_eq_true, not_or, Bool.not_eq_true] at awake
        obtain ⟨⟨sameState, sameContinu⟩, sameStartStop⟩ := awake
        have same : inputs (ports d) = inputs (ports (d + 1)) := by
          simp only [inputs, eq_of_event_false sameContinu, eq_of_event_false sameStartStop]
        rw [ih, same, eq_of_event_false sameState, decode_decode]

theorem rising_nextSt (clk : ∀ d, (ports d).clkI = wave [false] true d)
    (reset : ∀ d, (ports d).arstI = wave [arst, arst, arst, arst₃] arst' d)
    (kept : arst₃ = true → arst' = true)
    (seen : ∀ d, inputs (ports d) = wave [i, i, i₂] i' d) (settled : x.Settled i) (d : Nat) :
    (entity.trace ports (stable arst x) (d + 6)).nextSt = (x.next arst arst' i₂ i').nextSt := by
  have settled' : x.Settled (inputs (ports 0)) := by
    rw [seen]
    exact settled
  have current := rising_currentSt clk reset kept (stable arst x) rfl rfl
  have step := trace_nextSt arst settled'
  have first : (entity.trace ports (stable arst x) 2).nextSt = x.nextSt := by
    rw [step 1, seen]
    exact settled
  induction d with
  | zero =>
      rw [step 5, step 4, step 3, step 2, first]
      simp only [seen, current, wave_succ, wave_zero, wave_nil]
      cases arst₃ with
      | false => simp [Regs.next, Regs.entered]
      | true => simp [Regs.next, Regs.entered, kept]
  | succ d ih =>
      rw [show d + 1 + 6 = d + 6 + 1 by omega, step, ih, seen, current]
      exact Regs.next_settled arst arst' i₂ i' x

theorem rising_stable (clk : ∀ d, (ports d).clkI = wave [false] true d)
    (reset : ∀ d, (ports d).arstI = wave [arst, arst, arst, arst₃] arst' d)
    (kept : arst₃ = true → arst' = true)
    (seen : ∀ d, inputs (ports d) = wave [i, i, i₂] i' d) (settled : x.Settled i)
    {d : Nat} (late : 6 ≤ d) :
    entity.trace ports (stable arst x) d = stable arst' (x.next arst arst' i₂ i') := by
  obtain ⟨d, rfl⟩ := Nat.exists_eq_add_of_le' late
  have current := rising_currentSt (x := x) clk reset kept (stable arst x) rfl rfl
  have valid := trace_assign entity ports (stable arst x) Signals.dataValidO
    (fun p s => dataValid p.arstI s.currentSt) (fun _ _ _ _ => rfl)
    (by simp [stable, reset]) (d + 5)
  have acquires := trace_assign entity ports (stable arst x) Signals.acquisitionO
    (fun _ s => acquisition s.currentSt) (fun _ _ _ _ => rfl) rfl (d + 5)
  rw [current, reset] at valid
  rw [current] at acquires
  exact Signals.ext (current (d + 6)) (rising_nextSt clk reset kept seen settled d) valid acquires

end Rising

theorem delta_quiet (p p' : Ports) (x : Regs) (noEdge : risingEdge p.clkI p'.clkI = false)
    (held : p'.arstI = true → x.currentSt = .stContinu) (same : inputs p = inputs p') :
    entity.delta p p' (stable p'.arstI x) (stable p'.arstI x) = stable p'.arstI x := by
  have current : register p p' (stable p'.arstI x) = x.currentSt := by
    unfold register
    split_ifs with _ reset rise
    · exact (held reset).symm
    · simp [noEdge] at rise
    · rfl
    · rfl
  have next : decodeProcess p p' (stable p'.arstI x) (stable p'.arstI x) = x.nextSt := by
    simp only [inputs, Inputs.mk.injEq] at same
    obtain ⟨sameContinu, sameStartStop⟩ := same
    simp [decodeProcess, sameContinu, sameStartStop, stable]
  change Signals.mk _ _ _ _ = Signals.mk _ _ _ _
  rw [Signals.mk.injEq]
  exact ⟨current, next, rfl, rfl⟩

end Voilier.DefEtats
