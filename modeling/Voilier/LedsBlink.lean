import Voilier.GestionLeds

/-!
# The blink of the STBY led

The two flags of the blink are updated in standby only, but the delays they enable
run on in AUTO, where their pulses are ignored: a delay that is not heard starts
over.  Back in standby, the led is never further from its next change than one
whole delay.
-/

set_option autoImplicit false

namespace Voilier.GestionLeds

open DeltaCycle

/-! ## The leds on their own -/

/-- `raz_n_i` and the buttons move with the registers, the mode and the codes one
delta later, as concurrent assignments of registers do. -/
instance : DeltaCycle.Driven Ports where
  rising old next d :=
    if d = 0 then { old with clkI := false }
    else if d = 1 then { old with clkI := true }
    else if d = 2 then
      { old with
        clkI := true
        razNI := next.razNI
        btnBabordI := next.btnBabordI
        btnTribordI := next.btnTribordI }
    else { next with clkI := true }
  falling next d := { next with clkI := decide (d = 0) }

section Cycle
variable {p p' : Ports} {x : Regs}

theorem rises_driven (p p' : Ports) : Rises (DeltaCycle.Driven.rising p p') p p' p' where
  clk d := by rcases d with _ | _ | _ | d <;> rfl
  razN d := by rcases d with _ | _ | _ | d <;> rfl
  btnBabord d := by rcases d with _ | _ | _ | d <;> rfl
  btnTribord d := by rcases d with _ | _ | _ | d <;> rfl
  mode d := by rcases d with _ | _ | _ | _ | d <;> rfl
  babord d := by rcases d with _ | _ | _ | _ | d <;> rfl
  tribord d := by rcases d with _ | _ | _ | _ | d <;> rfl
  code d := by rcases d with _ | _ | _ | _ | d <;> rfl
  noReset _ := ⟨rfl, rfl, rfl⟩

theorem delta_falling (held : x.Held p) (previous : Lamps) (d : Nat) :
    entity.delta (DeltaCycle.Driven.falling p d) (DeltaCycle.Driven.falling p (d + 1))
        (stable p { x with lamps := previous }) (stable p x) =
      stable p (if d = 0 then x.fall p else x) := by
  have quiet := delta_quiet (DeltaCycle.Driven.falling p d) (DeltaCycle.Driven.falling p (d + 1))
    x previous held (risingEdge_falling d) rfl rfl rfl
  cases d with
  | zero => exact quiet
  | succ d => exact quiet

theorem falling_stable (held : x.Held p) (d : Nat) :
    entity.trace (DeltaCycle.Driven.falling p) (stable p x) (d + 2) = stable p (x.fall p) := by
  have fallen : (x.fall p).Held p := held
  apply trace_once
  · exact delta_falling held x.lamps 0
  · exact delta_falling fallen x.lamps 1
  · intro d
    exact delta_falling fallen (x.fall p).lamps (d + 2)

theorem cycle_eq (p p' : Ports) (x : Regs) (held : x.Held p) :
    entity.cycle ⟨p, stable p x⟩ p' = ⟨p', stable p' (x.next p p' p')⟩ := by
  have risen : entity.rise ⟨p, stable p x⟩ p' = stable p' (x.rise p p' p') :=
    rising_stable (rises_driven p p') held (by decide)
  rw [Entity.cycle, risen, settleDepth, falling_stable (x.rise_held p p' p')]
  rfl

end Cycle

def Regs.step (p p' : Ports) (x : Regs) : Regs := x.next p p' p'

theorem implements : Implements entity stable Regs.step fun p x => x.Held p where
  cycle := cycle_eq
  wf p p' x _ := x.next_held p p' p'

def Regs.run (p : Ports) (wave : Nat → Ports) (x : Regs) : Nat → Regs :=
  runRegs Regs.step p wave x

/-! ## The two flags -/

def Lamps.Opposite (s : Lamps) : Prop := s.eteindLedStby = !s.allumeLedStby

/-- What one evaluation of the led process makes of `allume_led_stby`. -/
def Inputs.allume (i : Inputs) (allume : Bool) : Bool :=
  if i.modeLedsI = true then allume
  else if i.reRst05sec = true then true
  else if i.reRst1sec = true then false
  else allume

theorem standbyLamps_flags (i : Inputs) (s : Lamps) :
    (standbyLamps i s).allumeLedStby =
        (if i.reRst05sec = true then true else if i.reRst1sec = true then false
          else s.allumeLedStby) ∧
      (standbyLamps i s).eteindLedStby =
        (if i.reRst05sec = true then false else if i.reRst1sec = true then true
          else s.eteindLedStby) := by
  unfold standbyLamps
  simp only [apply_ite Lamps.allumeLedStby, apply_ite Lamps.eteindLedStby, ite_self, and_self]

theorem autoLamps_flags (i : Inputs) (s : Lamps) :
    (autoLamps i s).allumeLedStby = s.allumeLedStby ∧
      (autoLamps i s).eteindLedStby = s.eteindLedStby := by
  unfold autoLamps
  simp only [apply_ite Lamps.allumeLedStby, apply_ite Lamps.eteindLedStby, ite_self, and_self]

theorem lampsBody_allume (i : Inputs) (s : Lamps) :
    (lampsBody i s).allumeLedStby = i.allume s.allumeLedStby := by
  unfold lampsBody Inputs.allume
  cases i.modeLedsI with
  | true => exact (autoLamps_flags i s).1
  | false => exact (standbyLamps_flags i s).1

theorem lampsBody_opposite (i : Inputs) {s : Lamps} (opposite : s.Opposite) :
    (lampsBody i s).Opposite := by
  unfold Lamps.Opposite at opposite ⊢
  unfold lampsBody
  split_ifs
  · rw [(standbyLamps_flags i s).1, (standbyLamps_flags i s).2]
    split_ifs
    · rfl
    · rfl
    · exact opposite
  · rw [(autoLamps_flags i s).1, (autoLamps_flags i s).2]
    exact opposite

theorem lampsBody_ledSTBYO {i : Inputs} (standby : i.modeLedsI = false) (s : Lamps) :
    (lampsBody i s).ledSTBYO = s.allumeLedStby := by
  unfold lampsBody standbyLamps
  dsimp only
  rw [if_pos standby]
  cases lit : s.allumeLedStby with
  | true => rfl
  | false => rfl

theorem ledProcess_opposite (p p' : Ports) (s : Signals) {s' : Signals}
    (opposite : s'.lamps.Opposite) : (ledProcess p p' s s').Opposite := by
  unfold ledProcess
  split_ifs
  · exact lampsBody_opposite _ opposite
  · exact opposite

/-- The flags are opposite in every delta. -/
theorem trace_opposite (ports : Nat → Ports) {start : Signals} (opposite : start.lamps.Opposite)
    (d : Nat) : (entity.trace ports start d).lamps.Opposite := by
  induction d using twoStep with
  | zero => exact opposite
  | one => exact opposite
  | step d _ ih =>
      rw [trace_step]
      exact ledProcess_opposite _ _ _ ih

theorem respond_allume (i i' : Inputs) (s : Lamps) :
    (respond i i' s).allumeLedStby =
      if moved i i' = true then i'.allume s.allumeLedStby else s.allumeLedStby := by
  unfold respond
  split_ifs
  · exact lampsBody_allume i' s
  · rfl

theorem respond_opposite (i i' : Inputs) {s : Lamps} (opposite : s.Opposite) :
    (respond i i' s).Opposite := by
  unfold respond
  split_ifs
  · exact lampsBody_opposite i' opposite
  · exact opposite

/-- An evaluation after which `allume_led_stby` is what it was. -/
def Inputs.Keeps (i : Inputs) (allume : Bool) : Prop := i.allume allume = allume

theorem respond_keeps (i : Inputs) {i' : Inputs} {s : Lamps} {allume : Bool}
    (keeps : i'.Keeps allume) (same : s.allumeLedStby = allume) :
    (respond i i' s).allumeLedStby = allume := by
  rw [respond_allume, same, keeps, ite_self]

theorem Inputs.keeps_silent {i : Inputs} (silent1 : i.reRst1sec = false)
    (silent05 : i.reRst05sec = false) (allume : Bool) : i.Keeps allume := by
  simp [Inputs.Keeps, Inputs.allume, silent1, silent05]

theorem Inputs.keeps_allume (i : Inputs) (allume : Bool) : i.Keeps (i.allume allume) := by
  unfold Inputs.Keeps Inputs.allume
  split_ifs <;> rfl

/-- A flag follows the pulse of the delay it enables, the other one being silent. -/
theorem Inputs.allume_eq {i : Inputs} {allume : Bool}
    (lit : i.reRst1sec = true → allume = true) (dark : i.reRst05sec = true → allume = false) :
    i.allume allume =
      if i.modeLedsI = true then allume
      else if allume = true then !i.reRst1sec else i.reRst05sec := by
  unfold Inputs.allume
  cases i.modeLedsI with
  | true => rfl
  | false =>
      cases allume with
      | true =>
          have silent : i.reRst05sec = false := by
            by_contra raised
            exact absurd (dark (by simpa using raised)) (by decide)
          rw [silent]
          cases i.reRst1sec <;> rfl
      | false =>
          have silent : i.reRst1sec = false := by
            by_contra raised
            exact absurd (lit (by simpa using raised)) (by decide)
          rw [silent]
          cases i.reRst05sec <;> rfl

section Step
variable {p p₃ p' : Ports} {x : Regs}

theorem next_opposite (opposite : x.lamps.Opposite) :
    (x.next p p₃ p').lamps.Opposite := by
  refine lampsBody_opposite _ ?_
  apply_rules [respond_opposite, lampsBody_opposite]

theorem final_keeps (x : Regs) (p p₃ p' : Ports) (allume : Bool) :
    (x.phases p p₃ p').final.Keeps ((x.phases p p₃ p').pulses.allume allume) := by
  cases running' : p'.razNI with
  | true =>
      have same : (x.phases p p₃ p').final.allume = (x.phases p p₃ p').pulses.allume := by
        funext a
        simp [Inputs.allume, Regs.phases, Regs.nextAllume, Regs.nextEteindre, running',
          Pulse.re_running]
      unfold Inputs.Keeps
      rw [same]
      exact Inputs.keeps_allume _ allume
  | false =>
      apply Inputs.keeps_silent
      · simp [Regs.phases, Regs.nextAllume, running', Pulse.re_reset]
      · simp [Regs.phases, Regs.nextEteindre, running', Pulse.re_reset]

/-- Once the old pulses have had their effect, only the new ones change the flag. -/
theorem rise_allume (spent : (x.inputs p).Keeps x.lamps.allumeLedStby) :
    (x.rise p p₃ p').lamps.allumeLedStby =
      (x.phases p p₃ p').pulses.allume x.lamps.allumeLedStby := by
  have pulses : ∀ s : Lamps, s.allumeLedStby = x.lamps.allumeLedStby →
      (respond (x.phases p p₃ p').cleared (x.phases p p₃ p').pulses s).allumeLedStby =
        (x.phases p p₃ p').pulses.allume x.lamps.allumeLedStby := by
    intro s same
    rw [respond_allume, same]
    by_cases awake : moved (x.phases p p₃ p').cleared (x.phases p p₃ p').pulses = true
    · exact if_pos awake
    · rw [if_neg awake]
      -- without an event there is no pulse
      have silent : (x.phases p p₃ p').pulses.reRst1sec = false ∧
          (x.phases p p₃ p').pulses.reRst05sec = false := by
        have cleared : (x.phases p p₃ p').cleared.reRst1sec = false ∧
            (x.phases p p₃ p').cleared.reRst05sec = false := ⟨rfl, rfl⟩
        simp only [moved, Bool.or_eq_true, not_or, Bool.not_eq_true] at awake
        rw [← eq_of_event_false awake.1.1.1.2, ← eq_of_event_false awake.1.1.2]
        exact cleared
      exact (Inputs.keeps_silent silent.1 silent.2 _).symm
  have before : (lampsBody (x.phases p p₃ p').before x.lamps).allumeLedStby =
      x.lamps.allumeLedStby := (lampsBody_allume _ _).trans spent
  have buttons := respond_keeps (x.phases p p₃ p').before
    (show (x.phases p p₃ p').buttons.Keeps x.lamps.allumeLedStby from spent) before
  have codes := respond_keeps (x.phases p p₃ p').buttons
    (show (x.phases p p₃ p').codes.Keeps x.lamps.allumeLedStby from
      Inputs.keeps_silent rfl rfl _) buttons
  have cleared := respond_keeps (x.phases p p₃ p').codes
    (show (x.phases p p₃ p').cleared.Keeps x.lamps.allumeLedStby from
      Inputs.keeps_silent rfl rfl _) codes
  exact respond_keeps (x.phases p p₃ p').pulses (final_keeps x p p₃ p' x.lamps.allumeLedStby)
    (pulses _ cleared)

theorem next_allume (spent : (x.inputs p).Keeps x.lamps.allumeLedStby) :
    (x.next p p₃ p').lamps.allumeLedStby =
      (x.phases p p₃ p').pulses.allume x.lamps.allumeLedStby := by
  change (lampsBody (x.phases p p₃ p').final (x.rise p p₃ p').lamps).allumeLedStby = _
  rw [lampsBody_allume, rise_allume spent]
  exact final_keeps x p p₃ p' _

theorem next_ledSTBYO (spent : (x.inputs p).Keeps x.lamps.allumeLedStby)
    (standby : p'.modeLedsI = false) :
    (x.next p p₃ p').lamps.ledSTBYO = (x.next p p₃ p').lamps.allumeLedStby := by
  rw [next_allume spent, ← rise_allume spent]
  exact lampsBody_ledSTBYO standby (x.rise p p₃ p').lamps

/-! ## The two delays -/

/-- Each flag enables one delay, and in standby the pulse of a delay has withdrawn
its flag. -/
structure Regs.Blinks (p : Ports) (x : Regs) : Prop where
  opposite : x.lamps.Opposite
  allume : x.allume.Bounded (49999999 / 100) x.lamps.allumeLedStby
  eteindre : x.eteindre.Bounded (24999999 / 100) x.lamps.eteindLedStby
  allumeRuns : p.modeLedsI = false → x.lamps.allumeLedStby = true →
    x.allume.qn.toNat < 49999999 / 100
  eteindreRuns : p.modeLedsI = false → x.lamps.eteindLedStby = true →
    x.eteindre.qn.toNat < 24999999 / 100

theorem Regs.Blinks.spent (blinks : x.Blinks p) :
    (x.inputs p).Keeps x.lamps.allumeLedStby := by
  have opposite : x.lamps.eteindLedStby = !x.lamps.allumeLedStby := blinks.opposite
  have allume := blinks.allumeRuns
  have eteindre := blinks.eteindreRuns
  unfold Inputs.Keeps Inputs.allume
  split_ifs with auto half one
  · rfl
  · -- the pulse of the dark delay has lit the led
    by_contra dark
    have off : x.lamps.allumeLedStby = false := by simpa using dark
    have below := eteindre (by simpa [Regs.inputs] using auto) (by simp [opposite, off])
    exact absurd (Pulse.le_of_re half) (Nat.not_le.mpr below)
  · by_contra lit
    have on : x.lamps.allumeLedStby = true := by simpa using lit
    have below := allume (by simpa [Regs.inputs] using auto) on
    exact absurd (Pulse.le_of_re one) (Nat.not_le.mpr below)
  · rfl

theorem Regs.Blinks.next_flag (blinks : x.Blinks p) (p₃ p' : Ports) :
    (x.next p p₃ p').lamps.allumeLedStby =
      if p'.modeLedsI = true then x.lamps.allumeLedStby
      else if x.lamps.allumeLedStby = true then
        !x.allume.reAtEdge (49999999 / 100) (!p.razNI) x.lamps.allumeLedStby
      else x.eteindre.reAtEdge (24999999 / 100) (!p.razNI) x.lamps.eteindLedStby := by
  have opposite : x.lamps.eteindLedStby = !x.lamps.allumeLedStby := blinks.opposite
  have one := Pulse.reAtEdge_iff (!p.razNI) x.lamps.allumeLedStby (by decide) (by decide)
    blinks.allume.le
  have half := Pulse.reAtEdge_iff (!p.razNI) x.lamps.eteindLedStby (by decide) (by decide)
    blinks.eteindre.le
  rw [next_allume blinks.spent]
  refine Inputs.allume_eq (i := (x.phases p p₃ p').pulses) (fun raised => ?_) fun raised => ?_
  · exact (one.mp raised).2.1
  · simpa [opposite] using (half.mp raised).2.1

theorem Regs.Blinks.next (blinks : x.Blinks p) (p₃ p' : Ports) :
    (x.next p p₃ p').Blinks p' := by
  have flag := blinks.next_flag p₃ p'
  have before : x.lamps.eteindLedStby = !x.lamps.allumeLedStby := blinks.opposite
  have after : (x.next p p₃ p').lamps.eteindLedStby =
      !(x.next p p₃ p').lamps.allumeLedStby := next_opposite blinks.opposite
  refine ⟨after, ?_, ?_, fun standby => ?_, fun standby => ?_⟩
  · refine blinks.allume.next (by decide) (by decide) fun _ lit dark => ?_
    rw [dark] at flag
    by_cases auto : p'.modeLedsI = true
    · simp [auto, lit] at flag
    · simpa [auto, lit] using flag
  · refine blinks.eteindre.next (by decide) (by decide) fun _ dark lit => ?_
    have off : x.lamps.allumeLedStby = false := by simpa [dark] using before
    have on : (x.next p p₃ p').lamps.allumeLedStby = true := by simpa [lit] using after
    rw [on] at flag
    by_cases auto : p'.modeLedsI = true
    · simp [auto, off] at flag
    · simpa [auto, off] using flag
  · refine (blinks.allume.timed_next (by decide) (by decide) fun _ lit => ?_).counting
    simpa [standby, lit] using flag
  · refine (blinks.eteindre.timed_next (by decide) (by decide) fun _ dark => ?_).counting
    have off : x.lamps.allumeLedStby = false := by simpa [dark] using before
    rw [after, flag]
    simp [standby, off]

end Step

/-! ## Runs -/

def powerUp (p : Ports) : Snapshot Ports Signals := ⟨p, stable p {}⟩

def run (p : Ports) (wave : Nat → Ports) (t : Nat) : Snapshot Ports Signals :=
  entity.run (powerUp p) wave t

/-- A cycle of the blink: standby, out of reset. -/
structure Ports.Blinking (p : Ports) : Prop where
  standby : p.modeLedsI = false
  running : p.razNI = true

section Runs
variable {p : Ports} {wave : Nat → Ports}

theorem powerUp_held (p : Ports) : Regs.Held p {} :=
  ⟨fun _ => ⟨rfl, rfl, rfl⟩, fun _ => ⟨rfl, rfl⟩⟩

theorem powerUp_blinks (p : Ports) : Regs.Blinks p {} where
  opposite := rfl
  allume := ⟨by decide, fun _ => Or.inl rfl⟩
  eteindre := ⟨by decide, fun _ => Or.inl rfl⟩
  allumeRuns _ _ := by decide
  eteindreRuns _ _ := by decide

theorem run_eq (p : Ports) (wave : Nat → Ports) (t : Nat) :
    run p wave t = ⟨wave t, stable (wave t) (Regs.run p wave {} t)⟩ :=
  implements.run_eq (powerUp_held p) wave t

theorem run_blinks (p : Ports) (wave : Nat → Ports) (t : Nat) :
    (Regs.run p wave {} t).Blinks (wave t) := by
  induction t with
  | zero => exact (powerUp_blinks p).next (wave 0) (wave 0)
  | succ t ih => exact ih.next (wave (t + 1)) (wave (t + 1))

/-- In standby the led shows the flag at the end of each cycle. -/
theorem run_ledSTBYO {t : Nat} (standby : (wave t).modeLedsI = false) :
    (run p wave t).signals.lamps.ledSTBYO = (Regs.run p wave {} t).lamps.allumeLedStby := by
  rw [run_eq]
  cases t with
  | zero => exact next_ledSTBYO (powerUp_blinks p).spent standby
  | succ t => exact next_ledSTBYO (run_blinks p wave t).spent standby

/-- A stretch of the blink in which the led shows `shown`. -/
def Shows (p : Ports) (wave : Nat → Ports) (shown : Bool) (m n : Nat) : Prop :=
  ∀ j < n, (wave (m + j)).Blinking ∧ (run p wave (m + j)).signals.lamps.ledSTBYO = shown

variable {m n : Nat}

theorem Shows.le_allume (lit : Shows p wave true m n) : n ≤ 499999 := by
  have flag : ∀ j < n, (Regs.run p wave {} (m + j)).lamps.allumeLedStby = true := by
    intro j lt
    rw [← run_ledSTBYO (lit j lt).1.standby]
    exact (lit j lt).2
  refine Pulse.enabled_le (x := fun j => (Regs.run p wave {} (m + j)).allume)
    (by decide) (fun j lt => ?_) fun j lt => ?_
  · have step : (Regs.run p wave {} (m + (j + 1))).allume =
        (Regs.run p wave {} (m + j)).nextAllume (wave (m + j)) (wave (m + (j + 1))) := rfl
    rw [step, Regs.nextAllume, flag j (by omega), (lit j (by omega)).1.running,
      (lit (j + 1) lt).1.running]
    rfl
  · exact (run_blinks p wave (m + j)).allumeRuns (lit j lt).1.standby (flag j lt)

theorem Shows.le_eteindre (dark : Shows p wave false m n) : n ≤ 249999 := by
  have flag : ∀ j < n, (Regs.run p wave {} (m + j)).lamps.eteindLedStby = true := by
    intro j lt
    have off := (dark j lt).2
    rw [run_ledSTBYO (dark j lt).1.standby] at off
    have opposite := (run_blinks p wave (m + j)).opposite
    rw [Lamps.Opposite, off] at opposite
    exact opposite
  refine Pulse.enabled_le (x := fun j => (Regs.run p wave {} (m + j)).eteindre)
    (by decide) (fun j lt => ?_) fun j lt => ?_
  · have step : (Regs.run p wave {} (m + (j + 1))).eteindre =
        (Regs.run p wave {} (m + j)).nextEteindre (wave (m + j)) (wave (m + (j + 1))) := rfl
    rw [step, Regs.nextEteindre, flag j (by omega), (dark j (by omega)).1.running,
      (dark (j + 1) lt).1.running]
    rfl
  · exact (run_blinks p wave (m + j)).eteindreRuns (dark j lt).1.standby (flag j lt)

/-- In no delta of the cycle that leads from `s` to the ports `next` are the two flags
equal. -/
structure NeverEqual (s : Snapshot Ports Signals) (next : Ports) : Prop where
  rising : ∀ d, (entity.trace (DeltaCycle.Driven.rising s.ports next) s.signals d).lamps.Opposite
  falling : ∀ d,
    (entity.trace (DeltaCycle.Driven.falling next) (entity.rise s next) d).lamps.Opposite

theorem never_equal (p : Ports) (wave : Nat → Ports) (t : Nat) :
    NeverEqual (onwards (powerUp p) (run p wave) t) (wave t) := by
  have before : (onwards (powerUp p) (run p wave) t).signals.lamps.Opposite := by
    cases t with
    | zero => exact (powerUp_blinks p).opposite
    | succ t =>
        change (run p wave t).signals.lamps.Opposite
        rw [run_eq]
        exact (run_blinks p wave t).opposite
  exact ⟨trace_opposite _ before, trace_opposite _ (trace_opposite _ before _)⟩

/-- The blink goes on, whatever the mode, the buttons and the resets did before. -/
theorem blink_never_freezes (p : Ports) (wave : Nat → Ports) :
    (∀ t, NeverEqual (onwards (powerUp p) (run p wave) t) (wave t)) ∧
      (∀ m n, Shows p wave true m n → n ≤ 499999) ∧
      ∀ m n, Shows p wave false m n → n ≤ 249999 :=
  ⟨never_equal p wave, fun _ _ lit => lit.le_allume, fun _ _ dark => dark.le_eteindre⟩

end Runs

def standbyPorts : Ports where
  clkI := true
  razNI := true
  modeLedsI := false
  btnBabordI := false
  btnTribordI := false
  appuiBtnBabord := 0b00#2
  appuiBtnTribord := 0b00#2
  codeFonction := 0b0000#4

/-- Standby from power-up on: the led is lit, goes dark and is lit again. -/
theorem standby_goes_round :
    (run standbyPorts (fun _ => standbyPorts) 0).signals.lamps.ledSTBYO = true ∧
      ∃ m ≤ 499999, (run standbyPorts (fun _ => standbyPorts) m).signals.lamps.ledSTBYO = false ∧
        ∃ n ≤ 249999,
          (run standbyPorts (fun _ => standbyPorts) (m + n)).signals.lamps.ledSTBYO = true := by
  obtain ⟨-, lit, dark⟩ := blink_never_freezes standbyPorts fun _ => standbyPorts
  refine ⟨?_, ?_⟩
  · rw [run_eq]
    decide +kernel
  · obtain ⟨m, early, off⟩ : ∃ m ≤ 499999,
        (run standbyPorts (fun _ => standbyPorts) m).signals.lamps.ledSTBYO = false := by
      by_contra never
      have long := lit 0 500000 fun j lt => ⟨⟨rfl, rfl⟩, by
        by_contra off
        rw [Nat.zero_add] at off
        exact never ⟨j, by omega, Bool.eq_false_iff.mpr off⟩⟩
      omega
    refine ⟨m, early, off, ?_⟩
    by_contra never
    have long := dark m 250000 fun j lt => ⟨⟨rfl, rfl⟩, by
      by_contra on
      exact never ⟨j, by omega, Bool.of_not_eq_false on⟩⟩
    omega

end Voilier.GestionLeds
