import Voilier.PressTimer
import Voilier.BarreTurns
import Voilier.BipTiming

/-!
# Short presses on STBY

Over a whole run of short presses the machine alternates between st_STBY and
st_AUTO.  The press raises the beep that its own code is guarded by, so the
argument follows the timer, the sequencer and the latch `next_st` together.
-/

set_option autoImplicit false

namespace Voilier.GestionBarre

open DeltaCycle
open MachineEtat (State decode)
open GestionTempsAppuiBouton (Phase Press ShortPresses SpacedPresses phaseAt releases released)

def stbyOnly (stby : Nat → Bool) (t : Nat) : Buttons := { bpSTBYI := stby t }

/-- The mode after a number of short presses. -/
def modeAfter (n : Nat) : State := if n % 2 = 1 then .stAUTO else .stSTBY

section Timers
variable {k : Nat} {stby : Nat → Bool}

theorem timer_auto (presses : SpacedPresses stby) (low : ∀ t < k, stby t = false) (t : Nat) :
    (regs (startUp k (stbyOnly stby)) t).btnAuto = (phaseAt stby t).regs :=
  GestionTempsAppuiBouton.run_phase (fun t => btnAutoPorts (startUp k (stbyOnly stby) t))
    (fun t => (regs (startUp k (stbyOnly stby)) t).btnAuto) presses low (fun _ => rfl)
    (fun _ => rfl) (GestionTempsAppuiBouton.reset_regs rfl rfl) (fun _ => rfl) t

theorem noPresses : SpacedPresses fun _ => false :=
  ⟨fun _ high => by simp at high, fun _ _ _ _ press => by simpa using press.high 0 press.some⟩

theorem timer_babord (t : Nat) :
    (regs (startUp k (stbyOnly stby)) t).btnBabord = (Phase.counting 0).regs := by
  have run := GestionTempsAppuiBouton.run_phase
    (fun t => btnBabordPorts (startUp k (stbyOnly stby) t))
    (fun t => (regs (startUp k (stbyOnly stby)) t).btnBabord) noPresses (fun _ _ => rfl)
    (fun _ => rfl) (fun _ => rfl) (GestionTempsAppuiBouton.reset_regs rfl rfl) (fun _ => rfl) t
  rwa [GestionTempsAppuiBouton.phaseAt_low fun _ _ => rfl] at run

theorem timer_tribord (t : Nat) :
    (regs (startUp k (stbyOnly stby)) t).btnTribord = (Phase.counting 0).regs := by
  have run := GestionTempsAppuiBouton.run_phase
    (fun t => btnTribordPorts (startUp k (stbyOnly stby) t))
    (fun t => (regs (startUp k (stbyOnly stby)) t).btnTribord) noPresses (fun _ _ => rfl)
    (fun _ => rfl) (fun _ => rfl) (GestionTempsAppuiBouton.reset_regs rfl rfl) (fun _ => rfl) t
  rwa [GestionTempsAppuiBouton.phaseAt_low fun _ _ => rfl] at run

theorem codes_succ (presses : SpacedPresses stby) (low : ∀ t < k, stby t = false) (t : Nat) :
    (regs (startUp k (stbyOnly stby)) (t + 1)).codes =
      ⟨if released stby t = true then 0b01#2 else 0b00#2, 0b00#2, 0b00#2⟩ := by
  unfold Regs.codes
  rw [timer_auto presses low, timer_babord, timer_tribord, Codes.mk.injEq]
  refine ⟨?_, rfl, rfl⟩
  by_cases now : released stby t = true
  · obtain ⟨g, phase⟩ := (GestionTempsAppuiBouton.released_iff presses t).mp now
    rw [phase, if_pos now]
    rfl
  · rw [if_neg now]
    cases phase : phaseAt stby (t + 1) with
    | counting g => rfl
    | shown g => exact absurd ((GestionTempsAppuiBouton.released_iff presses t).mpr ⟨g, phase⟩) now
    | clearing => rfl

theorem rings_succ (presses : SpacedPresses stby) (low : ∀ t < k, stby t = false) (t : Nat)
    (p : Ports) :
    (beepPorts p (regs (startUp k (stbyOnly stby)) (t + 1)).codes).rings = released stby t ∧
      (beepPorts p (regs (startUp k (stbyOnly stby)) (t + 1)).codes).opensChoice = false := by
  rw [codes_succ presses low]
  cases released stby t <;> exact ⟨rfl, rfl⟩

end Timers

/-! ## The beep -/

theorem bip_sequence (k : Nat) (buttons : Nat → Buttons) :
    GestionBip.Sequence
      (fun t => beepPorts (startUp k buttons t) (regs (startUp k buttons) t).codes)
      (fun t => (regs (startUp k buttons) t).bip) where
  start := regs_sequenced k buttons 0
  step _ := rfl
  oneCycle t := ((regs_coded (startUp k buttons) t).fresh _ _).oneCycle
  enabled _ := rfl
  once t running := by
    have started : k ≤ t := by simpa [startUp, beepPorts] using running
    exact decide_eq_true (Nat.le_succ_of_le started)

/-- The sequencer in cycle `t`: a single beep, `one` cycles after the code of a
press was shown. -/
structure Sounds (stby : Nat → Bool) (t : Nat) (x : GestionBip.Regs) : Prop where
  waiting : x.latches.attenteBip = false
  closed : x.latches.tempChoixBtn = false
  since : x.latches.activationBip = true →
    ∃ u n, Press stby u n ∧ u + n + 1 + x.oneSec.qn.toNat = t

section Beep
variable {k : Nat} {stby : Nat → Bool} {t : Nat}

theorem le_of_released (low : ∀ t < k, stby t = false) (now : released stby t = true) : k ≤ t := by
  by_contra early
  cases t with
  | zero => simp [released] at now
  | succ v => simp [released, low v (by omega)] at now

theorem silent_at_release (presses : ShortPresses stby) {p : GestionBip.Ports}
    {x : GestionBip.Regs} (sequenced : x.Sequenced p) (sounds : Sounds stby t x)
    (now : released stby t = true) : x.latches.activationBip = false := by
  by_contra beeping
  obtain ⟨u, n, before, shown⟩ := sounds.since (by simpa using beeping)
  obtain ⟨v, m, press, last⟩ := GestionTempsAppuiBouton.released_press presses.spaced now
  have order := before.start_lt press (by omega)
  have apart := presses.apart u n v m before press order
  have count := sequenced.beep.counting (by simpa using beeping)
  omega

theorem sounds_step (presses : ShortPresses stby) {ports : Nat → GestionBip.Ports}
    {x : Nat → GestionBip.Regs} (sequence : GestionBip.Sequence ports x)
    (running' : (ports (t + 1)).razNI = true) (rings : (ports (t + 1)).rings = released stby t)
    (opens : (ports (t + 1)).opensChoice = false) (sounds : Sounds stby t (x t)) :
    Sounds stby (t + 1) (x (t + 1)) := by
  have stepped := sequence.latches_step running'
  rw [rings, opens, sequence.re05sec_silent sounds.waiting] at stepped
  have single : (x (t + 1)).latches.attenteBip = false ∧
      (x (t + 1)).latches.tempChoixBtn = false := by
    rw [stepped]
    cases (x t).re1secAtEdge (ports t) <;>
      simp [GestionBip.Latches.step, sounds.waiting, sounds.closed]
  refine ⟨single.1, single.2, fun beeping' => ?_⟩
  cases beeping : (x t).latches.activationBip with
  | true =>
      obtain ⟨u, n, press, shown⟩ := sounds.since beeping
      refine ⟨u, n, press, ?_⟩
      rw [sequence.oneSec_beeping beeping]
      omega
  | false =>
      rw [sequence.re1sec_silent beeping] at stepped
      have now : released stby t = true := by
        simpa [stepped, GestionBip.Latches.step, beeping] using beeping'
      obtain ⟨u, n, press, last⟩ := GestionTempsAppuiBouton.released_press presses.spaced now
      refine ⟨u, n, press, ?_⟩
      rw [sequence.oneSec_silent beeping]
      omega

theorem sounds (presses : ShortPresses stby) (low : ∀ t < k, stby t = false) (t : Nat) :
    Sounds stby t (regs (startUp k (stbyOnly stby)) t).bip := by
  have idle : ∀ {t : Nat}, (startUp k (stbyOnly stby) t).razNI = false →
      Sounds stby t (regs (startUp k (stbyOnly stby)) t).bip := by
    intro t resetting
    have latches := (regs_sequenced k (stbyOnly stby) t).reset resetting
    exact ⟨by rw [latches], by rw [latches], fun beeping => by simp [latches] at beeping⟩
  induction t with
  | zero =>
      -- no code leaves the power-up reset
      have silent : (beepPorts (startUp k (stbyOnly stby) 0)
          (regs (startUp k (stbyOnly stby)) 0).codes).Silent :=
        ⟨GestionTempsAppuiBouton.Regs.next_silent rfl _ _,
          GestionTempsAppuiBouton.Regs.next_silent rfl _ _,
          GestionTempsAppuiBouton.Regs.next_silent rfl _ _⟩
      have first : (regs (startUp k (stbyOnly stby)) 0).bip.Idle :=
        GestionBip.Regs.Idle.next ⟨rfl, rfl, rfl⟩ _ silent
      exact ⟨by rw [first.latches], by rw [first.latches],
        fun beeping => by simp [first.latches] at beeping⟩
  | succ t ih =>
      cases running' : (startUp k (stbyOnly stby) (t + 1)).razNI with
      | false => exact idle running'
      | true =>
          obtain ⟨rings, opens⟩ :=
            rings_succ presses.spaced low t (startUp k (stbyOnly stby) (t + 1))
          exact sounds_step presses (bip_sequence k (stbyOnly stby)) running' rings opens ih

end Beep

/-! ## The mode -/

section Mode
variable {p p' : Ports} {x : Regs}

structure StbyInputs (i : MachineEtat.Inputs) : Prop where
  btnBabord : i.btnBabordI = false
  btnTribord : i.btnTribordI = false
  babord : i.appuiBtnBabordI = 0b00#2
  tribord : i.appuiBtnTribordI = 0b00#2

/-- An evaluation of the next-state process with this code and this beep toggles the
mode. -/
def toggles (auto : BitVec 2) (beep : Bool) : Bool := decide (auto = 0b01#2 ∧ beep = false)

theorem toggles_iff {auto : BitVec 2} {beep : Bool} :
    toggles auto beep = true ↔ auto = 0b01#2 ∧ beep = false := decide_eq_true_iff

/-- One evaluation: a short code in silence toggles the mode that was entered, and
`next_st` holds a toggle as long as no long code comes. -/
theorem decode_mode {i : MachineEtat.Inputs} (only : StbyInputs i) (n : Nat) {toggled : Bool}
    (quiet : toggled = true → i.appuiBtnAutoI ≠ 0b10#2) :
    decode i (modeAfter n) (modeAfter (n + toggled.toNat)) =
      modeAfter (n + (toggled || toggles i.appuiBtnAutoI i.activationBipI).toNat) := by
  obtain ⟨btnBabord, btnTribord, babord, tribord⟩ := only
  by_cases short : toggles i.appuiBtnAutoI i.activationBipI = true
  · obtain ⟨code, silent⟩ := toggles_iff.mp short
    rw [short, Bool.or_true]
    unfold modeAfter
    rcases Nat.mod_two_eq_zero_or_one n with even | odd
    · simp [decode, even, Nat.add_mod, code, silent]
    · simp [decode, odd, Nat.add_mod, code, silent]
  · have kept : ¬ (i.appuiBtnAutoI = 0b01#2 ∧ i.activationBipI = false) := fun both =>
      short (toggles_iff.mpr both)
    rw [Bool.eq_false_iff.mpr short, Bool.or_false]
    cases toggled with
    | true =>
        have notLong := quiet rfl
        rcases Nat.mod_two_eq_zero_or_one n with even | odd
        · simp only [modeAfter, even, decode, if_neg kept, btnBabord, btnTribord]
          simp
        · simp only [modeAfter, odd, decode, if_neg kept, if_neg notLong, babord, tribord]
          simp
    | false =>
        rcases Nat.mod_two_eq_zero_or_one n with even | odd
        · simp only [modeAfter, Bool.toNat_false, Nat.add_zero, even, decode, if_neg kept,
            btnBabord, btnTribord]
          simp
        · simp only [modeAfter, Bool.toNat_false, Nat.add_zero, odd, decode, if_neg kept,
            babord, tribord]
          simp

/-- The machine over one running cycle: the evaluations see the old code, the new
code with the old beep, and the new code with the beep it has raised or with one that
has ended. -/
theorem next_mode (running : p.razNI = true) (running' : p'.razNI = true)
    (babord : p'.bpBabordI = false) (tribord : p'.bpTribordI = false) {n : Nat}
    (mode : x.machine.nextSt = modeAfter n) {auto auto' : BitVec 2}
    (old : x.codes = ⟨auto, 0b00#2, 0b00#2⟩) (new : x.nextCodes p p' = ⟨auto', 0b00#2, 0b00#2⟩)
    (fresh : auto = 0b00#2 ∨ auto' = 0b00#2)
    (coded : auto' = 0b01#2 → (x.beepWithCodes p p').activationBip = true) :
    (x.next p p').machine =
      ⟨modeAfter n, modeAfter (n + (toggles auto x.bip.latches.activationBip ||
        toggles auto' x.bip.latches.activationBip ||
        toggles auto' (x.nextBip p p').latches.activationBip).toNat)⟩ := by
  have entered : x.machine.entered p.razNI p'.razNI = modeAfter n := by
    simp [MachineEtat.Regs.entered, MachineEtat.Regs.atEdge, running, running', mode]
  have atEdge : x.machine.atEdge p.razNI = modeAfter n := by
    simp [MachineEtat.Regs.atEdge, running, mode]
  have evaluated : ∀ {code : BitVec 2} {l : GestionBip.Latches} (toggled : Bool),
      (toggled = true → code ≠ 0b10#2) →
      decode (machineInputs p' ⟨code, 0b00#2, 0b00#2⟩ l) (modeAfter n)
          (modeAfter (n + toggled.toNat)) =
        modeAfter (n + (toggled || toggles code l.activationBip).toNat) := fun _ quiet =>
    decode_mode ⟨babord, tribord, rfl, rfl⟩ n quiet
  have first : decode (machineInputs p' ⟨auto, 0b00#2, 0b00#2⟩ x.bip.latches) (modeAfter n)
      (modeAfter n) = modeAfter (n + (toggles auto x.bip.latches.activationBip).toNat) :=
    evaluated false (by simp)
  have notLong : ∀ {beep : Bool},
      (toggles auto x.bip.latches.activationBip || toggles auto' beep) = true →
        auto' ≠ 0b10#2 := by
    intro beep toggled long
    rcases fresh with silent | silent <;> simp [toggles, silent, long] at toggled long
  have held : toggles auto' (x.beepWithCodes p p').activationBip = false := by
    by_contra short
    obtain ⟨code, silent⟩ := toggles_iff.mp (by simpa using short)
    simp [coded code] at silent
  change MachineEtat.Regs.next p.razNI p'.razNI (x.phases p p') x.machine = _
  unfold MachineEtat.Regs.next
  rw [entered, atEdge]
  simp only [Regs.phases, codesAtEdge_of_running running', old, new, mode]
  rw [first, evaluated _ fun toggled => @notLong false (by simp [toggled]),
    evaluated _ notLong, Bool.or_assoc, Bool.or_self, evaluated _ notLong, held, Bool.or_false,
    evaluated _ notLong]

end Mode

/-! ## Whole runs -/

/-- The code of STBY in cycle `t`. -/
def stbyCode (k : Nat) (stby : Nat → Bool) (t : Nat) : BitVec 2 :=
  (regs (startUp k (stbyOnly stby)) t).codes.auto

/-- The beep at the end of cycle `t`. -/
def beeping (k : Nat) (stby : Nat → Bool) (t : Nat) : Bool :=
  (regs (startUp k (stbyOnly stby)) t).bip.latches.activationBip

section Runs
variable {k : Nat} {stby : Nat → Bool} {t : Nat}

theorem codes_stby (t : Nat) :
    (regs (startUp k (stbyOnly stby)) t).codes = ⟨stbyCode k stby t, 0b00#2, 0b00#2⟩ := by
  rw [stbyCode, Regs.codes, timer_babord, timer_tribord]
  rfl

/-- The codes reach the beep before the pulses of its counters. -/
theorem beep_coded (running' : k ≤ t + 1) (short : stbyCode k stby (t + 1) = 0b01#2) :
    ((regs (startUp k (stbyOnly stby)) t).beepWithCodes (startUp k (stbyOnly stby) t)
      (startUp k (stbyOnly stby) (t + 1))).activationBip = true := by
  have fresh := (regs_coded (startUp k (stbyOnly stby)) t).fresh
    (startUp k (stbyOnly stby) t) (startUp k (stbyOnly stby) (t + 1))
  have rings : (beepPorts (startUp k (stbyOnly stby) (t + 1))
      (regs (startUp k (stbyOnly stby)) (t + 1)).codes).rings = true := by
    rw [codes_stby, short]
    rfl
  rw [Regs.beepWithCodes,
    GestionBip.withCodes_eq fresh.oneCycle
      ((startUp_razNI k (stbyOnly stby) (t + 1)).mpr running'),
    GestionBip.latch_codes rfl]
  change (GestionBip.Latches.step
    (beepPorts _ (regs (startUp k (stbyOnly stby)) (t + 1)).codes).rings _ _ _ _).activationBip =
      true
  rw [rings]
  simp [GestionBip.Latches.step]

theorem mode_step (running : k ≤ t) {n : Nat}
    (mode : (regs (startUp k (stbyOnly stby)) t).machine.nextSt = modeAfter n) :
    (regs (startUp k (stbyOnly stby)) (t + 1)).machine =
      ⟨modeAfter n, modeAfter (n + (toggles (stbyCode k stby t) (beeping k stby t) ||
        toggles (stbyCode k stby (t + 1)) (beeping k stby t) ||
        toggles (stbyCode k stby (t + 1)) (beeping k stby (t + 1))).toNat)⟩ := by
  have running' : k ≤ t + 1 := Nat.le_succ_of_le running
  have fresh := ((regs_coded (startUp k (stbyOnly stby)) t).fresh
    (startUp k (stbyOnly stby) t) (startUp k (stbyOnly stby) (t + 1))).auto
  exact next_mode ((startUp_razNI _ _ _).mpr running) ((startUp_razNI _ _ _).mpr running') rfl rfl
    mode (codes_stby t) (codes_stby (t + 1)) fresh (beep_coded running')

theorem mode_reset (resetting : t < k) :
    (regs (startUp k (stbyOnly stby)) (t + 1)).machine =
      ⟨.stSTBY, (regs (startUp k (stbyOnly stby)) t).machine.nextSt⟩ := by
  have asserted : (startUp k (stbyOnly stby) t).razNI = false := by
    simpa [startUp] using resetting
  rw [regs_succ, reset_machine (regs_wf _ t) asserted]
  rfl

/-! ### Short presses -/

theorem beep_raised (presses : ShortPresses stby) (low : ∀ t < k, stby t = false)
    (now : released stby t = true) : beeping k stby (t + 1) = true := by
  have sequenced := regs_sequenced k (stbyOnly stby) t
  have silent := silent_at_release presses sequenced (sounds presses low t) now
  have running' : (startUp k (stbyOnly stby) (t + 1)).razNI = true :=
    (startUp_razNI _ _ _).mpr (Nat.le_succ_of_le (le_of_released low now))
  obtain ⟨rings, -⟩ := rings_succ presses.spaced low t (startUp k (stbyOnly stby) (t + 1))
  by_contra ended
  have raised := ((bip_sequence k (stbyOnly stby)).silent_code_iff running'
    (rings.trans now)).mp (Bool.eq_false_iff.mpr ended)
  have sounding := (sequenced.re1sec_iff.mp raised).2.1
  simp [silent] at sounding

theorem stbyCode_succ (presses : SpacedPresses stby) (low : ∀ t < k, stby t = false) (t : Nat) :
    stbyCode k stby (t + 1) = if released stby t = true then 0b01#2 else 0b00#2 :=
  congrArg Codes.auto (codes_succ presses low t)

theorem toggles_shown (presses : ShortPresses stby) (low : ∀ t < k, stby t = false) (t : Nat) :
    toggles (stbyCode k stby t) (beeping k stby t) = false := by
  by_contra toggled
  obtain ⟨short, silent⟩ := toggles_iff.mp (by simpa using toggled)
  cases t with
  | zero =>
      rw [stbyCode, Regs.codes, timer_auto presses.spaced low] at short
      simp [phaseAt, Phase.regs] at short
  | succ t =>
      have now : released stby t = true := by
        by_contra quiet
        simp [stbyCode_succ presses.spaced low, quiet] at short
      simp [beep_raised presses low now] at silent

/-- `next_st` counts the releases, and `current_st` follows it. -/
theorem mode_run (presses : ShortPresses stby) (low : ∀ t < k, stby t = false) (t : Nat) :
    (regs (startUp k (stbyOnly stby)) t).machine.nextSt = modeAfter (releases stby t) ∧
      (regs (startUp k (stbyOnly stby)) (t + 1)).machine.currentSt =
        modeAfter (releases stby t) := by
  have counted : ∀ t, (regs (startUp k (stbyOnly stby)) t).machine.nextSt =
        modeAfter (releases stby t) →
      (regs (startUp k (stbyOnly stby)) (t + 1)).machine =
        ⟨modeAfter (releases stby t), modeAfter (releases stby (t + 1))⟩ := by
    intro t mode
    by_cases running : k ≤ t
    · have silent := silent_at_release presses (regs_sequenced k (stbyOnly stby) t)
        (sounds presses low t)
      have toggled : toggles (stbyCode k stby (t + 1)) (beeping k stby t) = released stby t := by
        rw [stbyCode_succ presses.spaced low, beeping]
        cases now : released stby t with
        | true => simp [toggles, silent now]
        | false => simp [toggles]
      rw [mode_step running mode, toggles_shown presses low, toggles_shown presses low, toggled,
        Bool.false_or, Bool.or_false]
      rfl
    · have resetting : t < k := by omega
      have none := GestionTempsAppuiBouton.releases_low (t := t + 1) fun u lt => low u (by omega)
      have none' := GestionTempsAppuiBouton.releases_low (t := t) fun u lt => low u (by omega)
      rw [mode_reset resetting, mode, none, none']
      rfl
  have next : (regs (startUp k (stbyOnly stby)) t).machine.nextSt =
      modeAfter (releases stby t) := by
    induction t with
    | zero => exact congrArg MachineEtat.Regs.nextSt (reset_machine powerUp_wf rfl)
    | succ t ih => rw [counted t ih]
  exact ⟨next, by rw [counted t next]⟩

/-- Between two releases of short presses the machine is in st_AUTO after an odd
number of them and in st_STBY after an even number. -/
theorem short_presses_toggle (presses : ShortPresses stby) (low : ∀ t < k, stby t = false)
    (t : Nat) (processed : ∀ f ≤ t, released stby f = true → f + 3 ≤ t) :
    (run (startUp k (stbyOnly stby)) t).signals.machine.currentSt =
      modeAfter (releases stby t) := by
  rw [run_eq]
  cases t with
  | zero => exact congrArg MachineEtat.Regs.currentSt (reset_machine powerUp_wf rfl)
  | succ t =>
      have quiet : released stby t = false := by
        by_contra now
        have late := processed t (by omega) (by simpa using now)
        omega
      have entered := (mode_run presses low t).2
      rw [releases, quiet]
      exact entered

end Runs

/-- A single press of three cycles. -/
def pressAt (u t : Nat) : Bool := decide (u ≤ t ∧ t < u + 3)

section PressAt
variable {u : Nat}

theorem pressAt_press (u : Nat) : Press (pressAt u) u 3 where
  some := by decide
  high i lt := decide_eq_true ⟨by omega, by omega⟩
  fresh v start := decide_eq_false (by omega)
  released := decide_eq_false (by omega)

theorem pressAt_only {v n : Nat} (press : Press (pressAt u) v n) : v = u ∧ n = 3 := by
  have high := press.high 0 press.some
  simp only [pressAt, decide_eq_true_eq] at high
  have some := press.some
  exact press.eq_of_meet (pressAt_press u) (t := v) (by omega) (by omega)

theorem pressAt_short (u : Nat) : ShortPresses (pressAt u) := by
  refine ⟨fun t high => ⟨u, 3, pressAt_press u, ?_⟩, fun v n w m first second order => ?_,
    fun v n w m first second order => ?_⟩
  · simp only [pressAt, decide_eq_true_eq] at high
    omega
  · have same := pressAt_only first
    have same' := pressAt_only second
    omega
  · have same := pressAt_only first
    have same' := pressAt_only second
    omega

end PressAt

def onePress : Nat → Bool := pressAt 2

theorem onePress_short : ShortPresses onePress := pressAt_short 2

theorem onePress_quiet (t : Nat) : released onePress (t + 6) = false := by
  have low : pressAt 2 (t + 5) = false := decide_eq_false (by omega)
  rw [released, onePress, low, Bool.false_and]

theorem short_press_toggles :
    (run (startUp 1 (stbyOnly onePress)) 8).signals.machine.currentSt = .stAUTO :=
  short_presses_toggle onePress_short (by decide) 8 (by decide)

/-- A press that begins in the power-up reset and ends with its first running cycle
gives no code. -/
theorem press_in_reset_missed :
    ¬ ∀ (k : Nat) (stby : Nat → Bool), ShortPresses stby →
      ∀ t, (∀ f ≤ t, released stby f = true → f + 3 ≤ t) →
        (run (startUp k (stbyOnly stby)) t).signals.machine.currentSt =
          modeAfter (releases stby t) := by
  intro toggles
  have mode := toggles 10 (pressAt 8) (pressAt_short 8) 14 (by decide)
  rw [run_eq] at mode
  exact absurd mode (by decide +kernel)

end Voilier.GestionBarre
