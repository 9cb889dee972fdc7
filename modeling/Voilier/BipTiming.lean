import Voilier.BipReset

/-!
# How long a beep lasts

Nothing but the pulse of its own counter ends a beep, and the counter starts from 0
with the beep.  So the codes that arrive meanwhile neither stretch nor cut it.
-/

set_option autoImplicit false

namespace Voilier.GestionBip

open DeltaCycle

/-- A sequencer that is enabled, reset at the start only and sees codes of one
cycle. -/
structure Sequence (ports : Nat → Ports) (x : Nat → Regs) : Prop where
  start : (x 0).Sequenced (ports 0)
  step : ∀ t, x (t + 1) = (x t).next (ports t) (ports (t + 1))
  oneCycle : ∀ t, OneCycle (ports t) (ports (t + 1))
  enabled : ∀ t, (ports (t + 1)).enI = true
  once : ∀ t, (ports t).razNI = true → (ports (t + 1)).razNI = true

section Sequence
variable {ports : Nat → Ports} {x : Nat → Regs}

theorem Sequence.sequenced (sequence : Sequence ports x) (t : Nat) :
    (x t).Sequenced (ports t) := by
  induction t with
  | zero => exact sequence.start
  | succ t ih =>
      rw [sequence.step]
      by_cases running' : (ports (t + 1)).razNI = true
      · exact ih.next_running (sequence.oneCycle t) running' (sequence.enabled t)
      · have resetting : (ports t).razNI = false := by
          by_contra running
          exact running' (sequence.once t (by simpa using running))
        exact ih.next_reset resetting (by simpa using running')

theorem Sequence.latches_step (sequence : Sequence ports x) {t : Nat}
    (running' : (ports (t + 1)).razNI = true) :
    (x (t + 1)).latches = (x t).latches.step (ports (t + 1)).rings (ports (t + 1)).opensChoice
      ((x t).re1secAtEdge (ports t)) ((x t).re05secAtEdge (ports t)) := by
  rw [sequence.step]
  exact next_latches (x t) (sequence.oneCycle t) running' (sequence.enabled t)

theorem Sequence.running (sequence : Sequence ports x) {t : Nat} (busy : (x t).latches ≠ {}) :
    (ports t).razNI = true := by
  by_contra resetting
  exact busy ((sequence.sequenced t).reset (by simpa using resetting))

/-! ### The two counters -/

theorem Sequence.oneSec_silent (sequence : Sequence ports x) {t : Nat}
    (silent : (x t).latches.activationBip = false) : (x (t + 1)).oneSec.qn.toNat = 0 := by
  have sequenced := sequence.sequenced t
  have value := Pulse.next_toNat (!(ports t).razNI) (!(ports (t + 1)).razNI)
    (x t).latches.activationBip (by decide) sequenced.beep.le
  have waiting := sequenced.beep.waiting silent
  rw [sequence.step]
  change ((x t).oneSec.next (49999999 / 100) _ _ _).qn.toNat = 0
  rw [value, silent]
  split_ifs <;> omega

theorem Sequence.zeroFiveSec_silent (sequence : Sequence ports x) {t : Nat}
    (silent : (x t).latches.attenteBip = false) : (x (t + 1)).zeroFiveSec.qn.toNat = 0 := by
  have sequenced := sequence.sequenced t
  have value := Pulse.next_toNat (!(ports t).razNI) (!(ports (t + 1)).razNI)
    (x t).latches.attenteBip (by decide) sequenced.pause.le
  have waiting := sequenced.pause.waiting silent
  rw [sequence.step]
  change ((x t).zeroFiveSec.next (24999999 / 100) _ _ _).qn.toNat = 0
  rw [value, silent]
  split_ifs <;> omega

theorem Sequence.oneSec_beeping (sequence : Sequence ports x) {t : Nat}
    (beeping : (x t).latches.activationBip = true) :
    (x (t + 1)).oneSec.qn.toNat = (x t).oneSec.qn.toNat + 1 := by
  have sequenced := sequence.sequenced t
  have running := sequence.running (t := t) fun idle => by simp [idle] at beeping
  have count := sequenced.beep.counting beeping
  rw [sequence.step, sequenced.next_oneSec running (sequence.once t running), if_neg (by omega),
    if_pos beeping]

theorem Sequence.zeroFiveSec_pausing (sequence : Sequence ports x) {t : Nat}
    (pausing : (x t).latches.attenteBip = true) :
    (x (t + 1)).zeroFiveSec.qn.toNat = (x t).zeroFiveSec.qn.toNat + 1 := by
  have sequenced := sequence.sequenced t
  have running := sequence.running (t := t) fun idle => by simp [idle] at pausing
  have count := sequenced.pause.counting pausing
  rw [sequence.step, sequenced.next_zeroFiveSec running (sequence.once t running),
    if_neg (by omega), if_pos pausing]

/-! ### Beeps -/

/-- Only the pulse of its counter ends a beep. -/
theorem Sequence.beep_ends (sequence : Sequence ports x) {t : Nat}
    (beeping : (x t).latches.activationBip = true)
    (ended : (x (t + 1)).latches.activationBip = false) :
    (x t).oneSec.qn.toNat + 1 = 49999999 / 100 := by
  have sequenced := sequence.sequenced t
  have running := sequence.running (t := t) fun idle => by simp [idle] at beeping
  have step := sequenced.step_cases (sequence.oneCycle t) (sequence.once t running)
    (sequence.enabled t)
  rw [← sequence.step] at step
  rcases step with ⟨-, -, after⟩ | ⟨ends, -, -⟩ | ⟨-, -, after⟩
  · simp [after] at ended
  · exact (sequenced.re1sec_iff.mp ends).2.2
  · simp [after, Latches.step, beeping] at ended

/-- A code meets silence in its own cycle only where a beep ends there. -/
theorem Sequence.silent_code_iff (sequence : Sequence ports x) {t : Nat}
    (running' : (ports (t + 1)).razNI = true) (rings : (ports (t + 1)).rings = true) :
    (x (t + 1)).latches.activationBip = false ↔ (x t).re1secAtEdge (ports t) = true := by
  have step := (sequence.sequenced t).step_cases (sequence.oneCycle t) running'
    (sequence.enabled t)
  rw [← sequence.step, rings] at step
  rcases step with ⟨goes, -, after⟩ | ⟨ends, -, after⟩ | ⟨goes, -, after⟩
  · simp [goes, after]
  · simp [ends, after, Latches.step]
  · simp [goes, after, Latches.step]

/-- The beep sounds in exactly the `n` cycles from `a` on. -/
structure Stretch (bip : Nat → Bool) (a n : Nat) : Prop where
  some : 0 < n
  before : ∀ v, a = v + 1 → bip v = false
  sounds : ∀ i < n, bip (a + i) = true
  ended : bip (a + n) = false

theorem Sequence.oneSec_stretch (sequence : Sequence ports x) {a n : Nat}
    (start : (x a).oneSec.qn.toNat = 0)
    (sounds : ∀ i < n, (x (a + i)).latches.activationBip = true) :
    (x (a + n)).oneSec.qn.toNat = n := by
  induction n with
  | zero => exact start
  | succ n ih =>
      have counted := sequence.oneSec_beeping (sounds n (Nat.lt_succ_self n))
      rw [ih fun i lt => sounds i (by omega)] at counted
      exact counted

theorem Sequence.stretch (sequence : Sequence ports x) {a n : Nat}
    (fresh : (x 0).latches.activationBip = false)
    (stretch : Stretch (fun t => (x t).latches.activationBip) a n) : n = 49999999 / 100 := by
  obtain ⟨v, rfl⟩ : ∃ v, a = v + 1 := by
    cases a with
    | zero =>
        have sounds := stretch.sounds 0 stretch.some
        simp [fresh] at sounds
    | succ v => exact ⟨v, rfl⟩
  have start := sequence.oneSec_silent (stretch.before v rfl)
  obtain ⟨m, rfl⟩ := Nat.exists_eq_add_of_le' stretch.some
  have count : (x (v + 1 + m)).oneSec.qn.toNat = m :=
    sequence.oneSec_stretch start fun i lt => stretch.sounds i (Nat.lt_succ_of_lt lt)
  have last : (x (v + 1 + m)).oneSec.qn.toNat + 1 = 49999999 / 100 :=
    sequence.beep_ends (stretch.sounds m (Nat.lt_succ_self m)) stretch.ended
  rwa [count] at last

/-! ### A code on its own -/

/-- The codes of cycle `a` reach an idle sequencer out of reset, and no other code
follows in the next `i` cycles. -/
structure Lone (ports : Nat → Ports) (x : Nat → Regs) (a i : Nat) : Prop where
  running : (ports (a + 1)).razNI = true
  idle : (x a).latches = {}
  rings : (ports (a + 1)).rings = true
  alone : ∀ j < i, (ports (a + 1 + (j + 1))).rings = false

theorem Sequence.step_alone (sequence : Sequence ports x) {t : Nat}
    (running' : (ports (t + 1)).razNI = true) (silent : (ports (t + 1)).rings = false) :
    (x (t + 1)).latches =
      (x t).latches.step false false ((x t).re1secAtEdge (ports t))
        ((x t).re05secAtEdge (ports t)) := by
  have closed : (ports (t + 1)).opensChoice = false := by
    by_contra opens
    simp [opensChoice_rings (by simpa using opens)] at silent
  rw [sequence.latches_step running', silent, closed]

theorem Sequence.re1sec_silent (sequence : Sequence ports x) {t : Nat}
    (silent : (x t).latches.activationBip = false) : (x t).re1secAtEdge (ports t) = false := by
  by_contra raised
  have beeping := ((sequence.sequenced t).re1sec_iff.mp (by simpa using raised)).2.1
  simp [silent] at beeping

theorem Sequence.re05sec_silent (sequence : Sequence ports x) {t : Nat}
    (silent : (x t).latches.attenteBip = false) : (x t).re05secAtEdge (ports t) = false := by
  by_contra raised
  have pausing := ((sequence.sequenced t).re05sec_iff.mp (by simpa using raised)).2.1
  simp [silent] at pausing

theorem Sequence.re1sec_beeping (sequence : Sequence ports x) {t : Nat}
    (beeping : (x t).latches.activationBip = true) :
    (x t).re1secAtEdge (ports t) = decide ((x t).oneSec.qn.toNat + 1 = 49999999 / 100) := by
  have running := sequence.running (t := t) fun idle => by simp [idle] at beeping
  rw [Bool.eq_iff_iff, (sequence.sequenced t).re1sec_iff, decide_eq_true_iff]
  exact ⟨fun raised => raised.2.2, fun last => ⟨running, beeping, last⟩⟩

theorem Sequence.re05sec_pausing (sequence : Sequence ports x) {t : Nat}
    (pausing : (x t).latches.attenteBip = true) :
    (x t).re05secAtEdge (ports t) = decide ((x t).zeroFiveSec.qn.toNat + 1 = 24999999 / 100) := by
  have running := sequence.running (t := t) fun idle => by simp [idle] at pausing
  rw [Bool.eq_iff_iff, (sequence.sequenced t).re05sec_iff, decide_eq_true_iff]
  exact ⟨fun raised => raised.2.2, fun last => ⟨running, pausing, last⟩⟩

/-- A delay that counts while the latches stay `busy` ends, and they become `after`. -/
theorem counts_down {x : Nat → Regs} (count : Regs → Nat) {busy after : Latches} {b n : Nat}
    (start : (x b).latches = busy) (fresh : count (x b) = 0) {i : Nat}
    (next : ∀ j < i, (x (b + j)).latches = busy → count (x (b + (j + 1))) = count (x (b + j)) + 1 ∧
      (x (b + (j + 1))).latches = if count (x (b + j)) + 1 = n then after else busy)
    (le : i ≤ n) (positive : 0 < n) :
    (x (b + i)).latches = (if i < n then busy else after) ∧ count (x (b + i)) = i := by
  induction i with
  | zero =>
      rw [if_pos positive]
      exact ⟨start, fresh⟩
  | succ i ih =>
      obtain ⟨latches, counted⟩ := ih (fun j lt => next j (Nat.lt_succ_of_lt lt)) (by omega)
      rw [if_pos (by omega)] at latches
      obtain ⟨counted', latches'⟩ := next i (Nat.lt_succ_self i) latches
      rw [counted] at counted' latches'
      refine ⟨?_, counted'⟩
      rw [latches']
      by_cases last : i + 1 = n
      · rw [if_pos last, if_neg (by omega)]
      · rw [if_neg last, if_pos (by omega)]

/-- A beep with no pause under way, and then the pause if a choice is open. -/
theorem Sequence.beeps (sequence : Sequence ports x) {b : Nat} {choice : Bool}
    (start : (x b).latches = ⟨true, false, choice⟩) (fresh : (x b).oneSec.qn.toNat = 0)
    {i : Nat} (alone : ∀ j < i, (ports (b + (j + 1))).rings = false) (le : i ≤ 499999) :
    (x (b + i)).latches =
        (if i < 499999 then ⟨true, false, choice⟩ else ⟨false, choice, choice⟩) ∧
      (x (b + i)).oneSec.qn.toNat = i := by
  refine counts_down (fun y => y.oneSec.qn.toNat) start fresh (fun j lt latches => ?_) le
    (by decide)
  have beeping : (x (b + j)).latches.activationBip = true := by rw [latches]
  have running := sequence.running (t := b + j) fun idle => by simp [idle] at beeping
  have stepped := sequence.step_alone (t := b + j) (sequence.once _ running) (alone j lt)
  rw [sequence.re1sec_beeping beeping, sequence.re05sec_silent (by rw [latches]), latches]
    at stepped
  refine ⟨sequence.oneSec_beeping beeping, stepped.trans ?_⟩
  by_cases last : (x (b + j)).oneSec.qn.toNat + 1 = 499999
  · simp [Latches.step, last]
  · simp [Latches.step, last]

theorem Sequence.pauses (sequence : Sequence ports x) {b : Nat}
    (start : (x b).latches = ⟨false, true, true⟩) (fresh : (x b).zeroFiveSec.qn.toNat = 0)
    {i : Nat} (alone : ∀ j < i, (ports (b + (j + 1))).rings = false) (le : i ≤ 249999) :
    (x (b + i)).latches = (if i < 249999 then ⟨false, true, true⟩ else ⟨true, false, false⟩) ∧
      (x (b + i)).zeroFiveSec.qn.toNat = i := by
  refine counts_down (fun y => y.zeroFiveSec.qn.toNat) start fresh (fun j lt latches => ?_) le
    (by decide)
  have pausing : (x (b + j)).latches.attenteBip = true := by rw [latches]
  have running := sequence.running (t := b + j) fun idle => by simp [idle] at pausing
  have stepped := sequence.step_alone (t := b + j) (sequence.once _ running) (alone j lt)
  rw [sequence.re05sec_pausing pausing, sequence.re1sec_silent (by rw [latches]), latches]
    at stepped
  refine ⟨sequence.zeroFiveSec_pausing pausing, stepped.trans ?_⟩
  by_cases last : (x (b + j)).zeroFiveSec.qn.toNat + 1 = 249999
  · simp [Latches.step, last]
  · simp [Latches.step, last]

theorem Sequence.rests (sequence : Sequence ports x) {b : Nat}
    (running : (ports b).razNI = true) (start : (x b).latches = {}) {i : Nat}
    (alone : ∀ j < i, (ports (b + (j + 1))).rings = false) :
    (ports (b + i)).razNI = true ∧ (x (b + i)).latches = {} := by
  induction i with
  | zero => exact ⟨running, start⟩
  | succ i ih =>
      obtain ⟨running, latches⟩ := ih fun j lt => alone j (Nat.lt_succ_of_lt lt)
      have stepped := sequence.step_alone (t := b + i) (sequence.once _ running)
        (alone i (Nat.lt_succ_self i))
      rw [sequence.re1sec_silent (by rw [latches]), sequence.re05sec_silent (by rw [latches]),
        latches] at stepped
      exact ⟨sequence.once _ running, stepped⟩

/-- The latches `i` cycles after a code that opens no choice. -/
def shortBeep (i : Nat) : Latches := if i < 499999 then ⟨true, false, false⟩ else {}

/-- The latches `i` cycles after a code that opens a choice: a beep, a pause and a
second beep. -/
def longBeep (i : Nat) : Latches :=
  if i < 499999 then ⟨true, false, true⟩
  else if i < 499999 + 249999 then ⟨false, true, true⟩
  else shortBeep (i - (499999 + 249999))

theorem Sequence.latches_short (sequence : Sequence ports x) {b : Nat}
    (start : (x b).latches = ⟨true, false, false⟩) (fresh : (x b).oneSec.qn.toNat = 0) {i : Nat}
    (alone : ∀ j < i, (ports (b + (j + 1))).rings = false) :
    (x (b + i)).latches = shortBeep i := by
  have beeps := fun {d : Nat} (upTo : d ≤ i) (le : d ≤ 499999) =>
    (sequence.beeps start fresh (fun j lt => alone j (Nat.lt_of_lt_of_le lt upTo)) le).1
  unfold shortBeep
  by_cases sounding : i < 499999
  · rw [beeps (Nat.le_refl i) (by omega)]
  · obtain ⟨j, rfl⟩ := Nat.exists_eq_add_of_le (show 499999 ≤ i by omega)
    have running := sequence.running (t := b + 499998) fun idle => by
      simp [@beeps 499998 (by omega) (by omega)] at idle
    have ended := beeps (d := 499999) (by omega) (Nat.le_refl 499999)
    have after := sequence.rests (b := b + 499999) (sequence.once (b + 499998) running) ended
      (i := j) fun d lt => by
        rw [Nat.add_assoc]
        exact alone (499999 + d) (by omega)
    rw [if_neg sounding, ← Nat.add_assoc]
    exact after.2

theorem Sequence.latches_long (sequence : Sequence ports x) {b : Nat}
    (start : (x b).latches = ⟨true, false, true⟩) (fresh : (x b).oneSec.qn.toNat = 0) {i : Nat}
    (alone : ∀ j < i, (ports (b + (j + 1))).rings = false) :
    (x (b + i)).latches = longBeep i := by
  have beeps := fun {d : Nat} (upTo : d ≤ i) (le : d ≤ 499999) =>
    (sequence.beeps start fresh (fun j lt => alone j (Nat.lt_of_lt_of_le lt upTo)) le).1
  unfold longBeep
  by_cases sounding : i < 499999
  · rw [beeps (Nat.le_refl i) (by omega), if_pos sounding, if_pos sounding]
  · rw [if_neg sounding]
    have emptied := sequence.zeroFiveSec_silent (t := b + 499998)
      (by rw [beeps (by omega) (by omega), if_pos (by omega)])
    have pauses := fun {d : Nat} (upTo : 499999 + d ≤ i) (le : d ≤ 249999) =>
      (sequence.pauses (b := b + 499999) (beeps (by omega) (Nat.le_refl 499999)) emptied
        (fun j lt => by rw [Nat.add_assoc]; exact alone (499999 + j) (by omega)) le).1
    by_cases paused : i < 499999 + 249999
    · obtain ⟨j, rfl⟩ := Nat.exists_eq_add_of_le (show 499999 ≤ i by omega)
      rw [if_pos paused, ← Nat.add_assoc, pauses (Nat.le_refl _) (by omega), if_pos (by omega)]
    · obtain ⟨j, rfl⟩ := Nat.exists_eq_add_of_le (show 499999 + 249999 ≤ i by omega)
      have restarted := sequence.oneSec_silent (t := b + 499999 + 249998)
        (by rw [pauses (by omega) (by omega), if_pos (by omega)])
      have second := sequence.latches_short (b := b + 499999 + 249999)
        (pauses (by omega) (Nat.le_refl 249999)) restarted (i := j) fun d lt => by
          rw [Nat.add_assoc, Nat.add_assoc]
          exact alone (499999 + (249999 + d)) (by omega)
      rw [if_neg paused, Nat.add_sub_cancel_left, ← second, Nat.add_assoc b, Nat.add_assoc b]

theorem Sequence.lone (sequence : Sequence ports x) {a i : Nat} (lone : Lone ports x a i) :
    (x (a + 1 + i)).latches =
      if (ports (a + 1)).opensChoice = true then longBeep i else shortBeep i := by
  have fresh := sequence.oneSec_silent (t := a) (by rw [lone.idle])
  have first := sequence.latches_step lone.running
  rw [sequence.re1sec_silent (by rw [lone.idle]), sequence.re05sec_silent (by rw [lone.idle]),
    lone.idle, lone.rings] at first
  cases opens : (ports (a + 1)).opensChoice with
  | true =>
      rw [opens] at first
      rw [if_pos rfl]
      exact sequence.latches_long first fresh lone.alone
  | false =>
      rw [opens] at first
      rw [if_neg Bool.false_ne_true]
      exact sequence.latches_short first fresh lone.alone

end Sequence

/-! ## Runs of the entity on its own -/

/-- Enabled, out of reset from cycle `k` on, with codes of one cycle on the three
inputs. -/
structure Plays (k : Nat) (wave : Nat → Ports) : Prop where
  enabled : ∀ t, (wave t).enI = true
  raz : ∀ t, (wave t).razNI = decide (k ≤ t)
  oneCycle : ∀ t, OneCycle (wave t) (wave (t + 1))

/-- The codes of cycle `a` find the sequencer idle and out of reset, and no other
code follows in the next `i` cycles. -/
structure LoneCode (k : Nat) (wave : Nat → Ports) (a i : Nat) : Prop where
  running : k ≤ a
  idle : ∀ v, a = v + 1 → (run wave v).signals.latches = {}
  rings : (wave a).rings = true
  alone : ∀ t, a < t → t ≤ a + i → (wave t).rings = false

/-- One beep after a short code or an STBY code, two after a long direction code. -/
def afterCode (p : Ports) (i : Nat) : Latches :=
  if p.opensChoice = true then longBeep i else shortBeep i

section Run
variable {k : Nat} {wave : Nat → Ports}

/-- The ports and the registers of every cycle, power-up first. -/
def portsFrom (wave : Nat → Ports) : Nat → Ports := onwards powerUp.ports wave

def regsFrom (wave : Nat → Ports) : Nat → Regs := onwards {} (Regs.run powerUp.ports wave {})

theorem run_signals (wave : Nat → Ports) (t : Nat) :
    (run wave t).signals = stable (wave t) (regsFrom wave (t + 1)) := by
  have powerUp_wf : Regs.Wf powerUp.ports {} := ⟨fun _ => ⟨rfl, rfl, rfl⟩, id⟩
  exact congrArg Snapshot.signals (implements.run_eq powerUp_wf wave t)

theorem Plays.sequence (plays : Plays k wave) : Sequence (portsFrom wave) (regsFrom wave) where
  start := sequenced_powerUp
  step := onwards_succ Regs.next powerUp.ports wave {}
  oneCycle t := by
    cases t with
    | zero => exact ⟨Eq.symm, Eq.symm, Eq.symm⟩
    | succ t => exact plays.oneCycle t
  enabled := plays.enabled
  once t := by
    cases t with
    | zero => exact fun running => Bool.noConfusion running
    | succ t =>
        intro running
        have started := plays.raz t
        change (wave (t + 1)).razNI = true
        rw [show (wave t).razNI = true from running] at started
        rw [plays.raz]
        simp only [true_eq_decide_iff, decide_eq_true_eq] at started ⊢
        omega

theorem Plays.stretch (plays : Plays k wave) {a n : Nat}
    (stretch : Stretch (fun t => (run wave t).signals.bipO) a n) : n = 49999999 / 100 := by
  simp only [run_signals] at stretch
  refine plays.sequence.stretch (a := a + 1) rfl
    ⟨stretch.some, fun v next => ?_, fun i lt => ?_, ?_⟩
  · obtain rfl : a = v := Nat.succ_inj.mp next
    cases a with
    | zero => rfl
    | succ a => exact stretch.before a rfl
  · have sounds := stretch.sounds i lt
    rwa [Nat.add_right_comm] at sounds
  · have ended := stretch.ended
    rwa [Nat.add_right_comm] at ended

theorem Plays.lone (plays : Plays k wave) {a i : Nat} (lone : LoneCode k wave a i) :
    (run wave (a + i)).signals.latches = afterCode (wave a) i ∧
      (run wave (a + i)).signals.bipO = (afterCode (wave a) i).activationBip := by
  have alone : Lone (portsFrom wave) (regsFrom wave) a i := by
    refine ⟨?_, ?_, lone.rings, fun j lt => ?_⟩
    · exact (plays.raz a).trans (decide_eq_true lone.running)
    · cases a with
      | zero => rfl
      | succ v =>
          have idle := lone.idle v rfl
          rwa [run_signals] at idle
    · rw [Nat.add_right_comm]
      exact lone.alone (a + (j + 1)) (by omega) (by omega)
  have latches := plays.sequence.lone alone
  rw [Nat.add_right_comm] at latches
  rw [run_signals]
  exact ⟨latches, congrArg Latches.activationBip latches⟩

/-- Every beep that ends lasts 499 999 cycles; a code on its own gives one beep, or
two with a pause of 249 999 cycles between them. -/
theorem beep_timing (plays : Plays k wave) :
    (∀ a n, Stretch (fun t => (run wave t).signals.bipO) a n → n = 499999) ∧
      ∀ a i, LoneCode k wave a i →
        (run wave (a + i)).signals.latches = afterCode (wave a) i ∧
          (run wave (a + i)).signals.bipO = (afterCode (wave a) i).activationBip :=
  ⟨fun _ _ => plays.stretch, fun _ _ => plays.lone⟩

end Run

/-- One long press on port. -/
def longPort (t : Nat) : Ports :=
  ⟨false, decide (1 ≤ t), 0b00#2, if t = 2 then 0b10#2 else 0b00#2, 0b00#2, true⟩

theorem longPort_plays : Plays 1 longPort where
  enabled _ := rfl
  raz _ := rfl
  oneCycle t := by
    refine ⟨fun _ => rfl, fun same => ?_, fun _ => rfl⟩
    by_cases long : t + 1 = 2
    · obtain rfl : t = 1 := by omega
      exact same.symm
    · exact if_neg long

theorem longPort_lone (i : Nat) : LoneCode 1 longPort 2 i where
  running := by decide
  idle v next := by
    obtain rfl : v = 1 := by omega
    rfl
  rings := rfl
  alone t late _ := by
    have silent : (longPort t).btnBabordI = 0b00#2 := if_neg (by omega)
    rw [Ports.rings, silent]
    rfl

theorem longPort_beeps_twice :
    (run longPort (2 + 600000)).signals.bipO = false ∧
      (run longPort (2 + 800000)).signals.bipO = true := by
  have beeps := fun i => ((beep_timing longPort_plays).2 2 i (longPort_lone i)).2
  exact ⟨(beeps 600000).trans (by decide), (beeps 800000).trans (by decide)⟩

end Voilier.GestionBip
