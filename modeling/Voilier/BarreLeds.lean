import Voilier.BarreCorrections
import Voilier.BipPair

/-!
# The direction leds against the beep

In a course correction a direction led shows the second sequencer.  It repeats
the beep as long as the two sequencers are in phase.
-/

set_option autoImplicit false

namespace Voilier.GestionBarre

open DeltaCycle
open MachineEtat (State)
open GestionTempsAppuiBouton (released)

/-- The led of the side being turned to repeats the beep. -/
structure LedsFollow (s : Signals) : Prop where
  babord : s.codeFonctionO = 0b0110#4 ∨ s.codeFonctionO = 0b0111#4 →
    s.leds.lamps.ledBabordO = s.outBipO
  tribord : s.codeFonctionO = 0b0100#4 ∨ s.codeFonctionO = 0b0101#4 →
    s.leds.lamps.ledTribordO = s.outBipO

/-- The sequencer of the leds is where the main one is. -/
structure SequencersInPhase (s : Signals) : Prop where
  latches : s.leds.bip.latches = s.bip.latches
  oneSec : s.bip.latches.activationBip = true →
    s.leds.bip.counterBip.qnO = s.bip.counterBip.qnO
  zeroFiveSec : s.bip.latches.attenteBip = true →
    s.leds.bip.counterAttenteBip.qnO = s.bip.counterAttenteBip.qnO

/-- An STBY code of cycle `t + 1`, without a direction code, starts a beep: the main
sequencer was silent and no pause ends. -/
def LoneStbyBeep (wave : Nat → Ports) (t : Nat) : Prop :=
  let s := (run wave t).signals
  let s' := (run wave (t + 1)).signals
  (s'.btnAuto.appuiBtnO = 0b01#2 ∨ s'.btnAuto.appuiBtnO = 0b10#2) ∧
    ¬ (s'.btnBabord.appuiBtnO = 0b01#2 ∨ s'.btnBabord.appuiBtnO = 0b10#2 ∨
      s'.btnTribord.appuiBtnO = 0b01#2 ∨ s'.btnTribord.appuiBtnO = 0b10#2) ∧
    s.bip.latches.activationBip = false ∧ s'.bip.edge05sec.reO = false

section Cycle
variable {p p' : Ports} {x : Regs}

theorem next_turnLamps (p p' : Ports) (x : Regs) :
    let next := x.next p p'
    (next.machine.currentSt = .stAUTObabord1 ∨ next.machine.currentSt = .stAUTObabord10 →
        next.leds.lamps.ledBabordO = next.leds.bip.latches.activationBip) ∧
      (next.machine.currentSt = .stAUTOtribord1 ∨ next.machine.currentSt = .stAUTOtribord10 →
        next.leds.lamps.ledTribordO = next.leds.bip.latches.activationBip) := by
  intro next
  have lamps : ∃ before, next.leds.lamps = GestionLeds.lampsBody
      ((x.leds.rise (x.ledPorts p) (x.ledPorts₃ p p') (x.ledPorts' p p')).inputs
        (lampPorts p' (x.nextCodes p p') next.machine.currentSt)) before := ⟨_, rfl⟩
  obtain ⟨before, lamps⟩ := lamps
  rw [lamps]
  constructor
  · rintro (turn | turn) <;> rw [turn] <;> rfl
  · rintro (turn | turn) <;> rw [turn] <;> rfl

theorem sequencersInPhase_stable :
    SequencersInPhase (stable p x) ↔ GestionBip.InPhase x.bip x.leds.bip :=
  ⟨fun h => ⟨h.latches, h.oneSec, h.zeroFiveSec⟩, fun h => ⟨h.latches, h.oneSec, h.zeroFiveSec⟩⟩

theorem ledsFollow_of_inPhase
    (phase : GestionBip.InPhase (x.next p p').bip (x.next p p').leds.bip) :
    LedsFollow (stable p' (x.next p p')) := by
  have sounds : (x.next p p').leds.bip.latches.activationBip =
      (x.next p p').bip.latches.activationBip := by
    rw [phase.latches]
  obtain ⟨babord, tribord⟩ := next_turnLamps p p' x
  have shown : ∀ state : State,
      (stable p' (x.next p p')).codeFonctionO = MachineEtat.codeFonction state →
        (x.next p p').machine.currentSt = state := by
    intro state same
    exact MachineEtat.codeFonction_injective same
  constructor
  · intro turn
    refine (babord ?_).trans sounds
    rcases turn with ten | one
    · exact Or.inr (shown .stAUTObabord10 ten)
    · exact Or.inl (shown .stAUTObabord1 one)
  · intro turn
    refine (tribord ?_).trans sounds
    rcases turn with one | ten
    · exact Or.inl (shown .stAUTOtribord1 one)
    · exact Or.inr (shown .stAUTOtribord10 ten)

theorem ledPorts_twin (p : Ports) (x : Regs) :
    GestionBip.Twin (beepPorts p x.codes) (GestionLeds.bipPorts (x.ledPorts p)) :=
  ⟨rfl, rfl, rfl, rfl⟩

theorem ledPorts'_twin (p p' : Ports) (x : Regs) :
    GestionBip.Twin (beepPorts p' (x.nextCodes p p'))
      (GestionLeds.bipPorts (x.ledPorts' p p')) :=
  ⟨rfl, rfl, rfl, rfl⟩

end Cycle

/-! ## Runs -/

theorem regs_rests (wave : Nat → Ports) (t : Nat) :
    (regs wave t).bip.Rests ∧ (regs wave t).leds.bip.Rests := by
  have start : GestionBip.Regs.Rests {} := by
    refine ⟨⟨by decide, fun _ => Or.inl rfl⟩, ⟨by decide, fun _ => Or.inl rfl⟩⟩
  induction t with
  | zero => exact ⟨start.next _ _, start.next _ _⟩
  | succ t ih => exact ⟨ih.1.next _ _, ih.2.next _ _⟩

section Runs
variable {wave : Nat → Ports}

theorem inPhase_succ {t : Nat} (phase : GestionBip.InPhase (regs wave t).bip (regs wave t).leds.bip)
    (auto : (run wave (t + 1)).signals.machine.modeLedsO = true)
    (together : ¬ LoneStbyBeep wave t) :
    GestionBip.InPhase (regs wave (t + 1)).bip (regs wave (t + 1)).leds.bip := by
  obtain ⟨mine, other⟩ := regs_rests wave t
  rw [run_eq] at auto
  have auto : MachineEtat.modeLeds (regs wave (t + 1)).machine.currentSt = true := auto
  have running' : (wave (t + 1)).razNI = true := by
    by_contra resetting
    rw [regs_succ, next_currentSt, if_neg (fun both => resetting both.1)] at auto
    simp [MachineEtat.modeLeds] at auto
  refine phase.next mine other ((regs_coded wave t).fresh _ _) (ledPorts_twin _ _)
    (ledPorts'_twin _ _ _) running' rfl auto ?_
  rintro ⟨stby, alone, silent, noPause⟩
  apply together
  have pulse : (regs wave (t + 1)).bip.re05sec =
      (regs wave t).bip.re05secAtEdge (beepPorts (wave t) (regs wave t).codes) :=
    (GestionBip.next_re running').2
  simp only [LoneStbyBeep, run_eq]
  exact ⟨stby, alone, silent, pulse.trans noPause⟩

/-- From a cycle in which the sequencers are in phase, the leds repeat the beep as
long as the machine stays in AUTO and no STBY code starts a beep alone. -/
theorem leds_follow_beep {u t : Nat} (after : u ≤ t)
    (start : SequencersInPhase (run wave u).signals)
    (auto : ∀ v, u < v → v ≤ t → (run wave v).signals.machine.modeLedsO = true)
    (together : ∀ v, u ≤ v → v < t → ¬ LoneStbyBeep wave v) :
    LedsFollow (run wave t).signals := by
  have phase : GestionBip.InPhase (regs wave t).bip (regs wave t).leds.bip := by
    induction after with
    | refl =>
        rw [run_eq] at start
        exact sequencersInPhase_stable.mp start
    | @step t after ih =>
        have after : u ≤ t := after
        have before := ih (fun v later le => auto v later (by omega))
          (fun v later lt => together v later (by omega))
        exact inPhase_succ before (auto (t + 1) (by omega) (by omega)) (together t after (by omega))
  rw [run_eq]
  cases t with
  | zero => exact ledsFollow_of_inPhase phase
  | succ t => exact ledsFollow_of_inPhase phase

end Runs

/-! ## A press on port in AUTO -/

theorem leds_idle {wave : Nat → Ports} {n : Nat}
    (silent : ∀ t ≤ n, (regs wave t).codes.babord = 0b00#2 ∧ (regs wave t).codes.tribord = 0b00#2) :
    (regs wave n).leds.bip.Idle := by
  have quiet : ∀ t ≤ n, ∀ state, (GestionLeds.bipPorts (lampPorts (wave t)
      (regs wave t).codes state)).Silent := by
    intro t le state
    exact ⟨rfl, (silent t le).1, (silent t le).2⟩
  induction n with
  | zero => exact GestionBip.Regs.Idle.next ⟨rfl, rfl, rfl⟩ _ (quiet 0 (Nat.le_refl 0) _)
  | succ n ih =>
      have before := ih (fun t le => silent t (by omega)) fun t le => quiet t (by omega)
      exact before.next _ (quiet (n + 1) (Nat.le_refl _) _)

section Port
variable {wait t : Nat}

theorem port_unasked (early : t ≤ wait + 5) :
    (regs (startUp 1 (pressThenPort wait)) t).codes.babord = 0b00#2 ∧
      (regs (startUp 1 (pressThenPort wait)) t).codes.tribord = 0b00#2 := by
  cases t with
  | zero => exact ⟨GestionTempsAppuiBouton.Regs.next_silent rfl _ _,
      GestionTempsAppuiBouton.Regs.next_silent rfl _ _⟩
  | succ t =>
      have babord : released (fun t => (startUp 1 (pressThenPort wait) t).bpBabordI) t = false :=
        released_later (by omega)
      have tribord :
          released (fun t => (startUp 1 (pressThenPort wait) t).bpTribordI) t = false := by
        cases t <;> rfl
      exact ⟨code_still babord babord_asked, code_still tribord tribord_asked⟩

theorem port_inPhase (asks : Asks (startUp 1 (pressThenPort wait)) (wait + 5) .stAUTObabord1) :
    SequencersInPhase (run (startUp 1 (pressThenPort wait)) (wait + 5)).signals := by
  have idle := asks.idle
  rw [run_latches] at idle
  rw [run_eq]
  refine sequencersInPhase_stable.mpr ⟨?_, fun beeping => ?_, fun pausing => ?_⟩
  · rw [(leds_idle fun _ => port_unasked).latches, idle]
  · simp [idle] at beeping
  · simp [idle] at pausing

theorem port_turns (asks : Asks (startUp 1 (pressThenPort wait)) (wait + 5) .stAUTObabord1) :
    (run (startUp 1 (pressThenPort wait)) (wait + 6 + 1)).signals.codeFonctionO = 0b0111#4 ∧
      (run (startUp 1 (pressThenPort wait)) (wait + 6 + 1)).signals.outBipO = true := by
  have first : beepsOf .stAUTObabord1 = 499999 := rfl
  obtain ⟨busy, due⟩ := asks.rank
  rw [first] at due
  have command := command_lasts (t := wait + 6) rfl asks.nextSt busy 0 fun i lt => by omega
  rw [due, if_pos (by omega), Nat.add_zero] at command
  have left := (bip_sequence 1 (pressThenPort wait)).rank_add (t := wait + 6) 1 fun i lt => by
    obtain rfl : i = 0 := by omega
    have silent : (regs (startUp 1 (pressThenPort wait)) (wait + 6 + (0 + 1))).codes = noCodes :=
      port_silent (by omega) (by omega)
    rw [silent]
    rfl
  rw [due] at left
  have beeping : (regs (startUp 1 (pressThenPort wait)) (wait + 6 + 1)).bip.latches.activationBip =
      true := GestionBip.Regs.beeping_of_rank (by omega) (by omega)
  exact ⟨command, (run_outBipO _ _).trans beeping⟩

theorem port_modeLeds (asks : Asks (startUp 1 (pressThenPort wait)) (wait + 5) .stAUTObabord1)
    (late : wait + 5 < t) (upTo : t ≤ wait + 6 + 1) :
    (run (startUp 1 (pressThenPort wait)) t).signals.machine.modeLedsO = true := by
  rw [run_eq]
  obtain rfl | rfl : t = wait + 5 + 1 ∨ t = wait + 6 + 1 := by omega
  · have auto := asks.auto
    rw [run_currentSt] at auto
    exact congrArg MachineEtat.modeLeds auto
  · have turning := (running_currentSt (show 1 ≤ wait + 6 by omega)).trans asks.nextSt
    exact congrArg MachineEtat.modeLeds turning

theorem port_noLone (late : 6 ≤ t) : ¬ LoneStbyBeep (startUp 1 (pressThenPort wait)) t := by
  obtain ⟨d, rfl⟩ := Nat.exists_eq_add_of_le' late
  have silent : (run (startUp 1 (pressThenPort wait)) (d + 6 + 1)).signals.btnAuto.appuiBtnO =
      0b00#2 := by
    rw [run_eq]
    exact code_still (onePress_quiet d) auto_asked
  rintro ⟨stby, -⟩
  rw [silent] at stby
  simp at stby

end Port

/-- The helm in the correction that a press on port, long after one on STBY, asks for. -/
def portCorrection : Signals :=
  (run (startUp 1 (pressThenPort 2000000)) (2000000 + 6 + 1)).signals

theorem leds_follow_correction :
    portCorrection.codeFonctionO = 0b0111#4 ∧ portCorrection.outBipO = true ∧
      portCorrection.leds.lamps.ledBabordO = true := by
  have start : (regs (startUp 1 (pressThenPort 2000000)) 7).machine.nextSt = .stAUTO := by
    decide +kernel
  have asks := port_asks start (by decide)
  obtain ⟨command, beep⟩ := port_turns asks
  have follow := leds_follow_beep (u := 2000000 + 5) (t := 2000000 + 6 + 1) (by decide)
    (port_inPhase asks) (fun v later upTo => port_modeLeds asks (by omega) (by omega))
    fun v later _ => port_noLone (by omega)
  exact ⟨command, beep, (follow.babord (Or.inr command)).trans beep⟩

/-- From an idle standby, a press on STBY and port together: the machine enters
the correction with the beep of the press, which the leds have missed. -/
theorem leds_miss_beep :
    ¬ ∀ (k : Nat) (buttons : Nat → Buttons) (t : Nat),
      LedsFollow (run (startUp k buttons) t).signals := by
  intro follow
  have port := (follow 1 (fun t =>
    { bpSTBYI := decide (2 ≤ t ∧ t < 5), bpBabordI := decide (2 ≤ t ∧ t < 5) }) 8).babord
  rw [run_eq] at port
  exact absurd port (by decide +kernel)

end Voilier.GestionBarre
