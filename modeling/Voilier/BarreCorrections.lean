import Voilier.BarreRest

/-!
# How long a course correction lasts

A correction that has begun is held by the beeps that are due, and by nothing else: it
ends in the cycle after the last of them.
-/

set_option autoImplicit false

namespace Voilier.MachineEtat

/-- A beep or a choice holds a correction, whatever the codes. -/
theorem decode_busy {i : Inputs} {current : State} (turning : current.turning = true)
    (busy : i.activationBipI = true ∨ i.tempsChoixBtnBipI = true) :
    decode i current current = current := by
  cases current <;> simp only [State.turning, Bool.false_eq_true] at turning <;>
    rcases busy with beeping | choosing <;> simp [decode, *]

end Voilier.MachineEtat

namespace Voilier.GestionBarre

open DeltaCycle
open MachineEtat (State decode modeLeds_turning)
open GestionTempsAppuiBouton (released Phase)

section Cycle
variable {p p' : Ports} {x : Regs} {state : State}

theorem decode_noCodes (p : Ports) (l : GestionBip.Latches) :
    decode (machineInputs p noCodes l) .stAUTO .stAUTO = .stAUTO := by
  simp [decode, machineInputs, noCodes]

theorem next_nextSt (running : p.razNI = true) (running' : p'.razNI = true)
    (entering : x.machine.nextSt = state) :
    (x.next p p').machine.nextSt =
      decode (machineInputs p' (x.next p p').codes (x.next p p').bip.latches) state
        (decode (machineInputs p' (x.next p p').codes (x.beepWithCodes p p')) state
          (decode (machineInputs p' (x.next p p').codes x.bip.latches) state
            (decode (machineInputs p' x.codes x.bip.latches) state state))) := by
  have atEdge : x.machine.atEdge p.razNI = state := by
    simp [MachineEtat.Regs.atEdge, running, entering]
  have entered : x.machine.entered p.razNI p'.razNI = state := by
    simp [MachineEtat.Regs.entered, running', atEdge]
  change (MachineEtat.Regs.next p.razNI p'.razNI (x.phases p p') x.machine).nextSt = _
  simp only [MachineEtat.Regs.next, Regs.phases, codesAtEdge_of_running running', atEdge, entered,
    entering, MachineEtat.decode_decode]
  rfl

/-- A correction under way meets the end of its beeps in the last evaluation only. -/
theorem next_turning (running : p.razNI = true) (running' : p'.razNI = true)
    (turning : state.turning = true) (entering : x.machine.nextSt = state)
    (busy : x.bip.latches.activationBip = true ∨ x.bip.latches.tempChoixBtn = true) :
    (x.next p p').machine.nextSt =
      decode (machineInputs p' (x.next p p').codes (x.next p p').bip.latches) state state := by
  have coded : (x.beepWithCodes p p').activationBip = true ∨
      (x.beepWithCodes p p').tempChoixBtn = true := by
    rcases busy with beeping | choosing
    · exact Or.inl (GestionBip.withCodes_beep running' beeping)
    · exact Or.inr (GestionBip.withCodes_choice _ _ choosing)
  have holds : ∀ (c : Codes) {l : GestionBip.Latches},
      (l.activationBip = true ∨ l.tempChoixBtn = true) →
        decode (machineInputs p' c l) state state = state := by
    intro _ _ held
    exact MachineEtat.decode_busy turning held
  rw [next_nextSt running running' entering, holds _ busy, holds _ busy, holds _ coded]

theorem next_auto (running : p.razNI = true) (running' : p'.razNI = true)
    (silent : x.codes = noCodes) (silent' : (x.next p p').codes = noCodes)
    (entering : x.machine.nextSt = .stAUTO) : (x.next p p').machine.nextSt = .stAUTO := by
  rw [next_nextSt running running' entering, silent, silent', decode_noCodes, decode_noCodes,
    decode_noCodes, decode_noCodes]

end Cycle

/-! ## Runs -/

def Signals.codes (s : Signals) : Codes :=
  ⟨s.btnAuto.appuiBtnO, s.btnBabord.appuiBtnO, s.btnTribord.appuiBtnO⟩

theorem run_codes (wave : Nat → Ports) (t : Nat) :
    (run wave t).signals.codes = (regs wave t).codes := by
  rw [run_eq]
  rfl

theorem run_latches (wave : Nat → Ports) (t : Nat) :
    (run wave t).signals.bip.latches = (regs wave t).bip.latches := by
  rw [run_eq]
  rfl

theorem run_outBipO (wave : Nat → Ports) (t : Nat) :
    (run wave t).signals.outBipO = (regs wave t).bip.latches.activationBip := by
  rw [run_eq]
  rfl

section Runs
variable {k : Nat} {buttons : Nat → Buttons} {t : Nat} {state : State}

/-- Up to its release the reset keeps corrections and AUTO away. -/
theorem running_of_nextSt (entering : (regs (startUp k buttons) t).machine.nextSt = state)
    (auto : MachineEtat.modeLeds state = true) : k < t := by
  by_contra early
  obtain ⟨kept, standby, -, machine⟩ := startUp_machine k buttons (show t ≤ k by omega)
  have steered : MachineEtat.steered (buttons t).bpBabordI (buttons t).bpTribordI kept = state :=
    (congrArg MachineEtat.Regs.nextSt machine).symm.trans entering
  have dark : MachineEtat.modeLeds state = false :=
    MachineEtat.modeLeds_standby (steered ▸ steered_standby standby)
  exact Bool.noConfusion (auto.symm.trans dark)

theorem busy_iff : (regs (startUp k buttons) t).bip.latches ≠ {} ↔
    (regs (startUp k buttons) t).bip.latches.activationBip = true ∨
      (regs (startUp k buttons) t).bip.latches.tempChoixBtn = true := by
  have sequenced := regs_sequenced k buttons t
  have choice := sequenced.choice
  generalize (regs (startUp k buttons) t).bip.latches = l at choice ⊢
  rcases l with ⟨activation, attente, choix⟩
  cases activation <;> cases attente <;> cases choix <;> simp at choice ⊢

theorem nextSt_lasts (turning : state.turning = true)
    (entering : (regs (startUp k buttons) t).machine.nextSt = state)
    (busy : (regs (startUp k buttons) t).bip.latches ≠ {}) (n : Nat)
    (alone : ∀ i < n, (regs (startUp k buttons) (t + (i + 1))).codes = noCodes) :
    (regs (startUp k buttons) (t + n)).machine.nextSt =
      if n < (regs (startUp k buttons) t).bip.rank then state else .stAUTO := by
  have sequence := bip_sequence k buttons
  have rests : ∀ m ≤ n, (regs (startUp k buttons) (t + m)).bip.latches = {} ↔
      (regs (startUp k buttons) t).bip.rank ≤ m := fun m le =>
    sequence.rests_iff m fun i lt => by
      rw [alone i (by omega)]
      rfl
  have due : 0 < (regs (startUp k buttons) t).bip.rank := by
    by_contra none
    exact busy ((rests 0 (Nat.zero_le n)).mpr (by omega))
  have later : k < t := running_of_nextSt entering (modeLeds_turning turning)
  induction n with
  | zero => rw [if_pos due]; exact entering
  | succ n ih =>
      have held := ih (fun i lt => alone i (by omega)) fun m le => rests m (by omega)
      have running : (startUp k buttons (t + n)).razNI = true :=
        (startUp_razNI k buttons _).mpr (by omega)
      have running' : (startUp k buttons (t + n + 1)).razNI = true :=
        (startUp_razNI k buttons _).mpr (by omega)
      have silent := alone n (Nat.lt_succ_self n)
      rw [← Nat.add_assoc] at silent ⊢
      by_cases before : n < (regs (startUp k buttons) t).bip.rank
      · rw [if_pos before] at held
        have sounding := busy_iff.mp fun idle => by
          have early := (rests n (Nat.le_succ n)).mp idle
          omega
        rw [regs_succ, next_turning running running' turning held sounding, ← regs_succ, silent]
        by_cases still : n + 1 < (regs (startUp k buttons) t).bip.rank
        · rw [if_pos still]
          exact MachineEtat.decode_busy turning <| busy_iff.mp fun idle => by
            have early := (rests (n + 1) (Nat.le_refl _)).mp idle
            omega
        · rw [if_neg still, Nat.add_assoc, (rests (n + 1) (Nat.le_refl _)).mpr (by omega)]
          refine MachineEtat.decode_turning state turning ?_ rfl rfl
          cases state <;> rfl
      · rw [if_neg before] at held
        rw [if_neg (by omega)]
        obtain ⟨m, rfl⟩ := Nat.exists_eq_add_of_le' (show 1 ≤ n by omega)
        exact next_auto running running' (alone m (by omega)) silent held

theorem auto_kept (later : k ≤ t) (entering : (regs (startUp k buttons) t).machine.nextSt = .stAUTO)
    {n : Nat} (silent : ∀ i ≤ n, (regs (startUp k buttons) (t + i)).codes = noCodes) :
    (regs (startUp k buttons) (t + n)).machine.nextSt = .stAUTO := by
  induction n with
  | zero => exact entering
  | succ n ih =>
      exact next_auto ((startUp_razNI k buttons (t + n)).mpr (by omega))
        ((startUp_razNI k buttons (t + n + 1)).mpr (by omega)) (silent n (Nat.le_succ n))
        (silent (n + 1) (Nat.le_refl _)) (ih fun i le => silent i (by omega))

theorem command_lasts (turning : state.turning = true)
    (entering : (regs (startUp k buttons) t).machine.nextSt = state)
    (busy : (regs (startUp k buttons) t).bip.latches ≠ {}) (n : Nat)
    (alone : ∀ i < n, (regs (startUp k buttons) (t + (i + 1))).codes = noCodes) :
    (run (startUp k buttons) (t + n + 1)).signals.codeFonctionO =
      if n < (regs (startUp k buttons) t).bip.rank then MachineEtat.codeFonction state
      else 0b0011#4 := by
  have later : k < t := running_of_nextSt entering (modeLeds_turning turning)
  have entered := @running_currentSt k buttons (t + n) (by omega)
  rw [nextSt_lasts turning entering busy n alone] at entered
  rw [run_eq]
  change MachineEtat.codeFonction _ = _
  rw [entered, apply_ite MachineEtat.codeFonction]
  rfl

/-- A correction lasts as long as the beeps that are due when it begins: from there on,
and without further codes, its command goes on for as many cycles. -/
theorem correction_lasts (turning : state.turning = true)
    (entering : (run (startUp k buttons) t).signals.machine.nextSt = state)
    (busy : (run (startUp k buttons) t).signals.bip.latches ≠ {}) (n : Nat)
    (alone : ∀ i < n, (run (startUp k buttons) (t + (i + 1))).signals.codes = noCodes) :
    (run (startUp k buttons) (t + n + 1)).signals.codeFonctionO =
      if n < (run (startUp k buttons) t).signals.bip.rank then MachineEtat.codeFonction state
      else 0b0011#4 := by
  simp only [run_codes] at alone
  rw [run_eq _ t] at entering busy ⊢
  exact command_lasts turning entering busy n alone

end Runs

/-- A press on STBY and port together. -/
def together (t : Nat) : Buttons := { bpSTBYI := onePress t, bpBabordI := onePress t }

theorem together_still (i : Nat) : anyReleased (startUp 1 together) (i + 6) = false := by
  have quiet : released onePress (i + 6) = false := onePress_quiet i
  change (released onePress (i + 6) || released onePress (i + 6) || false) = false
  rw [quiet]
  rfl

theorem together_ends :
    (run (startUp 1 together) (7 + 499998 + 1)).signals.codeFonctionO = 0b0011#4 := by
  have rank : (run (startUp 1 together) 7).signals.bip.rank = 499998 := by
    rw [run_eq]
    decide +kernel
  have lasts := @correction_lasts 1 together 7 .stAUTObabord1 rfl
    (by rw [run_eq]; decide +kernel) (by rw [run_eq]; decide +kernel) 499998 fun i _ => by
      rw [run_codes, show 7 + (i + 1) = i + 1 + 6 + 1 by omega]
      exact codes_silent (together_still (i + 1))
  rwa [rank, if_neg (Nat.lt_irrefl _)] at lasts

section Asked
variable {k : Nat} {buttons : Nat → Buttons} {state : State}

/-! ### A correction that is asked for at rest -/

/-- The codes of a cycle that ask for a correction and for nothing else. -/
def soleCode : State → Codes
  | .stAUTObabord1 => ⟨0b00#2, 0b01#2, 0b00#2⟩
  | .stAUTObabord10 => ⟨0b00#2, 0b10#2, 0b00#2⟩
  | .stAUTOtribord1 => ⟨0b00#2, 0b00#2, 0b01#2⟩
  | .stAUTOtribord10 => ⟨0b00#2, 0b00#2, 0b10#2⟩
  | _ => noCodes

/-- One beep for a correction of one degree; two with a pause for one of ten. -/
def beepsOf : State → Nat
  | .stAUTObabord10 | .stAUTOtribord10 => 499999 + 249999 + 499999
  | _ => 499999

theorem decode_soleCode (turning : state.turning = true) (p : Ports) (l : GestionBip.Latches)
    (next : State) : decode (machineInputs p (soleCode state) l) .stAUTO next = state := by
  cases state <;> first | rfl | simp [State.turning] at turning

/-- The code of `state` alone, in cycle `c + 1`, finds the helm in AUTO, and silent in
cycle `c`. -/
structure Asks (wave : Nat → Ports) (c : Nat) (state : State) : Prop where
  turning : state.turning = true
  auto : (run wave (c + 1)).signals.machine.currentSt = .stAUTO
  silent : (run wave c).signals.codes = noCodes
  idle : (run wave c).signals.bip.latches = {}
  code : (run wave (c + 1)).signals.codes = soleCode state

theorem Asks.later {c : Nat} (asks : Asks (startUp k buttons) c state) : k ≤ c := by
  by_contra early
  obtain ⟨kept, -, -, machine⟩ := startUp_machine k buttons (show c + 1 ≤ k by omega)
  have auto := asks.auto
  rw [run_currentSt] at auto
  have standby : (regs (startUp k buttons) (c + 1)).machine.currentSt = .stSTBY :=
    congrArg MachineEtat.Regs.currentSt machine
  exact absurd (standby.symm.trans auto) (by decide)

theorem Asks.nextSt {c : Nat} (asks : Asks (startUp k buttons) c state) :
    (regs (startUp k buttons) (c + 1)).machine.nextSt = state := by
  have later := asks.later
  obtain ⟨turning, auto, silent, idle, code⟩ := asks
  rw [run_codes] at silent code
  rw [run_currentSt] at auto
  have entering : (regs (startUp k buttons) c).machine.nextSt = .stAUTO :=
    (running_currentSt later).symm.trans auto
  rw [regs_succ, next_nextSt ((startUp_razNI k buttons c).mpr later)
    ((startUp_razNI k buttons (c + 1)).mpr (by omega)) entering, ← regs_succ, silent,
    decode_noCodes, code, decode_soleCode turning]

theorem Asks.rank {c : Nat} (asks : Asks (startUp k buttons) c state) :
    (regs (startUp k buttons) (c + 1)).bip.latches ≠ {} ∧
      (regs (startUp k buttons) (c + 1)).bip.rank = beepsOf state := by
  have later := asks.later
  obtain ⟨turning, -, -, idle, code⟩ := asks
  rw [run_codes] at code
  rw [run_latches] at idle
  have sequence := bip_sequence k buttons
  have stepped := sequence.latches_step (t := c) ((startUp_razNI k buttons (c + 1)).mpr (by omega))
  rw [sequence.re1sec_silent (by rw [idle]), sequence.re05sec_silent (by rw [idle]), idle, code]
    at stepped
  have fresh := sequence.oneSec_silent (t := c) (by rw [idle])
  rw [GestionBip.Regs.rank, stepped, fresh]
  cases state with
  | stAUTObabord1 | stAUTObabord10 | stAUTOtribord1 | stAUTOtribord10 =>
      constructor <;> simp [GestionBip.due, GestionBip.Latches.step, GestionBip.Ports.rings,
        GestionBip.Ports.opensChoice, beepPorts, soleCode, beepsOf]
  | _ => simp [State.turning] at turning

/-- A code that finds the helm in AUTO and at rest commands its correction for 499 999
cycles if it is a short one, and for 1 249 997 if it is a long one. -/
theorem lone_correction {c : Nat} (asks : Asks (startUp k buttons) c state) (n : Nat)
    (alone : ∀ i < n, (run (startUp k buttons) (c + 1 + (i + 1))).signals.codes = noCodes) :
    (run (startUp k buttons) (c + 1 + n + 1)).signals.codeFonctionO =
      if n < beepsOf state then MachineEtat.codeFonction state else 0b0011#4 := by
  obtain ⟨busy, due⟩ := asks.rank
  simp only [run_codes] at alone
  rw [← due]
  exact command_lasts asks.turning asks.nextSt busy n alone

end Asked

/-! ## One degree to port -/

/-- A press on STBY, and one on port some time later. -/
def pressThenPort (wait t : Nat) : Buttons :=
  { bpSTBYI := onePress t, bpBabordI := onePress (t - wait) }

section Port
variable {wait t : Nat}

theorem released_later (other : t ≠ wait + 5) :
    released (fun t => onePress (t - wait)) t = false := by
  cases t with
  | zero => rfl
  | succ t =>
      by_contra release
      simp only [released, onePress, pressAt, Bool.not_eq_false, Bool.and_eq_true,
        Bool.not_eq_true', decide_eq_true_eq, decide_eq_false_iff_not] at release
      omega

theorem port_still (late : 6 ≤ t) (other : t ≠ wait + 5) :
    anyReleased (startUp 1 (pressThenPort wait)) t = false := by
  obtain ⟨d, rfl⟩ := Nat.exists_eq_add_of_le' late
  have auto : released (fun t => (startUp 1 (pressThenPort wait) t).bpSTBYI) (d + 6) = false :=
    onePress_quiet d
  have babord : released (fun t => (startUp 1 (pressThenPort wait) t).bpBabordI) (d + 6) = false :=
    released_later other
  rw [anyReleased, auto, babord]
  rfl

theorem port_silent (late : 7 ≤ t) (other : t ≠ wait + 6) :
    (regs (startUp 1 (pressThenPort wait)) t).codes = noCodes := by
  obtain ⟨d, rfl⟩ := Nat.exists_eq_add_of_le' (show 1 ≤ t by omega)
  exact codes_silent (port_still (by omega) (by omega))

theorem portTimer_step {phase : Phase} {pressed : Bool}
    (here : (regs (startUp 1 (pressThenPort wait)) t).btnBabord = phase.regs) (running : 1 ≤ t)
    (button : onePress (t - wait) = pressed) (admits : phase.Admits pressed) :
    (regs (startUp 1 (pressThenPort wait)) (t + 1)).btnBabord = (phase.next pressed).regs := by
  subst button
  change (regs (startUp 1 (pressThenPort wait)) t).btnBabord.next _ _ = _
  rw [here]
  exact Phase.next_regs ((startUp_razNI 1 (pressThenPort wait) t).mpr running)
    ((startUp_razNI 1 (pressThenPort wait) (t + 1)).mpr (by omega)) admits

theorem portTimer_low (early : t ≤ wait + 2) :
    (regs (startUp 1 (pressThenPort wait)) t).btnBabord = (Phase.counting 0).regs := by
  have low : ∀ {t}, t < wait + 2 → onePress (t - wait) = false := by
    intro t lt
    exact decide_eq_false (by omega)
  induction t with
  | zero => exact GestionTempsAppuiBouton.reset_regs rfl rfl
  | succ t ih =>
      have here := ih (by omega)
      cases t with
      | zero =>
          change (regs (startUp 1 (pressThenPort wait)) 0).btnBabord.next _ _ = _
          rw [here]
          exact GestionTempsAppuiBouton.reset_regs rfl (low (t := 0) (by omega))
      | succ t =>
          exact portTimer_step here (by omega) (low (by omega)) ⟨by decide, fun _ => by decide⟩

theorem portTimer_code :
    (regs (startUp 1 (pressThenPort wait)) (wait + 6)).btnBabord = (Phase.shown 3).regs := by
  have button : ∀ j, onePress (wait + j - wait) = onePress j := by
    intro j
    exact congrArg onePress (Nat.add_sub_cancel_left wait j)
  have first := portTimer_step (portTimer_low (Nat.le_refl (wait + 2))) (by omega) (button 2)
    ⟨by decide, by decide⟩
  have second := portTimer_step first (by omega) (button 3) ⟨by decide, by decide⟩
  have third := portTimer_step second (by omega) (button 4) ⟨by decide, by decide⟩
  exact portTimer_step third (by omega) (button 5) ⟨by decide, by decide⟩

theorem port_auto (start : (regs (startUp 1 (pressThenPort wait)) 7).machine.nextSt = .stAUTO)
    (i : Nat) (early : i + 2 ≤ wait) :
    (regs (startUp 1 (pressThenPort wait)) (7 + i)).machine.nextSt = .stAUTO :=
  auto_kept (by decide) start fun _ _ => port_silent (by omega) (by omega)

theorem port_code (later : 1 ≤ wait) : (regs (startUp 1 (pressThenPort wait)) (wait + 6)).codes =
    soleCode .stAUTObabord1 := by
  have auto : (regs (startUp 1 (pressThenPort wait)) (wait + 6)).codes.auto = 0b00#2 := by
    obtain ⟨d, rfl⟩ := Nat.exists_eq_add_of_le' later
    exact code_still (onePress_quiet d) auto_asked
  have tribord : (regs (startUp 1 (pressThenPort wait)) (wait + 6)).codes.tribord = 0b00#2 :=
    code_still (t := wait + 5) rfl tribord_asked
  have babord : (regs (startUp 1 (pressThenPort wait)) (wait + 6)).codes.babord = 0b01#2 := by
    rw [Regs.codes, portTimer_code]
    rfl
  generalize (regs (startUp 1 (pressThenPort wait)) (wait + 6)).codes = c at auto babord tribord
  rcases c with ⟨_, _, _⟩
  subst auto babord tribord
  rfl

theorem port_asks (start : (regs (startUp 1 (pressThenPort wait)) 7).machine.nextSt = .stAUTO)
    (long : 1250000 ≤ wait) :
    Asks (startUp 1 (pressThenPort wait)) (wait + 5) .stAUTObabord1 := by
  obtain ⟨i, rfl⟩ := Nat.exists_eq_add_of_le' (show 2 ≤ wait by omega)
  have idle : (regs (startUp 1 (pressThenPort (i + 2))) (7 + i)).bip.latches = {} := by
    refine ((bip_sequence 1 (pressThenPort (i + 2))).rests_iff (t := 7) i fun j lt => ?_).mpr ?_
    · rw [port_silent (by omega) (by omega)]
      rfl
    · exact (GestionBip.due_le _ _ _).trans (by omega)
  have auto := (running_currentSt (show 1 ≤ 7 + i by omega)).trans (port_auto start i (by omega))
  rw [show 7 + i = i + 2 + 5 by omega] at idle auto
  constructor
  · rfl
  · rw [run_currentSt]
    exact auto
  · rw [run_codes]
    exact port_silent (by omega) (by omega)
  · rw [run_latches]
    exact idle
  · rw [run_codes]
    exact port_code (by omega)

end Port

theorem port_correction :
    (run (startUp 1 (pressThenPort 2000000)) (2000005 + 1 + 499999 + 1)).signals.codeFonctionO =
      0b0011#4 := by
  have start : (regs (startUp 1 (pressThenPort 2000000)) 7).machine.nextSt = .stAUTO := by
    decide +kernel
  refine (lone_correction (port_asks start (by decide)) 499999 fun i _ => ?_).trans
    (if_neg (Nat.lt_irrefl 499999))
  rw [run_codes]
  exact port_silent (by omega) (by omega)

end Voilier.GestionBarre
