import Voilier.BarreTurns

/-!
# The direction leds in standby

In standby the leds show the buttons and the command is that of the state machine,
which answers one button at a time and a cycle later.
-/

set_option autoImplicit false

namespace Voilier.GestionBarre

open DeltaCycle
open MachineEtat (State)

/-! ## What an evaluation of the led process shows -/

section Lamps
open GestionLeds

theorem standbyLamps_babord (i : Inputs) (s : Lamps) :
    (standbyLamps i s).ledBabordO = i.btnBabordI := by
  unfold standbyLamps
  cases i.btnBabordI <;> simp [apply_ite Lamps.ledBabordO]

/-- With both buttons pressed the starboard led keeps what it showed. -/
theorem standbyLamps_tribord (i : Inputs) (s : Lamps) :
    (standbyLamps i s).ledTribordO =
      if i.btnTribordI = true ∧ i.btnBabordI = true then s.ledTribordO else i.btnTribordI := by
  unfold standbyLamps
  cases i.btnBabordI <;> cases i.btnTribordI <;> simp [apply_ite Lamps.ledTribordO]

theorem lampsBody_both {i : Inputs} (standby : i.modeLedsI = false) (babord : i.btnBabordI = true)
    (tribord : i.btnTribordI = true) (s : Lamps) : (lampsBody i s).ledTribordO = s.ledTribordO := by
  unfold lampsBody
  rw [if_pos standby, standbyLamps_tribord, if_pos ⟨tribord, babord⟩]

theorem respond_both {i i' : Inputs} (standby : i'.modeLedsI = false)
    (babord : i'.btnBabordI = true) (tribord : i'.btnTribordI = true) (s : Lamps) :
    (respond i i' s).ledTribordO = s.ledTribordO := by
  unfold respond
  split_ifs
  · exact lampsBody_both standby babord tribord s
  · rfl

end Lamps

/-! ## One cycle -/

section Cycle
variable {p p' : Ports} {x : Regs}

theorem next_lampsBody (p p' : Ports) (x : Regs) :
    ∃ before, (x.next p p').leds.lamps = GestionLeds.lampsBody
      ((x.leds.rise (x.ledPorts p) (x.ledPorts₃ p p') (x.ledPorts' p p')).inputs
        (lampPorts p' (x.nextCodes p p') (x.next p p').machine.currentSt)) before :=
  ⟨_, rfl⟩

theorem next_directions (standby : MachineEtat.modeLeds (x.next p p').machine.currentSt = false) :
    (x.next p p').leds.lamps.ledBabordO = p'.bpBabordI ∧
      (¬ (p'.bpTribordI = true ∧ p'.bpBabordI = true) →
        (x.next p p').leds.lamps.ledTribordO = p'.bpTribordI) := by
  obtain ⟨before, lamps⟩ := next_lampsBody p p' x
  rw [lamps]
  unfold GestionLeds.lampsBody
  rw [if_pos (show GestionLeds.Inputs.modeLedsI _ = false from standby), standbyLamps_babord,
    standbyLamps_tribord]
  exact ⟨rfl, fun one => if_neg one⟩

theorem next_both (running : p.razNI = true) (running' : p'.razNI = true)
    (standby : MachineEtat.modeLeds x.machine.currentSt = false)
    (standby' : MachineEtat.modeLeds (x.next p p').machine.currentSt = false)
    (babord : p.bpBabordI = true) (tribord : p.bpTribordI = true)
    (babord' : p'.bpBabordI = true) (tribord' : p'.bpTribordI = true) :
    (x.next p p').leds.lamps.ledTribordO = x.leds.lamps.ledTribordO := by
  have standby₃ : MachineEtat.modeLeds (x.machine.atEdge p.razNI) = false := by
    rw [next_currentSt, if_pos ⟨running', running⟩] at standby'
    simpa [MachineEtat.Regs.atEdge, running] using standby'
  refine (lampsBody_both standby' babord' tribord' _).trans ?_
  refine (respond_both standby' babord' tribord' _).trans ?_
  refine (respond_both standby' babord' tribord' _).trans ?_
  refine (respond_both standby' babord' tribord' _).trans ?_
  refine (respond_both standby₃ babord' tribord' _).trans ?_
  refine (respond_both standby babord' tribord' _).trans ?_
  exact lampsBody_both standby babord tribord _

theorem next_held {state : State} {codes : Codes} {latches : GestionBip.Latches}
    (running : p.razNI = true) (running' : p'.razNI = true) (steering : state.steering = true)
    (calls : (machineInputs p' codes latches).Calls state)
    (entering : x.machine.nextSt = state) : (x.next p p').machine.nextSt = state := by
  have held : ∀ c l, MachineEtat.decode (machineInputs p' c l) state state = state := by
    intro c l
    refine MachineEtat.decode_held steering ?_
    cases state <;> first | exact calls | simp [State.steering] at steering
  have atEdge : x.machine.atEdge p.razNI = state := by
    simp [MachineEtat.Regs.atEdge, running, entering]
  have entered : x.machine.entered p.razNI p'.razNI = state := by
    simp [MachineEtat.Regs.entered, running', atEdge]
  change (MachineEtat.Regs.next p.razNI p'.razNI (x.phases p p') x.machine).nextSt = state
  simp only [MachineEtat.Regs.next, Regs.phases, atEdge, entered, entering, held]

/-- A direction is not entered while only the other button is pressed. -/
theorem not_crossed {i : MachineEtat.Inputs} {current next : State} (leads : current.Leads next)
    (settled : MachineEtat.decode i current next = next) :
    (next = .stSTBYtribord → ¬ (i.btnBabordI = true ∧ i.btnTribordI = false)) ∧
      (next = .stSTBYbabord → ¬ (i.btnBabordI = false ∧ i.btnTribordI = true)) := by
  constructor
  · rintro rfl ⟨babord, tribord⟩
    cases leads with
    | stays => simp [MachineEtat.decode, tribord] at settled
    | steers =>
        simp only [MachineEtat.decode, babord, if_true] at settled
        split_ifs at settled
    | turns turning => simp [State.turning] at turning
  · rintro rfl ⟨babord, tribord⟩
    cases leads with
    | stays => simp [MachineEtat.decode, babord] at settled
    | steers =>
        simp only [MachineEtat.decode, babord, tribord, Bool.false_eq_true, if_false,
          if_true] at settled
        split_ifs at settled
    | turns turning => simp [State.turning] at turning

end Cycle

/-! ## Runs -/

theorem regs_leads (k : Nat) (buttons : Nat → Buttons) (t : Nat) :
    (regs (startUp k buttons) t).machine.currentSt.Leads
      (regs (startUp k buttons) t).machine.nextSt := by
  induction t with
  | zero =>
      exact MachineEtat.Regs.next_leads _ (by simp [powerUp]) (.stays .stSTBY) fun _ => rfl
  | succ t ih =>
      refine MachineEtat.Regs.next_leads _ ?_ ih (regs_wf (startUp k buttons) t).standby
      simp only [startUp_razNI]
      omega

/-- The answer of the machine, in standby, to the direction buttons of a cycle. -/
def answer (babord tribord : Bool) : State → State
  | .stSTBYbabord => if babord then .stSTBYbabord else .stSTBY
  | .stSTBYtribord => if tribord then .stSTBYtribord else .stSTBY
  | _ => MachineEtat.steered babord tribord .stSTBY

/-- The answer to buttons that were held in the cycle before as well: port comes
first, unless starboard is being followed. -/
def heldAnswer (b : Buttons) (before : State) : State :=
  if b.bpBabordI = true ∧ b.bpTribordI = true ∧ before = .stSTBYtribord then .stSTBYtribord
  else MachineEtat.steered b.bpBabordI b.bpTribordI .stSTBY

theorem heldAnswer_one {b : Buttons} (one : ¬ (b.bpTribordI = true ∧ b.bpBabordI = true))
    (before : State) :
    heldAnswer b before = MachineEtat.steered b.bpBabordI b.bpTribordI .stSTBY :=
  if_neg fun held => one ⟨held.2.1, held.1⟩

theorem heldAnswer_standby (b : Buttons) :
    heldAnswer b .stSTBY = MachineEtat.steered b.bpBabordI b.bpTribordI .stSTBY :=
  if_neg fun held => absurd held.2.2 (by decide)

theorem eq_answer {i : MachineEtat.Inputs} {current next : State} (leads : current.Leads next)
    (settled : MachineEtat.decode i current next = next)
    (asked : next.steering = true → i.Calls next)
    (held : current.steering = true → i.Calls current → next = current)
    (standby : MachineEtat.modeLeds current = false)
    (standby' : MachineEtat.modeLeds next = false) :
    next = answer i.btnBabordI i.btnTribordI current := by
  cases current with
  | stSTBY =>
      have idle : ¬ (i.appuiBtnAutoI = 0b01#2 ∧ i.activationBipI = false) := by
        intro toggled
        simp only [MachineEtat.decode, if_pos toggled] at settled
        rw [← settled] at standby'
        simp [MachineEtat.modeLeds] at standby'
      simp only [MachineEtat.decode, if_neg idle] at settled
      simp only [answer, MachineEtat.steered]
      split_ifs at settled ⊢
      · exact settled.symm
      · exact settled.symm
      · cases leads with
        | stays => rfl
        | engages => simp [MachineEtat.modeLeds] at standby'
        | steers steering =>
            have calls := asked steering
            cases next <;> simp_all [State.steering, MachineEtat.Inputs.Calls]
        | released => rfl
        | ended turning => simp [State.turning] at turning
  | stSTBYbabord =>
      simp only [answer]
      split_ifs with pressed
      · exact held rfl pressed
      · simpa [MachineEtat.decode, pressed] using settled.symm
  | stSTBYtribord =>
      simp only [answer]
      split_ifs with pressed
      · exact held rfl pressed
      · simpa [MachineEtat.decode, pressed] using settled.symm
  | _ => simp [MachineEtat.modeLeds] at standby

/-! ## Buttons, leds and command -/

/-- The leds of a standby cycle with ports `p`: with both buttons pressed nothing is
said of the starboard led. -/
structure ShowsButtons (p : Ports) (s : Signals) : Prop where
  babord : s.leds.lamps.ledBabordO = p.bpBabordI
  tribord : ¬ (p.bpTribordI = true ∧ p.bpBabordI = true) →
    s.leds.lamps.ledTribordO = p.bpTribordI

structure ShowsCommand (s : Signals) : Prop where
  babord : s.leds.lamps.ledBabordO = true ↔ s.codeFonctionO = 0b0001#4
  tribord : s.leds.lamps.ledTribordO = true ↔ s.codeFonctionO = 0b0010#4

/-- No button changes over the two rising edges after cycle `t`. -/
structure Still (buttons : Nat → Buttons) (t : Nat) : Prop where
  first : buttons (t + 1) = buttons t
  second : buttons (t + 2) = buttons (t + 1)

/-- A direction button that is pressed in cycle `t + 2` was pressed in standby, out of
reset, and port was not second to starboard; where none is pressed, none is remembered
from the reset. -/
def Answered (k : Nat) (buttons : Nat → Buttons) (t : Nat) : Prop :=
  let s := (run (startUp k buttons) (t + 1)).signals
  if (buttons (t + 2)).direction = true then
    k ≤ t + 1 ∧ s.machine.modeLedsO = false ∧
      ((buttons (t + 2)).bpBabordI = true ∧ (buttons (t + 2)).bpTribordI = true →
        s.leds.lamps.ledTribordO = false ∧ s.codeFonctionO ≠ 0b0010#4)
  else k = t + 1 → ∀ u < k, (buttons u).direction = false

theorem showsCommand_stable {p : Ports} {x : Regs} :
    ShowsCommand (stable p x) ↔
      (x.leds.lamps.ledBabordO = true ↔ x.machine.currentSt = .stSTBYbabord) ∧
        (x.leds.lamps.ledTribordO = true ↔ x.machine.currentSt = .stSTBYtribord) := by
  have shown : ∀ state : State, (stable p x).codeFonctionO = MachineEtat.codeFonction state ↔
      x.machine.currentSt = state := fun _ => MachineEtat.codeFonction_injective.eq_iff
  constructor
  · rintro ⟨babord, tribord⟩
    exact ⟨babord.trans (shown .stSTBYbabord), tribord.trans (shown .stSTBYtribord)⟩
  · rintro ⟨babord, tribord⟩
    exact ⟨babord.trans (shown .stSTBYbabord).symm, tribord.trans (shown .stSTBYtribord).symm⟩

section Standby
variable {k : Nat} {buttons : Nat → Buttons} {t : Nat}

theorem standby_answer (later : k ≤ t)
    (standby : MachineEtat.modeLeds (regs (startUp k buttons) (t + 1)).machine.currentSt = false)
    (standby' : MachineEtat.modeLeds (regs (startUp k buttons) (t + 2)).machine.currentSt = false) :
    (regs (startUp k buttons) (t + 2)).machine.currentSt =
      answer (buttons (t + 1)).bpBabordI (buttons (t + 1)).bpTribordI
        (regs (startUp k buttons) (t + 1)).machine.currentSt := by
  have running : (startUp k buttons t).razNI = true := (startUp_razNI _ _ _).mpr later
  have running' : (startUp k buttons (t + 1)).razNI = true := (startUp_razNI _ _ _).mpr (by omega)
  rw [running_currentSt (Nat.le_succ_of_le later)] at standby' ⊢
  refine eq_answer (regs_leads k buttons (t + 1)) (regs_wf (startUp k buttons) (t + 1)).settled
    (next_steering running running') (fun steering calls => ?_) standby standby'
  exact next_held running running' steering calls (running_currentSt later).symm

theorem run_showsButtons (k : Nat) (buttons : Nat → Buttons) (t : Nat)
    (standby : (run (startUp k buttons) t).signals.machine.modeLedsO = false) :
    ShowsButtons (startUp k buttons t) (run (startUp k buttons) t).signals := by
  rw [run_eq] at standby ⊢
  cases t with
  | zero =>
      obtain ⟨babord, tribord⟩ := next_directions standby
      exact ⟨babord, tribord⟩
  | succ t =>
      obtain ⟨babord, tribord⟩ := next_directions standby
      exact ⟨babord, tribord⟩

theorem still_state (later : k ≤ t) (still : buttons (t + 1) = buttons t) :
    ((regs (startUp k buttons) (t + 1)).machine.currentSt = .stSTBYtribord →
        ¬ ((buttons (t + 1)).bpBabordI = true ∧ (buttons (t + 1)).bpTribordI = false)) ∧
      ((regs (startUp k buttons) (t + 1)).machine.currentSt = .stSTBYbabord →
        ¬ ((buttons (t + 1)).bpBabordI = false ∧ (buttons (t + 1)).bpTribordI = true)) := by
  rw [running_currentSt later, still]
  exact not_crossed (regs_leads k buttons t) (regs_wf (startUp k buttons) t).settled

theorem still_answer (later : k ≤ t) (still : Still buttons t)
    (standby : MachineEtat.modeLeds (regs (startUp k buttons) (t + 1)).machine.currentSt = false)
    (standby' : MachineEtat.modeLeds (regs (startUp k buttons) (t + 2)).machine.currentSt = false) :
    (regs (startUp k buttons) (t + 2)).machine.currentSt =
      heldAnswer (buttons (t + 2)) (regs (startUp k buttons) (t + 1)).machine.currentSt := by
  obtain ⟨notTribord, notBabord⟩ := still_state later still.first
  rw [standby_answer later standby standby', still.second, heldAnswer]
  generalize (regs (startUp k buttons) (t + 1)).machine.currentSt = current at *
  generalize (buttons (t + 1)).bpBabordI = babord at *
  generalize (buttons (t + 1)).bpTribordI = tribord at *
  cases current with
  | stSTBY => cases babord <;> cases tribord <;> rfl
  | stSTBYbabord =>
      cases babord with
      | true => simp [answer, MachineEtat.steered]
      | false =>
          have none : tribord = false := by simpa using notBabord rfl
          rw [none]
          rfl
  | stSTBYtribord =>
      cases tribord with
      | true => cases babord <;> rfl
      | false =>
          have none : babord = false := by simpa using notTribord rfl
          rw [none]
          rfl
  | _ => simp [MachineEtat.modeLeds] at standby

theorem returned_standby (later : k ≤ t)
    (auto : MachineEtat.modeLeds (regs (startUp k buttons) (t + 1)).machine.currentSt = true)
    (standby' : MachineEtat.modeLeds (regs (startUp k buttons) (t + 2)).machine.currentSt = false) :
    (regs (startUp k buttons) (t + 2)).machine.currentSt = .stSTBY := by
  rw [running_currentSt (Nat.le_succ_of_le later)] at standby' ⊢
  exact (regs_leads k buttons (t + 1)).standby auto standby'

/-- The release finds the machine in standby, with the last direction of the reset in
`next_st`. -/
theorem release_steered (k : Nat) (buttons : Nat → Buttons) :
    ∃ kept : State, (kept = .stSTBY ∨ kept.steering = true) ∧
      (kept = .stSTBY ↔ ∀ u < k, (buttons u).direction = false) ∧
      (regs (startUp k buttons) k).machine.currentSt = .stSTBY ∧
      (regs (startUp k buttons) (k + 1)).machine.currentSt =
        MachineEtat.steered (buttons k).bpBabordI (buttons k).bpTribordI kept := by
  obtain ⟨kept, standby, forgotten, machine⟩ := startUp_machine k buttons (Nat.le_refl k)
  refine ⟨kept, standby, forgotten, ?_, ?_⟩
  · rw [machine]
  · rw [running_currentSt (Nat.le_refl k), machine]

theorem pressed_answer (later : k ≤ t + 1) (still : Still buttons t)
    (pressed : (buttons (t + 2)).direction = true)
    (standby : MachineEtat.modeLeds (regs (startUp k buttons) (t + 1)).machine.currentSt = false)
    (standby' : MachineEtat.modeLeds (regs (startUp k buttons) (t + 2)).machine.currentSt = false) :
    (regs (startUp k buttons) (t + 2)).machine.currentSt =
      heldAnswer (buttons (t + 2)) (regs (startUp k buttons) (t + 1)).machine.currentSt := by
  rcases Nat.le_or_eq_of_le_succ later with running | rfl
  · exact still_answer running still standby standby'
  · obtain ⟨kept, -, -, current, entered⟩ := release_steered (t + 1) buttons
    rw [entered, current, heldAnswer_standby, ← still.second]
    generalize buttons (t + 2) = b at pressed
    unfold Buttons.direction at pressed
    cases babord : b.bpBabordI with
    | true => rfl
    | false =>
        have tribord : b.bpTribordI = true := by simpa [babord] using pressed
        rw [tribord]
        rfl

theorem regs_directions
    (standby : MachineEtat.modeLeds (regs (startUp k buttons) (t + 1)).machine.currentSt = false) :
    (regs (startUp k buttons) (t + 1)).leds.lamps.ledBabordO = (buttons (t + 1)).bpBabordI ∧
      (¬ ((buttons (t + 1)).bpTribordI = true ∧ (buttons (t + 1)).bpBabordI = true) →
        (regs (startUp k buttons) (t + 1)).leds.lamps.ledTribordO =
          (buttons (t + 1)).bpTribordI) :=
  next_directions standby

theorem showsCommand_none
    (standby : MachineEtat.modeLeds (regs (startUp k buttons) (t + 1)).machine.currentSt = false)
    (none : (buttons (t + 1)).direction = false) :
    ShowsCommand (stable (startUp k buttons (t + 1)) (regs (startUp k buttons) (t + 1))) ↔
      (regs (startUp k buttons) (t + 1)).machine.currentSt.steering = false := by
  obtain ⟨babord, tribord⟩ := regs_directions standby
  simp only [Buttons.direction, Bool.or_eq_false_iff] at none
  rw [showsCommand_stable, babord, tribord (by simp [none.1]), none.1, none.2]
  cases (regs (startUp k buttons) (t + 1)).machine.currentSt <;> simp [State.steering]

theorem not_showsCommand
    (standby : (regs (startUp k buttons) (t + 1)).machine.currentSt = .stSTBY)
    (pressed : (buttons (t + 1)).direction = true) :
    ¬ ShowsCommand (stable (startUp k buttons (t + 1)) (regs (startUp k buttons) (t + 1))) := by
  have inStandby : MachineEtat.modeLeds (regs (startUp k buttons) (t + 1)).machine.currentSt =
      false := by
    rw [standby]
    rfl
  obtain ⟨babord, tribord⟩ := regs_directions inStandby
  rw [showsCommand_stable, standby, babord]
  rintro ⟨noBabord, noTribord⟩
  have off : (buttons (t + 1)).bpBabordI = false := by simpa using noBabord
  rw [tribord (by simp [off])] at noTribord
  simp [Buttons.direction, off] at pressed noTribord
  simp [pressed] at noTribord

theorem showsCommand_one (later : k ≤ t + 1) (still : Still buttons t)
    (pressed : (buttons (t + 2)).direction = true)
    (standby : MachineEtat.modeLeds (regs (startUp k buttons) (t + 1)).machine.currentSt = false)
    (standby' : MachineEtat.modeLeds (regs (startUp k buttons) (t + 2)).machine.currentSt = false)
    (one : ¬ ((buttons (t + 2)).bpTribordI = true ∧ (buttons (t + 2)).bpBabordI = true)) :
    ShowsCommand (stable (startUp k buttons (t + 2)) (regs (startUp k buttons) (t + 2))) := by
  obtain ⟨babord, tribord⟩ := regs_directions standby'
  have answered := pressed_answer later still pressed standby standby'
  rw [heldAnswer_one one] at answered
  rw [showsCommand_stable, answered, babord, tribord one]
  cases port : (buttons (t + 2)).bpBabordI with
  | true =>
      have alone : (buttons (t + 2)).bpTribordI = false := by simpa [port] using one
      rw [alone]
      simp [MachineEtat.steered]
  | false => cases (buttons (t + 2)).bpTribordI <;> simp [MachineEtat.steered]

/-- With both buttons pressed the leds agree with the command where port is answered
and the starboard led was off. -/
theorem showsCommand_both (later : k ≤ t + 1) (still : Still buttons t)
    (standby : MachineEtat.modeLeds (regs (startUp k buttons) (t + 1)).machine.currentSt = false)
    (standby' : MachineEtat.modeLeds (regs (startUp k buttons) (t + 2)).machine.currentSt = false)
    (port : (buttons (t + 2)).bpBabordI = true) (starboard : (buttons (t + 2)).bpTribordI = true) :
    ShowsCommand (stable (startUp k buttons (t + 2)) (regs (startUp k buttons) (t + 2))) ↔
      (regs (startUp k buttons) (t + 1)).leds.lamps.ledTribordO = false ∧
        (regs (startUp k buttons) (t + 1)).machine.currentSt ≠ .stSTBYtribord := by
  have babord := (regs_directions standby').1
  have answered := pressed_answer later still (by simp [Buttons.direction, port]) standby standby'
  have tribord : (regs (startUp k buttons) (t + 2)).leds.lamps.ledTribordO =
      (regs (startUp k buttons) (t + 1)).leds.lamps.ledTribordO :=
    next_both ((startUp_razNI _ _ _).mpr later) ((startUp_razNI _ _ _).mpr (by omega)) standby
      standby' ((congrArg Buttons.bpBabordI still.second.symm).trans port)
      ((congrArg Buttons.bpTribordI still.second.symm).trans starboard) port starboard
  rw [heldAnswer, port, starboard] at answered
  rw [showsCommand_stable, answered, babord, tribord, port]
  by_cases other : (regs (startUp k buttons) (t + 1)).machine.currentSt = .stSTBYtribord
  · simp [other]
  · simp [other, MachineEtat.steered]

theorem showsCommand_pressed (still : Still buttons t)
    (standby : MachineEtat.modeLeds (regs (startUp k buttons) (t + 2)).machine.currentSt = false)
    (pressed : (buttons (t + 2)).direction = true) :
    ShowsCommand (stable (startUp k buttons (t + 2)) (regs (startUp k buttons) (t + 2))) ↔
      k ≤ t + 1 ∧
        MachineEtat.modeLeds (regs (startUp k buttons) (t + 1)).machine.currentSt = false ∧
          ((buttons (t + 2)).bpBabordI = true ∧ (buttons (t + 2)).bpTribordI = true →
            (regs (startUp k buttons) (t + 1)).leds.lamps.ledTribordO = false ∧
              (regs (startUp k buttons) (t + 1)).machine.currentSt ≠ .stSTBYtribord) := by
  by_cases later : k ≤ t + 1
  · cases before : MachineEtat.modeLeds (regs (startUp k buttons) (t + 1)).machine.currentSt with
    | true =>
        have running : k ≤ t := by
          rcases Nat.le_or_eq_of_le_succ later with running | rfl
          · exact running
          · obtain ⟨-, -, -, current, -⟩ := release_steered (t + 1) buttons
            simp [current, MachineEtat.modeLeds] at before
        refine iff_of_false (not_showsCommand ?_ pressed) (by simp)
        exact returned_standby running before standby
    | false =>
        by_cases both : (buttons (t + 2)).bpTribordI = true ∧ (buttons (t + 2)).bpBabordI = true
        · rw [showsCommand_both later still before standby both.2 both.1]
          simp [later, both.1, both.2]
        · have one := showsCommand_one later still pressed before standby both
          exact iff_of_true one ⟨later, rfl, fun squeezed => absurd squeezed.symm both⟩
  · obtain ⟨_, -, -, machine⟩ := startUp_machine k buttons (show t + 2 ≤ k by omega)
    refine iff_of_false (not_showsCommand ?_ pressed) fun answered => later answered.1
    rw [machine]

theorem showsCommand_released (still : Still buttons t)
    (standby : MachineEtat.modeLeds (regs (startUp k buttons) (t + 2)).machine.currentSt = false)
    (none : (buttons (t + 2)).direction = false) :
    ShowsCommand (stable (startUp k buttons (t + 2)) (regs (startUp k buttons) (t + 2))) ↔
      (k = t + 1 → ∀ u < k, (buttons u).direction = false) := by
  rw [showsCommand_none standby none]
  rcases Nat.lt_trichotomy k (t + 1) with before | rfl | after
  · have running : k ≤ t := by omega
    have resting : (regs (startUp k buttons) (t + 2)).machine.currentSt = .stSTBY := by
      cases auto : MachineEtat.modeLeds (regs (startUp k buttons) (t + 1)).machine.currentSt with
      | true => exact returned_standby running auto standby
      | false =>
          have off := none
          simp only [Buttons.direction, Bool.or_eq_false_iff] at off
          rw [still_answer running still auto standby, heldAnswer_one (by simp [off.1]), off.1,
            off.2]
          rfl
    rw [resting]
    exact iff_of_true rfl fun now => by omega
  · obtain ⟨kept, standbyKept, forgotten, -, entered⟩ := release_steered (t + 1) buttons
    have off := none
    rw [still.second, Buttons.direction, Bool.or_eq_false_iff] at off
    rw [entered, off.1, off.2, ← forgotten]
    change kept.steering = false ↔ _
    rcases standbyKept with rfl | steering
    · exact iff_of_true rfl fun _ => rfl
    · refine iff_of_false (by simp [steering]) fun never => ?_
      rw [never rfl] at steering
      simp [State.steering] at steering
  · obtain ⟨_, -, -, machine⟩ := startUp_machine k buttons (show t + 2 ≤ k by omega)
    rw [machine]
    exact iff_of_true rfl fun now => by omega

/-- In a still cycle of standby the leds agree with the command exactly where the
machine has answered the buttons. -/
theorem showsCommand_iff (still : Still buttons t)
    (standby : (run (startUp k buttons) (t + 2)).signals.machine.modeLedsO = false) :
    ShowsCommand (run (startUp k buttons) (t + 2)).signals ↔ Answered k buttons t := by
  have command : (run (startUp k buttons) (t + 1)).signals.codeFonctionO = 0b0010#4 ↔
      (regs (startUp k buttons) (t + 1)).machine.currentSt = .stSTBYtribord :=
    codeFonctionO_iff (startUp k buttons) (t + 1) .stSTBYtribord
  rw [Answered, ne_eq, command]
  rw [run_eq] at standby
  rw [run_eq, run_eq]
  change MachineEtat.modeLeds _ = false at standby
  cases pressed : (buttons (t + 2)).direction with
  | true => exact showsCommand_pressed still standby pressed
  | false => exact showsCommand_released still standby pressed

end Standby

/-- The leds of standby: they show the buttons, and the command as well once the
machine has answered. -/
theorem standby_leds (k : Nat) (buttons : Nat → Buttons) :
    (∀ t, (run (startUp k buttons) t).signals.machine.modeLedsO = false →
        ShowsButtons (startUp k buttons t) (run (startUp k buttons) t).signals) ∧
      ∀ t, Still buttons t → (run (startUp k buttons) (t + 2)).signals.machine.modeLedsO = false →
        Answered k buttons t → ShowsCommand (run (startUp k buttons) (t + 2)).signals :=
  ⟨run_showsButtons k buttons, fun _ still standby => (showsCommand_iff still standby).mpr⟩

theorem starboard_led_with_command :
    ShowsCommand (run (startUp 1 fun t => { bpTribordI := decide (2 ≤ t) }) 6).signals := by
  apply (standby_leds 1 _).2 4 ⟨rfl, rfl⟩
  · rw [run_eq]
    decide +kernel
  · unfold Answered
    rw [run_eq]
    decide +kernel

/-- Starboard is pressed in cycle 2, port besides in cycle 4. -/
def starboardThenPort (t : Nat) : Buttons :=
  { bpBabordI := decide (4 ≤ t), bpTribordI := decide (2 ≤ t) }

theorem port_led_against_command :
    ¬ ∀ (k : Nat) (buttons : Nat → Buttons) (t : Nat), Still buttons t →
      (run (startUp k buttons) (t + 2)).signals.machine.modeLedsO = false →
      ShowsCommand (run (startUp k buttons) (t + 2)).signals := by
  intro shows
  have port := (shows 1 starboardThenPort 4 ⟨rfl, rfl⟩ (by rw [run_eq]; decide +kernel)).babord
  rw [run_eq] at port
  exact absurd port (by decide +kernel)

end Voilier.GestionBarre
