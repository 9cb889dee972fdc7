import Voilier.BarreRuns

/-!
# Course corrections

A course correction ends with its beeps, and no rudder command is given that no
button asked for.
-/

set_option autoImplicit false

namespace Voilier.GestionBarre

open DeltaCycle
open MachineEtat (State)

theorem next_currentSt (p p' : Ports) (x : Regs) :
    (x.next p p').machine.currentSt =
      if p'.razNI = true ∧ p.razNI = true then x.machine.nextSt else .stSTBY := by
  change x.machine.entered p.razNI p'.razNI = _
  unfold MachineEtat.Regs.entered MachineEtat.Regs.atEdge
  cases p.razNI <;> cases p'.razNI <;> rfl

/-! ## Every correction ends -/

theorem turn_needs_code {p : Ports} (p' : Ports) {x : Regs} (wf : x.Wf p)
    (sequenced : x.bip.Sequenced (beepPorts p x.codes))
    (turning : x.machine.currentSt.turning = true)
    (silent : x.bip.latches.activationBip = false) (idle : x.bip.latches.attenteBip = false)
    (held : (x.next p p').machine.currentSt = x.machine.currentSt) :
    (machineInputs p x.codes x.bip.latches).turnCode x.machine.currentSt ≠ 0b00#2 := by
  intro code
  have closed : x.bip.latches.tempChoixBtn = false := by
    by_contra choice
    have busy := sequenced.busy (by simpa using choice)
    simp [silent, idle] at busy
  have ended : x.machine.nextSt = .stAUTO := by
    have settled := wf.settled
    rw [MachineEtat.Regs.Settled, MachineEtat.decode_turning _ turning code silent closed]
      at settled
    exact settled.symm
  rw [next_currentSt, ended] at held
  rw [← held] at turning
  split_ifs at turning <;> simp [State.turning] at turning

theorem turnCode_fresh {x : Regs} (coded : x.Coded) (p p' : Ports) (state : State) :
    (machineInputs p x.codes x.bip.latches).turnCode state = 0b00#2 ∨
      (machineInputs p' (x.next p p').codes (x.next p p').bip.latches).turnCode state = 0b00#2 := by
  have fresh := coded.fresh p p'
  cases state
  case stAUTObabord1 => exact fresh.babord
  case stAUTObabord10 => exact fresh.babord
  all_goals exact fresh.tribord

theorem turn_commands_end (k : Nat) (buttons : Nat → Buttons) (t : Nat) :
    let s := fun i => (run (startUp k buttons) i).signals
    ((s t).bip.latches.tempChoixBtn = true →
        (s t).bip.latches.activationBip = true ∨ (s t).bip.latches.attenteBip = true) ∧
      ((s t).bip.latches.attenteBip = true → (s t).bip.latches.tempChoixBtn = true) ∧
      ¬ ∃ state : State, state.turning = true ∧ ∀ i < 3,
        (s (t + i)).machine.currentSt = state ∧
          (s (t + i)).bip.latches.activationBip = false ∧
          (s (t + i)).bip.latches.attenteBip = false := by
  simp only [run_eq]
  have sequenced := regs_sequenced k buttons
  have coded := regs_coded (startUp k buttons)
  have wf := regs_wf (startUp k buttons)
  refine ⟨(sequenced t).busy, (sequenced t).choice, ?_⟩
  rintro ⟨state, turning, stays⟩
  obtain ⟨here, silent, idle⟩ := stays 0 (by decide)
  obtain ⟨next, silent', idle'⟩ := stays 1 (by decide)
  obtain ⟨last, -, -⟩ := stays 2 (by decide)
  have here : (regs (startUp k buttons) t).machine.currentSt = state := here
  have next : (regs (startUp k buttons) (t + 1)).machine.currentSt = state := next
  have last : (regs (startUp k buttons) (t + 2)).machine.currentSt = state := last
  have first := turn_needs_code (startUp k buttons (t + 1)) (wf t) (sequenced t)
    (here ▸ turning) silent idle (next.trans here.symm)
  have second := turn_needs_code (startUp k buttons (t + 2)) (wf (t + 1))
    (sequenced (t + 1)) (next ▸ turning) silent' idle' (last.trans next.symm)
  rw [here] at first
  rw [next] at second
  rcases turnCode_fresh (coded t) (startUp k buttons t) (startUp k buttons (t + 1)) state with
    ended | ended
  · exact first ended
  · exact second ended

/-! ## No command without a button -/

/-- The code `code` is shown in cycle `t` or in the cycle before. -/
def ShownLately (wave : Nat → Ports) (shown : Signals → BitVec 2) (code : BitVec 2)
    (t : Nat) : Prop :=
  shown (run wave t).signals = code ∨ ∃ u, t = u + 1 ∧ shown (run wave u).signals = code

/-- A correction that begins in cycle `t + 1` was called by its code. -/
def CalledBy (wave : Nat → Ports) (command : BitVec 4) (shown : Signals → BitVec 2)
    (code : BitVec 2) (t : Nat) : Prop :=
  (run wave (t + 1)).signals.codeFonctionO = command →
    (run wave t).signals.codeFonctionO ≠ command → ShownLately wave shown code t

/-- The rudder command of cycle `t + 1` comes from the buttons. -/
structure CommandAsked (wave : Nat → Ports) (t : Nat) : Prop where
  babord : (run wave (t + 1)).signals.codeFonctionO = 0b0001#4 → (wave t).bpBabordI = true
  tribord : (run wave (t + 1)).signals.codeFonctionO = 0b0010#4 → (wave t).bpTribordI = true
  babord1 : CalledBy wave 0b0111#4 (fun s => s.btnBabord.appuiBtnO) 0b01#2 t
  babord10 : CalledBy wave 0b0110#4 (fun s => s.btnBabord.appuiBtnO) 0b10#2 t
  tribord1 : CalledBy wave 0b0100#4 (fun s => s.btnTribord.appuiBtnO) 0b01#2 t
  tribord10 : CalledBy wave 0b0101#4 (fun s => s.btnTribord.appuiBtnO) 0b10#2 t

theorem codeFonctionO_iff (wave : Nat → Ports) (t : Nat) (state : State) :
    (run wave t).signals.codeFonctionO = MachineEtat.codeFonction state ↔
      (regs wave t).machine.currentSt = state := by
  rw [run_eq]
  exact MachineEtat.codeFonction_injective.eq_iff

def Commanded (p : Ports) (c : Codes) (state : State) : Prop :=
  (machineInputs p c {}).Calls state

theorem machineInputs_calls {p : Ports} {c : Codes} {l : GestionBip.Latches} {state : State}
    (calls : (machineInputs p c l).Calls state) : Commanded p c state := by
  cases state <;> exact calls

section Asked
variable {p p' : Ports} {x : Regs}

/-- What `next_st` holds in a running cycle was asked for with the codes of the
cycle before or of this one, or was there already. -/
theorem next_commanded (running' : p'.razNI = true) :
    Commanded p' x.codes (x.next p p').machine.nextSt ∨
      Commanded p' (x.nextCodes p p') (x.next p p').machine.nextSt ∨
      (x.next p p').machine.nextSt = x.machine.nextSt := by
  have arrived : (x.phases p p').codes = (x.phases p p').cleared := by
    simp [Regs.phases, codesAtEdge_of_running running']
  rcases MachineEtat.Regs.next_calls p.razNI p'.razNI (x.phases p p') x.machine with
    calls | calls | calls | calls | calls | kept
  · exact Or.inl (machineInputs_calls calls)
  · rw [arrived] at calls
    exact Or.inr (Or.inl (machineInputs_calls calls))
  · exact Or.inr (Or.inl (machineInputs_calls calls))
  · exact Or.inr (Or.inl (machineInputs_calls calls))
  · exact Or.inr (Or.inl (machineInputs_calls calls))
  · exact Or.inr (Or.inr kept)

theorem steering_commanded (wf : x.Wf p) (steering : x.machine.currentSt.steering = true)
    (kept : x.machine.nextSt = x.machine.currentSt) :
    Commanded p x.codes x.machine.currentSt := by
  have settled := wf.settled
  rw [MachineEtat.Regs.Settled, kept] at settled
  exact machineInputs_calls (MachineEtat.decode_steering steering settled)

theorem next_steering (running : p.razNI = true) (running' : p'.razNI = true)
    (steering : (x.next p p').machine.nextSt.steering = true) :
    Commanded p' (x.next p p').codes (x.next p p').machine.nextSt := by
  have sameButtons : ∀ {c : Codes} {state : State}, state.steering = true →
      Commanded p' c state → Commanded p' (x.next p p').codes state := by
    intro c state steers asked
    cases state <;> first | exact asked | simp [State.steering] at steers
  have entered : (x.next p p').machine.currentSt = x.machine.nextSt := by
    rw [next_currentSt, if_pos ⟨running', running⟩]
  rcases next_commanded (p := p) (x := x) running' with asked | asked | kept
  · exact sameButtons steering asked
  · exact sameButtons steering asked
  · have stays : (x.next p p').machine.nextSt = (x.next p p').machine.currentSt :=
      kept.trans entered.symm
    rw [stays] at steering ⊢
    exact steering_commanded (Regs.next_wf p p' x) steering stays

end Asked

theorem startUp_razNI (k : Nat) (buttons : Nat → Buttons) (t : Nat) :
    (startUp k buttons t).razNI = true ↔ k ≤ t := by
  simp [startUp]

section Running
variable {k : Nat} {buttons : Nat → Buttons} {u : Nat}

theorem running_currentSt (later : k ≤ u) :
    (regs (startUp k buttons) (u + 1)).machine.currentSt =
      (regs (startUp k buttons) u).machine.nextSt := by
  have running : (startUp k buttons u).razNI = true := (startUp_razNI _ _ _).mpr later
  have running' : (startUp k buttons (u + 1)).razNI = true :=
    (startUp_razNI _ _ _).mpr (by omega)
  rw [regs_succ, next_currentSt, if_pos ⟨running', running⟩]

theorem calledBy_running (state : State) (side : Codes → BitVec 2) (later : k ≤ u)
    {shown : Signals → BitVec 2} {code : BitVec 2}
    (shows : ∀ p x, shown (stable p x) = side x.codes)
    (asks : ∀ p c, Commanded p c state → side c = code) :
    CalledBy (startUp k buttons) (MachineEtat.codeFonction state) shown code (u + 1) := by
  intro entered other
  rw [codeFonctionO_iff, running_currentSt (by omega), regs_succ] at entered
  rw [Ne, codeFonctionO_iff, running_currentSt later] at other
  have running' : (startUp k buttons (u + 1)).razNI = true :=
    (startUp_razNI _ _ _).mpr (by omega)
  have commanded := next_commanded (p := startUp k buttons u)
    (x := regs (startUp k buttons) u) running'
  rw [entered] at commanded
  rcases commanded with asked | asked | kept
  · refine Or.inr ⟨u, rfl, ?_⟩
    rw [run_eq]
    exact (shows _ _).trans (asks _ _ asked)
  · left
    rw [run_eq]
    exact (shows _ _).trans (asks _ _ asked)
  · exact absurd kept.symm other

theorem steering_running (state : State) (later : k ≤ u) (steering : state.steering = true)
    (entered : (run (startUp k buttons) (u + 2)).signals.codeFonctionO =
      MachineEtat.codeFonction state) :
    Commanded (startUp k buttons (u + 1)) (regs (startUp k buttons) (u + 1)).codes state := by
  rw [codeFonctionO_iff, running_currentSt (by omega), regs_succ] at entered
  have running : (startUp k buttons u).razNI = true := (startUp_razNI _ _ _).mpr later
  have running' : (startUp k buttons (u + 1)).razNI = true :=
    (startUp_razNI _ _ _).mpr (by omega)
  have asked := next_steering (x := regs (startUp k buttons) u) running running'
    (entered ▸ steering)
  rw [entered] at asked
  exact asked

theorem commandAsked_running (later : k ≤ u) :
    CommandAsked (startUp k buttons) (u + 1) where
  babord entered := steering_running .stSTBYbabord later rfl entered
  tribord entered := steering_running .stSTBYtribord later rfl entered
  babord1 := calledBy_running .stAUTObabord1 Codes.babord later
    (fun _ _ => rfl) (fun _ _ asked => asked)
  babord10 := calledBy_running .stAUTObabord10 Codes.babord later
    (fun _ _ => rfl) (fun _ _ asked => asked)
  tribord1 := calledBy_running .stAUTOtribord1 Codes.tribord later
    (fun _ _ => rfl) (fun _ _ asked => asked)
  tribord10 := calledBy_running .stAUTOtribord10 Codes.tribord later
    (fun _ _ => rfl) (fun _ _ asked => asked)

end Running

/-! ## The release of the reset -/

/-- After a cycle of reset the machine is in standby and its codes are silent:
`next_st` follows the direction buttons. -/
theorem reset_machine {p p' : Ports} {x : Regs} (wf : x.Wf p) (resetting : p.razNI = false) :
    (x.next p p').machine =
      ⟨.stSTBY, MachineEtat.steered p'.bpBabordI p'.bpTribordI x.machine.nextSt⟩ := by
  have silent : x.codes.auto = 0b00#2 := (wf.btnAuto resetting).2
  have silent₃ : (x.codesAtEdge p).auto = 0b00#2 := x.btnAuto.atEdge_silent resetting
  have silent' : (x.nextCodes p p').auto = 0b00#2 := x.btnAuto.next_silent resetting _
  have standby : x.machine.entered p.razNI p'.razNI = .stSTBY := by
    have entered := next_currentSt p p' x
    rwa [if_neg (by simp [resetting])] at entered
  have atEdge : x.machine.atEdge p.razNI = .stSTBY := by
    simp [MachineEtat.Regs.atEdge, resetting]
  change MachineEtat.Regs.next p.razNI p'.razNI (x.phases p p') x.machine = _
  unfold MachineEtat.Regs.next
  rw [standby, atEdge]
  simp [Regs.phases, machineInputs, MachineEtat.decode_standby, silent, silent₃, silent']

def Buttons.direction (b : Buttons) : Bool := b.bpBabordI || b.bpTribordI

theorem steered_iff {babord tribord : Bool} {next : State} :
    MachineEtat.steered babord tribord next = .stSTBY ↔
      (babord || tribord) = false ∧ next = .stSTBY := by
  cases babord <;> cases tribord <;> simp [MachineEtat.steered]

theorem steered_standby {babord tribord : Bool} {next : State}
    (standby : next = .stSTBY ∨ next.steering = true) :
    MachineEtat.steered babord tribord next = .stSTBY ∨
      (MachineEtat.steered babord tribord next).steering = true := by
  cases babord <;> cases tribord <;> simp [MachineEtat.steered, State.steering] at standby ⊢
  exact standby

/-- Up to its release the reset keeps the machine in standby, but `next_st`
follows the direction buttons and remembers the last one. -/
theorem startUp_machine (k : Nat) (buttons : Nat → Buttons) {t : Nat} (early : t ≤ k) :
    ∃ kept : State, (kept = .stSTBY ∨ kept.steering = true) ∧
      (kept = .stSTBY ↔ ∀ u < t, (buttons u).direction = false) ∧
      (regs (startUp k buttons) t).machine =
        ⟨.stSTBY, MachineEtat.steered (buttons t).bpBabordI (buttons t).bpTribordI kept⟩ := by
  induction t with
  | zero => exact ⟨.stSTBY, Or.inl rfl, by simp, reset_machine powerUp_wf rfl⟩
  | succ t ih =>
      obtain ⟨kept, standby, before, machine⟩ := ih (by omega)
      have resetting : (startUp k buttons t).razNI = false := by
        simp only [startUp, decide_eq_false_iff_not]
        omega
      refine ⟨MachineEtat.steered (buttons t).bpBabordI (buttons t).bpTribordI kept,
        steered_standby standby, ?_, ?_⟩
      · rw [steered_iff, before]
        constructor
        · rintro ⟨now, earlier⟩ u lt
          rcases Nat.lt_succ_iff_lt_or_eq.mp lt with older | rfl
          · exact earlier u older
          · exact now
        · intro never
          exact ⟨never t (by omega), fun u lt => never u (by omega)⟩
      · rw [regs_succ, reset_machine (regs_wf _ t) resetting, machine]
        rfl

theorem commandAsked_standby {wave : Nat → Ports} {t : Nat} {state : State}
    (current : (regs wave (t + 1)).machine.currentSt = state)
    (standby : state = .stSTBY ∨ state.steering = true) :
    CommandAsked wave t ↔
      (state = .stSTBYbabord → (wave t).bpBabordI = true) ∧
        (state = .stSTBYtribord → (wave t).bpTribordI = true) := by
  have shown : ∀ other, (run wave (t + 1)).signals.codeFonctionO = MachineEtat.codeFonction other ↔
      state = other := by
    intro other
    rw [codeFonctionO_iff, current]
  have never : ∀ other out code, other.turning = true →
      CalledBy wave (MachineEtat.codeFonction other) out code t := by
    intro other out code turning entered
    rw [shown] at entered
    subst entered
    cases state <;> simp [State.turning, State.steering] at turning standby
  constructor
  · intro asked
    exact ⟨fun entered => asked.babord ((shown .stSTBYbabord).mpr entered),
      fun entered => asked.tribord ((shown .stSTBYtribord).mpr entered)⟩
  · rintro ⟨babord, tribord⟩
    exact ⟨fun entered => babord ((shown .stSTBYbabord).mp entered),
      fun entered => tribord ((shown .stSTBYtribord).mp entered),
      never .stAUTObabord1 _ _ rfl, never .stAUTObabord10 _ _ rfl,
      never .stAUTOtribord1 _ _ rfl, never .stAUTOtribord10 _ _ rfl⟩

theorem commandAsked_release (k : Nat) (buttons : Nat → Buttons) :
    CommandAsked (startUp k buttons) k ↔
      (buttons k).direction = true ∨ ∀ t < k, (buttons t).direction = false := by
  obtain ⟨kept, standby, forgotten, machine⟩ := startUp_machine k buttons (Nat.le_refl k)
  have current : (regs (startUp k buttons) (k + 1)).machine.currentSt =
      MachineEtat.steered (buttons k).bpBabordI (buttons k).bpTribordI kept := by
    rw [running_currentSt (Nat.le_refl k), machine]
  rw [commandAsked_standby current (steered_standby standby), ← forgotten]
  simp only [startUp, Buttons.direction]
  cases (buttons k).bpBabordI <;> cases (buttons k).bpTribordI <;>
    simp [MachineEtat.steered]
  rcases standby with rfl | steering
  · simp
  · cases kept <;> simp [State.steering] at steering ⊢

/-- No command is given without a button exactly when no direction button is
pressed during the reset and forgotten at its end. -/
theorem commandAsked_iff (k : Nat) (buttons : Nat → Buttons) :
    (∀ t, CommandAsked (startUp k buttons) t) ↔
      (buttons k).direction = true ∨ ∀ t < k, (buttons t).direction = false := by
  rw [← commandAsked_release]
  constructor
  · intro asked
    exact asked k
  · intro release t
    rcases Nat.lt_trichotomy t k with early | rfl | late
    · obtain ⟨kept, -, -, machine⟩ := startUp_machine k buttons (show t + 1 ≤ k by omega)
      have current : (regs (startUp k buttons) (t + 1)).machine.currentSt = .stSTBY := by
        rw [machine]
      rw [commandAsked_standby current (Or.inl rfl)]
      simp
    · exact release
    · obtain ⟨u, rfl⟩ : ∃ u, t = u + 1 := ⟨t - 1, by omega⟩
      exact commandAsked_running (by omega)

/-- A press on port during the reset moves the helm after it. -/
theorem command_without_button :
    ¬ ∀ t, CommandAsked (startUp 1 fun t => { bpBabordI := decide (t = 0) }) t := by
  intro asked
  have entered : (run (startUp 1 fun t => { bpBabordI := decide (t = 0) }) 2).signals.codeFonctionO
      = 0b0001#4 := by
    decide +kernel
  have pressed := (asked 1).babord entered
  simp [startUp] at pressed

end Voilier.GestionBarre
