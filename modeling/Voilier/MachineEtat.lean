import Voilier.Primitives

/-!
# Machine_etat

The helm state machine: a state register, and a next-state process that leaves
`next_st` unassigned on many paths, which makes `next_st` a latch.
-/

set_option autoImplicit false

namespace Voilier.MachineEtat

open DeltaCycle

inductive State where
  | stSTBY
  | stAUTO
  | stSTBYbabord
  | stSTBYtribord
  | stAUTObabord1
  | stAUTOtribord1
  | stAUTObabord10
  | stAUTOtribord10
deriving DecidableEq, Repr

structure Ports where
  clkI : Bool
  razI : Bool
  btnBabordI : Bool
  btnTribordI : Bool
  appuiBtnAutoI : BitVec 2
  appuiBtnBabordI : BitVec 2
  appuiBtnTribordI : BitVec 2
  tempsChoixBtnBipI : Bool
  activationBipI : Bool

@[ext]
structure Signals where
  currentSt : State := .stSTBY
  nextSt : State := .stSTBY
  modeLedsO : Bool := false
  codeFonctionO : BitVec 4 := 0b0000#4
deriving DecidableEq

structure Inputs where
  btnBabordI : Bool
  btnTribordI : Bool
  appuiBtnAutoI : BitVec 2
  appuiBtnBabordI : BitVec 2
  appuiBtnTribordI : BitVec 2
  tempsChoixBtnBipI : Bool
  activationBipI : Bool
deriving DecidableEq

/-- The body of the next-state process: `nextSt` is returned where no branch
assigns it. The `when others` branch of the source is unreachable, all eight
states being listed. -/
def decode (i : Inputs) (currentSt nextSt : State) : State :=
  match currentSt with
  | .stSTBY =>
      if i.appuiBtnAutoI = 0b01#2 ∧ i.activationBipI = false then .stAUTO
      else if i.btnBabordI = true then .stSTBYbabord
      else if i.btnTribordI = true then .stSTBYtribord
      else nextSt
  | .stAUTO =>
      if i.appuiBtnAutoI = 0b01#2 ∧ i.activationBipI = false then .stSTBY
      else if i.appuiBtnAutoI = 0b10#2 then .stAUTO
      else if i.appuiBtnBabordI = 0b01#2 then .stAUTObabord1
      else if i.appuiBtnTribordI = 0b01#2 then .stAUTOtribord1
      else if i.appuiBtnBabordI = 0b10#2 then .stAUTObabord10
      else if i.appuiBtnTribordI = 0b10#2 then .stAUTOtribord10
      else nextSt
  | .stSTBYbabord => if i.btnBabordI = false then .stSTBY else nextSt
  | .stSTBYtribord => if i.btnTribordI = false then .stSTBY else nextSt
  | .stAUTObabord1 | .stAUTObabord10 =>
      if i.appuiBtnBabordI = 0b00#2 ∧ i.activationBipI = false ∧
          i.tempsChoixBtnBipI = false then .stAUTO
      else nextSt
  | .stAUTOtribord1 | .stAUTOtribord10 =>
      if i.appuiBtnTribordI = 0b00#2 ∧ i.activationBipI = false ∧
          i.tempsChoixBtnBipI = false then .stAUTO
      else nextSt

def inputs (p : Ports) : Inputs :=
  ⟨p.btnBabordI, p.btnTribordI, p.appuiBtnAutoI, p.appuiBtnBabordI, p.appuiBtnTribordI,
    p.tempsChoixBtnBipI, p.activationBipI⟩

/-- `process(current_st, appui_btn_auto_i, appui_btn_babord_i,
appui_btn_tribord_i, temps_choix_btn_bip_i, activation_bip_i, btn_babord_i,
btn_tribord_i)`. -/
def decodeProcess (p p' : Ports) (s s' : Signals) : State :=
  if event s.currentSt s'.currentSt || event p.appuiBtnAutoI p'.appuiBtnAutoI ||
      event p.appuiBtnBabordI p'.appuiBtnBabordI ||
      event p.appuiBtnTribordI p'.appuiBtnTribordI ||
      event p.tempsChoixBtnBipI p'.tempsChoixBtnBipI ||
      event p.activationBipI p'.activationBipI ||
      event p.btnBabordI p'.btnBabordI || event p.btnTribordI p'.btnTribordI then
    decode (inputs p') s'.currentSt s'.nextSt
  else s'.nextSt

/-- `process(clk_i, raz_i)`. -/
def register (p p' : Ports) (s' : Signals) : State :=
  if event p.clkI p'.clkI || event p.razI p'.razI then
    if p'.razI = false then .stSTBY
    else if risingEdge p.clkI p'.clkI then s'.nextSt
    else s'.currentSt
  else s'.currentSt

def modeLeds : State → Bool
  | .stAUTO | .stAUTObabord1 | .stAUTObabord10 | .stAUTOtribord1 | .stAUTOtribord10 => true
  | .stSTBY | .stSTBYbabord | .stSTBYtribord => false

def codeFonction : State → BitVec 4
  | .stSTBY => 0b0000#4
  | .stAUTO => 0b0011#4
  | .stSTBYbabord => 0b0001#4
  | .stSTBYtribord => 0b0010#4
  | .stAUTObabord1 => 0b0111#4
  | .stAUTOtribord1 => 0b0100#4
  | .stAUTObabord10 => 0b0110#4
  | .stAUTOtribord10 => 0b0101#4

def entity : Entity Ports Signals where
  delta p p' s s' :=
    { currentSt := register p p' s'
      nextSt := decodeProcess p p' s s'
      modeLedsO := modeLeds s'.currentSt
      codeFonctionO := codeFonction s'.currentSt }

/-! ## One clock cycle -/

structure Regs where
  currentSt : State := .stSTBY
  nextSt : State := .stSTBY
deriving DecidableEq

def stable (x : Regs) : Signals where
  currentSt := x.currentSt
  nextSt := x.nextSt
  modeLedsO := modeLeds x.currentSt
  codeFonctionO := codeFonction x.currentSt

def Regs.Settled (i : Inputs) (x : Regs) : Prop := decode i x.currentSt x.nextSt = x.nextSt

/-- What the next-state process reads in the deltas of a rising edge: when the
state and the buttons change (delta 2), when the codes change (delta 3) and are
withdrawn by a reset (delta 4), when the codes have reached the beep (delta 5)
and when the pulses have (delta 7). -/
structure Phases where
  buttons : Inputs
  codes : Inputs
  cleared : Inputs
  beep : Inputs
  final : Inputs
deriving DecidableEq

def Regs.atEdge (razI : Bool) (x : Regs) : State := if razI then x.nextSt else .stSTBY

def Regs.entered (razI razI' : Bool) (x : Regs) : State :=
  if razI' then x.atEdge razI else .stSTBY

/-- The registers one cycle later.  `next_st` goes through every evaluation of
the deltas, each of which sees what the one before left. -/
def Regs.next (razI razI' : Bool) (i : Phases) (x : Regs) : Regs where
  currentSt := x.entered razI razI'
  nextSt := decode i.final (x.entered razI razI') <| decode i.beep (x.entered razI razI') <|
    decode i.cleared (x.entered razI razI') <| decode i.codes (x.entered razI razI') <|
    decode i.buttons (x.atEdge razI) x.nextSt

@[simp] theorem decode_decode (i : Inputs) (c n : State) :
    decode i c (decode i c n) = decode i c n := by
  cases c <;> simp only [decode] <;> split_ifs <;> rfl

theorem Regs.next_settled (razI razI' : Bool) (i : Phases) (x : Regs) :
    (x.next razI razI' i).Settled i.final := by
  simp [Regs.Settled, Regs.next]

section Rising
variable {ports : Nat → Ports} {razI razI' : Bool} {before : Inputs} {i : Phases} {x : Regs}

theorem rising_currentSt (clk : ∀ d, (ports d).clkI = wave [false] true d)
    (raz : ∀ d, (ports d).razI = wave [razI, razI] razI' d) (d : Nat) :
    (entity.trace ports (stable x) d).currentSt =
      wave [x.currentSt, x.currentSt, x.atEdge razI] (x.entered razI razI') d := by
  induction d with
  | zero => rfl
  | succ d ih =>
      cases d with
      | zero => rfl
      | succ d =>
          rw [trace_step]
          change register (ports d) (ports (d + 1)) _ = _
          unfold register
          rw [ih]
          rcases d with _ | _ | d
          · cases razI <;> simp [clk, raz, event, risingEdge, Regs.atEdge, stable]
          · cases razI <;> cases razI' <;> simp [clk, raz, event, Regs.atEdge, Regs.entered]
          · cases razI' <;> simp [clk, raz, event, Regs.entered]

/-- The process is woken by everything it reads and idempotent, so each delta
applies it to the values of the delta before. -/
theorem trace_nextSt (settled : x.Settled (inputs (ports 0))) (d : Nat) :
    (entity.trace ports (stable x) (d + 1)).nextSt =
      decode (inputs (ports d)) (entity.trace ports (stable x) d).currentSt
        (entity.trace ports (stable x) d).nextSt := by
  induction d with
  | zero => exact settled.symm
  | succ d ih =>
      rw [trace_step]
      change decodeProcess (ports d) (ports (d + 1)) _ _ = _
      unfold decodeProcess
      split_ifs with awake
      · rfl
      · have same : inputs (ports d) = inputs (ports (d + 1)) := by
          simp only [Bool.or_eq_true, not_or, Bool.not_eq_true] at awake
          simp only [inputs, eq_of_event_false awake.1.1.1.1.1.1.2,
            eq_of_event_false awake.1.1.1.1.1.2, eq_of_event_false awake.1.1.1.1.2,
            eq_of_event_false awake.1.1.1.2, eq_of_event_false awake.1.1.2,
            eq_of_event_false awake.1.2, eq_of_event_false awake.2]
        have still : (entity.trace ports (stable x) d).currentSt =
            (entity.trace ports (stable x) (d + 1)).currentSt := by
          simp only [Bool.or_eq_true, not_or, Bool.not_eq_true] at awake
          exact eq_of_event_false awake.1.1.1.1.1.1.1
        rw [ih, same, still, decode_decode]

theorem rising_nextSt (clk : ∀ d, (ports d).clkI = wave [false] true d)
    (raz : ∀ d, (ports d).razI = wave [razI, razI] razI' d)
    (seen : ∀ d, inputs (ports d) =
      wave [before, before, i.buttons, i.codes, i.cleared, i.beep, i.beep] i.final d)
    (settled : x.Settled before) (d : Nat) :
    let current := (x.entered razI razI')
    let next₃ := decode i.buttons (x.atEdge razI) x.nextSt
    let next₄ := decode i.codes current next₃
    let next₅ := decode i.cleared current next₄
    let next₆ := decode i.beep current next₅
    (entity.trace ports (stable x) d).nextSt =
      wave [x.nextSt, x.nextSt, x.nextSt, next₃, next₄, next₅, next₆, next₆]
        (x.next razI razI' i).nextSt d := by
  intro current next₃ next₄ next₅ next₆
  have before' : x.Settled (inputs (ports 0)) := by
    rw [seen]
    exact settled
  have final : (x.next razI razI' i).nextSt = decode i.final current next₆ := rfl
  induction d with
  | zero => rfl
  | succ d ih =>
      rw [trace_nextSt before', ih, rising_currentSt clk raz, seen]
      rcases d with _ | _ | _ | _ | _ | _ | _ | _ | d
      · exact settled
      · exact settled
      · rfl
      · rfl
      · rfl
      · rfl
      · exact decode_decode _ _ _
      · rfl
      · exact Regs.next_settled razI razI' i x

theorem rising_outputs (clk : ∀ d, (ports d).clkI = wave [false] true d)
    (raz : ∀ d, (ports d).razI = wave [razI, razI] razI' d) (d : Nat) :
    (entity.trace ports (stable x) d).modeLedsO =
        wave [modeLeds x.currentSt, modeLeds x.currentSt, modeLeds x.currentSt,
            modeLeds (x.atEdge razI)]
          (modeLeds (x.entered razI razI')) d ∧
      (entity.trace ports (stable x) d).codeFonctionO =
        wave [codeFonction x.currentSt, codeFonction x.currentSt, codeFonction x.currentSt,
            codeFonction (x.atEdge razI)]
          (codeFonction (x.entered razI razI')) d := by
  constructor
  · exact assign_wave entity ports (stable x) Signals.modeLedsO (fun _ s => s.currentSt)
      modeLeds (fun _ _ _ _ => rfl) rfl (rising_currentSt clk raz) d
  · exact assign_wave entity ports (stable x) Signals.codeFonctionO (fun _ s => s.currentSt)
      codeFonction (fun _ _ _ _ => rfl) rfl (rising_currentSt clk raz) d

theorem rising_stable (clk : ∀ d, (ports d).clkI = wave [false] true d)
    (raz : ∀ d, (ports d).razI = wave [razI, razI] razI' d)
    (seen : ∀ d, inputs (ports d) =
      wave [before, before, i.buttons, i.codes, i.cleared, i.beep, i.beep] i.final d)
    (settled : x.Settled before) {d : Nat} (late : 8 ≤ d) :
    entity.trace ports (stable x) d = stable (x.next razI razI' i) := by
  obtain ⟨d, rfl⟩ := Nat.exists_eq_add_of_le' late
  have outputs := rising_outputs (x := x) clk raz (d + 8)
  exact Signals.ext (rising_currentSt clk raz (d + 8)) (rising_nextSt clk raz seen settled (d + 8))
    outputs.1 outputs.2

end Rising

theorem delta_quiet (p p' : Ports) (x : Regs)
    (noEdge : risingEdge p.clkI p'.clkI = false)
    (held : p'.razI = false → x.currentSt = .stSTBY) (same : inputs p = inputs p') :
    entity.delta p p' (stable x) (stable x) = stable x := by
  have current : register p p' (stable x) = x.currentSt := by
    unfold register
    split_ifs with _ reset rise
    · exact (held reset).symm
    · simp [noEdge] at rise
    · rfl
    · rfl
  have next : decodeProcess p p' (stable x) (stable x) = x.nextSt := by
    simp only [inputs, Inputs.mk.injEq] at same
    obtain ⟨babord, tribord, auto, codeBabord, codeTribord, choix, bip⟩ := same
    simp [decodeProcess, babord, tribord, auto, codeBabord, codeTribord, choix, bip, stable]
  change Signals.mk _ _ _ _ = Signals.mk _ _ _ _
  rw [Signals.mk.injEq]
  exact ⟨current, next, rfl, rfl⟩

/-! ## What brings the machine into a state -/

def Inputs.Calls (i : Inputs) : State → Prop
  | .stSTBY | .stAUTO => True
  | .stSTBYbabord => i.btnBabordI = true
  | .stSTBYtribord => i.btnTribordI = true
  | .stAUTObabord1 => i.appuiBtnBabordI = 0b01#2
  | .stAUTOtribord1 => i.appuiBtnTribordI = 0b01#2
  | .stAUTObabord10 => i.appuiBtnBabordI = 0b10#2
  | .stAUTOtribord10 => i.appuiBtnTribordI = 0b10#2

def State.turning : State → Bool
  | .stAUTObabord1 | .stAUTOtribord1 | .stAUTObabord10 | .stAUTOtribord10 => true
  | _ => false

def State.steering : State → Bool
  | .stSTBYbabord | .stSTBYtribord => true
  | _ => false

/-- The code that holds a course correction. -/
def Inputs.turnCode (i : Inputs) : State → BitVec 2
  | .stAUTObabord1 | .stAUTObabord10 => i.appuiBtnBabordI
  | _ => i.appuiBtnTribordI

theorem decode_turning {i : Inputs} {current : State} (next : State)
    (turning : current.turning = true) (code : i.turnCode current = 0b00#2)
    (silent : i.activationBipI = false) (closed : i.tempsChoixBtnBipI = false) :
    decode i current next = .stAUTO := by
  cases current <;> simp_all [decode, State.turning, Inputs.turnCode]

theorem decode_calls (i : Inputs) (current next : State) :
    i.Calls (decode i current next) ∨ decode i current next = next := by
  cases current <;> simp only [decode] <;> split_ifs <;> simp_all [Inputs.Calls]

/-- Standby without an STBY code: only the direction buttons count. -/
def steered (btnBabordI btnTribordI : Bool) (next : State) : State :=
  if btnBabordI = true then .stSTBYbabord
  else if btnTribordI = true then .stSTBYtribord
  else next

theorem decode_standby {i : Inputs} (silent : i.appuiBtnAutoI ≠ 0b01#2) (next : State) :
    decode i .stSTBY next = steered i.btnBabordI i.btnTribordI next := by
  simp [decode, silent, steered]

@[simp] theorem steered_steered (babord tribord : Bool) (next : State) :
    steered babord tribord (steered babord tribord next) = steered babord tribord next := by
  cases babord <;> cases tribord <;> rfl

theorem decode_steering {i : Inputs} {current next : State} (steering : current.steering = true)
    (kept : decode i current next = current) : i.Calls current := by
  cases current with
  | stSTBYbabord =>
      by_contra released
      simp [Inputs.Calls] at released
      simp [decode, released] at kept
  | stSTBYtribord =>
      by_contra released
      simp [Inputs.Calls] at released
      simp [decode, released] at kept
  | _ => simp [State.steering] at steering

/-- Whatever `next_st` holds after a rising edge was called for in one of the
evaluations, or was there before. -/
theorem Regs.next_calls (razI razI' : Bool) (i : Phases) (x : Regs) :
    i.buttons.Calls (x.next razI razI' i).nextSt ∨ i.codes.Calls (x.next razI razI' i).nextSt ∨
      i.cleared.Calls (x.next razI razI' i).nextSt ∨ i.beep.Calls (x.next razI razI' i).nextSt ∨
      i.final.Calls (x.next razI razI' i).nextSt ∨
      (x.next razI razI' i).nextSt = x.nextSt := by
  have step : ∀ {i : Inputs} {current next q : State},
      decode i current next = q → i.Calls q ∨ next = q := by
    rintro i current next q rfl
    rcases decode_calls i current next with calls | kept
    · exact Or.inl calls
    · exact Or.inr kept.symm
  generalize reached : (x.next razI razI' i).nextSt = q
  simp only [Regs.next] at reached
  rcases step reached with calls | reached
  · simp [calls]
  rcases step reached with calls | reached
  · simp [calls]
  rcases step reached with calls | reached
  · simp [calls]
  rcases step reached with calls | reached
  · simp [calls]
  rcases step reached with calls | reached
  · simp [calls]
  · simp [reached]

/-! ## The state diagram -/

theorem modeLeds_turning {state : State} (turning : state.turning = true) :
    modeLeds state = true := by
  cases state <;> first | rfl | simp [State.turning] at turning

theorem modeLeds_standby {state : State} (standby : state = .stSTBY ∨ state.steering = true) :
    modeLeds state = false := by
  rcases standby with rfl | steering
  · rfl
  · cases state <;> first | rfl | simp [State.steering] at steering

theorem turning_standby {state : State} (standby : state = .stSTBY ∨ state.steering = true) :
    state.turning = false := by
  by_contra turning
  have auto := modeLeds_turning (by simpa using turning)
  exact absurd auto (Bool.eq_false_iff.mp (modeLeds_standby standby))

/-- The state diagram, each edge with what the evaluation that takes it has read. -/
inductive Edge (seen : Inputs → Prop) : State → State → Prop where
  | stays (state : State) : Edge seen state state
  | engages {i : Inputs} (sees : seen i) (short : i.appuiBtnAutoI = 0b01#2)
      (silent : i.activationBipI = false) : Edge seen .stSTBY .stAUTO
  | disengages {i : Inputs} (sees : seen i) (short : i.appuiBtnAutoI = 0b01#2)
      (silent : i.activationBipI = false) : Edge seen .stAUTO .stSTBY
  | steers {i : Inputs} {state : State} (steering : state.steering = true) (sees : seen i)
      (calls : i.Calls state) : Edge seen .stSTBY state
  | released {i : Inputs} {state : State} (steering : state.steering = true) (sees : seen i)
      (low : ¬ i.Calls state) : Edge seen state .stSTBY
  | turns {i : Inputs} {state : State} (turning : state.turning = true) (sees : seen i)
      (calls : i.Calls state) : Edge seen .stAUTO state
  | ended {i : Inputs} {state : State} (turning : state.turning = true) (sees : seen i)
      (code : i.turnCode state = 0b00#2) (silent : i.activationBipI = false)
      (closed : i.tempsChoixBtnBipI = false) : Edge seen state .stAUTO

/-- An evaluation stays on the edge it finds or takes another one from the same state. -/
theorem decode_edge {seen : Inputs → Prop} {i : Inputs} (sees : seen i) {current next : State}
    (edge : Edge seen current next) : Edge seen current (decode i current next) := by
  cases current with
  | stSTBY =>
      simp only [decode]
      split_ifs with toggled babord tribord
      · exact .engages sees toggled.1 toggled.2
      · exact .steers rfl sees babord
      · exact .steers rfl sees tribord
      · exact edge
  | stAUTO =>
      simp only [decode]
      split_ifs with toggled long babord1 tribord1 babord10 tribord10
      · exact .disengages sees toggled.1 toggled.2
      · exact .stays .stAUTO
      · exact .turns rfl sees babord1
      · exact .turns rfl sees tribord1
      · exact .turns rfl sees babord10
      · exact .turns rfl sees tribord10
      · exact edge
  | stSTBYbabord | stSTBYtribord =>
      simp only [decode]
      split_ifs with low
      · exact .released rfl sees (by simp [Inputs.Calls, low])
      · exact edge
  | stAUTObabord1 | stAUTObabord10 | stAUTOtribord1 | stAUTOtribord10 =>
      simp only [decode]
      split_ifs with rest
      · exact .ended rfl sees rest.1 rest.2.1 rest.2.2
      · exact edge

/-- What the next-state process reads at a rising edge. -/
def Phases.Reads (i : Phases) (j : Inputs) : Prop :=
  j = i.buttons ∨ j = i.codes ∨ j = i.cleared ∨ j = i.beep ∨ j = i.final

/-- Evaluated with the state unchanged, the process stays on the edge it finds or takes one
that it has read the reason for. -/
theorem Regs.next_edge {seen : Inputs → Prop} {razI razI' : Bool} {i : Phases} {x : Regs}
    (reads : ∀ j, i.Reads j → seen j) (same : x.entered razI razI' = x.atEdge razI)
    (start : Edge seen (x.atEdge razI) x.nextSt) :
    Edge seen (x.next razI razI' i).currentSt (x.next razI razI' i).nextSt := by
  simp only [Regs.next, same]
  exact decode_edge (reads _ (by simp [Phases.Reads])) <|
    decode_edge (reads _ (by simp [Phases.Reads])) <|
    decode_edge (reads _ (by simp [Phases.Reads])) <|
    decode_edge (reads _ (by simp [Phases.Reads])) <|
    decode_edge (reads _ (by simp [Phases.Reads])) start

/-- The diagram without the causes. -/
def State.Leads : State → State → Prop := Edge fun _ => True

theorem Regs.next_leads {razI razI' : Bool} (i : Phases) {x : Regs}
    (once : razI = true → razI' = true) (leads : x.currentSt.Leads x.nextSt)
    (standby : razI = false → x.currentSt = .stSTBY) :
    (x.next razI razI' i).currentSt.Leads (x.next razI razI' i).nextSt := by
  apply next_edge fun _ _ => trivial
  · cases razI with
    | true => simp [Regs.entered, once rfl]
    | false => simp [Regs.entered, Regs.atEdge]
  · cases razI with
    | true => exact .stays x.nextSt
    | false =>
        rw [standby rfl] at leads
        exact leads

theorem State.Leads.standby {current next : State} (leads : current.Leads next)
    (auto : modeLeds current = true) (standby : modeLeds next = false) : next = .stSTBY := by
  cases leads with
  | stays => simp [auto] at standby
  | steers => simp [modeLeds] at auto
  | turns turning => simp [modeLeds_turning turning] at standby
  | _ => first | rfl | simp [modeLeds] at auto standby

theorem decode_held {i : Inputs} {current : State} (steering : current.steering = true)
    (calls : i.Calls current) : decode i current current = current := by
  cases current <;> simp_all [State.steering, Inputs.Calls, decode]

theorem codeFonction_injective : Function.Injective codeFonction := by
  intro a b same
  cases a <;> cases b <;> first | rfl | exact absurd same (by decide)

end Voilier.MachineEtat
