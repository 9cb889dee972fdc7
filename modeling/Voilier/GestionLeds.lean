import Voilier.GestionBip

/-!
# gestion_leds

The three leds: a blinking STBY led and raw direction leds in standby, a steady
STBY led and a direction led driven by a second `gestion_bip` in AUTO.
-/

set_option autoImplicit false

namespace Voilier.GestionLeds

open DeltaCycle

structure Ports where
  clkI : Bool
  razNI : Bool
  btnBabordI : Bool
  btnTribordI : Bool
  modeLedsI : Bool
  appuiBtnBabord : BitVec 2
  appuiBtnTribord : BitVec 2
  codeFonction : BitVec 4

structure Lamps where
  ledBabordO : Bool := false
  ledTribordO : Bool := false
  ledSTBYO : Bool := true
  allumeLedStby : Bool := true
  eteindLedStby : Bool := false
deriving DecidableEq

/-- `bip` is `gestion_led_mode_auto_inst`, whose `bip_o` is `led`. -/
@[ext]
structure Signals where
  raz : Bool
  bip : GestionBip.Signals
  counterAllume : Counter.Signals 26 := {}
  counterEteindre : Counter.Signals 21 := {}
  edge1sec : EdgeDetector.Signals := {}
  edge05sec : EdgeDetector.Signals := {}
  rst1sec : Bool := false
  rst05sec : Bool := false
  lamps : Lamps := {}
deriving DecidableEq

structure Inputs where
  btnBabordI : Bool
  btnTribordI : Bool
  modeLedsI : Bool
  codeFonction : BitVec 4
  led : Bool
  reRst1sec : Bool
  reRst05sec : Bool

def standbyLamps (i : Inputs) (s : Lamps) : Lamps :=
  let next := s
  let next :=
    if i.btnBabordI then { next with ledBabordO := true }
    else if i.btnTribordI then { next with ledTribordO := true }
    else next
  let next := if i.btnBabordI = false then { next with ledBabordO := false } else next
  let next := if i.btnTribordI = false then { next with ledTribordO := false } else next
  let next :=
    if i.reRst1sec then { next with allumeLedStby := false, eteindLedStby := true } else next
  let next :=
    if i.reRst05sec then { next with allumeLedStby := true, eteindLedStby := false } else next
  if s.allumeLedStby then { next with ledSTBYO := true } else { next with ledSTBYO := false }

def autoLamps (i : Inputs) (s : Lamps) : Lamps :=
  if i.codeFonction = 0b0111#4 ∨ i.codeFonction = 0b0110#4 then
    { s with ledSTBYO := true, ledBabordO := i.led, ledTribordO := false }
  else if i.codeFonction = 0b0100#4 ∨ i.codeFonction = 0b0101#4 then
    { s with ledSTBYO := true, ledTribordO := i.led, ledBabordO := false }
  else { s with ledSTBYO := true, ledBabordO := false, ledTribordO := false }

def lampsBody (i : Inputs) (s : Lamps) : Lamps :=
  if i.modeLedsI = false then standbyLamps i s else autoLamps i s

def inputs (p : Ports) (s : Signals) : Inputs :=
  ⟨p.btnBabordI, p.btnTribordI, p.modeLedsI, p.codeFonction, s.bip.bipO,
    s.edge1sec.reO, s.edge05sec.reO⟩

/-- An event on `(btn_babord_i, btn_tribord_i, RE_rst_1_sec, RE_rst_05_sec, led,
code_fonction)`; `mode_leds_i` is not in the list. -/
def moved (i i' : Inputs) : Bool :=
  event i.btnBabordI i'.btnBabordI || event i.btnTribordI i'.btnTribordI ||
    event i.reRst1sec i'.reRst1sec || event i.reRst05sec i'.reRst05sec ||
    event i.led i'.led || event i.codeFonction i'.codeFonction

@[simp] theorem moved_self (i : Inputs) : moved i i = false := by simp [moved]

/-- The led process, woken by both edges of the clock besides the signals of
`moved`. -/
def ledProcess (p p' : Ports) (s s' : Signals) : Lamps :=
  if event p.clkI p'.clkI || moved (inputs p s) (inputs p' s') then
    lampsBody (inputs p' s') s'.lamps
  else s'.lamps

/-- The second sequencer never sees the STBY button and is enabled in AUTO
only. -/
def bipPorts (p : Ports) : GestionBip.Ports :=
  ⟨p.clkI, p.razNI, 0b00#2, p.appuiBtnBabord, p.appuiBtnTribord, p.modeLedsI⟩

def counterAllumePorts (p : Ports) (s : Signals) : Counter.Ports :=
  ⟨p.clkI, s.raz, s.rst1sec, s.lamps.allumeLedStby⟩

def counterEteindrePorts (p : Ports) (s : Signals) : Counter.Ports :=
  ⟨p.clkI, s.raz, s.rst05sec, s.lamps.eteindLedStby⟩

def edge1secPorts (p : Ports) (s : Signals) : EdgeDetector.Ports := ⟨p.clkI, true, s.rst1sec⟩

def edge05secPorts (p : Ports) (s : Signals) : EdgeDetector.Ports := ⟨p.clkI, true, s.rst05sec⟩

def entity : Entity Ports Signals where
  delta p p' s s' :=
    { raz := !p'.razNI
      bip := GestionBip.entity.delta (bipPorts p) (bipPorts p') s.bip s'.bip
      counterAllume := (Counter.entity 26).delta (counterAllumePorts p s)
        (counterAllumePorts p' s') s.counterAllume s'.counterAllume
      counterEteindre := (Counter.entity 21).delta (counterEteindrePorts p s)
        (counterEteindrePorts p' s') s.counterEteindre s'.counterEteindre
      edge1sec := EdgeDetector.entity.delta (edge1secPorts p s) (edge1secPorts p' s')
        s.edge1sec s'.edge1sec
      edge05sec := EdgeDetector.entity.delta (edge05secPorts p s) (edge05secPorts p' s')
        s.edge05sec s'.edge05sec
      rst1sec := GestionBip.isRst1sec s'.counterAllume.qnO
      rst05sec := GestionBip.isRst05sec s'.counterEteindre.qnO
      lamps := ledProcess p p' s s' }

/-! ## One clock cycle -/

/-- What the leds remember from one cycle to the next: the second sequencer, the
two delays of the blink, and the signals of the led process. -/
structure Regs where
  bip : GestionBip.Regs := {}
  allume : Pulse.Regs 26 := {}
  eteindre : Pulse.Regs 21 := {}
  lamps : Lamps := {}
deriving DecidableEq

def stable (p : Ports) (x : Regs) : Signals where
  raz := !p.razNI
  bip := GestionBip.stable (bipPorts p) x.bip
  counterAllume := Counter.stable x.allume.qn
  counterEteindre := Counter.stable x.eteindre.qn
  edge1sec := EdgeDetector.stable (GestionBip.isRst1sec x.allume.qn) x.allume.s
  edge05sec := EdgeDetector.stable (GestionBip.isRst05sec x.eteindre.qn) x.eteindre.s
  rst1sec := GestionBip.isRst1sec x.allume.qn
  rst05sec := GestionBip.isRst05sec x.eteindre.qn
  lamps := x.lamps

def Regs.nextAllume (p p' : Ports) (x : Regs) : Pulse.Regs 26 :=
  x.allume.next (49999999 / 100) (!p.razNI) (!p'.razNI) x.lamps.allumeLedStby

def Regs.nextEteindre (p p' : Ports) (x : Regs) : Pulse.Regs 21 :=
  x.eteindre.next (24999999 / 100) (!p.razNI) (!p'.razNI) x.lamps.eteindLedStby

def Regs.inputs (p : Ports) (x : Regs) : Inputs :=
  ⟨p.btnBabordI, p.btnTribordI, p.modeLedsI, p.codeFonction, x.bip.latches.activationBip,
    x.allume.re (49999999 / 100), x.eteindre.re (24999999 / 100)⟩

/-- What the led process reads in the deltas of a rising edge, `p₃` being the
ports of delta 3. -/
structure Phases where
  before : Inputs
  buttons : Inputs
  codes : Inputs
  cleared : Inputs
  pulses : Inputs
  final : Inputs

def Regs.phases (p p₃ p' : Ports) (x : Regs) : Phases where
  before := x.inputs p
  buttons := { x.inputs p with btnBabordI := p'.btnBabordI, btnTribordI := p'.btnTribordI }
  codes := ⟨p'.btnBabordI, p'.btnTribordI, p₃.modeLedsI, p₃.codeFonction,
    x.bip.latches.activationBip, false, false⟩
  cleared := ⟨p'.btnBabordI, p'.btnTribordI, p'.modeLedsI, p'.codeFonction,
    x.bip.latches.activationBip, false, false⟩
  pulses := ⟨p'.btnBabordI, p'.btnTribordI, p'.modeLedsI, p'.codeFonction,
    (x.bip.withCodes (bipPorts p) (bipPorts p')).activationBip,
    x.allume.reAtEdge (49999999 / 100) (!p.razNI) x.lamps.allumeLedStby,
    x.eteindre.reAtEdge (24999999 / 100) (!p.razNI) x.lamps.eteindLedStby⟩
  final := ⟨p'.btnBabordI, p'.btnTribordI, p'.modeLedsI, p'.codeFonction,
    (x.bip.next (bipPorts p) (bipPorts p')).latches.activationBip,
    (x.nextAllume p p').re (49999999 / 100), (x.nextEteindre p p').re (24999999 / 100)⟩

/-- The led process in a delta of a rising edge in which the clock is quiet. -/
def respond (i i' : Inputs) (s : Lamps) : Lamps := if moved i i' then lampsBody i' s else s

def Phases.lamps (i : Phases) (s : Lamps) : Lamps :=
  respond i.pulses i.final <| respond i.cleared i.pulses <| respond i.codes i.cleared <|
    respond i.buttons i.codes <| respond i.before i.buttons <| lampsBody i.before s

def Regs.rise (p p₃ p' : Ports) (x : Regs) : Regs where
  bip := x.bip.next (bipPorts p) (bipPorts p')
  allume := x.nextAllume p p'
  eteindre := x.nextEteindre p p'
  lamps := (x.phases p p₃ p').lamps x.lamps

/-- The falling edge evaluates the led process once more. -/
def Regs.fall (p : Ports) (x : Regs) : Regs := { x with lamps := lampsBody (x.inputs p) x.lamps }

def Regs.next (p p₃ p' : Ports) (x : Regs) : Regs := (x.rise p p₃ p').fall p'

def Regs.Held (p : Ports) (x : Regs) : Prop :=
  x.bip.Held (bipPorts p) ∧ (p.razNI = false → x.allume.qn = 0 ∧ x.eteindre.qn = 0)

theorem Regs.rise_held (p p₃ p' : Ports) (x : Regs) : (x.rise p p₃ p').Held p' := by
  refine ⟨x.bip.next_held (bipPorts p) (bipPorts p'), fun reset => ?_⟩
  simp [Regs.rise, Regs.nextAllume, Regs.nextEteindre, Pulse.Regs.next, reset]

theorem Regs.next_held (p p₃ p' : Ports) (x : Regs) : (x.next p p₃ p').Held p' :=
  x.rise_held p p₃ p'

/-- The port waveform of a rising edge; `p₃` are the ports of delta 3, when an
asynchronous reset may still be on its way. -/
structure Rises (ports : Nat → Ports) (p p₃ p' : Ports) : Prop where
  clk : ∀ d, (ports d).clkI = wave [false] true d
  razN : ∀ d, (ports d).razNI = wave [p.razNI, p.razNI] p'.razNI d
  btnBabord : ∀ d, (ports d).btnBabordI = wave [p.btnBabordI, p.btnBabordI] p'.btnBabordI d
  btnTribord : ∀ d, (ports d).btnTribordI = wave [p.btnTribordI, p.btnTribordI] p'.btnTribordI d
  mode : ∀ d, (ports d).modeLedsI =
    wave [p.modeLedsI, p.modeLedsI, p.modeLedsI, p₃.modeLedsI] p'.modeLedsI d
  babord : ∀ d, (ports d).appuiBtnBabord =
    wave [p.appuiBtnBabord, p.appuiBtnBabord, p.appuiBtnBabord, p₃.appuiBtnBabord]
      p'.appuiBtnBabord d
  tribord : ∀ d, (ports d).appuiBtnTribord =
    wave [p.appuiBtnTribord, p.appuiBtnTribord, p.appuiBtnTribord, p₃.appuiBtnTribord]
      p'.appuiBtnTribord d
  code : ∀ d, (ports d).codeFonction =
    wave [p.codeFonction, p.codeFonction, p.codeFonction, p₃.codeFonction] p'.codeFonction d
  noReset : p'.razNI = true → p₃.appuiBtnBabord = p'.appuiBtnBabord ∧
    p₃.appuiBtnTribord = p'.appuiBtnTribord ∧ p₃.modeLedsI = p'.modeLedsI

section Rising
variable {ports : Nat → Ports} {p p₃ p' : Ports} {x : Regs}

theorem Rises.bip (rises : Rises ports p p₃ p') :
    GestionBip.Rises (fun d => bipPorts (ports d)) (bipPorts p) (bipPorts p₃) (bipPorts p') where
  clk := rises.clk
  razN := rises.razN
  auto d := by rcases d with _ | _ | _ | _ | d <;> rfl
  babord := rises.babord
  tribord := rises.tribord
  en d := by
    have mode := rises.mode (d + 3)
    simpa [bipPorts] using mode
  noReset running := by
    obtain ⟨babord, tribord, mode⟩ := rises.noReset running
    exact ⟨rfl, babord, tribord, mode⟩

theorem rising_raz (rises : Rises ports p p₃ p') (d : Nat) :
    (entity.trace ports (stable p x) d).raz =
      wave [!p.razNI, !p.razNI, !p.razNI] (!p'.razNI) d :=
  assign_wave entity ports (stable p x) Signals.raz (fun p _ => p.razNI) not
    (fun _ _ _ _ => rfl) (by simp [stable, rises.razN]) rises.razN d

theorem trace_bip (d : Nat) :
    (entity.trace ports (stable p x) d).bip =
      GestionBip.entity.trace (fun d => bipPorts (ports d))
        (GestionBip.stable (bipPorts p) x.bip) d :=
  trace_instance entity ports (stable p x) GestionBip.entity (fun p _ => bipPorts p)
    Signals.bip (fun _ _ _ _ => rfl) d

theorem wiredAllume (rises : Rises ports p p₃ p') :
    Pulse.Wired (49999999 / 100) x.allume (!p.razNI) (!p'.razNI) x.lamps.allumeLedStby
      (fun d => counterAllumePorts (ports d) (entity.trace ports (stable p x) d))
      (fun d => edge1secPorts (ports d) (entity.trace ports (stable p x) d))
      (fun d => (entity.trace ports (stable p x) d).counterAllume)
      (fun d => (entity.trace ports (stable p x) d).edge1sec)
      (fun d => (entity.trace ports (stable p x) d).rst1sec) where
  clk := rises.clk
  reset := rising_raz rises
  srst := rfl
  en := rfl
  edgeClk := rises.clk
  edgeEn _ := rfl
  edgeE _ := rfl
  counterTrace := trace_instance entity ports (stable p x) (Counter.entity 26)
    counterAllumePorts Signals.counterAllume (fun _ _ _ _ => rfl)
  edgeTrace := trace_instance entity ports (stable p x) EdgeDetector.entity
    edge1secPorts Signals.edge1sec (fun _ _ _ _ => rfl)
  rstZero := rfl
  rstSucc := trace_assign entity ports (stable p x) Signals.rst1sec
    (fun _ s => GestionBip.isRst1sec s.counterAllume.qnO) (fun _ _ _ _ => rfl) rfl

theorem wiredEteindre (rises : Rises ports p p₃ p') :
    Pulse.Wired (24999999 / 100) x.eteindre (!p.razNI) (!p'.razNI) x.lamps.eteindLedStby
      (fun d => counterEteindrePorts (ports d) (entity.trace ports (stable p x) d))
      (fun d => edge05secPorts (ports d) (entity.trace ports (stable p x) d))
      (fun d => (entity.trace ports (stable p x) d).counterEteindre)
      (fun d => (entity.trace ports (stable p x) d).edge05sec)
      (fun d => (entity.trace ports (stable p x) d).rst05sec) where
  clk := rises.clk
  reset := rising_raz rises
  srst := rfl
  en := rfl
  edgeClk := rises.clk
  edgeEn _ := rfl
  edgeE _ := rfl
  counterTrace := trace_instance entity ports (stable p x) (Counter.entity 21)
    counterEteindrePorts Signals.counterEteindre (fun _ _ _ _ => rfl)
  edgeTrace := trace_instance entity ports (stable p x) EdgeDetector.entity
    edge05secPorts Signals.edge05sec (fun _ _ _ _ => rfl)
  rstZero := rfl
  rstSucc := trace_assign entity ports (stable p x) Signals.rst05sec
    (fun _ s => GestionBip.isRst05sec s.counterEteindre.qnO) (fun _ _ _ _ => rfl) rfl

theorem rising_inputs (rises : Rises ports p p₃ p') (held : x.Held p) (d : Nat) :
    inputs (ports d) (entity.trace ports (stable p x) d) =
      wave [(x.phases p p₃ p').before, (x.phases p p₃ p').before, (x.phases p p₃ p').buttons,
          (x.phases p p₃ p').codes, (x.phases p p₃ p').cleared, (x.phases p p₃ p').pulses,
          (x.phases p p₃ p').pulses]
        (x.phases p p₃ p').final d := by
  have re1 := fun d => ((wiredAllume (x := x) rises).edge_wave d).1
  have re05 := fun d => ((wiredEteindre (x := x) rises).edge_wave d).1
  have led := fun d => (GestionBip.rising_outputs rises.bip held.1 d).1
  simp only [inputs, rises.btnBabord, rises.btnTribord, rises.mode, rises.code, re1, re05,
    trace_bip, led]
  rcases d with _ | _ | _ | _ | _ | _ | _ | d <;>
    simp [Regs.phases, Regs.inputs, Regs.nextAllume, Regs.nextEteindre]

theorem rising_lamps (rises : Rises ports p p₃ p') (held : x.Held p) (d : Nat) :
    let i := x.phases p p₃ p'
    let lamps₂ := lampsBody i.before x.lamps
    let lamps₃ := respond i.before i.buttons lamps₂
    let lamps₄ := respond i.buttons i.codes lamps₃
    let lamps₅ := respond i.codes i.cleared lamps₄
    let lamps₆ := respond i.cleared i.pulses lamps₅
    (entity.trace ports (stable p x) d).lamps =
      wave [x.lamps, x.lamps, lamps₂, lamps₃, lamps₄, lamps₅, lamps₆, lamps₆]
        (i.lamps x.lamps) d := by
  intro i lamps₂ lamps₃ lamps₄ lamps₅ lamps₆
  have seen := rising_inputs (x := x) rises held
  induction d with
  | zero => rfl
  | succ d ih =>
      cases d with
      | zero => rfl
      | succ d =>
          rw [trace_step]
          change ledProcess (ports d) (ports (d + 1)) _ _ = _
          rw [ledProcess, seen, seen, ih, rises.clk, rises.clk]
          rcases d with _ | _ | _ | _ | _ | _ | _ | d
          -- the rising clock
          · simp only [wave_zero, wave_succ, wave_nil, event_false_left, Bool.true_or, if_true]
            rfl
          · simp only [wave_zero, wave_succ, wave_nil, event_self, Bool.false_or]
            rfl
          · simp only [wave_zero, wave_succ, wave_nil, event_self, Bool.false_or]
            rfl
          · simp only [wave_zero, wave_succ, wave_nil, event_self, Bool.false_or]
            rfl
          · simp only [wave_zero, wave_succ, wave_nil, event_self, Bool.false_or]
            rfl
          · simp
          · simp only [wave_zero, wave_succ, wave_nil, event_self, Bool.false_or]
            rfl
          · simp

theorem rising_stable (rises : Rises ports p p₃ p') (held : x.Held p) {d : Nat} (late : 8 ≤ d) :
    entity.trace ports (stable p x) d = stable p' (x.rise p p₃ p') := by
  obtain ⟨d, rfl⟩ := Nat.exists_eq_add_of_le' late
  have later : 7 ≤ d + 8 := by omega
  obtain ⟨allume, edge1, rst1⟩ := (wiredAllume (x := x) rises).settled later
  obtain ⟨eteindre, edge05, rst05⟩ := (wiredEteindre (x := x) rises).settled later
  have bip : (entity.trace ports (stable p x) (d + 8)).bip =
      GestionBip.stable (bipPorts p') (x.bip.next (bipPorts p) (bipPorts p')) := by
    rw [trace_bip, GestionBip.rising_stable rises.bip held.1 (by omega)]
  exact Signals.ext (rising_raz rises (d + 8)) bip allume eteindre edge1 edge05 rst1 rst05
    (rising_lamps rises held (d + 8))

end Rising

/-- The deltas of a falling edge leave everything but the lamps alone, whatever
the lamps were in the previous delta; the first one evaluates the led process. -/
theorem delta_quiet (p p' : Ports) (x : Regs) (previous : Lamps) (held : x.Held p')
    (noEdge : risingEdge p.clkI p'.clkI = false)
    (babord : p.appuiBtnBabord = p'.appuiBtnBabord)
    (tribord : p.appuiBtnTribord = p'.appuiBtnTribord)
    (same : x.inputs p = x.inputs p') :
    entity.delta p p' (stable p' { x with lamps := previous }) (stable p' x) =
      stable p' (if event p.clkI p'.clkI then x.fall p' else x) := by
  have bip := GestionBip.delta_quiet (bipPorts p) (bipPorts p') x.bip held.1 noEdge rfl
    babord tribord
  have allume := Counter.delta_quiet
    (counterAllumePorts p (stable p' { x with lamps := previous }))
    (counterAllumePorts p' (stable p' x)) x.allume.qn noEdge
    (fun reset => (held.2 (by simpa [counterAllumePorts, stable] using reset)).1)
  have eteindre := Counter.delta_quiet
    (counterEteindrePorts p (stable p' { x with lamps := previous }))
    (counterEteindrePorts p' (stable p' x)) x.eteindre.qn
    noEdge (fun reset => (held.2 (by simpa [counterEteindrePorts, stable] using reset)).2)
  have edge1 := EdgeDetector.delta_quiet (edge1secPorts p (stable p' x))
    (edge1secPorts p' (stable p' x)) x.allume.s noEdge
  have edge05 := EdgeDetector.delta_quiet (edge05secPorts p (stable p' x))
    (edge05secPorts p' (stable p' x)) x.eteindre.s noEdge
  have lamps : ledProcess p p' (stable p' { x with lamps := previous }) (stable p' x) =
      (if event p.clkI p'.clkI then x.fall p' else x).lamps := by
    have quiet : moved (inputs p (stable p' { x with lamps := previous }))
        (inputs p' (stable p' x)) = false := by
      have sameInputs : inputs p (stable p' { x with lamps := previous }) =
          inputs p' (stable p' x) := same
      rw [sameInputs]
      simp
    rw [ledProcess, quiet, Bool.or_false]
    split_ifs <;> rfl
  have kept : ∀ fallen : Bool, (if fallen then x.fall p' else x).bip = x.bip ∧
      (if fallen then x.fall p' else x).allume = x.allume ∧
      (if fallen then x.fall p' else x).eteindre = x.eteindre := by
    intro fallen
    cases fallen <;> exact ⟨rfl, rfl, rfl⟩
  obtain ⟨keptBip, keptAllume, keptEteindre⟩ := kept (event p.clkI p'.clkI)
  change Signals.mk _ _ _ _ _ _ _ _ _ = _
  simp only [stable, keptBip, keptAllume, keptEteindre, ← lamps]
  rw [Signals.mk.injEq]
  exact ⟨rfl, bip, allume, eteindre, edge1, edge05, rfl, rfl, rfl⟩

end Voilier.GestionLeds
