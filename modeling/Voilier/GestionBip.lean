import Voilier.Pulse

/-!
# gestion_bip

The beep sequencer: one beep for a short code or an STBY code, two beeps
separated by a pause for a long direction code.
-/

set_option autoImplicit false

namespace Voilier.GestionBip

open DeltaCycle

structure Ports where
  clkI : Bool
  razNI : Bool
  btnAUTOI : BitVec 2
  btnBabordI : BitVec 2
  btnTribordI : BitVec 2
  enI : Bool

@[ext]
structure Latches where
  activationBip : Bool := false
  attenteBip : Bool := false
  tempChoixBtn : Bool := false
deriving DecidableEq

/-- `counterBip.qnO` is `ONE_sec`, `counterAttenteBip.qnO` is `ZERO_FIVE_sec`,
`edge1sec.reO` is `RE_rst_1_sec` and `edge05sec.reO` is `RE_rst_05_sec`. -/
@[ext]
structure Signals where
  raz : Bool
  counterBip : Counter.Signals 26 := {}
  counterAttenteBip : Counter.Signals 21 := {}
  edge1sec : EdgeDetector.Signals := {}
  edge05sec : EdgeDetector.Signals := {}
  rst1sec : Bool := false
  rst05sec : Bool := false
  latches : Latches := {}
  bipO : Bool := false
  tempsChoixO : Bool := false
deriving DecidableEq

/-- `unsigned(ONE_sec) >= 49999999/100`. -/
def isRst1sec (oneSec : BitVec 26) : Bool := Pulse.atLeast (49999999 / 100) oneSec

/-- `unsigned(ZERO_FIVE_sec) >= 24999999/100`. -/
def isRst05sec (zeroFiveSec : BitVec 21) : Bool := Pulse.atLeast (24999999 / 100) zeroFiveSec

structure Inputs where
  raz : Bool
  enI : Bool
  btnAUTOI : BitVec 2
  btnBabordI : BitVec 2
  btnTribordI : BitVec 2
  reRst1sec : Bool
  reRst05sec : Bool

/-- The body of the latch process.  `s` holds the current values, which the
conditions read; an assignment replaces any earlier one, and a signal that no
branch assigns keeps its value. -/
def latch (i : Inputs) (s : Latches) : Latches :=
  if i.raz then { s with activationBip := false }
  else if i.enI then
    let next := s
    let next :=
      if i.btnAUTOI = 0b01#2 ∨ i.btnAUTOI = 0b10#2 ∨ i.btnBabordI = 0b01#2 ∨
          i.btnTribordI = 0b01#2 then
        { next with activationBip := true }
      else next
    let next :=
      if i.btnBabordI = 0b10#2 ∨ i.btnTribordI = 0b10#2 then
        { next with activationBip := true, tempChoixBtn := true }
      else next
    let next :=
      if i.reRst1sec then
        { next with
          activationBip := false
          attenteBip := if s.tempChoixBtn then true else next.attenteBip }
      else next
    if i.reRst05sec then
      { activationBip := true, attenteBip := false, tempChoixBtn := false }
    else next
  else s

def inputs (p : Ports) (s : Signals) : Inputs :=
  ⟨s.raz, p.enI, p.btnAUTOI, p.btnBabordI, p.btnTribordI, s.edge1sec.reO, s.edge05sec.reO⟩

/-- An event on `(btn_AUTO_i, btn_Babord_i, btn_Tribord_i, RE_rst_05_sec,
RE_rst_1_sec, raz)`. -/
def woken (p p' : Ports) (s s' : Signals) : Bool :=
  event p.btnAUTOI p'.btnAUTOI || event p.btnBabordI p'.btnBabordI ||
    event p.btnTribordI p'.btnTribordI || event s.edge05sec.reO s'.edge05sec.reO ||
    event s.edge1sec.reO s'.edge1sec.reO || event s.raz s'.raz

/-- The latch process.  `en_i` and `temp_choix_btn` are read but do not wake
it. -/
def latchProcess (p p' : Ports) (s s' : Signals) : Latches :=
  if woken p p' s s' then latch (inputs p' s') s'.latches else s'.latches

def counterBipPorts (p : Ports) (s : Signals) : Counter.Ports :=
  ⟨p.clkI, s.raz, s.rst1sec, s.latches.activationBip⟩

def counterAttenteBipPorts (p : Ports) (s : Signals) : Counter.Ports :=
  ⟨p.clkI, s.raz, s.rst05sec, s.latches.attenteBip⟩

def edge1secPorts (p : Ports) (s : Signals) : EdgeDetector.Ports := ⟨p.clkI, true, s.rst1sec⟩

def edge05secPorts (p : Ports) (s : Signals) : EdgeDetector.Ports := ⟨p.clkI, true, s.rst05sec⟩

def entity : Entity Ports Signals where
  delta p p' s s' :=
    { raz := !p'.razNI
      counterBip := (Counter.entity 26).delta (counterBipPorts p s) (counterBipPorts p' s')
        s.counterBip s'.counterBip
      counterAttenteBip := (Counter.entity 21).delta (counterAttenteBipPorts p s)
        (counterAttenteBipPorts p' s') s.counterAttenteBip s'.counterAttenteBip
      edge1sec := EdgeDetector.entity.delta (edge1secPorts p s) (edge1secPorts p' s')
        s.edge1sec s'.edge1sec
      edge05sec := EdgeDetector.entity.delta (edge05secPorts p s) (edge05secPorts p' s')
        s.edge05sec s'.edge05sec
      rst1sec := isRst1sec s'.counterBip.qnO
      rst05sec := isRst05sec s'.counterAttenteBip.qnO
      latches := latchProcess p p' s s'
      bipO := s'.latches.activationBip
      tempsChoixO := s'.latches.tempChoixBtn }

/-! ## One clock cycle -/

/-- What the sequencer remembers from one cycle to the next: the delay of a beep,
the delay of the pause, and the latches. -/
structure Regs where
  oneSec : Pulse.Regs 26 := {}
  zeroFiveSec : Pulse.Regs 21 := {}
  latches : Latches := {}
deriving DecidableEq

def Regs.re1sec (x : Regs) : Bool := x.oneSec.re (49999999 / 100)

def Regs.re05sec (x : Regs) : Bool := x.zeroFiveSec.re (24999999 / 100)

def stable (p : Ports) (x : Regs) : Signals where
  raz := !p.razNI
  counterBip := Counter.stable x.oneSec.qn
  counterAttenteBip := Counter.stable x.zeroFiveSec.qn
  edge1sec := EdgeDetector.stable (isRst1sec x.oneSec.qn) x.oneSec.s
  edge05sec := EdgeDetector.stable (isRst05sec x.zeroFiveSec.qn) x.zeroFiveSec.s
  rst1sec := isRst1sec x.oneSec.qn
  rst05sec := isRst05sec x.zeroFiveSec.qn
  latches := x.latches
  bipO := x.latches.activationBip
  tempsChoixO := x.latches.tempChoixBtn

/-- `RE_rst_1_sec` as raised by the counter value of the new cycle, `p` being the
ports of the cycle that ends. -/
def Regs.re1secAtEdge (p : Ports) (x : Regs) : Bool :=
  x.oneSec.reAtEdge (49999999 / 100) (!p.razNI) x.latches.activationBip

def Regs.re05secAtEdge (p : Ports) (x : Regs) : Bool :=
  x.zeroFiveSec.reAtEdge (24999999 / 100) (!p.razNI) x.latches.attenteBip

def Regs.wakes (p p' : Ports) (x : Regs) : Bool :=
  event p.btnAUTOI p'.btnAUTOI || event p.btnBabordI p'.btnBabordI ||
    event p.btnTribordI p'.btnTribordI || event x.re05sec false ||
    event x.re1sec false || event (!p.razNI) (!p'.razNI)

/-- The latches once the codes of the new cycle have arrived and before a counter
of the new cycle raises its pulse. -/
def Regs.withCodes (p p' : Ports) (x : Regs) : Latches :=
  if p'.razNI then
    if x.wakes p p' then
      latch ⟨false, p'.enI, p'.btnAUTOI, p'.btnBabordI, p'.btnTribordI, false, false⟩ x.latches
    else x.latches
  else { x.latches with activationBip := false }

def Regs.next (p p' : Ports) (x : Regs) : Regs where
  oneSec := x.oneSec.next (49999999 / 100) (!p.razNI) (!p'.razNI) x.latches.activationBip
  zeroFiveSec := x.zeroFiveSec.next (24999999 / 100) (!p.razNI) (!p'.razNI) x.latches.attenteBip
  latches :=
    if p'.razNI && (x.re1secAtEdge p || x.re05secAtEdge p) then
      latch ⟨false, p'.enI, p'.btnAUTOI, p'.btnBabordI, p'.btnTribordI,
        x.re1secAtEdge p, x.re05secAtEdge p⟩ (x.withCodes p p')
    else x.withCodes p p'

def Regs.Held (p : Ports) (x : Regs) : Prop :=
  p.razNI = false →
    x.oneSec.qn = 0 ∧ x.zeroFiveSec.qn = 0 ∧ x.latches.activationBip = false

theorem Regs.next_held (p p' : Ports) (x : Regs) : (x.next p p').Held p' := by
  intro reset
  simp [Regs.next, Regs.withCodes, Pulse.Regs.next, reset]

/-- The port waveform of a rising edge between cycles with ports `p` and `p'`.
The codes and the enable are concurrent assignments of registers that change in
delta 2, so they arrive in delta 3, where an asynchronous reset may still be on
its way: `p₃` are the ports of that delta. -/
structure Rises (ports : Nat → Ports) (p p₃ p' : Ports) : Prop where
  clk : ∀ d, (ports d).clkI = wave [false] true d
  razN : ∀ d, (ports d).razNI = wave [p.razNI, p.razNI] p'.razNI d
  auto : ∀ d, (ports d).btnAUTOI =
    wave [p.btnAUTOI, p.btnAUTOI, p.btnAUTOI, p₃.btnAUTOI] p'.btnAUTOI d
  babord : ∀ d, (ports d).btnBabordI =
    wave [p.btnBabordI, p.btnBabordI, p.btnBabordI, p₃.btnBabordI] p'.btnBabordI d
  tribord : ∀ d, (ports d).btnTribordI =
    wave [p.btnTribordI, p.btnTribordI, p.btnTribordI, p₃.btnTribordI] p'.btnTribordI d
  en : ∀ d, (ports (d + 3)).enI = wave [p₃.enI] p'.enI d
  noReset : p'.razNI = true → p₃.btnAUTOI = p'.btnAUTOI ∧ p₃.btnBabordI = p'.btnBabordI ∧
    p₃.btnTribordI = p'.btnTribordI ∧ p₃.enI = p'.enI

section Rising
variable {ports : Nat → Ports} {p p₃ p' : Ports} {x : Regs}

theorem rising_raz (rises : Rises ports p p₃ p') (d : Nat) :
    (entity.trace ports (stable p x) d).raz =
      wave [!p.razNI, !p.razNI, !p.razNI] (!p'.razNI) d :=
  assign_wave entity ports (stable p x) Signals.raz (fun p _ => p.razNI) not
    (fun _ _ _ _ => rfl) (by simp [stable, rises.razN]) rises.razN d

theorem wired1sec (rises : Rises ports p p₃ p') :
    Pulse.Wired (49999999 / 100) x.oneSec (!p.razNI) (!p'.razNI) x.latches.activationBip
      (fun d => counterBipPorts (ports d) (entity.trace ports (stable p x) d))
      (fun d => edge1secPorts (ports d) (entity.trace ports (stable p x) d))
      (fun d => (entity.trace ports (stable p x) d).counterBip)
      (fun d => (entity.trace ports (stable p x) d).edge1sec)
      (fun d => (entity.trace ports (stable p x) d).rst1sec) where
  clk := rises.clk
  reset := rising_raz rises
  srst := rfl
  en := rfl
  edgeClk := rises.clk
  edgeEn _ := rfl
  edgeE _ := rfl
  counterTrace := trace_instance entity ports (stable p x) (Counter.entity 26)
    counterBipPorts Signals.counterBip (fun _ _ _ _ => rfl)
  edgeTrace := trace_instance entity ports (stable p x) EdgeDetector.entity
    edge1secPorts Signals.edge1sec (fun _ _ _ _ => rfl)
  rstZero := rfl
  rstSucc := trace_assign entity ports (stable p x) Signals.rst1sec
    (fun _ s => isRst1sec s.counterBip.qnO) (fun _ _ _ _ => rfl) rfl

theorem wired05sec (rises : Rises ports p p₃ p') :
    Pulse.Wired (24999999 / 100) x.zeroFiveSec (!p.razNI) (!p'.razNI) x.latches.attenteBip
      (fun d => counterAttenteBipPorts (ports d) (entity.trace ports (stable p x) d))
      (fun d => edge05secPorts (ports d) (entity.trace ports (stable p x) d))
      (fun d => (entity.trace ports (stable p x) d).counterAttenteBip)
      (fun d => (entity.trace ports (stable p x) d).edge05sec)
      (fun d => (entity.trace ports (stable p x) d).rst05sec) where
  clk := rises.clk
  reset := rising_raz rises
  srst := rfl
  en := rfl
  edgeClk := rises.clk
  edgeEn _ := rfl
  edgeE _ := rfl
  counterTrace := trace_instance entity ports (stable p x) (Counter.entity 21)
    counterAttenteBipPorts Signals.counterAttenteBip (fun _ _ _ _ => rfl)
  edgeTrace := trace_instance entity ports (stable p x) EdgeDetector.entity
    edge05secPorts Signals.edge05sec (fun _ _ _ _ => rfl)
  rstZero := rfl
  rstSucc := trace_assign entity ports (stable p x) Signals.rst05sec
    (fun _ s => isRst05sec s.counterAttenteBip.qnO) (fun _ _ _ _ => rfl) rfl

theorem latchProcess_reset {p p' : Ports} {s s' : Signals} (reset : s'.raz = true)
    (silent : s'.latches.activationBip = false) : latchProcess p p' s s' = s'.latches := by
  unfold latchProcess
  split_ifs with awake
  · simp [latch, inputs, reset, ← silent]
  · rfl

/-- When the latch process wakes.  Delta 2 brings the codes and the end of old
pulses, delta 4 the pulses of the new counter values. -/
theorem rising_woken (rises : Rises ports p p₃ p') (d : Nat) :
    woken (ports d) (ports (d + 1)) (entity.trace ports (stable p x) d)
        (entity.trace ports (stable p x) (d + 1)) =
      wave [false, false,
          event p.btnAUTOI p₃.btnAUTOI || event p.btnBabordI p₃.btnBabordI ||
            event p.btnTribordI p₃.btnTribordI || event x.re05sec false ||
            event x.re1sec false || event (!p.razNI) (!p'.razNI),
          event p₃.btnAUTOI p'.btnAUTOI || event p₃.btnBabordI p'.btnBabordI ||
            event p₃.btnTribordI p'.btnTribordI,
          event false (x.re05secAtEdge p) || event false (x.re1secAtEdge p),
          false,
          event (x.re05secAtEdge p) (x.next p p').re05sec ||
            event (x.re1secAtEdge p) (x.next p p').re1sec]
        false d := by
  have raz := rising_raz (x := x) rises
  have re1 := fun d => ((wired1sec (x := x) rises).edge_wave d).1
  have re05 := fun d => ((wired05sec (x := x) rises).edge_wave d).1
  rcases d with _ | _ | _ | _ | _ | _ | _ | d <;>
    simp [-trace_one, -trace_zero, woken, rises.auto, rises.babord, rises.tribord, raz, re1,
      re05, Regs.re1sec, Regs.re05sec, Regs.re1secAtEdge, Regs.re05secAtEdge, Regs.next]

/-- Outside reset the process sees the new codes without pulses in delta 3 and
with the pulses of the new counter values in delta 5. -/
theorem rising_inputs (rises : Rises ports p p₃ p') (running : p'.razNI = true) :
    inputs (ports 3) (entity.trace ports (stable p x) 3) =
        ⟨false, p'.enI, p'.btnAUTOI, p'.btnBabordI, p'.btnTribordI, false, false⟩ ∧
      inputs (ports 5) (entity.trace ports (stable p x) 5) =
        ⟨false, p'.enI, p'.btnAUTOI, p'.btnBabordI, p'.btnTribordI,
          x.re1secAtEdge p, x.re05secAtEdge p⟩ := by
  obtain ⟨auto, babord, tribord, en⟩ := rises.noReset running
  have raz := rising_raz (x := x) rises
  have re1 := fun d => ((wired1sec (x := x) rises).edge_wave d).1
  have re05 := fun d => ((wired05sec (x := x) rises).edge_wave d).1
  have en3 := rises.en 0
  have en5 := rises.en 2
  simp [inputs, rises.auto, rises.babord, rises.tribord, raz, re1, re05, running, auto, babord,
    tribord, Regs.re1secAtEdge, Regs.re05secAtEdge]
  simp_all

theorem next_re (running : p'.razNI = true) :
    (x.next p p').re1sec = x.re1secAtEdge p ∧ (x.next p p').re05sec = x.re05secAtEdge p := by
  simp [Regs.re1sec, Regs.re05sec, Regs.re1secAtEdge, Regs.re05secAtEdge, Regs.next,
    Pulse.re_running, running]

theorem rising_latches (rises : Rises ports p p₃ p') (held : x.Held p) (d : Nat) :
    (entity.trace ports (stable p x) d).latches =
      wave [x.latches, x.latches, x.latches, x.latches, x.withCodes p p', x.withCodes p p']
        (x.next p p').latches d := by
  have raz := rising_raz (x := x) rises
  have woken := rising_woken (x := x) rises
  induction d with
  | zero => rfl
  | succ d ih =>
      cases d with
      | zero => rfl
      | succ d =>
          rw [trace_step]
          change latchProcess (ports d) (ports (d + 1)) _ _ = _
          cases running : p'.razNI with
          | true =>
              obtain ⟨auto, babord, tribord, en⟩ := rises.noReset running
              obtain ⟨inputs3, inputs5⟩ := rising_inputs (x := x) rises running
              unfold latchProcess
              rw [woken, ih]
              rcases d with _ | _ | _ | _ | _ | _ | _ | d
              · simp
              · simp
              · simp [inputs3, Regs.withCodes, Regs.wakes, running, auto, babord, tribord]
              · simp [auto, babord, tribord]
              · simp [inputs5, Regs.next, running, or_comm]
              · simp
              · simp [(next_re running).1, (next_re running).2]
              · simp
          | false =>
              have silent : (x.withCodes p p') = { x.latches with activationBip := false } := by
                simp [Regs.withCodes, running]
              have final : (x.next p p').latches = x.withCodes p p' := by
                simp [Regs.next, running]
              rcases d with _ | _ | _ | d
              · rw [latchProcess, woken, ih]
                simp
              · rw [latchProcess, woken, ih]
                simp
              · unfold latchProcess
                split_ifs with awake
                · simp [latch, inputs, raz, running, ih, silent]
                · have reset : p.razNI = false := by
                    simp [woken, running] at awake
                    simpa using awake.2
                  simp [ih, silent, ← (held reset).2.2]
              · rw [latchProcess_reset (by simp [raz, running])]
                · rw [ih]
                  rcases d with _ | _ | d <;> simp [final]
                · rw [ih]
                  rcases d with _ | _ | d <;> simp [final, silent]

theorem rising_outputs (rises : Rises ports p p₃ p') (held : x.Held p) (d : Nat) :
    (entity.trace ports (stable p x) d).bipO =
        wave [x.latches.activationBip, x.latches.activationBip, x.latches.activationBip,
            x.latches.activationBip, x.latches.activationBip,
            (x.withCodes p p').activationBip, (x.withCodes p p').activationBip]
          (x.next p p').latches.activationBip d ∧
      (entity.trace ports (stable p x) d).tempsChoixO =
        wave [x.latches.tempChoixBtn, x.latches.tempChoixBtn, x.latches.tempChoixBtn,
            x.latches.tempChoixBtn, x.latches.tempChoixBtn,
            (x.withCodes p p').tempChoixBtn, (x.withCodes p p').tempChoixBtn]
          (x.next p p').latches.tempChoixBtn d := by
  constructor
  · exact assign_wave entity ports (stable p x) Signals.bipO (fun _ s => s.latches)
      Latches.activationBip (fun _ _ _ _ => rfl) rfl (rising_latches rises held) d
  · exact assign_wave entity ports (stable p x) Signals.tempsChoixO (fun _ s => s.latches)
      Latches.tempChoixBtn (fun _ _ _ _ => rfl) rfl (rising_latches rises held) d

theorem rising_stable (rises : Rises ports p p₃ p') (held : x.Held p) {d : Nat} (late : 8 ≤ d) :
    entity.trace ports (stable p x) d = stable p' (x.next p p') := by
  obtain ⟨d, rfl⟩ := Nat.exists_eq_add_of_le' late
  have later : 7 ≤ d + 8 := by omega
  obtain ⟨one, edge1, rst1⟩ := (wired1sec (x := x) rises).settled later
  obtain ⟨half, edge05, rst05⟩ := (wired05sec (x := x) rises).settled later
  have outputs := rising_outputs (x := x) rises held (d + 8)
  exact Signals.ext (rising_raz rises (d + 8)) one half edge1 edge05 rst1 rst05
    (rising_latches rises held (d + 8)) outputs.1 outputs.2

end Rising

theorem delta_quiet (p p' : Ports) (x : Regs) (held : x.Held p')
    (noEdge : risingEdge p.clkI p'.clkI = false) (auto : p.btnAUTOI = p'.btnAUTOI)
    (babord : p.btnBabordI = p'.btnBabordI) (tribord : p.btnTribordI = p'.btnTribordI) :
    entity.delta p p' (stable p' x) (stable p' x) = stable p' x := by
  have one := Counter.delta_quiet (counterBipPorts p (stable p' x))
    (counterBipPorts p' (stable p' x)) x.oneSec.qn noEdge
    (fun reset => (held (by simpa [counterBipPorts, stable] using reset)).1)
  have half := Counter.delta_quiet (counterAttenteBipPorts p (stable p' x))
    (counterAttenteBipPorts p' (stable p' x)) x.zeroFiveSec.qn noEdge
    (fun reset => (held (by simpa [counterAttenteBipPorts, stable] using reset)).2.1)
  have edge1 := EdgeDetector.delta_quiet (edge1secPorts p (stable p' x))
    (edge1secPorts p' (stable p' x)) x.oneSec.s noEdge
  have edge05 := EdgeDetector.delta_quiet (edge05secPorts p (stable p' x))
    (edge05secPorts p' (stable p' x)) x.zeroFiveSec.s noEdge
  have asleep : woken p p' (stable p' x) (stable p' x) = false := by
    simp [woken, auto, babord, tribord]
  have latches : latchProcess p p' (stable p' x) (stable p' x) = x.latches := by
    rw [latchProcess, asleep]
    rfl
  change Signals.mk _ _ _ _ _ _ _ _ _ _ = Signals.mk _ _ _ _ _ _ _ _ _ _
  rw [Signals.mk.injEq]
  exact ⟨rfl, one, half, edge1, edge05, rfl, rfl, latches, rfl, rfl⟩

end Voilier.GestionBip
