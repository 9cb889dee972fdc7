import Voilier.GestionBarre

/-!
# One clock cycle of gestion_barre

The delta cycles of the two clock edges, taken together, act on the registers
and latches of the controller as the function `Regs.next`.  Every later result
is about that function; `run_eq` carries it back to the delta-cycle model.
-/

set_option autoImplicit false

namespace Voilier.GestionBarre

open DeltaCycle

structure Codes where
  auto : BitVec 2
  babord : BitVec 2
  tribord : BitVec 2
deriving DecidableEq

/-- Everything the controller remembers from one cycle to the next. -/
structure Regs where
  machine : MachineEtat.Regs := {}
  btnAuto : GestionTempsAppuiBouton.Regs := {}
  btnBabord : GestionTempsAppuiBouton.Regs := {}
  btnTribord : GestionTempsAppuiBouton.Regs := {}
  bip : GestionBip.Regs := {}
  leds : GestionLeds.Regs := {}
deriving DecidableEq

def Regs.codes (x : Regs) : Codes :=
  ⟨x.btnAuto.driven.tempoAppuiBtn, x.btnBabord.driven.tempoAppuiBtn,
    x.btnTribord.driven.tempoAppuiBtn⟩

/-- The codes the press timers put out at the edge that ends a cycle with ports
`p`, before a reset of the new cycle withdraws them. -/
def Regs.codesAtEdge (p : Ports) (x : Regs) : Codes :=
  ⟨(x.btnAuto.atEdge (btnAutoPorts p)).tempoAppuiBtn,
    (x.btnBabord.atEdge (btnBabordPorts p)).tempoAppuiBtn,
    (x.btnTribord.atEdge (btnTribordPorts p)).tempoAppuiBtn⟩

def beepPorts (p : Ports) (c : Codes) : GestionBip.Ports :=
  ⟨p.clk50MI, p.razNI, c.auto, c.babord, c.tribord, true⟩

def lampPorts (p : Ports) (c : Codes) (current : MachineEtat.State) : GestionLeds.Ports where
  clkI := p.clk50MI
  razNI := p.razNI
  btnBabordI := p.bpBabordI
  btnTribordI := p.bpTribordI
  modeLedsI := MachineEtat.modeLeds current
  appuiBtnBabord := c.babord
  appuiBtnTribord := c.tribord
  codeFonction := MachineEtat.codeFonction current

def machineInputs (p : Ports) (c : Codes) (l : GestionBip.Latches) : MachineEtat.Inputs :=
  ⟨p.bpBabordI, p.bpTribordI, c.auto, c.babord, c.tribord, l.tempChoixBtn, l.activationBip⟩

def stable (p : Ports) (x : Regs) : Signals where
  machine := MachineEtat.stable x.machine
  btnAuto := GestionTempsAppuiBouton.stable (btnAutoPorts p) x.btnAuto
  btnBabord := GestionTempsAppuiBouton.stable (btnBabordPorts p) x.btnBabord
  btnTribord := GestionTempsAppuiBouton.stable (btnTribordPorts p) x.btnTribord
  bip := GestionBip.stable (beepPorts p x.codes) x.bip
  leds := GestionLeds.stable (lampPorts p x.codes x.machine.currentSt) x.leds
  codeFonctionO := MachineEtat.codeFonction x.machine.currentSt
  outBipO := x.bip.latches.activationBip

def Regs.nextCodes (p p' : Ports) (x : Regs) : Codes :=
  ⟨(x.btnAuto.next (btnAutoPorts p) (btnAutoPorts p')).driven.tempoAppuiBtn,
    (x.btnBabord.next (btnBabordPorts p) (btnBabordPorts p')).driven.tempoAppuiBtn,
    (x.btnTribord.next (btnTribordPorts p) (btnTribordPorts p')).driven.tempoAppuiBtn⟩

def Regs.beepWithCodes (p p' : Ports) (x : Regs) : GestionBip.Latches :=
  x.bip.withCodes (beepPorts p x.codes) (beepPorts p' (x.nextCodes p p'))

def Regs.nextBip (p p' : Ports) (x : Regs) : GestionBip.Regs :=
  x.bip.next (beepPorts p x.codes) (beepPorts p' (x.nextCodes p p'))

/-- What the next-state process reads in the deltas of a rising edge. -/
def Regs.phases (p p' : Ports) (x : Regs) : MachineEtat.Phases where
  buttons := machineInputs p' x.codes x.bip.latches
  codes := machineInputs p' (x.codesAtEdge p) x.bip.latches
  cleared := machineInputs p' (x.nextCodes p p') x.bip.latches
  beep := machineInputs p' (x.nextCodes p p') (x.beepWithCodes p p')
  final := machineInputs p' (x.nextCodes p p') (x.nextBip p p').latches

def Regs.nextMachine (p p' : Ports) (x : Regs) : MachineEtat.Regs :=
  x.machine.next p.razNI p'.razNI (x.phases p p')

/-- The ports of the leds in the cycle that ends, in delta 3 and in the cycle
that begins. -/
def Regs.ledPorts (p : Ports) (x : Regs) : GestionLeds.Ports :=
  lampPorts p x.codes x.machine.currentSt

def Regs.ledPorts₃ (p p' : Ports) (x : Regs) : GestionLeds.Ports :=
  lampPorts p' (x.codesAtEdge p) (x.machine.atEdge p.razNI)

def Regs.ledPorts' (p p' : Ports) (x : Regs) : GestionLeds.Ports :=
  lampPorts p' (x.nextCodes p p') (x.nextMachine p p').currentSt

def Regs.rise (p p' : Ports) (x : Regs) : Regs where
  machine := x.nextMachine p p'
  btnAuto := x.btnAuto.next (btnAutoPorts p) (btnAutoPorts p')
  btnBabord := x.btnBabord.next (btnBabordPorts p) (btnBabordPorts p')
  btnTribord := x.btnTribord.next (btnTribordPorts p) (btnTribordPorts p')
  bip := x.nextBip p p'
  leds := x.leds.rise (x.ledPorts p) (x.ledPorts₃ p p') (x.ledPorts' p p')

/-- The registers one cycle later: `p` are the ports of the cycle that ends and
`p'` those of the cycle that begins. -/
def Regs.next (p p' : Ports) (x : Regs) : Regs where
  machine := x.nextMachine p p'
  btnAuto := x.btnAuto.next (btnAutoPorts p) (btnAutoPorts p')
  btnBabord := x.btnBabord.next (btnBabordPorts p) (btnBabordPorts p')
  btnTribord := x.btnTribord.next (btnTribordPorts p) (btnTribordPorts p')
  bip := x.nextBip p p'
  leds := x.leds.next (x.ledPorts p) (x.ledPorts₃ p p') (x.ledPorts' p p')

structure Regs.Wf (p : Ports) (x : Regs) : Prop where
  btnAuto : x.btnAuto.Held (btnAutoPorts p)
  btnBabord : x.btnBabord.Held (btnBabordPorts p)
  btnTribord : x.btnTribord.Held (btnTribordPorts p)
  bip : x.bip.Held (beepPorts p x.codes)
  leds : x.leds.Held (lampPorts p x.codes x.machine.currentSt)
  standby : p.razNI = false → x.machine.currentSt = .stSTBY
  settled : x.machine.Settled (machineInputs p x.codes x.bip.latches)

theorem Regs.next_wf (p p' : Ports) (x : Regs) : (x.next p p').Wf p' where
  btnAuto := x.btnAuto.next_held _ _
  btnBabord := x.btnBabord.next_held _ _
  btnTribord := x.btnTribord.next_held _ _
  bip := x.bip.next_held _ _
  leds := x.leds.next_held _ _ _
  standby reset := by simp [Regs.next, Regs.nextMachine, MachineEtat.Regs.next,
    MachineEtat.Regs.entered, reset]
  settled := x.machine.next_settled _ _ _

section Rising
variable {p p' : Ports} {x : Regs}

theorem rising_clk (d : Nat) : (Driven.rising p p' d).clk50MI = wave [false] true d := by
  rcases d with _ | _ | d <;> rfl

theorem rising_razNI (d : Nat) :
    (Driven.rising p p' d).razNI = wave [p.razNI, p.razNI] p'.razNI d := by
  rcases d with _ | _ | d <;> rfl

theorem rising_bpSTBYI (d : Nat) :
    (Driven.rising p p' d).bpSTBYI = wave [p.bpSTBYI, p.bpSTBYI] p'.bpSTBYI d := by
  rcases d with _ | _ | d <;> rfl

theorem rising_bpBabordI (d : Nat) :
    (Driven.rising p p' d).bpBabordI = wave [p.bpBabordI, p.bpBabordI] p'.bpBabordI d := by
  rcases d with _ | _ | d <;> rfl

theorem rising_bpTribordI (d : Nat) :
    (Driven.rising p p' d).bpTribordI = wave [p.bpTribordI, p.bpTribordI] p'.bpTribordI d := by
  rcases d with _ | _ | d <;> rfl

theorem rises_btnAuto : GestionTempsAppuiBouton.Rises
    (fun d => btnAutoPorts (Driven.rising p p' d)) (btnAutoPorts p) (btnAutoPorts p') :=
  ⟨rising_clk, rising_razNI, rising_bpSTBYI⟩

theorem rises_btnBabord : GestionTempsAppuiBouton.Rises
    (fun d => btnBabordPorts (Driven.rising p p' d)) (btnBabordPorts p) (btnBabordPorts p') :=
  ⟨rising_clk, rising_razNI, rising_bpBabordI⟩

theorem rises_btnTribord : GestionTempsAppuiBouton.Rises
    (fun d => btnTribordPorts (Driven.rising p p' d)) (btnTribordPorts p) (btnTribordPorts p') :=
  ⟨rising_clk, rising_razNI, rising_bpTribordI⟩

theorem trace_btnAuto (ports : Nat → Ports) (d : Nat) :
    (entity.trace ports (stable p x) d).btnAuto =
      GestionTempsAppuiBouton.entity.trace (fun d => btnAutoPorts (ports d))
        (GestionTempsAppuiBouton.stable (btnAutoPorts p) x.btnAuto) d :=
  trace_instance entity ports (stable p x) GestionTempsAppuiBouton.entity
    (fun p _ => btnAutoPorts p) Signals.btnAuto (fun _ _ _ _ => rfl) d

theorem trace_btnBabord (ports : Nat → Ports) (d : Nat) :
    (entity.trace ports (stable p x) d).btnBabord =
      GestionTempsAppuiBouton.entity.trace (fun d => btnBabordPorts (ports d))
        (GestionTempsAppuiBouton.stable (btnBabordPorts p) x.btnBabord) d :=
  trace_instance entity ports (stable p x) GestionTempsAppuiBouton.entity
    (fun p _ => btnBabordPorts p) Signals.btnBabord (fun _ _ _ _ => rfl) d

theorem trace_btnTribord (ports : Nat → Ports) (d : Nat) :
    (entity.trace ports (stable p x) d).btnTribord =
      GestionTempsAppuiBouton.entity.trace (fun d => btnTribordPorts (ports d))
        (GestionTempsAppuiBouton.stable (btnTribordPorts p) x.btnTribord) d :=
  trace_instance entity ports (stable p x) GestionTempsAppuiBouton.entity
    (fun p _ => btnTribordPorts p) Signals.btnTribord (fun _ _ _ _ => rfl) d

/-- The codes change in delta 3 and, under reset, once more in delta 4. -/
theorem rising_codes (p p' : Ports) (x : Regs) (d : Nat) :
    let s := entity.trace (Driven.rising p p') (stable p x) d
    (⟨s.btnAuto.appuiBtnO, s.btnBabord.appuiBtnO, s.btnTribord.appuiBtnO⟩ : Codes) =
      wave [x.codes, x.codes, x.codes, x.codesAtEdge p] (x.nextCodes p p') d := by
  dsimp only
  rw [trace_btnAuto, trace_btnBabord, trace_btnTribord,
    GestionTempsAppuiBouton.rising_appuiBtnO rises_btnAuto,
    GestionTempsAppuiBouton.rising_appuiBtnO rises_btnBabord,
    GestionTempsAppuiBouton.rising_appuiBtnO rises_btnTribord]
  rcases d with _ | _ | _ | _ | d <;> rfl

theorem rising_code {α : Type} (code : Codes → α) (p p' : Ports) (x : Regs) (d : Nat) :
    let s := entity.trace (Driven.rising p p') (stable p x) d
    code ⟨s.btnAuto.appuiBtnO, s.btnBabord.appuiBtnO, s.btnTribord.appuiBtnO⟩ =
      wave [code x.codes, code x.codes, code x.codes, code (x.codesAtEdge p)]
        (code (x.nextCodes p p')) d :=
  (congrArg code (rising_codes p p' x d)).trans (map_wave code _ _ d)

theorem codesAtEdge_of_running (running : p'.razNI = true) :
    x.codesAtEdge p = x.nextCodes p p' := by
  simp [Regs.codesAtEdge, Regs.nextCodes, GestionTempsAppuiBouton.Regs.next, btnAutoPorts,
    btnBabordPorts, btnTribordPorts, running]

theorem rises_bip (p p' : Ports) (x : Regs) : GestionBip.Rises
    (fun d => bipPorts (Driven.rising p p' d) (entity.trace (Driven.rising p p') (stable p x) d))
    (beepPorts p x.codes) (beepPorts p' (x.codesAtEdge p)) (beepPorts p' (x.nextCodes p p')) where
  clk := rising_clk
  razN := rising_razNI
  auto := rising_code Codes.auto p p' x
  babord := rising_code Codes.babord p p' x
  tribord := rising_code Codes.tribord p p' x
  en d := by cases d <;> rfl
  noReset running := by
    rw [codesAtEdge_of_running running]
    exact ⟨rfl, rfl, rfl, rfl⟩

theorem trace_bip (ports : Nat → Ports) (d : Nat) :
    (entity.trace ports (stable p x) d).bip =
      GestionBip.entity.trace
        (fun d => bipPorts (ports d) (entity.trace ports (stable p x) d))
        (GestionBip.stable (beepPorts p x.codes) x.bip) d :=
  trace_instance entity ports (stable p x) GestionBip.entity bipPorts Signals.bip
    (fun _ _ _ _ => rfl) d

theorem trace_machine (ports : Nat → Ports) (d : Nat) :
    (entity.trace ports (stable p x) d).machine =
      MachineEtat.entity.trace
        (fun d => machinePorts (ports d) (entity.trace ports (stable p x) d))
        (MachineEtat.stable x.machine) d :=
  trace_instance entity ports (stable p x) MachineEtat.entity machinePorts Signals.machine
    (fun _ _ _ _ => rfl) d

theorem rising_machineInputs (wf : x.Wf p) (d : Nat) :
    MachineEtat.inputs (machinePorts (Driven.rising p p' d)
        (entity.trace (Driven.rising p p') (stable p x) d)) =
      wave [machineInputs p x.codes x.bip.latches, machineInputs p x.codes x.bip.latches,
          (x.phases p p').buttons, (x.phases p p').codes, (x.phases p p').cleared,
          (x.phases p p').beep, (x.phases p p').beep]
        (x.phases p p').final d := by
  have beep := GestionBip.rising_outputs (rises_bip p p' x) wf.bip d
  simp only [MachineEtat.inputs, machinePorts, rising_bpBabordI, rising_bpTribordI,
    trace_bip, beep]
  have auto := rising_code Codes.auto p p' x d
  have babord := rising_code Codes.babord p p' x d
  have tribord := rising_code Codes.tribord p p' x d
  dsimp only at auto babord tribord
  rw [auto, babord, tribord]
  rcases d with _ | _ | _ | _ | _ | _ | _ | d <;> rfl

theorem rising_machine (p' : Ports) (wf : x.Wf p) {d : Nat} (late : 8 ≤ d) :
    (entity.trace (Driven.rising p p') (stable p x) d).machine =
      MachineEtat.stable (x.nextMachine p p') := by
  rw [trace_machine]
  exact MachineEtat.rising_stable rising_clk rising_razNI (rising_machineInputs wf) wf.settled late

theorem rising_machineOutputs (d : Nat) :
    (entity.trace (Driven.rising p p') (stable p x) d).machine.modeLedsO =
        wave [(x.ledPorts p).modeLedsI, (x.ledPorts p).modeLedsI, (x.ledPorts p).modeLedsI,
            (x.ledPorts₃ p p').modeLedsI]
          (x.ledPorts' p p').modeLedsI d ∧
      (entity.trace (Driven.rising p p') (stable p x) d).machine.codeFonctionO =
        wave [(x.ledPorts p).codeFonction, (x.ledPorts p).codeFonction,
            (x.ledPorts p).codeFonction, (x.ledPorts₃ p p').codeFonction]
          (x.ledPorts' p p').codeFonction d := by
  rw [trace_machine]
  exact MachineEtat.rising_outputs rising_clk rising_razNI d

theorem rises_leds : GestionLeds.Rises
    (fun d => ledsPorts (Driven.rising p p' d) (entity.trace (Driven.rising p p') (stable p x) d))
    (x.ledPorts p) (x.ledPorts₃ p p') (x.ledPorts' p p') where
  clk := rising_clk
  razN := rising_razNI
  btnBabord := rising_bpBabordI
  btnTribord := rising_bpTribordI
  mode d := (rising_machineOutputs d).1
  babord := rising_code Codes.babord p p' x
  tribord := rising_code Codes.tribord p p' x
  code d := (rising_machineOutputs d).2
  noReset running := by
    have running' : p'.razNI = true := running
    simp [Regs.ledPorts₃, Regs.ledPorts', lampPorts, codesAtEdge_of_running running',
      Regs.nextMachine, MachineEtat.Regs.next, MachineEtat.Regs.entered, running']

theorem trace_leds (ports : Nat → Ports) (d : Nat) :
    (entity.trace ports (stable p x) d).leds =
      GestionLeds.entity.trace
        (fun d => ledsPorts (ports d) (entity.trace ports (stable p x) d))
        (GestionLeds.stable (lampPorts p x.codes x.machine.currentSt) x.leds) d :=
  trace_instance entity ports (stable p x) GestionLeds.entity ledsPorts Signals.leds
    (fun _ _ _ _ => rfl) d

theorem rising_stable (wf : x.Wf p) {d : Nat} (late : 10 ≤ d) :
    entity.trace (Driven.rising p p') (stable p x) d = stable p' (x.rise p p') := by
  obtain ⟨d, rfl⟩ := Nat.exists_eq_add_of_le' late
  have machine := rising_machine p' wf (show 8 ≤ d + 10 by omega)
  have btnAuto := (trace_btnAuto (x := x) (Driven.rising p p') (d + 10)).trans
    (GestionTempsAppuiBouton.rising_stable rises_btnAuto (by omega))
  have btnBabord := (trace_btnBabord (x := x) (Driven.rising p p') (d + 10)).trans
    (GestionTempsAppuiBouton.rising_stable rises_btnBabord (by omega))
  have btnTribord := (trace_btnTribord (x := x) (Driven.rising p p') (d + 10)).trans
    (GestionTempsAppuiBouton.rising_stable rises_btnTribord (by omega))
  have bip := (trace_bip (x := x) (Driven.rising p p') (d + 10)).trans
    (GestionBip.rising_stable (rises_bip p p' x) wf.bip (by omega))
  have leds := (trace_leds (x := x) (Driven.rising p p') (d + 10)).trans
    (GestionLeds.rising_stable rises_leds wf.leds (by omega))
  have code : (entity.trace (Driven.rising p p') (stable p x) (d + 10)).codeFonctionO =
      MachineEtat.codeFonction (x.nextMachine p p').currentSt := by
    rw [trace_assign entity _ (stable p x) Signals.codeFonctionO
      (fun _ s => s.machine.codeFonctionO) (fun _ _ _ _ => rfl) rfl (d + 9),
      rising_machine p' wf (by omega)]
    rfl
  have out : (entity.trace (Driven.rising p p') (stable p x) (d + 10)).outBipO =
      (x.nextBip p p').latches.activationBip := by
    rw [trace_assign entity _ (stable p x) Signals.outBipO
      (fun _ s => s.bip.bipO) (fun _ _ _ _ => rfl) rfl (d + 9), trace_bip,
      GestionBip.rising_stable (rises_bip p p' x) wf.bip (by omega)]
    rfl
  exact Signals.ext machine btnAuto btnBabord btnTribord bip leds code out

end Rising

section Falling
variable {p : Ports} {x : Regs}

def Regs.withLamps (x : Regs) (lamps : GestionLeds.Lamps) : Regs :=
  { x with leds := { x.leds with lamps := lamps } }

def Regs.fall (p : Ports) (x : Regs) : Regs := { x with leds := x.leds.fall (x.ledPorts p) }

theorem delta_falling (previous : GestionLeds.Lamps) (wf : x.Wf p) {before now : Bool}
    (noEdge : risingEdge before now = false) :
    entity.delta { p with clk50MI := before } { p with clk50MI := now }
        (stable p (x.withLamps previous)) (stable p x) =
      stable p (if event before now then x.fall p else x) := by
  have machine := MachineEtat.delta_quiet
    (machinePorts { p with clk50MI := before } (stable p (x.withLamps previous)))
    (machinePorts { p with clk50MI := now } (stable p x)) x.machine noEdge wf.standby rfl
  have btnAuto := GestionTempsAppuiBouton.delta_quiet
    (btnAutoPorts { p with clk50MI := before })
    (btnAutoPorts { p with clk50MI := now }) x.btnAuto wf.btnAuto noEdge
  have btnBabord := GestionTempsAppuiBouton.delta_quiet
    (btnBabordPorts { p with clk50MI := before })
    (btnBabordPorts { p with clk50MI := now }) x.btnBabord wf.btnBabord noEdge
  have btnTribord := GestionTempsAppuiBouton.delta_quiet
    (btnTribordPorts { p with clk50MI := before })
    (btnTribordPorts { p with clk50MI := now }) x.btnTribord wf.btnTribord noEdge
  have bip := GestionBip.delta_quiet
    (bipPorts { p with clk50MI := before } (stable p (x.withLamps previous)))
    (bipPorts { p with clk50MI := now } (stable p x)) x.bip wf.bip noEdge rfl rfl rfl
  have leds := GestionLeds.delta_quiet
    (ledsPorts { p with clk50MI := before } (stable p (x.withLamps previous)))
    (ledsPorts { p with clk50MI := now } (stable p x)) x.leds previous wf.leds noEdge rfl rfl rfl
  cases fallen : event before now with
  | true =>
      simp only [ledsPorts, fallen] at leds
      exact Signals.ext machine btnAuto btnBabord btnTribord bip leds rfl rfl
  | false =>
      simp only [ledsPorts, fallen] at leds
      exact Signals.ext machine btnAuto btnBabord btnTribord bip leds rfl rfl

theorem rise_wf (p p' : Ports) (x : Regs) : (x.rise p p').Wf p' where
  btnAuto := x.btnAuto.next_held _ _
  btnBabord := x.btnBabord.next_held _ _
  btnTribord := x.btnTribord.next_held _ _
  bip := x.bip.next_held _ _
  leds := x.leds.rise_held _ _ _
  standby := (x.next_wf p p').standby
  settled := x.machine.next_settled _ _ _

/-- The led process is all a falling edge runs to any effect. -/
theorem falling_stable (risen : x.Wf p) (d : Nat) :
    entity.trace (Driven.falling p) (stable p x) (d + 2) = stable p (x.fall p) := by
  have fallen : (x.fall p).Wf p :=
    ⟨risen.btnAuto, risen.btnBabord, risen.btnTribord, risen.bip, risen.leds, risen.standby,
      risen.settled⟩
  apply trace_once
  · exact delta_falling x.leds.lamps risen rfl
  · exact delta_falling x.leds.lamps fallen rfl
  · intro d
    exact delta_falling (x.fall p).leds.lamps fallen rfl

end Falling

theorem cycle_eq (p p' : Ports) (x : Regs) (wf : x.Wf p) :
    entity.cycle ⟨p, stable p x⟩ p' = ⟨p', stable p' (x.next p p')⟩ := by
  have risen : entity.rise ⟨p, stable p x⟩ p' = stable p' (x.rise p p') :=
    rising_stable wf (by decide)
  rw [Entity.cycle, risen, settleDepth, falling_stable (rise_wf p p' x)]
  rfl

/-! ## Runs -/

def Regs.run (p : Ports) (wave : Nat → Ports) (x : Regs) : Nat → Regs :=
  runRegs Regs.next p wave x

theorem implements : Implements entity stable Regs.next Regs.Wf where
  cycle := cycle_eq
  wf p p' x _ := x.next_wf p p'

theorem Regs.Wf.run_wf {p : Ports} {x : Regs} (wf : x.Wf p) (wave : Nat → Ports) (t : Nat) :
    (x.run p wave t).Wf (wave t) :=
  implements.run_wf wf wave t

/-- Every run of the delta-cycle model is a run of the registers. -/
theorem run_from {p : Ports} {x : Regs} (wf : x.Wf p) (wave : Nat → Ports) (t : Nat) :
    entity.run ⟨p, stable p x⟩ wave t = ⟨wave t, stable (wave t) (x.run p wave t)⟩ :=
  implements.run_eq wf wave t

theorem powerUp_wf : Regs.Wf powerUp.ports {} where
  btnAuto _ := ⟨rfl, rfl⟩
  btnBabord _ := ⟨rfl, rfl⟩
  btnTribord _ := ⟨rfl, rfl⟩
  bip _ := ⟨rfl, rfl, rfl⟩
  leds := ⟨fun _ => ⟨rfl, rfl, rfl⟩, fun _ => ⟨rfl, rfl⟩⟩
  standby _ := rfl
  settled := rfl

def regs (wave : Nat → Ports) (t : Nat) : Regs := Regs.run powerUp.ports wave {} t

theorem regs_succ (wave : Nat → Ports) (t : Nat) :
    regs wave (t + 1) = (regs wave t).next (wave t) (wave (t + 1)) := rfl

theorem regs_wf (wave : Nat → Ports) (t : Nat) : (regs wave t).Wf (wave t) :=
  powerUp_wf.run_wf wave t

theorem run_eq (wave : Nat → Ports) (t : Nat) :
    run wave t = ⟨wave t, stable (wave t) (regs wave t)⟩ :=
  run_from powerUp_wf wave t

theorem reachable_stable {s : Snapshot Ports Signals} (reached : entity.Reachable powerUp s) :
    ∃ x : Regs, x.Wf s.ports ∧ s = ⟨s.ports, stable s.ports x⟩ :=
  implements.reachable powerUp_wf reached

end Voilier.GestionBarre
