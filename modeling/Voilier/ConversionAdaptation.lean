import Voilier.CascadeCompteurs
import Voilier.DefEtats

/-!
# Conversion_Adaptation

The compass.  The time its PWM signal spends high becomes a heading, which
crosses three registers: one loaded at the falling edge, one refreshed by the
seconds counter and one opened by the mode machine.
-/

set_option autoImplicit false

namespace Voilier.ConversionAdaptation

open DeltaCycle

structure Ports where
  clk50MI : Bool
  razNI : Bool
  inPwmCompasI : Bool
  continuI : Bool
  startStopI : Bool

/-- `conversionDegres.degresO` is `degres`, `bascule.sO` is `pwm_sync`,
`cascade.cascade.qnO` is `temps_ms`, `edge.feO` is `fe`, `registre.sO` is
`degres_stable_periode`, `counterSeconde.qnO` is `sec`, `registre2.sO` is
`degres_stable_1s`, `defEtats.dataValidO` is `data_valid_o`,
`defEtats.acquisitionO` is `dem_acquisition` and `registre3.sO` is
`data_compas_o`. -/
@[ext]
structure Signals where
  raz : Bool
  conversionDegres : ConversionDegres.Signals := {}
  bascule : BasculeD.Signals := {}
  cascade : CascadeCompteurs.Signals := {}
  edge : EdgeDetector.Signals := {}
  registre : Registre.Signals 9 := {}
  counterSeconde : Counter.Signals 26 := {}
  registre2 : Registre.Signals 9 := {}
  defEtats : DefEtats.Signals := {}
  registre3 : Registre.Signals 9 := {}
  refresh1sec : Bool := false
  out1sO : Bool := false
deriving DecidableEq

/-- `unsigned(sec) >= 49999999/10`. -/
def isRefresh1sec (sec : BitVec 26) : Bool := decide (49999999 / 10 ≤ sec.toNat)

def conversionDegresPorts (_ : Ports) (s : Signals) : ConversionDegres.Ports :=
  ⟨s.cascade.cascade.qnO⟩

def basculePorts (p : Ports) : BasculeD.Ports := ⟨p.clk50MI, true, p.inPwmCompasI, false⟩

def cascadePorts (p : Ports) (s : Signals) : CascadeCompteurs.Ports :=
  ⟨p.clk50MI, s.raz, s.bascule.sO⟩

def edgePorts (p : Ports) (s : Signals) : EdgeDetector.Ports := ⟨p.clk50MI, true, s.bascule.sO⟩

def registrePorts (p : Ports) (s : Signals) : Registre.Ports 9 :=
  ⟨p.clk50MI, s.raz, s.edge.feO, s.conversionDegres.degresO⟩

def counterSecondePorts (p : Ports) (s : Signals) : Counter.Ports :=
  ⟨p.clk50MI, s.raz, s.refresh1sec, true⟩

def registre2Ports (p : Ports) (s : Signals) : Registre.Ports 9 :=
  ⟨p.clk50MI, s.raz, s.refresh1sec, s.registre.sO⟩

def defEtatsPorts (p : Ports) (s : Signals) : DefEtats.Ports :=
  ⟨p.clk50MI, s.raz, p.continuI, p.startStopI⟩

def registre3Ports (p : Ports) (s : Signals) : Registre.Ports 9 :=
  ⟨p.clk50MI, s.raz, s.defEtats.acquisitionO, s.registre2.sO⟩

def entity : Entity Ports Signals where
  delta p p' s s' :=
    { raz := !p'.razNI
      conversionDegres := ConversionDegres.entity.delta (conversionDegresPorts p s)
        (conversionDegresPorts p' s') s.conversionDegres s'.conversionDegres
      bascule := BasculeD.entity.delta (basculePorts p) (basculePorts p') s.bascule s'.bascule
      cascade := CascadeCompteurs.entity.delta (cascadePorts p s) (cascadePorts p' s')
        s.cascade s'.cascade
      edge := EdgeDetector.entity.delta (edgePorts p s) (edgePorts p' s') s.edge s'.edge
      registre := (Registre.entity 9).delta (registrePorts p s) (registrePorts p' s')
        s.registre s'.registre
      counterSeconde := (Counter.entity 26).delta (counterSecondePorts p s)
        (counterSecondePorts p' s') s.counterSeconde s'.counterSeconde
      registre2 := (Registre.entity 9).delta (registre2Ports p s) (registre2Ports p' s')
        s.registre2 s'.registre2
      defEtats := DefEtats.entity.delta (defEtatsPorts p s) (defEtatsPorts p' s')
        s.defEtats s'.defEtats
      registre3 := (Registre.entity 9).delta (registre3Ports p s) (registre3Ports p' s')
        s.registre3 s'.registre3
      refresh1sec := isRefresh1sec s'.counterSeconde.qnO
      out1sO := s'.refresh1sec }

/-! ## One clock cycle -/

/-- Everything the compass remembers from one cycle to the next; `s` is the
flip-flop of its edge detector. -/
structure Regs where
  pwmSync : Bool := false
  s : Bool := false
  cascade : CascadeCompteurs.Regs := {}
  degresStablePeriode : BitVec 9 := 0
  sec : BitVec 26 := 0
  degresStable1s : BitVec 9 := 0
  defEtats : DefEtats.Regs := {}
  dataCompas : BitVec 9 := 0
deriving DecidableEq

def Regs.fe (x : Regs) : Bool := !x.pwmSync && x.s

def Regs.degres (x : Regs) : BitVec 9 := ConversionDegres.degres x.cascade.tempsMs

def Regs.refresh1sec (x : Regs) : Bool := isRefresh1sec x.sec

def Regs.demAcquisition (x : Regs) : Bool := DefEtats.acquisition x.defEtats.currentSt

def modes (p : Ports) : DefEtats.Inputs := ⟨p.continuI, p.startStopI⟩

def stable (p : Ports) (x : Regs) : Signals where
  raz := !p.razNI
  conversionDegres := ConversionDegres.stable x.cascade.tempsMs
  bascule := ⟨x.pwmSync⟩
  cascade := CascadeCompteurs.stable x.pwmSync x.cascade
  edge := EdgeDetector.stable x.pwmSync x.s
  registre := ⟨x.degresStablePeriode⟩
  counterSeconde := Counter.stable x.sec
  registre2 := ⟨x.degresStable1s⟩
  defEtats := DefEtats.stable (!p.razNI) x.defEtats
  registre3 := ⟨x.dataCompas⟩
  refresh1sec := x.refresh1sec
  out1sO := x.refresh1sec

/-- The registers one cycle later: `p` are the ports of the cycle that ends, `p'`
those of the cycle that begins and `p₂` those of the delta in which the mode bits
change first. -/
def Regs.next (p p₂ p' : Ports) (x : Regs) : Regs where
  pwmSync := p.inPwmCompasI
  s := x.pwmSync
  cascade := x.cascade.next (!p.razNI) (!p'.razNI) x.pwmSync
  degresStablePeriode :=
    if !p'.razNI then 0 else Registre.afterEdge (!p.razNI) x.fe x.degres x.degresStablePeriode
  sec := if !p'.razNI then 0 else Counter.afterEdge (!p.razNI) x.refresh1sec true x.sec
  degresStable1s :=
    if !p'.razNI then 0
    else Registre.afterEdge (!p.razNI) x.refresh1sec x.degresStablePeriode x.degresStable1s
  defEtats := x.defEtats.next (!p.razNI) (!p'.razNI) (modes p₂) (modes p')
  dataCompas :=
    if !p'.razNI then 0
    else Registre.afterEdge (!p.razNI) x.demAcquisition x.degresStable1s x.dataCompas

structure Regs.Cleared (x : Regs) : Prop where
  cascade : x.cascade = {}
  periode : x.degresStablePeriode = 0
  sec : x.sec = 0
  stable1s : x.degresStable1s = 0
  continu : x.defEtats.currentSt = .stContinu
  compas : x.dataCompas = 0

structure Regs.Wf (p : Ports) (x : Regs) : Prop where
  cleared : p.razNI = false → x.Cleared
  settled : x.defEtats.Settled (modes p)

theorem Regs.next_cleared {p p' : Ports} (p₂ : Ports) (x : Regs)
    (reset : p.razNI = false ∨ p'.razNI = false) : (x.next p p₂ p').Cleared := by
  rcases reset with before | after
  · constructor <;>
      simp [Regs.next, before, CascadeCompteurs.Regs.next, Counter.afterEdge,
        Registre.afterEdge, DefEtats.Regs.next, DefEtats.Regs.entered, DefEtats.Regs.atEdge]
  · constructor <;>
      simp [Regs.next, after, CascadeCompteurs.Regs.next_reset, DefEtats.Regs.next_reset]

theorem Regs.next_wf (p p₂ p' : Ports) (x : Regs) : (x.next p p₂ p').Wf p' where
  cleared reset := x.next_cleared p₂ (Or.inr reset)
  settled := x.defEtats.next_settled _ _ _ _

/-- The port waveform of a rising edge between cycles with ports `p` and `p'`.
The reset and the mode bits change in delta 2, to `p₂`; a reset of the register
they come from changes them once more in the delta after. -/
structure Rises (ports : Nat → Ports) (p p₂ p' : Ports) : Prop where
  clk : ∀ d, (ports d).clk50MI = wave [false] true d
  razN : ∀ d, (ports d).razNI = wave [p.razNI, p.razNI, p₂.razNI] p'.razNI d
  kept : p₂.razNI = false → p'.razNI = false
  pwm : (ports 1).inPwmCompasI = p.inPwmCompasI
  mode : ∀ d, modes (ports d) = wave [modes p, modes p, modes p₂] (modes p') d

section Rising
variable {ports : Nat → Ports} {p p₂ p' : Ports} {x : Regs}

theorem rising_raz (rises : Rises ports p p₂ p') (d : Nat) :
    (entity.trace ports (stable p x) d).raz =
      wave [!p.razNI, !p.razNI, !p.razNI, !p₂.razNI] (!p'.razNI) d :=
  assign_wave entity ports (stable p x) Signals.raz (fun p _ => p.razNI) not
    (fun _ _ _ _ => rfl) (by simp [stable, rises.razN]) rises.razN d

theorem rises_kept (rises : Rises ports p p₂ p') :
    (!p₂.razNI) = true → (!p'.razNI) = true := by
  intro reset
  have kept := rises.kept (by simpa using reset)
  simp [kept]

theorem rising_pwmSync (rises : Rises ports p p₂ p') (d : Nat) :
    (entity.trace ports (stable p x) d).bascule.sO =
      wave [x.pwmSync, x.pwmSync] p.inPwmCompasI d := by
  rw [trace_instance entity ports (stable p x) BasculeD.entity (fun p _ => basculePorts p)
    Signals.bascule (fun _ _ _ _ => rfl) d]
  change (BasculeD.entity.trace (fun d => basculePorts (ports d)) ⟨x.pwmSync⟩ d).sO = _
  rw [BasculeD.rising_sO rises.clk (fun _ => rfl) (fun _ => rfl)]
  exact congrArg (wave [x.pwmSync, x.pwmSync] · d) rises.pwm

theorem rising_cascade (rises : Rises ports p p₂ p') {d : Nat} (late : 7 ≤ d) :
    (entity.trace ports (stable p x) d).cascade =
      CascadeCompteurs.stable p.inPwmCompasI
        (x.cascade.next (!p.razNI) (!p'.razNI) x.pwmSync) := by
  rw [trace_instance entity ports (stable p x) CascadeCompteurs.entity cascadePorts
    Signals.cascade (fun _ _ _ _ => rfl) d]
  exact CascadeCompteurs.rising_stable rises.clk (rising_raz rises) (rises_kept rises)
    (rising_pwmSync rises) late

theorem rising_conversionDegres (rises : Rises ports p p₂ p') {d : Nat} (late : 10 ≤ d) :
    (entity.trace ports (stable p x) d).conversionDegres =
      ConversionDegres.stable (x.next p p₂ p').cascade.tempsMs := by
  rw [trace_instance entity ports (stable p x) ConversionDegres.entity conversionDegresPorts
    Signals.conversionDegres (fun _ _ _ _ => rfl) d]
  refine ConversionDegres.trace_stable (a := 7) rfl (fun d after => ?_) late
  exact congrArg (fun s => s.cascade.qnO) (rising_cascade (x := x) rises after)

theorem rising_edge (rises : Rises ports p p₂ p') {d : Nat} (late : 3 ≤ d) :
    (entity.trace ports (stable p x) d).edge =
      EdgeDetector.stable p.inPwmCompasI x.pwmSync := by
  rw [trace_instance entity ports (stable p x) EdgeDetector.entity edgePorts
    Signals.edge (fun _ _ _ _ => rfl) d]
  exact EdgeDetector.rising_settled rises.clk (fun _ => rfl) (rising_pwmSync rises) late

theorem rising_registre (rises : Rises ports p p₂ p') {d : Nat} (late : 5 ≤ d) :
    (entity.trace ports (stable p x) d).registre = ⟨(x.next p p₂ p').degresStablePeriode⟩ := by
  rw [trace_instance entity ports (stable p x) (Registre.entity 9) registrePorts
    Signals.registre (fun _ _ _ _ => rfl) d]
  exact Registre.rising_settled rises.clk (rising_raz rises) (rises_kept rises) late

theorem rising_counterSeconde (rises : Rises ports p p₂ p') {d : Nat} (late : 6 ≤ d) :
    (entity.trace ports (stable p x) d).counterSeconde = Counter.stable (x.next p p₂ p').sec := by
  rw [trace_instance entity ports (stable p x) (Counter.entity 26) counterSecondePorts
    Signals.counterSeconde (fun _ _ _ _ => rfl) d]
  exact Counter.rising_settled rises.clk (rising_raz rises) (rises_kept rises) late

theorem rising_registre2 (rises : Rises ports p p₂ p') {d : Nat} (late : 5 ≤ d) :
    (entity.trace ports (stable p x) d).registre2 = ⟨(x.next p p₂ p').degresStable1s⟩ := by
  rw [trace_instance entity ports (stable p x) (Registre.entity 9) registre2Ports
    Signals.registre2 (fun _ _ _ _ => rfl) d]
  exact Registre.rising_settled rises.clk (rising_raz rises) (rises_kept rises) late

theorem rising_defEtats (rises : Rises ports p p₂ p') (settled : x.defEtats.Settled (modes p))
    {d : Nat} (late : 6 ≤ d) :
    (entity.trace ports (stable p x) d).defEtats =
      DefEtats.stable (!p'.razNI) (x.next p p₂ p').defEtats := by
  rw [trace_instance entity ports (stable p x) DefEtats.entity defEtatsPorts
    Signals.defEtats (fun _ _ _ _ => rfl) d]
  have seen : ∀ d, DefEtats.inputs (defEtatsPorts (ports d) (entity.trace ports (stable p x) d)) =
      wave [modes p, modes p, modes p₂] (modes p') d := rises.mode
  exact DefEtats.rising_stable rises.clk (rising_raz rises) (rises_kept rises) seen settled late

theorem rising_registre3 (rises : Rises ports p p₂ p') {d : Nat} (late : 5 ≤ d) :
    (entity.trace ports (stable p x) d).registre3 = ⟨(x.next p p₂ p').dataCompas⟩ := by
  rw [trace_instance entity ports (stable p x) (Registre.entity 9) registre3Ports
    Signals.registre3 (fun _ _ _ _ => rfl) d]
  exact Registre.rising_settled rises.clk (rising_raz rises) (rises_kept rises) late

theorem rising_refresh1sec (rises : Rises ports p p₂ p') {d : Nat} (late : 7 ≤ d) :
    (entity.trace ports (stable p x) d).refresh1sec = (x.next p p₂ p').refresh1sec := by
  obtain ⟨d, rfl⟩ := Nat.exists_eq_add_of_le' late
  have counted := rising_counterSeconde (x := x) rises (show 6 ≤ d + 6 by omega)
  rw [trace_assign entity ports (stable p x) Signals.refresh1sec
    (fun _ s => isRefresh1sec s.counterSeconde.qnO) (fun _ _ _ _ => rfl) rfl (d + 6), counted]
  rfl

theorem rising_stable (rises : Rises ports p p₂ p') (settled : x.defEtats.Settled (modes p))
    {d : Nat} (late : 10 ≤ d) :
    entity.trace ports (stable p x) d = stable p' (x.next p p₂ p') := by
  obtain ⟨d, rfl⟩ := Nat.exists_eq_add_of_le' late
  have out := trace_assign entity ports (stable p x) Signals.out1sO (fun _ s => s.refresh1sec)
    (fun _ _ _ _ => rfl) rfl (d + 9)
  rw [rising_refresh1sec rises (by omega)] at out
  apply Signals.ext
  · exact rising_raz rises (d + 10)
  · exact rising_conversionDegres rises (by omega)
  · exact BasculeD.Signals.ext (rising_pwmSync rises (d + 10))
  · exact rising_cascade rises (by omega)
  · exact rising_edge rises (by omega)
  · exact rising_registre rises (by omega)
  · exact rising_counterSeconde rises (by omega)
  · exact rising_registre2 rises (by omega)
  · exact rising_defEtats rises settled (by omega)
  · exact rising_registre3 rises (by omega)
  · exact rising_refresh1sec rises (by omega)
  · exact out

end Rising

theorem delta_quiet (p p' : Ports) (x : Regs) (wf : x.Wf p')
    (noEdge : risingEdge p.clk50MI p'.clk50MI = false) (same : modes p = modes p') :
    entity.delta p p' (stable p' x) (stable p' x) = stable p' x := by
  have cleared : (!p'.razNI) = true → x.Cleared := by
    intro reset
    exact wf.cleared (by simpa using reset)
  apply Signals.ext
  · rfl
  · rfl
  · exact BasculeD.delta_quiet (basculePorts p) (basculePorts p') x.pwmSync noEdge
  · exact CascadeCompteurs.delta_quiet (cascadePorts p (stable p' x))
      (cascadePorts p' (stable p' x)) x.cascade noEdge fun reset => (cleared reset).cascade
  · exact EdgeDetector.delta_quiet (edgePorts p (stable p' x)) (edgePorts p' (stable p' x))
      x.s noEdge
  · exact Registre.delta_quiet (registrePorts p (stable p' x)) (registrePorts p' (stable p' x))
      x.degresStablePeriode noEdge fun reset => (cleared reset).periode
  · exact Counter.delta_quiet (counterSecondePorts p (stable p' x))
      (counterSecondePorts p' (stable p' x)) x.sec noEdge fun reset => (cleared reset).sec
  · exact Registre.delta_quiet (registre2Ports p (stable p' x)) (registre2Ports p' (stable p' x))
      x.degresStable1s noEdge fun reset => (cleared reset).stable1s
  · exact DefEtats.delta_quiet (defEtatsPorts p (stable p' x)) (defEtatsPorts p' (stable p' x))
      x.defEtats noEdge (fun reset => (cleared reset).continu) same
  · exact Registre.delta_quiet (registre3Ports p (stable p' x)) (registre3Ports p' (stable p' x))
      x.dataCompas noEdge fun reset => (cleared reset).compas
  · rfl
  · rfl

/-! ## The compass on its own -/

/-- The inputs are registers of the same clock. -/
instance : DeltaCycle.Driven Ports where
  rising old next d :=
    if d = 0 then { old with clk50MI := false }
    else if d = 1 then { old with clk50MI := true }
    else { next with clk50MI := true }
  falling next d := { next with clk50MI := decide (d = 0) }

theorem rises_driven (p p' : Ports) : Rises (Driven.rising p p') p p' p' where
  clk d := by rcases d with _ | _ | d <;> rfl
  razN d := by rcases d with _ | _ | _ | d <;> rfl
  kept reset := reset
  pwm := rfl
  mode d := by rcases d with _ | _ | _ | d <;> rfl

theorem falling_quiet {p : Ports} {x : Regs} (wf : x.Wf p) (d : Nat) :
    entity.delta (Driven.falling p d) (Driven.falling p (d + 1)) (stable p x) (stable p x) =
      stable p x :=
  delta_quiet (Driven.falling p d) (Driven.falling p (d + 1)) x ⟨wf.cleared, wf.settled⟩
    (risingEdge_falling d) rfl

theorem cycle_eq (p p' : Ports) (x : Regs) (wf : x.Wf p) :
    entity.cycle ⟨p, stable p x⟩ p' = ⟨p', stable p' (x.next p p' p')⟩ := by
  have risen : entity.rise ⟨p, stable p x⟩ p' = stable p' (x.next p p' p') :=
    rising_stable (rises_driven p p') wf.settled (by decide)
  exact cycle_of_edges risen (falling_quiet (x.next_wf p p' p'))

/-- Power-up, the reset asserted and every process run once. -/
def powerUp : Snapshot Ports Signals where
  ports := ⟨false, false, false, false, false⟩
  signals := stable ⟨false, false, false, false, false⟩ {}

theorem powerUp_wf : Regs.Wf powerUp.ports {} where
  cleared _ := ⟨rfl, rfl, rfl, rfl, rfl, rfl⟩
  settled := rfl

def run (wave : Nat → Ports) (t : Nat) : Snapshot Ports Signals :=
  entity.run powerUp wave t

def regs (wave : Nat → Ports) : Nat → Regs :=
  runRegs (fun p p' x => x.next p p' p') powerUp.ports wave {}

theorem implements : Implements entity stable (fun p p' x => x.next p p' p') Regs.Wf where
  cycle := cycle_eq
  wf p p' x _ := x.next_wf p p' p'

theorem run_eq (wave : Nat → Ports) (t : Nat) :
    run wave t = ⟨wave t, stable (wave t) (regs wave t)⟩ :=
  implements.run_eq powerUp_wf wave t

end Voilier.ConversionAdaptation
