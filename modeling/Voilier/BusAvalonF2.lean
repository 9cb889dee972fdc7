import Voilier.SensorControl
import Voilier.ConversionVitesseVent

/-!
# bus_avalon_f2

The slave of the anemometer: a write to address 0 sets the reset and the mode bits, a
read of address 1 returns the validity bit and the count of a window.
-/

set_option autoImplicit false

namespace Voilier.BusAvalonF2

open DeltaCycle
open SensorControl (Control)

structure Ports extends AvalonSlave.Bus where
  freqI : Bool

@[ext]
structure Signals where
  control : Control := {}
  anemometreInst : ConversionVitesseVent.Signals
  validData : BitVec 32 := 0
  readDataO : BitVec 32 := 0
deriving DecidableEq

/-- `process(clk_i, arst_i)`. -/
def write (p p' : Ports) (control : Control) : Control :=
  SensorControl.write p.toBus p'.toBus control

/-- `data_valid & data_anemometre` on the bits 8 downto 0; nothing drives the others. -/
def word (dataValid : Bool) (dataAnemometre : BitVec 8) : BitVec 32 :=
  (BitVec.ofBool dataValid ++ dataAnemometre).setWidth 32

def anemometrePorts (p : Ports) (control : Control) : ConversionVitesseVent.Ports :=
  ⟨p.clkI, control.razN, p.freqI, control.continu, control.startStop⟩

def entity : Entity Ports Signals where
  delta p p' s s' :=
    { control := write p p' s'.control
      anemometreInst := ConversionVitesseVent.entity.delta (anemometrePorts p s.control)
        (anemometrePorts p' s'.control) s.anemometreInst s'.anemometreInst
      validData := word s'.anemometreInst.defEtats.dataValidO s'.anemometreInst.registre3.sO
      readDataO := AvalonSlave.readData p'.addressI s'.validData }

instance : Driven Ports where
  rising old next d :=
    if d = 0 then { old with clkI := false }
    else if d = 1 then { old with clkI := true }
    else { next with clkI := true }
  falling next d := { next with clkI := decide (d = 0) }

/-! ## One clock cycle -/

structure Regs where
  control : Control := {}
  vent : ConversionVitesseVent.Regs := {}
deriving DecidableEq

def Regs.dataValid (x : Regs) : Bool :=
  DefEtats.dataValid (!x.control.razN) x.vent.defEtats.currentSt

def stable (p : Ports) (x : Regs) : Signals where
  control := x.control
  anemometreInst := ConversionVitesseVent.stable (anemometrePorts p x.control) x.vent
  validData := word x.dataValid x.vent.dataAnemometre
  readDataO := AvalonSlave.readData p.addressI (word x.dataValid x.vent.dataAnemometre)

def Regs.next (p p' : Ports) (x : Regs) : Regs where
  control := x.control.next p.toBus p'.toBus
  vent := x.vent.next (anemometrePorts p x.control)
    (anemometrePorts p' (x.control.next p.toBus p'.toBus))

structure Regs.Wf (p : Ports) (x : Regs) : Prop where
  control : p.arstI = true → x.control = {}
  vent : x.vent.Wf (anemometrePorts p x.control)

theorem Regs.next_wf (p p' : Ports) (x : Regs) : (x.next p p').Wf p' where
  control reset := AvalonSlave.next_held _ _ p.toBus p'.toBus x.control reset
  vent := x.vent.next_wf _ _

theorem hosts_control : Hosts entity SensorControl.register (fun p _ => p.toBus)
    Signals.control where
  delta _ _ _ _ := rfl

theorem hosts_anemometre : Hosts entity ConversionVitesseVent.entity
    (fun p s => anemometrePorts p s.control) Signals.anemometreInst where
  delta _ _ _ _ := rfl

theorem rising_toBus (p p' : Ports) (d : Nat) :
    (Driven.rising p p' d).toBus = Driven.rising p.toBus p'.toBus d := by
  rcases d with _ | _ | d <;> rfl

section Rising
variable {p p' : Ports} {x : Regs}

theorem rising_control (p p' : Ports) (x : Regs) (d : Nat) :
    (entity.trace (Driven.rising p p') (stable p x) d).control =
      wave [x.control, x.control, x.control.atEdge p.toBus]
        (x.control.next p.toBus p'.toBus) d := by
  rw [hosts_control.trace]
  simp only [rising_toBus]
  exact SensorControl.rising_control d

theorem rises_vent (p p' : Ports) (x : Regs) : ConversionVitesseVent.Rises
    (fun d => anemometrePorts (Driven.rising p p' d)
      (entity.trace (Driven.rising p p') (stable p x) d).control)
    (anemometrePorts p x.control)
    (anemometrePorts p' (x.control.atEdge p.toBus))
    (anemometrePorts p' (x.control.next p.toBus p'.toBus)) where
  clk d := by rcases d with _ | _ | d <;> rfl
  razN d := (congrArg Control.razN (rising_control p p' x d)).trans (map_wave Control.razN _ _ d)
  kept := SensorControl.next_razN
  inFreq d := by rcases d with _ | _ | d <;> rfl
  mode d := (congrArg Control.modes (rising_control p p' x d)).trans (map_wave Control.modes _ _ d)
  cleared := SensorControl.next_modes

theorem rising_anemometre (wf : x.Wf p) {d : Nat} (late : 7 ≤ d) :
    (entity.trace (Driven.rising p p') (stable p x) d).anemometreInst =
      ConversionVitesseVent.stable (anemometrePorts p' (x.next p p').control)
        (x.next p p').vent := by
  rw [hosts_anemometre.trace]
  exact ConversionVitesseVent.rising_stable (rises_vent p p' x) wf.vent.settled late

theorem rising_stable (wf : x.Wf p) {d : Nat} (late : 9 ≤ d) :
    entity.trace (Driven.rising p p') (stable p x) d = stable p' (x.next p p') := by
  obtain ⟨d, rfl⟩ := Nat.exists_eq_add_of_le' late
  have valid : ∀ d, (entity.trace (Driven.rising p p') (stable p x) (d + 8)).validData =
      word (x.next p p').dataValid (x.next p p').vent.dataAnemometre := by
    intro d
    rw [trace_assign entity _ (stable p x) Signals.validData
      (fun _ s => word s.anemometreInst.defEtats.dataValidO s.anemometreInst.registre3.sO)
      (fun _ _ _ _ => rfl) rfl (d + 7), rising_anemometre wf (by omega)]
    rfl
  have read := trace_assign entity (Driven.rising p p') (stable p x) Signals.readDataO
    (fun p s => AvalonSlave.readData p.addressI s.validData) (fun _ _ _ _ => rfl) rfl (d + 8)
  rw [valid d] at read
  exact Signals.ext (rising_control p p' x (d + 9)) (rising_anemometre wf (by omega))
    (valid (d + 1)) read

end Rising

theorem falling_quiet {p : Ports} {x : Regs} (wf : x.Wf p) (d : Nat) :
    entity.delta (Driven.falling p d) (Driven.falling p (d + 1)) (stable p x) (stable p x) =
      stable p x := by
  have control := AvalonSlave.write_quiet {} SensorControl.controlBits wf.control d
  have vent := ConversionVitesseVent.delta_quiet
    (anemometrePorts (Driven.falling p d) x.control)
    (anemometrePorts (Driven.falling p (d + 1)) x.control) x.vent
    ⟨wf.vent.cleared, wf.vent.settled⟩ (risingEdge_falling d) rfl
  exact Signals.ext control vent rfl rfl

theorem cycle_eq (p p' : Ports) (x : Regs) (wf : x.Wf p) :
    entity.cycle ⟨p, stable p x⟩ p' = ⟨p', stable p' (x.next p p')⟩ := by
  have risen : entity.rise ⟨p, stable p x⟩ p' = stable p' (x.next p p') :=
    rising_stable wf (by decide)
  exact cycle_of_edges risen (falling_quiet (x.next_wf p p'))

/-! ## Runs -/

/-- Power-up, the bus in reset and every process run once. -/
def powerUp : Snapshot Ports Signals where
  ports := ⟨⟨true, false, 0, 0, false⟩, false⟩
  signals := stable ⟨⟨true, false, 0, 0, false⟩, false⟩ {}

theorem powerUp_wf : Regs.Wf powerUp.ports {} where
  control _ := rfl
  vent := ConversionVitesseVent.powerUp_wf

def run (wave : Nat → Ports) (t : Nat) : Snapshot Ports Signals :=
  entity.run powerUp wave t

def regs (wave : Nat → Ports) : Nat → Regs := runRegs Regs.next powerUp.ports wave {}

theorem implements : Implements entity stable Regs.next Regs.Wf where
  cycle := cycle_eq
  wf p p' x _ := x.next_wf p p'

theorem run_eq (wave : Nat → Ports) (t : Nat) :
    run wave t = ⟨wave t, stable (wave t) (regs wave t)⟩ :=
  implements.run_eq powerUp_wf wave t

/-! ## The anemometer behind the bus -/

/-- What software last wrote. -/
def lastControl (wave : Nat → Ports) (t : Nat) : Control :=
  SensorControl.lastControl (fun t => (wave t).toBus) t

/-- The ports of the anemometer, had software driven its control bits. -/
def vent (wave : Nat → Ports) (t : Nat) : ConversionVitesseVent.Ports :=
  anemometrePorts { wave t with clkI := false } (lastControl wave t)

theorem regs_control (wave : Nat → Ports) (t : Nat) :
    (regs wave t).control = lastControl wave t :=
  SensorControl.eq_lastControl (fun t => (wave t).toBus) (fun t => (regs wave t).control)
    (b := powerUp.ports.toBus) rfl rfl (fun _ => rfl) t

theorem regs_vent (wave : Nat → Ports) (t : Nat) : (regs wave t).vent =
    ConversionVitesseVent.Regs.run ConversionVitesseVent.powerUp.ports (vent wave) {} t := by
  have entering : ∀ {p p' : Ports} {x : Regs} {t : Nat},
      x.control.next p.toBus p'.toBus = lastControl wave t → (x.next p p').vent =
        x.vent.next (anemometrePorts p x.control) (anemometrePorts p' (lastControl wave t)) := by
    intro p p' x t control
    rw [← control]
    rfl
  induction t with
  | zero => exact entering (regs_control wave 0)
  | succ t ih =>
      refine (entering (regs_control wave (t + 1))).trans ?_
      change (regs wave t).vent.next (anemometrePorts (wave t) (regs wave t).control) _ = _
      rw [ih, regs_control]
      rfl

/-- The anemometer behind the bus is ConversionVitesseVent with the control bits that
software last wrote, and what software reads is its word of the cycle. -/
theorem anemometer_over_bus (wave : Nat → Ports) (t : Nat) :
    let s := (ConversionVitesseVent.entity.run ConversionVitesseVent.powerUp (vent wave) t).signals
    (run wave t).signals.anemometreInst = s ∧
      (run wave t).signals.readDataO = AvalonSlave.readData (wave t).addressI
        (word s.defEtats.dataValidO s.registre3.sO) := by
  have alone := ConversionVitesseVent.run_from ConversionVitesseVent.powerUp_wf (vent wave) t
  have hosted : (run wave t).signals.anemometreInst = ConversionVitesseVent.stable (vent wave t)
      (ConversionVitesseVent.Regs.run ConversionVitesseVent.powerUp.ports (vent wave) {} t) := by
    rw [run_eq, ← regs_vent]
    change ConversionVitesseVent.stable (anemometrePorts (wave t) (regs wave t).control) _ = _
    rw [regs_control]
    rfl
  have same := hosted.trans (congrArg Snapshot.signals alone).symm
  refine ⟨same, ?_⟩
  rw [← show (run wave t).signals.anemometreInst =
    (ConversionVitesseVent.entity.run ConversionVitesseVent.powerUp (vent wave) t).signals
    from same, run_eq]
  rfl

end Voilier.BusAvalonF2
