import Voilier.SensorControl
import Voilier.ConversionAdaptation

/-!
# bus_avalon

The slave through which software drives the compass: a write to address 0 sets
the reset and the mode bits, a read of address 1 returns the validity bit and the
heading.
-/

set_option autoImplicit false

namespace Voilier.BusAvalon

open DeltaCycle
open SensorControl (Control)

structure Ports extends AvalonSlave.Bus where
  pwmI : Bool

@[ext]
structure Signals where
  control : Control := {}
  capInst : ConversionAdaptation.Signals
  validCompas : BitVec 32 := 0
  readDataO : BitVec 32 := 0
deriving DecidableEq

/-- `process(clk_i, arst_i)`. -/
def write (p p' : Ports) (control : Control) : Control :=
  SensorControl.write p.toBus p'.toBus control

/-- `data_valid & data_compas` on the bits 9 downto 0; nothing drives the others. -/
def word (dataValid : Bool) (dataCompas : BitVec 9) : BitVec 32 :=
  (BitVec.ofBool dataValid ++ dataCompas).setWidth 32

def capPorts (p : Ports) (control : Control) : ConversionAdaptation.Ports :=
  ⟨p.clkI, control.razN, p.pwmI, control.continu, control.startStop⟩

def entity : Entity Ports Signals where
  delta p p' s s' :=
    { control := write p p' s'.control
      capInst := ConversionAdaptation.entity.delta (capPorts p s.control)
        (capPorts p' s'.control) s.capInst s'.capInst
      validCompas := word s'.capInst.defEtats.dataValidO s'.capInst.registre3.sO
      readDataO := AvalonSlave.readData p'.addressI s'.validCompas }

instance : Driven Ports where
  rising old next d :=
    if d = 0 then { old with clkI := false }
    else if d = 1 then { old with clkI := true }
    else { next with clkI := true }
  falling next d := { next with clkI := decide (d = 0) }

/-! ## One clock cycle -/

structure Regs where
  control : Control := {}
  compas : ConversionAdaptation.Regs := {}
deriving DecidableEq

def Regs.dataValid (x : Regs) : Bool :=
  DefEtats.dataValid (!x.control.razN) x.compas.defEtats.currentSt

def stable (p : Ports) (x : Regs) : Signals where
  control := x.control
  capInst := ConversionAdaptation.stable (capPorts p x.control) x.compas
  validCompas := word x.dataValid x.compas.dataCompas
  readDataO := AvalonSlave.readData p.addressI (word x.dataValid x.compas.dataCompas)

def Regs.next (p p' : Ports) (x : Regs) : Regs where
  control := x.control.next p.toBus p'.toBus
  compas := x.compas.next (capPorts p x.control) (capPorts p' (x.control.atEdge p.toBus))
    (capPorts p' (x.control.next p.toBus p'.toBus))

structure Regs.Wf (p : Ports) (x : Regs) : Prop where
  control : p.arstI = true → x.control = {}
  compas : x.compas.Wf (capPorts p x.control)

theorem Regs.next_wf (p p' : Ports) (x : Regs) : (x.next p p').Wf p' where
  control reset := AvalonSlave.next_held _ _ p.toBus p'.toBus x.control reset
  compas := x.compas.next_wf _ _ _

theorem hosts_control : Hosts entity SensorControl.register (fun p _ => p.toBus)
    Signals.control where
  delta _ _ _ _ := rfl

theorem hosts_cap : Hosts entity ConversionAdaptation.entity (fun p s => capPorts p s.control)
    Signals.capInst where
  delta _ _ _ _ := rfl

theorem rising_toBus (p p' : Ports) (d : Nat) :
    (Driven.rising p p' d).toBus = Driven.rising p.toBus p'.toBus d := by
  rcases d with _ | _ | d <;> rfl

section Rising
variable {p p' : Ports} {x : Regs}

theorem rising_control (p p' : Ports) (x : Regs) (d : Nat) :
    (entity.trace (Driven.rising p p') (stable p x) d).control =
      wave [x.control, x.control, x.control.atEdge p.toBus]
        (x.control.next p.toBus p'.toBus) d := by
  rw [hosts_control.trace]
  simp only [rising_toBus]
  exact SensorControl.rising_control d

theorem rises_compas (p p' : Ports) (x : Regs) : ConversionAdaptation.Rises
    (fun d => capPorts (Driven.rising p p' d)
      (entity.trace (Driven.rising p p') (stable p x) d).control)
    (capPorts p x.control) (capPorts p' (x.control.atEdge p.toBus))
    (capPorts p' (x.control.next p.toBus p'.toBus)) where
  clk d := by rcases d with _ | _ | d <;> rfl
  razN d := (congrArg Control.razN (rising_control p p' x d)).trans (map_wave Control.razN _ _ d)
  kept := SensorControl.next_razN
  pwm := rfl
  mode d := (congrArg Control.modes (rising_control p p' x d)).trans (map_wave Control.modes _ _ d)

theorem rising_compas (wf : x.Wf p) {d : Nat} (late : 10 ≤ d) :
    (entity.trace (Driven.rising p p') (stable p x) d).capInst =
      ConversionAdaptation.stable (capPorts p' (x.next p p').control) (x.next p p').compas := by
  rw [hosts_cap.trace]
  exact ConversionAdaptation.rising_stable (rises_compas p p' x) wf.compas.settled late

theorem rising_stable (wf : x.Wf p) {d : Nat} (late : 12 ≤ d) :
    entity.trace (Driven.rising p p') (stable p x) d = stable p' (x.next p p') := by
  obtain ⟨d, rfl⟩ := Nat.exists_eq_add_of_le' late
  have valid : ∀ d, (entity.trace (Driven.rising p p') (stable p x) (d + 11)).validCompas =
      word (x.next p p').dataValid (x.next p p').compas.dataCompas := by
    intro d
    rw [trace_assign entity _ (stable p x) Signals.validCompas
      (fun _ s => word s.capInst.defEtats.dataValidO s.capInst.registre3.sO)
      (fun _ _ _ _ => rfl) rfl (d + 10), rising_compas wf (by omega)]
    rfl
  have read := trace_assign entity (Driven.rising p p') (stable p x) Signals.readDataO
    (fun p s => AvalonSlave.readData p.addressI s.validCompas) (fun _ _ _ _ => rfl) rfl (d + 11)
  rw [valid d] at read
  exact Signals.ext (rising_control p p' x (d + 12)) (rising_compas wf (by omega))
    (valid (d + 1)) read

end Rising

theorem falling_quiet {p : Ports} {x : Regs} (wf : x.Wf p) (d : Nat) :
    entity.delta (Driven.falling p d) (Driven.falling p (d + 1)) (stable p x) (stable p x) =
      stable p x := by
  have control := AvalonSlave.write_quiet {} SensorControl.controlBits wf.control d
  have compas := ConversionAdaptation.delta_quiet (capPorts (Driven.falling p d) x.control)
    (capPorts (Driven.falling p (d + 1)) x.control) x.compas
    ⟨wf.compas.cleared, wf.compas.settled⟩ (risingEdge_falling d) rfl
  exact Signals.ext control compas rfl rfl

theorem cycle_eq (p p' : Ports) (x : Regs) (wf : x.Wf p) :
    entity.cycle ⟨p, stable p x⟩ p' = ⟨p', stable p' (x.next p p')⟩ := by
  have risen : entity.rise ⟨p, stable p x⟩ p' = stable p' (x.next p p') :=
    rising_stable wf (Nat.le_refl _)
  exact cycle_of_edges risen (falling_quiet (x.next_wf p p'))

/-! ## Runs -/

/-- Power-up, the bus in reset and every process run once. -/
def powerUp : Snapshot Ports Signals where
  ports := ⟨⟨true, false, 0, 0, false⟩, false⟩
  signals := stable ⟨⟨true, false, 0, 0, false⟩, false⟩ {}

theorem powerUp_wf : Regs.Wf powerUp.ports {} where
  control _ := rfl
  compas := ⟨fun _ => ⟨rfl, rfl, rfl, rfl, rfl, rfl⟩, rfl⟩

def run (wave : Nat → Ports) (t : Nat) : Snapshot Ports Signals :=
  entity.run powerUp wave t

def regs (wave : Nat → Ports) : Nat → Regs := runRegs Regs.next powerUp.ports wave {}

theorem implements : Implements entity stable Regs.next Regs.Wf where
  cycle := cycle_eq
  wf p p' x _ := x.next_wf p p'

theorem run_eq (wave : Nat → Ports) (t : Nat) :
    run wave t = ⟨wave t, stable (wave t) (regs wave t)⟩ :=
  implements.run_eq powerUp_wf wave t

/-! ## The control bits of a run -/

/-- What software last wrote. -/
def lastControl (wave : Nat → Ports) (t : Nat) : Control :=
  SensorControl.lastControl (fun t => (wave t).toBus) t

theorem regs_control (wave : Nat → Ports) (t : Nat) :
    (regs wave t).control = lastControl wave t :=
  SensorControl.eq_lastControl (fun t => (wave t).toBus) (fun t => (regs wave t).control)
    (b := powerUp.ports.toBus) rfl rfl (fun _ => rfl) t

end Voilier.BusAvalon
