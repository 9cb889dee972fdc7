import Voilier.AvalonSlave
import Voilier.DefEtatsRequests

/-!
# The control register of the sensors

bus_avalon and bus_avalon_f2 drive the reset and the mode bits of their sensor from
the same register.
-/

set_option autoImplicit false

namespace Voilier.SensorControl

open DeltaCycle
open AvalonSlave (Bus Sets)

structure Control where
  razN : Bool := false
  continu : Bool := false
  startStop : Bool := false
deriving DecidableEq

def Control.modes (control : Control) : DefEtats.Inputs := ⟨control.continu, control.startStop⟩

/-- The bits of the written word that go to `raz_n`, `continu` and `start_stop`. -/
def controlBits (writeData : BitVec 32) : Control where
  razN := writeData.getLsbD 0
  continu := writeData.getLsbD 1
  startStop := writeData.getLsbD 2

/-- `process(clk_i, arst_i)`. -/
def write (b b' : Bus) (control : Control) : Control :=
  AvalonSlave.write {} controlBits b b' control

def register : Entity Bus Control := AvalonSlave.control {} controlBits

def Control.atEdge (b : Bus) (control : Control) : Control :=
  AvalonSlave.atEdge {} controlBits b control

def Control.next (b b' : Bus) (control : Control) : Control :=
  AvalonSlave.next {} controlBits b b' control

section Cycle
variable {b b' : Bus} {control : Control}

theorem rising_control (d : Nat) :
    register.trace (Driven.rising b b') control d =
      wave [control, control, control.atEdge b] (control.next b b') d :=
  AvalonSlave.rising_control ({} : Control) controlBits d

theorem next_razN (reset : (control.atEdge b).razN = false) :
    (control.next b b').razN = false := by
  unfold Control.next AvalonSlave.next
  split_ifs
  · rfl
  · exact reset

/-- A reset of the bus that meets a write lets the mode bits change twice. -/
theorem next_modes : (control.atEdge b).modes = (control.next b b').modes ∨
    (control.next b b').razN = false ∧ (control.next b b').modes = ⟨false, false⟩ := by
  unfold Control.next AvalonSlave.next
  split_ifs
  · exact Or.inr ⟨rfl, rfl⟩
  · exact Or.inl rfl

end Cycle

/-! ## What software last wrote -/

def lastControl (bus : Nat → Bus) (t : Nat) : Control :=
  AvalonSlave.lastWritten {} controlBits bus t

theorem eq_lastControl (bus : Nat → Bus) (control : Nat → Control) {b : Bus} {first : Control}
    (inReset : b.arstI = true) (start : control 0 = first.next b (bus 0))
    (step : ∀ t, control (t + 1) = (control t).next (bus t) (bus (t + 1))) (t : Nat) :
    control t = lastControl bus t := by
  induction t with
  | zero =>
      rw [start, Control.next, AvalonSlave.next_eq]
      exact if_pos (by simp [inReset])
  | succ t ih =>
      rw [step, ih]
      exact (AvalonSlave.lastWritten_succ {} controlBits bus t).symm

theorem sets_lastControl {bus : Nat → Bus} {c : Control} {w t u : Nat}
    (sets : Sets controlBits bus c w t) (after : w < u) (upTo : u ≤ t) : lastControl bus u = c :=
  sets.lastWritten_eq ({} : Control) controlBits after upTo

/-! ## Requests -/

/-- Software stops the sensor with the write of cycle `v` and asks for a measure with that
of cycle `w`; nothing else is written up to cycle `t`. -/
structure WritesRequest (bus : Nat → Bus) (v w t : Nat) : Prop where
  stops : Sets controlBits bus ⟨true, false, false⟩ v w
  asks : Sets controlBits bus ⟨true, false, true⟩ w t
  apart : v + 2 ≤ w

section Request
variable {bus : Nat → Bus} {v w t u : Nat}

theorem WritesRequest.stopped (request : WritesRequest bus v w t) (after : v < u) (upTo : u ≤ w) :
    lastControl bus u = ⟨true, false, false⟩ :=
  sets_lastControl request.stops after upTo

theorem WritesRequest.asked (request : WritesRequest bus v w t) (after : w < u) (upTo : u ≤ t) :
    lastControl bus u = ⟨true, false, true⟩ :=
  sets_lastControl request.asks after upTo

theorem WritesRequest.running (request : WritesRequest bus v w t) (after : v < u) (upTo : u ≤ t) :
    (lastControl bus u).razN = true := by
  rcases Nat.lt_or_ge w u with late | early
  · rw [request.asked late upTo]
  · rw [request.stopped after early]

/-- The writes make a request to the mode machine behind the register. -/
theorem WritesRequest.requested (request : WritesRequest bus v w t) {x : Nat → DefEtats.Regs}
    (latched : ∀ u, (x u).Latched (lastControl bus u).modes)
    (settled : ∀ u, (x u).Settled (lastControl bus u).modes)
    (step : ∀ u, x (u + 1) = (x u).next (!(lastControl bus u).razN)
      (!(lastControl bus (u + 1)).razN) (lastControl bus (u + 1)).modes
      (lastControl bus (u + 1)).modes) :
    DefEtats.Requested (fun u => !(lastControl bus u).razN) (fun u => (lastControl bus u).modes)
      x v w t where
  latched := latched
  settled := settled
  step := step
  apart := request.apart
  running u after upTo := by simp [request.running after upTo]
  stopped u after upTo := by
    rw [request.stopped after upTo]
    rfl
  asked u after upTo := by
    rw [request.asked after upTo]
    rfl

end Request

end Voilier.SensorControl
