import Mathlib.Tactic.Common

/-!
# Delta cycles of a clocked design

An entity is a network of processes and sub-instances over one record of
signals.  In a delta cycle every process sees the values of the previous and of
the current delta (an event is a difference between the two) and contributes to
the values of the next delta.  A clock cycle is a rising edge followed by as
many deltas as the design needs to become stable, then a falling edge.
-/

set_option autoImplicit false

namespace DeltaCycle

/-- A signal has an event when its value differs from the previous delta. -/
def event {α : Type} [DecidableEq α] (before now : α) : Bool := decide (before ≠ now)

def risingEdge (before now : Bool) : Bool := !before && now

@[simp] theorem event_self {α : Type} [DecidableEq α] (x : α) : event x x = false := by
  simp [event]

theorem eq_of_event_false {α : Type} [DecidableEq α] {x y : α}
    (quiet : event x y = false) : x = y := by
  simpa [event] using quiet

@[simp] theorem event_false_left (x : Bool) : event false x = x := by cases x <;> rfl

@[simp] theorem event_false_right (x : Bool) : event x false = x := by cases x <;> rfl

@[simp] theorem event_true_right (x : Bool) : event x true = !x := by cases x <;> rfl

@[simp] theorem risingEdge_self (x : Bool) : risingEdge x x = false := by
  cases x <;> rfl

/-- The behaviour of an entity: from the ports and the signals of the previous
and of the current delta, the signals of the next one. -/
structure Entity (Ports Signals : Type) where
  delta : Ports → Ports → Signals → Signals → Signals

section Trace
variable {Ports Signals : Type}

/-- Two consecutive deltas, so that one step costs one evaluation. -/
def Entity.deltas (entity : Entity Ports Signals) (ports : Nat → Ports)
    (start : Signals) : Nat → Signals × Signals
  | 0 => (start, start)
  | d + 1 =>
      let pair := entity.deltas ports start d
      (pair.2, entity.delta (ports d) (ports (d + 1)) pair.1 pair.2)

/-- The signals in delta `d` under the port waveform `ports`.  Delta 0 is the
stable state before the edge and delta 1 the edge itself, which moves ports
only. -/
def Entity.trace (entity : Entity Ports Signals) (ports : Nat → Ports)
    (start : Signals) (d : Nat) : Signals :=
  (entity.deltas ports start d).1

variable (entity : Entity Ports Signals) (ports : Nat → Ports) (start : Signals)

@[simp] theorem trace_zero : entity.trace ports start 0 = start := rfl

@[simp] theorem trace_one : entity.trace ports start 1 = start := rfl

theorem trace_step (d : Nat) :
    entity.trace ports start (d + 2) =
      entity.delta (ports d) (ports (d + 1))
        (entity.trace ports start d) (entity.trace ports start (d + 1)) := rfl

/-- Two consecutive deltas determine a trace, so facts about traces are proved
by the induction that carries two neighbours. -/
theorem twoStep {motive : Nat → Prop} (zero : motive 0) (one : motive 1)
    (step : ∀ d, motive d → motive (d + 1) → motive (d + 2)) :
    ∀ d, motive d := by
  have both : ∀ d, motive d ∧ motive (d + 1) := by
    intro d
    induction d with
    | zero => exact ⟨zero, one⟩
    | succ d ih => exact ⟨ih.2, step d ih.1 ih.2⟩
  exact fun d => (both d).1

/-- A sub-instance of a design runs its own trace on the ports it is wired to. -/
theorem trace_instance {SubPorts SubSignals : Type}
    (sub : Entity SubPorts SubSignals) (wire : Ports → Signals → SubPorts)
    (get : Signals → SubSignals)
    (wired : ∀ p p' s s', get (entity.delta p p' s s') =
      sub.delta (wire p s) (wire p' s') (get s) (get s')) (d : Nat) :
    get (entity.trace ports start d) =
      sub.trace (fun d => wire (ports d) (entity.trace ports start d))
        (get start) d := by
  induction d using twoStep with
  | zero => rfl
  | one => rfl
  | step d ih ih' =>
      rw [trace_step, trace_step, wired, ih, ih']

/-- A concurrent assignment shows in every delta the value of its expression in
the delta before, provided it did so in the stable state. -/
theorem trace_assign {α : Type} (out : Signals → α) (expr : Ports → Signals → α)
    (drives : ∀ p p' s s', out (entity.delta p p' s s') = expr p' s')
    (stable : out start = expr (ports 0) start) (d : Nat) :
    out (entity.trace ports start (d + 1)) =
      expr (ports d) (entity.trace ports start d) := by
  cases d with
  | zero => exact stable
  | succ d => rw [trace_step, drives]

theorem trace_const
    (quiet : ∀ d, entity.delta (ports d) (ports (d + 1)) start start = start) (d : Nat) :
    entity.trace ports start d = start := by
  induction d using twoStep with
  | zero => rfl
  | one => rfl
  | step d ih ih' => rw [trace_step, ih, ih', quiet]

/-- What the first delta wakes shows in the next one and wakes nothing. -/
theorem trace_once {after : Signals}
    (wakes : entity.delta (ports 0) (ports 1) start start = after)
    (shows : entity.delta (ports 1) (ports 2) start after = after)
    (quiet : ∀ d, entity.delta (ports (d + 2)) (ports (d + 3)) after after = after) (d : Nat) :
    entity.trace ports start (d + 2) = after := by
  induction d using twoStep with
  | zero => exact wakes
  | one =>
      have first : entity.trace ports start 2 = after := wakes
      rw [trace_step, trace_one, first, shows]
  | step d ih ih' => rw [trace_step, ih, ih', quiet]

end Trace

/-! ## Waveforms inside an edge -/

/-- The waveform that takes the listed values in the first deltas and stays at
`final` afterwards. -/
def wave {α : Type} : List α → α → Nat → α
  | [], final, _ => final
  | value :: _, _, 0 => value
  | _ :: rest, final, d + 1 => wave rest final d

section Wave
variable {α β γ : Type}

@[simp] theorem wave_nil (final : α) (d : Nat) : wave [] final d = final := rfl

@[simp] theorem wave_zero (value final : α) (rest : List α) :
    wave (value :: rest) final 0 = value := rfl

@[simp] theorem wave_succ (value final : α) (rest : List α) (d : Nat) :
    wave (value :: rest) final (d + 1) = wave rest final d := rfl

theorem map_wave (f : α → β) (values : List α) (final : α) (d : Nat) :
    f (wave values final d) = wave (values.map f) (f final) d := by
  induction values generalizing d with
  | nil => rfl
  | cons value rest ih =>
      cases d with
      | zero => rfl
      | succ d => exact ih d

theorem delayed_wave (out : Nat → α) {values : List α} {start final : α}
    (first : out 0 = start) (later : ∀ d, out (d + 1) = wave values final d) (d : Nat) :
    out d = wave (start :: values) final d := by
  cases d with
  | zero => exact first
  | succ d => exact later d

theorem wave_append_final (values : List α) (final : α) (d : Nat) :
    wave (values ++ [final]) final d = wave values final d := by
  induction values generalizing d with
  | nil => cases d <;> rfl
  | cons value rest ih =>
      cases d with
      | zero => rfl
      | succ d => exact ih d

/-- A concurrent assignment of `f` of a source follows the waveform of the source one
delta later. -/
theorem assign_wave {Ports Signals : Type} (entity : Entity Ports Signals) (ports : Nat → Ports)
    (start : Signals) (out : Signals → β) (source : Ports → Signals → α) (f : α → β)
    (drives : ∀ p p' s s', out (entity.delta p p' s s') = f (source p' s'))
    (stable : out start = f (source (ports 0) start)) {values : List α} {final : α}
    (moves : ∀ d, source (ports d) (entity.trace ports start d) = wave values final d) (d : Nat) :
    out (entity.trace ports start d) = wave (out start :: values.map f) (f final) d := by
  refine delayed_wave (fun d => out (entity.trace ports start d)) rfl (fun d => ?_) d
  rw [trace_assign entity ports start out (fun p s => f (source p s)) drives stable, moves]
  exact map_wave f values final d

end Wave

/-! ## Clock cycles -/

/-- How the environment moves the ports of a top entity in the deltas of the two
clock edges of a cycle. -/
class Driven (Ports : Type) where
  rising : Ports → Ports → Nat → Ports
  falling : Ports → Nat → Ports

/-- The ports of a cycle together with the stable signals at its end. -/
structure Snapshot (Ports Signals : Type) where
  ports : Ports
  signals : Signals

def settleDepth : Nat := 12

section Cycle
variable {Ports Signals : Type} [Driven Ports]

def Entity.rise (entity : Entity Ports Signals) (x : Snapshot Ports Signals)
    (next : Ports) : Signals :=
  entity.trace (Driven.rising x.ports next) x.signals settleDepth

/-- One clock cycle: the ports change with the rising edge and keep their values
over the falling edge. -/
def Entity.cycle (entity : Entity Ports Signals) (x : Snapshot Ports Signals)
    (next : Ports) : Snapshot Ports Signals :=
  ⟨next, entity.trace (Driven.falling next) (entity.rise x next) settleDepth⟩

def Entity.run (entity : Entity Ports Signals) (powerUp : Snapshot Ports Signals)
    (wave : Nat → Ports) : Nat → Snapshot Ports Signals
  | 0 => entity.cycle powerUp (wave 0)
  | t + 1 => entity.cycle (entity.run powerUp wave t) (wave (t + 1))

theorem cycle_of_edges {entity : Entity Ports Signals} {p p' : Ports} {before after : Signals}
    (risen : entity.rise ⟨p, before⟩ p' = after)
    (quiet : ∀ d, entity.delta (Driven.falling p' d) (Driven.falling p' (d + 1)) after after =
      after) :
    entity.cycle ⟨p, before⟩ p' = ⟨p', after⟩ := by
  rw [Entity.cycle, risen, trace_const entity (Driven.falling p') after quiet]

theorem risingEdge_falling (d : Nat) :
    risingEdge (decide (d = 0)) (decide (d + 1 = 0)) = false := by
  simp [risingEdge]

variable (entity : Entity Ports Signals) (powerUp : Snapshot Ports Signals)

/-- The snapshots that cycles lead to from power-up. -/
inductive Entity.Reachable : Snapshot Ports Signals → Prop where
  | powerUp : Entity.Reachable powerUp
  | cycle {x : Snapshot Ports Signals} (next : Ports) :
      Entity.Reachable x → Entity.Reachable (entity.cycle x next)

theorem run_succ (wave : Nat → Ports) (t : Nat) :
    entity.run powerUp wave (t + 1) =
      entity.cycle (entity.run powerUp wave t) (wave (t + 1)) := rfl

theorem run_add (wave : Nat → Ports) (a t : Nat) : entity.run powerUp wave (a + 1 + t) =
    entity.run (entity.run powerUp wave a) (fun t => wave (a + 1 + t)) t := by
  induction t with
  | zero => rfl
  | succ t ih =>
      rw [← Nat.add_assoc, run_succ, run_succ, ih]
      rfl

theorem run_reachable (wave : Nat → Ports) (t : Nat) :
    entity.Reachable powerUp (entity.run powerUp wave t) := by
  induction t with
  | zero => exact .cycle (wave 0) .powerUp
  | succ t ih => exact .cycle (wave (t + 1)) ih

end Cycle

/-! ## Registers -/

section Registers
variable {Ports Signals Regs : Type} [Driven Ports]

/-- What the deltas of a cycle amount to: well-formed registers advance by `next`,
and `stable` is what they show. -/
structure Implements (entity : Entity Ports Signals) (stable : Ports → Regs → Signals)
    (next : Ports → Ports → Regs → Regs) (Wf : Ports → Regs → Prop) : Prop where
  cycle : ∀ p p' x, Wf p x → entity.cycle ⟨p, stable p x⟩ p' = ⟨p', stable p' (next p p' x)⟩
  wf : ∀ p p' x, Wf p x → Wf p' (next p p' x)

/-- The registers at the end of every cycle of a waveform that follows a cycle with
ports `p` and registers `x`. -/
def runRegs (next : Ports → Ports → Regs → Regs) (p : Ports) (wave : Nat → Ports) (x : Regs) :
    Nat → Regs
  | 0 => next p (wave 0) x
  | t + 1 => next (wave t) (wave (t + 1)) (runRegs next p wave x t)

omit [Driven Ports] in
theorem runRegs_add (next : Ports → Ports → Regs → Regs) (p : Ports) (wave : Nat → Ports)
    (x : Regs) (a t : Nat) : runRegs next p wave x (a + 1 + t) =
      runRegs next (wave a) (fun t => wave (a + 1 + t)) (runRegs next p wave x a) t := by
  induction t with
  | zero => rfl
  | succ t ih =>
      rw [← Nat.add_assoc]
      exact congrArg (next (wave (a + 1 + t)) (wave (a + 1 + t + 1))) ih

variable {entity : Entity Ports Signals} {stable : Ports → Regs → Signals}
  {next : Ports → Ports → Regs → Regs} {Wf : Ports → Regs → Prop} {p : Ports} {x : Regs}

theorem Implements.run_wf (implements : Implements entity stable next Wf) (wf : Wf p x)
    (wave : Nat → Ports) (t : Nat) : Wf (wave t) (runRegs next p wave x t) := by
  induction t with
  | zero => exact implements.wf p (wave 0) x wf
  | succ t ih => exact implements.wf (wave t) (wave (t + 1)) _ ih

theorem Implements.run_eq (implements : Implements entity stable next Wf) (wf : Wf p x)
    (wave : Nat → Ports) (t : Nat) :
    entity.run ⟨p, stable p x⟩ wave t = ⟨wave t, stable (wave t) (runRegs next p wave x t)⟩ := by
  induction t with
  | zero => exact implements.cycle p (wave 0) x wf
  | succ t ih =>
      rw [run_succ, ih]
      exact implements.cycle (wave t) (wave (t + 1)) _ (implements.run_wf wf wave t)

/-- What comes before a run followed by the run. -/
def onwards {α : Type} (before : α) (run : Nat → α) : Nat → α
  | 0 => before
  | t + 1 => run t

theorem Implements.onwards_eq (implements : Implements entity stable next Wf) (wf : Wf p x)
    (wave : Nat → Ports) (t : Nat) :
    onwards ⟨p, stable p x⟩ (entity.run ⟨p, stable p x⟩ wave) t =
      ⟨onwards p wave t, stable (onwards p wave t) (onwards x (runRegs next p wave x) t)⟩ := by
  cases t with
  | zero => rfl
  | succ t => exact implements.run_eq wf wave t

/-- Every reachable snapshot is the stable state of well-formed registers. -/
theorem Implements.reachable (implements : Implements entity stable next Wf) (wf : Wf p x)
    {s : Snapshot Ports Signals} (reached : entity.Reachable ⟨p, stable p x⟩ s) :
    ∃ y, Wf s.ports y ∧ s = ⟨s.ports, stable s.ports y⟩ := by
  induction reached with
  | powerUp => exact ⟨x, wf, rfl⟩
  | @cycle s p' _ ih =>
      obtain ⟨y, wf', eq⟩ := ih
      refine ⟨next s.ports p' y, implements.wf _ _ _ wf', ?_⟩
      rw [eq]
      exact implements.cycle s.ports p' y wf'

end Registers

theorem onwards_succ {Ports Regs : Type} (next : Ports → Ports → Regs → Regs) (p : Ports)
    (wave : Nat → Ports) (x : Regs) (t : Nat) :
    onwards x (runRegs next p wave x) (t + 1) =
      next (onwards p wave t) (onwards p wave (t + 1)) (onwards x (runRegs next p wave x) t) := by
  cases t <;> rfl

/-! ## Hosted components -/

section Hosting
variable {Ports Signals SubPorts SubSignals : Type}

/-- `get` is a sub-instance of the entity, wired to the ports `wire`. -/
structure Hosts (entity : Entity Ports Signals) (sub : Entity SubPorts SubSignals)
    (wire : Ports → Signals → SubPorts) (get : Signals → SubSignals) : Prop where
  delta : ∀ p p' s s', get (entity.delta p p' s s') =
    sub.delta (wire p s) (wire p' s') (get s) (get s')

variable {entity : Entity Ports Signals} {sub : Entity SubPorts SubSignals}
  {wire : Ports → Signals → SubPorts} {get : Signals → SubSignals}

theorem Hosts.trace (hosts : Hosts entity sub wire get) (ports : Nat → Ports) (start : Signals)
    (d : Nat) : get (entity.trace ports start d) =
      sub.trace (fun d => wire (ports d) (entity.trace ports start d)) (get start) d :=
  trace_instance entity ports start sub wire get hosts.delta d

variable [Driven Ports] [Driven SubPorts]

/-- Over the two edges of a cycle the host moves the wires as an environment of the
component moves its ports, from `q` to `q'`. -/
structure Wired (entity : Entity Ports Signals) (wire : Ports → Signals → SubPorts)
    (p : Ports) (s : Signals) (p' : Ports) (q q' : SubPorts) : Prop where
  rising : ∀ d, wire (Driven.rising p p' d) (entity.trace (Driven.rising p p') s d) =
    Driven.rising q q' d
  falling : ∀ d, wire (Driven.falling p' d)
    (entity.trace (Driven.falling p') (entity.rise ⟨p, s⟩ p') d) = Driven.falling q' d

section Cycle
variable {p p' : Ports} {s : Signals} {q q' : SubPorts}

theorem Hosts.rise (hosts : Hosts entity sub wire get) (wired : Wired entity wire p s p' q q') :
    get (entity.rise ⟨p, s⟩ p') = sub.rise ⟨q, get s⟩ q' := by
  rw [Entity.rise, hosts.trace]
  simp only [wired.rising]
  rfl

theorem Hosts.fall (hosts : Hosts entity sub wire get) (wired : Wired entity wire p s p' q q')
    (d : Nat) : get (entity.trace (Driven.falling p') (entity.rise ⟨p, s⟩ p') d) =
      sub.trace (Driven.falling q') (sub.rise ⟨q, get s⟩ q') d := by
  rw [hosts.trace, hosts.rise wired]
  simp only [wired.falling]

theorem Hosts.cycle (hosts : Hosts entity sub wire get) (wired : Wired entity wire p s p' q q') :
    sub.cycle ⟨q, get s⟩ q' = ⟨q', get (entity.cycle ⟨p, s⟩ p').signals⟩ :=
  congrArg (Snapshot.mk q') (hosts.fall wired settleDepth).symm

end Cycle

/-- A host that keeps the wires in every cycle runs the component on its own. -/
theorem Hosts.run (hosts : Hosts entity sub wire get) {powerUp : Snapshot Ports Signals}
    {wave : Nat → Ports} {q : SubPorts} {subWave : Nat → SubPorts}
    (first : Wired entity wire powerUp.ports powerUp.signals (wave 0) q (subWave 0))
    (later : ∀ t, Wired entity wire (wave t) (entity.run powerUp wave t).signals (wave (t + 1))
      (subWave t) (subWave (t + 1))) (t : Nat) :
    sub.run ⟨q, get powerUp.signals⟩ subWave t =
      ⟨subWave t, get (entity.run powerUp wave t).signals⟩ := by
  induction t with
  | zero => exact hosts.cycle first
  | succ t ih =>
      have ports : (entity.run powerUp wave t).ports = wave t := by
        cases t <;> rfl
      rw [run_succ, ih, hosts.cycle (later t), run_succ, ← ports]

end Hosting

end DeltaCycle
