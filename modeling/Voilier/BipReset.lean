import Voilier.BipSequence

/-!
# A reset of gestion_bip

The sequencer on its own, its codes driven by registers of the same clock.
The reset silences the beep but keeps the choice of a direction.
-/

set_option autoImplicit false

namespace Voilier.GestionBip

open DeltaCycle

/-- `raz_n_i` moves with the registers, the codes one delta later, as concurrent
assignments of registers do. -/
instance : DeltaCycle.Driven Ports where
  rising old next d :=
    if d = 0 then { old with clkI := false }
    else if d = 1 then { old with clkI := true }
    else if d = 2 then { old with clkI := true, razNI := next.razNI }
    else { next with clkI := true }
  falling next d := { next with clkI := decide (d = 0) }

/-- Power-up: reset asserted, no code, every register and latch at its initial
value. -/
def powerUp : Snapshot Ports Signals where
  ports := ⟨false, false, 0b00#2, 0b00#2, 0b00#2, true⟩
  signals := { raz := true }

def run (wave : Nat → Ports) (t : Nat) : Snapshot Ports Signals :=
  entity.run powerUp wave t

section Cycle
variable {p p' : Ports} {x : Regs}

theorem rises_driven (p p' : Ports) :
    Rises (DeltaCycle.Driven.rising p p') p p' p' where
  clk d := by rcases d with _ | _ | _ | d <;> rfl
  razN d := by rcases d with _ | _ | _ | d <;> rfl
  auto d := by rcases d with _ | _ | _ | _ | d <;> rfl
  babord d := by rcases d with _ | _ | _ | _ | d <;> rfl
  tribord d := by rcases d with _ | _ | _ | _ | d <;> rfl
  en d := by cases d <;> rfl
  noReset _ := ⟨rfl, rfl, rfl, rfl⟩

theorem falling_quiet (held : x.Held p) (d : Nat) :
    entity.delta (DeltaCycle.Driven.falling p d) (DeltaCycle.Driven.falling p (d + 1))
      (stable p x) (stable p x) = stable p x :=
  delta_quiet (DeltaCycle.Driven.falling p d) (DeltaCycle.Driven.falling p (d + 1)) x held
    (risingEdge_falling d) rfl rfl rfl

theorem cycle_eq (p p' : Ports) (x : Regs) (held : x.Held p) :
    entity.cycle ⟨p, stable p x⟩ p' = ⟨p', stable p' (x.next p p')⟩ := by
  have risen : entity.rise ⟨p, stable p x⟩ p' = stable p' (x.next p p') :=
    rising_stable (rises_driven p p') held (by decide)
  exact cycle_of_edges risen (falling_quiet (x.next_held p p'))

end Cycle

section Choice
variable {p p' : Ports} {x : Regs}

/-- A pause belongs to an open choice, whatever resets and codes came before. -/
theorem latch_choice {i : Inputs} {l : Latches}
    (choice : l.attenteBip = true → l.tempChoixBtn = true) :
    (latch i l).attenteBip = true → (latch i l).tempChoixBtn = true := by
  rcases l with ⟨activation, attente, choix⟩
  rcases i with ⟨raz, en, auto, babord, tribord, re1, re05⟩
  by_cases short : auto = 0b01#2 ∨ auto = 0b10#2 ∨ babord = 0b01#2 ∨ tribord = 0b01#2 <;>
    by_cases long : babord = 0b10#2 ∨ tribord = 0b10#2 <;>
    cases raz <;> cases en <;> cases re1 <;> cases re05 <;> cases attente <;>
    simp_all [latch]

theorem next_choice (p p' : Ports)
    (choice : x.latches.attenteBip = true → x.latches.tempChoixBtn = true) :
    (x.next p p').latches.attenteBip = true → (x.next p p').latches.tempChoixBtn = true := by
  have coded : (x.withCodes p p').attenteBip = true →
      (x.withCodes p p').tempChoixBtn = true := by
    unfold Regs.withCodes
    split_ifs
    · exact latch_choice choice
    · exact choice
    · exact choice
  unfold Regs.next
  simp only
  split_ifs
  · exact latch_choice coded
  · exact coded

end Choice

/-- What holds of the registers at the end of every cycle with ports `p`. -/
structure Regs.Wf (p : Ports) (x : Regs) : Prop where
  held : x.Held p
  choice : x.latches.attenteBip = true → x.latches.tempChoixBtn = true

theorem implements : Implements entity stable Regs.next Regs.Wf where
  cycle p p' x wf := cycle_eq p p' x wf.held
  wf p p' x wf := ⟨x.next_held p p', next_choice p p' wf.choice⟩

def Regs.run (p : Ports) (wave : Nat → Ports) (x : Regs) : Nat → Regs :=
  runRegs Regs.next p wave x

/-! ## The reset -/

structure Ports.Silent (p : Ports) : Prop where
  auto : p.btnAUTOI = 0b00#2
  babord : p.btnBabordI = 0b00#2
  tribord : p.btnTribordI = 0b00#2

structure Quiet (s : Signals) : Prop where
  bip : s.bipO = false
  tempsChoix : s.tempsChoixO = false

section Reset
variable {p p' : Ports} {x : Regs}

structure Regs.Idle (x : Regs) : Prop where
  latches : x.latches = {}
  oneSec : x.oneSec.qn = 0
  zeroFiveSec : x.zeroFiveSec.qn = 0

theorem withCodes_silent (silent : p'.Silent) (running' : p'.razNI = true) :
    x.withCodes p p' = x.latches := by
  unfold Regs.withCodes
  rw [if_pos running']
  split_ifs
  · exact latch_silent silent.auto silent.babord silent.tribord rfl rfl rfl _
  · rfl

theorem Regs.Idle.next (idle : x.Idle) (p : Ports) (silent : p'.Silent) :
    (x.next p p').Idle := by
  obtain ⟨latches, one, half⟩ := idle
  have quiet : x.re1secAtEdge p = false ∧ x.re05secAtEdge p = false := by
    unfold Regs.re1secAtEdge Regs.re05secAtEdge
    rw [latches]
    exact ⟨Pulse.reAtEdge_idle one _, Pulse.reAtEdge_idle half _⟩
  constructor
  · cases running' : p'.razNI with
    | true => simp [Regs.next, quiet, withCodes_silent silent running', latches]
    | false => simp [Regs.next, Regs.withCodes, running', latches]
  · unfold Regs.next
    rw [latches]
    exact Pulse.next_idle one _ _
  · unfold Regs.next
    rw [latches]
    exact Pulse.next_idle half _ _

theorem next_reset (resetting' : p'.razNI = false) :
    (x.next p p').latches = { x.latches with activationBip := false } := by
  simp [Regs.next, Regs.withCodes, resetting']

theorem reset_idle (p : Ports)
    (choice : x.latches.attenteBip = true → x.latches.tempChoixBtn = true)
    (resetting' : p'.razNI = false) (closed : x.latches.tempChoixBtn = false) :
    (x.next p p').Idle := by
  have waiting : x.latches.attenteBip = false := by
    by_contra pausing
    have opened := choice (by simpa using pausing)
    simp [closed] at opened
  constructor
  · rw [next_reset resetting']
    exact congrArg₂ (Latches.mk false) waiting closed
  · simp [Regs.next, Pulse.Regs.next, resetting']
  · simp [Regs.next, Pulse.Regs.next, resetting']

end Reset

theorem run_idle {p : Ports} {x : Regs} {wave : Nat → Ports} (first : (x.next p (wave 0)).Idle)
    (t : Nat) (silent : ∀ u ≤ t, (wave u).Silent) : (x.run p wave t).Idle := by
  induction t with
  | zero => exact first
  | succ t ih =>
      have before := ih fun u le => silent u (by omega)
      exact before.next (wave t) (silent (t + 1) (Nat.le_refl _))

/-- A reset of `k + 1` cycles silences the sequencer until the next code exactly
when it finds no open choice, or a code arrives at once. -/
theorem reset_silences_iff {s : Snapshot Ports Signals} (reached : entity.Reachable powerUp s)
    {k : Nat} {wave : Nat → Ports} (resets : ∀ t, (wave t).razNI = decide (k < t)) :
    (∀ t, (∀ u ≤ t, (wave u).Silent) → Quiet (entity.run s wave t).signals) ↔
      s.signals.latches.tempChoixBtn = false ∨ ¬ (wave 0).Silent := by
  have powerUp_wf : Regs.Wf powerUp.ports {} := ⟨fun _ => ⟨rfl, rfl, rfl⟩, id⟩
  obtain ⟨x, wf, eq⟩ := implements.reachable powerUp_wf reached
  have resetting : (wave 0).razNI = false := by simp [resets]
  rw [eq]
  simp only [implements.run_eq wf]
  change _ ↔ x.latches.tempChoixBtn = false ∨ _
  constructor
  · intro quiet
    by_cases silent : (wave 0).Silent
    · left
      have first : (x.next s.ports (wave 0)).latches.tempChoixBtn = false := by
        refine (quiet 0 fun u le => ?_).tempsChoix
        obtain rfl : u = 0 := by omega
        exact silent
      rwa [next_reset resetting] at first
    · exact Or.inr silent
  · intro closed t silent
    have first : x.latches.tempChoixBtn = false := by
      rcases closed with closed | rings
      · exact closed
      · exact absurd (silent 0 (by omega)) rings
    have idle := run_idle (reset_idle s.ports wf.choice resetting first) t silent
    exact ⟨congrArg Latches.activationBip idle.latches,
      congrArg Latches.tempChoixBtn idle.latches⟩

/-- A code of port in cycle 2. -/
def portCode (code : BitVec 2) (t : Nat) : Ports :=
  ⟨false, decide (1 ≤ t), 0b00#2, if t = 2 then code else 0b00#2, 0b00#2, true⟩

/-- A reset of `k + 1` cycles that no code follows. -/
def resetWave (k t : Nat) : Ports := ⟨false, decide (k < t), 0b00#2, 0b00#2, 0b00#2, true⟩

theorem resetWave_silent (k t : Nat) : (resetWave k t).Silent := ⟨rfl, rfl, rfl⟩

/-- The beep of a short press is cut for good by a reset, that of a long press is not. -/
theorem reset_silences_underway :
    (run (portCode 0b01#2) 3).signals.bipO = true ∧
      (∀ t, Quiet (entity.run (run (portCode 0b01#2) 3) (resetWave 2) t).signals) ∧
      (run (portCode 0b10#2) 3).signals.bipO = true ∧
      ¬ ∀ t, Quiet (entity.run (run (portCode 0b10#2) 3) (resetWave 2) t).signals := by
  have short : entity.Reachable powerUp (run (portCode 0b01#2) 3) :=
    run_reachable entity powerUp (portCode 0b01#2) 3
  have long : entity.Reachable powerUp (run (portCode 0b10#2) 3) :=
    run_reachable entity powerUp (portCode 0b10#2) 3
  refine ⟨by decide +kernel, fun t => ?_, by decide +kernel, fun quiet => ?_⟩
  · have closed : (run (portCode 0b01#2) 3).signals.latches.tempChoixBtn = false := by
      decide +kernel
    exact (reset_silences_iff (k := 2) short fun _ => rfl).mpr (Or.inl closed) t fun u _ =>
      resetWave_silent 2 u
  · have opened : (run (portCode 0b10#2) 3).signals.latches.tempChoixBtn = true := by
      decide +kernel
    rcases (reset_silences_iff (k := 2) long fun _ => rfl).mp fun t _ => quiet t with
      closed | rings
    · simp [opened] at closed
    · exact rings (resetWave_silent 2 0)

theorem reset_keeps_choice :
    ¬ ∀ (history wave : Nat → Ports) (u k : Nat),
      (∀ t, (history t).enI = true) → (∀ t, (wave t).enI = true) →
      (∀ t, (wave t).razNI = decide (k < t)) →
      ∀ t, (∀ v ≤ t, (wave v).Silent) → Quiet (entity.run (run history u) wave t).signals := by
  intro quiet
  have silenced := quiet (portCode 0b10#2) (resetWave 0) 2 0 (fun _ => rfl) (fun _ => rfl)
    (fun _ => rfl) 0 fun v _ => resetWave_silent 0 v
  exact absurd silenced.tempsChoix (by decide +kernel)

end Voilier.GestionBip
