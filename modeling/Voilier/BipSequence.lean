import Voilier.GestionBip

/-!
# The beep sequence

What the latches of gestion_bip do in one cycle outside reset, and the invariant
that keeps a beep, a pause and the choice flag together.
-/

set_option autoImplicit false

namespace Voilier.GestionBip

open DeltaCycle

def Ports.rings (p : Ports) : Bool :=
  decide (p.btnAUTOI = 0b01#2 ∨ p.btnAUTOI = 0b10#2 ∨ p.btnBabordI = 0b01#2 ∨
    p.btnTribordI = 0b01#2) || decide (p.btnBabordI = 0b10#2 ∨ p.btnTribordI = 0b10#2)

def Ports.opensChoice (p : Ports) : Bool :=
  decide (p.btnBabordI = 0b10#2 ∨ p.btnTribordI = 0b10#2)

/-- One cycle of the latches: the codes come first, then the pulses override
them. -/
def Latches.step (rings opensChoice re1sec re05sec : Bool) (s : Latches) : Latches :=
  if re05sec then ⟨true, false, false⟩
  else if re1sec then
    ⟨false, s.attenteBip || s.tempChoixBtn || opensChoice, s.tempChoixBtn || opensChoice⟩
  else ⟨s.activationBip || rings, s.attenteBip, s.tempChoixBtn || opensChoice⟩

/-- Every code of the second ports comes after a silent one, as the press timers
give them. -/
structure Fresh (p p' : Ports) : Prop where
  auto : p.btnAUTOI = 0b00#2 ∨ p'.btnAUTOI = 0b00#2
  babord : p.btnBabordI = 0b00#2 ∨ p'.btnBabordI = 0b00#2
  tribord : p.btnTribordI = 0b00#2 ∨ p'.btnTribordI = 0b00#2

/-- A code lasts one cycle: what stays on an input is no code. -/
structure OneCycle (p p' : Ports) : Prop where
  auto : p.btnAUTOI = p'.btnAUTOI → p'.btnAUTOI = 0b00#2
  babord : p.btnBabordI = p'.btnBabordI → p'.btnBabordI = 0b00#2
  tribord : p.btnTribordI = p'.btnTribordI → p'.btnTribordI = 0b00#2

theorem Fresh.oneCycle {p p' : Ports} (fresh : Fresh p p') : OneCycle p p' where
  auto same := fresh.auto.elim (fun silent => same ▸ silent) id
  babord same := fresh.babord.elim (fun silent => same ▸ silent) id
  tribord same := fresh.tribord.elim (fun silent => same ▸ silent) id

section Step
variable {p p' : Ports} {x : Regs}

theorem latch_silent {i : Inputs} (auto : i.btnAUTOI = 0b00#2) (babord : i.btnBabordI = 0b00#2)
    (tribord : i.btnTribordI = 0b00#2) (re1 : i.reRst1sec = false) (re05 : i.reRst05sec = false)
    (running : i.raz = false) (s : Latches) : latch i s = s := by
  simp [latch, auto, babord, tribord, re1, re05, running]

/-- A code of one cycle always wakes the latch process. -/
theorem withCodes_eq (oneCycle : OneCycle p p') (running' : p'.razNI = true) :
    x.withCodes p p' =
      latch ⟨false, p'.enI, p'.btnAUTOI, p'.btnBabordI, p'.btnTribordI, false, false⟩
        x.latches := by
  rw [Regs.withCodes, if_pos running']
  by_cases awake : x.wakes p p' = true
  · rw [if_pos awake]
  · rw [if_neg awake]
    simp only [Regs.wakes, Bool.or_eq_true, not_or, Bool.not_eq_true] at awake
    obtain ⟨⟨⟨⟨⟨auto, babord⟩, tribord⟩, -⟩, -⟩, -⟩ := awake
    symm
    exact latch_silent (oneCycle.auto (eq_of_event_false auto))
      (oneCycle.babord (eq_of_event_false babord))
      (oneCycle.tribord (eq_of_event_false tribord)) rfl rfl rfl x.latches

theorem latch_codes (enabled : p.enI = true) (s : Latches) :
    latch ⟨false, p.enI, p.btnAUTOI, p.btnBabordI, p.btnTribordI, false, false⟩ s =
      s.step p.rings p.opensChoice false false := by
  rcases s with ⟨activation, attente, choix⟩
  by_cases short : p.btnAUTOI = 0b01#2 ∨ p.btnAUTOI = 0b10#2 ∨ p.btnBabordI = 0b01#2 ∨
      p.btnTribordI = 0b01#2 <;>
    by_cases long : p.btnBabordI = 0b10#2 ∨ p.btnTribordI = 0b10#2 <;>
    simp [latch, Latches.step, Ports.rings, Ports.opensChoice, enabled, short, long]

theorem latch_pulses (enabled : p.enI = true) (re1 re05 : Bool) (s : Latches) :
    latch ⟨false, p.enI, p.btnAUTOI, p.btnBabordI, p.btnTribordI, re1, re05⟩
        (latch ⟨false, p.enI, p.btnAUTOI, p.btnBabordI, p.btnTribordI, false, false⟩ s) =
      s.step p.rings p.opensChoice re1 re05 := by
  rcases s with ⟨activation, attente, choix⟩
  by_cases short : p.btnAUTOI = 0b01#2 ∨ p.btnAUTOI = 0b10#2 ∨ p.btnBabordI = 0b01#2 ∨
      p.btnTribordI = 0b01#2 <;>
    by_cases long : p.btnBabordI = 0b10#2 ∨ p.btnTribordI = 0b10#2 <;>
    cases re1 <;> cases re05 <;> cases choix <;>
    simp [latch, Latches.step, Ports.rings, Ports.opensChoice, enabled, short, long]

theorem next_latches (x : Regs) (oneCycle : OneCycle p p') (running' : p'.razNI = true)
    (enabled : p'.enI = true) :
    (x.next p p').latches =
      x.latches.step p'.rings p'.opensChoice (x.re1secAtEdge p) (x.re05secAtEdge p) := by
  simp only [Regs.next, withCodes_eq oneCycle running', running', Bool.true_and]
  by_cases pulse : (x.re1secAtEdge p || x.re05secAtEdge p) = true
  · rw [if_pos pulse]
    exact latch_pulses enabled _ _ x.latches
  · rw [if_neg pulse]
    simp only [Bool.or_eq_true, not_or, Bool.not_eq_true] at pulse
    rw [pulse.1, pulse.2]
    exact latch_codes enabled x.latches

end Step

/-! ## The invariant of a sequencer that is reset at the start only -/

structure Regs.Sequenced (p : Ports) (x : Regs) : Prop where
  beep : x.oneSec.Timed (49999999 / 100) x.latches.activationBip
  pause : x.zeroFiveSec.Timed (24999999 / 100) x.latches.attenteBip
  choice : x.latches.attenteBip = true → x.latches.tempChoixBtn = true
  busy : x.latches.tempChoixBtn = true →
    x.latches.activationBip = true ∨ x.latches.attenteBip = true
  /-- A pause begins with the end of a beep, so it ends before a beep that began
  during it. -/
  order : x.latches.attenteBip = true →
    x.oneSec.qn.toNat = 49999999 / 100 ∧ x.zeroFiveSec.qn.toNat = 0 ∨
      x.oneSec.qn.toNat < x.zeroFiveSec.qn.toNat
  reset : p.razNI = false → x.latches = {}

section Sequenced
variable {p p' : Ports} {x : Regs}

theorem sequenced_powerUp : Regs.Sequenced p {} := by
  constructor <;> simp
  · exact ⟨⟨by decide, by simp⟩, by simp, by simp⟩
  · exact ⟨⟨by decide, by simp⟩, by simp, by simp⟩

theorem Regs.Sequenced.re1sec_iff (sequenced : x.Sequenced p) :
    x.re1secAtEdge p = true ↔ p.razNI = true ∧ x.latches.activationBip = true ∧
      x.oneSec.qn.toNat + 1 = 49999999 / 100 := by
  rw [Regs.re1secAtEdge, Pulse.reAtEdge_iff _ _ (by decide) (by decide) sequenced.beep.le,
    Bool.not_eq_false']

theorem Regs.Sequenced.re05sec_iff (sequenced : x.Sequenced p) :
    x.re05secAtEdge p = true ↔ p.razNI = true ∧ x.latches.attenteBip = true ∧
      x.zeroFiveSec.qn.toNat + 1 = 24999999 / 100 := by
  rw [Regs.re05secAtEdge, Pulse.reAtEdge_iff _ _ (by decide) (by decide) sequenced.pause.le,
    Bool.not_eq_false']

/-- A beep and a pause never end together. -/
theorem Regs.Sequenced.pulses_apart (sequenced : x.Sequenced p) :
    x.re1secAtEdge p = true → x.re05secAtEdge p = false := by
  intro beepEnds
  by_contra pauseEnds
  obtain ⟨-, -, one⟩ := sequenced.re1sec_iff.mp beepEnds
  obtain ⟨-, pausing, half⟩ := sequenced.re05sec_iff.mp (by simpa using pauseEnds)
  have order := sequenced.order pausing
  omega

theorem Regs.Sequenced.next_oneSec (sequenced : x.Sequenced p) (running : p.razNI = true)
    (running' : p'.razNI = true) :
    (x.next p p').oneSec.qn.toNat =
      if x.oneSec.qn.toNat = 49999999 / 100 then 0
      else if x.latches.activationBip = true then x.oneSec.qn.toNat + 1
      else x.oneSec.qn.toNat := by
  have value := Pulse.next_toNat (!p.razNI) (!p'.razNI)
    x.latches.activationBip (by decide) sequenced.beep.le
  simpa [Regs.next, running, running'] using value

theorem Regs.Sequenced.next_zeroFiveSec (sequenced : x.Sequenced p) (running : p.razNI = true)
    (running' : p'.razNI = true) :
    (x.next p p').zeroFiveSec.qn.toNat =
      if x.zeroFiveSec.qn.toNat = 24999999 / 100 then 0
      else if x.latches.attenteBip = true then x.zeroFiveSec.qn.toNat + 1
      else x.zeroFiveSec.qn.toNat := by
  have value := Pulse.next_toNat (!p.razNI) (!p'.razNI)
    x.latches.attenteBip (by decide) sequenced.pause.le
  simpa [Regs.next, running, running'] using value

/-- The latches follow `Latches.step` with at most one pulse. -/
theorem Regs.Sequenced.step_cases (sequenced : x.Sequenced p) (oneCycle : OneCycle p p')
    (running' : p'.razNI = true) (enabled : p'.enI = true) :
    (x.re1secAtEdge p = false ∧ x.re05secAtEdge p = true ∧
        (x.next p p').latches = ⟨true, false, false⟩) ∨
      (x.re1secAtEdge p = true ∧ x.re05secAtEdge p = false ∧
        (x.next p p').latches = x.latches.step p'.rings p'.opensChoice true false) ∨
      (x.re1secAtEdge p = false ∧ x.re05secAtEdge p = false ∧
        (x.next p p').latches = x.latches.step p'.rings p'.opensChoice false false) := by
  have stepped := next_latches x oneCycle running' enabled
  cases pauseEnds : x.re05secAtEdge p with
  | true =>
      have beepGoes : x.re1secAtEdge p = false := by
        by_contra beepEnds
        have apart := sequenced.pulses_apart (by simpa using beepEnds)
        simp [pauseEnds] at apart
      refine Or.inl ⟨beepGoes, rfl, ?_⟩
      rw [stepped, pauseEnds]
      rfl
  | false =>
      cases beepEnds : x.re1secAtEdge p with
      | true =>
          refine Or.inr (Or.inl ⟨rfl, rfl, ?_⟩)
          rw [stepped, pauseEnds, beepEnds]
      | false =>
          refine Or.inr (Or.inr ⟨rfl, rfl, ?_⟩)
          rw [stepped, pauseEnds, beepEnds]

theorem opensChoice_rings (opens : p.opensChoice = true) : p.rings = true := by
  rw [Ports.rings, show decide _ = true from opens, Bool.or_true]

theorem Latches.step_choice (rings opensChoice re1sec re05sec : Bool) {s : Latches}
    (choice : s.attenteBip = true → s.tempChoixBtn = true) :
    (s.step rings opensChoice re1sec re05sec).attenteBip = true →
      (s.step rings opensChoice re1sec re05sec).tempChoixBtn = true := by
  rcases s with ⟨activation, attente, choix⟩
  cases re1sec <;> cases re05sec <;> cases attente <;> simp_all [Latches.step]

theorem Latches.step_busy (re1sec re05sec : Bool) {rings opensChoice : Bool} {s : Latches}
    (implied : opensChoice = true → rings = true)
    (busy : s.tempChoixBtn = true → s.activationBip = true ∨ s.attenteBip = true) :
    (s.step rings opensChoice re1sec re05sec).tempChoixBtn = true →
      (s.step rings opensChoice re1sec re05sec).activationBip = true ∨
        (s.step rings opensChoice re1sec re05sec).attenteBip = true := by
  rcases s with ⟨activation, attente, choix⟩
  cases re1sec <;> cases re05sec <;> cases activation <;> cases choix <;>
    simp_all [Latches.step]

theorem Regs.Sequenced.next_reset (sequenced : x.Sequenced p) (resetting : p.razNI = false)
    (resetting' : p'.razNI = false) : (x.next p p').Sequenced p' := by
  have idle : (x.next p p').latches = {} := by
    simp [Regs.next, Regs.withCodes, resetting', sequenced.reset resetting]
  have one : (x.next p p').oneSec.qn = 0 := by simp [Regs.next, Pulse.Regs.next, resetting']
  have half : (x.next p p').zeroFiveSec.qn = 0 := by simp [Regs.next, Pulse.Regs.next, resetting']
  constructor
  · exact ⟨⟨by simp [one], fun _ => by simp [one]⟩, fun _ => by simp [one], fun _ => by simp [one]⟩
  · exact ⟨⟨by simp [half], fun _ => by simp [half]⟩, fun _ => by simp [half],
      fun _ => by simp [half]⟩
  all_goals simp [idle]

theorem Regs.Sequenced.next_order (sequenced : x.Sequenced p) (oneCycle : OneCycle p p')
    (running' : p'.razNI = true) (enabled : p'.enI = true)
    (pausing' : (x.next p p').latches.attenteBip = true) :
    (x.next p p').oneSec.qn.toNat = 49999999 / 100 ∧ (x.next p p').zeroFiveSec.qn.toNat = 0 ∨
      (x.next p p').oneSec.qn.toNat < (x.next p p').zeroFiveSec.qn.toNat := by
  have step := sequenced.step_cases oneCycle running' enabled
  have beepEnd := sequenced.re1sec_iff
  have pauseEnd := sequenced.re05sec_iff
  rcases step with ⟨-, ends, after⟩ | ⟨ends, goes, after⟩ | ⟨goes, goes', after⟩
  · simp [after] at pausing'
  · -- the pause begins: the beep counter is full and the other one still waits
    obtain ⟨running, beeping, one⟩ := beepEnd.mp ends
    have waiting : x.latches.attenteBip = false := by
      by_contra pausing
      have order := sequenced.order (by simpa using pausing)
      have half := sequenced.pause.le
      omega
    have half := sequenced.pause.waiting waiting
    rw [sequenced.next_oneSec running running', sequenced.next_zeroFiveSec running running',
      if_neg (by omega), if_pos beeping, waiting]
    left
    refine ⟨one, ?_⟩
    split_ifs <;> omega
  · have pausing : x.latches.attenteBip = true := by simpa [after, Latches.step] using pausing'
    have running : p.razNI = true := by
      by_contra resetting
      simp [sequenced.reset (by simpa using resetting)] at pausing
    have notLast : x.zeroFiveSec.qn.toNat + 1 ≠ 24999999 / 100 := by
      intro last
      have ended := pauseEnd.mpr ⟨running, pausing, last⟩
      simp [goes'] at ended
    have order := sequenced.order pausing
    have half := sequenced.pause.counting pausing
    rw [sequenced.next_oneSec running running', sequenced.next_zeroFiveSec running running',
      if_neg (show ¬ x.zeroFiveSec.qn.toNat = 24999999 / 100 by omega), if_pos pausing]
    right
    split_ifs <;> omega

theorem Regs.Sequenced.next_running (sequenced : x.Sequenced p) (oneCycle : OneCycle p p')
    (running' : p'.razNI = true) (enabled : p'.enI = true) : (x.next p p').Sequenced p' := by
  have step := sequenced.step_cases oneCycle running' enabled
  have stepped := next_latches x oneCycle running' enabled
  have opens : p'.opensChoice = true → p'.rings = true := opensChoice_rings
  constructor
  · refine sequenced.beep.next (by decide) (by decide) fun _ beeping => ?_
    change (x.next p p').latches.activationBip = !x.re1secAtEdge p
    rcases step with ⟨goes, -, after⟩ | ⟨ends, -, after⟩ | ⟨goes, -, after⟩
    · rw [goes, after]
      rfl
    · rw [ends, after]
      rfl
    · rw [goes, after]
      simp [Latches.step, beeping]
  · refine sequenced.pause.next (by decide) (by decide) fun _ pausing => ?_
    change (x.next p p').latches.attenteBip = !x.re05secAtEdge p
    rcases step with ⟨-, ends, after⟩ | ⟨-, goes, after⟩ | ⟨-, goes, after⟩
    · rw [ends, after]
      rfl
    · rw [goes, after]
      simp [Latches.step, pausing]
    · rw [goes, after]
      simp [Latches.step, pausing]
  · rw [stepped]
    exact Latches.step_choice _ _ _ _ sequenced.choice
  · rw [stepped]
    exact Latches.step_busy _ _ opens sequenced.busy
  · intro pausing'
    exact sequenced.next_order oneCycle running' enabled pausing'
  · intro reset
    simp [running'] at reset

end Sequenced

end Voilier.GestionBip
