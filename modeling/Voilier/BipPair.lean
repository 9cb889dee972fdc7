import Voilier.BipSequence

/-!
# Two sequencers in phase

A second sequencer that is fed the same direction codes but no STBY code stays in
phase with the main one while both are enabled and no STBY code starts a beep.
-/

set_option autoImplicit false

namespace Voilier.GestionBip

open DeltaCycle

/-! ## Counters at rest -/

structure Regs.Rests (x : Regs) : Prop where
  beep : x.oneSec.Bounded (49999999 / 100) x.latches.activationBip
  pause : x.zeroFiveSec.Bounded (24999999 / 100) x.latches.attenteBip

theorem latch_beep_end {i : Inputs} {s : Latches} (running : i.raz = false)
    (beeping : s.activationBip = true) (ended : (latch i s).activationBip = false) :
    i.reRst1sec = true := by
  by_contra quiet
  simp only [Bool.not_eq_true] at quiet
  unfold latch at ended
  simp only [running, quiet] at ended
  split_ifs at ended <;> simp_all

theorem latch_pause_end {i : Inputs} {s : Latches} (pausing : s.attenteBip = true)
    (ended : (latch i s).attenteBip = false) : i.reRst05sec = true := by
  by_contra quiet
  simp only [Bool.not_eq_true] at quiet
  unfold latch at ended
  simp only [quiet] at ended
  split_ifs at ended <;> simp_all

theorem latch_choice_end {i : Inputs} {s : Latches} (chosen : s.tempChoixBtn = true)
    (ended : (latch i s).tempChoixBtn = false) : i.reRst05sec = true := by
  by_contra quiet
  simp only [Bool.not_eq_true] at quiet
  unfold latch at ended
  simp only [quiet] at ended
  split_ifs at ended <;> simp_all

section Rests
variable {p p' : Ports} {x : Regs}

theorem withCodes_beep (running' : p'.razNI = true) (beeping : x.latches.activationBip = true) :
    (x.withCodes p p').activationBip = true := by
  unfold Regs.withCodes
  rw [if_pos running']
  split_ifs
  · by_contra ended
    have pulse := latch_beep_end rfl beeping (by simpa using ended)
    simp at pulse
  · exact beeping

theorem withCodes_pause (p p' : Ports) (pausing : x.latches.attenteBip = true) :
    (x.withCodes p p').attenteBip = true := by
  unfold Regs.withCodes
  split_ifs
  · by_contra ended
    have pulse := latch_pause_end pausing (by simpa using ended)
    simp at pulse
  · exact pausing
  · exact pausing

theorem withCodes_choice (p p' : Ports) (chosen : x.latches.tempChoixBtn = true) :
    (x.withCodes p p').tempChoixBtn = true := by
  unfold Regs.withCodes
  split_ifs
  · by_contra ended
    have pulse := latch_choice_end chosen (by simpa using ended)
    simp at pulse
  · exact chosen
  · exact chosen

theorem Regs.Rests.next (rests : x.Rests) (p p' : Ports) : (x.next p p').Rests where
  beep := by
    refine rests.beep.next (by decide) (by decide) fun running' beeping ended => ?_
    have running' : p'.razNI = true := by simpa using running'
    have coded := withCodes_beep (p := p) running' beeping
    simp only [Regs.next] at ended
    split_ifs at ended with pulse
    · exact latch_beep_end rfl coded ended
    · simp [coded] at ended
  pause := by
    refine rests.pause.next (by decide) (by decide) fun _ pausing ended => ?_
    have coded := withCodes_pause p p' pausing
    simp only [Regs.next] at ended
    split_ifs at ended with pulse
    · exact latch_pause_end coded ended
    · simp [coded] at ended

end Rests

/-! ## In phase -/

/-- Both sequencers are in the same place of the same sequence. -/
structure InPhase (x y : Regs) : Prop where
  latches : y.latches = x.latches
  oneSec : x.latches.activationBip = true → y.oneSec.qn = x.oneSec.qn
  zeroFiveSec : x.latches.attenteBip = true → y.zeroFiveSec.qn = x.zeroFiveSec.qn

/-- The new codes start a beep that the second sequencer does not see: an STBY code
alone, in silence, and no pause just over. -/
def LoneStby (p p' : Ports) (x : Regs) : Prop :=
  (p'.btnAUTOI = 0b01#2 ∨ p'.btnAUTOI = 0b10#2) ∧
    ¬ (p'.btnBabordI = 0b01#2 ∨ p'.btnBabordI = 0b10#2 ∨ p'.btnTribordI = 0b01#2 ∨
      p'.btnTribordI = 0b10#2) ∧
    x.latches.activationBip = false ∧ x.re05secAtEdge p = false

structure Twin (p q : Ports) : Prop where
  razN : q.razNI = p.razNI
  auto : q.btnAUTOI = 0b00#2
  babord : q.btnBabordI = p.btnBabordI
  tribord : q.btnTribordI = p.btnTribordI

section Pair
variable {p p' q q' : Ports} {x y : Regs}

theorem Twin.opensChoice (twin : Twin p q) : q.opensChoice = p.opensChoice := by
  simp [Ports.opensChoice, twin.babord, twin.tribord]

theorem Twin.rings (twin : Twin p' q') (together : ¬ LoneStby p p' x)
    (silent : x.latches.activationBip = false) (noPause : x.re05secAtEdge p = false) :
    q'.rings = p'.rings := by
  have notAlone : ¬ ((p'.btnAUTOI = 0b01#2 ∨ p'.btnAUTOI = 0b10#2) ∧
      ¬ (p'.btnBabordI = 0b01#2 ∨ p'.btnBabordI = 0b10#2 ∨ p'.btnTribordI = 0b01#2 ∨
        p'.btnTribordI = 0b10#2)) := by
    rintro ⟨stby, alone⟩
    exact together ⟨stby, alone, silent, noPause⟩
  rw [Bool.eq_iff_iff]
  simp only [Ports.rings, twin.auto, twin.babord, twin.tribord, Bool.or_eq_true,
    decide_eq_true_eq]
  simp only [not_and, not_not] at notAlone
  constructor
  · rintro ((stby | stby | port | starboard) | long)
    · simp at stby
    · simp at stby
    · simp [port]
    · simp [starboard]
    · exact Or.inr long
  · rintro ((stby | stby | port | starboard) | long)
    · rcases notAlone (Or.inl stby) with h | h | h | h <;> simp [h]
    · rcases notAlone (Or.inr stby) with h | h | h | h <;> simp [h]
    · simp [port]
    · simp [starboard]
    · exact Or.inr long

theorem InPhase.pulses (phase : InPhase x y) (mine : x.Rests) (other : y.Rests)
    (razN : q.razNI = p.razNI) :
    y.re1secAtEdge q = x.re1secAtEdge p ∧ y.re05secAtEdge q = x.re05secAtEdge p := by
  constructor
  · rw [Bool.eq_iff_iff]
    unfold Regs.re1secAtEdge
    rw [Pulse.reAtEdge_iff _ _ (by decide) (by decide) mine.beep.le,
      Pulse.reAtEdge_iff _ _ (by decide) (by decide) other.beep.le, razN, phase.latches]
    by_cases beeping : x.latches.activationBip = true
    · rw [phase.oneSec beeping]
    · simp [beeping]
  · rw [Bool.eq_iff_iff]
    unfold Regs.re05secAtEdge
    rw [Pulse.reAtEdge_iff _ _ (by decide) (by decide) mine.pause.le,
      Pulse.reAtEdge_iff _ _ (by decide) (by decide) other.pause.le, razN, phase.latches]
    by_cases pausing : x.latches.attenteBip = true
    · rw [phase.zeroFiveSec pausing]
    · simp [pausing]

theorem bounded_next {N limit : Nat} {x y : Pulse.Regs N} {en : Bool} (arst arst' : Bool)
    (fits : limit < 2 ^ N) (mine : x.Bounded limit en) (other : y.Bounded limit en)
    (same : en = true → y.qn = x.qn) :
    (y.next limit arst arst' en).qn = (x.next limit arst arst' en).qn := by
  apply BitVec.eq_of_toNat_eq
  rw [Pulse.next_toNat _ _ _ fits mine.le, Pulse.next_toNat _ _ _ fits other.le]
  cases en with
  | true => rw [same rfl]
  | false =>
      have rest := mine.waiting rfl
      have rest' := other.waiting rfl
      simp only [Bool.false_eq_true, if_false]
      split_ifs <;> omega

theorem InPhase.next (phase : InPhase x y) (mine : x.Rests) (other : y.Rests)
    (fresh : Fresh p p') (twin : Twin p q) (twin' : Twin p' q') (running' : p'.razNI = true)
    (enabled : p'.enI = true) (enabled' : q'.enI = true) (together : ¬ LoneStby p p' x) :
    InPhase (x.next p p') (y.next q q') where
  latches := by
    have fresh' : Fresh q q' :=
      ⟨Or.inl twin.auto, by simpa [twin.babord, twin'.babord] using fresh.babord,
        by simpa [twin.tribord, twin'.tribord] using fresh.tribord⟩
    obtain ⟨beepEnd, pauseEnd⟩ := phase.pulses mine other twin.razN
    rw [next_latches x fresh.oneCycle running' enabled,
      next_latches y fresh'.oneCycle (twin'.razN.trans running') enabled', phase.latches, beepEnd,
      pauseEnd,
      twin'.opensChoice]
    cases pause : x.re05secAtEdge p with
    | true => rfl
    | false =>
        cases beep : x.re1secAtEdge p with
        | true => rfl
        | false =>
            cases sounding : x.latches.activationBip with
            | true => simp [Latches.step, sounding]
            | false => rw [twin'.rings together sounding pause]
  oneSec _ := by
    unfold Regs.next
    rw [twin.razN, twin'.razN, phase.latches]
    refine bounded_next _ _ (by decide) mine.beep ?_ phase.oneSec
    rw [← phase.latches]
    exact other.beep
  zeroFiveSec _ := by
    unfold Regs.next
    rw [twin.razN, twin'.razN, phase.latches]
    refine bounded_next _ _ (by decide) mine.pause ?_ phase.zeroFiveSec
    rw [← phase.latches]
    exact other.pause

end Pair

end Voilier.GestionBip
