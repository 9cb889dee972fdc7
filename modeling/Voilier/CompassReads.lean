import Voilier.CompassHeadings
import Voilier.CompassValid

/-!
# What the compass slave lets software read

Behind the bus the compass runs as it does on its own, with the control bits that
software last wrote.  Whatever is written, no heading outside the circle is read as
long as the pulses of the sensor keep their length.
-/

set_option autoImplicit false

namespace Voilier.ConversionAdaptation

open RegisterTransfer

theorem Regs.next_via {p p₂ p' : Ports} (x : Regs)
    (agrees : modes p₂ = modes p' ∨ p'.razNI = false ∧ modes p' = ⟨false, false⟩) :
    x.next p p₂ p' = x.next p p' p' := by
  have cleared : x.defEtats.next (!p.razNI) (!p'.razNI) (modes p₂) (modes p') =
      x.defEtats.next (!p.razNI) (!p'.razNI) (modes p') (modes p') :=
    x.defEtats.next_cleared (agrees.imp_right fun both => ⟨by simp [both.1], both.2⟩)
  unfold Regs.next
  rw [cleared]

theorem degres_le {temps : BitVec 16} (short : temps.toNat ≤ 36999) :
    (ConversionDegres.degres temps).toNat ≤ 359 := by
  have whole : (50 * temps.toNat + 0) / 50 = temps.toNat := by omega
  have measured := @heading_le (50 * temps.toNat) 0 (by omega)
  rwa [heading, whole, BitVec.ofNat_toNat, BitVec.setWidth_eq] at measured

section Range
variable {p : Nat → Ports} {x : Nat → Regs}

/-- The two counters together never run ahead of the level that drives them. -/
theorem Follows.tempsMs_le (follows : Follows p x) (t : Nat) :
    50 * (x t).cascade.tempsMs.toNat + (x t).cascade.usec.toNat ≤
      highFor (fun t => (x t).pwmSync) t + 49 := by
  induction t with
  | zero =>
      rw [follows.start.cascade]
      exact Nat.zero_le _
  | succ t ih =>
      have phase := follows.usec_le t
      have phase' := follows.usec_le (t + 1)
      have temps := follows.tempsMs.toNat_succ_le t
      have usec := follows.usec.toNat_succ_le t
      simp only [CascadeCompteurs.isRstComp, decide_eq_true_eq] at temps usec
      rw [highFor]
      cases high : (x t).pwmSync with
      | false =>
          simp only [high, Bool.not_false, if_true] at temps
          omega
      | true =>
          simp only [high, Bool.not_true, Bool.false_eq_true, if_false] at temps
          simp only [if_true] at usec ⊢
          split_ifs at temps usec <;> omega

theorem Follows.degres_le (follows : Follows p x)
    (short : ∀ t, highFor (fun t => (x t).pwmSync) t ≤ 1849950) (t : Nat) :
    (x t).degres.toNat ≤ 359 := by
  have counted := follows.tempsMs_le t
  have bounded := short t
  exact ConversionAdaptation.degres_le (by omega)

theorem Follows.dataCompas_le (follows : Follows p x)
    (short : ∀ t, highFor (fun t => (x t).pwmSync) t ≤ 1849950) (t : Nat) :
    (x t).dataCompas.toNat ≤ 359 := by
  have zero : (0 : BitVec 9).toNat ≤ 359 := by decide
  have periode : ∀ t, (x t).degresStablePeriode.toNat ≤ 359 :=
    follows.periode.always (p := fun d => d.toNat ≤ 359) zero
      (by rw [follows.start.periode]; exact zero) fun t _ => follows.degres_le short t
  have stable1s : ∀ t, (x t).degresStable1s.toNat ≤ 359 :=
    follows.stable1s.always (p := fun d => d.toNat ≤ 359) zero
      (by rw [follows.start.stable1s]; exact zero) fun t _ => periode t
  exact follows.compas.always (p := fun d => d.toNat ≤ 359) zero
    (by rw [follows.start.compas]; exact zero) (fun t _ => stable1s t) t

end Range

end Voilier.ConversionAdaptation

namespace Voilier.BusAvalon

open DeltaCycle RegisterTransfer
open SensorControl (Control)

/-! ## The compass behind the bus -/

/-- The ports of the compass, had software driven its control bits. -/
def compass (wave : Nat → Ports) (t : Nat) : ConversionAdaptation.Ports :=
  capPorts { wave t with clkI := false } (lastControl wave t)

/-- A reset of the bus that meets a write changes the mode bits twice, to no effect. -/
theorem next_compas (p p' : Ports) (x : Regs) : (x.next p p').compas =
    x.compas.next (capPorts p x.control) (capPorts p' (x.control.next p.toBus p'.toBus))
      (capPorts p' (x.control.next p.toBus p'.toBus)) :=
  ConversionAdaptation.Regs.next_via x.compas SensorControl.next_modes

theorem regs_compas (wave : Nat → Ports) (t : Nat) :
    (regs wave t).compas = ConversionAdaptation.regs (compass wave) t := by
  induction t with
  | zero =>
      refine (next_compas powerUp.ports (wave 0) {}).trans ?_
      rw [show Control.next powerUp.ports.toBus (wave 0).toBus {} = _ from regs_control wave 0]
      rfl
  | succ t ih =>
      refine (next_compas (wave t) (wave (t + 1)) (regs wave t)).trans ?_
      rw [show Control.next (wave t).toBus (wave (t + 1)).toBus (regs wave t).control = _ from
        regs_control wave (t + 1), ih, regs_control]
      rfl

/-- The compass behind the bus is Conversion_Adaptation with the control bits that
software last wrote, and what software reads is its word of the cycle. -/
theorem compass_over_bus (wave : Nat → Ports) (t : Nat) :
    let s := (ConversionAdaptation.run (compass wave) t).signals
    (run wave t).signals.capInst = s ∧
      (run wave t).signals.readDataO = AvalonSlave.readData (wave t).addressI
        (word s.defEtats.dataValidO s.registre3.sO) := by
  have hosted : (run wave t).signals.capInst =
      (ConversionAdaptation.run (compass wave) t).signals := by
    rw [run_eq, ConversionAdaptation.run_eq, ← regs_compas]
    change ConversionAdaptation.stable (capPorts (wave t) (regs wave t).control) _ = _
    rw [regs_control]
    rfl
  refine ⟨hosted, ?_⟩
  rw [← hosted, run_eq]
  rfl

/-! ## The range of what is read -/

/-- No pulse of the sensor lasts longer than 36 999 microseconds. -/
def ShortPulses (wave : Nat → Ports) : Prop :=
  ∀ a, ∃ i ≤ 1849950, (wave (a + i)).pwmI = false

theorem ShortPulses.pwmSync {wave : Nat → Ports} (short : ShortPulses wave) (a : Nat) :
    ∃ i ≤ 1849950, (regs wave (a + i)).compas.pwmSync = false := by
  cases a with
  | zero => exact ⟨0, Nat.zero_le _, rfl⟩
  | succ a =>
      obtain ⟨i, inside, low⟩ := short a
      refine ⟨i, inside, ?_⟩
      rw [Nat.add_right_comm]
      exact ((follows_regs wave).pwmSync (a + i)).trans low

theorem reads_inside_circle {wave : Nat → Ports} (short : ShortPulses wave) (t : Nat) :
    ((run wave t).signals.readDataO.setWidth 9).toNat ≤ 359 := by
  have bounded := (follows_regs wave).dataCompas_le (highFor_le short.pwmSync) t
  rw [run_eq]
  change ((AvalonSlave.readData (wave t).addressI
    (word _ (regs wave t).compas.dataCompas)).setWidth 9).toNat ≤ _
  unfold AvalonSlave.readData
  split_ifs
  · rw [word_data]
    exact bounded
  · decide

theorem measureWave_short : ShortPulses measureWave := by
  intro a
  refine ⟨500000, by omega, ?_⟩
  simp [measureWave]

theorem measureWave_inside :
    (measureWave 5000002).addressI = 1#1 ∧
      ((run measureWave 5000002).signals.readDataO.setWidth 9).toNat ≤ 359 :=
  ⟨rfl, reads_inside_circle measureWave_short 5000002⟩

end Voilier.BusAvalon
