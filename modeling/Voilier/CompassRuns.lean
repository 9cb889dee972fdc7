import Voilier.ConversionAdaptation
import Voilier.RegisterTransfer

/-!
# Runs of the compass

What a pulse of `pwm_sync` leaves in the registers of Conversion_Adaptation.  The
results hold of the compass on its own and behind the bus: a run is any sequence
of registers that advances by `Regs.next`.
-/

set_option autoImplicit false

namespace Voilier.ConversionAdaptation

open DeltaCycle RegisterTransfer

/-- The ports and the registers of a compass, cycle by cycle. -/
structure Follows (p : Nat → Ports) (x : Nat → Regs) : Prop where
  start : (x 0).Cleared
  step : ∀ t, ∃ p₂ : Ports, ((p (t + 1)).razNI = true → modes p₂ = modes (p (t + 1))) ∧
    x (t + 1) = (x t).next (p t) p₂ (p (t + 1))

/-- `sync` is low in cycle `b`, high in the `n` cycles that follow and low in the
next one, all of it without a reset. -/
structure Pulse (razN sync : Nat → Bool) (b n : Nat) : Prop where
  positive : 0 < n
  low : sync b = false
  high : ∀ i < n, sync (b + 1 + i) = true
  falls : sync (b + 1 + n) = false
  running : ∀ i ≤ n, razN (b + 1 + i) = true

/-- The heading of a pulse of `n` cycles that begins at phase `usec` of the
microsecond. -/
def heading (n usec : Nat) : BitVec 9 :=
  ConversionDegres.degres (BitVec.ofNat 16 ((n + usec) / 50))

section Registers
variable {p : Nat → Ports} {x : Nat → Regs}

/-- Every register advances as `Regs.next` says. -/
theorem Follows.advance {α : Type} (follows : Follows p x) (register : Regs → α) {value : α}
    {t : Nat} (advances : ∀ p₂, register ((x t).next (p t) p₂ (p (t + 1))) = value) :
    register (x (t + 1)) = value := by
  obtain ⟨p₂, _, step⟩ := follows.step t
  rw [step]
  exact advances p₂

theorem Follows.pwmSync (follows : Follows p x) (t : Nat) :
    (x (t + 1)).pwmSync = (p t).inPwmCompasI :=
  follows.advance Regs.pwmSync fun _ => rfl

theorem Follows.s (follows : Follows p x) (t : Nat) : (x (t + 1)).s = (x t).pwmSync :=
  follows.advance Regs.s fun _ => rfl

theorem Follows.periode (follows : Follows p x) :
    Loads 0 (fun t => !(p t).razNI) (fun t => (x t).fe) (fun t => (x t).degres)
      fun t => (x t).degresStablePeriode :=
  fun _ => follows.advance Regs.degresStablePeriode fun _ => Registre.afterCycle

theorem Follows.stable1s (follows : Follows p x) :
    Loads 0 (fun t => !(p t).razNI) (fun t => (x t).refresh1sec)
      (fun t => (x t).degresStablePeriode) fun t => (x t).degresStable1s :=
  fun _ => follows.advance Regs.degresStable1s fun _ => Registre.afterCycle

theorem Follows.compas (follows : Follows p x) :
    Loads 0 (fun t => !(p t).razNI) (fun t => (x t).demAcquisition)
      (fun t => (x t).degresStable1s) fun t => (x t).dataCompas :=
  fun _ => follows.advance Regs.dataCompas fun _ => Registre.afterCycle

theorem Follows.tempsMs (follows : Follows p x) :
    Counts (fun t => !(p t).razNI) (fun t => !(x t).pwmSync)
      (fun t => CascadeCompteurs.isRstComp (x t).cascade.usec)
      fun t => (x t).cascade.tempsMs :=
  fun _ => follows.advance (fun x => x.cascade.tempsMs) fun _ => Counter.afterCycle

theorem Follows.usec (follows : Follows p x) :
    Counts (fun t => !(p t).razNI) (fun t => CascadeCompteurs.isRstComp (x t).cascade.usec)
      (fun _ => true) fun t => (x t).cascade.usec :=
  fun _ => follows.advance (fun x => x.cascade.usec) fun _ => Counter.afterCycle

theorem Follows.sec (follows : Follows p x) :
    Counts (fun t => !(p t).razNI) (fun t => (x t).refresh1sec) (fun _ => true)
      fun t => (x t).sec :=
  fun _ => follows.advance Regs.sec fun _ => Counter.afterCycle

theorem Follows.usec_le (follows : Follows p x) (t : Nat) : (x t).cascade.usec.toNat ≤ 49 := by
  apply follows.usec.toNat_le
  · intro t _
    rfl
  · simp [follows.start.cascade]

end Registers

section Measure
variable {p : Nat → Ports} {x : Nat → Regs} {b n : Nat}

/-- In the cycle of the falling edge the time counter holds the microseconds that
ended during the pulse. -/
theorem Pulse.tempsMs_fall (follows : Follows p x)
    (pulse : Pulse (fun t => (p t).razNI) (fun t => (x t).pwmSync) b n) :
    (x (b + 1 + n)).cascade.tempsMs =
      BitVec.ofNat 16 ((n + (x (b + 1)).cascade.usec.toNat) / 50) := by
  have running : ∀ i ≤ n, (!(p (b + 1 + i)).razNI) = false := by
    intro i le
    simp [pulse.running i le]
  have phase := follows.usec_le (b + 1)
  have start : (x (b + 1)).cascade.tempsMs = 0 := by
    have low := pulse.low
    simp [follows.tempsMs b, low]
  have wraps : ∀ i < n, CascadeCompteurs.isRstComp (x (b + 1 + i)).cascade.usec = true ↔
      ((x (b + 1)).cascade.usec.toNat + i) % (49 + 1) = 49 := by
    intro i lt
    have residue := follows.usec.toNat_prescaler (a := b + 1) (n := i) (by decide) (fun _ => rfl)
      (fun _ _ => rfl) rfl phase fun j le => running j (by omega)
    simp [CascadeCompteurs.isRstComp, residue]
  have counted := follows.tempsMs.toNat_eq_count wraps start running fun i lt => by
    simp [pulse.high i lt]
  rw [count_wraps phase] at counted
  apply BitVec.eq_of_toNat_eq
  rw [counted, BitVec.toNat_ofNat]

theorem Pulse.fe (follows : Follows p x)
    (pulse : Pulse (fun t => (p t).razNI) (fun t => (x t).pwmSync) b n) :
    (x (b + 1 + n)).fe = true := by
  obtain ⟨m, rfl⟩ := Nat.exists_eq_add_of_le' pulse.positive
  have falls := pulse.falls
  have high := pulse.high m (by omega)
  have before := follows.s (b + 1 + m)
  rw [show b + 1 + (m + 1) = b + 1 + m + 1 by omega] at falls ⊢
  simp [Regs.fe, falls, before, high]

theorem Pulse.degres_fall (follows : Follows p x)
    (pulse : Pulse (fun t => (p t).razNI) (fun t => (x t).pwmSync) b n) :
    (x (b + 1 + n)).degres = heading n (x (b + 1)).cascade.usec.toNat := by
  unfold Regs.degres heading
  rw [pulse.tempsMs_fall follows]

theorem Pulse.loaded (follows : Follows p x)
    (pulse : Pulse (fun t => (p t).razNI) (fun t => (x t).pwmSync) b n)
    (running : (p (b + 1 + n + 1)).razNI = true) :
    (x (b + 1 + n + 1)).degresStablePeriode = heading n (x (b + 1)).cascade.usec.toNat := by
  have loads := follows.periode (b + 1 + n)
  have now := pulse.running n (Nat.le_refl n)
  simp only [running, now, pulse.fe follows, pulse.degres_fall follows] at loads
  exact loads

end Measure

end Voilier.ConversionAdaptation
