import Voilier.CompassReads
import Voilier.CompassModes

/-!
# The compass against its sensor

One refresh after the first complete pulse software reads valid headings only, between
those of the shortest and of the longest pulse, in either mode and whatever the phases of
the pulses, of the microsecond and of the refresh.
-/

set_option autoImplicit false

namespace Voilier.ConversionAdaptation

open RegisterTransfer

/-- Every complete pulse lasts between `least` and `most` cycles. -/
def Lasts (pwm : Nat → Bool) (least most : Nat) : Prop :=
  ∀ b n, Pulse (fun _ => true) pwm b n → least ≤ n ∧ n ≤ most

/-- The heading of a pulse of `n` cycles that begins with a microsecond. -/
def degresOf (n : Nat) : Nat := (n / 50 - 1000) / 100

theorem degresOf_mono {n n' : Nat} (le : n ≤ n') : degresOf n ≤ degresOf n' := by
  unfold degresOf
  have grows : n / 50 ≤ n' / 50 := Nat.div_le_div_right le
  exact Nat.div_le_div_right (by omega)

theorem lasts_pulseTrain {period high phase : Nat} (notAll : high < period) :
    Lasts (pulseTrain period high phase) high high := by
  intro b n pulse
  have some : 0 < high := Nat.lt_of_le_of_lt (Nat.zero_le _)
    (of_decide_eq_true (pulse.high 0 pulse.positive))
  have rises := (pulseTrain_rises some notAll b).mp (by
    rw [pulse.low]
    exact congrArg (· && true) (pulse.high 0 pulse.positive))
  -- the pulse begins where the train does
  have level : ∀ i < period, pulseTrain period high phase (b + 1 + i) = decide (i < high) := by
    intro i inside
    unfold pulseTrain
    rw [← Nat.add_assoc, Nat.add_mod, rises, Nat.zero_add, Nat.mod_mod, Nat.mod_eq_of_lt inside]
  have upTo : n ≤ high := by
    by_contra longer
    have still := pulse.high high (by omega)
    rw [level high notAll] at still
    exact absurd (of_decide_eq_true still) (Nat.lt_irrefl high)
  have longEnough := pulse.falls
  rw [level n (by omega), decide_eq_false_iff_not, Nat.not_lt] at longEnough
  exact ⟨longEnough, upTo⟩

/-- The phase of the microsecond is worth one degree at most. -/
theorem heading_between {n usec : Nat} (phase : usec ≤ 49) (long : 50000 ≤ n)
    (short : n ≤ 1849950) :
    degresOf n ≤ (heading n usec).toNat ∧ (heading n usec).toNat ≤ min (degresOf n + 1) 359 := by
  have counted : n / 50 ≤ (n + usec) / 50 ∧ (n + usec) / 50 ≤ n / 50 + 1 := by omega
  have last : (n + usec) / 50 ≤ 36999 := by omega
  rw [heading_exact (by omega) (by omega), degresOf]
  omega

theorem Regs.refresh_wraps (x : Regs) (le : x.sec.toNat ≤ 4999999) :
    x.refresh1sec = decide (x.sec.toNat = 4999999) := by
  apply decide_eq_decide.mpr
  exact ⟨Nat.le_antisymm le, Nat.le_of_eq ∘ Eq.symm⟩

section Sensor
variable {p : Nat → Ports} {x : Nat → Regs}

theorem Follows.refreshes (follows : Follows p x) {f : Nat}
    (running : ∀ i ≤ 5000000, (p (f + i)).razNI = true) :
    ∃ q, f < q ∧ q ≤ f + 5000000 ∧ (x q).refresh1sec = true := by
  have start : (x 0).sec.toNat ≤ 4999999 := by
    rw [follows.start.sec]
    exact Nat.zero_le _
  have phase := follows.sec.toNat_le (fun t => (x t).refresh_wraps) start (f + 1)
  have wraps := follows.sec.wraps_iff (a := f + 1) (n := 4999999 - (x (f + 1)).sec.toNat)
    (by decide) (fun _ => rfl) (fun t => (x t).refresh_wraps) rfl phase fun i le => by
      rw [Nat.add_right_comm]
      simp [running (i + 1) (by omega), Nat.add_assoc]
  refine ⟨f + 1 + (4999999 - (x (f + 1)).sec.toNat), by omega, by omega, wraps.mpr ?_⟩
  rw [Nat.add_sub_cancel' phase]

theorem Follows.pulse_iff (follows : Follows p x) {b n : Nat}
    (running : ∀ i ≤ n, (p (b + 2 + i)).razNI = true) :
    Pulse (fun t => (p t).razNI) (fun t => (x t).pwmSync) (b + 1) n ↔
      Pulse (fun _ => true) (fun t => (p t).inPwmCompasI) b n := by
  have seen := follows.pwmSync
  have later : ∀ i, (x (b + 1 + 1 + i)).pwmSync = (p (b + 1 + i)).inPwmCompasI := fun i => by
    rw [show b + 1 + 1 + i = b + 1 + i + 1 by omega, seen]
  constructor
  · rintro ⟨positive, low, high, falls, -⟩
    simp only [seen, later] at low high falls
    exact ⟨positive, low, high, falls, fun _ _ => rfl⟩
  · rintro ⟨positive, low, high, falls, -⟩
    refine ⟨positive, ?_, ?_, ?_, running⟩
    · simpa only [seen] using low
    · simpa only [later] using high
    · simpa only [later] using falls

/-- A refresh and an acquisition after a complete pulse the output is a heading of the
sensor. -/
theorem Follows.compas_between (follows : Follows p x) {least most b n t : Nat}
    (lasts : Lasts (fun t => (p t).inPwmCompasI) least most) (long : 50000 ≤ least)
    (short : most ≤ 1849950) (pulse : Pulse (fun _ => true) (fun t => (p t).inPwmCompasI) b n)
    (running : ∀ u, b + 1 < u → u ≤ t + 1 → (p u).razNI = true)
    (acquired : (x t).demAcquisition = true) (late : b + n + 5000003 ≤ t) :
    degresOf least ≤ (x (t + 1)).dataCompas.toNat ∧
      (x (t + 1)).dataCompas.toNat ≤ min (degresOf most + 1) 359 := by
  have synced := (follows.pulse_iff fun i le =>
    running (b + 2 + i) (by omega) (by omega)).mpr pulse
  obtain ⟨q, after, upTo, refreshed⟩ := follows.refreshes (f := b + 1 + 1 + n)
    fun i le => running _ (by omega) (by omega)
  obtain ⟨b', n', from_b, past, pulse', data⟩ := follows.compas_measured synced running after
    refreshed (show q < t by omega) acquired (Nat.lt_succ_self t)
  obtain ⟨c, rfl⟩ := Nat.exists_eq_add_of_le' (show 1 ≤ b' by omega)
  have pins := (follows.pulse_iff fun i le =>
    running (c + 2 + i) (by omega) (by omega)).mp pulse'
  obtain ⟨atLeast, atMost⟩ := lasts c n' pins
  have measured := @heading_between n' _ (follows.usec_le (c + 1 + 1)) (by omega) (by omega)
  rw [data]
  exact ⟨Nat.le_trans (degresOf_mono atLeast) measured.1,
    Nat.le_trans measured.2 (min_le_min_right 359 (Nat.succ_le_succ (degresOf_mono atMost)))⟩

end Sensor

end Voilier.ConversionAdaptation

namespace Voilier.BusAvalon

open DeltaCycle RegisterTransfer
open ConversionAdaptation (Lasts Pulse degresOf)
open SensorControl (controlBits WritesRequest)

/-- Software sets continuous mode with the write of cycle `w`, and nothing else is written
up to cycle `t`. -/
def WritesContinuous (wave : Nat → Ports) (w t : Nat) : Prop :=
  AvalonSlave.Sets controlBits (fun t => (wave t).toBus) ⟨true, true, false⟩ w t

section Continuous
variable {wave : Nat → Ports} {w t : Nat}

theorem WritesContinuous.control (continuous : WritesContinuous wave w t) {u : Nat}
    (after : w < u) (upTo : u ≤ t) : lastControl wave u = ⟨true, true, false⟩ :=
  SensorControl.sets_lastControl continuous after upTo

theorem WritesContinuous.currentSt (continuous : WritesContinuous wave w t) {u : Nat}
    (late : w + 5 ≤ u) (upTo : u ≤ t) :
    (regs wave u).compas.defEtats.currentSt = .stContinu := by
  obtain ⟨i, rfl⟩ := Nat.exists_eq_add_of_le late
  have settled := DefEtats.continu_of_steps (n := i + 4) (t := i)
    (x := fun i => (ConversionAdaptation.regs (compass wave) (w + 1 + i)).defEtats)
    (i := fun i => (lastControl wave (w + 1 + i)).modes) (fun _ => rfl)
    (fun i' le => by
      change (!(lastControl wave (w + 1 + i')).razN) = false
      rw [continuous.control (by omega) (by omega)]
      rfl)
    (fun i' le => by
      rw [continuous.control (by omega) (by omega)]
      rfl) (Nat.le_refl _)
  rw [regs_compas, show w + 5 + i = w + 1 + (i + 4) by omega]
  exact settled

/-- In continuous mode, and from one refresh after the first complete pulse on, what
software reads is valid and between the headings of the shortest and of the longest
pulse of the sensor, but for the degree that the phase of the microsecond is worth. -/
theorem tracks_sensor {least most b n : Nat} (lasts : Lasts (fun t => (wave t).pwmI) least most)
    (long : 50000 ≤ least) (short : most ≤ 1849950) (continuous : WritesContinuous wave w t)
    (pulse : Pulse (fun _ => true) (fun t => (wave t).pwmI) b n) (begins : w ≤ b)
    (late : b + n + 5000004 ≤ t) (read : (wave t).addressI = 1#1) :
    ∃ data, (run wave t).signals.readDataO = word true data ∧
      degresOf least ≤ data.toNat ∧ data.toNat ≤ min (degresOf most + 1) 359 := by
  obtain ⟨t, rfl⟩ := Nat.exists_eq_add_of_le' (show 1 ≤ t by omega)
  have running : ∀ u, b + 1 < u → u ≤ t + 1 →
      (capPorts (wave u) (regs wave u).control).razNI = true := by
    intro u after upTo
    rw [regs_control, continuous.control (by omega) upTo]
    rfl
  have acquired : (regs wave t).compas.demAcquisition = true := by
    rw [ConversionAdaptation.Regs.demAcquisition, continuous.currentSt (by omega) (by omega)]
    rfl
  have valid : (regs wave (t + 1)).dataValid = true := by
    rw [Regs.dataValid, regs_control, continuous.control (by omega) (Nat.le_refl _),
      continuous.currentSt (by omega) (Nat.le_refl _)]
    rfl
  have measured := (follows_regs wave).compas_between lasts long short pulse
    running acquired (by omega)
  refine ⟨(regs wave (t + 1)).compas.dataCompas, ?_, measured⟩
  rw [readData_eq read, valid]

end Continuous

section Request
variable {wave : Nat → Ports} {v w t : Nat}

theorem requested (request : WritesRequest (fun t => (wave t).toBus) v w t) :
    DefEtats.Requested (fun u => !(lastControl wave u).razN) (fun u => (lastControl wave u).modes)
      (fun u => (regs wave u).compas.defEtats) v w t := by
  have alone : ∀ u, (regs wave u).compas.defEtats =
      (ConversionAdaptation.regs (compass wave) u).defEtats := by
    intro u
    rw [regs_compas]
  simp only [alone]
  apply request.requested
  · exact @ConversionAdaptation.regs_latched (compass wave)
  · exact fun u => (ConversionAdaptation.regs_wf (compass wave) u).settled
  · exact fun _ => rfl

theorem delivered (request : WritesRequest (fun t => (wave t).toBus) v w t) {u : Nat}
    (late : w + 3 ≤ u) (upTo : u ≤ t) :
    (regs wave u).compas.dataCompas = (regs wave (w + 3)).compas.dataCompas := by
  have apart := request.apart
  obtain ⟨d, rfl⟩ := Nat.exists_eq_add_of_le late
  refine (follows_regs wave).compas.kept (a := w + 3) (n := d) (fun i le => ?_) fun i before => ?_
  · change (!(regs wave (w + 3 + i)).control.razN) = false
    rw [regs_control, lastControl, request.running (by omega) (by omega)]
    rfl
  · rw [ConversionAdaptation.Regs.demAcquisition,
      (requested request).waits (u := w + 3 + i) (by omega) (by omega)]
    rfl

/-- In start/stop mode, and from one refresh after the first complete pulse on, a request is
answered by one such heading: three cycles after it, and for as long as it stands. -/
theorem answers_request {least most b n : Nat} (lasts : Lasts (fun t => (wave t).pwmI) least most)
    (long : 50000 ≤ least) (short : most ≤ 1849950)
    (request : WritesRequest (fun t => (wave t).toBus) v w t)
    (pulse : Pulse (fun _ => true) (fun t => (wave t).pwmI) b n)
    (running : ∀ u, b + 1 < u → u ≤ v → (lastControl wave u).razN = true)
    (late : b + n + 5000001 ≤ w) (served : w + 3 ≤ t) :
    ∃ data : BitVec 9, (degresOf least ≤ data.toNat ∧ data.toNat ≤ min (degresOf most + 1) 359) ∧
      ∀ u, w + 3 ≤ u → u ≤ t → (wave u).addressI = 1#1 →
        (run wave u).signals.readDataO = word true data := by
  have since : ∀ u, b + 1 < u → u ≤ w + 2 + 1 →
      (capPorts (wave u) (regs wave u).control).razNI = true := by
    intro u after upTo
    change (regs wave u).control.razN = true
    rw [regs_control]
    rcases Nat.lt_or_ge v u with stopped | before
    · exact request.running stopped (by omega)
    · exact running u after before
  have acquired : (regs wave (w + 2)).compas.demAcquisition = true := by
    rw [ConversionAdaptation.Regs.demAcquisition, (requested request).acquires (by omega)]
    rfl
  have measured := (follows_regs wave).compas_between lasts long short pulse since acquired
    (by omega)
  refine ⟨(regs wave (w + 3)).compas.dataCompas, measured, fun u late upTo read => ?_⟩
  have valid : (regs wave u).dataValid = true := by
    rw [Regs.dataValid, regs_control, lastControl, request.asked (by omega) upTo,
      (requested request).waits late upTo]
    rfl
  rw [readData_eq read, valid, delivered request late upTo]

end Request

/-! ## A sensor that stands still -/

/-- Every 20 ms the sensor gives a pulse of 10 ms; software writes `first` in cycle 0 and
`second` in cycle `w`, and reads in between and after. -/
def turnWave (first second : BitVec 32) (w t : Nat) : Ports :=
  ⟨⟨false, false, if t = 0 ∨ t = w then 0#1 else 1#1, if t = 0 then first else second,
    decide (t = 0 ∨ t = w)⟩, pulseTrain 1000000 500000 0 t⟩

section Turn
variable {first second : BitVec 32} {w : Nat}

theorem turnWave_lasts : Lasts (fun t => (turnWave first second w t).pwmI) 500000 500000 :=
  ConversionAdaptation.lasts_pulseTrain (by decide)

theorem turnWave_pulse :
    Pulse (fun _ => true) (fun t => (turnWave first second w t).pwmI) 999999 500000 where
  positive := by decide
  low := rfl
  high i inside := decide_eq_true (by omega)
  falls := rfl
  running _ _ := rfl

theorem turnWave_first {t : Nat} (le : t ≤ w) : AvalonSlave.Sets controlBits
    (fun t => (turnWave first second w t).toBus) (controlBits first) 0 t where
  accepts := rfl
  bits := rfl
  running _ _ _ := rfl
  idle u later before := by
    simp [AvalonSlave.Bus.accepts, turnWave, Nat.ne_of_gt later,
      Nat.ne_of_lt (Nat.lt_of_lt_of_le before le)]

theorem turnWave_second (positive : 0 < w) (t : Nat) : AvalonSlave.Sets controlBits
    (fun t => (turnWave first second w t).toBus) (controlBits second) w t where
  accepts := by simp [AvalonSlave.Bus.accepts, turnWave]
  bits := by simp [turnWave, Nat.ne_of_gt positive]
  running _ _ _ := rfl
  idle u later _ := by
    simp [AvalonSlave.Bus.accepts, turnWave, Nat.ne_of_gt later,
      Nat.ne_of_gt (Nat.lt_trans positive later)]

end Turn

theorem turnWave_tracks :
    ∃ data, (run (turnWave 3 3 9000000) 6500003).signals.readDataO = word true data ∧
      90 ≤ data.toNat ∧ data.toNat ≤ 91 :=
  tracks_sensor turnWave_lasts (by decide) (by decide)
    (turnWave_first (w := 9000000) (by decide)) (turnWave_pulse (w := 9000000)) (by decide)
    (by decide) rfl

theorem turnWave_answers :
    ∃ data : BitVec 9, (90 ≤ data.toNat ∧ data.toNat ≤ 91) ∧
      ∀ u, 7000000 + 3 ≤ u → u ≤ 8000000 → (turnWave 1 5 7000000 u).addressI = 1#1 →
        (run (turnWave 1 5 7000000) u).signals.readDataO = word true data :=
  answers_request turnWave_lasts (by decide) (by decide)
    ⟨turnWave_first (Nat.le_refl _), turnWave_second (by decide) 8000000, by decide⟩ turnWave_pulse
    (fun u later before => by omega) (by decide) (by decide)

end Voilier.BusAvalon
