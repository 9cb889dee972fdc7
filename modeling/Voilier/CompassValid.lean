import Voilier.BusAvalon
import Voilier.CompassRuns

/-!
# The validity bit of the compass slave

The validity bit tells the state of the mode machine.  It tells something about
the heading only once a complete pulse has gone through the three registers.
-/

set_option autoImplicit false

namespace Voilier.ConversionAdaptation

open RegisterTransfer

theorem exists_rise (sync : Nat → Bool) {a c : Nat} (before : a < c) (low : sync a = false)
    (high : sync c = true) :
    ∃ b, a ≤ b ∧ b < c ∧ sync b = false ∧ ∀ v, b < v → v ≤ c → sync v = true := by
  induction c with
  | zero => omega
  | succ c ih =>
      cases last : sync c with
      | false =>
          refine ⟨c, by omega, by omega, last, ?_⟩
          intro v after upTo
          obtain rfl : v = c + 1 := by omega
          exact high
      | true =>
          have earlier : a < c := by
            rcases Nat.eq_or_lt_of_le (Nat.le_of_lt_succ before) with rfl | earlier
            · simp [low] at last
            · exact earlier
          obtain ⟨b, after, upTo, lowest, highs⟩ := ih earlier last
          refine ⟨b, after, by omega, lowest, ?_⟩
          intro v later upTo'
          rcases Nat.eq_or_lt_of_le upTo' with rfl | inside
          · exact high
          · exact highs v later (by omega)

section Data
variable {p : Nat → Ports} {x : Nat → Regs}

theorem Follows.pulse_of_fe (follows : Follows p x) {a f : Nat}
    (before : a < f) (low : (x a).pwmSync = false) (fe : (x f).fe = true)
    (running : ∀ u, a < u → u ≤ f → (p u).razNI = true) :
    ∃ b n, a ≤ b ∧ b + 1 + n = f ∧
      Pulse (fun t => (p t).razNI) (fun t => (x t).pwmSync) b n := by
  obtain ⟨g, rfl⟩ := Nat.exists_eq_add_of_le' (show 1 ≤ f by omega)
  have edge : (x (g + 1)).pwmSync = false ∧ (x g).pwmSync = true := by
    have shown := fe
    rw [Regs.fe, follows.s] at shown
    simpa using shown
  have earlier : a < g := by
    rcases Nat.eq_or_lt_of_le (Nat.le_of_lt_succ before) with rfl | earlier
    · simp [low] at edge
    · exact earlier
  obtain ⟨b, after, upTo, lowest, highs⟩ :=
    exists_rise (fun t => (x t).pwmSync) earlier low edge.2
  refine ⟨b, g - b, after, by omega, ?_⟩
  constructor
  · omega
  · exact lowest
  · intro i lt
    exact highs (b + 1 + i) (by omega) (by omega)
  · rw [show b + 1 + (g - b) = g + 1 by omega]
    exact edge.1
  · intro i le
    exact running (b + 1 + i) (by omega) (by omega)

/-- Once a complete pulse, a refresh and an acquisition have followed each other,
`data_compas` is the heading of a complete pulse. -/
theorem Follows.compas_measured (follows : Follows p x) {t b n q a : Nat}
    (pulse : Pulse (fun t => (p t).razNI) (fun t => (x t).pwmSync) b n)
    (since : ∀ u, b < u → u ≤ t → (p u).razNI = true)
    (fallen : b + 1 + n < q) (refreshed : (x q).refresh1sec = true) (later : q < a)
    (acquired : (x a).demAcquisition = true) (past : a < t) :
    ∃ b' n', b ≤ b' ∧ b' + 1 + n' < t ∧
      Pulse (fun t => (p t).razNI) (fun t => (x t).pwmSync) b' n' ∧
      (x t).dataCompas = heading n' (x (b' + 1)).cascade.usec.toNat := by
  have running : ∀ u, b < u → u ≤ t → (!(p u).razNI) = false := by
    intro u after upTo
    simp [since u after upTo]
  -- the last acquisition, the last refresh before it, the last falling edge before that
  obtain ⟨a', fromA, lastA⟩ := exists_lastLoad (fun t => !(p t).razNI)
    (fun t => (x t).demAcquisition) past acquired
    fun v after upTo => running v (by omega) upTo
  have beforeT := (lastLoad_spec lastA).1
  obtain ⟨q', fromQ, lastQ⟩ := exists_lastLoad (fun t => !(p t).razNI)
    (fun t => (x t).refresh1sec) (show q < a' by omega) refreshed
    fun v after upTo => running v (by omega) (by omega)
  have beforeA := (lastLoad_spec lastQ).1
  obtain ⟨f, fromF, lastF⟩ := exists_lastLoad (fun t => !(p t).razNI)
    (fun t => (x t).fe) (show b + 1 + n < q' by omega) (pulse.fe follows)
    fun v after upTo => running v (by omega) (by omega)
  have beforeQ := (lastLoad_spec lastF).1
  have shown : (x t).dataCompas = (x f).degres := by
    have third := follows.compas.eq_lastLoad follows.start.compas t
    have second := follows.stable1s.eq_lastLoad follows.start.stable1s a'
    have first := follows.periode.eq_lastLoad follows.start.periode q'
    rw [lastA] at third
    rw [lastQ] at second
    rw [lastF] at first
    exact third.trans (second.trans first)
  rcases Nat.eq_or_lt_of_le fromF with rfl | again
  · exact ⟨b, n, Nat.le_refl b, by omega, pulse, shown.trans (pulse.degres_fall follows)⟩
  · obtain ⟨b', n', after, rfl, pulse'⟩ := follows.pulse_of_fe again pulse.falls
      (lastLoad_spec lastF).2.1 fun u after upTo => since u (by omega) (by omega)
    exact ⟨b', n', by omega, by omega, pulse', shown.trans (pulse'.degres_fall follows)⟩

theorem Follows.compas_source (follows : Follows p x) (t : Nat) :
    (x t).dataCompas = 0 ∨
      ∃ f q a, f < q ∧ q < a ∧ a < t ∧ (x f).fe = true ∧ (x q).refresh1sec = true ∧
        (x a).demAcquisition = true ∧ (∀ u, f ≤ u → u ≤ t → (p u).razNI = true) ∧
        (x t).dataCompas = (x f).degres := by
  have third := follows.compas.eq_lastLoad follows.start.compas t
  cases lastA : lastLoad _ _ t with
  | none =>
      rw [lastA] at third
      exact Or.inl third
  | some a =>
      rw [lastA] at third
      obtain ⟨past, acquired, running, _⟩ := lastLoad_spec lastA
      have second := follows.stable1s.eq_lastLoad follows.start.stable1s a
      cases lastQ : lastLoad _ _ a with
      | none =>
          rw [lastQ] at second
          exact Or.inl (third.trans second)
      | some q =>
          rw [lastQ] at second
          obtain ⟨later, refreshed, running', _⟩ := lastLoad_spec lastQ
          have first := follows.periode.eq_lastLoad follows.start.periode q
          cases lastF : lastLoad _ _ q with
          | none =>
              rw [lastF] at first
              exact Or.inl (third.trans (second.trans first))
          | some f =>
              rw [lastF] at first
              obtain ⟨fallen, fe, running'', _⟩ := lastLoad_spec lastF
              refine Or.inr ⟨f, q, a, fallen, later, past, fe, refreshed, acquired, ?_,
                third.trans (second.trans first)⟩
              intro u after upTo
              rcases Nat.le_total u q with early | afterQ
              · simpa using running'' u after early
              · rcases Nat.le_total u a with middle | late
                · simpa using running' u afterQ middle
                · simpa using running u late upTo

end Data

end Voilier.ConversionAdaptation

namespace Voilier.BusAvalon

open DeltaCycle

/-! ## Reads of the slave -/

section Signals
variable (wave : Nat → Ports) (t : Nat)

def razN : Bool := (run wave t).signals.control.razN

def pwmSync : Bool := (run wave t).signals.capInst.bascule.sO

def usec : Nat := (run wave t).signals.capInst.cascade.horloge.qnO.toNat

def refresh1sec : Bool := (run wave t).signals.capInst.refresh1sec

def acquisition : Bool := (run wave t).signals.capInst.defEtats.acquisitionO

def currentSt : DefEtats.State := (run wave t).signals.capInst.defEtats.currentSt

def ValidRead : Prop :=
  (wave t).addressI = 1#1 ∧ (run wave t).signals.readDataO.getLsbD 9 = true

/-- A pulse with both edges between the last release of the reset and cycle `t`. -/
structure CompletePulse (b n : Nat) : Prop extends
    ConversionAdaptation.Pulse (razN wave) (pwmSync wave) b n where
  past : b + 1 + n < t
  since : ∀ u, b < u → u ≤ t → razN wave u = true

def Measured : Prop :=
  ∃ b n, CompletePulse wave t b n ∧
    (run wave t).signals.readDataO.setWidth 9 = ConversionAdaptation.heading n (usec wave (b + 1))

/-- A complete pulse has been followed by a refresh, and that by an acquisition. -/
def Primed : Prop :=
  ∃ b n q a, CompletePulse wave t b n ∧ b + 1 + n < q ∧ refresh1sec wave q = true ∧
    q < a ∧ acquisition wave a = true ∧ a < t

/-- The word is marked invalid, or a measurement has reached it. -/
def Covered : Prop := razN wave t = false ∨ currentSt wave t = .stStopAq ∨ Primed wave t

end Signals

section Signals
variable (wave : Nat → Ports) (t : Nat)

theorem razN_eq : razN wave t = (regs wave t).control.razN := by
  rw [razN, run_eq]
  rfl

theorem pwmSync_eq : pwmSync wave t = (regs wave t).compas.pwmSync := by
  rw [pwmSync, run_eq]
  rfl

theorem usec_eq : usec wave t = (regs wave t).compas.cascade.usec.toNat := by
  rw [usec, run_eq]
  rfl

theorem refresh1sec_eq : refresh1sec wave t = (regs wave t).compas.refresh1sec := by
  rw [refresh1sec, run_eq]
  rfl

theorem acquisition_eq : acquisition wave t = (regs wave t).compas.demAcquisition := by
  rw [acquisition, run_eq]
  rfl

theorem currentSt_eq : currentSt wave t = (regs wave t).compas.defEtats.currentSt := by
  rw [currentSt, run_eq]
  rfl

end Signals

theorem follows_regs (wave : Nat → Ports) :
    ConversionAdaptation.Follows (fun t => capPorts (wave t) (regs wave t).control)
      fun t => (regs wave t).compas where
  start := ConversionAdaptation.Regs.next_cleared _ _ (Or.inl rfl)
  step t := by
    refine ⟨capPorts (wave (t + 1)) ((regs wave t).control.atEdge (wave t).toBus), ?_, rfl⟩
    intro running
    rcases @SensorControl.next_modes (wave t).toBus (wave (t + 1)).toBus (regs wave t).control with
      same | ⟨reset, -⟩
    · exact same
    · exact absurd running (Bool.eq_false_iff.mp reset)

theorem word_valid (dataValid : Bool) (dataCompas : BitVec 9) :
    (word dataValid dataCompas).getLsbD 9 = dataValid := by
  rw [word, BitVec.getLsbD_setWidth, BitVec.getLsbD_append]
  simp

theorem word_data (dataValid : Bool) (dataCompas : BitVec 9) :
    (word dataValid dataCompas).setWidth 9 = dataCompas := by
  rw [word, BitVec.setWidth_setWidth_of_le _ (by decide)]
  exact BitVec.setWidth_append_eq_right

theorem readData_eq {wave : Nat → Ports} {t : Nat} (read : (wave t).addressI = 1#1) :
    (run wave t).signals.readDataO =
      word (regs wave t).dataValid (regs wave t).compas.dataCompas := by
  rw [run_eq]
  simp [stable, AvalonSlave.readData, read]

theorem pulse_iff {wave : Nat → Ports} {b n : Nat} :
    ConversionAdaptation.Pulse (razN wave) (pwmSync wave) b n ↔
      ConversionAdaptation.Pulse (fun t => (capPorts (wave t) (regs wave t).control).razNI)
        (fun t => (regs wave t).compas.pwmSync) b n := by
  rw [show razN wave = fun t => (regs wave t).control.razN from funext (razN_eq wave),
    show pwmSync wave = fun t => (regs wave t).compas.pwmSync from funext (pwmSync_eq wave)]
  rfl

theorem Primed.measured {wave : Nat → Ports} {t : Nat} (primed : Primed wave t) :
    ∃ b n, (regs wave t).compas.dataCompas =
        ConversionAdaptation.heading n (usec wave (b + 1)) ∧ CompletePulse wave t b n := by
  obtain ⟨b, n, q, a, complete, fallen, refreshed, later, acquired, past⟩ := primed
  rw [refresh1sec_eq] at refreshed
  rw [acquisition_eq] at acquired
  have since : ∀ u, b < u → u ≤ t → (regs wave u).control.razN = true := by
    intro u after upTo
    rw [← razN_eq]
    exact complete.since u after upTo
  obtain ⟨b', n', after, past', pulse, data⟩ := (follows_regs wave).compas_measured
    (pulse_iff.mp complete.toPulse) since fallen refreshed later acquired past
  refine ⟨b', n', ?_, pulse_iff.mpr pulse, past', ?_⟩
  · rw [data, usec_eq]
  · intro u inside upTo
    rw [razN_eq]
    exact since u (by omega) upTo

theorem Primed.reads {wave : Nat → Ports} {t : Nat} (primed : Primed wave t)
    (read : (wave t).addressI = 1#1) : Measured wave t := by
  obtain ⟨b, n, data, complete⟩ := primed.measured
  refine ⟨b, n, complete, ?_⟩
  rw [readData_eq read, word_data, data]

/-- A valid read is the heading of a complete pulse once such a pulse, a refresh and
an acquisition have gone by. -/
theorem primed_read_measured {wave : Nat → Ports} {t : Nat} (valid : ValidRead wave t)
    (primed : Primed wave t) : Measured wave t :=
  primed.reads valid.1

/-- In a run that reads the slave only when it is in reset, stopped or primed, the
validity bit vouches for the heading. -/
theorem valid_reads_measured {wave : Nat → Ports}
    (covered : ∀ t, (wave t).addressI = 1#1 → Covered wave t) :
    ∀ t, ValidRead wave t → Measured wave t := by
  intro t valid
  obtain ⟨read, bit⟩ := valid
  rw [readData_eq read, word_valid] at bit
  rcases covered t read with reset | stopped | primed
  · rw [razN_eq] at reset
    simp [Regs.dataValid, DefEtats.dataValid, reset] at bit
  · rw [currentSt_eq] at stopped
    simp [Regs.dataValid, DefEtats.dataValid, stopped] at bit
  · exact primed.reads read

theorem exists_release (wave : Nat → Ports) (f : Nat) :
    ∃ r, r ≤ f ∧ razN wave r = false ∧ ∀ u, r < u → u ≤ f → razN wave u = true := by
  induction f with
  | zero =>
      refine ⟨0, Nat.le_refl 0, ?_, fun u after upTo => by omega⟩
      rw [razN_eq, regs_control]
      rfl
  | succ f ih =>
      cases now : razN wave (f + 1) with
      | false => exact ⟨f + 1, Nat.le_refl _, now, fun u after upTo => by omega⟩
      | true =>
          obtain ⟨r, before, reset, since⟩ := ih
          refine ⟨r, by omega, reset, ?_⟩
          intro u after upTo
          rcases Nat.eq_or_lt_of_le upTo with rfl | earlier
          · exact now
          · exact since u after (by omega)

/-- A falling edge that has reached the output without a complete pulse ends a
level that was high ever since the release. -/
theorem high_since_release {wave : Nat → Ports} {t r f q a : Nat} (unprimed : ¬ Primed wave t)
    (since : ∀ u, r < u → u ≤ t → razN wave u = true) (fe : (regs wave f).compas.fe = true)
    (fallen : f < q) (refreshed : (regs wave q).compas.refresh1sec = true) (later : q < a)
    (acquired : (regs wave a).compas.demAcquisition = true) (past : a < t) :
    ∀ u, r < u → u < f → pwmSync wave u = true := by
  intro u inside before
  by_contra low
  rw [pwmSync_eq, Bool.not_eq_true] at low
  obtain ⟨b, n, fromU, rfl, pulse⟩ := (follows_regs wave).pulse_of_fe before low fe
    fun v after upTo => by
      have kept := since v (by omega) (by omega)
      rwa [razN_eq] at kept
  apply unprimed
  refine ⟨b, n, q, a, ⟨pulse_iff.mpr pulse, by omega, ?_⟩, fallen, ?_, later, ?_, past⟩
  · intro v after upTo
    exact since v (by omega) upTo
  · rw [refresh1sec_eq]
    exact refreshed
  · rw [acquisition_eq]
    exact acquired

/-- The other valid reads: the word is 0, or it comes from a falling edge of a
signal that was high ever since the release. -/
theorem uncovered_reads {wave : Nat → Ports} {t : Nat} (read : (wave t).addressI = 1#1)
    (uncovered : ¬ Covered wave t) :
    ValidRead wave t ∧
      ((run wave t).signals.readDataO.setWidth 9 = 0 ∨
        ∃ r f, r < f ∧ f < t ∧ razN wave r = false ∧
          (∀ u, r < u → u < f → pwmSync wave u = true) ∧
          (run wave t).signals.readDataO.setWidth 9 = (regs wave f).compas.degres) := by
  simp only [Covered, not_or] at uncovered
  obtain ⟨running, moving, unprimed⟩ := uncovered
  rw [razN_eq] at running
  rw [currentSt_eq] at moving
  have shown := readData_eq read
  constructor
  · refine ⟨read, ?_⟩
    rw [shown, word_valid]
    cases state : (regs wave t).compas.defEtats.currentSt <;>
      simp_all [Regs.dataValid, DefEtats.dataValid]
  · rw [shown, word_data]
    rcases (follows_regs wave).compas_source t with zero | ⟨f, q, a, fallen, later, past, fe,
      refreshed, acquired, since, data⟩
    · exact Or.inl zero
    · obtain ⟨r, before, reset, release⟩ := exists_release wave f
      have after : r < f := by
        rcases Nat.eq_or_lt_of_le before with rfl | after
        · rw [razN_eq] at reset
          have kept := since r (Nat.le_refl r) (by omega)
          exact absurd kept (by simp [capPorts, reset])
        · exact after
      have since' : ∀ u, r < u → u ≤ t → razN wave u = true := by
        intro u inside upTo
        rcases Nat.le_total u f with early | late
        · exact release u inside early
        · rw [razN_eq]
          exact since u late upTo
      refine Or.inr ⟨r, f, after, by omega, reset, ?_, data⟩
      exact high_since_release unprimed since' fe fallen refreshed later acquired past

/-! ## A run that reads in time, and one that does not -/

/-- Software writes 3 in cycle 0 and reads once; the sensor gives one pulse of 10 ms. -/
def measureWave (t : Nat) : Ports :=
  ⟨⟨false, false, if t = 5000002 then 1#1 else 0#1, 3#32, decide (t = 0)⟩, decide (t < 500000)⟩

section Measure

theorem measureWave_control {t : Nat} (released : 0 < t) :
    (regs measureWave t).control = ⟨true, true, false⟩ := by
  rw [regs_control]
  refine SensorControl.sets_lastControl (w := 0) (t := t) ⟨rfl, rfl, fun _ _ _ => rfl, ?_⟩ released
    (Nat.le_refl t)
  intro u later _
  simp [AvalonSlave.Bus.accepts, measureWave, Nat.ne_of_gt later]

theorem measureWave_pwmSync (t : Nat) :
    (regs measureWave (t + 1)).compas.pwmSync = decide (t < 500000) :=
  (follows_regs measureWave).pwmSync t

theorem measureWave_defEtats {t : Nat} (settled : 3 ≤ t) :
    (regs measureWave t).compas.defEtats = ⟨.stContinu, .stContinu⟩ := by
  obtain ⟨t, rfl⟩ := Nat.exists_eq_add_of_le' settled
  induction t with
  | zero => decide
  | succ t ih =>
      have before := measureWave_control (show 0 < t + 3 by omega)
      have after := measureWave_control (show 0 < t + 4 by omega)
      change DefEtats.Regs.next (!(regs measureWave (t + 3)).control.razN)
        (!(regs measureWave (t + 4)).control.razN)
        ((regs measureWave (t + 3)).control.atEdge (measureWave (t + 3)).toBus).modes
        (regs measureWave (t + 4)).control.modes
        (regs measureWave (t + 3)).compas.defEtats = _
      rw [ih (by omega), before, after]
      rfl

theorem measureWave_sec {n : Nat} (below : n < 5000000) :
    (regs measureWave (1 + n)).compas.sec.toNat = n := by
  have counts := (follows_regs measureWave).sec
  have start : (regs measureWave 1).compas.sec.toNat = 0 := congrArg BitVec.toNat (counts 0)
  have running : ∀ i ≤ n, (!(regs measureWave (1 + i)).control.razN) = false := by
    intro i _
    simp [measureWave_control (show 0 < 1 + i by omega)]
  have wraps : ∀ t, (regs measureWave t).compas.sec.toNat ≤ 4999999 →
      (regs measureWave t).compas.refresh1sec =
        decide ((regs measureWave t).compas.sec.toNat = 4999999) := by
    intro t le
    apply decide_eq_decide.mpr
    omega
  have counted := counts.toNat_prescaler (n := n) (by decide) (fun _ => rfl) wraps start
    (by decide) running
  rw [counted, Nat.zero_add]
  exact Nat.mod_eq_of_lt below

theorem measureWave_pulse : CompletePulse measureWave 5000002 0 500000 := by
  have since : ∀ u, 0 < u → razN measureWave u = true := by
    intro u released
    rw [razN_eq, measureWave_control released]
  have synced : ∀ i, pwmSync measureWave (0 + 1 + i) = decide (i < 500000) := by
    intro i
    rw [pwmSync_eq, show 0 + 1 + i = i + 1 by omega]
    exact measureWave_pwmSync i
  refine ⟨⟨by decide, ?_, ?_, ?_, ?_⟩, by decide, ?_⟩
  · rw [pwmSync_eq]
    rfl
  · intro i lt
    rw [synced]
    exact decide_eq_true lt
  · rw [synced]
    rfl
  · intro i _
    exact since _ (by omega)
  · intro u released _
    exact since u released

theorem measureWave_primed : Primed measureWave 5000002 := by
  refine ⟨0, 500000, 1 + 4999999, 5000001, measureWave_pulse, by decide, ?_, by decide, ?_,
    by decide⟩
  · have last := measureWave_sec (n := 4999999) (by decide)
    rw [refresh1sec_eq, ConversionAdaptation.Regs.refresh1sec,
      ConversionAdaptation.isRefresh1sec, last]
    rfl
  · rw [acquisition_eq, ConversionAdaptation.Regs.demAcquisition, measureWave_defEtats (by decide)]
    rfl

theorem measureWave_valid : ValidRead measureWave 5000002 := by
  have read : (measureWave 5000002).addressI = 1#1 := rfl
  refine ⟨read, ?_⟩
  rw [readData_eq read, word_valid, Regs.dataValid, measureWave_defEtats (by decide),
    measureWave_control (by decide)]
  rfl

theorem measureWave_measured : Measured measureWave 5000002 :=
  primed_read_measured measureWave_valid measureWave_primed

end Measure

/-- Released in continuous mode, the slave is valid at once: no pulse has been
seen, and the word reads heading 0. -/
theorem valid_without_pulse :
    ¬ ∀ (wave : Nat → Ports) (t : Nat), ValidRead wave t → Measured wave t := by
  intro sound
  obtain ⟨b, n, pulse, _⟩ := sound
    (fun t => ⟨⟨false, false, if t = 0 then 0#1 else 1#1, 3#32, decide (t = 0)⟩, false⟩) 1
    ⟨rfl, by decide +kernel⟩
  have past := pulse.past
  have positive := pulse.positive
  omega

end Voilier.BusAvalon
