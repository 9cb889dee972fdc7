import Voilier.BusAvalonF2
import Voilier.VentWindows
import Voilier.DefEtatsRequests

/-!
# What the anemometer slave lets software read

The word is the count of a window, two registers later: one loaded when a window
closes and one opened by the mode machine.  Whatever software writes, what it reads is
the count of one whole window, or 0.
-/

set_option autoImplicit false

namespace Voilier.ConversionVitesseVent

open DeltaCycle RegisterTransfer

/-- The rising edges of the signal in a window that opens with cycle `a`, but for its
closing cycle. -/
def windowCount (freq : Nat → Bool) (a : Nat) : Nat :=
  Nat.count (fun i => (freq (a + i) && !freq (a + i - 1)) = true) countedCycles

/-- A measurement window that opens with cycle `a`, at the end of the reset or of the window
before, and that `rst_comp` closes. -/
structure Window (razN rstComp : Nat → Bool) (a : Nat) : Prop where
  opens : ∃ b, a = b + 1 ∧ (razN b = false ∨ rstComp b = true)
  lasts : ∀ i < countedCycles, rstComp (a + i) = false
  closes : rstComp (a + countedCycles) = true
  running : ∀ i ≤ countedCycles, razN (a + i) = true

/-- The count of the last window to close, with no reset since it opened; or 0, where none
has closed since the last reset. -/
def Fresh (razN rstComp freq : Nat → Bool) (t : Nat) (data : BitVec 8) : Prop :=
  (data = 0 ∧ ∃ v ≤ t, t ≤ v + windowCycles ∧ razN v = false ∧
      ∀ u, v ≤ u → u < t → rstComp u = false) ∨
    ∃ a, Window razN rstComp a ∧ a + countedCycles < t ∧ t ≤ a + countedCycles + windowCycles ∧
      (∀ u, a + countedCycles < u → u < t → rstComp u = false) ∧
      (∀ u, a ≤ u → u ≤ t → razN u = true) ∧ data = BitVec.ofNat 8 (windowCount freq a)

section Registers
variable {p : Ports} {wave : Nat → Ports} {x : Regs}

theorem run_cleared (inReset : p.razNI = false) : (x.run p wave 0).Cleared :=
  x.next_cleared (Or.inl inReset)

theorem run_reFreq (t : Nat) : (x.run p wave (t + 1)).reFreq (wave (t + 1)) =
    ((wave (t + 1)).inFreqAnemometreI && !(wave t).inFreqAnemometreI) := rfl

theorem run_sec_le (inReset : p.razNI = false) (t : Nat) :
    (x.run p wave t).sec.toNat ≤ countedCycles := by
  refine (run_sec (p := p) (x := x)).toNat_le (fun t le => ?_) ?_ t
  · apply decide_eq_decide.mpr
    exact ⟨Nat.le_antisymm le, Nat.le_of_eq ∘ Eq.symm⟩
  · rw [(run_cleared inReset).sec]
    exact Nat.zero_le _

theorem run_sec_small (inReset : p.razNI = false) (t : Nat) :
    (x.run p wave t).sec.toNat + 1 < 2 ^ 26 :=
  Nat.lt_of_le_of_lt (Nat.succ_le_succ (run_sec_le inReset t)) (by decide)

theorem run_rstComp_reset (inReset : p.razNI = false) {t : Nat} (reset : (wave t).razNI = false) :
    (x.run p wave t).rstComp = false := by
  have cleared : (x.run p wave t).sec = 0 := by
    cases t with
    | zero => exact (run_cleared inReset).sec
    | succ t => exact (run_sec t).trans (if_pos (by simp [reset]))
  simp [Regs.rstComp, isRstComp, cleared]

theorem opened_nbr (inReset : p.razNI = false) {a : Nat} (opened : (x.run p wave a).sec = 0) :
    (x.run p wave a).nbrReBySec = 0 :=
  run_sec.zero_together run_nbr (fun _ => rfl) (run_sec_small inReset)
    (run_cleared inReset).nbr opened

theorem opened_by (inReset : p.razNI = false) (held : (wave 0).razNI = false) {a : Nat}
    (opened : (x.run p wave a).sec = 0) (running : (wave a).razNI = true) :
    ∃ b, a = b + 1 ∧ ((wave b).razNI = false ∨ (x.run p wave b).rstComp = true) := by
  cases a with
  | zero =>
      rw [running] at held
      exact absurd held (by decide)
  | succ b =>
      have cause := run_sec.reset_of_zero (fun _ => rfl) (run_sec_small inReset b) opened
      exact ⟨b, rfl, by simpa [running] using cause⟩

theorem closing_nbr (inReset : p.razNI = false) (held : (wave 0).razNI = false) {c : Nat}
    (closing : (x.run p wave c).rstComp = true) :
    ∃ a, c = a + countedCycles ∧
      Window (fun t => (wave t).razNI) (fun t => (x.run p wave t).rstComp) a ∧
      (x.run p wave c).nbrReBySec =
        BitVec.ofNat 8 (windowCount (fun t => (wave t).inFreqAnemometreI) a) := by
  have full : (x.run p wave c).sec.toNat = countedCycles :=
    Nat.le_antisymm (run_sec_le inReset c) (of_decide_eq_true closing)
  obtain ⟨a, rfl, opened, free, running⟩ := (run_sec (p := p) (x := x)).counted_since
    (fun _ => rfl) (run_cleared inReset).sec full
  have runs : ∀ i ≤ countedCycles, (wave (a + i)).razNI = true := by
    intro i le
    simpa using running (by decide) i le
  have opens := opened_by inReset held opened (runs 0 (Nat.zero_le _))
  refine ⟨a, rfl, ⟨opens, free, closing, runs⟩, BitVec.eq_of_toNat_eq ?_⟩
  have counted := (run_nbr (p := p) (x := x)).toNat_eq_count
    (p := by
    intro i
    exact ((wave (a + i)).inFreqAnemometreI && !(wave (a + i - 1)).inFreqAnemometreI) = true)
      (fun i _ => by
        obtain ⟨b, rfl, -⟩ := opens
        rw [show b + 1 + i = b + i + 1 by omega, run_reFreq]
        rfl)
      (opened_nbr inReset opened) (fun i le => by simp [runs i le]) free
  rw [counted, BitVec.toNat_ofNat, windowCount]

/-- In every cycle the captured count is that of the last window to close, unless a reset
is more recent. -/
theorem fresh_data1s (inReset : p.razNI = false) (held : (wave 0).razNI = false) (t : Nat) :
    Fresh (fun t => (wave t).razNI) (fun t => (x.run p wave t).rstComp)
      (fun t => (wave t).inFreqAnemometreI) t (x.run p wave t).dataAnemometre1s := by
  have sane := @run_sec_le p wave x inReset t
  obtain ⟨a, age, opened, free, running⟩ := (run_sec (p := p) (x := x)).counted_since
    (fun _ => rfl) (run_cleared inReset).sec (w := t) rfl
  generalize (x.run p wave t).sec.toNat = n at age free running sane
  have runs : 0 < n → ∀ i ≤ n, (wave (a + i)).razNI = true := by
    intro positive i le
    simpa using running positive i le
  have kept : (x.run p wave t).dataAnemometre1s = (x.run p wave a).dataAnemometre1s := by
    rcases Nat.eq_zero_or_pos n with rfl | positive
    · rw [age, Nat.add_zero]
    · rw [age]
      exact run_data1s.kept (fun i le => by simp [runs positive i le]) free
  have still : ∀ u, a ≤ u → u < t → (x.run p wave u).rstComp = false := by
    intro u after before
    obtain ⟨i, rfl⟩ := Nat.exists_eq_add_of_le after
    exact free i (by omega)
  have whole : windowCycles = countedCycles + 1 := rfl
  rw [kept]
  cases a with
  | zero =>
      exact Or.inl ⟨(run_cleared inReset).data1s, 0, Nat.zero_le t, by omega, held, still⟩
  | succ b =>
      have loads := @run_data1s p wave x b
      by_cases reset : ((!(wave (b + 1)).razNI) || !(wave b).razNI) = true
      · refine Or.inl ⟨loads.trans (if_pos reset), ?_⟩
        rcases Bool.or_eq_true_iff.mp reset with now | before
        · exact ⟨b + 1, by omega, by omega, by simpa using now, still⟩
        · refine ⟨b, by omega, by omega, by simpa using before, fun u after upTo => ?_⟩
          rcases Nat.eq_or_lt_of_le after with rfl | later
          · exact run_rstComp_reset inReset (by simpa using before)
          · exact still u later upTo
      · have cause := run_sec.reset_of_zero (fun _ => rfl) (run_sec_small inReset b) opened
        have closing : (x.run p wave b).rstComp = true := by
          simpa [reset] using cause
        obtain ⟨a, rfl, window, counted⟩ := closing_nbr inReset held closing
        have captured : (x.run p wave (a + countedCycles + 1)).dataAnemometre1s =
            (x.run p wave (a + countedCycles)).nbrReBySec :=
          (loads.trans (if_neg reset)).trans (if_pos closing)
        refine Or.inr ⟨a, window, by omega, by omega, still, fun u after upTo => ?_,
          captured.trans counted⟩
        obtain ⟨i, rfl⟩ := Nat.exists_eq_add_of_le after
        rcases Nat.lt_trichotomy i (countedCycles + 1) with early | rfl | late
        · exact window.running i (by omega)
        · simp only [Bool.or_eq_true, not_or, Bool.not_eq_true, Bool.not_eq_false'] at reset
          exact reset.1
        · obtain ⟨j, rfl⟩ := Nat.exists_eq_add_of_lt late
          rw [show a + (countedCycles + 1 + j + 1) = a + countedCycles + 1 + (j + 1) by omega]
          exact runs (by omega) (j + 1) (by omega)

theorem data_source (inReset : p.razNI = false) (held : (wave 0).razNI = false) (t : Nat) :
    (x.run p wave t).dataAnemometre = 0 ∨
      ∃ a, Window (fun t => (wave t).razNI) (fun t => (x.run p wave t).rstComp) a ∧
        a + countedCycles + 1 < t ∧ (∀ u, a ≤ u → u ≤ t → (wave u).razNI = true) ∧
        (x.run p wave t).dataAnemometre =
          BitVec.ofNat 8 (windowCount (fun t => (wave t).inFreqAnemometreI) a) := by
  have shown := (@run_data p wave x).eq_lastLoad (run_cleared inReset).data t
  cases last : lastLoad (fun t => !(wave t).razNI) (fun t => (x.run p wave t).demAcquisition) t with
  | none =>
      rw [last] at shown
      exact Or.inl shown
  | some q =>
      rw [last] at shown
      obtain ⟨before, -, running, -⟩ := lastLoad_spec last
      rcases fresh_data1s (x := x) inReset held q with ⟨none, -⟩ | ⟨a, window, closed, -, -, since,
        count⟩
      · exact Or.inl (shown.trans none)
      · refine Or.inr ⟨a, window, by omega, fun u after upTo => ?_, shown.trans count⟩
        rcases Nat.le_total u q with early | late
        · exact since u after early
        · simpa using running u late upTo

end Registers

/-! ## Continuous mode -/

/-- The first `n + 1` cycles after a reset, in continuous mode. -/
structure Continues (p : Ports) (wave : Nat → Ports) (n : Nat) : Prop where
  reset : p.razNI = false
  running : ∀ t ≤ n, (wave t).razNI = true
  continuous : ∀ t ≤ n, modes (wave t) = ⟨true, false⟩

section Continues
variable {p : Ports} {wave : Nat → Ports} {x : Regs} {n : Nat}

/-- Whatever the latch held at the release, the machine is back in continuous mode after
four cycles. -/
theorem Continues.currentSt (continues : Continues p wave n) {t : Nat} (le : t + 4 ≤ n) :
    (x.run p wave (t + 4)).defEtats.currentSt = .stContinu :=
  DefEtats.continu_of_steps (x := fun t => (x.run p wave t).defEtats) (fun _ => rfl)
    (fun u le => by simp [continues.running u le]) continues.continuous le

theorem Continues.rstComp_iff (continues : Continues p wave n) {t : Nat} (le : t ≤ n) :
    (x.run p wave t).rstComp = true ↔ (t + 1) % windowCycles = 0 :=
  run_rstComp continues.reset fun u before => continues.running u (Nat.le_trans before le)

theorem Continues.arst (continues : Continues p wave n) {t : Nat} (le : t ≤ n) :
    (!(wave t).razNI) = false := by
  simp [continues.running t le]

theorem Continues.window_nbr (continues : Continues p wave n) {j : Nat} {rises : Nat → Prop}
    [DecidablePred rises] (le : j * windowCycles + countedCycles ≤ n)
    (pins : ∀ i < countedCycles, (x.run p wave (j * windowCycles + i)).reFreq
      (wave (j * windowCycles + i)) = true ↔ rises i) :
    (x.run p wave (j * windowCycles + countedCycles)).nbrReBySec =
      BitVec.ofNat 8 (Nat.count rises countedCycles) := by
  have opened : (x.run p wave (j * windowCycles)).nbrReBySec = 0 :=
    run_nbr.window_start (run_cleared continues.reset).nbr
      fun t (before : t < j * windowCycles) => continues.rstComp_iff (by omega)
  have free : ∀ i < countedCycles, (x.run p wave (j * windowCycles + i)).rstComp = false := by
    intro i before
    have closes := (continues.rstComp_iff (x := x) (t := j * windowCycles + i) (by omega)).not.mpr
      ((mod_window j (Nat.le_of_lt before)).not.mpr (Nat.ne_of_lt before))
    simpa using closes
  have counted := (run_nbr (p := p) (x := x)).toNat_eq_count pins opened
    (fun i inside => continues.arst (by omega)) free
  apply BitVec.eq_of_toNat_eq
  rw [counted, BitVec.toNat_ofNat]

theorem Continues.data1s (continues : Continues p wave n) {j i : Nat} (inside : i < windowCycles)
    (le : (j + 1) * windowCycles + i ≤ n) :
    (x.run p wave ((j + 1) * windowCycles + i)).dataAnemometre1s =
      (x.run p wave (j * windowCycles + countedCycles)).nbrReBySec := by
  have whole : windowCycles = countedCycles + 1 := rfl
  have closing : (j + 1) * windowCycles = j * windowCycles + countedCycles + 1 := by
    rw [Nat.succ_mul]
    omega
  have closes : (j * windowCycles + countedCycles + 1) % windowCycles = 0 :=
    (mod_window j (Nat.le_refl _)).mpr rfl
  have captured : (x.run p wave ((j + 1) * windowCycles)).dataAnemometre1s =
      (x.run p wave (j * windowCycles + countedCycles)).nbrReBySec := by
    generalize j * windowCycles + countedCycles = c at closing closes
    rw [closing]
    exact run_data1s.loaded (continues.arst (by omega)) (continues.arst (by omega))
      ((continues.rstComp_iff (by omega)).mpr closes)
  refine Eq.trans (run_data1s.kept (fun i' _ => continues.arst (by omega)) fun i' before => ?_)
    captured
  have closes := (continues.rstComp_iff (x := x) (t := (j + 1) * windowCycles + i')
    (by omega)).not.mpr ((mod_window (j + 1) (by omega)).not.mpr (by omega))
  simpa using closes

theorem Continues.data1s_first (continues : Continues p wave n) {t : Nat}
    (first : t < windowCycles) (le : t ≤ n) : (x.run p wave t).dataAnemometre1s = 0 := by
  have kept := (@run_data1s p wave x).kept (a := 0) (n := t)
    (fun i le' => continues.arst (by omega)) fun i before => by
      have closes := (continues.rstComp_iff (x := x) (t := 0 + i) (by omega)).not.mpr
        (by rw [Nat.mod_eq_of_lt (by omega)]; omega)
      simpa using closes
  rw [Nat.zero_add] at kept
  exact kept.trans (run_cleared continues.reset).data1s

theorem Continues.data (continues : Continues p wave n) {t : Nat} (late : 4 ≤ t) (le : t + 1 ≤ n) :
    (x.run p wave (t + 1)).dataAnemometre = (x.run p wave t).dataAnemometre1s := by
  obtain ⟨t, rfl⟩ := Nat.exists_eq_add_of_le' late
  refine run_data.loaded (continues.arst (by omega)) (continues.arst le) ?_
  rw [Regs.demAcquisition, continues.currentSt (by omega)]
  rfl

theorem Continues.data_first (continues : Continues p wave n) {t : Nat}
    (first : t ≤ windowCycles) (le : t ≤ n) : (x.run p wave t).dataAnemometre = 0 := by
  induction t with
  | zero => exact (run_cleared continues.reset).data
  | succ t ih =>
      have captured := continues.data1s_first (x := x) (t := t) (by omega) (by omega)
      have before := ih (by omega) (by omega)
      refine (run_data t).trans ?_
      simp only [captured, before, ite_self]

end Continues

end Voilier.ConversionVitesseVent

namespace Voilier.BusAvalonF2

open DeltaCycle RegisterTransfer
open ConversionVitesseVent (windowCount countedCycles windowCycles Continues)
open SensorControl (controlBits WritesRequest)

/-! ## Reads of the slave -/

theorem word_data (dataValid : Bool) (dataAnemometre : BitVec 8) :
    (word dataValid dataAnemometre).setWidth 8 = dataAnemometre := by
  rw [word, BitVec.setWidth_setWidth_of_le _ (by decide)]
  exact BitVec.setWidth_append_eq_right

theorem word_valid (dataValid : Bool) (dataAnemometre : BitVec 8) :
    (word dataValid dataAnemometre).getLsbD 8 = dataValid := by
  rw [word, BitVec.getLsbD_setWidth, BitVec.getLsbD_append]
  simp

theorem readData_eq {wave : Nat → Ports} {t : Nat} (read : (wave t).addressI = 1#1) :
    (run wave t).signals.readDataO =
      word (regs wave t).dataValid (regs wave t).vent.dataAnemometre := by
  rw [run_eq]
  simp [stable, AvalonSlave.readData, read]

section Signals
variable (wave : Nat → Ports) (t : Nat)

def razN : Bool := (run wave t).signals.control.razN

def rstComp : Bool := (run wave t).signals.anemometreInst.rstComp

theorem razN_eq : razN wave t = (lastControl wave t).razN := by
  rw [razN, run_eq, ← regs_control]
  rfl

theorem rstComp_eq : rstComp wave t =
    (ConversionVitesseVent.Regs.run ConversionVitesseVent.powerUp.ports (vent wave) {}
      t).rstComp := by
  rw [rstComp, run_eq, ← regs_vent]
  rfl

end Signals

/-- Whatever is written, and whenever, the data that software reads are 0 or the count of
one whole window, with no reset since it opened. -/
theorem reads_windows (wave : Nat → Ports) (t : Nat) :
    (run wave t).signals.readDataO.setWidth 8 = 0 ∨
      ∃ a, ConversionVitesseVent.Window (razN wave) (rstComp wave) a ∧
        a + countedCycles + 1 < t ∧ (∀ u, a ≤ u → u ≤ t → razN wave u = true) ∧
        (run wave t).signals.readDataO.setWidth 8 =
          BitVec.ofNat 8 (windowCount (fun t => (wave t).freqI) a) := by
  by_cases read : (wave t).addressI.toNat = 0x01
  · have shown : (run wave t).signals.readDataO.setWidth 8 = (regs wave t).vent.dataAnemometre := by
      rw [run_eq]
      simp [stable, AvalonSlave.readData, read, word_data]
    rw [shown, regs_vent, show razN wave = _ from funext (razN_eq wave),
      show rstComp wave = _ from funext (rstComp_eq wave)]
    exact ConversionVitesseVent.data_source rfl rfl t
  · left
    rw [run_eq]
    simp [stable, AvalonSlave.readData, read]

/-- Software ends a reset of the anemometer and enters continuous mode with the write of
cycle `w`, and nothing is written up to cycle `t`. -/
structure WritesContinuous (wave : Nat → Ports) (w t : Nat) : Prop where
  resetting : (lastControl wave w).razN = false
  enters : AvalonSlave.Sets controlBits (fun t => (wave t).toBus) ⟨true, true, false⟩ w t

section Continuous
variable {wave : Nat → Ports} {w n : Nat}

theorem WritesContinuous.control (continuous : WritesContinuous wave w (w + 1 + n)) {i : Nat}
    (le : i ≤ n) : lastControl wave (w + 1 + i) = ⟨true, true, false⟩ :=
  SensorControl.sets_lastControl continuous.enters (by omega) (by omega)

theorem WritesContinuous.continues (continuous : WritesContinuous wave w (w + 1 + n)) :
    Continues (vent wave w) (fun i => vent wave (w + 1 + i)) n := by
  refine ⟨continuous.resetting, fun i le => ?_, fun i le => ?_⟩
  · change (lastControl wave (w + 1 + i)).razN = true
    rw [continuous.control le]
  · change (lastControl wave (w + 1 + i)).modes = _
    rw [continuous.control le]
    rfl

theorem regs_after (wave : Nat → Ports) (w i : Nat) : (regs wave (w + 1 + i)).vent =
    (regs wave w).vent.run (vent wave w) (fun i => vent wave (w + 1 + i)) i := by
  rw [regs_vent, regs_vent]
  exact runRegs_add _ _ _ _ w i

theorem reFreq_pins (wave : Nat → Ports) (t : Nat) :
    (regs wave (t + 1)).vent.reFreq (vent wave (t + 1)) =
      ((wave (t + 1)).freqI && !(wave t).freqI) := by
  rw [regs_vent]
  exact ConversionVitesseVent.run_reFreq t

theorem WritesContinuous.dataValid (continuous : WritesContinuous wave w (w + 1 + n))
    (late : 4 ≤ n) : (regs wave (w + 1 + n)).dataValid = true := by
  obtain ⟨m, rfl⟩ := Nat.exists_eq_add_of_le' late
  have state := continuous.continues.currentSt (x := (regs wave w).vent) (Nat.le_refl (m + 4))
  rw [← regs_after] at state
  rw [Regs.dataValid, regs_control, continuous.control (Nat.le_refl (m + 4)), state]
  rfl

theorem WritesContinuous.count (continuous : WritesContinuous wave w (w + 1 + n)) {j i : Nat}
    (inside : i < windowCycles) (now : n = (j + 1) * windowCycles + i + 1) :
    (regs wave (w + 1 + n)).vent.dataAnemometre =
      BitVec.ofNat 8 (windowCount (fun t => (wave t).freqI) (w + 1 + j * windowCycles)) := by
  have whole : windowCycles = countedCycles + 1 := rfl
  have several : 4 ≤ windowCycles := by decide
  have closing : (j + 1) * windowCycles = j * windowCycles + windowCycles := Nat.succ_mul _ _
  have continues := continuous.continues
  rw [regs_after, now, continues.data (by omega) (by omega), continues.data1s inside (by omega),
    windowCount]
  refine continues.window_nbr (by omega) fun i' _ => ?_
  generalize j * windowCycles = b
  rw [← regs_after, show w + 1 + (b + i') = w + b + i' + 1 by omega,
    show w + 1 + b + i' = w + b + i' + 1 by omega, reFreq_pins, Nat.add_sub_cancel]

/-- In continuous mode software reads the count of the last window to close, from the
cycle after the next on, and 0 before the first one closes. -/
theorem continuous_reads (continuous : WritesContinuous wave w (w + 1 + n))
    (read : (wave (w + 1 + n)).addressI = 1#1) (late : 4 ≤ n) :
    (n ≤ windowCycles → (run wave (w + 1 + n)).signals.readDataO = word true 0) ∧
      ∀ j i, i < windowCycles → n = (j + 1) * windowCycles + i + 1 →
        (run wave (w + 1 + n)).signals.readDataO = word true
          (BitVec.ofNat 8 (windowCount (fun t => (wave t).freqI) (w + 1 + j * windowCycles))) := by
  rw [readData_eq read, continuous.dataValid late]
  constructor
  · intro first
    rw [regs_after, continuous.continues.data_first first (Nat.le_refl n)]
  · intro j i inside now
    rw [continuous.count inside now]

end Continuous

/-- Software writes 3 in cycle 0 and reads from then on. -/
def continuousWave (t : Nat) : Ports :=
  ⟨⟨false, false, if t = 0 then 0 else 1, 3, decide (t = 0)⟩, decide (t % 2 = 1)⟩

theorem continuousWave_writes (t : Nat) : WritesContinuous continuousWave 0 t where
  resetting := rfl
  enters :=
    { accepts := rfl
      bits := rfl
      running := fun _ _ _ => rfl
      idle := fun u later _ => by
        simp [AvalonSlave.Bus.accepts, continuousWave, Nat.ne_of_gt later] }

theorem continuousWave_reads :
    (run continuousWave (0 + 1 + (windowCycles + 1))).signals.readDataO = word true
      (BitVec.ofNat 8
        (windowCount (fun t => (continuousWave t).freqI) (0 + 1 + 0 * windowCycles))) :=
  (continuous_reads (continuousWave_writes _) (if_neg (by omega)) (by decide)).2 0 0 (by decide)
    (by omega)

/-! ## Start/stop mode -/

theorem regs_latched (wave : Nat → Ports) (t : Nat) :
    (regs wave t).vent.defEtats.Latched (lastControl wave t).modes := by
  rw [← regs_control]
  cases t with
  | zero => exact DefEtats.Regs.next_latched _ _ _ _
  | succ t => exact DefEtats.Regs.next_latched _ _ _ _

theorem regs_settled (wave : Nat → Ports) (t : Nat) :
    (regs wave t).vent.defEtats.Settled (lastControl wave t).modes := by
  rw [← regs_control]
  exact (implements.run_wf powerUp_wf wave t).vent.settled

section Request
variable {wave : Nat → Ports} {v w t : Nat}

theorem requested (request : WritesRequest (fun t => (wave t).toBus) v w t) :
    DefEtats.Requested (fun u => !(lastControl wave u).razN) (fun u => (lastControl wave u).modes)
      (fun u => (regs wave u).vent.defEtats) v w t := by
  refine request.requested (regs_latched wave) (regs_settled wave) fun u => ?_
  change _ = DefEtats.Regs.next (!(lastControl wave u).razN) (!(lastControl wave (u + 1)).razN)
    (lastControl wave (u + 1)).modes (lastControl wave (u + 1)).modes (regs wave u).vent.defEtats
  rw [← regs_control, ← regs_control]
  rfl

/-- The output keeps the count of the acquisition for as long as the request stands. -/
theorem delivered (request : WritesRequest (fun t => (wave t).toBus) v w t) {u : Nat}
    (late : w + 3 ≤ u) (upTo : u ≤ t) :
    (regs wave u).vent.dataAnemometre = (regs wave (w + 2)).vent.dataAnemometre1s := by
  have apart := request.apart
  have running : ∀ u, v < u → u ≤ t → (!(lastControl wave u).razN) = false := by
    intro u after upTo
    simp [lastControl, request.running after upTo]
  obtain ⟨d, rfl⟩ := Nat.exists_eq_add_of_le late
  have loads := @ConversionVitesseVent.run_data ConversionVitesseVent.powerUp.ports (vent wave) {}
  simp only [← regs_vent] at loads
  have loaded := loads.loaded (t := w + 2) (running _ (by omega) (by omega))
    (running _ (by omega) (by omega)) (by
      rw [ConversionVitesseVent.Regs.demAcquisition, (requested request).acquires (by omega)]
      rfl)
  have kept := loads.kept (a := w + 3) (n := d) (fun i le => running _ (by omega) (by omega))
    fun i before => by
      rw [ConversionVitesseVent.Regs.demAcquisition,
        (requested request).waits (u := w + 3 + i) (by omega) (by omega)]
      rfl
  exact kept.trans loaded

/-- A request over the bus: until it is made the word is marked invalid; three cycles
after it, and for as long as it stands, software reads one valid count, that of the window
that closed last before the acquisition. -/
theorem request_reads (request : WritesRequest (fun t => (wave t).toBus) v w t)
    (served : w + 2 ≤ t) :
    let data := (run wave (w + 2)).signals.anemometreInst.registre.sO
    ConversionVitesseVent.Fresh (razN wave) (rstComp wave) (fun t => (wave t).freqI) (w + 2) data ∧
      (∀ u, v + 3 ≤ u → u ≤ w + 1 → (wave u).addressI = 1#1 →
        (run wave u).signals.readDataO.getLsbD 8 = false) ∧
      ∀ u, w + 3 ≤ u → u ≤ t → (wave u).addressI = 1#1 →
        (run wave u).signals.readDataO = word true data := by
  have captured : (run wave (w + 2)).signals.anemometreInst.registre.sO =
      (regs wave (w + 2)).vent.dataAnemometre1s := by
    rw [run_eq]
    rfl
  rw [captured]
  refine ⟨?_, fun u after upTo read => ?_, fun u late upTo read => ?_⟩
  · rw [regs_vent, show razN wave = _ from funext (razN_eq wave),
      show rstComp wave = _ from funext (rstComp_eq wave)]
    exact ConversionVitesseVent.fresh_data1s rfl rfl (w + 2)
  · rw [readData_eq read, word_valid, Regs.dataValid,
      (requested request).rests after upTo (by omega)]
    rfl
  · have valid : (regs wave u).dataValid = true := by
      rw [Regs.dataValid, regs_control, lastControl, request.asked (by omega) upTo,
        (requested request).waits late upTo]
      rfl
    rw [readData_eq read, valid, delivered request late upTo]

end Request

/-- Software writes 1 in cycle 0 and 5 in cycle 700 000, after the first window, and reads
from then on; the signal has a period of two cycles. -/
def requestWave (t : Nat) : Ports :=
  ⟨⟨false, false, if t ≤ 700000 then 0 else 1, if t = 0 then 1 else 5,
    decide (t = 0 ∨ t = 700000)⟩, decide (t % 2 = 1)⟩

theorem requestWave_idle {u : Nat} (first : u ≠ 0) (second : u ≠ 700000) :
    (requestWave u).accepts = false := by
  simp [AvalonSlave.Bus.accepts, requestWave, first, second]

theorem requestWave_writes (t : Nat) :
    WritesRequest (fun t => (requestWave t).toBus) 0 700000 t where
  stops := ⟨rfl, rfl, fun _ _ _ => rfl, fun _ later before =>
    requestWave_idle (Nat.ne_of_gt later) (Nat.ne_of_lt before)⟩
  asks := ⟨rfl, rfl, fun _ _ _ => rfl, fun u later _ =>
    requestWave_idle (by omega) (Nat.ne_of_gt later)⟩
  apart := by decide

/-- Every second of the 499 999 cycles has an edge, modulo 256. -/
theorem requestWave_count :
    BitVec.ofNat 8 (windowCount (fun t => (requestWave t).freqI) 1) = 144 := by
  have even : ∀ i, ((requestWave (1 + i)).freqI && !(requestWave (1 + i - 1)).freqI) = true ↔
      (1 + i) % (1 + 1) = 1 := by
    intro i
    simp only [requestWave, Nat.add_sub_cancel_left, Bool.and_eq_true, decide_eq_true_eq,
      Bool.not_eq_true', decide_eq_false_iff_not]
    omega
  have counted : windowCount (fun t => (requestWave t).freqI) 1 = 250000 := by
    unfold windowCount
    simp only [even]
    rw [count_wraps (Nat.le_refl 1)]
    rfl
  rw [counted]
  rfl

theorem requestWave_razN {u : Nat} (late : 0 < u) (upTo : u ≤ 700010) :
    razN requestWave u = true := by
  rw [razN_eq]
  exact (requestWave_writes 700010).running late upTo

theorem requestWave_window {a : Nat}
    (window : ConversionVitesseVent.Window (razN requestWave) (rstComp requestWave) a)
    (closed : a + countedCycles < 700002) : a = 1 := by
  have whole : countedCycles = 499999 := rfl
  obtain ⟨b, rfl, reset | closing⟩ := window.opens
  · have first : ¬ 0 < b := fun late => by
      simp [requestWave_razN late (by omega)] at reset
    omega
  · rw [rstComp_eq] at closing
    obtain ⟨a', before, -⟩ := ConversionVitesseVent.closing_nbr rfl rfl closing
    omega

theorem requestWave_reads :
    (run requestWave 700010).signals.readDataO = word true 144 := by
  obtain ⟨fresh, -, reads⟩ := request_reads (requestWave_writes 700010) (by decide)
  refine (reads 700010 (by decide) (Nat.le_refl _) rfl).trans (congrArg (word true) ?_)
  rcases fresh with ⟨-, v, upTo, recent, reset, -⟩ | ⟨a, window, closed, -, -, -, count⟩
  · have late : 700002 ≤ v + 500000 := recent
    have released := requestWave_razN (u := v) (by omega) (by omega)
    exact absurd reset (by simp [released])
  · obtain rfl := requestWave_window window closed
    exact count.trans requestWave_count

end Voilier.BusAvalonF2
