import Voilier.CompassModes
import Voilier.VentWindows

/-!
# Start/stop mode

Once out of continuous mode the output of either sensor moves only when
def_etats acquires, whatever happens upstream.
-/

set_option autoImplicit false

namespace Voilier

open DeltaCycle RegisterTransfer
open DefEtats (State Paced acquisition)

/-- A stretch of `n + 1` cycles: from its second one on the output changes only at
an edge that ends an acquisition, and between two acquisitions there is an edge
with `start_stop_i` at 0. -/
structure Frozen {α : Type} (n : Nat) (startStop : Nat → Bool) (st : Nat → State)
    (output : Nat → α) : Prop where
  still : ∀ t, 1 ≤ t → t < n → output (t + 1) ≠ output t → st t = .stAcquisition
  once : ∀ t t', t < t' → t' ≤ n → st t = .stAcquisition → st t' = .stAcquisition →
    ∃ k, t < k ∧ k < t' ∧ startStop k = false

/-- An output register opened by `acquisition_o`. -/
theorem frozen_of_paced {α : Type} {zero : α} {n : Nat} {startStop arst : Nat → Bool}
    {st : Nat → State} {input output : Nat → α} (paced : Paced n startStop st)
    (loads : Loads zero arst (fun t => acquisition (st t)) input output)
    (running : ∀ t ≤ n, arst t = false) : Frozen n startStop st output := by
  constructor
  · intro t positive lt changes
    have single := paced.ne_continu positive (Nat.le_of_lt lt)
    by_contra idle
    apply changes
    rw [loads t, running t (by omega), running (t + 1) lt]
    simp [acquisition, single, idle]
  · intro t t' order le acquires acquires'
    exact paced.withdrawn order le acquires acquires'

/-! ## The two sensors -/

section Sensors
variable {n : Nat}

theorem compass_frozen {s : DeltaCycle.Snapshot ConversionAdaptation.Ports
      ConversionAdaptation.Signals}
    (reached : ConversionAdaptation.entity.Reachable ConversionAdaptation.powerUp s)
    (wave : Nat → ConversionAdaptation.Ports)
    (stretch : ∀ t ≤ n, (wave t).razNI = true ∧ (wave t).continuI = false) :
    Frozen n (fun t => (wave t).startStopI)
      (fun t => (ConversionAdaptation.entity.run s wave t).signals.defEtats.currentSt)
      fun t => (ConversionAdaptation.entity.run s wave t).signals.registre3.sO := by
  obtain ⟨x, wf, eq⟩ := ConversionAdaptation.implements.reachable
    ConversionAdaptation.powerUp_wf reached
  have settled := (ConversionAdaptation.implements.run_wf wf wave 0).settled
  have running : ∀ t ≤ n, (!(wave t).razNI) = false := by
    intro t le
    simp [stretch t le]
  rw [eq]
  simp only [ConversionAdaptation.implements.run_eq wf]
  apply frozen_of_paced _ (fun _ => Registre.afterCycle) running
  exact DefEtats.paced_of_steps (i := fun t => ConversionAdaptation.modes (wave t))
    (x.defEtats.next_latched _ _ _) settled (fun _ => rfl) running fun t le => (stretch t le).2

theorem anemometer_frozen {s : DeltaCycle.Snapshot ConversionVitesseVent.Ports
      ConversionVitesseVent.Signals}
    (reached : ConversionVitesseVent.entity.Reachable ConversionVitesseVent.powerUp s)
    (wave : Nat → ConversionVitesseVent.Ports)
    (stretch : ∀ t ≤ n, (wave t).razNI = true ∧ (wave t).continuI = false) :
    Frozen n (fun t => (wave t).startStopI)
      (fun t => (ConversionVitesseVent.entity.run s wave t).signals.defEtats.currentSt)
      fun t => (ConversionVitesseVent.entity.run s wave t).signals.registre3.sO := by
  obtain ⟨x, wf, eq⟩ := ConversionVitesseVent.reachable_stable reached
  have settled := (ConversionVitesseVent.implements.run_wf wf wave 0).settled
  have running : ∀ t ≤ n, (!(wave t).razNI) = false := by
    intro t le
    simp [stretch t le]
  rw [eq]
  simp only [ConversionVitesseVent.run_from wf]
  apply frozen_of_paced _ (fun _ => Registre.afterCycle) running
  exact DefEtats.paced_of_steps (i := fun t => ConversionVitesseVent.modes (wave t))
    (x.defEtats.next_latched _ _ _) settled (fun _ => rfl) running fun t le => (stretch t le).2

end Sensors

/-- Both sensors freeze their output in start/stop mode and acquire once for each
request, from any reachable state. -/
theorem outputs_frozen (n : Nat) :
    (∀ s, ConversionAdaptation.entity.Reachable ConversionAdaptation.powerUp s →
        ∀ wave : Nat → ConversionAdaptation.Ports,
          (∀ t ≤ n, (wave t).razNI = true ∧ (wave t).continuI = false) →
          Frozen n (fun t => (wave t).startStopI)
            (fun t => (ConversionAdaptation.entity.run s wave t).signals.defEtats.currentSt)
            fun t => (ConversionAdaptation.entity.run s wave t).signals.registre3.sO) ∧
      ∀ s, ConversionVitesseVent.entity.Reachable ConversionVitesseVent.powerUp s →
        ∀ wave : Nat → ConversionVitesseVent.Ports,
          (∀ t ≤ n, (wave t).razNI = true ∧ (wave t).continuI = false) →
          Frozen n (fun t => (wave t).startStopI)
            (fun t => (ConversionVitesseVent.entity.run s wave t).signals.defEtats.currentSt)
            fun t => (ConversionVitesseVent.entity.run s wave t).signals.registre3.sO :=
  ⟨fun _ reached => compass_frozen reached, fun _ reached => anemometer_frozen reached⟩

/-! ## Two requests -/

/-- Requests of one cycle in cycles `m` and `m + 3`. -/
def twice (m t : Nat) : Bool := decide (t = m ∨ t = m + 3)

/-- Both requests are acquired, and the first one brings a new value. -/
structure Answers {α : Type} (st : Nat → State) (output : Nat → α) (old new : α) : Prop where
  first : st 1 = .stAcquisition
  second : st 4 = .stAcquisition
  before : output 1 = old
  after : output 2 = new

section TwoRequests
variable {m : Nat}

theorem twice_quiet {t : Nat} (before : t < m) : twice m t = false := decide_eq_false (by omega)

theorem twice_acquires {n : Nat} {st : Nat → State} (paced : Paced n (twice (m + 1)) st)
    (start : st 0 = .stContinu) (le : m + 6 ≤ n) :
    st (m + 2) = .stAcquisition ∧ st (m + 5) = .stAcquisition := by
  have stopped : st (m + 1) = .stStopAq := by
    apply paced.rests start (by omega)
    intro u le
    exact twice_quiet (by omega)
  have first : st (m + 2) = .stAcquisition := by
    rw [paced (m + 1) (by omega), stopped, twice, decide_eq_true (Or.inl rfl)]
    rfl
  have waits := paced.after_acquisition (t := m + 2) (by omega) first
  refine ⟨first, (paced.acquires_iff (t := m + 3) (by omega)).mpr ⟨?_, ?_, ?_⟩⟩
  · exact decide_eq_false (by omega)
  · exact decide_eq_true (Or.inr (by omega))
  · rw [waits]
    decide

end TwoRequests

section Compass
open ConversionAdaptation

def compassWave (m : Nat) : Nat → Ports := pulseRun false (twice (m + 1))

/-- The compass from cycle `m + 1` on. -/
def compass (m t : Nat) : Signals :=
  (entity.run (run (compassWave m) m) (fun t => compassWave m (m + 1 + t)) t).signals

variable {m : Nat}

theorem compass_eq (t : Nat) :
    compass m t = stable (compassWave m (m + 1 + t)) (regs (compassWave m) (m + 1 + t)) := by
  rw [compass, run, ← run_add, ← run, run_eq]

theorem compass_answers (refreshed : 4999998 ≤ m) (soon : m + 2 ≤ 4999999 + 5000000) :
    Answers (fun t => (compass m t).defEtats.currentSt) (fun t => (compass m t).registre3.sO)
      0 133 := by
  have paced : Paced (m + 6) (twice (m + 1)) fun t => (regs (compassWave m) t).defEtats.currentSt :=
    pulseRun_paced _ _
  obtain ⟨first, second⟩ := twice_acquires paced rfl (Nat.le_refl _)
  have opened : (regs (compassWave m) (m + 2)).demAcquisition = true := by
    rw [Regs.demAcquisition, first]
    rfl
  have unread : (regs (compassWave m) (1 + (m + 1))).dataCompas = 0 :=
    pulseRun_unread fun _ => twice_quiet
  simp only [compass_eq]
  refine ⟨first, second, ?_, ?_⟩
  · rw [Nat.add_comm] at unread
    exact unread
  · exact (opened_compas opened rfl).trans (pulseRun_stable1s false _ (by omega) soon)

end Compass

section Anemometer
open ConversionVitesseVent

/-- A wind with a single edge. -/
def ventWave (m t : Nat) : Ports := ⟨false, true, decide (100 ≤ t), false, twice (m + 1) t⟩

/-- The anemometer from cycle `m + 1` on. -/
def anemometer (m t : Nat) : Signals :=
  (entity.run (entity.run powerUp (ventWave m) m) (fun t => ventWave m (m + 1 + t)) t).signals

variable {m : Nat}

def ventRegs (m : Nat) : Nat → Regs := Regs.run powerUp.ports (ventWave m) {}

theorem anemometer_eq (t : Nat) :
    anemometer m t = stable (ventWave m (m + 1 + t)) (ventRegs m (m + 1 + t)) := by
  rw [anemometer, ← run_add]
  exact congrArg Snapshot.signals (run_from powerUp_wf (ventWave m) (m + 1 + t))

theorem ventRegs_paced (n : Nat) :
    Paced n (twice (m + 1)) fun t => (ventRegs m t).defEtats.currentSt :=
  DefEtats.paced_of_steps (i := fun t => modes (ventWave m t))
    (DefEtats.Regs.next_latched _ _ _ _) (implements.run_wf powerUp_wf (ventWave m) 0).settled
    (fun _ => rfl) (fun _ _ => rfl) fun _ _ => rfl

/-- The first window has captured the edge. -/
theorem ventRegs_data1s : (ventRegs m windowCycles).dataAnemometre1s = 1 := by
  have once := @edges_once (ventWave m) 100 (fun _ => rfl) (by decide)
  have quiet : reFreq powerUp (ventWave m) (0 * windowCycles + countedCycles) = false := by
    rw [reFreq_once (a := 100) (fun _ => rfl) (by decide)]
    decide
  have inside : 0 * windowCycles ≤ 100 ∧ 100 < 0 * windowCycles + windowCycles := by decide
  have captured := @captured_window powerUp (ventWave m) .powerUp rfl 0 (fun _ _ => rfl)
    (by rw [once]; decide)
  rw [once, if_pos inside, quiet, if_neg Bool.false_ne_true, Nat.add_zero, Nat.zero_add,
    Nat.one_mul] at captured
  have shown : ∀ t, dataAnemometre1s powerUp (ventWave m) t =
      (ventRegs m t).dataAnemometre1s.toNat := fun t =>
    congrArg (fun s => s.signals.registre.sO.toNat) (run_from powerUp_wf (ventWave m) t)
  rw [shown] at captured
  exact BitVec.eq_of_toNat_eq captured

theorem ventRegs_unread : (ventRegs m (1 + (m + 1))).dataAnemometre = 0 := by
  have loads := @run_data powerUp.ports (ventWave m) {}
  refine (loads.kept (a := 1) (n := m + 1) (fun _ _ => rfl) fun i lt => ?_).trans rfl
  have stopped : (ventRegs m (i + 1)).defEtats.currentSt = .stStopAq := by
    apply (ventRegs_paced (i + 1)).rests rfl (Nat.lt_succ_self i)
    intro u le
    exact twice_quiet (by omega)
  rw [Nat.add_comm 1 i]
  exact congrArg DefEtats.acquisition stopped

theorem anemometer_answers (closed : m + 2 = windowCycles) :
    Answers (fun t => (anemometer m t).defEtats.currentSt)
      (fun t => (anemometer m t).registre3.sO) 0 1 := by
  obtain ⟨first, second⟩ := twice_acquires (ventRegs_paced (m + 6)) rfl (Nat.le_refl _)
  have opened : (ventRegs m (m + 2)).demAcquisition = true := congrArg DefEtats.acquisition first
  have loaded : (ventRegs m (m + 3)).dataAnemometre = (ventRegs m (m + 2)).dataAnemometre1s :=
    (@run_data powerUp.ports (ventWave m) {}).loaded rfl rfl opened
  have unread := @ventRegs_unread m
  simp only [anemometer_eq]
  refine ⟨first, second, ?_, ?_⟩
  · rw [Nat.add_comm] at unread
    exact unread
  · refine loaded.trans ?_
    rw [closed]
    exact ventRegs_data1s

end Anemometer

theorem outputs_frozen_two_requests :
    (Frozen 5 (fun t => twice 4999999 (4999999 + t))
        (fun t => (compass 4999998 t).defEtats.currentSt)
        (fun t => (compass 4999998 t).registre3.sO) ∧
      Answers (fun t => (compass 4999998 t).defEtats.currentSt)
        (fun t => (compass 4999998 t).registre3.sO) 0 133) ∧
      Frozen 5 (fun t => twice 499999 (499999 + t))
          (fun t => (anemometer 499998 t).defEtats.currentSt)
          (fun t => (anemometer 499998 t).registre3.sO) ∧
        Answers (fun t => (anemometer 499998 t).defEtats.currentSt)
          (fun t => (anemometer 499998 t).registre3.sO) 0 1 := by
  refine ⟨⟨?_, compass_answers (by decide) (by decide)⟩, ?_, anemometer_answers rfl⟩
  · exact (outputs_frozen 5).1 _ (run_reachable _ _ (compassWave 4999998) 4999998)
      (fun t => compassWave 4999998 (4999998 + 1 + t)) fun _ _ => ⟨rfl, rfl⟩
  · exact (outputs_frozen 5).2 _ (run_reachable _ _ (ventWave 499998) 499998)
      (fun t => ventWave 499998 (499998 + 1 + t)) fun _ _ => ⟨rfl, rfl⟩

end Voilier
