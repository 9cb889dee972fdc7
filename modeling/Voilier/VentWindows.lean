import Voilier.ConversionVitesseVent
import Voilier.RegisterTransfer

/-!
# The measurement windows of the anemometer

From the release of the reset on, `rst_comp` cuts the time into windows of equal
length.  The count of a window is captured in its last cycle, at the very edge
that resets the counter, so that an edge of the signal in that cycle is counted
nowhere.
-/

set_option autoImplicit false

namespace Voilier.ConversionVitesseVent

open DeltaCycle RegisterTransfer

/-- The cycles of a window but the last. -/
def countedCycles : Nat := 49999999 / 100

def windowCycles : Nat := countedCycles + 1

/-! ## The registers of a run -/

section Registers
variable {p : Ports} {wave : Nat → Ports} {x : Regs}

theorem run_nbr : Counts (fun t => !(wave t).razNI) (fun t => (x.run p wave t).rstComp)
    (fun t => (x.run p wave t).reFreq (wave t)) fun t => (x.run p wave t).nbrReBySec :=
  fun _ => Counter.afterCycle

theorem run_sec : Counts (fun t => !(wave t).razNI) (fun t => (x.run p wave t).rstComp)
    (fun _ => true) fun t => (x.run p wave t).sec :=
  fun _ => Counter.afterCycle

theorem run_data1s : Loads 0 (fun t => !(wave t).razNI) (fun t => (x.run p wave t).rstComp)
    (fun t => (x.run p wave t).nbrReBySec) fun t => (x.run p wave t).dataAnemometre1s :=
  fun _ => Registre.afterCycle

theorem run_data : Loads 0 (fun t => !(wave t).razNI) (fun t => (x.run p wave t).demAcquisition)
    (fun t => (x.run p wave t).dataAnemometre1s) fun t => (x.run p wave t).dataAnemometre :=
  fun _ => Registre.afterCycle

theorem run_rstComp (inReset : p.razNI = false) {t : Nat}
    (released : ∀ u ≤ t, (wave u).razNI = true) :
    (x.run p wave t).rstComp = true ↔ (t + 1) % windowCycles = 0 := by
  have start : (x.run p wave 0).sec.toNat = 0 :=
    congrArg BitVec.toNat (x.next_cleared (Or.inl inReset)).sec
  have wraps : ∀ t, (x.run p wave t).sec.toNat ≤ countedCycles →
      (x.run p wave t).rstComp = decide ((x.run p wave t).sec.toNat = countedCycles) := by
    intro t le
    apply decide_eq_decide.mpr
    exact ⟨Nat.le_antisymm le, Nat.le_of_eq ∘ Eq.symm⟩
  have closes := (run_sec (p := p) (x := x)).wraps_iff (a := 0) (n := t) (by decide)
    (fun _ => rfl) wraps start (Nat.zero_le _) fun u le => by
      simp [released u le]
  simp only [Nat.zero_add] at closes
  exact closes

end Registers

/-! ## What the windows capture -/

section Windows
variable (s : Snapshot Ports Signals) (wave : Nat → Ports) (t : Nat)

def reFreq : Bool := (entity.run s wave t).signals.edge.reO

def rstComp : Bool := (entity.run s wave t).signals.rstComp

def dataAnemometre1s : Nat := (entity.run s wave t).signals.registre.sO.toNat

def edges (a n : Nat) : Nat := Nat.count (fun i => reFreq s wave (a + i) = true) n

/-- The signal rises in the last cycle of window `j`. -/
def RisesAtClose (j : Nat) : Prop :=
  (wave (j * windowCycles + countedCycles)).inFreqAnemometreI = true ∧
    (wave (j * windowCycles + countedCycles - 1)).inFreqAnemometreI = false

end Windows

section Captured
variable {s : Snapshot Ports Signals} {wave : Nat → Ports} {k : Nat}

theorem rstComp_iff (reached : entity.Reachable powerUp s) (inReset : s.ports.razNI = false)
    {t : Nat} (released : ∀ u ≤ t, (wave u).razNI = true) :
    rstComp s wave t = true ↔ (t + 1) % windowCycles = 0 := by
  obtain ⟨x, wf, eq⟩ := reachable_stable reached
  rw [rstComp, eq, run_from wf]
  exact run_rstComp inReset released

theorem reFreq_succ (reached : entity.Reachable powerUp s) (t : Nat) :
    reFreq s wave (t + 1) =
      ((wave (t + 1)).inFreqAnemometreI && !(wave t).inFreqAnemometreI) := by
  obtain ⟨x, wf, eq⟩ := reachable_stable reached
  rw [reFreq, eq, run_from wf]
  rfl

theorem risesAtClose_iff (reached : entity.Reachable powerUp s) (j : Nat) :
    reFreq s wave (j * windowCycles + countedCycles) = true ↔ RisesAtClose wave j := by
  have positive : 0 < countedCycles := by decide
  obtain ⟨t, last⟩ := Nat.exists_eq_add_of_le' (show 1 ≤ j * windowCycles + countedCycles by omega)
  unfold RisesAtClose
  rw [last, reFreq_succ reached]
  simp

/-- What a window captures and what rises in its closing cycle is all that rises in
it. -/
theorem captured_window (reached : entity.Reachable powerUp s) (inReset : s.ports.razNI = false)
    {j : Nat} (released : ∀ t ≤ (j + 1) * windowCycles, (wave t).razNI = true)
    (fits : edges s wave (j * windowCycles) windowCycles ≤ 255) :
    dataAnemometre1s s wave ((j + 1) * windowCycles) +
        (if reFreq s wave (j * windowCycles + countedCycles) = true then 1 else 0) =
      edges s wave (j * windowCycles) windowCycles := by
  obtain ⟨x, wf, eq⟩ := reachable_stable reached
  have cleared : (x.run s.ports wave 0).Cleared := x.next_cleared (Or.inl inReset)
  have re : reFreq s wave = fun t => (x.run s.ports wave t).reFreq (wave t) := by
    funext t
    rw [reFreq, eq, run_from wf]
    rfl
  have data : dataAnemometre1s s wave = fun t => (x.run s.ports wave t).dataAnemometre1s.toNat := by
    funext t
    rw [dataAnemometre1s, eq, run_from wf]
    rfl
  simp only [edges, re, data] at fits ⊢
  apply run_nbr.captured_window run_data1s cleared.nbr
  · intro t le
    simp [released t le]
  · intro t before
    exact run_rstComp inReset fun u le => released u (Nat.le_trans le (Nat.le_of_lt before))
  · exact Nat.lt_succ_of_le fits

theorem edges_windows (a k : Nat) :
    edges s wave a (k * windowCycles) =
      ∑ j ∈ Finset.range k, edges s wave (a + j * windowCycles) windowCycles := by
  unfold edges
  rw [count_windows]
  simp only [Nat.add_assoc]

/-- Over several windows, what is captured and what rises in the closing cycles is all
that rises. -/
theorem captured_add_lost (reached : entity.Reachable powerUp s) (inReset : s.ports.razNI = false)
    (released : ∀ t ≤ k * windowCycles, (wave t).razNI = true)
    (fits : ∀ j < k, edges s wave (j * windowCycles) windowCycles ≤ 255) :
    ∑ j ∈ Finset.range k, dataAnemometre1s s wave ((j + 1) * windowCycles) +
        ∑ j ∈ Finset.range k,
          (if reFreq s wave (j * windowCycles + countedCycles) = true then 1 else 0) =
      edges s wave 0 (k * windowCycles) := by
  rw [edges_windows, ← Finset.sum_add_distrib]
  apply Finset.sum_congr rfl
  intro j member
  have lt : j < k := Finset.mem_range.mp member
  have inside : (j + 1) * windowCycles ≤ k * windowCycles :=
    Nat.mul_le_mul_right windowCycles lt
  rw [Nat.zero_add]
  exact captured_window reached inReset (fun t le => released t (Nat.le_trans le inside))
    (fits j lt)

/-- The windows capture every rising edge exactly when none comes in the closing
cycle of a window. -/
theorem windows_lose_nothing_iff (reached : entity.Reachable powerUp s)
    (inReset : s.ports.razNI = false)
    (released : ∀ t ≤ k * windowCycles, (wave t).razNI = true)
    (fits : ∀ j < k, edges s wave (j * windowCycles) windowCycles ≤ 255) :
    (∀ t < k * windowCycles, rstComp s wave t = true ↔ (t + 1) % windowCycles = 0) ∧
      (∑ j ∈ Finset.range k, dataAnemometre1s s wave ((j + 1) * windowCycles) =
          edges s wave 0 (k * windowCycles) ↔
        ∀ j < k, ¬ RisesAtClose wave j) := by
  refine ⟨fun t before => rstComp_iff reached inReset fun u le => released u (by omega), ?_⟩
  have total := captured_add_lost reached inReset released fits
  constructor
  · intro complete j lt rises
    have none : ∑ j ∈ Finset.range k,
        (if reFreq s wave (j * windowCycles + countedCycles) = true then 1 else 0) = 0 := by
      omega
    have one := Finset.sum_eq_zero_iff.mp none j (Finset.mem_range.mpr lt)
    rw [if_pos ((risesAtClose_iff reached j).mpr rises)] at one
    omega
  · intro quiet
    have none : ∑ j ∈ Finset.range k,
        (if reFreq s wave (j * windowCycles + countedCycles) = true then 1 else 0) = 0 := by
      apply Finset.sum_eq_zero
      intro j member
      apply if_neg
      rw [risesAtClose_iff reached]
      exact quiet j (Finset.mem_range.mp member)
    omega

end Captured

/-! ## One rising edge -/

section OneEdge
variable {wave : Nat → Ports} {a : Nat}

theorem reFreq_once (step : ∀ t, (wave t).inFreqAnemometreI = decide (a ≤ t)) (positive : 0 < a)
    (t : Nat) : reFreq powerUp wave t = decide (t = a) := by
  cases t with
  | zero =>
      have never : ¬ 0 = a := by omega
      have low : (wave 0).inFreqAnemometreI = false := by
        rw [step, decide_eq_false (by omega)]
      change (entity.cycle powerUp (wave 0)).signals.edge.reO = _
      rw [show powerUp = ⟨powerUp.ports, stable powerUp.ports {}⟩ from rfl,
        cycle_eq powerUp.ports (wave 0) {} powerUp_wf]
      simp [stable, EdgeDetector.stable, low, never]
  | succ t =>
      rw [reFreq_succ .powerUp]
      simp only [step, ← decide_not, ← Bool.decide_and]
      apply decide_eq_decide.mpr
      omega

theorem edges_once (step : ∀ t, (wave t).inFreqAnemometreI = decide (a ≤ t)) (positive : 0 < a)
    (b n : Nat) : edges powerUp wave b n = if b ≤ a ∧ a < b + n then 1 else 0 := by
  unfold edges
  simp only [reFreq_once step positive, decide_eq_true_eq]
  induction n with
  | zero =>
      rw [Nat.count_zero, if_neg]
      omega
  | succ n ih =>
      rw [Nat.count_succ, ih]
      split_ifs <;> omega

end OneEdge

def stepWave (a t : Nat) : Ports := ⟨false, true, decide (a ≤ t), true, false⟩

theorem stepWave_edges {a : Nat} (positive : 0 < a) (b n : Nat) :
    edges powerUp (stepWave a) b n = if b ≤ a ∧ a < b + n then 1 else 0 :=
  edges_once (fun _ => rfl) positive b n

theorem windows_lose_nothing_inside :
    ∑ j ∈ Finset.range 1, dataAnemometre1s powerUp (stepWave 100) ((j + 1) * windowCycles) =
      edges powerUp (stepWave 100) 0 (1 * windowCycles) := by
  refine (windows_lose_nothing_iff .powerUp rfl (fun _ _ => rfl) ?_).2.mpr ?_
  · intro j _
    rw [stepWave_edges (by decide)]
    split_ifs <;> omega
  · intro j lt rises
    obtain rfl : j = 0 := by omega
    exact absurd rises.2 (by decide)

theorem edge_lost_at_close :
    ¬ ∀ (s : Snapshot Ports Signals) (wave : Nat → Ports) (k : Nat),
      entity.Reachable powerUp s → s.ports.razNI = false →
      (∀ t ≤ k * windowCycles, (wave t).razNI = true) →
      (∀ j < k, edges s wave (j * windowCycles) windowCycles ≤ 255) →
      ∑ j ∈ Finset.range k, dataAnemometre1s s wave ((j + 1) * windowCycles) =
        edges s wave 0 (k * windowCycles) := by
  intro complete
  have fits : ∀ j < 1, edges powerUp (stepWave countedCycles) (j * windowCycles) windowCycles
      ≤ 255 := by
    intro j _
    rw [stepWave_edges (by decide)]
    split_ifs <;> omega
  have claimed := complete powerUp (stepWave countedCycles) 1 .powerUp rfl (fun _ _ => rfl) fits
  have total := captured_add_lost (k := 1) .powerUp rfl (fun _ _ => rfl) fits
  rw [Finset.sum_range_one, Finset.sum_range_one] at total
  rw [Finset.sum_range_one] at claimed
  have lost : reFreq powerUp (stepWave countedCycles) countedCycles = true := by
    rw [reFreq_once (fun _ => rfl) (show 0 < countedCycles by decide)]
    exact decide_eq_true rfl
  rw [Nat.zero_mul, Nat.zero_add countedCycles, if_pos lost] at total
  omega

end Voilier.ConversionVitesseVent
