import Voilier.VentWindows

/-!
# The frequency of the anemometer

The value captured is to be the frequency in hertz, the edges of one second.  The
window is a hundredth of a second: the count it captures is the frequency only where
both are at most one.
-/

set_option autoImplicit false

namespace Voilier.ConversionVitesseVent

open DeltaCycle RegisterTransfer

/-- Out of reset, in continuous mode, the input is a pulse train. -/
structure Steady (period high phase : Nat) (wave : Nat → Ports) : Prop where
  running : ∀ t, (wave t).razNI = true
  continu : ∀ t, (wave t).continuI = true
  input : ∀ t, (wave t).inFreqAnemometreI = pulseTrain period high phase t

/-- The edges of one second of a 50 MHz clock, rounded down or up. -/
def PerSecond (period value : Nat) : Prop :=
  value = 50000000 / period ∨ value = (50000000 + period - 1) / period

theorem PerSecond.floor_le {period value : Nat} (some : 0 < period)
    (perSecond : PerSecond period value) : 50000000 / period ≤ value := by
  rcases perSecond with floor | ceil
  · exact Nat.le_of_eq floor.symm
  · rw [ceil]
    exact Nat.div_le_div_right (by omega)

/-- From the second window on, whatever is loaded is the frequency. -/
def ReadsFrequency (s : Snapshot Ports Signals) (wave : Nat → Ports) (period : Nat) : Prop :=
  ∀ t, windowCycles ≤ t → rstComp s wave t = true →
    PerSecond period (dataAnemometre1s s wave (t + 1))

section Steady
variable {s : Snapshot Ports Signals} {wave : Nat → Ports} {period high phase : Nat}

theorem Steady.edges_eq (steady : Steady period high phase wave)
    (reached : entity.Reachable powerUp s) (some : 0 < high) (notAll : high < period)
    {a : Nat} (later : 0 < a) (n : Nat) :
    edges s wave a n = Nat.count (fun i => (phase + a + i) % period = 0) n := by
  unfold edges
  congr 1
  funext i
  obtain ⟨t, succ⟩ := Nat.exists_eq_add_of_le' (show 1 ≤ a + i by omega)
  rw [Nat.add_assoc, succ, reFreq_succ reached, steady.input, steady.input]
  exact propext (pulseTrain_rises some notAll t)

theorem Steady.edges_le (steady : Steady period high phase wave)
    (reached : entity.Reachable powerUp s) (some : 0 < high) (notAll : high < period)
    {a : Nat} (later : 0 < a) (n : Nat) : edges s wave a n ≤ n / period + 1 := by
  rw [steady.edges_eq reached some notAll later]
  exact count_periodic_le (by omega) _ n

theorem Steady.window_le (steady : Steady period high phase wave)
    (reached : entity.Reachable powerUp s) (some : 0 < high) (notAll : high < period)
    (slow : 200000 ≤ period) {a : Nat} (later : 0 < a) : edges s wave a windowCycles ≤ 3 := by
  have few := steady.edges_le reached some notAll later windowCycles
  have short : windowCycles / period ≤ windowCycles / 200000 :=
    Nat.div_le_div_left slow (by decide)
  have two : windowCycles / 200000 = 2 := by decide
  omega

theorem Steady.rstComp_iff (steady : Steady period high phase wave)
    (reached : entity.Reachable powerUp s) (inReset : s.ports.razNI = false) (t : Nat) :
    rstComp s wave t = true ↔ (t + 1) % windowCycles = 0 :=
  ConversionVitesseVent.rstComp_iff reached inReset fun u _ => steady.running u

theorem Steady.readsFrequency_iff (steady : Steady period high phase wave)
    (reached : entity.Reachable powerUp s) (inReset : s.ports.razNI = false) :
    ReadsFrequency s wave period ↔
      ∀ j, PerSecond period (dataAnemometre1s s wave ((j + 2) * windowCycles)) := by
  have positive : 0 < windowCycles := by decide
  constructor
  · intro reads j
    have two : (j + 2) * windowCycles = j * windowCycles + 2 * windowCycles :=
      Nat.add_mul j 2 windowCycles
    obtain ⟨t, last⟩ := Nat.exists_eq_add_of_le' (show 1 ≤ (j + 2) * windowCycles by omega)
    rw [last]
    apply reads t (by omega)
    rw [steady.rstComp_iff reached inReset, ← last]
    exact Nat.mul_mod_left _ _
  · intro windows t later closes
    rw [steady.rstComp_iff reached inReset] at closes
    obtain ⟨q, whole⟩ := Nat.dvd_of_mod_eq_zero closes
    have second : 2 ≤ q := by
      by_contra first
      have le : windowCycles * q ≤ windowCycles * 1 := Nat.mul_le_mul_left _ (by omega)
      omega
    obtain ⟨j, rfl⟩ := Nat.exists_eq_add_of_le' second
    rw [whole, Nat.mul_comm]
    exact windows j

theorem Steady.captured_le (steady : Steady period high phase wave)
    (reached : entity.Reachable powerUp s) (inReset : s.ports.razNI = false)
    (some : 0 < high) (notAll : high < period) (slow : 200000 ≤ period) (j : Nat) :
    dataAnemometre1s s wave ((j + 2) * windowCycles) ≤
      edges s wave ((j + 1) * windowCycles) windowCycles := by
  have positive : 0 < (j + 1) * windowCycles := Nat.mul_pos (Nat.succ_pos j) (by decide)
  have few := steady.window_le reached some notAll slow positive
  have captured := captured_window (j := j + 1) reached inReset (fun t _ => steady.running t)
    (by omega)
  rw [← captured]
  exact Nat.le_add_right _ _

theorem Steady.misses_fast (steady : Steady period high phase wave)
    (reached : entity.Reachable powerUp s) (inReset : s.ports.razNI = false)
    (some : 0 < high) (notAll : high < period) (slow : 200000 ≤ period)
    (fast : period ≤ windowCycles) :
    ¬ PerSecond period (dataAnemometre1s s wave (2 * windowCycles)) := by
  have captured := steady.captured_le reached inReset some notAll slow 0
  have few := steady.window_le reached some notAll slow (a := (0 + 1) * windowCycles) (by decide)
  have hundred : 100 ≤ 50000000 / period := by
    rw [Nat.le_div_iff_mul_le (by omega)]
    have whole : windowCycles = 500000 := by decide
    omega
  rw [Nat.zero_add] at captured
  intro perSecond
  have floor := perSecond.floor_le (by omega)
  omega

/-- Below one edge a window, some window sees none: there are fewer edges than windows
in the long run. -/
theorem Steady.misses_slow (steady : Steady period high phase wave)
    (reached : entity.Reachable powerUp s) (inReset : s.ports.razNI = false)
    (some : 0 < high) (notAll : high < period) (slow : windowCycles < period) :
    ∃ j, dataAnemometre1s s wave ((j + 2) * windowCycles) = 0 := by
  by_contra never
  have all : ∀ j, 1 ≤ dataAnemometre1s s wave ((j + 2) * windowCycles) := by
    intro j
    by_contra none
    exact never ⟨j, by omega⟩
  have captured : ∀ k, k ≤ edges s wave windowCycles (k * windowCycles) := by
    intro k
    rw [edges_windows]
    calc k = ∑ _j ∈ Finset.range k, 1 := by simp
      _ ≤ ∑ j ∈ Finset.range k, edges s wave (windowCycles + j * windowCycles) windowCycles := by
          apply Finset.sum_le_sum
          intro j _
          rw [Nat.add_comm, ← Nat.succ_mul]
          exact Nat.le_trans (all j)
            (steady.captured_le reached inReset some notAll (by
              have whole : windowCycles = 500000 := by decide
              omega) j)
  have enough := captured (2 * period)
  have few := steady.edges_le reached some notAll (a := windowCycles) (by decide)
    (2 * period * windowCycles)
  have whole : 2 * period * windowCycles / period = 2 * windowCycles := by
    rw [Nat.mul_right_comm, Nat.mul_div_cancel _ (by omega)]
  omega

/-- What is loaded is the frequency exactly below one hertz. -/
theorem reads_frequency_iff (reached : entity.Reachable powerUp s)
    (inReset : s.ports.razNI = false) (steady : Steady period high phase wave)
    (some : 0 < high) (notAll : high < period) (slow : 200000 ≤ period) :
    ReadsFrequency s wave period ↔ 50000000 < period := by
  have whole : windowCycles = 500000 := by decide
  rw [steady.readsFrequency_iff reached inReset]
  constructor
  · intro reads
    by_contra audible
    by_cases fast : period ≤ windowCycles
    · exact steady.misses_fast reached inReset some notAll slow fast (reads 0)
    · obtain ⟨j, none⟩ := steady.misses_slow reached inReset some notAll (by omega)
      have one : 1 ≤ 50000000 / period := by
        rw [Nat.le_div_iff_mul_le (by omega)]
        omega
      have floor := (reads j).floor_le (by omega)
      omega
  · intro rare j
    have captured := steady.captured_le reached inReset some notAll slow j
    have few := steady.edges_le reached some notAll (a := (j + 1) * windowCycles)
      (Nat.mul_pos (Nat.succ_pos j) (by decide)) windowCycles
    have none : windowCycles / period = 0 := Nat.div_eq_of_lt (by omega)
    have floor : 50000000 / period = 0 := Nat.div_eq_of_lt rare
    have ceil : (50000000 + period - 1) / period = 1 := by
      rw [Nat.div_eq_iff (by omega)]
      omega
    unfold PerSecond
    rw [floor, ceil]
    omega

end Steady

/-! ## Two frequencies -/

def trainWave (period t : Nat) : Ports :=
  ⟨false, true, pulseTrain period 100000 0 t, true, false⟩

theorem trainWave_steady (period : Nat) : Steady period 100000 0 (trainWave period) :=
  ⟨fun _ => rfl, fun _ => rfl, fun _ => rfl⟩

theorem reads_below_one_hertz : ReadsFrequency powerUp (trainWave 60000000) 60000000 :=
  (reads_frequency_iff .powerUp rfl (trainWave_steady 60000000) (by decide) (by decide)
    (by decide)).mpr (by decide)

theorem fastest_wind_misread :
    ¬ ∀ (s : Snapshot Ports Signals) (wave : Nat → Ports) (period high phase : Nat),
      entity.Reachable powerUp s → s.ports.razNI = false → Steady period high phase wave →
      0 < high → high < period → 200000 ≤ period → ReadsFrequency s wave period := by
  intro claimed
  have steady := trainWave_steady 200000
  have reads := (steady.readsFrequency_iff .powerUp rfl).mp
    (claimed powerUp _ 200000 100000 0 .powerUp rfl steady (by decide) (by decide) (by decide)) 0
  exact steady.misses_fast .powerUp rfl (by decide) (by decide) (by decide) (by decide) reads

end Voilier.ConversionVitesseVent
