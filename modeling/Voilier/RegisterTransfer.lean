import Mathlib.Data.Nat.Count
import Mathlib.Algebra.BigOperators.Group.Finset.Basic
import Mathlib.Algebra.Order.BigOperators.Group.Finset
import Mathlib.Tactic.Common

/-!
# Registers and counters over whole runs

A register or a counter of a synchronous design is a sequence of values, one per
clock cycle.  The asynchronous reset `arst` clears it in the cycle in which it is
asserted and keeps it clear at the edge that ends such a cycle.
-/

set_option autoImplicit false

namespace RegisterTransfer

/-! ## Registers with an enable -/

section Load
variable {α : Type} {zero : α} {arst en : Nat → Bool} {e x : Nat → α}

/-- The register `x` takes the value of `e` at the end of every cycle with `en`. -/
def Loads (zero : α) (arst en : Nat → Bool) (e x : Nat → α) : Prop :=
  ∀ t, x (t + 1) = if arst (t + 1) || arst t then zero else if en t then e t else x t

/-- The cycle whose value a register holds in cycle `t`. -/
def lastLoad (arst en : Nat → Bool) : Nat → Option Nat
  | 0 => none
  | t + 1 =>
      if arst (t + 1) || arst t then none
      else if en t then some t
      else lastLoad arst en t

theorem Loads.eq_lastLoad (loads : Loads zero arst en e x) (start : x 0 = zero) (t : Nat) :
    x t = (lastLoad arst en t).elim zero e := by
  induction t with
  | zero => exact start
  | succ t ih =>
      rw [loads t, lastLoad]
      split_ifs with cleared loaded
      · rfl
      · rfl
      · exact ih

theorem lastLoad_spec {t u : Nat} (last : lastLoad arst en t = some u) :
    u < t ∧ en u = true ∧ (∀ v, u ≤ v → v ≤ t → arst v = false) ∧
      ∀ v, u < v → v < t → en v = false := by
  induction t with
  | zero => simp [lastLoad] at last
  | succ t ih =>
      rw [lastLoad] at last
      split_ifs at last with cleared loaded
      · obtain rfl : t = u := by simpa using last
        have running : arst (t + 1) = false ∧ arst t = false := by simpa using cleared
        refine ⟨by omega, loaded, ?_, ?_⟩
        · intro v after before
          rcases Nat.eq_or_lt_of_le after with rfl | later
          · exact running.2
          · obtain rfl : v = t + 1 := by omega
            exact running.1
        · intro v after before
          omega
      · have running : arst (t + 1) = false ∧ arst t = false := by simpa using cleared
        obtain ⟨before, loads, noReset, idle⟩ := ih last
        refine ⟨by omega, loads, ?_, ?_⟩
        · intro v after upTo
          rcases Nat.eq_or_lt_of_le upTo with rfl | earlier
          · exact running.1
          · exact noReset v after (by omega)
        · intro v after upTo
          rcases Nat.eq_or_lt_of_le (Nat.le_of_lt_succ upTo) with rfl | earlier
          · simpa using loaded
          · exact idle v after earlier

theorem exists_lastLoad (arst en : Nat → Bool) {t u : Nat} (before : u < t) (loaded : en u = true)
    (running : ∀ v, u ≤ v → v ≤ t → arst v = false) :
    ∃ v, u ≤ v ∧ lastLoad arst en t = some v := by
  induction t with
  | zero => omega
  | succ t ih =>
      have noReset : ¬ (arst (t + 1) || arst t) = true := by
        simp [running (t + 1) (by omega) (Nat.le_refl _), running t (by omega) (by omega)]
      rw [lastLoad, if_neg noReset]
      by_cases again : en t = true
      · exact ⟨t, by omega, if_pos again⟩
      · have earlier : u < t := by
          rcases Nat.eq_or_lt_of_le (Nat.le_of_lt_succ before) with rfl | earlier
          · exact absurd loaded again
          · exact earlier
        obtain ⟨v, after, last⟩ := ih earlier fun v after upTo => running v after (by omega)
        exact ⟨v, after, (if_neg again).trans last⟩

theorem Loads.loaded (loads : Loads zero arst en e x) {t : Nat} (running : arst t = false)
    (running' : arst (t + 1) = false) (enabled : en t = true) : x (t + 1) = e t := by
  rw [loads t, running, running', enabled]
  rfl

theorem Loads.kept (loads : Loads zero arst en e x) {a n : Nat}
    (running : ∀ i ≤ n, arst (a + i) = false) (idle : ∀ i < n, en (a + i) = false) :
    x (a + n) = x a := by
  induction n with
  | zero => rfl
  | succ n ih =>
      have before := ih (fun i le => running i (by omega)) fun i lt => idle i (by omega)
      rw [← Nat.add_assoc, loads (a + n), running n (by omega), Nat.add_assoc,
        running (n + 1) (Nat.le_refl _), idle n (Nat.lt_succ_self n)]
      exact before

theorem Loads.always (loads : Loads zero arst en e x) {p : α → Prop} (cleared : p zero)
    (start : p (x 0)) (loaded : ∀ t, en t = true → p (e t)) (t : Nat) : p (x t) := by
  induction t with
  | zero => exact start
  | succ t ih =>
      rw [loads t]
      split_ifs with _ enabled
      · exact cleared
      · exact loaded t enabled
      · exact ih

end Load

/-! ## Stretches -/

/-- For how many cycles a signal has been high before cycle `t`. -/
def highFor (sync : Nat → Bool) : Nat → Nat
  | 0 => 0
  | t + 1 => if sync t then highFor sync t + 1 else 0

theorem highFor_spec (sync : Nat → Bool) (t : Nat) :
    highFor sync t ≤ t ∧ ∀ i, t - highFor sync t ≤ i → i < t → sync i = true := by
  induction t with
  | zero => exact ⟨Nat.le_refl 0, fun i _ before => by omega⟩
  | succ t ih =>
      obtain ⟨le, high⟩ := ih
      rw [highFor]
      split_ifs with now
      · refine ⟨by omega, fun i after before => ?_⟩
        rcases Nat.eq_or_lt_of_le (Nat.le_of_lt_succ before) with rfl | earlier
        · exact now
        · exact high i (by omega) earlier
      · exact ⟨by omega, fun i after before => by omega⟩

/-- A signal that is low once in every `m + 1` cycles is never high for longer than `m`. -/
theorem highFor_le {sync : Nat → Bool} {m : Nat} (low : ∀ a, ∃ i ≤ m, sync (a + i) = false)
    (t : Nat) : highFor sync t ≤ m := by
  by_contra longer
  obtain ⟨le, high⟩ := highFor_spec sync t
  obtain ⟨i, inside, falls⟩ := low (t - highFor sync t)
  rw [high (t - highFor sync t + i) (by omega) (by omega)] at falls
  exact absurd falls (by decide)

/-! ## Counters -/

section Count
variable {N : Nat} {arst srst en : Nat → Bool} {qn : Nat → BitVec N}

/-- The counter `qn` counts the cycles with `en` since the last one with `srst`. -/
def Counts (arst srst en : Nat → Bool) (qn : Nat → BitVec N) : Prop :=
  ∀ t, qn (t + 1) =
    if arst (t + 1) || arst t || srst t then 0 else if en t then qn t + 1 else qn t

theorem Counts.toNat_succ (counts : Counts arst srst en qn) {t : Nat}
    (running : arst t = false) (running' : arst (t + 1) = false) (free : srst t = false) :
    (qn (t + 1)).toNat = ((qn t).toNat + if en t = true then 1 else 0) % 2 ^ N := by
  rw [counts t, running, running', free]
  by_cases counted : en t = true
  · simp [counted, BitVec.toNat_add]
  · simp [counted, Nat.mod_eq_of_lt (qn t).isLt]

theorem toNat_add_one (a : BitVec N) : (a + 1).toNat = (a.toNat + 1) % 2 ^ N := by
  rw [BitVec.toNat_add]
  exact Nat.add_mod_mod _ _ _

theorem toNat_add_one_le (a : BitVec N) : (a + 1).toNat ≤ a.toNat + 1 := by
  rw [toNat_add_one]
  exact Nat.mod_le _ _

theorem toNat_add_one_of_ne {a : BitVec N} (noCarry : (a + 1).toNat ≠ 0) :
    (a + 1).toNat = a.toNat + 1 := by
  rw [toNat_add_one] at noCarry ⊢
  rcases Nat.lt_or_ge (a.toNat + 1) (2 ^ N) with fits | full
  · exact Nat.mod_eq_of_lt fits
  · have carry : a.toNat + 1 = 2 ^ N := Nat.le_antisymm a.isLt full
    rw [carry, Nat.mod_self] at noCarry
    exact absurd rfl noCarry

theorem Counts.toNat_succ_le (counts : Counts arst srst en qn) (t : Nat) :
    (qn (t + 1)).toNat ≤
      if srst t = true then 0 else (qn t).toNat + if en t = true then 1 else 0 := by
  rw [counts t]
  cases srst t with
  | true => simp
  | false =>
      simp only [Bool.or_false, Bool.false_eq_true, if_false]
      split_ifs with _ counted
      · exact Nat.zero_le _
      · exact Nat.zero_le _
      · exact toNat_add_one_le (qn t)
      · exact Nat.le_refl _

theorem Counts.toNat_eq_count (counts : Counts arst srst en qn) {a n : Nat} {p : Nat → Prop}
    [DecidablePred p] (enabled : ∀ i < n, en (a + i) = true ↔ p i) (start : qn a = 0)
    (running : ∀ i ≤ n, arst (a + i) = false) (free : ∀ i < n, srst (a + i) = false) :
    (qn (a + n)).toNat = Nat.count p n % 2 ^ N := by
  induction n with
  | zero => simp [start]
  | succ n ih =>
      have before := ih (fun i lt => enabled i (by omega)) (fun i le => running i (by omega))
        fun i lt => free i (by omega)
      have step := counts.toNat_succ (running n (by omega)) (running (n + 1) (Nat.le_refl _))
        (free n (by omega))
      rw [← Nat.add_assoc, step, before, Nat.count_succ, Nat.mod_add_mod]
      simp only [enabled n (by omega)]

theorem Counts.toNat_le (counts : Counts arst srst en qn) {limit : Nat}
    (wraps : ∀ t, (qn t).toNat ≤ limit → srst t = decide ((qn t).toNat = limit))
    (start : (qn 0).toNat ≤ limit) (t : Nat) : (qn t).toNat ≤ limit := by
  induction t with
  | zero => exact start
  | succ t ih =>
      have wrap := wraps t ih
      rw [counts t]
      split_ifs with cleared counted
      · simp
      · have below : (qn t).toNat ≠ limit := by
          intro full
          simp [wrap, full] at cleared
        have sum := toNat_add_one_le (qn t)
        omega
      · exact ih

theorem Counts.counted_since (counts : Counts arst srst en qn) (always : ∀ t, en t = true)
    (start : qn 0 = 0) {w n : Nat} (value : (qn w).toNat = n) :
    ∃ a, w = a + n ∧ qn a = 0 ∧ (∀ i < n, srst (a + i) = false) ∧
      (0 < n → ∀ i ≤ n, arst (a + i) = false) := by
  induction n generalizing w with
  | zero => exact ⟨w, rfl, BitVec.eq_of_toNat_eq (by simpa using value), by simp, by simp⟩
  | succ n ih =>
      cases w with
      | zero => simp [start] at value
      | succ w =>
          simp only [counts w, always w, if_true] at value
          split_ifs at value with cleared
          · simp at value
          · simp only [Bool.or_eq_true, not_or, Bool.not_eq_true] at cleared
            obtain ⟨⟨running', running⟩, free⟩ := cleared
            have before : (qn w).toNat = n := by
              have stepped := toNat_add_one_of_ne (a := qn w) (by omega)
              omega
            obtain ⟨a, rfl, opened, frees, runs⟩ := ih before
            refine ⟨a, rfl, opened, fun i lt => ?_, fun _ i le => ?_⟩
            · rcases Nat.eq_or_lt_of_le (Nat.le_of_lt_succ lt) with rfl | earlier
              · exact free
              · exact frees i earlier
            · rcases Nat.eq_or_lt_of_le le with rfl | earlier
              · exact running'
              · rcases Nat.eq_zero_or_pos n with rfl | positive
                · obtain rfl : i = 0 := by omega
                  exact running
                · exact runs positive i (by omega)

theorem Counts.reset_of_zero (counts : Counts arst srst en qn) (always : ∀ t, en t = true) {t : Nat}
    (small : (qn t).toNat + 1 < 2 ^ N) (opened : qn (t + 1) = 0) :
    (arst (t + 1) || arst t || srst t) = true := by
  by_contra running
  simp only [counts t, always t, if_true, if_neg running] at opened
  have value := congrArg BitVec.toNat opened
  rw [toNat_add_one, Nat.mod_eq_of_lt small] at value
  simp at value

theorem Counts.zero_together {M : Nat} {en' : Nat → Bool} {qn' : Nat → BitVec M}
    (counts : Counts arst srst en qn) (other : Counts arst srst en' qn')
    (always : ∀ t, en t = true) (small : ∀ t, (qn t).toNat + 1 < 2 ^ N) (start' : qn' 0 = 0)
    {t : Nat} (opened : qn t = 0) : qn' t = 0 := by
  cases t with
  | zero => exact start'
  | succ t => exact (other t).trans (if_pos (counts.reset_of_zero always (small t) opened))

theorem succ_mod_cycle (a limit : Nat) :
    (a + 1) % (limit + 1) = if a % (limit + 1) = limit then 0 else a % (limit + 1) + 1 := by
  split_ifs with last
  · exact Nat.succ_mod_succ_eq_zero_iff.mpr last
  · have residue : a % (limit + 1) < limit + 1 := Nat.mod_lt a (Nat.succ_pos limit)
    rw [← Nat.mod_add_mod]
    exact Nat.mod_eq_of_lt (by omega)

/-- A counter that resets itself at `limit` runs through the residues modulo
`limit + 1`. -/
theorem Counts.toNat_prescaler (counts : Counts arst srst en qn) {limit a p n : Nat}
    (fits : limit < 2 ^ N) (always : ∀ t, en t = true)
    (wraps : ∀ t, (qn t).toNat ≤ limit → srst t = decide ((qn t).toNat = limit))
    (start : (qn a).toNat = p) (phase : p ≤ limit) (running : ∀ i ≤ n, arst (a + i) = false) :
    (qn (a + n)).toNat = (p + n) % (limit + 1) := by
  induction n with
  | zero => exact start.trans (Nat.mod_eq_of_lt (by omega)).symm
  | succ n ih =>
      have before := ih fun i le => running i (by omega)
      have residue : (p + n) % (limit + 1) < limit + 1 := Nat.mod_lt _ (Nat.succ_pos limit)
      have wrap := wraps (a + n) (by omega)
      rw [← Nat.add_assoc, ← Nat.add_assoc, succ_mod_cycle, ← before]
      split_ifs with full
      · have reset : srst (a + n) = true := by simp [wrap, full]
        simp [counts (a + n), reset]
      · have free : srst (a + n) = false := by simp [wrap, full]
        have step := counts.toNat_succ (running n (by omega)) (running (n + 1) (Nat.le_refl _)) free
        rw [step, if_pos (always _)]
        exact Nat.mod_eq_of_lt (by omega)

theorem Counts.wraps_iff (counts : Counts arst srst en qn) {limit a p n : Nat}
    (fits : limit < 2 ^ N) (always : ∀ t, en t = true)
    (wraps : ∀ t, (qn t).toNat ≤ limit → srst t = decide ((qn t).toNat = limit))
    (start : (qn a).toNat = p) (phase : p ≤ limit) (running : ∀ i ≤ n, arst (a + i) = false) :
    srst (a + n) = true ↔ (p + n + 1) % (limit + 1) = 0 := by
  have residue := counts.toNat_prescaler fits always wraps start phase running
  have below : (p + n) % (limit + 1) < limit + 1 := Nat.mod_lt _ (Nat.succ_pos limit)
  rw [wraps (a + n) (by omega), residue, decide_eq_true_iff]
  exact Nat.succ_mod_succ_eq_zero_iff.symm

theorem Counts.wrap_period (counts : Counts arst srst en qn) {limit r r' : Nat}
    (fits : limit < 2 ^ N) (always : ∀ t, en t = true)
    (wraps : ∀ t, (qn t).toNat ≤ limit → srst t = decide ((qn t).toNat = limit))
    (start : (qn r).toNat = limit) (order : r < r') (again : srst r' = true)
    (between : ∀ t, r < t → t < r' → srst t = false)
    (running : ∀ t, r ≤ t → t ≤ r' → arst t = false) : r' = r + (limit + 1) := by
  have round : ∀ n, r + n ≤ r' → (srst (r + n) = true ↔ n % (limit + 1) = 0) := by
    intro n le
    rw [counts.wraps_iff fits always wraps start (Nat.le_refl limit) fun i inside =>
      running (r + i) (by omega) (by omega)]
    rw [show limit + n + 1 = n + (limit + 1) by omega, Nat.add_mod_right]
  obtain ⟨n, rfl⟩ := Nat.exists_eq_add_of_lt order
  rw [Nat.add_assoc] at again order between round ⊢
  have whole := (round (n + 1) (Nat.le_refl _)).mp again
  have long : limit + 1 ≤ n + 1 :=
    Nat.le_of_dvd (Nat.succ_pos n) (Nat.dvd_of_mod_eq_zero whole)
  by_contra longer
  have early := between (r + (limit + 1)) (by omega) (by omega)
  rw [(round (limit + 1) (by omega)).mpr (Nat.mod_self _)] at early
  exact absurd early (by decide)

/-- A counter that resets itself at `limit`, started at phase `p`, wraps
`(n + p) / (limit + 1)` times in `n` cycles. -/
theorem count_wraps {limit p : Nat} (phase : p ≤ limit) (n : Nat) :
    Nat.count (fun i => (p + i) % (limit + 1) = limit) n = (n + p) / (limit + 1) := by
  induction n with
  | zero =>
      rw [Nat.count_zero, Nat.zero_add, Nat.div_eq_of_lt (by omega)]
  | succ n ih =>
      have carry : limit + 1 ∣ n + p + 1 ↔ (p + n) % (limit + 1) = limit := by
        rw [Nat.dvd_iff_mod_eq_zero, Nat.add_comm n p]
        exact Nat.succ_mod_succ_eq_zero_iff
      rw [Nat.count_succ, ih, show n + 1 + p = n + p + 1 by omega, Nat.succ_div]
      simp only [carry]

theorem count_windows (p : Nat → Prop) [DecidablePred p] (m k : Nat) :
    Nat.count p (k * m) = ∑ j ∈ Finset.range k, Nat.count (fun i => p (j * m + i)) m := by
  induction k with
  | zero => simp
  | succ k ih =>
      rw [Nat.succ_mul, Nat.count_add, ih, Finset.sum_range_succ]

theorem mod_window (j : Nat) {i m : Nat} (inside : i ≤ m) :
    (j * (m + 1) + i + 1) % (m + 1) = 0 ↔ i = m := by
  rw [Nat.add_assoc, Nat.mul_add_mod']
  constructor
  · intro wraps
    by_contra earlier
    rw [Nat.mod_eq_of_lt (by omega)] at wraps
    omega
  · rintro rfl
    exact Nat.mod_self _

theorem Counts.window_start (counts : Counts arst srst en qn) {m j : Nat} (start : qn 0 = 0)
    (closes : ∀ t < j * (m + 1), srst t = true ↔ (t + 1) % (m + 1) = 0) :
    qn (j * (m + 1)) = 0 := by
  cases j with
  | zero => simpa using start
  | succ j =>
      have last : (j + 1) * (m + 1) = j * (m + 1) + m + 1 := by
        rw [Nat.succ_mul, Nat.add_assoc]
      have closed : srst (j * (m + 1) + m) = true :=
        (closes _ (by omega)).mpr ((mod_window j (Nat.le_refl m)).mpr rfl)
      rw [last, counts (j * (m + 1) + m), closed, Bool.or_true, if_pos rfl]

/-- What a counter reset at the end of every window captures there, and what happens in
the closing cycle, is all that happens in the window. -/
theorem Counts.captured_window {out : Nat → BitVec N} (counts : Counts arst srst en qn)
    (loads : Loads 0 arst srst qn out) {m j : Nat} (start : qn 0 = 0)
    (running : ∀ t ≤ (j + 1) * (m + 1), arst t = false)
    (closes : ∀ t < (j + 1) * (m + 1), srst t = true ↔ (t + 1) % (m + 1) = 0)
    (fits : Nat.count (fun i => en (j * (m + 1) + i) = true) (m + 1) < 2 ^ N) :
    (out ((j + 1) * (m + 1))).toNat + (if en (j * (m + 1) + m) = true then 1 else 0) =
      Nat.count (fun i => en (j * (m + 1) + i) = true) (m + 1) := by
  have last : (j + 1) * (m + 1) = j * (m + 1) + m + 1 := by
    rw [Nat.succ_mul, Nat.add_assoc]
  rw [last] at running closes
  have opened : qn (j * (m + 1)) = 0 :=
    counts.window_start start fun t before => closes t (by omega)
  have free : ∀ i < m, srst (j * (m + 1) + i) = false := by
    intro i before
    have open' := (closes (j * (m + 1) + i) (by omega)).not.mpr
      ((mod_window j (by omega)).not.mpr (by omega))
    simpa using open'
  have closed : srst (j * (m + 1) + m) = true :=
    (closes _ (by omega)).mpr ((mod_window j (Nat.le_refl m)).mpr rfl)
  have counted := counts.toNat_eq_count (fun i _ => Iff.rfl) opened
    (fun i le => running (j * (m + 1) + i) (by omega)) free
  have captured : out (j * (m + 1) + m + 1) = qn (j * (m + 1) + m) := by
    rw [loads (j * (m + 1) + m), running _ (Nat.le_refl _), running _ (by omega), closed]
    rfl
  rw [Nat.count_succ] at fits ⊢
  rw [last, captured, counted, Nat.mod_eq_of_lt (by omega)]

end Count

/-! ## Periodic signals -/

section Periodic
variable {period high phase : Nat}

/-- High for `high` cycles out of every `period`. -/
def pulseTrain (period high phase t : Nat) : Bool := decide ((phase + t) % period < high)

theorem pulseTrain_rises (some : 0 < high) (notAll : high < period) (t : Nat) :
    (pulseTrain period high phase (t + 1) && !pulseTrain period high phase t) = true ↔
      (phase + (t + 1)) % period = 0 := by
  obtain ⟨limit, rfl⟩ := Nat.exists_eq_add_of_le' (show 1 ≤ period by omega)
  have residue : (phase + t) % (limit + 1) < limit + 1 := Nat.mod_lt _ (Nat.succ_pos limit)
  unfold pulseTrain
  rw [← Nat.add_assoc, succ_mod_cycle]
  simp only [Bool.and_eq_true, decide_eq_true_eq, Bool.not_eq_true', decide_eq_false_iff_not]
  by_cases last : (phase + t) % (limit + 1) = limit
  · rw [if_pos last]
    omega
  · rw [if_neg last]
    omega

/-- What happens once a period happens at most once more than there are whole periods. -/
theorem count_periodic_le (positive : 0 < period) (c n : Nat) :
    Nat.count (fun i => (c + i) % period = 0) n ≤ n / period + 1 := by
  obtain ⟨limit, rfl⟩ := Nat.exists_eq_add_of_le' positive
  have residue : (c + limit) % (limit + 1) ≤ limit :=
    Nat.le_of_lt_succ (Nat.mod_lt _ (Nat.succ_pos limit))
  have shifted : ∀ i, (c + i) % (limit + 1) = 0 ↔
      ((c + limit) % (limit + 1) + i) % (limit + 1) = limit := by
    intro i
    rw [Nat.mod_add_mod, ← Nat.succ_mod_succ_eq_zero_iff,
      show c + limit + i + 1 = c + i + (limit + 1) by omega, Nat.add_mod_right]
  simp only [shifted]
  rw [count_wraps residue]
  calc (n + (c + limit) % (limit + 1)) / (limit + 1)
      ≤ (n + (limit + 1)) / (limit + 1) := Nat.div_le_div_right (by omega)
    _ = n / (limit + 1) + 1 := Nat.add_div_right n (Nat.succ_pos limit)

end Periodic

end RegisterTransfer
