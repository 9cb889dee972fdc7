import Mathlib.Algebra.Group.Nat.Defs
import Voilier.Primitives

/-!
# Counters that raise a pulse

`gestion_bip` and `gestion_leds` build every delay in the same way: a counter,
the comparison of its value with a constant, which also resets the counter, and
an edge detector on that comparison.
-/

set_option autoImplicit false

namespace Voilier.Pulse

open DeltaCycle

/-- `unsigned(qn) >= limit`. -/
def atLeast {N : Nat} (limit : Nat) (qn : BitVec N) : Bool := decide (limit ≤ qn.toNat)

structure Regs (N : Nat) where
  qn : BitVec N := 0
  s : Bool := false
deriving DecidableEq

variable {N : Nat}

def Regs.re (limit : Nat) (x : Regs N) : Bool := atLeast limit x.qn && !x.s

def Regs.qnAtEdge (limit : Nat) (arst en : Bool) (x : Regs N) : BitVec N :=
  Counter.afterEdge arst (atLeast limit x.qn) en x.qn

def Regs.reAtEdge (limit : Nat) (arst en : Bool) (x : Regs N) : Bool :=
  atLeast limit (x.qnAtEdge limit arst en) && !atLeast limit x.qn

/-- One clock cycle: `arst` is the reset of the cycle that ends and `arst'` that
of the cycle that begins. -/
def Regs.next (limit : Nat) (arst arst' en : Bool) (x : Regs N) : Regs N where
  qn := if arst' then 0 else x.qnAtEdge limit arst en
  s := atLeast limit x.qn

/-! ## The pulse of a cycle -/

theorem le_of_re {limit : Nat} {x : Regs N} (raised : x.re limit = true) :
    limit ≤ x.qn.toNat := by
  simp only [Regs.re, atLeast, Bool.and_eq_true, decide_eq_true_eq] at raised
  exact raised.1

theorem re_running (limit : Nat) (arst en : Bool) (x : Regs N) :
    (x.next limit arst false en).re limit = x.reAtEdge limit arst en := rfl

theorem re_reset (limit : Nat) (arst en : Bool) (x : Regs N) :
    (x.next limit arst true en).re limit = false := by
  simp [Regs.re, Regs.next, atLeast]
  omega

/-! ## Inside an entity -/

/-- The signals of one delay inside an entity: its counter, its edge detector and
the comparison, with the ports of the two instances. -/
structure Wired (limit : Nat) (x : Regs N) (arst arst' en : Bool)
    (counterPorts : Nat → Counter.Ports) (edgePorts : Nat → EdgeDetector.Ports)
    (counter : Nat → Counter.Signals N) (edge : Nat → EdgeDetector.Signals)
    (rst : Nat → Bool) : Prop where
  clk : ∀ d, (counterPorts d).clkI = wave [false] true d
  reset : ∀ d, (counterPorts d).arstI = wave [arst, arst, arst] arst' d
  srst : (counterPorts 1).srstI = atLeast limit x.qn
  en : (counterPorts 1).enI = en
  edgeClk : ∀ d, (edgePorts d).clkI = wave [false] true d
  edgeEn : ∀ d, (edgePorts d).enI = true
  edgeE : ∀ d, (edgePorts d).eI = rst d
  counterTrace : ∀ d, counter d =
    (Counter.entity N).trace counterPorts (Counter.stable x.qn) d
  edgeTrace : ∀ d, edge d =
    EdgeDetector.entity.trace edgePorts (EdgeDetector.stable (atLeast limit x.qn) x.s) d
  rstZero : rst 0 = atLeast limit x.qn
  rstSucc : ∀ d, rst (d + 1) = atLeast limit (counter d).qnO

section Rising
variable {limit : Nat} {x : Regs N} {arst arst' en : Bool}
  {counterPorts : Nat → Counter.Ports} {edgePorts : Nat → EdgeDetector.Ports}
  {counter : Nat → Counter.Signals N} {edge : Nat → EdgeDetector.Signals} {rst : Nat → Bool}

theorem Wired.counter_wave (wired : Wired limit x arst arst' en counterPorts edgePorts
    counter edge rst) (d : Nat) :
    (counter d).qnTemp =
        wave [x.qn, x.qn, x.qnAtEdge limit arst en, x.qnAtEdge limit arst en]
          (x.next limit arst arst' en).qn d ∧
      (counter d).qnO =
        wave [x.qn, x.qn, x.qn, x.qnAtEdge limit arst en, x.qnAtEdge limit arst en]
          (x.next limit arst arst' en).qn d := by
  have reset : ∀ d, (counterPorts d).arstI = wave [arst, arst, arst, arst'] arst' d := by
    intro d
    rw [wired.reset]
    exact (wave_append_final _ _ d).symm
  rw [wired.counterTrace, Counter.rising_qnTemp wired.clk reset,
    Counter.rising_qnO wired.clk reset, wired.srst, wired.en]
  constructor <;> rcases d with _ | _ | _ | _ | _ | _ | d <;> cases arst' <;>
    simp [Regs.next, Regs.qnAtEdge]

theorem Wired.rst_wave (wired : Wired limit x arst arst' en counterPorts edgePorts
    counter edge rst) (d : Nat) :
    rst d =
      wave [atLeast limit x.qn, atLeast limit x.qn, atLeast limit x.qn, atLeast limit x.qn,
          atLeast limit (x.qnAtEdge limit arst en), atLeast limit (x.qnAtEdge limit arst en)]
        (atLeast limit (x.next limit arst arst' en).qn) d := by
  refine delayed_wave rst wired.rstZero (fun d => ?_) d
  rw [wired.rstSucc, (wired.counter_wave d).2]
  exact map_wave (atLeast limit) _ _ d

theorem Wired.s_wave (wired : Wired limit x arst arst' en counterPorts edgePorts
    counter edge rst) (d : Nat) :
    (edge d).bascule.sO = wave [x.s, x.s] (atLeast limit x.qn) d := by
  rw [wired.edgeTrace, EdgeDetector.rising_s wired.edgeClk wired.edgeEn, wired.edgeE,
    wired.rst_wave]
  rfl

/-- The pulse of the cycle that ends is over in delta 3; the pulse of the cycle
that begins is there from delta 5 on, unless a reset withdraws it in delta 7. -/
theorem Wired.edge_wave (wired : Wired limit x arst arst' en counterPorts edgePorts
    counter edge rst) (d : Nat) :
    (edge d).reO =
        wave [x.re limit, x.re limit, x.re limit, false, false,
            x.reAtEdge limit arst en, x.reAtEdge limit arst en]
          ((x.next limit arst arst' en).re limit) d ∧
      (edge d).feO =
        wave [!atLeast limit x.qn && x.s, !atLeast limit x.qn && x.s, !atLeast limit x.qn && x.s,
            false, false,
            !atLeast limit (x.qnAtEdge limit arst en) && atLeast limit x.qn,
            !atLeast limit (x.qnAtEdge limit arst en) && atLeast limit x.qn]
          (!atLeast limit (x.next limit arst arst' en).qn && atLeast limit x.qn) d := by
  cases d with
  | zero =>
      rw [wired.edgeTrace]
      exact ⟨rfl, rfl⟩
  | succ d =>
      have first : (edgePorts 0).eI = atLeast limit x.qn := by rw [wired.edgeE, wired.rstZero]
      have detected := EdgeDetector.trace_detect edgePorts x.s d
      simp only [first, ← wired.edgeTrace, wired.edgeE, wired.s_wave, wired.rst_wave] at detected
      rw [detected.1, detected.2]
      rcases d with _ | _ | _ | _ | _ | _ | d <;> cases h : atLeast limit x.qn <;>
        simp [Regs.re, Regs.reAtEdge, Regs.next, h]

theorem Wired.settled (wired : Wired limit x arst arst' en counterPorts edgePorts
    counter edge rst) {d : Nat} (late : 7 ≤ d) :
    counter d = Counter.stable (x.next limit arst arst' en).qn ∧
      edge d = EdgeDetector.stable (atLeast limit (x.next limit arst arst' en).qn)
        (x.next limit arst arst' en).s ∧
      rst d = atLeast limit (x.next limit arst arst' en).qn := by
  obtain ⟨d, rfl⟩ := Nat.exists_eq_add_of_le' late
  have counted := wired.counter_wave (d + 7)
  have edges := wired.edge_wave (d + 7)
  have flip := wired.s_wave (d + 7)
  refine ⟨Counter.Signals.ext counted.1 counted.2,
    EdgeDetector.Signals.ext (BasculeD.Signals.ext flip) edges.1 edges.2,
    wired.rst_wave (d + 7)⟩

end Rising

theorem qnAtEdge_idle {limit : Nat} {x : Regs N} (zero : x.qn = 0) (arst : Bool) :
    x.qnAtEdge limit arst false = 0 := by
  cases arst with
  | true => rfl
  | false => simp [Regs.qnAtEdge, Counter.afterEdge, Counter.clocked, zero]

theorem reAtEdge_idle {limit : Nat} {x : Regs N} (zero : x.qn = 0) (arst : Bool) :
    x.reAtEdge limit arst false = false := by
  rw [Regs.reAtEdge, qnAtEdge_idle zero, zero, Bool.and_not_self]

theorem next_idle {limit : Nat} {x : Regs N} (zero : x.qn = 0) (arst arst' : Bool) :
    (x.next limit arst arst' false).qn = 0 := by
  unfold Regs.next
  simp only [qnAtEdge_idle zero, ite_self]

/-! ## Delays that run to their end -/

/-- The counter stays within the limit and rests at one of its ends. -/
structure Regs.Bounded (limit : Nat) (en : Bool) (x : Regs N) : Prop where
  le : x.qn.toNat ≤ limit
  waiting : en = false → x.qn.toNat = 0 ∨ x.qn.toNat = limit

/-- Besides, the pulse of the delay has always withdrawn the enable. -/
structure Regs.Timed (limit : Nat) (en : Bool) (x : Regs N) : Prop extends
    Regs.Bounded limit en x where
  counting : en = true → x.qn.toNat < limit
  flip : x.s = true → x.qn.toNat = 0

section Timed
variable {limit : Nat} {arst arst' en en' : Bool} {x : Regs N}

theorem qnAtEdge_toNat (arst en : Bool) (fits : limit < 2 ^ N) (le : x.qn.toNat ≤ limit) :
    (x.qnAtEdge limit arst en).toNat =
      if arst = true ∨ x.qn.toNat = limit then 0
      else if en = true then x.qn.toNat + 1 else x.qn.toNat := by
  unfold Regs.qnAtEdge Counter.afterEdge Counter.clocked
  by_cases reset : arst = true
  · simp [reset]
  · by_cases full : x.qn.toNat = limit
    · simp [reset, full, atLeast]
    · have below : ¬ limit ≤ x.qn.toNat := by omega
      have room : x.qn.toNat + 1 < 2 ^ N := by omega
      have one : 1 % 2 ^ N = 1 := Nat.mod_eq_of_lt (by omega)
      cases en <;> simp [reset, full, atLeast, below, BitVec.toNat_add, one,
        Nat.mod_eq_of_lt room]

theorem reAtEdge_iff (arst en : Bool) (positive : 0 < limit) (fits : limit < 2 ^ N)
    (le : x.qn.toNat ≤ limit) :
    x.reAtEdge limit arst en = true ↔
      arst = false ∧ en = true ∧ x.qn.toNat + 1 = limit := by
  have value := qnAtEdge_toNat arst en fits le
  simp only [Regs.reAtEdge, atLeast, Bool.and_eq_true, decide_eq_true_eq, Bool.not_eq_true',
    decide_eq_false_iff_not, value]
  by_cases reset : arst = true
  · simp [reset]
    omega
  · by_cases full : x.qn.toNat = limit
    · simp [full]
    · cases en with
      | false => simp [reset, full]
      | true =>
          simp [reset, full]
          omega

theorem next_toNat (arst arst' en : Bool) (fits : limit < 2 ^ N) (le : x.qn.toNat ≤ limit) :
    (x.next limit arst arst' en).qn.toNat =
      if arst' = true ∨ arst = true ∨ x.qn.toNat = limit then 0
      else if en = true then x.qn.toNat + 1 else x.qn.toNat := by
  by_cases reset : arst' = true
  · simp [Regs.next, reset]
  · simp [Regs.next, reset, qnAtEdge_toNat arst en fits le]

theorem Regs.Bounded.next (bounded : x.Bounded limit en) (positive : 0 < limit)
    (fits : limit < 2 ^ N)
    (withdrawn : arst' = false → en = true → en' = false → x.reAtEdge limit arst en = true) :
    (x.next limit arst arst' en).Bounded limit en' := by
  have value := next_toNat arst arst' en fits bounded.le
  have pulse := reAtEdge_iff arst en positive fits bounded.le
  have le := bounded.le
  by_cases reset : arst' = true ∨ arst = true ∨ x.qn.toNat = limit
  · rw [if_pos reset] at value
    exact ⟨by omega, fun _ => Or.inl value⟩
  · rw [if_neg reset] at value
    simp only [not_or, Bool.not_eq_true] at reset
    obtain ⟨running', running, below⟩ := reset
    cases en with
    | false =>
        rw [if_neg (by simp)] at value
        refine ⟨by omega, fun _ => Or.inl ?_⟩
        rcases bounded.waiting rfl with zero | full
        · exact value.trans zero
        · exact absurd full below
    | true =>
        rw [if_pos rfl] at value
        refine ⟨by omega, fun off => Or.inr ?_⟩
        exact value.trans (pulse.mp (withdrawn running' rfl off)).2.2

/-- A pulse that withdraws the enable leaves a timed delay, whatever went before. -/
theorem Regs.Bounded.timed_next (bounded : x.Bounded limit en) (positive : 0 < limit)
    (fits : limit < 2 ^ N)
    (kept : arst' = false → en = true → en' = !x.reAtEdge limit arst en) :
    (x.next limit arst arst' en).Timed limit en' := by
  have value := next_toNat arst arst' en fits bounded.le
  have pulse := reAtEdge_iff arst en positive fits bounded.le
  have le := bounded.le
  have flip : (x.next limit arst arst' en).s = true → x.qn.toNat = limit := by
    intro raised
    have reached : limit ≤ x.qn.toNat := by simpa [Regs.next, atLeast] using raised
    omega
  refine ⟨bounded.next positive fits fun running' on off => ?_, fun on' => ?_, fun raised => ?_⟩
  · have enable := kept running' on
    simpa [off] using enable
  · by_cases reset : arst' = true ∨ arst = true ∨ x.qn.toNat = limit
    · rw [if_pos reset] at value
      omega
    · rw [if_neg reset] at value
      simp only [not_or, Bool.not_eq_true] at reset
      cases en with
      | false =>
          have rests := bounded.waiting rfl
          rw [if_neg (by simp)] at value
          omega
      | true =>
          rw [if_pos rfl] at value
          have quiet : ¬ x.qn.toNat + 1 = limit := by
            intro last
            have raised := pulse.mpr ⟨reset.2.1, rfl, last⟩
            have enable := kept reset.1 rfl
            simp [on', raised] at enable
          omega
  · rw [if_pos (Or.inr (Or.inr (flip raised)))] at value
    exact value

theorem Regs.Timed.next (timed : x.Timed limit en) (positive : 0 < limit)
    (fits : limit < 2 ^ N)
    (kept : arst' = false → en = true → en' = !x.reAtEdge limit arst en) :
    (x.next limit arst arst' en).Timed limit en' :=
  timed.toBounded.timed_next positive fits kept

/-- A delay that is enabled and stays below its limit counts the cycles. -/
theorem qn_enabled {x : Nat → Regs N} {i : Nat} (fits : limit < 2 ^ N)
    (step : ∀ j < i, x (j + 1) = (x j).next limit false false true)
    (below : ∀ j < i, (x j).qn.toNat < limit) : (x i).qn.toNat = (x 0).qn.toNat + i := by
  induction i with
  | zero => rfl
  | succ i ih =>
      have before := ih (fun j lt => step j (by omega)) fun j lt => below j (by omega)
      have room := below i (Nat.lt_succ_self i)
      rw [step i (Nat.lt_succ_self i), next_toNat false false true fits (Nat.le_of_lt room),
        if_neg (by simp; omega), if_pos rfl, before, Nat.add_assoc]

theorem Regs.Bounded.next_empty (bounded : x.Bounded limit false) (fits : limit < 2 ^ N) :
    (x.next limit false false false).qn.toNat = 0 := by
  have value := next_toNat false false false fits bounded.le
  have waiting := bounded.waiting rfl
  rw [value]
  split_ifs <;> simp_all

theorem enabled_le {x : Nat → Regs N} {n : Nat} (fits : limit < 2 ^ N)
    (step : ∀ j, j + 1 < n → x (j + 1) = (x j).next limit false false true)
    (below : ∀ j < n, (x j).qn.toNat < limit) : n ≤ limit := by
  by_contra longer
  have counted := qn_enabled (i := limit) fits (fun j lt => step j (by omega))
    fun j lt => below j (by omega)
  have last := below limit (by omega)
  omega

end Timed

end Voilier.Pulse
