import Voilier.DefEtatsRuns

/-!
# Requests to def_etats

In start/stop mode the machine makes a round trip for each request.  The state
after the acquisition comes whatever `start_stop_i` is, so a request that is
withdrawn and made again during the acquisition passes unseen.
-/

set_option autoImplicit false

namespace Voilier.DefEtats

open DeltaCycle

/-- The states of a machine in start/stop mode, over `n` rising edges. -/
def Paced (n : Nat) (startStop : Nat → Bool) (st : Nat → State) : Prop :=
  ∀ t < n, st (t + 1) = successor ⟨false, startStop t⟩ (st t)

section Paced
variable {n : Nat} {startStop : Nat → Bool} {st : Nat → State}

/-- The registers of a machine that is neither reset nor in continuous mode. -/
theorem paced_of_steps {x : Nat → Regs} {arst : Nat → Bool} {i : Nat → Inputs}
    (latched : (x 0).Latched (i 0)) (settled : (x 0).Settled (i 0))
    (step : ∀ t, x (t + 1) = (x t).next (arst t) (arst (t + 1)) (i (t + 1)) (i (t + 1)))
    (running : ∀ t ≤ n, arst t = false) (single : ∀ t ≤ n, (i t).continuI = false) :
    Paced n (fun t => (i t).startStopI) fun t => (x t).currentSt := by
  have follows : ∀ t ≤ n, (x t).nextSt = successor (i t) (x t).currentSt := by
    intro t le
    cases t with
    | zero => exact latched.follows settled (single 0 le)
    | succ t =>
        rw [step t, running t (by omega), running (t + 1) le]
        exact Regs.next_follows _ _
  intro t lt
  have now : i t = ⟨false, (i t).startStopI⟩ := by
    rw [← single t (by omega)]
  change (x (t + 1)).currentSt = successor _ (x t).currentSt
  rw [← now, ← follows t (by omega), step t, running t (by omega), running (t + 1) lt]
  rfl

theorem successor_ne_continu (s : Bool) (current : State) :
    successor ⟨false, s⟩ current ≠ .stContinu := by
  cases current <;> cases s <;> decide

theorem Paced.ne_continu (paced : Paced n startStop st) {t : Nat} (positive : 1 ≤ t)
    (le : t ≤ n) : st t ≠ .stContinu := by
  obtain ⟨t, rfl⟩ := Nat.exists_eq_add_of_le' positive
  rw [paced t (by omega)]
  exact successor_ne_continu _ _

theorem Paced.after_acquisition (paced : Paced n startStop st) {t : Nat} (lt : t < n)
    (acquires : st t = .stAcquisition) : st (t + 1) = .stStartAq := by
  rw [paced t lt, acquires]
  rfl

theorem Paced.rests (paced : Paced n startStop st) (start : st 0 = .stContinu) {t : Nat}
    (lt : t < n) (quiet : ∀ u ≤ t, startStop u = false) : st (t + 1) = .stStopAq := by
  induction t with
  | zero =>
      rw [paced 0 lt, start, quiet 0 (Nat.le_refl 0)]
      rfl
  | succ t ih =>
      rw [paced (t + 1) lt, ih (by omega) fun u le => quiet u (by omega),
        quiet (t + 1) (Nat.le_refl _)]
      rfl

/-- The machine acquires after a rise of `start_stop_i`, unless it acquired two
cycles before. -/
theorem Paced.acquires_iff (paced : Paced n startStop st) {t : Nat} (lt : t + 1 < n) :
    st (t + 2) = .stAcquisition ↔
      startStop t = false ∧ startStop (t + 1) = true ∧ st t ≠ .stAcquisition := by
  rw [paced (t + 1) lt, paced t (by omega)]
  cases st t <;> cases startStop t <;> cases startStop (t + 1) <;> decide

theorem Paced.holds (paced : Paced n startStop st) {t d : Nat} (le : t + 1 + d ≤ n)
    (acquires : st t = .stAcquisition)
    (asked : ∀ k, t < k → k < t + 1 + d → startStop k = true) :
    st (t + 1 + d) = .stStartAq := by
  induction d with
  | zero => exact paced.after_acquisition (by omega) acquires
  | succ d ih =>
      have before := ih (by omega) fun k after lt => asked k after (by omega)
      rw [← Nat.add_assoc, paced (t + 1 + d) (by omega), before, asked (t + 1 + d) (by omega)
        (by omega)]
      rfl

theorem Paced.withdrawn (paced : Paced n startStop st) {t t' : Nat} (order : t < t') (le : t' ≤ n)
    (acquires : st t = .stAcquisition) (acquires' : st t' = .stAcquisition) :
    ∃ k, t < k ∧ k < t' ∧ startStop k = false := by
  by_contra never
  obtain ⟨d, rfl⟩ : ∃ d, t' = t + 1 + d := ⟨t' - (t + 1), by omega⟩
  have held := paced.holds le acquires fun k after lt => by
    by_contra off
    exact never ⟨k, after, lt, by simpa using off⟩
  rw [held] at acquires'
  exact absurd acquires' (by decide)

end Paced

/-! ## One request -/

/-- The machine is stopped in the cycles after `v` and asked for a measure in those after
`w`, up to cycle `t`, with no reset. -/
structure Requested (arst : Nat → Bool) (i : Nat → Inputs) (x : Nat → Regs) (v w t : Nat) :
    Prop where
  latched : ∀ u, (x u).Latched (i u)
  settled : ∀ u, (x u).Settled (i u)
  step : ∀ u, x (u + 1) = (x u).next (arst u) (arst (u + 1)) (i (u + 1)) (i (u + 1))
  apart : v + 2 ≤ w
  running : ∀ u, v < u → u ≤ t → arst u = false
  stopped : ∀ u, v < u → u ≤ w → i u = ⟨false, false⟩
  asked : ∀ u, w < u → u ≤ t → i u = ⟨false, true⟩

section Requested
variable {arst : Nat → Bool} {i : Nat → Inputs} {x : Nat → Regs} {v w t u : Nat}

theorem Requested.successor_eq (request : Requested arst i x v w t) (after : v < u)
    (before : u < t) : (x (u + 1)).currentSt = successor (i u) (x u).currentSt := by
  have single : ∀ u, v < u → u ≤ t → (i u).continuI = false := by
    intro u after upTo
    rcases Nat.lt_or_ge w u with late | early
    · rw [request.asked u late upTo]
    · rw [request.stopped u after early]
  have paced := paced_of_steps (x := fun k => x (v + 1 + k)) (i := fun k => i (v + 1 + k))
    (n := t - (v + 1)) (request.latched (v + 1)) (request.settled (v + 1))
    (fun k => request.step (v + 1 + k)) (fun k le => request.running _ (by omega) (by omega))
    fun k le => single _ (by omega) (by omega)
  obtain ⟨k, rfl⟩ := Nat.exists_eq_add_of_le (show v + 1 ≤ u by omega)
  have now : i (v + 1 + k) = ⟨false, (i (v + 1 + k)).startStopI⟩ := by
    rw [← single (v + 1 + k) after (Nat.le_of_lt before)]
  rw [now]
  exact paced k (by omega)

/-- Two cycles after it is stopped the machine rests, whatever it did. -/
theorem Requested.rests (request : Requested arst i x v w t) (late : v + 3 ≤ u) (upTo : u ≤ w + 1)
    (within : u ≤ t) : (x u).currentSt = .stStopAq := by
  have apart := request.apart
  obtain ⟨k, rfl⟩ := Nat.exists_eq_add_of_le late
  induction k with
  | zero =>
      have first := request.successor_eq (u := v + 1) (by omega) (by omega)
      have second := request.successor_eq (u := v + 1 + 1) (by omega) (by omega)
      rw [request.stopped _ (by omega) (by omega)] at first second
      refine second.trans ?_
      rw [first]
      cases (x (v + 1)).currentSt <;> rfl
  | succ k ih =>
      have before := ih (by omega) (by omega) (by omega)
      have stays := request.successor_eq (u := v + 3 + k) (by omega) (by omega)
      rw [before, request.stopped _ (by omega) (by omega)] at stays
      exact stays

theorem Requested.acquires (request : Requested arst i x v w t) (within : w + 2 ≤ t) :
    (x (w + 2)).currentSt = .stAcquisition := by
  have apart := request.apart
  have moves := request.successor_eq (u := w + 1) (by omega) (by omega)
  rw [request.rests (by omega) (Nat.le_refl _) (by omega),
    request.asked (w + 1) (by omega) (by omega)] at moves
  exact moves

theorem Requested.waits (request : Requested arst i x v w t) (late : w + 3 ≤ u) (upTo : u ≤ t) :
    (x u).currentSt = .stStartAq := by
  have apart := request.apart
  obtain ⟨k, rfl⟩ := Nat.exists_eq_add_of_le late
  induction k with
  | zero =>
      have moves := request.successor_eq (u := w + 2) (by omega) (by omega)
      rw [request.acquires (by omega)] at moves
      exact moves
  | succ k ih =>
      have before := ih (by omega) (by omega)
      have stays := request.successor_eq (u := w + 3 + k) (by omega) (by omega)
      rw [before, request.asked _ (by omega) (by omega)] at stays
      exact stays

end Requested

/-! ## Requests from st_stop_aq -/

/-- Out of reset and of continuous mode, at rest and not asked for anything. -/
structure AtRest (s : Snapshot Ports Signals) : Prop where
  running : s.ports.arstI = false
  single : s.ports.continuI = false
  quiet : s.ports.startStopI = false
  stopped : s.signals.currentSt = .stStopAq

/-- The cycles after the first one, whose `start_stop_i` is `x 0`. -/
def requests (x : Nat → Bool) (t : Nat) : Ports := ⟨false, false, false, x (t + 1)⟩

/-- `start_stop_i` is 0, 1, 0 and 1 at four rising edges in a row. -/
def Stutters (x : Nat → Bool) (i : Nat) : Prop :=
  x i = false ∧ x (i + 1) = true ∧ x (i + 2) = false ∧ x (i + 3) = true

section Requests
variable {p : Ports} {s : Snapshot Ports Signals} {x : Nat → Bool}

/-- The state in the cycle that ends with edge `i`. -/
def stateAt (s : Snapshot Ports Signals) (x : Nat → Bool) (i : Nat) : State :=
  (onwards s (entity.run s (requests x)) i).signals.currentSt

theorem stateAt_paced (reached : entity.Reachable (powerUp p) s) (rest : AtRest s)
    (low : x 0 = false) (n : Nat) : Paced n x (stateAt s x) := by
  obtain ⟨y, wf, eq⟩ := implements.reachable (Regs.start_wf p) reached
  obtain ⟨running, single, quiet, -⟩ := rest
  have seen : ∀ i, (onwards s.ports (requests x) i).arstI = false ∧
      inputs (onwards s.ports (requests x) i) = ⟨false, x i⟩ := by
    intro i
    cases i with
    | zero => simp [onwards, inputs, running, single, quiet, low]
    | succ i => exact ⟨rfl, rfl⟩
  have shown : stateAt s x =
      fun i => (onwards y (runRegs Regs.step s.ports (requests x) y) i).currentSt := by
    funext i
    rw [stateAt, eq, implements.onwards_eq wf]
    rfl
  have asked : x = fun i => (inputs (onwards s.ports (requests x) i)).startStopI := by
    funext i
    rw [(seen i).2]
  rw [shown]
  nth_rewrite 1 [asked]
  exact paced_of_steps wf.latched wf.settled
    (onwards_succ Regs.step s.ports (requests x) y) (fun i _ => (seen i).1)
    fun i _ => by rw [(seen i).2]

theorem stateAt_acquires_iff (reached : entity.Reachable (powerUp p) s) (rest : AtRest s)
    (low : x 0 = false) (i : Nat) :
    stateAt s x (i + 2) = .stAcquisition ↔
      x i = false ∧ x (i + 1) = true ∧ stateAt s x i ≠ .stAcquisition :=
  (stateAt_paced reached rest low (i + 2)).acquires_iff (Nat.lt_succ_self _)

/-- Every request is served, and served once, exactly when none is made again while
the one before is acquired. -/
theorem requests_served_iff (reached : entity.Reachable (powerUp p) s) (rest : AtRest s)
    (low : x 0 = false) :
    (∀ i, (entity.run s (requests x) (i + 1)).signals.currentSt = .stAcquisition ↔
        x i = false ∧ x (i + 1) = true) ↔
      ∀ i, ¬ Stutters x i := by
  change (∀ i, stateAt s x (i + 2) = .stAcquisition ↔ _) ↔ _
  have acquires := stateAt_acquires_iff reached rest low
  constructor
  · rintro served i ⟨low₀, high₁, low₂, high₃⟩
    have first := (served i).mpr ⟨low₀, high₁⟩
    have second := (served (i + 2)).mpr ⟨low₂, high₃⟩
    exact ((acquires (i + 2)).mp second).2.2 first
  · intro clean i
    rw [acquires i]
    constructor
    · rintro ⟨quiet, asked, -⟩
      exact ⟨quiet, asked⟩
    · rintro ⟨quiet, asked⟩
      refine ⟨quiet, asked, fun busy => ?_⟩
      match i with
      | 0 =>
          rw [show stateAt s x 0 = .stStopAq from rest.stopped] at busy
          exact absurd busy (by decide)
      | 1 =>
          have still := stateAt_paced reached rest low 1 0 (by decide)
          rw [busy, show stateAt s x 0 = .stStopAq from rest.stopped, low] at still
          exact absurd still (by decide)
      | i + 2 =>
          obtain ⟨quiet', asked', -⟩ := (acquires i).mp busy
          exact clean i ⟨quiet', asked', quiet, asked⟩

end Requests

/-- One cycle after a power-up in start/stop mode. -/
def atRest : Snapshot Ports Signals :=
  entity.cycle (powerUp ⟨false, false, false, false⟩) ⟨false, false, false, false⟩

theorem atRest_reachable : entity.Reachable (powerUp ⟨false, false, false, false⟩) atRest :=
  .cycle _ .powerUp

theorem atRest_atRest : AtRest atRest := by
  rw [atRest, powerUp, cycle_eq _ _ _ (Regs.start_wf _)]
  exact ⟨rfl, rfl, rfl, by decide⟩

theorem requests_served_once :
    (entity.run atRest (requests fun i => decide (i = 1)) (0 + 1)).signals.currentSt =
      .stAcquisition := by
  have served := (requests_served_iff atRest_reachable atRest_atRest
    (x := fun i => decide (i = 1)) rfl).mpr fun i stutters => by
      obtain ⟨-, high₁, -, high₃⟩ := stutters
      simp only [decide_eq_true_eq] at high₁ high₃
      omega
  exact (served 0).mpr ⟨rfl, rfl⟩

theorem request_lost :
    ¬ ∀ (p : Ports) (s : Snapshot Ports Signals) (x : Nat → Bool),
      entity.Reachable (powerUp p) s → AtRest s → x 0 = false →
      ∀ i, (entity.run s (requests x) (i + 1)).signals.currentSt = .stAcquisition ↔
        x i = false ∧ x (i + 1) = true := by
  intro served
  have each := served _ atRest (fun i => decide (i % 2 = 1)) atRest_reachable atRest_atRest rfl
  have again := (stateAt_acquires_iff atRest_reachable atRest_atRest rfl 2).mp
    ((each 2).mpr (by decide))
  exact again.2.2 ((each 0).mpr (by decide))

end Voilier.DefEtats
