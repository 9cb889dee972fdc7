import Voilier.CompassHeadings
import Voilier.DefEtatsRequests

/-!
# The two modes of the compass

In continuous mode the output follows the heading that is refreshed every second.
In start/stop mode it takes the heading of the cycle of the acquisition, one cycle
after `data_valid_o` has announced it.
-/

set_option autoImplicit false

namespace Voilier.ConversionAdaptation

open DeltaCycle RegisterTransfer
open DefEtats (State Paced)

section Signals
variable (wave : Nat → Ports) (t : Nat)

def currentSt : State := (run wave t).signals.defEtats.currentSt

def demAcquisition : Bool := (run wave t).signals.defEtats.acquisitionO

def dataValid : Bool := (run wave t).signals.defEtats.dataValidO

def refresh1sec : Bool := (run wave t).signals.refresh1sec

def fe : Bool := (run wave t).signals.edge.feO

def degresStable1s : BitVec 9 := (run wave t).signals.registre2.sO

def dataCompas : BitVec 9 := (run wave t).signals.registre3.sO

end Signals

/-! ## Continuous mode -/

/-- `raz_n_i` is 1 from cycle `a` on, the first of the run or the first after a
reset. -/
structure RunningSince (wave : Nat → Ports) (a : Nat) : Prop where
  fresh : ∀ b, a = b + 1 → (wave b).razNI = false
  running : ∀ t, a ≤ t → (wave t).razNI = true

/-- Two cycles with `refresh_1sec` and none between them. -/
structure Refreshes (wave : Nat → Ports) (r r' : Nat) : Prop where
  first : refresh1sec wave r = true
  order : r < r'
  again : refresh1sec wave r' = true
  between : ∀ t, r < t → t < r' → refresh1sec wave t = false

section Continuous
variable {wave : Nat → Ports} {a r r' : Nat}

theorem refresh_wraps (t : Nat) (le : (regs wave t).sec.toNat ≤ 49999999 / 10) :
    (regs wave t).refresh1sec = decide ((regs wave t).sec.toNat = 49999999 / 10) := by
  apply decide_eq_decide.mpr
  exact ⟨Nat.le_antisymm le, Nat.le_of_eq ∘ Eq.symm⟩

theorem sec_le (t : Nat) : (regs wave t).sec.toNat ≤ 49999999 / 10 := by
  have start : (regs wave 0).sec = 0 := (follows_regs wave).start.sec
  apply (follows_regs wave).sec.toNat_le refresh_wraps
  simp [start]

theorem refresh_sec {t : Nat} (refresh : (regs wave t).refresh1sec = true) :
    (regs wave t).sec.toNat = 49999999 / 10 :=
  Nat.le_antisymm (sec_le t) (of_decide_eq_true refresh)

theorem refreshes_regs (refreshes : Refreshes wave r r') :
    (regs wave r).refresh1sec = true ∧ (regs wave r').refresh1sec = true ∧
      ∀ t, r < t → t < r' → (regs wave t).refresh1sec = false := by
  obtain ⟨first, -, again, between⟩ := refreshes
  simp only [refresh1sec, run_eq] at first again between
  exact ⟨first, again, between⟩

theorem refresh_period (since : RunningSince wave a) (after : a ≤ r)
    (refreshes : Refreshes wave r r') : r' = r + 5000000 := by
  obtain ⟨first, again, between⟩ := refreshes_regs refreshes
  apply (follows_regs wave).sec.wrap_period (by decide) (fun _ => rfl)
    refresh_wraps (refresh_sec first) refreshes.order again between
  intro t le _
  simp [since.running t (by omega)]

theorem stable1s_period (since : RunningSince wave a) (after : a ≤ r)
    (refreshes : Refreshes wave r r') {u : Nat} (later : r < u) (le : u ≤ r') :
    (regs wave u).degresStable1s = (regs wave r).degresStablePeriode := by
  have running : ∀ t, r ≤ t → (!(wave t).razNI) = false := by
    intro t le
    simp [since.running t (by omega)]
  obtain ⟨first, -, between⟩ := refreshes_regs refreshes
  have loaded := (follows_regs wave).stable1s.loaded (running r (Nat.le_refl r))
    (running (r + 1) (by omega)) first
  obtain ⟨n, rfl⟩ : ∃ n, u = r + 1 + n := ⟨u - (r + 1), by omega⟩
  have kept := (follows_regs wave).stable1s.kept (a := r + 1) (n := n)
    (fun i _ => running (r + 1 + i) (by omega))
    fun i lt => between (r + 1 + i) (by omega) (by omega)
  exact kept.trans loaded

/-- The heading of the period is that of the last falling edge before `r`. -/
theorem periode_last (since : RunningSince wave a) {f : Nat} (from_a : a ≤ f) (before : f < r)
    (falls : (regs wave f).fe = true) (last : ∀ g, f < g → g < r → (regs wave g).fe = false) :
    (regs wave r).degresStablePeriode = (regs wave f).degres := by
  have running : ∀ t, a ≤ t → (!(wave t).razNI) = false := by
    intro t le
    simp [since.running t le]
  have loaded := (follows_regs wave).periode.loaded (running f from_a)
    (running (f + 1) (by omega)) falls
  obtain ⟨n, rfl⟩ : ∃ n, r = f + 1 + n := ⟨r - (f + 1), by omega⟩
  have kept := (follows_regs wave).periode.kept (a := f + 1) (n := n)
    (fun i _ => running (f + 1 + i) (by omega))
    fun i lt => last (f + 1 + i) (by omega) (by omega)
  exact kept.trans loaded

theorem periode_none (since : RunningSince wave a) (after : a ≤ r)
    (none : ∀ f, a ≤ f → f < r → (regs wave f).fe = false) :
    (regs wave r).degresStablePeriode = 0 := by
  have start : (regs wave a).degresStablePeriode = 0 := by
    cases a with
    | zero => exact (follows_regs wave).start.periode
    | succ b => exact (Regs.next_cleared _ _ (Or.inl (since.fresh b rfl))).periode
  obtain ⟨n, rfl⟩ := Nat.exists_eq_add_of_le after
  have kept := (follows_regs wave).periode.kept (a := a) (n := n)
    (fun i _ => by simp [since.running (a + i) (by omega)])
    fun i lt => none (a + i) (by omega) (by omega)
  exact kept.trans start

/-- From two cycles after a refresh to one cycle after the next, the output is the
heading of the last pulse that ended before the refresh. -/
theorem continuous_heading {s : Nat} (since : RunningSince wave a) (after : a ≤ r)
    (continuous : ∀ t, s ≤ t → currentSt wave t = .stContinu) (later : s ≤ r)
    (refreshes : Refreshes wave r r') :
    r' = r + 5000000 ∧ ∀ t, r + 2 ≤ t → t ≤ r' + 1 →
      (∀ f, a ≤ f → f < r → fe wave f = true → (∀ g, f < g → g < r → fe wave g = false) →
        (dataCompas wave t).toNat = (tempsMs wave f + 65536 - 1000) % 65536 / 100 % 512) ∧
      ((∀ f, a ≤ f → f < r → fe wave f = false) → dataCompas wave t = 0) := by
  refine ⟨refresh_period since after refreshes, fun t from_r to_r' => ?_⟩
  obtain ⟨u, rfl⟩ := Nat.exists_eq_add_of_le' (show 1 ≤ t by omega)
  have opened : (regs wave u).demAcquisition = true := by
    have state := continuous u (by omega)
    rw [currentSt, run_eq] at state
    rw [Regs.demAcquisition, show (regs wave u).defEtats.currentSt = .stContinu from state]
    rfl
  have shown : dataCompas wave (u + 1) = (regs wave r).degresStablePeriode := by
    have loaded := (follows_regs wave).compas.loaded (t := u)
      (by simp [since.running u (by omega)]) (by simp [since.running (u + 1) (by omega)]) opened
    rw [dataCompas, run_eq]
    exact loaded.trans (stable1s_period since after refreshes (by omega) (by omega))
  rw [shown]
  simp only [fe, tempsMs, run_eq]
  constructor
  · intro f from_a before falls last
    rw [periode_last since from_a before falls last, Regs.degres, ConversionDegres.degres_toNat]
    change _ = ((regs wave f).cascade.tempsMs.toNat + 65536 - 1000) % 65536 / 100 % 512
    omega
  · exact periode_none since after

end Continuous

/-! ## Start/stop mode -/

/-- def_etats enters st_acquisition from st_stop_aq in cycle `a + 1`. -/
structure Request (wave : Nat → Ports) (a : Nat) : Prop where
  stopped : currentSt wave a = .stStopAq
  acquires : currentSt wave (a + 1) = .stAcquisition
  single : ∀ t, a < t → (wave t).razNI = true ∧ (wave t).continuI = false

/-- From cycle `s` up to the return to st_stop_aq, a valid output is the heading that
the cycle of the acquisition had. -/
def Honoured (wave : Nat → Ports) (a s : Nat) : Prop :=
  ∀ t, s ≤ t → (∀ u, a < u → u ≤ t → currentSt wave u ≠ .stStopAq) →
    dataValid wave t = true → dataCompas wave t = degresStable1s wave (a + 1)

section Request
variable {wave : Nat → Ports} {a : Nat}

theorem regs_wf (wave : Nat → Ports) (t : Nat) : (regs wave t).Wf (wave t) :=
  implements.run_wf powerUp_wf wave t

theorem regs_latched (wave : Nat → Ports) (t : Nat) :
    (regs wave t).defEtats.Latched (modes (wave t)) := by
  cases t with
  | zero => exact DefEtats.Regs.next_latched _ _ _ _
  | succ t => exact DefEtats.Regs.next_latched _ _ _ _

theorem opened_compas {t : Nat} (opened : (regs wave t).demAcquisition = true)
    (running' : (wave (t + 1)).razNI = true) :
    (regs wave (t + 1)).dataCompas = (regs wave t).degresStable1s := by
  refine ((follows_regs wave).compas t).trans ?_
  cases running : (wave t).razNI with
  | true => simp [running, running', opened]
  | false => simp [running, ((regs_wf wave t).cleared running).stable1s]

theorem Request.paced (request : Request wave a) (n : Nat) :
    Paced n (fun t => (wave (a + 1 + t)).startStopI)
      fun t => (regs wave (a + 1 + t)).defEtats.currentSt :=
  DefEtats.paced_of_steps (i := fun t => modes (wave (a + 1 + t))) (regs_latched wave (a + 1))
    (regs_wf wave (a + 1)).settled (fun _ => rfl)
    (fun t _ => by simp [request.single (a + 1 + t) (by omega)])
    fun t _ => (request.single (a + 1 + t) (by omega)).2

theorem Request.waits (request : Request wave a) {d : Nat}
    (open' : ∀ u ≤ d + 1, (regs wave (a + 1 + u)).defEtats.currentSt ≠ .stStopAq) :
    (regs wave (a + 1 + (d + 1))).defEtats.currentSt = .stStartAq := by
  induction d with
  | zero =>
      have acquires := request.acquires
      rw [currentSt, run_eq] at acquires
      exact (request.paced 1).after_acquisition (t := 0) (by decide) acquires
  | succ d ih =>
      have before := ih fun u le => open' u (by omega)
      have stays := open' (d + 2) (Nat.le_refl _)
      have step := request.paced (d + 2) (d + 1) (Nat.lt_succ_self _)
      simp only at step
      rw [step, before] at stays ⊢
      cases asked : (wave (a + 1 + (d + 1))).startStopI with
      | true => rfl
      | false => exact absurd (by rw [asked]; rfl) stays

/-- After the cycle of the acquisition the output is its heading. -/
theorem Request.delivered (request : Request wave a) {d : Nat}
    (open' : ∀ u ≤ d + 1, (regs wave (a + 1 + u)).defEtats.currentSt ≠ .stStopAq) :
    (regs wave (a + 1 + (d + 1))).dataCompas = (regs wave (a + 1)).degresStable1s := by
  have acquires := request.acquires
  rw [currentSt, run_eq] at acquires
  have loaded : (regs wave (a + 1 + 1)).dataCompas = (regs wave (a + 1)).degresStable1s := by
    apply opened_compas
    · rw [Regs.demAcquisition, show (regs wave (a + 1)).defEtats.currentSt = _ from acquires]
      rfl
    · exact (request.single (a + 1 + 1) (by omega)).1
  have kept := (follows_regs wave).compas.kept (a := a + 1 + 1) (n := d)
    (fun i _ => by simp [request.single (a + 1 + 1 + i) (by omega)]) fun i lt => by
      have waits := request.waits (d := i) fun u le => open' u (by omega)
      rw [Regs.demAcquisition, show a + 1 + 1 + i = a + 1 + (i + 1) by omega, waits]
      rfl
  rw [show a + 1 + (d + 1) = a + 1 + 1 + d by omega]
  exact kept.trans loaded

theorem dataValid_of_moving {t : Nat} (running : (wave t).razNI = true)
    (moving : currentSt wave t ≠ .stStopAq) : dataValid wave t = true := by
  rw [currentSt, run_eq] at moving
  rw [dataValid, run_eq]
  simp only [stable, DefEtats.stable, DefEtats.dataValid, running] at moving ⊢
  cases state : (regs wave t).defEtats.currentSt with
  | stStopAq => exact absurd state moving
  | _ => rfl

theorem Request.valid (request : Request wave a) : dataValid wave (a + 1) = true := by
  apply dataValid_of_moving (request.single (a + 1) (Nat.lt_succ_self a)).1
  rw [request.acquires]
  decide

/-- A request is answered with its own heading in every valid cycle after that of the
acquisition. -/
theorem request_delivered (request : Request wave a) : Honoured wave a (a + 2) := by
  intro t after open' _
  obtain ⟨d, rfl⟩ : ∃ d, t = a + 1 + (d + 1) := ⟨t - (a + 2), by omega⟩
  simp only [currentSt, dataCompas, degresStable1s, run_eq] at open' ⊢
  exact request.delivered fun u le => open' (a + 1 + u) (by omega) (by omega)

end Request

/-! ## A run with a single pulse -/

/-- One cycle of PWM right after power-up. -/
def pulseRun (continuI : Bool) (startStop : Nat → Bool) (t : Nat) : Ports :=
  ⟨false, true, decide (t < 1), continuI, startStop t⟩

section PulseRun
variable (continuI : Bool) (startStop : Nat → Bool)

theorem pulseRun_since : RunningSince (pulseRun continuI startStop) 0 :=
  ⟨fun _ start => by omega, fun _ _ => rfl⟩

theorem pulseRun_fe (t : Nat) :
    (regs (pulseRun continuI startStop) t).fe = decide (t = 2) := by
  match t with
  | 0 => rfl
  | 1 => rfl
  | t + 2 =>
      have follows := follows_regs (pulseRun continuI startStop)
      rw [Regs.fe, follows.s, follows.pwmSync, follows.pwmSync]
      simp [pulseRun]

theorem pulseRun_refreshes {r : Nat} (last : (r + 1) % 5000000 = 0) :
    Refreshes (pulseRun continuI startStop) r (r + 5000000) := by
  have wraps : ∀ t, refresh1sec (pulseRun continuI startStop) t = true ↔
      (t + 1) % 5000000 = 0 := by
    intro t
    have cleared := (follows_regs (pulseRun continuI startStop)).start
    have closes := (follows_regs (pulseRun continuI startStop)).sec.wraps_iff (a := 0) (p := 0)
      (n := t) (by decide) (fun _ => rfl) refresh_wraps
      (by rw [cleared.sec]; rfl) (Nat.zero_le _) fun _ _ => rfl
    simp only [Nat.zero_add] at closes
    rw [refresh1sec, run_eq]
    exact closes
  refine ⟨(wraps r).mpr last, by omega, (wraps _).mpr (by omega), fun t after before => ?_⟩
  by_contra refresh
  have again := (wraps t).mp (by simpa using refresh)
  omega

theorem pulseRun_stable1s {u : Nat} (after : 4999999 < u) (before : u ≤ 4999999 + 5000000) :
    (regs (pulseRun continuI startStop) u).degresStable1s = 133 := by
  have since := pulseRun_since continuI startStop
  have refreshes := pulseRun_refreshes continuI startStop (r := 4999999) (by decide)
  rw [stable1s_period since (Nat.zero_le _) refreshes after before,
    periode_last since (Nat.zero_le 2) (by decide) (pulseRun_fe continuI startStop 2)
      fun g later _ => (pulseRun_fe continuI startStop g).trans (decide_eq_false (by omega)),
    Regs.degres, show (regs (pulseRun continuI startStop) 2).cascade.tempsMs = 0 from rfl]
  decide

end PulseRun

theorem continuous_heading_single_pulse :
    (dataCompas (pulseRun true fun _ => false) 5000001).toNat = 133 := by
  have entered : ∀ t, (regs (pulseRun true fun _ => false) (t + 2)).defEtats =
      ⟨.stContinu, .stContinu⟩ := by
    intro t
    induction t with
    | zero => decide
    | succ t ih =>
        change (regs (pulseRun true fun _ => false) (t + 2)).defEtats.next _ _ _ _ = _
        rw [ih]
        rfl
  have continuous : ∀ t, 2 ≤ t → currentSt (pulseRun true fun _ => false) t = .stContinu := by
    intro t late
    obtain ⟨t, rfl⟩ := Nat.exists_eq_add_of_le' late
    rw [currentSt, run_eq]
    exact congrArg DefEtats.Regs.currentSt (entered t)
  have falls : ∀ g, fe (pulseRun true fun _ => false) g = decide (g = 2) := by
    intro g
    rw [fe, run_eq]
    exact pulseRun_fe true (fun _ => false) g
  have heading := ((continuous_heading (pulseRun_since _ _) (Nat.zero_le 4999999) continuous
    (by decide) (pulseRun_refreshes _ _ (by decide))).2 5000001 (by decide) (by decide)).1 2
    (by decide) (by decide) (falls 2) fun g after _ =>
      (falls g).trans (decide_eq_false (by omega))
  have short : tempsMs (pulseRun true fun _ => false) 2 = 0 := by
    rw [tempsMs, run_eq]
    rfl
  rw [heading, short]

/-! ## A request after the pulse -/

section Asked
variable {startStop : Nat → Bool} {m : Nat}

theorem pulseRun_paced (startStop : Nat → Bool) (n : Nat) :
    Paced n startStop fun t => (regs (pulseRun false startStop) t).defEtats.currentSt :=
  DefEtats.paced_of_steps (i := fun t => modes (pulseRun false startStop t))
    (regs_latched (pulseRun false startStop) 0) (regs_wf (pulseRun false startStop) 0).settled
    (fun _ => rfl) (fun _ _ => rfl) fun _ _ => rfl

theorem pulseRun_stopped {t : Nat} (quiet : ∀ u ≤ t, startStop u = false) :
    (regs (pulseRun false startStop) (t + 1)).defEtats.currentSt = .stStopAq :=
  (pulseRun_paced startStop (t + 1)).rests rfl (Nat.lt_succ_self t) quiet

theorem pulseRun_request (positive : 1 ≤ m) (quiet : ∀ u < m, startStop u = false)
    (asked : startStop m = true) : Request (pulseRun false startStop) m := by
  obtain ⟨t, rfl⟩ := Nat.exists_eq_add_of_le' positive
  have stopped := pulseRun_stopped (t := t) fun u le => quiet u (by omega)
  refine ⟨?_, ?_, fun _ _ => ⟨rfl, rfl⟩⟩
  · rw [currentSt, run_eq]
    exact stopped
  · have step := pulseRun_paced startStop (t + 2) (t + 1) (by omega)
    simp only at step
    rw [stopped, asked] at step
    rw [currentSt, run_eq]
    exact step

theorem pulseRun_unread (quiet : ∀ u < m, startStop u = false) :
    (regs (pulseRun false startStop) (1 + m)).dataCompas = 0 := by
  refine ((follows_regs (pulseRun false startStop)).compas.kept (a := 1) (n := m)
    (fun _ _ => rfl) fun i lt => ?_).trans rfl
  rw [Regs.demAcquisition, Nat.add_comm 1 i,
    pulseRun_stopped fun u le => quiet u (by omega)]
  rfl

end Asked

/-- The request comes in cycle `m` and stays. -/
def requestRun (m : Nat) : Nat → Ports := pulseRun false fun t => decide (m ≤ t)

section RequestRun
variable {m : Nat}

theorem requestRun_request (positive : 1 ≤ m) : Request (requestRun m) m :=
  pulseRun_request positive (fun _ before => decide_eq_false (Nat.not_le_of_gt before))
    (decide_eq_true (Nat.le_refl m))

theorem requestRun_heading (refreshed : 4999999 ≤ m) (soon : m + 1 ≤ 4999999 + 5000000) :
    degresStable1s (requestRun m) (m + 1) = 133 := by
  rw [degresStable1s, run_eq]
  exact pulseRun_stable1s false (fun t => decide (m ≤ t)) (by omega) soon

theorem requestRun_waits (positive : 1 ≤ m) (d : Nat) :
    currentSt (requestRun m) (m + 1 + 1 + d) = .stStartAq := by
  have acquires := (requestRun_request positive).acquires
  rw [currentSt, run_eq] at acquires ⊢
  exact (pulseRun_paced _ (m + 1 + 1 + d)).holds (Nat.le_refl _) acquires
    fun k after _ => decide_eq_true (by omega)

theorem requestRun_open (positive : 1 ≤ m) {u : Nat} (after : m < u) :
    currentSt (requestRun m) u ≠ .stStopAq := by
  intro stopped
  rcases Nat.lt_or_ge (m + 1) u with late | early
  · obtain ⟨d, rfl⟩ := Nat.exists_eq_add_of_le (show m + 1 + 1 ≤ u from late)
    rw [requestRun_waits positive d] at stopped
    exact absurd stopped (by decide)
  · obtain rfl : u = m + 1 := by omega
    rw [(requestRun_request positive).acquires] at stopped
    exact absurd stopped (by decide)

/-- The first refreshed heading is asked for: in the cycle of the acquisition the
output is valid and still 0. -/
theorem requestRun_early (refreshed : 4999999 ≤ m) (soon : m + 1 ≤ 4999999 + 5000000) :
    ¬ Honoured (requestRun m) m (m + 1) := by
  have request := requestRun_request (m := m) (by omega)
  intro honoured
  have first := honoured (m + 1) (Nat.le_refl _)
    (fun u after _ => requestRun_open (by omega) after) request.valid
  have unread := pulseRun_unread (m := m) fun u before => decide_eq_false (Nat.not_le_of_gt before)
  rw [requestRun_heading refreshed soon, dataCompas, run_eq, Nat.add_comm m 1] at first
  have equal : (0 : BitVec 9) = 133 := unread.symm.trans first
  exact absurd equal (by decide)

end RequestRun

theorem requestRun_delivered :
    dataValid (requestRun 5000001) 5000004 = true ∧
      dataCompas (requestRun 5000001) 5000004 = 133 := by
  have valid : dataValid (requestRun 5000001) 5000004 = true :=
    dataValid_of_moving rfl (requestRun_open (by decide) (by decide))
  refine ⟨valid, ?_⟩
  rw [request_delivered (requestRun_request (by decide)) 5000004 (by decide)
    (fun _ after _ => requestRun_open (by decide) after) valid]
  exact requestRun_heading (by decide) (by decide)

theorem request_valid_too_early :
    ¬ ∀ (wave : Nat → Ports) (a : Nat), Request wave a → Honoured wave a (a + 1) := by
  intro honoured
  exact requestRun_early (m := 5000001) (by decide) (by decide)
    (honoured _ _ (requestRun_request (by decide)))

end Voilier.ConversionAdaptation
