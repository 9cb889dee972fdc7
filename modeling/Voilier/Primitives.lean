import Voilier.DeltaCycle

/-!
# counter, basculeD, registre and edge_detector

The four entities every other one is built from.  Each keeps its clocked
process, with its sensitivity list, and its concurrent assignments.
-/

set_option autoImplicit false

namespace Voilier

open DeltaCycle

/-! ## counter.vhd -/

namespace Counter

structure Ports where
  clkI : Bool
  arstI : Bool
  srstI : Bool
  enI : Bool

@[ext]
structure Signals (N : Nat) where
  qnTemp : BitVec N := 0
  qnO : BitVec N := 0
deriving DecidableEq

/-- The branch of the process under `rising_edge(clk_i)`: the synchronous reset
goes before the enable. -/
def clocked {N : Nat} (srstI enI : Bool) (qnTemp : BitVec N) : BitVec N :=
  if srstI then 0 else if enI then qnTemp + 1 else qnTemp

/-- `process(clk_i, arst_i)`. -/
def count {N : Nat} (p p' : Ports) (qnTemp : BitVec N) : BitVec N :=
  if event p.clkI p'.clkI || event p.arstI p'.arstI then
    if p'.arstI then 0
    else if risingEdge p.clkI p'.clkI then clocked p'.srstI p'.enI qnTemp
    else qnTemp
  else qnTemp

def entity (N : Nat) : Entity Ports (Signals N) where
  delta p p' _ s' :=
    { qnTemp := count p p' s'.qnTemp
      qnO := s'.qnTemp }

def afterEdge {N : Nat} (arst srst en : Bool) (qn : BitVec N) : BitVec N :=
  if arst then 0 else clocked srst en qn

theorem afterCycle {N : Nat} {arst' arst srst en : Bool} {qn : BitVec N} :
    (if arst' = true then 0 else afterEdge arst srst en qn) =
      if (arst' || arst || srst) = true then 0 else if en = true then qn + 1 else qn := by
  cases arst' <;> cases arst <;> cases srst <;> simp [afterEdge, clocked]

def stable {N : Nat} (qn : BitVec N) : Signals N := ⟨qn, qn⟩

section Rising
variable {N : Nat} {ports : Nat → Ports} {qn : BitVec N} {arst arst₃ arst' : Bool}

/-- The reset port `arst_i` is driven from a signal that may move in two steps:
it is `arst` up to delta 2, `arst₃` in delta 3 and `arst'` from then on. -/
theorem rising_qnTemp (clk : ∀ d, (ports d).clkI = wave [false] true d)
    (reset : ∀ d, (ports d).arstI = wave [arst, arst, arst, arst₃] arst' d) (d : Nat) :
    ((entity N).trace ports (stable qn) d).qnTemp =
      wave [qn, qn, afterEdge arst (ports 1).srstI (ports 1).enI qn,
          afterEdge arst (ports 1).srstI (ports 1).enI qn,
          if arst₃ then 0 else afterEdge arst (ports 1).srstI (ports 1).enI qn]
        (if arst₃ || arst' then 0 else afterEdge arst (ports 1).srstI (ports 1).enI qn) d := by
  induction d with
  | zero => rfl
  | succ d ih =>
      cases d with
      | zero => rfl
      | succ d =>
          rw [trace_step]
          change count (ports d) (ports (d + 1)) _ = _
          rw [ih]
          rcases d with _ | _ | _ | _ | d
          · cases arst <;> simp [count, clk, reset, event, risingEdge, afterEdge]
          · cases arst <;> simp [count, clk, reset, event, afterEdge]
          · cases arst <;> cases arst₃ <;> simp [count, clk, reset, event, afterEdge]
          · cases arst₃ <;> cases arst' <;> simp [count, clk, reset, event]
          · cases arst₃ <;> cases arst' <;> simp [count, clk, reset, event]

theorem rising_qnO (clk : ∀ d, (ports d).clkI = wave [false] true d)
    (reset : ∀ d, (ports d).arstI = wave [arst, arst, arst, arst₃] arst' d) (d : Nat) :
    ((entity N).trace ports (stable qn) d).qnO =
      wave [qn, qn, qn, afterEdge arst (ports 1).srstI (ports 1).enI qn,
          afterEdge arst (ports 1).srstI (ports 1).enI qn,
          if arst₃ then 0 else afterEdge arst (ports 1).srstI (ports 1).enI qn]
        (if arst₃ || arst' then 0 else afterEdge arst (ports 1).srstI (ports 1).enI qn) d :=
  assign_wave (entity N) ports (stable qn) Signals.qnO (fun _ s => s.qnTemp) id
    (fun _ _ _ _ => rfl) rfl (rising_qnTemp clk reset) d

theorem rising_settled (clk : ∀ d, (ports d).clkI = wave [false] true d)
    (reset : ∀ d, (ports d).arstI = wave [arst, arst, arst, arst₃] arst' d)
    (kept : arst₃ = true → arst' = true) {d : Nat} (late : 6 ≤ d) :
    (entity N).trace ports (stable qn) d =
      stable (if arst' then 0 else afterEdge arst (ports 1).srstI (ports 1).enI qn) := by
  obtain ⟨d, rfl⟩ := Nat.exists_eq_add_of_le' late
  have either : (arst₃ || arst') = arst' := by cases arst₃ <;> simp_all
  have counted := @rising_qnTemp N ports qn arst arst₃ arst' clk reset (d + 6)
  have shown := @rising_qnO N ports qn arst arst₃ arst' clk reset (d + 6)
  simp only [either, wave_succ, wave_nil] at counted shown
  exact Signals.ext counted shown

end Rising

theorem delta_quiet {N : Nat} (p p' : Ports) (qn : BitVec N)
    (noEdge : risingEdge p.clkI p'.clkI = false) (held : p'.arstI = true → qn = 0) :
    (entity N).delta p p' (stable qn) (stable qn) = stable qn := by
  have kept : count p p' qn = qn := by
    simp only [count, noEdge]
    split_ifs with _ reset <;> simp_all
  simp [entity, stable, kept]

end Counter

/-! ## basculeD.vhd -/

namespace BasculeD

structure Ports where
  clkI : Bool
  enI : Bool
  eI : Bool
  srstI : Bool

@[ext]
structure Signals where
  sO : Bool := false
deriving DecidableEq

/-- `process(clk_i)`. -/
def sample (p p' : Ports) (sO : Bool) : Bool :=
  if event p.clkI p'.clkI then
    if risingEdge p.clkI p'.clkI then
      if p'.srstI then false else if p'.enI then p'.eI else sO
    else sO
  else sO

def entity : Entity Ports Signals where
  delta p p' _ s' := { sO := sample p p' s'.sO }

theorem rising_sO {ports : Nat → Ports} {s : Bool}
    (clk : ∀ d, (ports d).clkI = wave [false] true d) (en : ∀ d, (ports d).enI = true)
    (srst : ∀ d, (ports d).srstI = false) (d : Nat) :
    (entity.trace ports ⟨s⟩ d).sO = wave [s, s] (ports 1).eI d := by
  induction d with
  | zero => rfl
  | succ d ih =>
      cases d with
      | zero => rfl
      | succ d =>
          rw [trace_step]
          change sample (ports d) (ports (d + 1)) _ = _
          rw [ih]
          rcases d with _ | d
          · simp [sample, clk, en, srst, event, risingEdge]
          · cases d <;> simp [sample, clk]

theorem delta_quiet (p p' : Ports) (s : Bool) (noEdge : risingEdge p.clkI p'.clkI = false) :
    entity.delta p p' ⟨s⟩ ⟨s⟩ = ⟨s⟩ := by
  simp [entity, sample, noEdge]

end BasculeD

/-! ## registre.vhd -/

namespace Registre

structure Ports (N : Nat) where
  clkI : Bool
  arstI : Bool
  enI : Bool
  eI : BitVec N

@[ext]
structure Signals (N : Nat) where
  sO : BitVec N := 0
deriving DecidableEq

/-- `process(clk_i, arst_i)`. -/
def load {N : Nat} (p p' : Ports N) (sO : BitVec N) : BitVec N :=
  if event p.clkI p'.clkI || event p.arstI p'.arstI then
    if p'.arstI then 0
    else if risingEdge p.clkI p'.clkI then if p'.enI then p'.eI else sO
    else sO
  else sO

def entity (N : Nat) : Entity (Ports N) (Signals N) where
  delta p p' _ s' := { sO := load p p' s'.sO }

def afterEdge {N : Nat} (arst en : Bool) (e sO : BitVec N) : BitVec N :=
  if arst then 0 else if en then e else sO

theorem afterCycle {N : Nat} {arst' arst en : Bool} {e sO : BitVec N} :
    (if arst' = true then 0 else afterEdge arst en e sO) =
      if (arst' || arst) = true then 0 else if en = true then e else sO := by
  cases arst' <;> simp [afterEdge]

theorem rising_sO {N : Nat} {ports : Nat → Ports N} {s : BitVec N} {arst arst₃ arst' : Bool}
    (clk : ∀ d, (ports d).clkI = wave [false] true d)
    (reset : ∀ d, (ports d).arstI = wave [arst, arst, arst, arst₃] arst' d) (d : Nat) :
    ((entity N).trace ports ⟨s⟩ d).sO =
      wave [s, s, afterEdge arst (ports 1).enI (ports 1).eI s,
          afterEdge arst (ports 1).enI (ports 1).eI s,
          if arst₃ then 0 else afterEdge arst (ports 1).enI (ports 1).eI s]
        (if arst₃ || arst' then 0 else afterEdge arst (ports 1).enI (ports 1).eI s) d := by
  induction d with
  | zero => rfl
  | succ d ih =>
      cases d with
      | zero => rfl
      | succ d =>
          rw [trace_step]
          change load (ports d) (ports (d + 1)) _ = _
          rw [ih]
          rcases d with _ | _ | _ | _ | d
          · cases arst <;> simp [load, clk, reset, event, risingEdge, afterEdge]
          · cases arst <;> simp [load, clk, reset, event, afterEdge]
          · cases arst <;> cases arst₃ <;> simp [load, clk, reset, event, afterEdge]
          · cases arst₃ <;> cases arst' <;> simp [load, clk, reset, event]
          · cases arst₃ <;> cases arst' <;> simp [load, clk, reset, event]

theorem rising_settled {N : Nat} {ports : Nat → Ports N} {s : BitVec N} {arst arst₃ arst' : Bool}
    (clk : ∀ d, (ports d).clkI = wave [false] true d)
    (reset : ∀ d, (ports d).arstI = wave [arst, arst, arst, arst₃] arst' d)
    (kept : arst₃ = true → arst' = true) {d : Nat} (late : 5 ≤ d) :
    (entity N).trace ports ⟨s⟩ d =
      ⟨if arst' then 0 else afterEdge arst (ports 1).enI (ports 1).eI s⟩ := by
  obtain ⟨d, rfl⟩ := Nat.exists_eq_add_of_le' late
  have either : (arst₃ || arst') = arst' := by cases arst₃ <;> simp_all
  have loaded := rising_sO (s := s) clk reset (d + 5)
  simp only [either, wave_succ, wave_nil] at loaded
  exact Signals.ext loaded

theorem delta_quiet {N : Nat} (p p' : Ports N) (s : BitVec N)
    (noEdge : risingEdge p.clkI p'.clkI = false) (held : p'.arstI = true → s = 0) :
    (entity N).delta p p' ⟨s⟩ ⟨s⟩ = ⟨s⟩ := by
  have kept : load p p' s = s := by
    simp only [load, noEdge]
    split_ifs with _ reset <;> simp_all
  simp [entity, kept]

end Registre

/-! ## edge_detector.vhd -/

namespace EdgeDetector

structure Ports where
  clkI : Bool
  enI : Bool
  eI : Bool

/-- `bascule.sO` is the internal signal `s`. -/
@[ext]
structure Signals where
  bascule : BasculeD.Signals := {}
  reO : Bool := false
  feO : Bool := false
deriving DecidableEq

/-- `process(clk_i, E_i, s)`; the result is `(re_o, fe_o)`. -/
def detect (p p' : Ports) (s s' : Signals) : Bool × Bool :=
  if event p.clkI p'.clkI || event p.eI p'.eI || event s.bascule.sO s'.bascule.sO then
    if p'.eI && !s'.bascule.sO then (true, false)
    else if !p'.eI && s'.bascule.sO then (false, true)
    else (false, false)
  else (s'.reO, s'.feO)

/-- The port map of `basculeD_inst`: never reset. -/
def basculePorts (p : Ports) : BasculeD.Ports := ⟨p.clkI, p.enI, p.eI, false⟩

def entity : Entity Ports Signals where
  delta p p' s s' :=
    { bascule := BasculeD.entity.delta (basculePorts p) (basculePorts p') s.bascule s'.bascule
      reO := (detect p p' s s').1
      feO := (detect p p' s s').2 }

def stable (eI s : Bool) : Signals := ⟨⟨s⟩, eI && !s, !eI && s⟩

theorem trace_bascule (ports : Nat → Ports) (start : Signals) (d : Nat) :
    (entity.trace ports start d).bascule =
      BasculeD.entity.trace (fun d => basculePorts (ports d)) start.bascule d :=
  trace_instance entity ports start BasculeD.entity (fun p _ => basculePorts p)
    Signals.bascule (fun _ _ _ _ => rfl) d

theorem rising_s {ports : Nat → Ports} {s : Bool} {start : Bool}
    (clk : ∀ d, (ports d).clkI = wave [false] true d) (en : ∀ d, (ports d).enI = true) (d : Nat) :
    (entity.trace ports (stable start s) d).bascule.sO = wave [s, s] (ports 1).eI d := by
  rw [trace_bascule]
  exact @BasculeD.rising_sO (fun d => basculePorts (ports d)) s clk en (fun _ => rfl) d

/-- The process assigns both outputs on every path and is woken by everything it
reads, so in every delta they show the comparison of the delta before. -/
theorem trace_detect (ports : Nat → Ports) (s : Bool) (d : Nat) :
    let now := entity.trace ports (stable (ports 0).eI s) d
    let next := entity.trace ports (stable (ports 0).eI s) (d + 1)
    next.reO = ((ports d).eI && !now.bascule.sO) ∧
      next.feO = (!(ports d).eI && now.bascule.sO) := by
  induction d with
  | zero => simp [stable]
  | succ d ih =>
      obtain ⟨reEq, feEq⟩ := ih
      dsimp only at reEq feEq ⊢
      rw [trace_step]
      simp only [entity, detect] at reEq feEq ⊢
      split_ifs with awake rise fall <;>
        simp_all [event, Bool.and_eq_true, Bool.or_eq_true]

theorem rising_settled {ports : Nat → Ports} {e e' s : Bool}
    (clk : ∀ d, (ports d).clkI = wave [false] true d) (en : ∀ d, (ports d).enI = true)
    (input : ∀ d, (ports d).eI = wave [e, e] e' d) {d : Nat} (late : 3 ≤ d) :
    entity.trace ports (stable e s) d = stable e' e := by
  obtain ⟨d, rfl⟩ := Nat.exists_eq_add_of_le' late
  have first : (ports 0).eI = e := input 0
  have flip := @rising_s ports s e clk en
  have detected := trace_detect ports s (d + 2)
  simp only [first, flip, input, wave_succ, wave_zero, wave_nil] at detected
  refine Signals.ext (BasculeD.Signals.ext ?_) detected.1 detected.2
  exact (flip (d + 3)).trans (input 1)

theorem delta_quiet (p p' : Ports) (s : Bool) (noEdge : risingEdge p.clkI p'.clkI = false) :
    entity.delta p p' (stable p'.eI s) (stable p'.eI s) = stable p'.eI s := by
  have kept := BasculeD.delta_quiet (basculePorts p) (basculePorts p') s noEdge
  cases e : p'.eI <;> cases s <;> simp_all [entity, stable, detect]

end EdgeDetector

end Voilier
