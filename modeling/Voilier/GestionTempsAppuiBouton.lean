import Voilier.Primitives

/-!
# gestion_temps_appui_bouton

Measures how long a button stays pressed and shows, for one cycle after the
release, the code `01` (short press) or `10` (long press).
-/

set_option autoImplicit false

namespace Voilier.GestionTempsAppuiBouton

open DeltaCycle

structure Ports where
  clkI : Bool
  razNI : Bool
  btnI : Bool

structure Driven where
  rstComp : Bool := false
  validCpt : Bool := false
  tempoAppuiBtn : BitVec 2 := 0b00#2
deriving DecidableEq

/-- `counter.qnO` is `tps_appuis_bt_m` and `edge.feO` is `fe_btn`. -/
@[ext]
structure Signals where
  raz : Bool
  counter : Counter.Signals 27 := {}
  edge : EdgeDetector.Signals := {}
  driven : Driven := {}
  appuiBtnO : BitVec 2 := 0b00#2
deriving DecidableEq

/-- The code of a release after `tps` counted cycles. -/
def classify (tps : BitVec 27) : BitVec 2 :=
  if 99999999 / 100 ≤ tps.toNat then 0b10#2
  else if tps.toNat < 99999999 / 100 ∧ tps.toNat ≠ 0 then 0b01#2
  else 0b00#2

/-- The branch of the process under `rising_edge(clk_i)`.  All conditions read
the values from before the edge; the two last `if`s override the ones above. -/
def clocked (tpsAppuisBtM : BitVec 27) (feBtn btnI : Bool) (s : Driven) : Driven :=
  let next := s
  let next :=
    if tpsAppuisBtM = 0b111111111111111111111111111#27 then { next with validCpt := false }
    else { next with validCpt := btnI }
  let next :=
    if feBtn then { next with tempoAppuiBtn := classify tpsAppuisBtM, rstComp := true }
    else next
  let next :=
    if tpsAppuisBtM = 0b000000000000000000000000000#27 then { next with rstComp := false }
    else next
  if s.tempoAppuiBtn = 0b01#2 ∨ s.tempoAppuiBtn = 0b10#2 then
    { next with tempoAppuiBtn := 0b00#2 }
  else next

def cleared (s : Driven) : Driven := { s with tempoAppuiBtn := 0b00#2 }

/-- `process(tps_appuis_bt_m, fe_btn, raz_n_i, clk_i)`. -/
def press (p p' : Ports) (s s' : Signals) : Driven :=
  if event s.counter.qnO s'.counter.qnO || event s.edge.feO s'.edge.feO ||
      event p.razNI p'.razNI || event p.clkI p'.clkI then
    if !p'.razNI then cleared s'.driven
    else if risingEdge p.clkI p'.clkI then
      clocked s'.counter.qnO s'.edge.feO p'.btnI s'.driven
    else s'.driven
  else s'.driven

def counterPorts (p : Ports) (s : Signals) : Counter.Ports :=
  ⟨p.clkI, s.raz, s.driven.rstComp, s.driven.validCpt⟩

def edgePorts (p : Ports) : EdgeDetector.Ports := ⟨p.clkI, true, p.btnI⟩

def entity : Entity Ports Signals where
  delta p p' s s' :=
    { raz := !p'.razNI
      counter := (Counter.entity 27).delta (counterPorts p s) (counterPorts p' s')
        s.counter s'.counter
      edge := EdgeDetector.entity.delta (edgePorts p) (edgePorts p') s.edge s'.edge
      driven := press p p' s s'
      appuiBtnO := s'.driven.tempoAppuiBtn }

/-! ## One clock cycle -/

structure Regs where
  tps : BitVec 27 := 0
  s : Bool := false
  driven : Driven := {}
deriving DecidableEq

def stable (p : Ports) (x : Regs) : Signals where
  raz := !p.razNI
  counter := Counter.stable x.tps
  edge := EdgeDetector.stable p.btnI x.s
  driven := x.driven
  appuiBtnO := x.driven.tempoAppuiBtn

def Regs.feBtn (p : Ports) (x : Regs) : Bool := !p.btnI && x.s

/-- What the classification process leaves behind at the edge that ends a cycle
with ports `p`. -/
def Regs.atEdge (p : Ports) (x : Regs) : Driven :=
  if p.razNI then clocked x.tps (x.feBtn p) p.btnI x.driven else cleared x.driven

/-- The registers one cycle later: `p` are the ports of the cycle that ends and
`p'` those of the cycle that begins. -/
def Regs.next (p p' : Ports) (x : Regs) : Regs where
  tps :=
    if p'.razNI then
      Counter.afterEdge (!p.razNI) x.driven.rstComp x.driven.validCpt x.tps
    else 0
  s := p.btnI
  driven := if p'.razNI then x.atEdge p else cleared (x.atEdge p)

@[simp] theorem cleared_cleared (s : Driven) : cleared (cleared s) = cleared s := rfl

structure Rises (ports : Nat → Ports) (p p' : Ports) : Prop where
  clk : ∀ d, (ports d).clkI = wave [false] true d
  razN : ∀ d, (ports d).razNI = wave [p.razNI, p.razNI] p'.razNI d
  btn : ∀ d, (ports d).btnI = wave [p.btnI, p.btnI] p'.btnI d

section Rising
variable {ports : Nat → Ports} {p p' : Ports} {x : Regs}

theorem trace_counter (d : Nat) :
    (entity.trace ports (stable p x) d).counter =
      (Counter.entity 27).trace
        (fun d => counterPorts (ports d) (entity.trace ports (stable p x) d))
        (Counter.stable x.tps) d :=
  trace_instance entity ports (stable p x) (Counter.entity 27) counterPorts
    Signals.counter (fun _ _ _ _ => rfl) d

theorem trace_edge (d : Nat) :
    (entity.trace ports (stable p x) d).edge =
      EdgeDetector.entity.trace (fun d => edgePorts (ports d))
        (EdgeDetector.stable p.btnI x.s) d :=
  trace_instance entity ports (stable p x) EdgeDetector.entity (fun p _ => edgePorts p)
    Signals.edge (fun _ _ _ _ => rfl) d

theorem rising_raz (rises : Rises ports p p') (d : Nat) :
    (entity.trace ports (stable p x) d).raz =
      wave [!p.razNI, !p.razNI, !p.razNI] (!p'.razNI) d :=
  assign_wave entity ports (stable p x) Signals.raz (fun p _ => p.razNI) not
    (fun _ _ _ _ => rfl) (by simp [stable, rises.razN]) rises.razN d

theorem rising_s (rises : Rises ports p p') (d : Nat) :
    (entity.trace ports (stable p x) d).edge.bascule.sO = wave [x.s, x.s] p.btnI d := by
  rw [trace_edge, EdgeDetector.rising_s rises.clk (fun _ => rfl)]
  simp [edgePorts, rises.btn]

theorem rising_detect (rises : Rises ports p p') (d : Nat) :
    (entity.trace ports (stable p x) d).edge.reO =
        wave [p.btnI && !x.s, p.btnI && !x.s, p.btnI && !x.s] (p'.btnI && !p.btnI) d ∧
      (entity.trace ports (stable p x) d).edge.feO =
        wave [x.feBtn p, x.feBtn p, x.feBtn p] (!p'.btnI && p.btnI) d := by
  cases d with
  | zero => exact ⟨rfl, rfl⟩
  | succ d =>
      have detected := EdgeDetector.trace_detect (fun d => edgePorts (ports d)) x.s d
      simp only [show (edgePorts (ports 0)).eI = p.btnI by simp [edgePorts, rises.btn],
        ← trace_edge, rising_s rises] at detected
      rw [detected.1, detected.2]
      rcases d with _ | _ | d <;> simp [edgePorts, rises.btn, Regs.feBtn]

theorem rising_tps (rises : Rises ports p p') (d : Nat) :
    (entity.trace ports (stable p x) d).counter.qnTemp =
        wave [x.tps, x.tps,
            Counter.afterEdge (!p.razNI) x.driven.rstComp x.driven.validCpt x.tps,
            Counter.afterEdge (!p.razNI) x.driven.rstComp x.driven.validCpt x.tps]
          (x.next p p').tps d ∧
      (entity.trace ports (stable p x) d).counter.qnO =
        wave [x.tps, x.tps, x.tps,
            Counter.afterEdge (!p.razNI) x.driven.rstComp x.driven.validCpt x.tps,
            Counter.afterEdge (!p.razNI) x.driven.rstComp x.driven.validCpt x.tps]
          (x.next p p').tps d := by
  have reset : ∀ d, (entity.trace ports (stable p x) d).raz =
      wave [!p.razNI, !p.razNI, !p.razNI, !p'.razNI] (!p'.razNI) d := by
    intro d
    rw [rising_raz rises]
    exact (wave_append_final _ _ d).symm
  rw [trace_counter, Counter.rising_qnTemp rises.clk reset, Counter.rising_qnO rises.clk reset]
  constructor <;> rcases d with _ | _ | _ | _ | _ | _ | d <;> cases h : p'.razNI <;>
    simp [counterPorts, stable, Regs.next, h]

theorem press_noEdge {p p' : Ports} (s s' : Signals)
    (noEdge : risingEdge p.clkI p'.clkI = false) :
    press p p' s s' = s'.driven ∨ (p'.razNI = false ∧ press p p' s s' = cleared s'.driven) := by
  unfold press
  split_ifs with awake reset rise
  · exact Or.inr ⟨by simpa using reset, rfl⟩
  · simp [noEdge] at rise
  · exact Or.inl rfl
  · exact Or.inl rfl

theorem rising_driven (rises : Rises ports p p') (d : Nat) :
    (entity.trace ports (stable p x) d).driven =
      wave [x.driven, x.driven, x.atEdge p] (x.next p p').driven d := by
  induction d with
  | zero => rfl
  | succ d ih =>
      cases d with
      | zero => rfl
      | succ d =>
          rw [trace_step]
          change press (ports d) (ports (d + 1)) _ _ = _
          rcases d with _ | _ | d
          · cases raz : p.razNI <;>
              simp [press, stable, rises.clk, rises.razN, rises.btn, raz, event, risingEdge,
                Regs.atEdge, Regs.feBtn, EdgeDetector.stable, Counter.stable]
          · have noEdge : risingEdge (ports 1).clkI (ports 2).clkI = false := by
              simp [rises.clk]
            have atEdge : (entity.trace ports (stable p x) 2).driven = x.atEdge p := by
              simpa using ih
            cases raz' : p'.razNI with
            | true =>
                rcases press_noEdge _ _ noEdge with kept | ⟨reset, -⟩
                · rw [kept, atEdge]
                  simp [Regs.next, raz']
                · simp [rises.razN, raz'] at reset
            | false =>
                cases raz : p.razNI with
                | true =>
                    -- the falling `raz_n_i` wakes the process
                    simp [press, rises.razN, raz, raz', event, atEdge, Regs.next]
                | false =>
                    rcases press_noEdge _ _ noEdge with kept | ⟨-, wiped⟩
                    · rw [kept, atEdge]
                      simp [Regs.next, raz', Regs.atEdge, raz]
                    · rw [wiped, atEdge]
                      simp [Regs.next, raz']
          · have noEdge : risingEdge (ports (d + 2)).clkI (ports (d + 3)).clkI = false := by
              simp [rises.clk]
            have settled : (entity.trace ports (stable p x) (d + 3)).driven =
                (x.next p p').driven := by
              simpa using ih
            rcases press_noEdge _ _ noEdge with kept | ⟨reset, wiped⟩
            · rw [kept, settled]
              simp
            · have raz' : p'.razNI = false := by simpa [rises.razN] using reset
              rw [wiped, settled]
              simp [Regs.next, raz']

theorem rising_appuiBtnO (rises : Rises ports p p') (d : Nat) :
    (entity.trace ports (stable p x) d).appuiBtnO =
      wave [x.driven.tempoAppuiBtn, x.driven.tempoAppuiBtn, x.driven.tempoAppuiBtn,
          (x.atEdge p).tempoAppuiBtn]
        (x.next p p').driven.tempoAppuiBtn d :=
  assign_wave entity ports (stable p x) Signals.appuiBtnO (fun _ s => s.driven)
    Driven.tempoAppuiBtn (fun _ _ _ _ => rfl) rfl (rising_driven rises) d

theorem rising_stable (rises : Rises ports p p') {d : Nat} (late : 6 ≤ d) :
    entity.trace ports (stable p x) d = stable p' (x.next p p') := by
  obtain ⟨d, rfl⟩ := Nat.exists_eq_add_of_le' late
  have tps := rising_tps (x := x) rises (d + 6)
  have detect := rising_detect (x := x) rises (d + 6)
  exact Signals.ext (rising_raz rises (d + 6)) (Counter.Signals.ext tps.1 tps.2)
    (EdgeDetector.Signals.ext (BasculeD.Signals.ext (rising_s rises (d + 6))) detect.1 detect.2)
    (rising_driven rises (d + 6)) (rising_appuiBtnO rises (d + 6))

end Rising

def Regs.Held (p : Ports) (x : Regs) : Prop :=
  p.razNI = false → x.tps = 0 ∧ x.driven.tempoAppuiBtn = 0b00#2

theorem Regs.next_held (p p' : Ports) (x : Regs) : (x.next p p').Held p' := by
  intro reset
  simp [Regs.next, reset, cleared]

theorem delta_quiet (p p' : Ports) (x : Regs) (held : x.Held p')
    (noEdge : risingEdge p.clkI p'.clkI = false) :
    entity.delta p p' (stable p' x) (stable p' x) = stable p' x := by
  have counter := Counter.delta_quiet (counterPorts p (stable p' x))
    (counterPorts p' (stable p' x)) x.tps noEdge
    (fun reset => (held (by simpa [counterPorts, stable] using reset)).1)
  have edge := EdgeDetector.delta_quiet (edgePorts p) (edgePorts p') x.s noEdge
  have driven : press p p' (stable p' x) (stable p' x) = x.driven := by
    rcases press_noEdge (stable p' x) (stable p' x) noEdge with kept | ⟨reset, wiped⟩
    · exact kept
    · rw [wiped]
      simp [cleared, stable, ← (held reset).2]
  change Signals.mk _ _ _ _ _ = Signals.mk _ _ _ _ _
  rw [Signals.mk.injEq]
  exact ⟨rfl, counter, edge, driven, rfl⟩

/-! ## Codes -/

def Regs.Coded (x : Regs) : Prop :=
  x.driven.tempoAppuiBtn = 0b00#2 ∨ x.driven.tempoAppuiBtn = 0b01#2 ∨
    x.driven.tempoAppuiBtn = 0b10#2

theorem classify_cases (tps : BitVec 27) :
    classify tps = 0b00#2 ∨ classify tps = 0b01#2 ∨ classify tps = 0b10#2 := by
  unfold classify
  split_ifs <;> simp

/-- The code after an edge outside reset. -/
theorem clocked_tempoAppuiBtn (tps : BitVec 27) (feBtn btnI : Bool) (s : Driven) :
    (clocked tps feBtn btnI s).tempoAppuiBtn =
      if s.tempoAppuiBtn = 0b01#2 ∨ s.tempoAppuiBtn = 0b10#2 then 0b00#2
      else if feBtn = true then classify tps else s.tempoAppuiBtn := by
  unfold clocked
  by_cases shown : s.tempoAppuiBtn = 0b01#2 ∨ s.tempoAppuiBtn = 0b10#2
  · simp [shown]
  · simp only [shown, if_false]
    split_ifs <;> rfl

theorem Regs.Coded.next {x : Regs} (coded : x.Coded) (p p' : Ports) :
    (x.next p p').Coded := by
  have shown := clocked_tempoAppuiBtn x.tps (x.feBtn p) p.btnI x.driven
  have codes := classify_cases x.tps
  unfold Regs.Coded at coded ⊢
  simp only [Regs.next, Regs.atEdge]
  cases p'.razNI with
  | false => simp [cleared]
  | true =>
      cases p.razNI with
      | false => simp [cleared]
      | true =>
          simp only [if_true, shown]
          split_ifs
          · exact Or.inl rfl
          · exact codes
          · exact coded

theorem Regs.atEdge_silent {p : Ports} (resetting : p.razNI = false) (x : Regs) :
    (x.atEdge p).tempoAppuiBtn = 0b00#2 := by
  simp [Regs.atEdge, resetting, cleared]

theorem Regs.next_silent {p : Ports} (resetting : p.razNI = false) (p' : Ports) (x : Regs) :
    (x.next p p').driven.tempoAppuiBtn = 0b00#2 := by
  have silent := x.atEdge_silent resetting
  unfold Regs.next
  split_ifs
  · exact silent
  · rfl

theorem Regs.atEdge_resting {x : Regs} (silent : x.driven.tempoAppuiBtn = 0b00#2)
    (low : x.s = false) (p : Ports) : (x.atEdge p).tempoAppuiBtn = 0b00#2 := by
  unfold Regs.atEdge
  split_ifs
  · rw [clocked_tempoAppuiBtn]
    simp [silent, Regs.feBtn, low]
  · rfl

theorem Regs.next_resting {x : Regs} (silent : x.driven.tempoAppuiBtn = 0b00#2)
    (low : x.s = false) (p p' : Ports) : (x.next p p').driven.tempoAppuiBtn = 0b00#2 := by
  unfold Regs.next
  split_ifs
  · exact x.atEdge_resting silent low p
  · rfl

/-- A code lasts one cycle. -/
theorem Regs.Coded.fresh {x : Regs} (coded : x.Coded) (p p' : Ports) :
    x.driven.tempoAppuiBtn = 0b00#2 ∨ (x.next p p').driven.tempoAppuiBtn = 0b00#2 := by
  have shown := clocked_tempoAppuiBtn x.tps (x.feBtn p) p.btnI x.driven
  rcases coded with silent | code
  · exact Or.inl silent
  · right
    simp only [Regs.next, Regs.atEdge]
    cases p'.razNI with
    | false => rfl
    | true =>
        cases p.razNI with
        | false => rfl
        | true => simp only [if_true, shown, if_pos code]

end Voilier.GestionTempsAppuiBouton
