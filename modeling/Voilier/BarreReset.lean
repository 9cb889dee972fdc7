import Voilier.BarreTurns

/-!
# A later reset of gestion_barre

The reset branch writes `current_st` only.  What `next_st` holds when the reset
arrives decides where the machine goes at its release.
-/

set_option autoImplicit false

namespace Voilier.GestionBarre

open DeltaCycle
open MachineEtat (State decode)

structure AtStandby (s : Signals) : Prop where
  currentSt : s.machine.currentSt = .stSTBY
  codeFonction : s.codeFonctionO = 0b0000#4
  modeLeds : s.machine.modeLedsO = false

/-- The STBY timer is about to show a short press. -/
def ShortRelease (s : Signals) : Prop :=
  s.btnAuto.edge.feO = true ∧
    GestionTempsAppuiBouton.classify s.btnAuto.counter.qnO = 0b01#2 ∧
    ¬ (s.btnAuto.driven.tempoAppuiBtn = 0b01#2 ∨ s.btnAuto.driven.tempoAppuiBtn = 0b10#2)

/-- The STBY button shows a short press while no beep sounds. -/
def Toggles (s : Signals) : Prop :=
  s.btnAuto.appuiBtnO = 0b01#2 ∧ s.bip.latches.activationBip = false

/-- The snapshots in which a reset finds, or makes, `next_st` standby. -/
def LatchesStandby (s : Snapshot Ports Signals) : Prop :=
  if s.ports.razNI = true then
    ¬ (ShortRelease s.signals ∧ s.signals.bip.latches.activationBip = false) ∧
      match s.signals.machine.nextSt with
      | .stSTBY => ¬ Toggles s.signals
      | .stAUTO => Toggles s.signals
      | .stSTBYbabord | .stSTBYtribord => True
      | _ => False
  else s.signals.machine.nextSt = .stSTBY

section Reset
variable {p p' : Ports} {x : Regs}

/-- `next_st` after the first cycle of a reset with the buttons low: one
evaluation in the state that was about to be entered, one in standby. -/
def Regs.nextStUnderReset (p : Ports) (x : Regs) : State :=
  let old := machineInputs ⟨false, false, false, false, false⟩ x.codes x.bip.latches
  let new := machineInputs ⟨false, false, false, false, false⟩ (x.codesAtEdge p) x.bip.latches
  decode new .stSTBY (decode old (x.machine.atEdge p.razNI) x.machine.nextSt)

theorem decode_rest {i : MachineEtat.Inputs} (silent : i.appuiBtnAutoI ≠ 0b01#2)
    (babord : i.btnBabordI = false) (tribord : i.btnTribordI = false) (next : State) :
    decode i .stSTBY next = next := by
  rw [MachineEtat.decode_standby silent, babord, tribord]
  rfl

structure Ports.Low (p : Ports) : Prop where
  stby : p.bpSTBYI = false
  babord : p.bpBabordI = false
  tribord : p.bpTribordI = false

theorem machineInputs_low (low : p'.Low) (c : Codes) (l : GestionBip.Latches) :
    machineInputs p' c l = machineInputs ⟨false, false, false, false, false⟩ c l := by
  simp [machineInputs, low.babord, low.tribord]

theorem enter_reset (low : p'.Low) (resetting' : p'.razNI = false) :
    (x.next p p').machine = ⟨.stSTBY, x.nextStUnderReset p⟩ := by
  have standby : x.machine.entered p.razNI p'.razNI = .stSTBY := by
    simp [MachineEtat.Regs.entered, resetting']
  have silent : (x.nextCodes p p').auto ≠ 0b01#2 := by
    have code : (x.nextCodes p p').auto = 0b00#2 := (x.btnAuto.next_held _ _ resetting').2
    simp [code]
  change MachineEtat.Regs.next p.razNI p'.razNI (x.phases p p') x.machine = _
  unfold MachineEtat.Regs.next
  rw [standby]
  simp only [Regs.phases]
  rw [decode_rest silent low.babord low.tribord, decode_rest silent low.babord low.tribord,
    decode_rest silent low.babord low.tribord, machineInputs_low low, machineInputs_low low]
  rfl

theorem stay_reset (wf : x.Wf p) (resetting : p.razNI = false) (low : p'.Low) :
    (x.next p p').machine = ⟨.stSTBY, x.machine.nextSt⟩ := by
  rw [reset_machine wf resetting, low.babord, low.tribord]
  rfl

structure Regs.Resting (x : Regs) : Prop where
  silent : x.codes.auto = 0b00#2
  low : x.btnAuto.s = false

theorem Regs.Resting.next (resting : x.Resting) (low : p.Low) (p' : Ports) :
    (x.next p p').Resting where
  silent := GestionTempsAppuiBouton.Regs.next_resting resting.silent resting.low _ _
  low := low.stby

theorem rest_standby (standby : x.machine = ⟨.stSTBY, .stSTBY⟩) (resting : x.Resting)
    (wasLow : p.Low) (low : p'.Low) : (x.next p p').machine = ⟨.stSTBY, .stSTBY⟩ := by
  have quiet : ∀ {c : Codes} {l : GestionBip.Latches}, c.auto = 0b00#2 →
      decode (machineInputs p' c l) .stSTBY .stSTBY = .stSTBY := by
    intro c l silent
    apply decode_rest _ low.babord low.tribord
    simp [machineInputs, silent]
  have atEdge : (x.codesAtEdge p).auto = 0b00#2 :=
    x.btnAuto.atEdge_resting resting.silent resting.low _
  have after : (x.nextCodes p p').auto = 0b00#2 := (resting.next wasLow p').silent
  have entered : x.machine.entered p.razNI p'.razNI = .stSTBY := by
    simp [MachineEtat.Regs.entered, MachineEtat.Regs.atEdge, standby]
  have atEdge' : x.machine.atEdge p.razNI = .stSTBY := by
    simp [MachineEtat.Regs.atEdge, standby]
  change MachineEtat.Regs.next p.razNI p'.razNI (x.phases p p') x.machine = _
  unfold MachineEtat.Regs.next
  rw [entered, atEdge', standby]
  simp only [Regs.phases]
  rw [quiet resting.silent, quiet atEdge, quiet after, quiet after, quiet after]

end Reset

/-! ## The whole reset -/

/-- A reset of `k + 1` cycles followed by a run without any button. -/
def resetWave (k : Nat) : Nat → Ports := startUp (k + 1) fun _ => {}

theorem resetWave_low (k t : Nat) : (resetWave k t).Low := ⟨rfl, rfl, rfl⟩

section Whole
variable {p : Ports} {x : Regs} {k : Nat}

theorem resetWave_machine (wf : x.Wf p) (t : Nat) (early : t ≤ k + 1) :
    (x.run p (resetWave k) t).machine = ⟨.stSTBY, x.nextStUnderReset p⟩ := by
  induction t with
  | zero => exact enter_reset (resetWave_low k 0) (by simp [resetWave, startUp])
  | succ t ih =>
      have resetting : (resetWave k t).razNI = false := by
        simp only [resetWave, startUp, decide_eq_false_iff_not]
        omega
      have stay := stay_reset (wf.run_wf (resetWave k) t) resetting (resetWave_low k (t + 1))
      rw [ih (by omega)] at stay
      exact stay

theorem resetWave_resting (t : Nat) : (x.run p (resetWave k) (t + 1)).Resting := by
  induction t with
  | zero =>
      refine ⟨?_, (resetWave_low k 0).stby⟩
      exact GestionTempsAppuiBouton.Regs.next_silent rfl _ _
  | succ t ih => exact ih.next (resetWave_low k (t + 1)) _

theorem resetWave_release (wf : x.Wf p) :
    (x.run p (resetWave k) (k + 2)).machine.currentSt = x.nextStUnderReset p := by
  have running : (resetWave k (k + 1)).razNI = true ∧ (resetWave k (k + 2)).razNI = true := by
    simp [resetWave, startUp]
  change ((x.run p (resetWave k) (k + 1)).next _ _).machine.currentSt = _
  rw [next_currentSt, if_pos ⟨running.2, running.1⟩, resetWave_machine wf (k + 1) (Nat.le_refl _)]

/-- The machine stays in standby exactly when the first cycle of the reset leaves
`next_st` there. -/
theorem resetWave_standby (wf : x.Wf p) :
    (∀ t, (x.run p (resetWave k) t).machine.currentSt = .stSTBY) ↔
      x.nextStUnderReset p = .stSTBY := by
  constructor
  · intro standby
    rw [← resetWave_release (k := k) wf]
    exact standby (k + 2)
  · intro latched
    have rests : ∀ t, (x.run p (resetWave k) t).machine = ⟨.stSTBY, .stSTBY⟩ := by
      intro t
      induction t with
      | zero => rw [resetWave_machine wf 0 (by omega), latched]
      | succ t ih =>
          by_cases early : t + 1 ≤ k + 1
          · rw [resetWave_machine wf (t + 1) early, latched]
          · obtain ⟨u, rfl⟩ : ∃ u, t = u + 1 := ⟨t - 1, by omega⟩
            exact rest_standby ih (resetWave_resting u) (resetWave_low k _) (resetWave_low k _)
    intro t
    rw [rests]

theorem shortRelease_iff (running : p.razNI = true) :
    ShortRelease (stable p x) ↔ (x.codesAtEdge p).auto = 0b01#2 := by
  have code : (x.codesAtEdge p).auto =
      if x.codes.auto = 0b01#2 ∨ x.codes.auto = 0b10#2 then 0b00#2
      else if x.btnAuto.feBtn (btnAutoPorts p) = true then
        GestionTempsAppuiBouton.classify x.btnAuto.tps
      else x.codes.auto := by
    simp only [Regs.codesAtEdge, GestionTempsAppuiBouton.Regs.atEdge, btnAutoPorts, running,
      if_true, GestionTempsAppuiBouton.clocked_tempoAppuiBtn]
    rfl
  change x.btnAuto.feBtn (btnAutoPorts p) = true ∧
    GestionTempsAppuiBouton.classify x.btnAuto.tps = 0b01#2 ∧
    ¬ (x.codes.auto = 0b01#2 ∨ x.codes.auto = 0b10#2) ↔ _
  rw [code]
  by_cases shown : x.codes.auto = 0b01#2 ∨ x.codes.auto = 0b10#2
  · simp [shown]
  · by_cases falls : x.btnAuto.feBtn (btnAutoPorts p) = true
    · simp [shown, falls]
    · have other : x.codes.auto ≠ 0b01#2 := fun short => shown (Or.inl short)
      rw [if_neg shown, if_neg falls]
      simp [falls, other]

theorem decode_entered {c : Codes} {l : GestionBip.Latches} {next : State} :
    decode (machineInputs ⟨false, false, false, false, false⟩ c l) next next = .stSTBY ↔
      match next with
      | .stSTBY => ¬ (c.auto = 0b01#2 ∧ l.activationBip = false)
      | .stAUTO => c.auto = 0b01#2 ∧ l.activationBip = false
      | .stSTBYbabord | .stSTBYtribord => True
      | _ => False := by
  cases next with
  | stSTBY => grind [decode, machineInputs]
  | stAUTO => grind [decode, machineInputs]
  | stSTBYbabord => simp [decode, machineInputs]
  | stSTBYtribord => simp [decode, machineInputs]
  | _ => grind [decode]

theorem nextStUnderReset_iff (wf : x.Wf p) :
    x.nextStUnderReset p = .stSTBY ↔ LatchesStandby ⟨p, stable p x⟩ := by
  by_cases running : p.razNI = true
  · have atEdge : x.machine.atEdge true = x.machine.nextSt := rfl
    simp only [LatchesStandby, running, if_true, shortRelease_iff running, Regs.nextStUnderReset]
    change _ ↔ ¬ ((x.codesAtEdge p).auto = 0b01#2 ∧ x.bip.latches.activationBip = false) ∧ _
    by_cases short : (x.codesAtEdge p).auto = 0b01#2 ∧ x.bip.latches.activationBip = false
    · simp [decode, machineInputs, short]
    · have rest : ∀ next, decode (machineInputs ⟨false, false, false, false, false⟩
          (x.codesAtEdge p) x.bip.latches) .stSTBY next = next := by
        intro next
        simp [decode, machineInputs, short]
      rw [rest, atEdge, decode_entered, and_iff_right short]
      rfl
  · have resetting : p.razNI = false := by simpa using running
    have atEdge : x.machine.atEdge false = .stSTBY := rfl
    have before : x.codes.auto = 0b00#2 := (wf.btnAuto resetting).2
    have after : (x.codesAtEdge p).auto = 0b00#2 := x.btnAuto.atEdge_silent resetting
    simp only [LatchesStandby, resetting, Regs.nextStUnderReset]
    rw [decode_rest (by simp [machineInputs, after]) rfl rfl, atEdge,
      decode_rest (by simp [machineInputs, before]) rfl rfl]
    rfl

/-- Returning to standby after a reset depends on what the reset finds in the
machine: exactly the snapshots `LatchesStandby` do. -/
theorem reset_standby_iff {s : Snapshot Ports Signals} (reached : entity.Reachable powerUp s)
    (k : Nat) :
    (∀ t, AtStandby (entity.run s (resetWave k) t).signals) ↔ LatchesStandby s := by
  obtain ⟨x, wf, eq⟩ := reachable_stable reached
  rw [eq, ← nextStUnderReset_iff wf, ← resetWave_standby (k := k) wf]
  simp only [run_from wf]
  constructor
  · intro standby t
    exact (standby t).currentSt
  · intro standby t
    have current := standby t
    exact ⟨current, by simp [stable, current]; rfl,
      by simp [stable, MachineEtat.stable, current]; rfl⟩

end Whole

theorem run_latchesStandby (wave : Nat → Ports) (t : Nat) :
    LatchesStandby (run wave t) ↔ (regs wave t).nextStUnderReset (wave t) = .stSTBY := by
  rw [run_eq]
  exact (nextStUnderReset_iff (regs_wf wave t)).symm

/-- Port is held from cycle 3 on. -/
def portHeld : Nat → Ports := startUp 1 fun t => { bpBabordI := decide (3 ≤ t) }

def shortPress : Nat → Ports := startUp 1 fun t => { bpSTBYI := decide (2 ≤ t ∧ t < 5) }

/-- A reset of three cycles takes the helm out of a manual command, but not out of AUTO. -/
theorem reset_standby_underway :
    (run portHeld 8).signals.codeFonctionO = 0b0001#4 ∧
      (∀ t, AtStandby (entity.run (run portHeld 8) (resetWave 2) t).signals) ∧
      (run shortPress 10).signals.codeFonctionO = 0b0011#4 ∧
      ¬ ∀ t, AtStandby (entity.run (run shortPress 10) (resetWave 2) t).signals := by
  have port : entity.Reachable powerUp (run portHeld 8) :=
    run_reachable entity powerUp portHeld 8
  have short : entity.Reachable powerUp (run shortPress 10) :=
    run_reachable entity powerUp shortPress 10
  refine ⟨?_, ?_, ?_, ?_⟩
  · rw [run_eq]
    decide +kernel
  · rw [reset_standby_iff port, run_latchesStandby]
    decide +kernel
  · rw [run_eq]
    decide +kernel
  · rw [reset_standby_iff short, run_latchesStandby]
    decide +kernel

theorem reset_into_auto :
    ¬ ∀ s, entity.Reachable powerUp s → ∀ k t,
      AtStandby (entity.run s (resetWave k) t).signals := by
  intro standby
  have current := (standby _ (run_reachable entity powerUp shortPress 10) 0 2).currentSt
  rw [← run, run_eq, run_from (regs_wf shortPress 10)] at current
  exact absurd current (by decide +kernel)

end Voilier.GestionBarre
