import Voilier.BarreDirections
import Voilier.BarreToggle
import Voilier.BipPair
import Voilier.PressEvents

/-!
# The state diagram in the hands of the helmsman

Every step of the state machine is an edge of the diagram, taken for something that
was done to the buttons or for the end of a beep.
-/

set_option autoImplicit false

namespace Voilier.GestionBarre

open DeltaCycle
open MachineEtat (State Edge)
open GestionTempsAppuiBouton (released)

section Seen
variable {p p' : Ports} {x : Regs}

/-- What an evaluation of the edge from `p` to `p'` may read: the buttons of the new
cycle, the codes of one of the two cycles, and a beep that is as silent as that of one
of them. -/
structure Seen (p p' : Ports) (x : Regs) (i : MachineEtat.Inputs) : Prop where
  babord : i.btnBabordI = p'.bpBabordI
  tribord : i.btnTribordI = p'.bpTribordI
  codes : ∃ c : Codes, (c = x.codes ∨ c = (x.next p p').codes) ∧ i.appuiBtnAutoI = c.auto ∧
    i.appuiBtnBabordI = c.babord ∧ i.appuiBtnTribordI = c.tribord
  rest : ∃ l : GestionBip.Latches, (l = x.bip.latches ∨ l = (x.next p p').bip.latches) ∧
    (i.activationBipI = false → l.activationBip = false) ∧
      (i.tempsChoixBtnBipI = false → l.tempChoixBtn = false)

theorem reads_seen (running' : p'.razNI = true) {i : MachineEtat.Inputs}
    (reads : (x.phases p p').Reads i) : Seen p p' x i := by
  have arrived : x.codesAtEdge p = (x.next p p').codes := codesAtEdge_of_running running'
  rcases reads with rfl | rfl | rfl | rfl | rfl
  · exact ⟨rfl, rfl, ⟨_, Or.inl rfl, rfl, rfl, rfl⟩, ⟨_, Or.inl rfl, id, id⟩⟩
  · exact ⟨rfl, rfl, ⟨_, Or.inr arrived, rfl, rfl, rfl⟩, ⟨_, Or.inl rfl, id, id⟩⟩
  · exact ⟨rfl, rfl, ⟨_, Or.inr rfl, rfl, rfl, rfl⟩, ⟨_, Or.inl rfl, id, id⟩⟩
  · -- the codes only raise the beep and open the choice
    refine ⟨rfl, rfl, ⟨_, Or.inr rfl, rfl, rfl, rfl⟩, ⟨_, Or.inl rfl, fun silent => ?_,
      fun closed => ?_⟩⟩
    · by_contra beeping
      have sounding : (x.beepWithCodes p p').activationBip = true :=
        GestionBip.withCodes_beep running' (by simpa using beeping)
      exact absurd sounding (Bool.eq_false_iff.mp silent)
    · by_contra choosing
      have chosen : (x.beepWithCodes p p').tempChoixBtn = true :=
        GestionBip.withCodes_choice _ _ (by simpa using choosing)
      exact absurd chosen (Bool.eq_false_iff.mp closed)
  · exact ⟨rfl, rfl, ⟨_, Or.inr rfl, rfl, rfl, rfl⟩, ⟨_, Or.inr rfl, id, id⟩⟩

end Seen

/-! ## What was done to the buttons -/

/-- The button was released in cycle `t` or in the cycle before. -/
def ReleasedLately (button : Nat → Bool) (t : Nat) : Prop :=
  released button t = true ∨ ∃ u, t = u + 1 ∧ released button u = true

/-- The direction button that a state answers to. -/
def directionButton (p : Ports) : State → Bool
  | .stSTBYbabord | .stAUTObabord1 | .stAUTObabord10 => p.bpBabordI
  | _ => p.bpTribordI

/-- No beep sounds and none is to follow. -/
def Quiet (s : Signals) : Prop := s.outBipO = false ∧ s.bip.tempsChoixO = false

/-- One step of the commands, between the cycles `t + 1` and `t + 2`: the state diagram
with the cause of each edge. -/
inductive Move (wave : Nat → Ports) (t : Nat) : State → State → Prop where
  | stays (state : State) : Move wave t state state
  | engages (asked : ReleasedLately (fun t => (wave t).bpSTBYI) t)
      (silent : (run wave t).signals.outBipO = false ∨
        (run wave (t + 1)).signals.outBipO = false) : Move wave t .stSTBY .stAUTO
  | disengages (asked : ReleasedLately (fun t => (wave t).bpSTBYI) t)
      (silent : (run wave t).signals.outBipO = false ∨
        (run wave (t + 1)).signals.outBipO = false) : Move wave t .stAUTO .stSTBY
  | steers {state : State} (steering : state.steering = true)
      (pressed : directionButton (wave (t + 1)) state = true) : Move wave t .stSTBY state
  | released {state : State} (steering : state.steering = true)
      (low : directionButton (wave (t + 1)) state = false) : Move wave t state .stSTBY
  | turns {state : State} (turning : state.turning = true)
      (asked : ReleasedLately (fun t => directionButton (wave t) state) t) :
      Move wave t .stAUTO state
  | ended {state : State} (turning : state.turning = true)
      (rest : Quiet (run wave t).signals ∨ Quiet (run wave (t + 1)).signals) :
      Move wave t state .stAUTO

section Causes
variable {wave : Nat → Ports} {t : Nat}

theorem auto_asked (shown : (regs wave t).codes.auto ≠ 0b00#2) :
    ∃ u, t = u + 1 ∧ released (fun t => (wave t).bpSTBYI) u = true :=
  GestionTempsAppuiBouton.code_asked (fun t => btnAutoPorts (wave t))
    (fun t => (regs wave t).btnAuto) (fun _ => rfl) (fun t => (regs_coded wave t).auto)
    (GestionTempsAppuiBouton.Regs.next_silent rfl _ _) rfl shown

theorem babord_asked (shown : (regs wave t).codes.babord ≠ 0b00#2) :
    ∃ u, t = u + 1 ∧ released (fun t => (wave t).bpBabordI) u = true :=
  GestionTempsAppuiBouton.code_asked (fun t => btnBabordPorts (wave t))
    (fun t => (regs wave t).btnBabord) (fun _ => rfl) (fun t => (regs_coded wave t).babord)
    (GestionTempsAppuiBouton.Regs.next_silent rfl _ _) rfl shown

theorem tribord_asked (shown : (regs wave t).codes.tribord ≠ 0b00#2) :
    ∃ u, t = u + 1 ∧ released (fun t => (wave t).bpTribordI) u = true :=
  GestionTempsAppuiBouton.code_asked (fun t => btnTribordPorts (wave t))
    (fun t => (regs wave t).btnTribord) (fun _ => rfl) (fun t => (regs_coded wave t).tribord)
    (GestionTempsAppuiBouton.Regs.next_silent rfl _ _) rfl shown

theorem releasedLately_of_code (side : Codes → BitVec 2) {button : Nat → Bool} {c : Codes}
    (asked : ∀ {t}, side (regs wave t).codes ≠ 0b00#2 →
      ∃ u, t = u + 1 ∧ released button u = true)
    (seen : c = (regs wave t).codes ∨ c = (regs wave (t + 1)).codes) (shown : side c ≠ 0b00#2) :
    ReleasedLately button t := by
  rcases seen with rfl | rfl
  · exact Or.inr (asked shown)
  · obtain ⟨u, same, release⟩ := asked shown
    obtain rfl : t = u := Nat.succ_inj.mp same
    exact Or.inl release

theorem move_of_edge {current next : State}
    (edge : Edge (Seen (wave t) (wave (t + 1)) (regs wave t)) current next) :
    Move wave t current next := by
  have quiet : ∀ {l : GestionBip.Latches},
      (l = (regs wave t).bip.latches ∨ l = (regs wave (t + 1)).bip.latches) →
        l.activationBip = false → (run wave t).signals.outBipO = false ∨
          (run wave (t + 1)).signals.outBipO = false := by
    rintro l (rfl | rfl) silent
    · exact Or.inl (by rw [run_eq]; exact silent)
    · exact Or.inr (by rw [run_eq]; exact silent)
  have pressed : ∀ {i : MachineEtat.Inputs} {state : State},
      Seen (wave t) (wave (t + 1)) (regs wave t) i → state.steering = true →
        (i.Calls state ↔ directionButton (wave (t + 1)) state = true) := by
    intro i state sees steering
    cases state with
    | stSTBYbabord => rw [MachineEtat.Inputs.Calls, sees.babord]; rfl
    | stSTBYtribord => rw [MachineEtat.Inputs.Calls, sees.tribord]; rfl
    | _ => simp [State.steering] at steering
  cases edge with
  | stays => exact .stays current
  | engages sees short silent =>
      obtain ⟨c, seen, auto, -, -⟩ := sees.codes
      obtain ⟨l, among, still, -⟩ := sees.rest
      refine .engages ?_ (quiet among (still silent))
      exact releasedLately_of_code Codes.auto auto_asked seen (by simp [← auto, short])
  | disengages sees short silent =>
      obtain ⟨c, seen, auto, -, -⟩ := sees.codes
      obtain ⟨l, among, still, -⟩ := sees.rest
      refine .disengages ?_ (quiet among (still silent))
      exact releasedLately_of_code Codes.auto auto_asked seen (by simp [← auto, short])
  | steers steering sees calls => exact .steers steering ((pressed sees steering).mp calls)
  | released steering sees low =>
      refine .released steering (Bool.eq_false_iff.mpr fun held => low ?_)
      exact (pressed sees steering).mpr held
  | turns turning sees calls =>
      obtain ⟨c, seen, -, babord, tribord⟩ := sees.codes
      refine .turns turning ?_
      cases next with
      | stAUTObabord1 | stAUTObabord10 =>
          refine releasedLately_of_code Codes.babord babord_asked seen ?_
          simp only [MachineEtat.Inputs.Calls] at calls
          simp [← babord, calls]
      | stAUTOtribord1 | stAUTOtribord10 =>
          refine releasedLately_of_code Codes.tribord tribord_asked seen ?_
          simp only [MachineEtat.Inputs.Calls] at calls
          simp [← tribord, calls]
      | _ => simp [State.turning] at turning
  | ended turning sees code silent closed =>
      obtain ⟨l, rfl | rfl, still, shut⟩ := sees.rest
      · exact .ended turning (Or.inl (by rw [run_eq]; exact ⟨still silent, shut closed⟩))
      · exact .ended turning (Or.inr (by rw [run_eq]; exact ⟨still silent, shut closed⟩))

end Causes

theorem regs_edge {wave : Nat → Ports} {t : Nat} (running : (wave t).razNI = true)
    (running' : (wave (t + 1)).razNI = true) :
    Edge (Seen (wave t) (wave (t + 1)) (regs wave t)) (regs wave (t + 1)).machine.currentSt
      (regs wave (t + 1)).machine.nextSt := by
  have stepped : (regs wave (t + 1)).machine = MachineEtat.Regs.next true true
      ((regs wave t).phases (wave t) (wave (t + 1))) (regs wave t).machine := by
    rw [regs_succ]
    change MachineEtat.Regs.next _ _ _ _ = _
    rw [running, running']
  rw [stepped]
  exact MachineEtat.Regs.next_edge (fun _ => reads_seen running') rfl (.stays _)

theorem run_currentSt (wave : Nat → Ports) (t : Nat) :
    (run wave t).signals.machine.currentSt = (regs wave t).machine.currentSt := by
  rw [run_eq]
  rfl

/-- A manual command comes from its button, held in the cycle before. -/
theorem steering_held {wave : Nat → Ports} {t : Nat} (running : (wave t).razNI = true)
    (running' : (wave (t + 1)).razNI = true)
    (steering : (regs wave (t + 2)).machine.currentSt.steering = true) :
    directionButton (wave (t + 1)) (regs wave (t + 2)).machine.currentSt = true := by
  have entered : (regs wave (t + 2)).machine.currentSt =
      if (wave (t + 2)).razNI = true ∧ (wave (t + 1)).razNI = true then
        (regs wave (t + 1)).machine.nextSt
      else .stSTBY := by
    rw [regs_succ, next_currentSt]
  rw [entered] at steering ⊢
  split_ifs at steering ⊢
  · have asked : Commanded (wave (t + 1)) (regs wave (t + 1)).codes
        (regs wave (t + 1)).machine.nextSt := next_steering running running' steering
    generalize (regs wave (t + 1)).machine.nextSt = state at asked steering ⊢
    cases state <;> first | exact asked | simp [State.steering] at steering
  · simp [State.steering] at steering

theorem regs_moves {wave : Nat → Ports} {t : Nat} (running : (wave t).razNI = true)
    (running' : (wave (t + 1)).razNI = true) (running'' : (wave (t + 2)).razNI = true) :
    Move wave t (regs wave (t + 1)).machine.currentSt
      (regs wave (t + 2)).machine.currentSt := by
  have entered : (regs wave (t + 2)).machine.currentSt = (regs wave (t + 1)).machine.nextSt := by
    rw [regs_succ, next_currentSt, if_pos ⟨running'', running'⟩]
  rw [entered]
  exact move_of_edge (regs_edge running running')

/-- Out of reset the commands follow the state diagram, each edge for its cause. -/
theorem moves_caused {wave : Nat → Ports} {t : Nat} (running : (wave t).razNI = true)
    (running' : (wave (t + 1)).razNI = true) (running'' : (wave (t + 2)).razNI = true) :
    Move wave t (run wave (t + 1)).signals.machine.currentSt
      (run wave (t + 2)).signals.machine.currentSt := by
  rw [run_currentSt, run_currentSt]
  exact regs_moves running running' running''

theorem onePress_moves : Move (startUp 1 (stbyOnly onePress)) 5 .stSTBY .stAUTO := by
  have move := @moves_caused (startUp 1 (stbyOnly onePress)) 5 rfl rfl rfl
  rw [run_currentSt, run_currentSt] at move
  have before : (regs (startUp 1 (stbyOnly onePress)) 6).machine.currentSt = .stSTBY := by
    decide +kernel
  have after : (regs (startUp 1 (stbyOnly onePress)) 7).machine.currentSt = .stAUTO := by
    decide +kernel
  rwa [before, after] at move

end Voilier.GestionBarre
