import Voilier.BarreCorrections
import Voilier.PressResidue

/-!
# A press that corrects the course

From the button to the command: in AUTO and at rest, a press on port or on starboard that
is not disturbed commands the correction of its length, for as long as its beeps.
-/

set_option autoImplicit false

namespace Voilier.GestionBarre

open DeltaCycle
open MachineEtat (State)
open GestionTempsAppuiBouton (released pressedFor)

/-- The two buttons that correct the course. -/
inductive Side where
  | babord
  | tribord

def Side.button : Side → Buttons → Bool
  | .babord => Buttons.bpBabordI
  | .tribord => Buttons.bpTribordI

def Side.opposite : Side → Side
  | .babord => .tribord
  | .tribord => .babord

def Side.ports : Side → Ports → GestionTempsAppuiBouton.Ports
  | .babord => btnBabordPorts
  | .tribord => btnTribordPorts

def Side.timer : Side → Regs → GestionTempsAppuiBouton.Regs
  | .babord => Regs.btnBabord
  | .tribord => Regs.btnTribord

def Side.correction : Side → (long : Bool) → State
  | .babord, false => .stAUTObabord1
  | .babord, true => .stAUTObabord10
  | .tribord, false => .stAUTOtribord1
  | .tribord, true => .stAUTOtribord10

/-- The lengths that are counted for what they are, even after a bounce.  A press of
999 999 cycles is short or long as the bounce was. -/
def Counted (n : Nat) : Prop := 2 ≤ n ∧ n ≠ 999999 ∧ n < 2 ^ 27 - 1

/-- A press of `n` cycles that begins with cycle `b`, after a rest. -/
structure SidePress (buttons : Nat → Buttons) (side : Side) (b n : Nat) : Prop where
  rested : ∀ t < b, b ≤ t + 3 → side.button (buttons t) = false
  high : ∀ i < n, side.button (buttons (b + i)) = true
  falls : side.button (buttons (b + n)) = false

/-! ## The timer of one side -/

section Timer
variable {k : Nat} {buttons : Nat → Buttons} {side : Side} {b n : Nat}

theorem timer_succ (side : Side) (wave : Nat → Ports) (t : Nat) :
    side.timer (regs wave (t + 1)) =
      (side.timer (regs wave t)).next (side.ports (wave t)) (side.ports (wave (t + 1))) := by
  cases side <;> rfl

theorem ports_btnI (side : Side) (t : Nat) :
    (side.ports (startUp k buttons t)).btnI = side.button (buttons t) := by
  cases side <;> rfl

theorem ports_razNI (side : Side) {t : Nat} (later : k ≤ t) :
    (side.ports (startUp k buttons t)).razNI = true := by
  cases side <;> exact (startUp_razNI k buttons t).mpr later

theorem timer_coded (side : Side) (wave : Nat → Ports) (t : Nat) :
    (side.timer (regs wave t)).Coded := by
  cases side with
  | babord => exact (regs_coded wave t).babord
  | tribord => exact (regs_coded wave t).tribord

theorem timer_residual (side : Side) (wave : Nat → Ports) (t : Nat) :
    (side.timer (regs wave t)).Residual := by
  induction t with
  | zero =>
      have fresh : GestionTempsAppuiBouton.Regs.Residual {} := fun _ _ => Or.inl rfl
      cases side <;> exact fresh.next _ _
  | succ t ih =>
      rw [timer_succ]
      exact ih.next _ _

/-- A bounce of the button before its rest may count for one cycle of the press. -/
theorem SidePress.timer_rested (press : SidePress buttons side b n) (started : k + 3 ≤ b) :
    ∃ g ≤ 1, side.timer (regs (startUp k buttons) b) = pressedFor g 0 := by
  obtain ⟨a, rfl⟩ := Nat.exists_eq_add_of_le' (show 3 ≤ b by omega)
  let q := fun i => side.ports (startUp k buttons (a + i))
  have low : ∀ i < 3, (q i).btnI = false := by
    intro i lt
    exact (ports_btnI side (a + i)).trans (press.rested (a + i) (by omega) (by omega))
  have running : ∀ i, (q i).razNI = true := fun i => ports_razNI side (by omega)
  have lows : ∀ r ∈ [q 0, q 1, q 2], r.btnI = false := by
    simp only [List.forall_mem_cons, List.not_mem_nil, false_imp_iff, implies_true, and_true]
    exact ⟨low 0 (by decide), low 1 (by decide), low 2 (by decide)⟩
  have runs : ∀ r ∈ [q 0, q 1, q 2, q 3], r.razNI = true := by
    simp only [List.forall_mem_cons, List.not_mem_nil, false_imp_iff, implies_true, and_true]
    exact ⟨running 0, running 1, running 2, running 3⟩
  obtain ⟨c, count, settled⟩ := GestionTempsAppuiBouton.settles
    (timer_coded side (startUp k buttons) a) (timer_residual side (startUp k buttons) a) lows runs
  have rest : side.timer (regs (startUp k buttons) (a + 3)) =
      GestionTempsAppuiBouton.residue c := by
    rw [timer_succ, timer_succ, timer_succ]
    exact settled
  rw [rest]
  rcases count with rfl | rfl
  · exact ⟨0, by decide, rfl⟩
  · exact ⟨1, by decide, rfl⟩

theorem SidePress.timer_held (press : SidePress buttons side b n) (started : k + 3 ≤ b) {g : Nat}
    (rest : side.timer (regs (startUp k buttons) b) = pressedFor g 0) (fits : g + n < 2 ^ 27)
    {j : Nat} (le : j ≤ n) :
    side.timer (regs (startUp k buttons) (b + j)) = pressedFor g j := by
  induction j with
  | zero => exact rest
  | succ j ih =>
      rw [← Nat.add_assoc, timer_succ, ih (by omega)]
      exact GestionTempsAppuiBouton.pressedFor_next (ports_razNI side (by omega))
        (ports_razNI side (by omega)) ((ports_btnI side (b + j)).trans (press.high j le)) (by omega)

/-- The code of the press, in the cycle after its falling edge. -/
theorem SidePress.code (press : SidePress buttons side b n) (started : k + 3 ≤ b)
    (counted : Counted n) :
    (side.timer (regs (startUp k buttons) (b + n + 1))).driven.tempoAppuiBtn =
      if 1000000 ≤ n then 0b10#2 else 0b01#2 := by
  obtain ⟨g, bounced, rest⟩ := press.timer_rested started
  obtain ⟨some, clear, fits⟩ := counted
  have held := press.timer_held started rest (by omega) (Nat.le_refl n)
  rw [timer_succ, held, GestionTempsAppuiBouton.pressedFor_released (ports_razNI side (by omega))
    (ports_razNI side (by omega)) ((ports_btnI side (b + n)).trans press.falls) (by omega),
    GestionTempsAppuiBouton.classify_counted (by omega)]
  split_ifs <;> first | rfl | omega

end Timer

/-! ## From the press to the command -/

/-- Apart from the release of the press no button is released from 1 249 998 cycles before
the press to `m` cycles after its release. -/
structure Undisturbed (buttons : Nat → Buttons) (side : Side) (b n m : Nat) : Prop where
  others : ∀ t, b ≤ t + 1249998 → t ≤ b + n + m →
    released (fun t => (buttons t).bpSTBYI) t = false ∧
      released (fun t => side.opposite.button (buttons t)) t = false
  single : ∀ t, b ≤ t + 1249998 → t ≤ b + n + m → t ≠ b + n →
    released (fun t => side.button (buttons t)) t = false

section Command
variable {k : Nat} {buttons : Nat → Buttons} {side : Side} {b n m : Nat}

theorem Undisturbed.quiet (undisturbed : Undisturbed buttons side b n m) {t : Nat}
    (after : b ≤ t + 1249998) (upTo : t ≤ b + n + m) (other : t ≠ b + n) :
    anyReleased (startUp k buttons) t = false := by
  obtain ⟨auto, opposite⟩ := undisturbed.others t after upTo
  have own := undisturbed.single t after upTo other
  cases side with
  | babord => exact Bool.or_eq_false_iff.mpr ⟨Bool.or_eq_false_iff.mpr ⟨auto, own⟩, opposite⟩
  | tribord => exact Bool.or_eq_false_iff.mpr ⟨Bool.or_eq_false_iff.mpr ⟨auto, opposite⟩, own⟩

theorem Undisturbed.codes_silent (undisturbed : Undisturbed buttons side b n m) {t : Nat}
    (after : b ≤ t + 1249998) (upTo : t ≤ b + n + m) (other : t ≠ b + n) :
    (regs (startUp k buttons) (t + 1)).codes = noCodes :=
  GestionBarre.codes_silent (undisturbed.quiet after upTo other)

theorem SidePress.codes (press : SidePress buttons side b n) (started : k + 3 ≤ b)
    (counted : Counted n) (undisturbed : Undisturbed buttons side b n m) :
    (regs (startUp k buttons) (b + n + 1)).codes =
      soleCode (side.correction (decide (1000000 ≤ n))) := by
  obtain ⟨still, still'⟩ := undisturbed.others (b + n) (by omega) (by omega)
  have own := press.code started counted
  have auto : (regs (startUp k buttons) (b + n + 1)).codes.auto = 0b00#2 :=
    code_still still auto_asked
  cases side with
  | babord =>
      have opposite : (regs (startUp k buttons) (b + n + 1)).codes.tribord = 0b00#2 :=
        code_still still' tribord_asked
      refine ((Codes.mk.injEq ..).mpr ⟨auto, own, opposite⟩).trans ?_
      by_cases long : 1000000 ≤ n <;> simp [long, Side.correction, soleCode]
  | tribord =>
      have opposite : (regs (startUp k buttons) (b + n + 1)).codes.babord = 0b00#2 :=
        code_still still' babord_asked
      refine ((Codes.mk.injEq ..).mpr ⟨auto, opposite, own⟩).trans ?_
      by_cases long : 1000000 ≤ n <;> simp [long, Side.correction, soleCode]

theorem Undisturbed.auto (undisturbed : Undisturbed buttons side b n m) (started : k + 1249998 ≤ b)
    (auto : (run (startUp k buttons) b).signals.machine.modeLedsO = true) {j : Nat}
    (le : j ≤ n + 1) : (regs (startUp k buttons) (b + j)).machine.currentSt = .stAUTO := by
  obtain ⟨a, rfl⟩ := Nat.exists_eq_add_of_le' (show 1 ≤ b by omega)
  have steady := (untouched_regs k buttons (a + 1 - 1249998) 1249998 (fun i lt =>
    undisturbed.quiet (by omega) (by omega) (by omega)) (Nat.le_refl _)).2
  rw [Nat.sub_add_cancel (by omega)] at steady
  have first : (regs (startUp k buttons) (a + 1)).machine.currentSt = .stAUTO := by
    rw [run_eq] at auto
    change MachineEtat.modeLeds (regs (startUp k buttons) (a + 1)).machine.currentSt = true at auto
    generalize (regs (startUp k buttons) (a + 1)).machine.currentSt = state at auto steady
    cases state <;> simp [MachineEtat.modeLeds, State.turning] at auto steady
    rfl
  have entering := (running_currentSt (show k ≤ a by omega)).symm.trans first
  cases j with
  | zero => exact first
  | succ j =>
      have kept := auto_kept (show k ≤ a by omega) entering (n := j + 1) fun i le' => by
        obtain ⟨c, rfl⟩ := Nat.exists_eq_add_of_le' (show 1 ≤ a by omega)
        rw [Nat.add_right_comm]
        exact undisturbed.codes_silent (by omega) (by omega) (by omega)
      rw [show a + 1 + (j + 1) = a + (j + 1) + 1 by omega, running_currentSt (by omega)]
      exact kept

theorem SidePress.asks (press : SidePress buttons side b n) (started : k + 1249998 ≤ b)
    (counted : Counted n) (undisturbed : Undisturbed buttons side b n m)
    (auto : (run (startUp k buttons) b).signals.machine.modeLedsO = true) :
    Asks (startUp k buttons) (b + n) (side.correction (decide (1000000 ≤ n))) := by
  have idle := (untouched_regs k buttons (b - 1249998) (1249998 + n) (fun i lt =>
    undisturbed.quiet (by omega) (by omega) (by omega)) (by omega)).1
  rw [show b - 1249998 + (1249998 + n) = b + n by omega] at idle
  constructor
  · cases side <;> cases decide (1000000 ≤ n) <;> rfl
  · rw [run_currentSt]
    exact undisturbed.auto started auto (Nat.le_refl _)
  · obtain ⟨c, some⟩ := Nat.exists_eq_add_of_le' (show 1 ≤ b + n by omega)
    rw [run_codes, some]
    exact undisturbed.codes_silent (by omega) (by omega) (by omega)
  · rw [run_latches]
    exact idle
  · rw [run_codes]
    exact press.codes (by omega) counted undisturbed

/-- In AUTO a press on one side that is not disturbed is answered two cycles after its
release: by the correction of its length, for as long as its beeps, and by AUTO again. -/
theorem press_corrects (press : SidePress buttons side b n) (started : k + 1249998 ≤ b)
    (counted : Counted n) (undisturbed : Undisturbed buttons side b n m)
    (auto : (run (startUp k buttons) b).signals.machine.modeLedsO = true) :
    (run (startUp k buttons) (b + n + 1 + m + 1)).signals.codeFonctionO =
      if m < beepsOf (side.correction (decide (1000000 ≤ n))) then
        MachineEtat.codeFonction (side.correction (decide (1000000 ≤ n)))
      else 0b0011#4 := by
  refine lone_correction (press.asks started counted undisturbed auto) m fun i lt => ?_
  rw [run_codes, show b + n + 1 + (i + 1) = b + n + 1 + i + 1 by omega]
  exact undisturbed.codes_silent (by omega) (by omega) (by omega)

end Command

theorem pressThenPort_press (wait : Nat) :
    SidePress (pressThenPort wait) .babord (wait + 2) 3 where
  rested t before _ := decide_eq_false (by omega)
  high i inside := decide_eq_true (by omega)
  falls := decide_eq_false (by omega)

theorem pressThenPort_undisturbed {wait : Nat} (long : 1250002 ≤ wait) (m : Nat) :
    Undisturbed (pressThenPort wait) .babord (wait + 2) 3 m where
  others t after _ := by
    obtain ⟨d, rfl⟩ := Nat.exists_eq_add_of_le' (show 6 ≤ t by omega)
    exact ⟨onePress_quiet d, rfl⟩
  single _ _ _ other := released_later (by omega)

theorem pressThenPort_auto {wait : Nat}
    (start : (regs (startUp 1 (pressThenPort wait)) 7).machine.nextSt = .stAUTO)
    (long : 6 ≤ wait) :
    (run (startUp 1 (pressThenPort wait)) (wait + 2)).signals.machine.modeLedsO = true := by
  obtain ⟨i, rfl⟩ := Nat.exists_eq_add_of_le' long
  have state := (running_currentSt (show 1 ≤ 7 + i by omega)).trans (port_auto start i (by omega))
  rw [run_eq, show i + 6 + 2 = 7 + i + 1 by omega]
  exact congrArg MachineEtat.modeLeds state

theorem port_press_corrects :
    (run (startUp 1 (pressThenPort 2000000))
      (2000000 + 2 + 3 + 1 + 499998 + 1)).signals.codeFonctionO = 0b0111#4 := by
  have start : (regs (startUp 1 (pressThenPort 2000000)) 7).machine.nextSt = .stAUTO := by
    decide +kernel
  exact (press_corrects (pressThenPort_press 2000000) (by decide)
    ⟨by decide, by decide, by decide⟩ (pressThenPort_undisturbed (by decide) 499998)
    (pressThenPort_auto start (by decide))).trans (if_pos (by decide))

end Voilier.GestionBarre
