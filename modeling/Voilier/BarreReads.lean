import Voilier.BusAvalonF7
import Voilier.BarreRest

/-!
# The helm as software sees it

Software enables the helm through the control register and then polls the command of
each cycle.
-/

set_option autoImplicit false

namespace Voilier.BusAvalonF7

open DeltaCycle
open MachineEtat (State)
open GestionBarre (Move anyReleased directionButton)
open GestionTempsAppuiBouton (released)

section Reads
variable {wave : Nat → Ports} {w : Nat}

theorem Enables.barreInst_eq (enables : Enables wave w) (t : Nat) :
    (run wave t).signals.barreInst =
      (GestionBarre.run (GestionBarre.startUp (w + 1) (buttons wave)) t).signals := by
  rw [← enables.helm_eq, run_barre enables.orderly]

theorem Enables.reads (enables : Enables wave w) {t : Nat} (reads : (wave t).addressI.toNat = 1) :
    (run wave t).signals.readDataO =
      word (MachineEtat.codeFonction (run wave t).signals.barreInst.machine.currentSt) := by
  have code : (run wave t).signals.barreInst.codeFonctionO =
      MachineEtat.codeFonction (run wave t).signals.barreInst.machine.currentSt := by
    rw [enables.barreInst_eq, GestionBarre.run_eq]
    rfl
  rw [run_readDataO enables.orderly, AvalonSlave.readData, if_pos reads, code]

end Reads

theorem codeFonction_word {first last : State}
    (same : word (MachineEtat.codeFonction first) = word (MachineEtat.codeFonction last)) :
    first = last := by
  cases first <;> cases last <;> first | rfl | exact absurd same (by decide)

/-- With the buttons left alone for 1 249 998 cycles software reads no correction, and from
the second cycle after the release of the reset on no manual command but that of a button
that is held. -/
theorem untouched_reads {wave : Nat → Ports} {w : Nat} (enables : Enables wave w) (t n : Nat)
    (untouched : ∀ i < n, anyReleased (helm wave) (t + i) = false) (late : 1249998 ≤ n)
    (reads : (wave (t + n)).addressI.toNat = 1) :
    ∃ state : State, state.turning = false ∧
      (state.steering = true → w + 2 < t + n →
        directionButton (helm wave (t + n - 1)) state = true) ∧
      (run wave (t + n)).signals.readDataO = word (MachineEtat.codeFonction state) := by
  refine ⟨_, ?_, fun steering later => ?_, enables.reads reads⟩
  · rw [enables.helm_eq] at untouched
    rw [enables.barreInst_eq, GestionBarre.run_currentSt]
    exact (GestionBarre.untouched_regs (w + 1) (buttons wave) t n untouched late).2
  · rw [enables.barreInst_eq, GestionBarre.run_currentSt] at steering ⊢
    rw [enables.helm_eq]
    obtain ⟨u, now⟩ := Nat.exists_eq_add_of_le' (show 2 ≤ t + n by omega)
    rw [now] at steering later ⊢
    exact GestionBarre.steering_held ((GestionBarre.startUp_razNI _ _ _).mpr (by omega))
      ((GestionBarre.startUp_razNI _ _ _).mpr (by omega)) steering

/-- Port is held from cycle 4 on. -/
def portPins (t : Nat) : GestionBarre.Buttons := { bpBabordI := decide (4 ≤ t) }

theorem portPins_held (t : Nat) :
    (GestionBarre.regs (GestionBarre.startUp 2 portPins) (t + 4)).machine.nextSt =
      .stSTBYbabord := by
  have running : ∀ t, (GestionBarre.startUp 2 portPins (t + 4)).razNI = true := by
    intro t
    exact (GestionBarre.startUp_razNI _ _ _).mpr (by omega)
  induction t with
  | zero => decide +kernel
  | succ t ih =>
      have pressed : (GestionBarre.machineInputs (GestionBarre.startUp 2 portPins (t + 5))
          GestionBarre.noCodes {}).Calls .stSTBYbabord := by
        change decide (4 ≤ t + 5) = true
        exact decide_eq_true (by omega)
      exact GestionBarre.next_held (running t) (running (t + 1)) rfl pressed ih

theorem enabled_reads :
    (run (enableWave portPins) (5 + 1250000)).signals.readDataO =
        word (MachineEtat.codeFonction .stSTBYbabord) ∧
      directionButton (helm (enableWave portPins) (5 + 1250000 - 1)) .stSTBYbabord = true := by
  have enables := enableWave_enables portPins
  have still : ∀ i, anyReleased (helm (enableWave portPins)) (5 + i) = false := by
    intro i
    rw [enables.helm_eq, show 5 + i = i + 4 + 1 by omega]
    simp [anyReleased, released, GestionBarre.startUp, buttons, enableWave, portPins]
  obtain ⟨state, -, held, reads⟩ :=
    untouched_reads enables 5 1250000 (fun i _ => still i) (by decide) rfl
  have port : state = .stSTBYbabord := by
    apply codeFonction_word
    rw [← reads, enables.reads rfl, enables.barreInst_eq, GestionBarre.run_currentSt]
    have entered := (GestionBarre.running_currentSt (show 2 ≤ 5 + 1249999 by decide)).trans
      (portPins_held 1250000)
    exact congrArg (fun state => word (MachineEtat.codeFonction state)) entered
  rw [port] at held reads
  exact ⟨reads, held rfl (by decide)⟩

end Voilier.BusAvalonF7
