import Voilier.GestionBarreCycle
import Voilier.BipSequence

/-!
# Runs of gestion_barre

What holds in every cycle of a run that is reset at the start only: codes that
last one cycle, and a main sequencer that keeps its invariant.
-/

set_option autoImplicit false

namespace Voilier.GestionBarre

open DeltaCycle

structure Buttons where
  bpSTBYI : Bool := false
  bpBabordI : Bool := false
  bpTribordI : Bool := false

/-- The waveform that asserts `raz_n_i` in the first `k` cycles and never again. -/
def startUp (k : Nat) (buttons : Nat → Buttons) (t : Nat) : Ports :=
  ⟨false, decide (k ≤ t), (buttons t).bpSTBYI, (buttons t).bpBabordI, (buttons t).bpTribordI⟩

structure Regs.Coded (x : Regs) : Prop where
  auto : x.btnAuto.Coded
  babord : x.btnBabord.Coded
  tribord : x.btnTribord.Coded

theorem Regs.Coded.next {x : Regs} (coded : x.Coded) (p p' : Ports) :
    (x.next p p').Coded where
  auto := GestionTempsAppuiBouton.Regs.Coded.next coded.auto _ _
  babord := GestionTempsAppuiBouton.Regs.Coded.next coded.babord _ _
  tribord := GestionTempsAppuiBouton.Regs.Coded.next coded.tribord _ _

theorem coded_powerUp : Regs.Coded {} := ⟨Or.inl rfl, Or.inl rfl, Or.inl rfl⟩

theorem regs_coded (wave : Nat → Ports) (t : Nat) : (regs wave t).Coded := by
  induction t with
  | zero => exact coded_powerUp.next _ _
  | succ t ih => exact ih.next _ _

theorem Regs.Coded.fresh {x : Regs} (coded : x.Coded) (p p' : Ports) :
    GestionBip.Fresh (beepPorts p x.codes) (beepPorts p' (x.nextCodes p p')) where
  auto := GestionTempsAppuiBouton.Regs.Coded.fresh coded.auto _ _
  babord := GestionTempsAppuiBouton.Regs.Coded.fresh coded.babord _ _
  tribord := GestionTempsAppuiBouton.Regs.Coded.fresh coded.tribord _ _

/-- The main sequencer keeps its invariant as long as no second reset comes. -/
theorem Regs.next_sequenced {p p' : Ports} {x : Regs} (coded : x.Coded)
    (once : p.razNI = true → p'.razNI = true)
    (sequenced : x.bip.Sequenced (beepPorts p x.codes)) :
    (x.next p p').bip.Sequenced (beepPorts p' (x.next p p').codes) := by
  by_cases running' : p'.razNI = true
  · exact sequenced.next_running (coded.fresh p p').oneCycle running' rfl
  · have resetting' : p'.razNI = false := by simpa using running'
    have resetting : p.razNI = false := by
      by_contra running
      exact running' (once (by simpa using running))
    exact sequenced.next_reset resetting resetting'

theorem regs_sequenced (k : Nat) (buttons : Nat → Buttons) (t : Nat) :
    (regs (startUp k buttons) t).bip.Sequenced
      (beepPorts (startUp k buttons t) (regs (startUp k buttons) t).codes) := by
  induction t with
  | zero =>
      apply Regs.next_sequenced coded_powerUp
      · intro running
        simp [powerUp] at running
      · exact GestionBip.sequenced_powerUp
  | succ t ih =>
      rw [regs_succ]
      apply Regs.next_sequenced (regs_coded _ t) _ ih
      intro running
      simp only [startUp, decide_eq_true_eq] at running ⊢
      omega

end Voilier.GestionBarre
