import Voilier.BarreDiagram
import Voilier.BipRest

/-!
# The helm when nobody touches it

Beeps and course corrections are bounded: some time after the last release of a
button the helm is silent, and gives no command but that of a button that is held.
-/

set_option autoImplicit false

namespace Voilier.GestionBarre

open DeltaCycle
open MachineEtat (State Edge)
open GestionTempsAppuiBouton (released)

/-- One of the three buttons is released in cycle `t`. -/
def anyReleased (wave : Nat → Ports) (t : Nat) : Bool :=
  released (fun t => (wave t).bpSTBYI) t || released (fun t => (wave t).bpBabordI) t ||
    released (fun t => (wave t).bpTribordI) t

def noCodes : Codes := ⟨0b00#2, 0b00#2, 0b00#2⟩

section Silence
variable {wave : Nat → Ports} {t : Nat}

theorem code_still {button : Nat → Bool} {code : BitVec 2} (still : released button t = false)
    (asked : code ≠ 0b00#2 → ∃ u, t + 1 = u + 1 ∧ released button u = true) : code = 0b00#2 := by
  by_contra shown
  obtain ⟨u, same, release⟩ := asked shown
  obtain rfl : t = u := Nat.succ_inj.mp same
  simp [still] at release

theorem codes_silent (quiet : anyReleased wave t = false) :
    (regs wave (t + 1)).codes = noCodes := by
  simp only [anyReleased, Bool.or_eq_false_iff] at quiet
  obtain ⟨⟨auto, babord⟩, tribord⟩ := quiet
  simp only [Regs.codes, noCodes, Codes.mk.injEq]
  exact ⟨code_still auto auto_asked, code_still babord babord_asked,
    code_still tribord tribord_asked⟩

end Silence

/-! ## Without codes no correction begins -/

theorem edge_calm {seen : MachineEtat.Inputs → Prop} {current next : State}
    (uncalled : ∀ i, seen i → ∀ state : State, state.turning = true → ¬ i.Calls state)
    (edge : Edge seen current next) (calm : current.turning = false) : next.turning = false := by
  cases edge with
  | stays => exact calm
  | steers steering => exact MachineEtat.turning_standby (Or.inr steering)
  | turns turning sees calls => exact absurd calls (uncalled _ sees _ turning)
  | ended => rfl
  | _ => rfl

theorem seen_uncalled {p p' : Ports} {x : Regs} (silent : x.codes = noCodes)
    (silent' : (x.next p p').codes = noCodes) {i : MachineEtat.Inputs} (sees : Seen p p' x i)
    {state : State} (turning : state.turning = true) : ¬ i.Calls state := by
  obtain ⟨c, among, -, babord, tribord⟩ := sees.codes
  have none : c = noCodes := by
    rcases among with rfl | rfl
    · exact silent
    · exact silent'
  rw [none] at babord tribord
  cases state <;>
    simp [State.turning, MachineEtat.Inputs.Calls, babord, tribord, noCodes] at turning ⊢

section Rest
variable {k : Nat} {buttons : Nat → Buttons} {t : Nat}

theorem next_calm (silent : (regs (startUp k buttons) t).codes = noCodes)
    (silent' : (regs (startUp k buttons) (t + 1)).codes = noCodes)
    (calm : (regs (startUp k buttons) (t + 1)).machine.currentSt.turning = false) :
    (regs (startUp k buttons) (t + 1)).machine.nextSt.turning = false := by
  by_cases later : k ≤ t
  · have edge := regs_edge ((startUp_razNI k buttons t).mpr later)
      ((startUp_razNI k buttons (t + 1)).mpr (Nat.le_succ_of_le later))
    exact edge_calm (fun _ sees _ => seen_uncalled silent silent' sees) edge calm
  · obtain ⟨kept, standby, -, machine⟩ := startUp_machine k buttons (show t + 1 ≤ k by omega)
    rw [machine]
    exact MachineEtat.turning_standby (steered_standby standby)

/-- A silent sequencer ends a correction, and without codes no other one begins. -/
theorem currentSt_calm (silent : (regs (startUp k buttons) t).codes = noCodes)
    (silent' : (regs (startUp k buttons) (t + 1)).codes = noCodes)
    (idle : (regs (startUp k buttons) (t + 1)).bip.latches = {}) :
    (regs (startUp k buttons) (t + 2)).machine.currentSt.turning = false := by
  have next : (regs (startUp k buttons) (t + 1)).machine.nextSt.turning = false := by
    cases turning : (regs (startUp k buttons) (t + 1)).machine.currentSt.turning with
    | false => exact next_calm silent silent' turning
    | true =>
        have settled := (regs_wf (startUp k buttons) (t + 1)).settled
        have code : (machineInputs (startUp k buttons (t + 1)) noCodes {}).turnCode
            (regs (startUp k buttons) (t + 1)).machine.currentSt = 0b00#2 := by
          cases (regs (startUp k buttons) (t + 1)).machine.currentSt <;> rfl
        rw [MachineEtat.Regs.Settled, silent', idle,
          MachineEtat.decode_turning _ turning code rfl rfl] at settled
        rw [← settled]
        rfl
  rw [regs_succ, next_currentSt]
  split_ifs
  · exact next
  · rfl

end Rest

/-! ## Nobody touches the helm -/

/-- Neither beep nor correction; in AUTO the STBY led alone is lit. -/
structure AtRest (s : Signals) : Prop where
  silent : s.outBipO = false
  closed : s.bip.tempsChoixO = false
  steady : s.machine.currentSt.turning = false
  panel : s.machine.modeLedsO = true → s.leds.lamps.ledSTBYO = true ∧
    s.leds.lamps.ledBabordO = false ∧ s.leds.lamps.ledTribordO = false

theorem next_panel (p p' : Ports) (x : Regs)
    (auto : MachineEtat.modeLeds (x.next p p').machine.currentSt = true)
    (steady : (x.next p p').machine.currentSt.turning = false) :
    (x.next p p').leds.lamps.ledSTBYO = true ∧ (x.next p p').leds.lamps.ledBabordO = false ∧
      (x.next p p').leds.lamps.ledTribordO = false := by
  obtain ⟨before, lamps⟩ := next_lampsBody p p' x
  have state : (x.next p p').machine.currentSt = .stAUTO := by
    generalize (x.next p p').machine.currentSt = state at auto steady
    cases state <;> simp [MachineEtat.modeLeds, State.turning] at auto steady
    rfl
  rw [lamps, state]
  exact ⟨rfl, rfl, rfl⟩

theorem untouched_regs (k : Nat) (buttons : Nat → Buttons) (t n : Nat)
    (untouched : ∀ i < n, anyReleased (startUp k buttons) (t + i) = false)
    (late : 1249998 ≤ n) :
    (regs (startUp k buttons) (t + n)).bip.latches = {} ∧
      (regs (startUp k buttons) (t + n)).machine.currentSt.turning = false := by
  have silent : ∀ i < n, (regs (startUp k buttons) (t + (i + 1))).codes = noCodes :=
    fun i lt => codes_silent (untouched i lt)
  have idle : ∀ m ≤ n, 1249997 ≤ m → (regs (startUp k buttons) (t + m)).bip.latches = {} := by
    intro m le due
    refine ((bip_sequence k buttons).rests_iff (t := t) m fun i lt => ?_).mpr ?_
    · rw [silent i (by omega)]
      rfl
    · exact (GestionBip.due_le _ _ _).trans due
  refine ⟨idle n (Nat.le_refl n) (by omega), ?_⟩
  obtain ⟨m, rfl⟩ := Nat.exists_eq_add_of_le' (show 3 ≤ n by omega)
  exact currentSt_calm (silent m (by omega)) (silent (m + 1) (by omega))
    (idle (m + 2) (by omega) (by omega))

/-- Some 25 ms after the last release of a button every beep and every correction is over:
1 249 998 cycles, whatever was pressed before. -/
theorem helm_rests (k : Nat) (buttons : Nat → Buttons) (t n : Nat)
    (untouched : ∀ i < n, anyReleased (startUp k buttons) (t + i) = false)
    (late : 1249998 ≤ n) : AtRest (run (startUp k buttons) (t + n)).signals := by
  obtain ⟨resting, steady⟩ := untouched_regs k buttons t n untouched late
  obtain ⟨m, rfl⟩ := Nat.exists_eq_add_of_le' (show 1 ≤ n by omega)
  rw [run_eq]
  exact ⟨congrArg GestionBip.Latches.activationBip resting,
    congrArg GestionBip.Latches.tempChoixBtn resting, steady,
    fun auto => next_panel _ _ _ auto steady⟩

theorem onePress_rests :
    AtRest (run (startUp 1 (stbyOnly onePress)) (6 + 1249998)).signals := by
  refine helm_rests 1 (stbyOnly onePress) 6 1249998 (fun i _ => ?_) (Nat.le_refl _)
  have still : released onePress (6 + i) = false := by
    rw [Nat.add_comm]
    exact onePress_quiet i
  have low : released (fun _ => false) (6 + i) = false := by
    rw [Nat.add_comm]
    rfl
  exact Bool.or_eq_false_iff.mpr ⟨Bool.or_eq_false_iff.mpr ⟨still, low⟩, low⟩

/-! ## No beep without a button -/

theorem bip_fresh (wave : Nat → Ports) : (regs wave 0).bip.latches = {} := by
  have silent : (beepPorts (wave 0) (regs wave 0).codes).Silent :=
    ⟨GestionTempsAppuiBouton.Regs.next_silent rfl _ _,
      GestionTempsAppuiBouton.Regs.next_silent rfl _ _,
      GestionTempsAppuiBouton.Regs.next_silent rfl _ _⟩
  exact (GestionBip.Regs.Idle.next ⟨rfl, rfl, rfl⟩ (beepPorts powerUp.ports noCodes) silent).latches

theorem released_of_rings {wave : Nat → Ports} {t : Nat}
    (rings : (beepPorts (wave (t + 1)) (regs wave (t + 1)).codes).rings = true) :
    anyReleased wave t = true := by
  by_contra still
  rw [codes_silent (by simpa using still)] at rings
  exact Bool.noConfusion rings

/-- Up to any cycle there are at most two beeps for each cycle in which a button was
released. -/
theorem helm_beeps (k : Nat) (buttons : Nat → Buttons) (n : Nat) :
    Nat.count (fun t => GestionBip.starts
        (fun t => (run (startUp k buttons) t).signals.outBipO) t = true) n ≤
      2 * Nat.count (fun t => anyReleased (startUp k buttons) t = true) n := by
  have fresh := bip_fresh (startUp k buttons)
  have asked := (bip_sequence k buttons).starts_le fresh n
  have codes : ∀ t, (beepPorts (startUp k buttons (t + 1))
      (regs (startUp k buttons) (t + 1)).codes).rings = true →
        anyReleased (startUp k buttons) t = true := fun t => released_of_rings
  have rings := Nat.count_mono_left (n := n) fun t _ => codes t
  have choices := Nat.count_mono_left (n := n) fun t _ opens =>
    codes t (GestionBip.opensChoice_rings opens)
  have silent : (run (startUp k buttons) 0).signals.outBipO = false := by
    rw [run_eq]
    exact congrArg GestionBip.Latches.activationBip fresh
  have began : ∀ t, GestionBip.starts (fun t => (run (startUp k buttons) t).signals.outBipO)
      (t + 1) = ((regs (startUp k buttons) (t + 1)).bip.latches.activationBip &&
        !(regs (startUp k buttons) t).bip.latches.activationBip) := by
    intro t
    simp only [GestionBip.starts, run_eq]
    rfl
  have later : Nat.count (fun t => GestionBip.starts
      (fun t => (run (startUp k buttons) t).signals.outBipO) t = true) (n + 1) ≤
        2 * Nat.count (fun t => anyReleased (startUp k buttons) t = true) n := by
    rw [Nat.count_succ', if_neg (by simp [GestionBip.starts, silent])]
    simp only [began]
    omega
  exact (Nat.count_monotone _ (Nat.le_succ n)).trans later

end Voilier.GestionBarre
