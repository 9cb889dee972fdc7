import Mathlib.Logic.Function.Iterate
import Voilier.BarreRuns

/-!
# The order of the two latch processes

gestion_bip and Machine_etat both hold latches, and the machine reads the beep
that the same code raises.  Re-evaluating the two processes until nothing moves
may end in two ways.
-/

set_option autoImplicit false

namespace Voilier.GestionBarre

open DeltaCycle
open GestionBip (Latches latch)
open MachineEtat (State decode)

structure Latched where
  nextSt : State
  latches : Latches
deriving DecidableEq

def Signals.latched (s : Signals) : Latched := ⟨s.machine.nextSt, s.bip.latches⟩

inductive Process where
  | machine
  | bip
deriving DecidableEq

def Process.other : Process → Process
  | .machine => .bip
  | .bip => .machine

def beepInputs (s : Snapshot Ports Signals) (c : Codes) : GestionBip.Inputs :=
  ⟨s.signals.bip.raz, true, c.auto, c.babord, c.tribord, s.signals.bip.edge1sec.reO,
    s.signals.bip.edge05sec.reO⟩

def nextUnder (s : Snapshot Ports Signals) (c : Codes) (l : Latches) (next : State) : State :=
  decode (machineInputs s.ports c l) s.signals.machine.currentSt next

/-- One evaluation of one process, everything it reads but the latches being that
of the snapshot. -/
def evaluate (s : Snapshot Ports Signals) (c : Codes) : Process → Latched → Latched
  | .machine, x => ⟨nextUnder s c x.latches x.nextSt, x.latches⟩
  | .bip, x => ⟨x.nextSt, latch (beepInputs s c) x.latches⟩

def sweep (s : Snapshot Ports Signals) (c : Codes) (first : Process) (x : Latched) : Latched :=
  evaluate s c first.other (evaluate s c first x)

/-- Sweeping ends in `y`, which neither process moves. -/
def Settles (s : Snapshot Ports Signals) (c : Codes) (first : Process) (x y : Latched) : Prop :=
  (∃ n, (sweep s c first)^[n] x = y) ∧ ∀ process, evaluate s c process y = y

/-- The codes `c` lead to one result, whichever process runs first. -/
def OrderFree (s : Snapshot Ports Signals) (c : Codes) : Prop :=
  ∃ y, ∀ first, Settles s c first s.signals.latched y

/-! ## Repeated evaluations -/

theorem settles_unique {s : Snapshot Ports Signals} {c : Codes} {first : Process}
    {x y z : Latched} (left : Settles s c first x y) (right : Settles s c first x z) : y = z := by
  have still : ∀ {w : Latched}, (∀ process, evaluate s c process w = w) →
      ∀ n, (sweep s c first)^[n] w = w := by
    intro w fixed n
    apply Function.iterate_fixed
    rw [sweep, fixed, fixed]
  obtain ⟨⟨n, reached⟩, fixed⟩ := left
  obtain ⟨⟨m, reached'⟩, fixed'⟩ := right
  calc y = (sweep s c first)^[m] y := (still fixed m).symm
    _ = (sweep s c first)^[m + n] x := by rw [← reached, Function.iterate_add_apply]
    _ = (sweep s c first)^[n + m] x := by rw [Nat.add_comm]
    _ = (sweep s c first)^[n] z := by rw [← reached', Function.iterate_add_apply]
    _ = z := still fixed' n

theorem latch_twice (i : GestionBip.Inputs) (l : Latches) :
    (latch i (latch i l)).activationBip = (latch i l).activationBip ∧
      (latch i (latch i l)).tempChoixBtn = (latch i l).tempChoixBtn ∧
      latch i (latch i (latch i l)) = latch i (latch i l) := by
  rcases l with ⟨activation, attente, choix⟩
  rcases i with ⟨raz, en, auto, babord, tribord, re1, re05⟩
  by_cases short : auto = 0b01#2 ∨ auto = 0b10#2 ∨ babord = 0b01#2 ∨ tribord = 0b01#2 <;>
    by_cases long : babord = 0b10#2 ∨ tribord = 0b10#2 <;>
    cases raz <;> cases en <;> cases re1 <;> cases re05 <;> cases choix <;>
    simp [latch, short, long]

section Final
variable (s : Snapshot Ports Signals) (c : Codes)

/-- Where the sweeps end: the latches the same way, `next_st` with or without an
evaluation before the latches have moved. -/
def settled : Process → Latched → Latched
  | .machine, x =>
      ⟨nextUnder s c (latch (beepInputs s c) x.latches) (nextUnder s c x.latches x.nextSt),
        latch (beepInputs s c) (latch (beepInputs s c) x.latches)⟩
  | .bip, x =>
      ⟨nextUnder s c (latch (beepInputs s c) x.latches) x.nextSt,
        latch (beepInputs s c) (latch (beepInputs s c) x.latches)⟩

theorem nextUnder_latch (l : Latches) (next : State) :
    nextUnder s c (latch (beepInputs s c) (latch (beepInputs s c) l)) next =
      nextUnder s c (latch (beepInputs s c) l) next := by
  obtain ⟨beep, choice, -⟩ := latch_twice (beepInputs s c) l
  simp only [nextUnder, machineInputs, beep, choice]

theorem nextUnder_twice (l : Latches) (next : State) :
    nextUnder s c l (nextUnder s c l next) = nextUnder s c l next :=
  MachineEtat.decode_decode _ _ _

theorem settles_settled (first : Process) (x : Latched) :
    Settles s c first x (settled s c first x) := by
  obtain ⟨-, -, still⟩ := latch_twice (beepInputs s c) x.latches
  constructor
  · refine ⟨2, ?_⟩
    cases first with
    | machine =>
        change sweep s c .machine (sweep s c .machine x) = _
        simp only [sweep, evaluate, Process.other, settled]
    | bip =>
        change sweep s c .bip (sweep s c .bip x) = _
        simp only [sweep, evaluate, Process.other, settled, nextUnder_latch, nextUnder_twice]
  · intro process
    cases first <;> cases process <;>
      simp only [evaluate, settled, still, nextUnder_latch, nextUnder_twice]

theorem orderFree_iff :
    OrderFree s c ↔
      settled s c .machine s.signals.latched = settled s c .bip s.signals.latched := by
  constructor
  · rintro ⟨y, settles⟩
    rw [settles_unique (settles_settled s c .machine _) (settles .machine),
      settles_unique (settles_settled s c .bip _) (settles .bip)]
  · intro same
    refine ⟨settled s c .bip s.signals.latched, fun first => ?_⟩
    cases first with
    | machine =>
        rw [← same]
        exact settles_settled s c .machine _
    | bip => exact settles_settled s c .bip _

end Final

/-! ## The race -/

def BeepRaised (s : Snapshot Ports Signals) (c : Codes) : Prop :=
  s.signals.bip.raz = false ∧ (s.signals.bip.edge05sec.reO = true ∨
    s.signals.bip.edge1sec.reO = false ∧ (beepPorts s.ports c).rings = true)

def ChoiceOpened (s : Snapshot Ports Signals) (c : Codes) : Prop :=
  s.signals.bip.raz = false ∧ s.signals.bip.edge05sec.reO = false ∧
    (beepPorts s.ports c).opensChoice = true

/-- The machine moves if it runs before the beep is raised, and has nothing to do
afterwards. -/
def Race (s : Snapshot Ports Signals) (c : Codes) : Prop :=
  let next := s.signals.machine.nextSt
  s.signals.bip.latches.activationBip = false ∧
    match s.signals.machine.currentSt with
    | .stSTBY => c.auto = 0b01#2 ∧ BeepRaised s c ∧ s.ports.bpBabordI = false ∧
        s.ports.bpTribordI = false ∧ next ≠ .stAUTO
    | .stAUTO => c.auto = 0b01#2 ∧ BeepRaised s c ∧
        ¬ (c.babord = 0b01#2 ∨ c.babord = 0b10#2 ∨ c.tribord = 0b01#2 ∨ c.tribord = 0b10#2) ∧
        next ≠ .stSTBY
    | .stSTBYbabord | .stSTBYtribord => False
    | .stAUTObabord1 | .stAUTObabord10 => c.babord = 0b00#2 ∧
        s.signals.bip.latches.tempChoixBtn = false ∧ (BeepRaised s c ∨ ChoiceOpened s c) ∧
        next ≠ .stAUTO
    | .stAUTOtribord1 | .stAUTOtribord10 => c.tribord = 0b00#2 ∧
        s.signals.bip.latches.tempChoixBtn = false ∧ (BeepRaised s c ∨ ChoiceOpened s c) ∧
        next ≠ .stAUTO

section Latch
variable {s : Snapshot Ports Signals} {c : Codes} {l : Latches}

theorem latch_beep (silent : l.activationBip = false) :
    (latch (beepInputs s c) l).activationBip = true ↔ BeepRaised s c := by
  rcases l with ⟨activation, attente, choix⟩
  obtain rfl : activation = false := silent
  by_cases short : c.auto = 0b01#2 ∨ c.auto = 0b10#2 ∨ c.babord = 0b01#2 ∨ c.tribord = 0b01#2 <;>
    by_cases long : c.babord = 0b10#2 ∨ c.tribord = 0b10#2 <;>
    cases raz : s.signals.bip.raz <;> cases re1 : s.signals.bip.edge1sec.reO <;>
    cases re05 : s.signals.bip.edge05sec.reO <;>
    simp [latch, beepInputs, BeepRaised, beepPorts, GestionBip.Ports.rings, short, long, raz, re1,
      re05]

theorem latch_choice (closed : l.tempChoixBtn = false) :
    (latch (beepInputs s c) l).tempChoixBtn = true ↔ ChoiceOpened s c := by
  rcases l with ⟨activation, attente, choix⟩
  obtain rfl : choix = false := closed
  by_cases short : c.auto = 0b01#2 ∨ c.auto = 0b10#2 ∨ c.babord = 0b01#2 ∨ c.tribord = 0b01#2 <;>
    by_cases long : c.babord = 0b10#2 ∨ c.tribord = 0b10#2 <;>
    cases raz : s.signals.bip.raz <;> cases re1 : s.signals.bip.edge1sec.reO <;>
    cases re05 : s.signals.bip.edge05sec.reO <;>
    simp [latch, beepInputs, ChoiceOpened, beepPorts, GestionBip.Ports.opensChoice, short, long,
      raz, re1, re05]

end Latch

section Decode
variable {i i' : MachineEtat.Inputs} {next : State}

structure SameCodes (i i' : MachineEtat.Inputs) : Prop where
  btnBabord : i.btnBabordI = i'.btnBabordI
  btnTribord : i.btnTribordI = i'.btnTribordI
  auto : i.appuiBtnAutoI = i'.appuiBtnAutoI
  babord : i.appuiBtnBabordI = i'.appuiBtnBabordI
  tribord : i.appuiBtnTribordI = i'.appuiBtnTribordI

/-- While a beep sounds, an evaluation does nothing a later one would not. -/
theorem decode_beeping (same : SameCodes i i') (beeping : i.activationBipI = true)
    (current : State) : decode i' current (decode i current next) = decode i' current next := by
  obtain ⟨btnBabord, btnTribord, auto, babord, tribord⟩ := same
  cases current <;>
    simp only [decode, beeping, btnBabord, btnTribord, auto, babord, tribord] <;>
    split_ifs <;> simp_all

theorem decode_standby_race (same : SameCodes i i') (silent : i.activationBipI = false) :
    decode i' .stSTBY (decode i .stSTBY next) = decode i' .stSTBY next ↔
      ¬ (i.appuiBtnAutoI = 0b01#2 ∧ i'.activationBipI = true ∧ i.btnBabordI = false ∧
        i.btnTribordI = false ∧ next ≠ .stAUTO) := by
  obtain ⟨btnBabord, btnTribord, auto, -, -⟩ := same
  rw [auto, btnBabord, btnTribord]
  by_cases short : i'.appuiBtnAutoI = 0b01#2 <;> cases beep : i'.activationBipI <;>
    cases port : i'.btnBabordI <;> cases starboard : i'.btnTribordI <;>
    simp [decode, auto, btnBabord, btnTribord, short, silent, beep, port, starboard, eq_comm]

theorem decode_auto_race (same : SameCodes i i') (silent : i.activationBipI = false) :
    decode i' .stAUTO (decode i .stAUTO next) = decode i' .stAUTO next ↔
      ¬ (i.appuiBtnAutoI = 0b01#2 ∧ i'.activationBipI = true ∧
        ¬ (i.appuiBtnBabordI = 0b01#2 ∨ i.appuiBtnBabordI = 0b10#2 ∨
          i.appuiBtnTribordI = 0b01#2 ∨ i.appuiBtnTribordI = 0b10#2) ∧ next ≠ .stSTBY) := by
  obtain ⟨-, -, auto, babord, tribord⟩ := same
  rw [auto, babord, tribord]
  by_cases short : i'.appuiBtnAutoI = 0b01#2
  · by_cases b1 : i'.appuiBtnBabordI = 0b01#2 <;> by_cases t1 : i'.appuiBtnTribordI = 0b01#2 <;>
      by_cases b10 : i'.appuiBtnBabordI = 0b10#2 <;>
      by_cases t10 : i'.appuiBtnTribordI = 0b10#2 <;> cases beep : i'.activationBipI <;>
      simp [decode, auto, short, silent, beep, b1, t1, b10, t10, eq_comm]
  · have same : decode i .stAUTO next = decode i' .stAUTO next := by
      simp [decode, auto, babord, tribord, short]
    rw [same, MachineEtat.decode_decode]
    simp [short]

theorem decode_steering_same (same : SameCodes i i') (current : State)
    (steering : current.steering = true) :
    decode i' current (decode i current next) = decode i' current next := by
  have agree : decode i current next = decode i' current next := by
    cases current <;> simp [State.steering] at steering <;>
      simp [decode, same.btnBabord, same.btnTribord]
  rw [agree, MachineEtat.decode_decode]

theorem decode_turn_race {current : State} (turning : current.turning = true)
    (same : SameCodes i i') (silent : i.activationBipI = false) :
    decode i' current (decode i current next) = decode i' current next ↔
      ¬ (i.turnCode current = 0b00#2 ∧ i.tempsChoixBtnBipI = false ∧
        (i'.activationBipI = true ∨ i'.tempsChoixBtnBipI = true) ∧ next ≠ .stAUTO) := by
  have code : i.turnCode current = i'.turnCode current := by
    cases current <;> simp [MachineEtat.Inputs.turnCode, same.babord, same.tribord]
  have body : ∀ j : MachineEtat.Inputs, ∀ n, decode j current n =
      if j.turnCode current = 0b00#2 ∧ j.activationBipI = false ∧ j.tempsChoixBtnBipI = false then
        .stAUTO
      else n := by
    intro j n
    cases current <;> simp [State.turning] at turning <;> rfl
  simp only [body, code, silent]
  by_cases idle : i'.turnCode current = 0b00#2 <;> cases i.tempsChoixBtnBipI <;>
    cases i'.activationBipI <;> cases i'.tempsChoixBtnBipI <;> simp [idle, eq_comm]

end Decode

/-- The two orders agree exactly when there is no race, in every state. -/
theorem orderFree_iff_noRace (s : Snapshot Ports Signals) (c : Codes) :
    OrderFree s c ↔ ¬ Race s c := by
  have beep := latch_beep (s := s) (c := c) (l := s.signals.bip.latches)
  have choice := latch_choice (s := s) (c := c) (l := s.signals.bip.latches)
  rw [orderFree_iff]
  simp only [settled, Signals.latched, Latched.mk.injEq, and_true, nextUnder]
  generalize latch (beepInputs s c) s.signals.bip.latches = l at beep choice ⊢
  have same : SameCodes (machineInputs s.ports c s.signals.bip.latches)
      (machineInputs s.ports c l) := ⟨rfl, rfl, rfl, rfl, rfl⟩
  unfold Race
  cases silent : s.signals.bip.latches.activationBip with
  | true => simp [decode_beeping same silent]
  | false =>
      have raised : l.activationBip = true ↔ BeepRaised s c := beep silent
      have turn : ∀ current : State, current.turning = true →
          (decode (machineInputs s.ports c l) current
              (decode (machineInputs s.ports c s.signals.bip.latches) current
                s.signals.machine.nextSt) =
            decode (machineInputs s.ports c l) current s.signals.machine.nextSt ↔
            ¬ ((machineInputs s.ports c s.signals.bip.latches).turnCode current = 0b00#2 ∧
              s.signals.bip.latches.tempChoixBtn = false ∧
              (BeepRaised s c ∨ ChoiceOpened s c) ∧ s.signals.machine.nextSt ≠ .stAUTO)) := by
        intro current turning
        rw [decode_turn_race turning same silent, ← raised]
        by_cases closed : s.signals.bip.latches.tempChoixBtn = false
        · rw [← choice closed]
          rfl
        · simp [machineInputs, closed]
      simp only [true_and]
      cases s.signals.machine.currentSt with
      | stSTBY =>
          rw [decode_standby_race same silent, ← raised]
          rfl
      | stAUTO =>
          rw [decode_auto_race same silent, ← raised]
          rfl
      | stSTBYbabord => simp [decode_steering_same same .stSTBYbabord rfl]
      | stSTBYtribord => simp [decode_steering_same same .stSTBYtribord rfl]
      | stAUTObabord1 => exact turn _ rfl
      | stAUTOtribord1 => exact turn _ rfl
      | stAUTObabord10 => exact turn _ rfl
      | stAUTOtribord10 => exact turn _ rfl

/-- The controller out of reset with nothing pressed: a short STBY code switches to
st_AUTO or does not. -/
theorem race_on_stby :
    ¬ ∀ s, entity.Reachable powerUp s → ∀ c, OrderFree s c := by
  intro free
  have same := (orderFree_iff _ _).mp
    (free _ (run_reachable entity powerUp (startUp 1 fun _ => {}) 2) ⟨0b01#2, 0b00#2, 0b00#2⟩)
  exact absurd same (by decide +kernel)

end Voilier.GestionBarre
