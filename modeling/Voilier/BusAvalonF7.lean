import Voilier.AvalonSlave
import Voilier.BarreRuns

/-!
# bus_avalon_f7

The slave of the helm controller.  Software holds the controller in reset with bit 0
of address 0 and reads the rudder command at address 1; the buttons, the leds and the
buzzer are pins.
-/

set_option autoImplicit false

namespace Voilier.BusAvalonF7

open DeltaCycle

structure Ports extends AvalonSlave.Bus where
  bpSTBYI : Bool
  bpBabordI : Bool
  bpTribordI : Bool

/-- The pins `ledBabord_o`, `ledTribord_o`, `ledSTBY_o` and `out_bip_o` are those of
`barreInst`. -/
@[ext]
structure Signals where
  raz : Bool := false
  barreInst : GestionBarre.Signals
  codeFonctionEnvoie : BitVec 32 := 0
  readDataO : BitVec 32 := 0
deriving DecidableEq

/-- The bit of the written word that goes to `raz`. -/
def razBit (writeData : BitVec 32) : Bool := writeData.getLsbD 0

/-- `process(clk_i, arst_i)`. -/
def write (p p' : Ports) (raz : Bool) : Bool :=
  AvalonSlave.write false razBit p.toBus p'.toBus raz

/-- `codeFonction` on the bits 3 downto 0; nothing drives the others. -/
def word (codeFonction : BitVec 4) : BitVec 32 := codeFonction.setWidth 32

def barrePorts (p : Ports) (raz : Bool) : GestionBarre.Ports :=
  ⟨p.clkI, raz, p.bpSTBYI, p.bpBabordI, p.bpTribordI⟩

def entity : Entity Ports Signals where
  delta p p' s s' :=
    { raz := write p p' s'.raz
      barreInst := GestionBarre.entity.delta (barrePorts p s.raz) (barrePorts p' s'.raz)
        s.barreInst s'.barreInst
      codeFonctionEnvoie := word s'.barreInst.codeFonctionO
      readDataO := AvalonSlave.readData p'.addressI s'.codeFonctionEnvoie }

instance : Driven Ports where
  rising old next d :=
    if d = 0 then { old with clkI := false }
    else if d = 1 then { old with clkI := true }
    else { next with clkI := true }
  falling next d := { next with clkI := decide (d = 0) }

/-- Power-up, the bus in reset and the controller at rest. -/
def powerUp : Snapshot Ports Signals where
  ports := ⟨⟨true, false, 0, 0, false⟩, false, false, false⟩
  signals := { barreInst := GestionBarre.powerUp.signals }

def run (wave : Nat → Ports) (t : Nat) : Snapshot Ports Signals :=
  entity.run powerUp wave t

/-! ## The controller behind the bus -/

/-- What software last wrote to `raz`. -/
def lastRaz (wave : Nat → Ports) (t : Nat) : Bool :=
  AvalonSlave.lastWritten false razBit (fun t => (wave t).toBus) t

/-- The ports of the controller, had software driven its reset. -/
def helm (wave : Nat → Ports) (t : Nat) : GestionBarre.Ports :=
  barrePorts { wave t with clkI := false } (lastRaz wave t)

/-- The reset of the bus comes only where the controller is in reset already, or is
being put there. -/
def Orderly (wave : Nat → Ports) : Prop :=
  ∀ t, (wave (t + 1)).arstI = true →
    AvalonSlave.atEdge false razBit (wave t).toBus (lastRaz wave t) = false

theorem hosts_raz : Hosts entity (AvalonSlave.control false razBit) (fun p _ => p.toBus)
    Signals.raz where
  delta _ _ _ _ := rfl

theorem hosts_barre : Hosts entity GestionBarre.entity (fun p s => barrePorts p s.raz)
    Signals.barreInst where
  delta _ _ _ _ := rfl

theorem rising_toBus (p p' : Ports) (d : Nat) :
    (Driven.rising p p' d).toBus = Driven.rising p.toBus p'.toBus d := by
  rcases d with _ | _ | d <;> rfl

theorem wired_raz (p p' : Ports) (s : Signals) :
    Wired entity (fun p _ => p.toBus) p s p' p.toBus p'.toBus :=
  ⟨rising_toBus p p', fun _ => rfl⟩

theorem run_raz (wave : Nat → Ports) (t : Nat) : (run wave t).signals.raz = lastRaz wave t := by
  have hosted : (AvalonSlave.control false razBit).run ⟨powerUp.ports.toBus, false⟩
      (fun t => (wave t).toBus) t = ⟨(wave t).toBus, (run wave t).signals.raz⟩ :=
    hosts_raz.run (wired_raz _ _ _) (fun _ => wired_raz _ _ _) t
  have alone := (AvalonSlave.control_implements false razBit).run_eq
    (p := powerUp.ports.toBus) (x := false) (fun _ => rfl) (fun t => (wave t).toBus) t
  rw [AvalonSlave.regs_eq_lastWritten false razBit rfl] at alone
  exact (congrArg Snapshot.signals (hosted.symm.trans alone))

section Edges
variable {p p' : Ports} {s : Signals}

/-- Where the bit and a reset of the bus agree, the bit moves once. -/
theorem rising_raz
    (agrees : p'.arstI = true → AvalonSlave.atEdge false razBit p.toBus s.raz = false) (d : Nat) :
    (entity.trace (Driven.rising p p') s d).raz =
      wave [s.raz, s.raz] (AvalonSlave.next false razBit p.toBus p'.toBus s.raz) d := by
  have once : AvalonSlave.atEdge false razBit p.toBus s.raz =
      AvalonSlave.next false razBit p.toBus p'.toBus s.raz := by
    unfold AvalonSlave.next
    split_ifs with reset
    · exact agrees reset
    · rfl
  rw [hosts_raz.trace]
  simp only [rising_toBus]
  rw [AvalonSlave.rising_control, once]
  exact wave_append_final [s.raz, s.raz] _ d

theorem falling_raz (d : Nat) :
    (entity.trace (Driven.falling p') (entity.rise ⟨p, s⟩ p') d).raz =
      AvalonSlave.next false razBit p.toBus p'.toBus s.raz := by
  have risen : (entity.rise ⟨p, s⟩ p').raz =
      AvalonSlave.next false razBit p.toBus p'.toBus s.raz := by
    rw [Entity.rise, hosts_raz.trace]
    simp only [rising_toBus]
    rw [AvalonSlave.rising_control]
    rfl
  rw [hosts_raz.trace, risen]
  exact AvalonSlave.falling_control false razBit (AvalonSlave.next_held false razBit _ _ _) d

theorem wired_barre (p p' : Ports) (s : Signals)
    (agrees : p'.arstI = true → AvalonSlave.atEdge false razBit p.toBus s.raz = false) :
    Wired entity (fun p s => barrePorts p s.raz) p s p' (barrePorts { p with clkI := false } s.raz)
      (barrePorts { p' with clkI := false }
        (AvalonSlave.next false razBit p.toBus p'.toBus s.raz)) where
  rising d := by
    rw [rising_raz agrees]
    rcases d with _ | _ | d <;> rfl
  falling d := by
    rw [falling_raz]
    rfl

end Edges

theorem barre_settled {x : Snapshot GestionBarre.Ports GestionBarre.Signals}
    (reached : GestionBarre.entity.Reachable GestionBarre.powerUp x) (p' : GestionBarre.Ports)
    (d : Nat) : GestionBarre.entity.trace (Driven.falling p') (GestionBarre.entity.rise x p')
      (d + 2) = (GestionBarre.entity.cycle x p').signals := by
  obtain ⟨regs, wf, eq⟩ := GestionBarre.reachable_stable reached
  have risen : GestionBarre.entity.rise x p' =
      GestionBarre.stable p' (regs.rise x.ports p') := by
    rw [eq]
    exact GestionBarre.rising_stable wf (by decide)
  have fallen := GestionBarre.falling_stable (GestionBarre.rise_wf x.ports p' regs)
  rw [Entity.cycle, risen, fallen, settleDepth, fallen]

theorem cycle_readDataO {p p' : Ports} {s : Signals} {q q' : GestionBarre.Ports}
    (wired : Wired entity (fun p s => barrePorts p s.raz) p s p' q q')
    (reached : GestionBarre.entity.Reachable GestionBarre.powerUp ⟨q, s.barreInst⟩) :
    (entity.cycle ⟨p, s⟩ p').signals.readDataO = AvalonSlave.readData p'.addressI
      (word (entity.cycle ⟨p, s⟩ p').signals.barreInst.codeFonctionO) := by
  have early : (entity.trace (Driven.falling p') (entity.rise ⟨p, s⟩ p') 10).barreInst =
      (entity.cycle ⟨p, s⟩ p').signals.barreInst := by
    rw [hosts_barre.fall wired, barre_settled reached]
    exact congrArg Snapshot.signals (hosts_barre.cycle wired)
  rw [← early]
  rfl

section Runs
variable {wave : Nat → Ports}

theorem wired_first (wave : Nat → Ports) :
    Wired entity (fun p s => barrePorts p s.raz) powerUp.ports powerUp.signals (wave 0)
      GestionBarre.powerUp.ports (helm wave 0) := by
  have cleared : AvalonSlave.next false razBit powerUp.ports.toBus (wave 0).toBus
      powerUp.signals.raz = lastRaz wave 0 := by
    rw [AvalonSlave.next_eq]
    exact if_pos (Bool.or_true _)
  have wired := wired_barre powerUp.ports (wave 0) powerUp.signals fun _ => rfl
  rw [cleared] at wired
  exact wired

theorem wired_later (orderly : Orderly wave) (t : Nat) :
    Wired entity (fun p s => barrePorts p s.raz) (wave t) (run wave t).signals (wave (t + 1))
      (helm wave t) (helm wave (t + 1)) := by
  have raz := run_raz wave t
  have wired := wired_barre (wave t) (wave (t + 1)) (run wave t).signals fun reset => by
    rw [raz]
    exact orderly t reset
  have advances := AvalonSlave.lastWritten_succ false razBit (fun t => (wave t).toBus) t
  rw [raz] at wired
  simp only [helm, lastRaz, advances]
  exact wired

theorem run_barre (orderly : Orderly wave) (t : Nat) :
    GestionBarre.run (helm wave) t = ⟨helm wave t, (run wave t).signals.barreInst⟩ :=
  hosts_barre.run (wired_first wave) (wired_later orderly) t

theorem run_readDataO (orderly : Orderly wave) (t : Nat) :
    (run wave t).signals.readDataO = AvalonSlave.readData (wave t).addressI
      (word (run wave t).signals.barreInst.codeFonctionO) := by
  cases t with
  | zero => exact cycle_readDataO (wired_first wave) .powerUp
  | succ t =>
      have ports : run wave t = ⟨wave t, (run wave t).signals⟩ := by
        cases t <;> rfl
      have reached := run_reachable GestionBarre.entity GestionBarre.powerUp (helm wave) t
      rw [show GestionBarre.entity.run GestionBarre.powerUp (helm wave) t = _ from
        run_barre orderly t] at reached
      rw [run, run_succ, show entity.run powerUp wave t = _ from ports]
      exact cycle_readDataO (wired_later orderly t) reached

end Runs

/-- The controller behind the bus is gestion_barre with the reset that software last
wrote, and what software reads is the command of the cycle. -/
theorem helm_over_bus {wave : Nat → Ports} (orderly : Orderly wave) (t : Nat) :
    (run wave t).signals.barreInst = (GestionBarre.run (helm wave) t).signals ∧
      (run wave t).signals.readDataO = AvalonSlave.readData (wave t).addressI
        (word (GestionBarre.run (helm wave) t).signals.codeFonctionO) := by
  rw [run_readDataO orderly, run_barre orderly]
  exact ⟨rfl, rfl⟩

/-- Software enables the helm with the write of cycle 1 and disables it with that of cycle
12, and then the bus is reset; STBY is pressed in between. -/
def visitWave (t : Nat) : Ports :=
  ⟨⟨decide (t = 0 ∨ t = 13), false, if t = 1 ∨ t = 12 then 0 else 1, if t < 12 then 1 else 0,
    decide (t = 1 ∨ t = 12)⟩, decide (3 ≤ t ∧ t < 6), false, false⟩

theorem visitWave_orderly : Orderly visitWave := by
  intro t reset
  have last : t = 12 := by
    simp only [visitWave, decide_eq_true_eq] at reset
    omega
  subst last
  rfl

/-- In AUTO software reads 0011, and after the reset of the bus 0000. -/
theorem visitWave_reads : (run visitWave 9).signals.readDataO = 0b0011#32 ∧
    (run visitWave 14).signals.readDataO = 0b0000#32 := by
  refine ⟨(helm_over_bus visitWave_orderly 9).2.trans ?_,
    (helm_over_bus visitWave_orderly 14).2.trans ?_⟩
  · rw [GestionBarre.run_eq]
    decide +kernel
  · rw [GestionBarre.run_eq]
    decide +kernel

/-! ## Software that enables the helm once -/

def buttons (wave : Nat → Ports) (t : Nat) : GestionBarre.Buttons :=
  ⟨(wave t).bpSTBYI, (wave t).bpBabordI, (wave t).bpTribordI⟩

/-- The first write that releases the controller is that of cycle `w`, and neither
software nor the bus resets it again. -/
structure Enables (wave : Nat → Ports) (w : Nat) : Prop where
  before : ∀ t < w, (wave t).accepts = true → razBit (wave t).writeDataI = false
  accepts : (wave w).accepts = true
  released : razBit (wave w).writeDataI = true
  after : ∀ t, w < t → (wave t).accepts = true → razBit (wave t).writeDataI = true
  running : ∀ t, w ≤ t → (wave t).arstI = false

section Enables
variable {wave : Nat → Ports} {w : Nat}

theorem Enables.lastRaz_eq (enables : Enables wave w) (t : Nat) :
    lastRaz wave t = decide (w < t) := by
  induction t with
  | zero => rfl
  | succ t ih =>
      change AvalonSlave.lastWritten false razBit (fun t => (wave t).toBus) (t + 1) = _
      rw [AvalonSlave.lastWritten_succ, AvalonSlave.next_eq]
      change (if _ then _ else if _ then _ else lastRaz wave t) = _
      rw [ih]
      rcases Nat.lt_trichotomy t w with early | rfl | late
      · rw [decide_eq_false (show ¬ w < t + 1 by omega), decide_eq_false (show ¬ w < t by omega)]
        split_ifs with reset accepted
        · rfl
        · exact enables.before t early accepted
        · rfl
      · rw [enables.running t (Nat.le_refl t), enables.running (t + 1) (by omega),
          enables.accepts, decide_eq_true (Nat.lt_succ_self t)]
        exact enables.released
      · rw [enables.running t (by omega), enables.running (t + 1) (by omega),
          if_neg (by decide), decide_eq_true (show w < t + 1 by omega), decide_eq_true late]
        split_ifs with accepted
        · exact enables.after t late accepted
        · rfl

theorem Enables.orderly (enables : Enables wave w) : Orderly wave := by
  intro t reset
  have early : t < w := by
    by_contra late
    rw [enables.running (t + 1) (by omega)] at reset
    exact absurd reset (by decide)
  unfold AvalonSlave.atEdge AvalonSlave.written
  rw [enables.lastRaz_eq, decide_eq_false (show ¬ w < t by omega)]
  split_ifs with _ writes zero
  · rfl
  · exact enables.before t early (by simp [AvalonSlave.Bus.accepts, writes, zero])
  · rfl
  · rfl

/-- Such software makes the helm start up once. -/
theorem Enables.helm_eq (enables : Enables wave w) :
    helm wave = GestionBarre.startUp (w + 1) (buttons wave) := by
  funext t
  unfold helm
  rw [enables.lastRaz_eq]
  rfl

end Enables

/-- The bus leaves its reset, and software writes 1 in the next cycle. -/
def enableWave (pins : Nat → GestionBarre.Buttons) (t : Nat) : Ports :=
  ⟨⟨decide (t = 0), false, if t = 1 then 0 else 1, 1, decide (t = 1)⟩, (pins t).bpSTBYI,
    (pins t).bpBabordI, (pins t).bpTribordI⟩

section EnableWave
variable (pins : Nat → GestionBarre.Buttons)

theorem enableWave_quiet {t : Nat} (other : t ≠ 1) : (enableWave pins t).accepts = false := by
  simp [AvalonSlave.Bus.accepts, enableWave, other]

theorem enableWave_enables : Enables (enableWave pins) 1 where
  before t early accepted := by simp [enableWave_quiet pins (show t ≠ 1 by omega)] at accepted
  accepts := rfl
  released := by
    change razBit 1 = true
    decide
  after t late accepted := by simp [enableWave_quiet pins (show t ≠ 1 by omega)] at accepted
  running t late := decide_eq_false (by omega)

end EnableWave

end Voilier.BusAvalonF7
