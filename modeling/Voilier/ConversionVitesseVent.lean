import Voilier.DefEtats

/-!
# ConversionVitesseVent

The anemometer.  Rising edges of its signal are counted over a window that a
second counter delimits; the count is captured when the window closes.
-/

set_option autoImplicit false

namespace Voilier.ConversionVitesseVent

open DeltaCycle

structure Ports where
  clk50MI : Bool
  razNI : Bool
  inFreqAnemometreI : Bool
  continuI : Bool
  startStopI : Bool

/-- `cascade.qnO` is `nbr_re_by_sec`, `horloge.qnO` is `sec`, `edge.reO` is
`re_freq`, `registre.sO` is `data_anemometre_1s`, `defEtats.dataValidO` is
`data_valid_o`, `defEtats.acquisitionO` is `dem_acquisition` and `registre3.sO` is
`data_anemometre_o`. -/
@[ext]
structure Signals where
  raz : Bool
  cascade : Counter.Signals 8 := {}
  horloge : Counter.Signals 26 := {}
  edge : EdgeDetector.Signals := {}
  registre : Registre.Signals 8 := {}
  defEtats : DefEtats.Signals := {}
  registre3 : Registre.Signals 8 := {}
  rstComp : Bool := false
deriving DecidableEq

/-- `unsigned(sec) >= 49999999/100`. -/
def isRstComp (sec : BitVec 26) : Bool := decide (49999999 / 100 ≤ sec.toNat)

def cascadePorts (p : Ports) (s : Signals) : Counter.Ports :=
  ⟨p.clk50MI, s.raz, s.rstComp, s.edge.reO⟩

def horlogePorts (p : Ports) (s : Signals) : Counter.Ports :=
  ⟨p.clk50MI, s.raz, s.rstComp, true⟩

def edgePorts (p : Ports) : EdgeDetector.Ports := ⟨p.clk50MI, true, p.inFreqAnemometreI⟩

def registrePorts (p : Ports) (s : Signals) : Registre.Ports 8 :=
  ⟨p.clk50MI, s.raz, s.rstComp, s.cascade.qnO⟩

def defEtatsPorts (p : Ports) (s : Signals) : DefEtats.Ports :=
  ⟨p.clk50MI, s.raz, p.continuI, p.startStopI⟩

def registre3Ports (p : Ports) (s : Signals) : Registre.Ports 8 :=
  ⟨p.clk50MI, s.raz, s.defEtats.acquisitionO, s.registre.sO⟩

def entity : Entity Ports Signals where
  delta p p' s s' :=
    { raz := !p'.razNI
      cascade := (Counter.entity 8).delta (cascadePorts p s) (cascadePorts p' s')
        s.cascade s'.cascade
      horloge := (Counter.entity 26).delta (horlogePorts p s) (horlogePorts p' s')
        s.horloge s'.horloge
      edge := EdgeDetector.entity.delta (edgePorts p) (edgePorts p') s.edge s'.edge
      registre := (Registre.entity 8).delta (registrePorts p s) (registrePorts p' s')
        s.registre s'.registre
      defEtats := DefEtats.entity.delta (defEtatsPorts p s) (defEtatsPorts p' s')
        s.defEtats s'.defEtats
      registre3 := (Registre.entity 8).delta (registre3Ports p s) (registre3Ports p' s')
        s.registre3 s'.registre3
      rstComp := isRstComp s'.horloge.qnO }

/-! ## One clock cycle -/

structure Regs where
  nbrReBySec : BitVec 8 := 0
  sec : BitVec 26 := 0
  s : Bool := false
  dataAnemometre1s : BitVec 8 := 0
  defEtats : DefEtats.Regs := {}
  dataAnemometre : BitVec 8 := 0
deriving DecidableEq

def Regs.rstComp (x : Regs) : Bool := isRstComp x.sec

def Regs.reFreq (p : Ports) (x : Regs) : Bool := p.inFreqAnemometreI && !x.s

def Regs.demAcquisition (x : Regs) : Bool := DefEtats.acquisition x.defEtats.currentSt

def modes (p : Ports) : DefEtats.Inputs := ⟨p.continuI, p.startStopI⟩

def stable (p : Ports) (x : Regs) : Signals where
  raz := !p.razNI
  cascade := Counter.stable x.nbrReBySec
  horloge := Counter.stable x.sec
  edge := EdgeDetector.stable p.inFreqAnemometreI x.s
  registre := ⟨x.dataAnemometre1s⟩
  defEtats := DefEtats.stable (!p.razNI) x.defEtats
  registre3 := ⟨x.dataAnemometre⟩
  rstComp := x.rstComp

def Regs.next (p p' : Ports) (x : Regs) : Regs where
  nbrReBySec :=
    if !p'.razNI then 0 else Counter.afterEdge (!p.razNI) x.rstComp (x.reFreq p) x.nbrReBySec
  sec := if !p'.razNI then 0 else Counter.afterEdge (!p.razNI) x.rstComp true x.sec
  s := p.inFreqAnemometreI
  dataAnemometre1s :=
    if !p'.razNI then 0
    else Registre.afterEdge (!p.razNI) x.rstComp x.nbrReBySec x.dataAnemometre1s
  defEtats := x.defEtats.next (!p.razNI) (!p'.razNI) (modes p') (modes p')
  dataAnemometre :=
    if !p'.razNI then 0
    else Registre.afterEdge (!p.razNI) x.demAcquisition x.dataAnemometre1s x.dataAnemometre

structure Regs.Cleared (x : Regs) : Prop where
  nbr : x.nbrReBySec = 0
  sec : x.sec = 0
  data1s : x.dataAnemometre1s = 0
  continu : x.defEtats.currentSt = .stContinu
  data : x.dataAnemometre = 0

structure Regs.Wf (p : Ports) (x : Regs) : Prop where
  cleared : p.razNI = false → x.Cleared
  settled : x.defEtats.Settled (modes p)

theorem Regs.next_cleared {p p' : Ports} (x : Regs)
    (reset : p.razNI = false ∨ p'.razNI = false) : (x.next p p').Cleared := by
  rcases reset with before | after
  · constructor <;>
      simp [Regs.next, before, Counter.afterEdge, Registre.afterEdge, DefEtats.Regs.next,
        DefEtats.Regs.entered, DefEtats.Regs.atEdge]
  · constructor <;> simp [Regs.next, after, DefEtats.Regs.next_reset]

theorem Regs.next_wf (p p' : Ports) (x : Regs) : (x.next p p').Wf p' where
  cleared reset := x.next_cleared (Or.inr reset)
  settled := x.defEtats.next_settled _ _ _ _

instance : DeltaCycle.Driven Ports where
  rising old next d :=
    if d = 0 then { old with clk50MI := false }
    else if d = 1 then { old with clk50MI := true }
    else { next with clk50MI := true }
  falling next d := { next with clk50MI := decide (d = 0) }

/-- The port waveform of a rising edge between cycles with ports `p` and `p'`.  The
reset and the mode bits change in delta 2, to `p₂`; a reset of the register they come
from clears them once more in the delta after. -/
structure Rises (ports : Nat → Ports) (p p₂ p' : Ports) : Prop where
  clk : ∀ d, (ports d).clk50MI = wave [false] true d
  razN : ∀ d, (ports d).razNI = wave [p.razNI, p.razNI, p₂.razNI] p'.razNI d
  kept : p₂.razNI = false → p'.razNI = false
  inFreq : ∀ d, (ports d).inFreqAnemometreI =
    wave [p.inFreqAnemometreI, p.inFreqAnemometreI] p'.inFreqAnemometreI d
  mode : ∀ d, modes (ports d) = wave [modes p, modes p, modes p₂] (modes p') d
  cleared : modes p₂ = modes p' ∨ p'.razNI = false ∧ modes p' = ⟨false, false⟩

theorem rises_driven (p p' : Ports) : Rises (Driven.rising p p') p p' p' where
  clk d := by rcases d with _ | _ | d <;> rfl
  razN d := by rcases d with _ | _ | _ | d <;> rfl
  kept := id
  inFreq d := by rcases d with _ | _ | d <;> rfl
  mode d := by rcases d with _ | _ | _ | d <;> rfl
  cleared := Or.inl rfl

section Rising
variable {ports : Nat → Ports} {p p₂ p' : Ports} {x : Regs}

theorem rising_raz (rises : Rises ports p p₂ p') (d : Nat) :
    (entity.trace ports (stable p x) d).raz =
      wave [!p.razNI, !p.razNI, !p.razNI, !p₂.razNI] (!p'.razNI) d :=
  assign_wave entity ports (stable p x) Signals.raz (fun p _ => p.razNI) not
    (fun _ _ _ _ => rfl) (by simp [stable, rises.razN]) rises.razN d

theorem rises_kept (rises : Rises ports p p₂ p') :
    (!p₂.razNI) = true → (!p'.razNI) = true := by
  intro reset
  have kept := rises.kept (by simpa using reset)
  simp [kept]

theorem rising_cascade (rises : Rises ports p p₂ p') {d : Nat} (late : 6 ≤ d) :
    (entity.trace ports (stable p x) d).cascade = Counter.stable (x.next p p').nbrReBySec := by
  rw [trace_instance entity ports (stable p x) (Counter.entity 8) cascadePorts
    Signals.cascade (fun _ _ _ _ => rfl) d]
  exact Counter.rising_settled rises.clk (rising_raz rises) (rises_kept rises) late

theorem rising_horloge (rises : Rises ports p p₂ p') {d : Nat} (late : 6 ≤ d) :
    (entity.trace ports (stable p x) d).horloge = Counter.stable (x.next p p').sec := by
  rw [trace_instance entity ports (stable p x) (Counter.entity 26) horlogePorts
    Signals.horloge (fun _ _ _ _ => rfl) d]
  exact Counter.rising_settled rises.clk (rising_raz rises) (rises_kept rises) late

theorem rising_edge (rises : Rises ports p p₂ p') {d : Nat} (late : 3 ≤ d) :
    (entity.trace ports (stable p x) d).edge =
      EdgeDetector.stable p'.inFreqAnemometreI (x.next p p').s := by
  rw [trace_instance entity ports (stable p x) EdgeDetector.entity (fun p _ => edgePorts p)
    Signals.edge (fun _ _ _ _ => rfl) d]
  exact EdgeDetector.rising_settled rises.clk (fun _ => rfl) rises.inFreq late

theorem rising_registre (rises : Rises ports p p₂ p') {d : Nat} (late : 5 ≤ d) :
    (entity.trace ports (stable p x) d).registre = ⟨(x.next p p').dataAnemometre1s⟩ := by
  rw [trace_instance entity ports (stable p x) (Registre.entity 8) registrePorts
    Signals.registre (fun _ _ _ _ => rfl) d]
  exact Registre.rising_settled rises.clk (rising_raz rises) (rises_kept rises) late

theorem rising_defEtats (rises : Rises ports p p₂ p') (settled : x.defEtats.Settled (modes p))
    {d : Nat} (late : 6 ≤ d) :
    (entity.trace ports (stable p x) d).defEtats =
      DefEtats.stable (!p'.razNI) (x.next p p').defEtats := by
  rw [trace_instance entity ports (stable p x) DefEtats.entity defEtatsPorts
    Signals.defEtats (fun _ _ _ _ => rfl) d]
  have seen : ∀ d, DefEtats.inputs (defEtatsPorts (ports d) (entity.trace ports (stable p x) d)) =
      wave [modes p, modes p, modes p₂] (modes p') d := rises.mode
  have cleared : x.defEtats.next (!p.razNI) (!p'.razNI) (modes p₂) (modes p') =
      (x.next p p').defEtats :=
    x.defEtats.next_cleared (rises.cleared.imp_right fun both => ⟨by simp [both.1], both.2⟩)
  refine (DefEtats.rising_stable rises.clk (rising_raz rises) (rises_kept rises) seen settled
    late).trans ?_
  rw [cleared]

theorem rising_registre3 (rises : Rises ports p p₂ p') {d : Nat} (late : 5 ≤ d) :
    (entity.trace ports (stable p x) d).registre3 = ⟨(x.next p p').dataAnemometre⟩ := by
  rw [trace_instance entity ports (stable p x) (Registre.entity 8) registre3Ports
    Signals.registre3 (fun _ _ _ _ => rfl) d]
  exact Registre.rising_settled rises.clk (rising_raz rises) (rises_kept rises) late

theorem rising_stable (rises : Rises ports p p₂ p') (settled : x.defEtats.Settled (modes p))
    {d : Nat} (late : 7 ≤ d) : entity.trace ports (stable p x) d = stable p' (x.next p p') := by
  obtain ⟨d, rfl⟩ := Nat.exists_eq_add_of_le' late
  have closes := trace_assign entity ports (stable p x) Signals.rstComp
    (fun _ s => isRstComp s.horloge.qnO) (fun _ _ _ _ => rfl) rfl (d + 6)
  rw [rising_horloge rises (by omega)] at closes
  apply Signals.ext
  · exact rising_raz rises (d + 7)
  · exact rising_cascade rises (by omega)
  · exact rising_horloge rises (by omega)
  · exact rising_edge rises (by omega)
  · exact rising_registre rises (by omega)
  · exact rising_defEtats rises settled (by omega)
  · exact rising_registre3 rises (by omega)
  · exact closes

end Rising

/-- A falling edge of the clock, with the other ports at rest, wakes nothing. -/
theorem delta_quiet (p p' : Ports) (x : Regs) (wf : x.Wf p')
    (noEdge : risingEdge p.clk50MI p'.clk50MI = false) (same : modes p = modes p') :
    entity.delta p p' (stable p' x) (stable p' x) = stable p' x := by
  have cleared : (!p'.razNI) = true → x.Cleared := by
    intro reset
    exact wf.cleared (by simpa using reset)
  apply Signals.ext
  · rfl
  · exact Counter.delta_quiet (cascadePorts p (stable p' x)) (cascadePorts p' (stable p' x))
      x.nbrReBySec noEdge fun reset => (cleared reset).nbr
  · exact Counter.delta_quiet (horlogePorts p (stable p' x)) (horlogePorts p' (stable p' x))
      x.sec noEdge fun reset => (cleared reset).sec
  · exact EdgeDetector.delta_quiet (edgePorts p) (edgePorts p') x.s noEdge
  · exact Registre.delta_quiet (registrePorts p (stable p' x)) (registrePorts p' (stable p' x))
      x.dataAnemometre1s noEdge fun reset => (cleared reset).data1s
  · exact DefEtats.delta_quiet (defEtatsPorts p (stable p' x)) (defEtatsPorts p' (stable p' x))
      x.defEtats noEdge (fun reset => (cleared reset).continu) same
  · exact Registre.delta_quiet (registre3Ports p (stable p' x)) (registre3Ports p' (stable p' x))
      x.dataAnemometre noEdge fun reset => (cleared reset).data
  · rfl

theorem falling_quiet {p : Ports} {x : Regs} (wf : x.Wf p) (d : Nat) :
    entity.delta (Driven.falling p d) (Driven.falling p (d + 1)) (stable p x) (stable p x) =
      stable p x :=
  delta_quiet (Driven.falling p d) (Driven.falling p (d + 1)) x ⟨wf.cleared, wf.settled⟩
    (risingEdge_falling d) rfl

theorem cycle_eq (p p' : Ports) (x : Regs) (wf : x.Wf p) :
    entity.cycle ⟨p, stable p x⟩ p' = ⟨p', stable p' (x.next p p')⟩ := by
  have risen : entity.rise ⟨p, stable p x⟩ p' = stable p' (x.next p p') :=
    rising_stable (rises_driven p p') wf.settled (by decide)
  exact cycle_of_edges risen (falling_quiet (x.next_wf p p'))

/-! ## Runs -/

def powerUp : Snapshot Ports Signals where
  ports := ⟨false, false, false, false, false⟩
  signals := stable ⟨false, false, false, false, false⟩ {}

theorem powerUp_wf : Regs.Wf powerUp.ports {} where
  cleared _ := ⟨rfl, rfl, rfl, rfl, rfl⟩
  settled := rfl

def Regs.run (p : Ports) (wave : Nat → Ports) (x : Regs) : Nat → Regs :=
  runRegs Regs.next p wave x

theorem implements : Implements entity stable Regs.next Regs.Wf where
  cycle := cycle_eq
  wf p p' x _ := x.next_wf p p'

theorem run_from {p : Ports} {x : Regs} (wf : x.Wf p) (wave : Nat → Ports) (t : Nat) :
    entity.run ⟨p, stable p x⟩ wave t = ⟨wave t, stable (wave t) (x.run p wave t)⟩ :=
  implements.run_eq wf wave t

theorem reachable_stable {s : Snapshot Ports Signals} (reached : entity.Reachable powerUp s) :
    ∃ x : Regs, x.Wf s.ports ∧ s = ⟨s.ports, stable s.ports x⟩ :=
  implements.reachable powerUp_wf reached

end Voilier.ConversionVitesseVent
