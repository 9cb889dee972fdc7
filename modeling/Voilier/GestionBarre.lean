import Voilier.GestionTempsAppuiBouton
import Voilier.MachineEtat
import Voilier.GestionLeds

/-!
# gestion_barre

The helm controller: three press timers, the state machine, the beep sequencer
and the leds, wired as in the architecture.
-/

set_option autoImplicit false

namespace Voilier.GestionBarre

open DeltaCycle

structure Ports where
  clk50MI : Bool
  razNI : Bool
  bpSTBYI : Bool
  bpBabordI : Bool
  bpTribordI : Bool

/-- `btnAuto.appuiBtnO`, `btnBabord.appuiBtnO` and `btnTribord.appuiBtnO` are the
signals `appui_btn_*`; `bip.bipO` is `bip` and `bip.tempsChoixO` is
`temps_btn_bip`. -/
@[ext]
structure Signals where
  machine : MachineEtat.Signals
  btnAuto : GestionTempsAppuiBouton.Signals
  btnBabord : GestionTempsAppuiBouton.Signals
  btnTribord : GestionTempsAppuiBouton.Signals
  bip : GestionBip.Signals
  leds : GestionLeds.Signals
  codeFonctionO : BitVec 4
  outBipO : Bool
deriving DecidableEq

def machinePorts (p : Ports) (s : Signals) : MachineEtat.Ports where
  clkI := p.clk50MI
  razI := p.razNI
  btnBabordI := p.bpBabordI
  btnTribordI := p.bpTribordI
  appuiBtnAutoI := s.btnAuto.appuiBtnO
  appuiBtnBabordI := s.btnBabord.appuiBtnO
  appuiBtnTribordI := s.btnTribord.appuiBtnO
  tempsChoixBtnBipI := s.bip.tempsChoixO
  activationBipI := s.bip.bipO

def btnAutoPorts (p : Ports) : GestionTempsAppuiBouton.Ports := ⟨p.clk50MI, p.razNI, p.bpSTBYI⟩

def btnBabordPorts (p : Ports) : GestionTempsAppuiBouton.Ports :=
  ⟨p.clk50MI, p.razNI, p.bpBabordI⟩

def btnTribordPorts (p : Ports) : GestionTempsAppuiBouton.Ports :=
  ⟨p.clk50MI, p.razNI, p.bpTribordI⟩

def bipPorts (p : Ports) (s : Signals) : GestionBip.Ports where
  clkI := p.clk50MI
  razNI := p.razNI
  btnAUTOI := s.btnAuto.appuiBtnO
  btnBabordI := s.btnBabord.appuiBtnO
  btnTribordI := s.btnTribord.appuiBtnO
  enI := true

def ledsPorts (p : Ports) (s : Signals) : GestionLeds.Ports where
  clkI := p.clk50MI
  razNI := p.razNI
  btnBabordI := p.bpBabordI
  btnTribordI := p.bpTribordI
  modeLedsI := s.machine.modeLedsO
  appuiBtnBabord := s.btnBabord.appuiBtnO
  appuiBtnTribord := s.btnTribord.appuiBtnO
  codeFonction := s.machine.codeFonctionO

def entity : Entity Ports Signals where
  delta p p' s s' :=
    { machine := MachineEtat.entity.delta (machinePorts p s) (machinePorts p' s')
        s.machine s'.machine
      btnAuto := GestionTempsAppuiBouton.entity.delta (btnAutoPorts p) (btnAutoPorts p')
        s.btnAuto s'.btnAuto
      btnBabord := GestionTempsAppuiBouton.entity.delta (btnBabordPorts p) (btnBabordPorts p')
        s.btnBabord s'.btnBabord
      btnTribord := GestionTempsAppuiBouton.entity.delta (btnTribordPorts p) (btnTribordPorts p')
        s.btnTribord s'.btnTribord
      bip := GestionBip.entity.delta (bipPorts p s) (bipPorts p' s') s.bip s'.bip
      leds := GestionLeds.entity.delta (ledsPorts p s) (ledsPorts p' s') s.leds s'.leds
      codeFonctionO := s'.machine.codeFonctionO
      outBipO := s'.bip.bipO }

/-- The buttons and the reset move one delta after the clock, with the
registers. -/
instance : Driven Ports where
  rising old next d :=
    if d = 0 then { old with clk50MI := false }
    else if d = 1 then { old with clk50MI := true }
    else { next with clk50MI := true }
  falling next d := { next with clk50MI := decide (d = 0) }

/-- Power-up: reset asserted, no button pressed, every register and latch at its
initial value. -/
def powerUp : Snapshot Ports Signals where
  ports := ⟨false, false, false, false, false⟩
  signals :=
    { machine := {}
      btnAuto := { raz := true }
      btnBabord := { raz := true }
      btnTribord := { raz := true }
      bip := { raz := true }
      leds := { raz := true, bip := { raz := true } }
      codeFonctionO := 0b0000#4
      outBipO := false }

def run (wave : Nat → Ports) (t : Nat) : Snapshot Ports Signals :=
  entity.run powerUp wave t

end Voilier.GestionBarre
