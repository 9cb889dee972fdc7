import Voilier.Primitives

/-!
# cascadeCompteurs and conversion_degres

The time a PWM signal spends high, counted in microseconds, and the heading in
degrees that such a time stands for.
-/

set_option autoImplicit false

namespace Voilier

open DeltaCycle

/-! ## cascadeCompteurs.vhd -/

namespace CascadeCompteurs

structure Ports where
  clkI : Bool
  arstI : Bool
  pwmI : Bool

/-- `cascade.qnO` is `temps_ms_o` and `horloge.qnO` is `usec`. -/
@[ext]
structure Signals where
  notPwm : Bool := true
  cascade : Counter.Signals 16 := {}
  horloge : Counter.Signals 6 := {}
  rstComp : Bool := false
deriving DecidableEq

/-- `unsigned(usec) = 49`. -/
def isRstComp (usec : BitVec 6) : Bool := decide (usec.toNat = 49)

def cascadePorts (p : Ports) (s : Signals) : Counter.Ports :=
  ⟨p.clkI, p.arstI, s.notPwm, s.rstComp⟩

def horlogePorts (p : Ports) (s : Signals) : Counter.Ports :=
  ⟨p.clkI, p.arstI, s.rstComp, true⟩

def entity : Entity Ports Signals where
  delta p p' s s' :=
    { notPwm := !p'.pwmI
      cascade := (Counter.entity 16).delta (cascadePorts p s) (cascadePorts p' s')
        s.cascade s'.cascade
      horloge := (Counter.entity 6).delta (horlogePorts p s) (horlogePorts p' s')
        s.horloge s'.horloge
      rstComp := isRstComp s'.horloge.qnO }

structure Regs where
  tempsMs : BitVec 16 := 0
  usec : BitVec 6 := 0
deriving DecidableEq

def stable (pwmI : Bool) (x : Regs) : Signals where
  notPwm := !pwmI
  cascade := Counter.stable x.tempsMs
  horloge := Counter.stable x.usec
  rstComp := isRstComp x.usec

/-- The registers one cycle later: `pwmI` is the signal of the cycle that ends. -/
def Regs.next (arst arst' pwmI : Bool) (x : Regs) : Regs where
  tempsMs := if arst' then 0 else Counter.afterEdge arst (!pwmI) (isRstComp x.usec) x.tempsMs
  usec := if arst' then 0 else Counter.afterEdge arst (isRstComp x.usec) true x.usec

theorem Regs.next_reset (arst pwmI : Bool) (x : Regs) : x.next arst true pwmI = {} := rfl

section Rising
variable {ports : Nat → Ports} {arst arst₃ arst' pwm pwm' : Bool} {x : Regs}

theorem rising_stable (clk : ∀ d, (ports d).clkI = wave [false] true d)
    (reset : ∀ d, (ports d).arstI = wave [arst, arst, arst, arst₃] arst' d)
    (kept : arst₃ = true → arst' = true)
    (sync : ∀ d, (ports d).pwmI = wave [pwm, pwm] pwm' d) {d : Nat} (late : 7 ≤ d) :
    entity.trace ports (stable pwm x) d = stable pwm' (x.next arst arst' pwm) := by
  obtain ⟨d, rfl⟩ := Nat.exists_eq_add_of_le' late
  have cascade := trace_instance entity ports (stable pwm x) (Counter.entity 16) cascadePorts
    Signals.cascade (fun _ _ _ _ => rfl) (d + 7)
  have horloge := fun d => trace_instance entity ports (stable pwm x) (Counter.entity 6)
    horlogePorts Signals.horloge (fun _ _ _ _ => rfl) d
  have low := trace_assign entity ports (stable pwm x) Signals.notPwm (fun p _ => !p.pwmI)
    (fun _ _ _ _ => rfl) (by simp [stable, sync]) (d + 6)
  have full := trace_assign entity ports (stable pwm x) Signals.rstComp
    (fun _ s => isRstComp s.horloge.qnO) (fun _ _ _ _ => rfl) rfl (d + 6)
  have counted : ∀ d, 6 ≤ d → (entity.trace ports (stable pwm x) d).horloge =
      Counter.stable (x.next arst arst' pwm).usec := by
    intro d settled
    rw [horloge d]
    exact Counter.rising_settled clk reset kept settled
  have timed : (entity.trace ports (stable pwm x) (d + 7)).cascade =
      Counter.stable (x.next arst arst' pwm).tempsMs := by
    rw [cascade]
    exact Counter.rising_settled clk reset kept (by omega)
  apply Signals.ext
  · rw [low, sync]
    rfl
  · exact timed
  · exact counted (d + 7) (by omega)
  · rw [full, counted (d + 6) (by omega)]
    rfl

end Rising

theorem delta_quiet (p p' : Ports) (x : Regs) (noEdge : risingEdge p.clkI p'.clkI = false)
    (held : p'.arstI = true → x = {}) :
    entity.delta p p' (stable p'.pwmI x) (stable p'.pwmI x) = stable p'.pwmI x := by
  have cascade := Counter.delta_quiet (cascadePorts p (stable p'.pwmI x))
    (cascadePorts p' (stable p'.pwmI x)) x.tempsMs noEdge
    (fun reset => congrArg Regs.tempsMs (held reset))
  have horloge := Counter.delta_quiet (horlogePorts p (stable p'.pwmI x))
    (horlogePorts p' (stable p'.pwmI x)) x.usec noEdge
    (fun reset => congrArg Regs.usec (held reset))
  exact Signals.ext rfl cascade horloge rfl

end CascadeCompteurs

/-! ## conversion_degres.vhd -/

namespace ConversionDegres

structure Ports where
  tempsMsI : BitVec 16

@[ext]
structure Signals where
  tempsTmp : BitVec 16 := 0
  degreTmp : BitVec 16 := 0
  degresO : BitVec 9 := 0
deriving DecidableEq

def degre (tempsTmp : BitVec 16) : BitVec 16 := (tempsTmp - 1000#16) / 100#16

def low9 (degreTmp : BitVec 16) : BitVec 9 := degreTmp.setWidth 9

def entity : Entity Ports Signals where
  delta _ p' _ s' :=
    { tempsTmp := p'.tempsMsI
      degreTmp := degre s'.tempsTmp
      degresO := low9 s'.degreTmp }

/-- The heading of a time in microseconds. -/
def degres (tempsMs : BitVec 16) : BitVec 9 := low9 (degre tempsMs)

def stable (tempsMs : BitVec 16) : Signals := ⟨tempsMs, degre tempsMs, degres tempsMs⟩

theorem degres_toNat (tempsMs : BitVec 16) :
    (degres tempsMs).toNat = (tempsMs.toNat + 64536) % 65536 / 100 % 512 := by
  simp only [degres, low9, degre, BitVec.toNat_setWidth, BitVec.toNat_udiv, BitVec.toNat_sub,
    BitVec.toNat_ofNat]
  rw [Nat.add_comm]

theorem trace_stable {ports : Nat → Ports} {start tempsMs : BitVec 16} {a : Nat}
    (first : (ports 0).tempsMsI = start) (settled : ∀ d, a ≤ d → (ports d).tempsMsI = tempsMs)
    {d : Nat} (late : a + 3 ≤ d) :
    entity.trace ports (stable start) d = stable tempsMs := by
  have temps : ∀ d, a ≤ d → (entity.trace ports (stable start) (d + 1)).tempsTmp = tempsMs := by
    intro d after
    rw [trace_assign entity ports (stable start) Signals.tempsTmp (fun p _ => p.tempsMsI)
      (fun _ _ _ _ => rfl) first.symm, settled d after]
  have quotient : ∀ d, a ≤ d →
      (entity.trace ports (stable start) (d + 2)).degreTmp = degre tempsMs := by
    intro d after
    rw [trace_assign entity ports (stable start) Signals.degreTmp (fun _ s => degre s.tempsTmp)
      (fun _ _ _ _ => rfl) rfl, temps d after]
  have bits : ∀ d, a ≤ d →
      (entity.trace ports (stable start) (d + 3)).degresO = degres tempsMs := by
    intro d after
    rw [trace_assign entity ports (stable start) Signals.degresO (fun _ s => low9 s.degreTmp)
      (fun _ _ _ _ => rfl) rfl, quotient d after]
    rfl
  obtain ⟨d, rfl⟩ := Nat.exists_eq_add_of_le' (Nat.le_trans (Nat.le_add_left 3 a) late)
  exact Signals.ext (temps (d + 2) (by omega)) (quotient (d + 1) (by omega)) (bits d (by omega))

end ConversionDegres

end Voilier
