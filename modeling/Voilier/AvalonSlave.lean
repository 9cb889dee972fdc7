import Voilier.DeltaCycle
import Voilier.RegisterTransfer

/-!
# Memory-mapped slaves

A slave of the bus has a control register, loaded by a write to address 0 and
cleared by the reset of the bus, and a word that is read at address 1.
-/

set_option autoImplicit false

namespace AvalonSlave

open DeltaCycle RegisterTransfer

/-- What the bus drives into a slave. -/
structure Bus where
  arstI : Bool
  clkI : Bool
  addressI : BitVec 1
  writeDataI : BitVec 32
  writeI : Bool

/-- The bus writes the control register. -/
def Bus.accepts (b : Bus) : Bool := b.writeI && decide (b.addressI.toNat = 0x00)

def readData (addressI : BitVec 1) (word : BitVec 32) : BitVec 32 :=
  if addressI.toNat = 0x01 then word else 0

instance : Driven Bus where
  rising old next d :=
    if d = 0 then { old with clkI := false }
    else if d = 1 then { old with clkI := true }
    else { next with clkI := true }
  falling next d := { next with clkI := decide (d = 0) }

/-! ## The control register -/

section Control
variable {α : Type} (zero : α) (decode : BitVec 32 → α)

def written (b : Bus) (x : α) : α :=
  if b.writeI then
    if b.addressI.toNat = 0x00 then decode b.writeDataI else x
  else x

/-- The clocked process of the register, sensitive to the clock and to the reset. -/
def write (b b' : Bus) (x : α) : α :=
  if event b.clkI b'.clkI || event b.arstI b'.arstI then
    if b'.arstI then zero
    else if risingEdge b.clkI b'.clkI then written decode b' x
    else x
  else x

def control : Entity Bus α where
  delta b b' _ x' := write zero decode b b' x'

/-- The register right after an edge, before a reset of the new cycle. -/
def atEdge (b : Bus) (x : α) : α := if b.arstI then zero else written decode b x

def next (b b' : Bus) (x : α) : α := if b'.arstI then zero else atEdge zero decode b x

/-- The value of the last write since the last reset. -/
def lastWritten (bus : Nat → Bus) (t : Nat) : α :=
  (lastLoad (fun t => (bus t).arstI) (fun t => (bus t).accepts) t).elim zero
    fun u => decode (bus u).writeDataI

section Rising
variable {b b' : Bus} {x : α}

theorem rising_clk (d : Nat) : (Driven.rising b b' d).clkI = wave [false] true d := by
  rcases d with _ | _ | d <;> rfl

theorem rising_arstI (d : Nat) :
    (Driven.rising b b' d).arstI = wave [b.arstI, b.arstI] b'.arstI d := by
  rcases d with _ | _ | d <;> rfl

/-- A write shows in delta 2, a reset of the bus one delta later. -/
theorem rising_control (d : Nat) :
    (control zero decode).trace (Driven.rising b b') x d =
      wave [x, x, atEdge zero decode b x] (next zero decode b b' x) d := by
  induction d with
  | zero => rfl
  | succ d ih =>
      cases d with
      | zero => rfl
      | succ d =>
          rw [trace_step]
          change write zero decode (Driven.rising b b' d) (Driven.rising b b' (d + 1)) _ = _
          rw [ih]
          rcases d with _ | _ | d
          · cases reset : b.arstI <;>
              simp [write, atEdge, reset, Driven.rising, event, risingEdge, written]
          · cases reset : b.arstI <;> cases reset' : b'.arstI <;>
              simp [write, rising_clk, rising_arstI, reset, reset', next, atEdge, event]
          · cases reset' : b'.arstI <;>
              simp [write, rising_clk, rising_arstI, reset', next, event]

end Rising

theorem write_quiet {b : Bus} {x : α} (held : b.arstI = true → x = zero) (d : Nat) :
    write zero decode (Driven.falling b d) (Driven.falling b (d + 1)) x = x := by
  have noEdge : risingEdge (Driven.falling b d).clkI (Driven.falling b (d + 1)).clkI = false :=
    risingEdge_falling d
  unfold write
  split_ifs with _ reset rise
  · exact (held reset).symm
  · simp [noEdge] at rise
  · rfl
  · rfl

theorem falling_control {b : Bus} {x : α} (held : b.arstI = true → x = zero) (d : Nat) :
    (control zero decode).trace (Driven.falling b) x d = x :=
  trace_const _ _ _ (write_quiet zero decode held) d

theorem next_held (b b' : Bus) (x : α) (reset : b'.arstI = true) :
    next zero decode b b' x = zero :=
  if_pos reset

theorem control_implements : Implements (control zero decode) (fun _ x => x) (next zero decode)
    fun b x => b.arstI = true → x = zero where
  cycle b b' x _ := by
    have risen : (control zero decode).rise ⟨b, x⟩ b' = next zero decode b b' x :=
      rising_control zero decode settleDepth
    rw [Entity.cycle, risen, falling_control zero decode (next_held zero decode b b' x)]
  wf b b' x _ := next_held zero decode b b' x

theorem next_eq (b b' : Bus) (x : α) :
    next zero decode b b' x =
      if b'.arstI || b.arstI then zero else if b.accepts then decode b.writeDataI else x := by
  unfold next atEdge written Bus.accepts
  cases b'.arstI <;> cases b.arstI <;> cases b.writeI <;> simp

theorem lastWritten_succ (bus : Nat → Bus) (t : Nat) :
    lastWritten zero decode bus (t + 1) =
      next zero decode (bus t) (bus (t + 1)) (lastWritten zero decode bus t) := by
  rw [next_eq, lastWritten, lastLoad]
  split_ifs <;> rfl

/-- Out of the reset of the bus the register holds what was last written. -/
theorem regs_eq_lastWritten {b : Bus} (inReset : b.arstI = true) (bus : Nat → Bus) (x : α)
    (t : Nat) : runRegs (next zero decode) b bus x t = lastWritten zero decode bus t := by
  induction t with
  | zero =>
      change next zero decode b (bus 0) x = zero
      rw [next_eq, inReset, Bool.or_true, if_pos rfl]
  | succ t ih =>
      rw [lastWritten_succ, ← ih]
      rfl

theorem lastWritten_loads (bus : Nat → Bus) :
    Loads zero (fun t => (bus t).arstI) (fun t => (bus t).accepts)
      (fun t => decode (bus t).writeDataI) (lastWritten zero decode bus) := by
  intro t
  rw [lastWritten_succ, next_eq]

/-- The write of cycle `w` sets the register to `c`, and up to cycle `t` nothing else is
written and the bus is not reset. -/
structure Sets (bus : Nat → Bus) (c : α) (w t : Nat) : Prop where
  accepts : (bus w).accepts = true
  bits : decode (bus w).writeDataI = c
  running : ∀ u, w ≤ u → u ≤ t → (bus u).arstI = false
  idle : ∀ u, w < u → u < t → (bus u).accepts = false

theorem Sets.lastWritten_eq {bus : Nat → Bus} {c : α} {w t u : Nat} (sets : Sets decode bus c w t)
    (after : w < u) (upTo : u ≤ t) : lastWritten zero decode bus u = c := by
  obtain ⟨i, rfl⟩ := Nat.exists_eq_add_of_lt after
  rw [Nat.add_right_comm] at upTo ⊢
  have loads := lastWritten_loads zero decode bus
  have kept := loads.kept (a := w + 1) (n := i) (fun i' le => sets.running _ (by omega) (by omega))
    fun i' lt => sets.idle _ (by omega) (by omega)
  have written := loads.loaded (t := w) (sets.running w (Nat.le_refl w) (by omega))
    (sets.running (w + 1) (by omega) (by omega)) sets.accepts
  exact kept.trans (written.trans sets.bits)

end Control

end AvalonSlave
