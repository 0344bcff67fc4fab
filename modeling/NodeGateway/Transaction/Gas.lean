import NodeGateway.Fault
import NodeGateway.Number.Decimal

/-!
# Gas Limits

The limit that a transaction is given is the node's estimate times a **multiplier**, rounded down,
plus a **buffer**. Estimates, buffers and limits are below `2 ^ 64`; where a limit would be
greater, it is the greatest number below.
-/

namespace NodeGateway

/-- How much more gas than estimated a transaction is given. -/
structure GasPolicy where
  buffer : Nat
  multiplier : Binary64
  deriving DecidableEq, Repr

namespace GasPolicy

/-- A multiplier has to be finite and at least one. -/
def isMultiplier (x : Binary64) : Bool := x.isFinite && x.atLeastOne

/-- What a refused multiplier is reported with. -/
def multiplierMessage (x : Binary64) : String :=
  "safe gas multiplier must be at least 1.0, got " ++ Decimal.render x

/-- A policy with the given buffer and multiplier, if the multiplier can be one. -/
def make (buffer : Nat) (multiplier : Binary64) : Outcome GasPolicy :=
  if isMultiplier multiplier then .ok ⟨buffer, multiplier⟩
  else .error (.other (multiplierMessage multiplier))

/-- The **safe gas limit** for an estimate. -/
def safeLimit (policy : GasPolicy) (estimate : Nat) : Nat :=
  let scaled := ((Binary64.ofNat estimate).mul policy.multiplier).toNatFloor Numeral.bound64
  Numeral.clamp Numeral.bound64 (scaled + policy.buffer)

/-- The buffer that is used where none is configured. -/
def defaultBuffer : Nat := 0

/-- The multiplier that is used where none is configured: three halves. -/
def defaultMultiplier : Binary64 := Binary64.nearest false 3 2

end GasPolicy

end NodeGateway
