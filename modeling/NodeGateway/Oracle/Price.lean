import NodeGateway.Number.Binary64

/-!
# Suggested Gas Prices

A gas oracle quotes three prices in gwei, one for each speed. The gateway works in wei: a price is
multiplied by a billion, rounded to the nearest whole number and cut to 128 bits.
-/

namespace NodeGateway

/-- How fast a transaction is to be included. -/
inductive GasSpeed where
  | slow
  | standard
  | fast
  deriving DecidableEq, Repr

/-- The **prices** that an oracle suggests, in gwei. -/
structure GasPrices where
  slow : Binary64
  standard : Binary64
  fast : Binary64
  deriving DecidableEq, Repr

namespace GasPrices

/-- The price for a speed, in gwei. -/
def gwei (prices : GasPrices) : GasSpeed → Binary64
  | .slow => prices.slow
  | .standard => prices.standard
  | .fast => prices.fast

/-- How many wei make one gwei. -/
def weiPerGwei : Binary64 := Binary64.ofNat 1000000000

/-- The price for a speed in **wei**. -/
def maxFee (prices : GasPrices) (speed : GasSpeed) : Nat :=
  ((prices.gwei speed).mul weiPerGwei).toNatRound Numeral.bound128

end GasPrices

end NodeGateway
