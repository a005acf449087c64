import Mathlib.Algebra.Group.Defs
import Mathlib.Data.List.Basic

/-!
# Feed events

Rows of the capture store. A row is generic in its number type: the store copies numbers and
compares them, and only the microprice and the depth summary compute with them.
-/

namespace BubaPaint

/-- How faithfully a captured row can be replayed. -/
inductive ReplayFidelity where
  | rawEvent
  | legacySnapshot
  deriving DecidableEq

/-- One price level. -/
structure OrderLevel (F : Type) where
  price : F
  size : F

/-- One captured row. -/
structure FeedEvent (F : Type) where
  id : Option ℤ := none
  receivedAtMs : UInt64
  eventAtMs : UInt64
  (receivedAtUs eventAtUs : Option UInt64 := none)
  source : String
  eventType : String
  (sourceTopic sourceSymbol connectionId sequenceKey marketId assetId : Option String := none)
  (price tradeSize signedQuantity bestBid bestAsk bidSize askSize depthBidNotional
    depthAskNotional depthImbalance microprice : Option F := none)
  (payloadJson detailsJson : Option String := none)
  fidelity : ReplayFidelity
  deriving DecidableEq

/-- The four numbers of a top of book. -/
structure PersistedTopOfBook (F : Type) where
  bestBid : F
  bestAsk : F
  bidSize : F
  askSize : F
  deriving DecidableEq

variable {F : Type}

/-- Extract a persisted top-of-book snapshot from one feed row. -/
def persistedTopOfBook (event : FeedEvent F) : Option (PersistedTopOfBook F) := do
  let bestBid ← event.bestBid
  let bestAsk ← event.bestAsk
  let bidSize ← event.bidSize
  let askSize ← event.askSize
  return { bestBid, bestAsk, bidSize, askSize }

end BubaPaint
