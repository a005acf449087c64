import BubaPaint.Decision.Types

/-!
# Market windows of a replay

The windows are loaded before the replay starts, in the order of their start times. At most one is
current: it is left at its end, and the next one that is not over yet is entered at its start.
-/

namespace BubaPaint

/-- A fully settled market window with its outcome. -/
structure MarketSettlement where
  window : MarketWindow
  openPrice : ℚ
  closePrice : ℚ
  outcome : SignalDirection
  deriving DecidableEq

/-- What changed at a given timestamp. -/
structure WindowEvents where
  opened : Option MarketSettlement
  closed : Option MarketSettlement

/-- The windows that were not entered yet, and the one that is current. -/
structure WindowManager where
  windows : List MarketSettlement
  current : Option MarketSettlement

namespace WindowManager

def fromSettlements (settlements : List MarketSettlement) : WindowManager where
  windows := settlements
  current := none

def closeCurrent (manager : WindowManager) (timestamp : ℕ) :
    Option MarketSettlement × WindowManager :=
  match manager.current with
  | some current =>
    if timestamp ≥ current.window.endTime then (some current, { manager with current := none })
    else (none, manager)
  | none => (none, manager)

/-- The next window that is not over, if it has started, with the windows after it. -/
def enterNext (timestamp : ℕ) : List MarketSettlement →
    Option MarketSettlement × List MarketSettlement
  | [] => (none, [])
  | next :: rest =>
    if timestamp ≥ next.window.endTime then enterNext timestamp rest
    else if timestamp ≥ next.window.startTime then (some next, rest)
    else (none, next :: rest)

def advance (manager : WindowManager) (timestamp : ℕ) : WindowEvents × WindowManager :=
  let (closed, manager) := manager.closeCurrent timestamp
  match manager.current with
  | some _ => ({ opened := none, closed }, manager)
  | none =>
    let (opened, windows) := enterNext timestamp manager.windows
    ({ opened, closed }, { windows, current := opened })

end WindowManager

end BubaPaint
