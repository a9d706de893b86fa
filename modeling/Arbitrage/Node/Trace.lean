import Arbitrage.Node

/-!
# What work with a node leaves behind

Work with a node is known by the questions that it put, in order: from them follow the requests made,
the pauses and the events reported.
-/

namespace Arbitrage.Node

/-- The questions of one piece of work, in order; the answers are left out. -/
abbrev Trace := List Query

namespace Trace

def requests (t : Trace) : List Request :=
  t.filterMap fun
    | .request r => some r
    | _ => none

/-- The pauses made, as they were asked for. -/
def pauses (t : Trace) : List Duration :=
  t.filterMap fun
    | .sleep delay => some delay
    | _ => none

def events (t : Trace) : List Event :=
  t.filterMap fun
    | .record event => some event
    | _ => none

end Trace

end Arbitrage.Node
