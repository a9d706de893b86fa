import Arbitrage.World

/-!
# What a run leaves behind

A run of the keeper in some world is known by the questions that it asked, in order: from them
follow the pauses made, the events reported, the phases entered and the calls sent.
-/

namespace Arbitrage.World

/-- The questions of one run, in order; the answers are left out. -/
abbrev Trace := List Query

namespace Trace

def pauses (t : Trace) : List Duration :=
  t.filterMap fun
    | .sleep delay => some delay
    | _ => none

def events (t : Trace) : List Event :=
  t.filterMap fun
    | .record event => some event
    | _ => none

/-- The phases entered, in the order in which they are entered. -/
def phases (t : Trace) : List Phase :=
  t.filterMap fun
    | .enter phase => some phase
    | _ => none

def broadcasts (t : Trace) : List Call :=
  t.filterMap fun
    | .broadcast call => some call
    | _ => none

/-- Whether a question concerns the keeper's own transactions: an allowance, a broadcast or a
receipt. -/
def concernsSending : Query → Bool
  | .allowance .. | .broadcast _ | .receipt _ => true
  | _ => false

def sending (t : Trace) : Trace := t.filter concernsSending

end Trace

end Arbitrage.World
