import Arbitrage.Cycle.Plan
import Arbitrage.Market.Snapshot

/-!
# Sizing cycles and choosing the best

Every edge is linear up to its capacity, so the profit of a cycle grows with what goes in, and the
best input is the largest that all of its edges admit. A cycle is sized there, but at no more than
the engagement cap, and then accepted if it gains, and gains enough. Among the accepted plans the
most profitable wins, then the shorter, then the one that commits less, then the lexicographically
smaller; of the rejected candidates the nearest miss is reported.
-/

namespace Arbitrage

/-- Why a cycle is not traded. -/
inductive Rejection
  /-- Nothing can go in, or the path cannot be sized. -/
  | noCapacity
  | unprofitable
  /-- The gain is too small. It is `capped` if the engagement cap limited it and not the path, so
  that a higher cap might help. -/
  | belowMinProfit (capped : Bool)
  deriving DecidableEq, Repr

namespace Rejection

/-- How near the miss is. A gain that is too small is the nearest, then a path that gains nothing,
and a path of which nothing can be made is the farthest. -/
def rank : Rejection → Nat
  | noCapacity => 0
  | unprofitable => 1
  | belowMinProfit _ => 2

def text : Rejection → String
  | noCapacity => "no capacity"
  | unprofitable => "unprofitable"
  | belowMinProfit true => "below min profit (capped by engagement)"
  | belowMinProfit false => "below min profit"

end Rejection

/-- A sized cycle that is not traded, with the amounts it would have had and the reason. -/
structure Candidate where
  path : Path
  engagement : Wad
  output : Wad
  reason : Rejection
  deriving DecidableEq, Repr

namespace Candidate

def profit (c : Candidate) : Wad := c.output.monus c.engagement

/-- Whether one miss is nearer than another: by reason, then by profit, then by shorter path. Misses
that are alike in all three are equally near. -/
def outranks (c d : Candidate) : Bool :=
  ((compare c.reason.rank d.reason.rank).then
    ((compare c.profit.raw d.profit.raw).then (compare d.path.length c.path.length))) == .gt

end Candidate

/-- Whether one plan is to be preferred to another: for more profit, then for fewer steps, then for
a smaller engagement, and at last for its path, the one whose edges come first. -/
def Plan.precedes (p q : Plan) : Bool :=
  ((compare q.profit.raw p.profit.raw).then
    ((compare p.length q.length).then
      ((compare p.engagement.raw q.engagement.raw).then (compareOfLessAndEq p.path q.path)))) == .lt

/-- The outcome of looking at every candidate: the best plan, the nearest miss, how many candidates
there were, and how many of them could be traded. -/
structure Evaluation where
  best : Option Plan := none
  bestRejected : Option Candidate := none
  candidates : Nat := 0
  accepted : Nat := 0
  deriving DecidableEq, Repr

namespace Evaluation

/-- Count a plan, and keep it if it is the best so far. -/
def accept (ev : Evaluation) (plan : Plan) : Evaluation :=
  { ev with
    accepted := ev.accepted + 1
    best := match ev.best with
      | some best => if plan.precedes best then some plan else some best
      | none => some plan }

/-- Keep a rejected candidate if it is the nearest miss so far. Of equally near ones the first is
kept. -/
def reject (ev : Evaluation) (candidate : Candidate) : Evaluation :=
  { ev with
    bestRejected := match ev.bestRejected with
      | some best => if candidate.outranks best then some candidate else some best
      | none => some candidate }

end Evaluation

/-- The bounds within which cycles are sized: the profit that a plan must have at least, and the
most that may go into it. -/
structure Sizing where
  minProfit : Wad
  /-- The most that may go in. -/
  cap : Wad
  deriving DecidableEq, Repr

namespace Sizing

/-- The bounds of a strategy. Neither more than configured nor more than held goes in. -/
def make (minProfit maxEngagement balance : Wad) : Sizing :=
  ⟨minProfit, if balance < maxEngagement then balance else maxEngagement⟩

def ofSnapshot (strategy : Strategy) (snapshot : Snapshot) : Sizing :=
  make strategy.minProfit strategy.maxEngagement snapshot.balance

/-- Tighten a bound by a limit. Without a bound the limit becomes the bound. -/
def tighten : Option Wad → Wad → Wad
  | some bound, limit => if bound ≤ limit then bound else limit
  | none, limit => limit

/-- Tighten a bound by what the edges admit. An edge is reached at the exact rate of those before
it, so what it admits is first turned into an amount at the start of the path. -/
def narrow : Option Wad → Rate → List Edge → Option Wad
  | bound, _, [] => bound
  | bound, reached, edge :: edges =>
    let bound := match edge.maxInput?.bind reached.maxInput? with
      | some limit => some (tighten bound limit)
      | none => bound
    narrow bound (reached.compose edge.rate) edges

/-- The largest input that every edge of a path admits, if any of them limits it. It is computed
from exact rates, so that rounding on the way cannot lift an amount above a capacity. -/
def bottleneck? (g : Graph) (path : Path) : Option Wad :=
  match g.pathEdges path with
  | .ok edges => narrow none .unity edges
  | .error _ => none

/-- What goes into a path, and whether the cap is what limits it. A cap that is reached together
with the bottleneck does not count as the limit. -/
def engagement (s : Sizing) (g : Graph) (path : Path) : Wad × Bool :=
  match bottleneck? g path with
  | some limit => if limit < s.cap then (limit, false) else (s.cap, decide (s.cap < limit))
  | none => (s.cap, true)

/-- Size a cycle at the largest input that is within its capacities and the cap, and decide whether
to trade it: its profit must be positive and reach the least profit. -/
def size (s : Sizing) (g : Graph) (path : Path) : Except Candidate Plan :=
  let (input, capped) := s.engagement g path
  if input.isZero then .error ⟨path, .zero, .zero, .noCapacity⟩
  else
    match Plan.derive g path input with
    | .error _ => .error ⟨path, input, .zero, .noCapacity⟩
    | .ok plan =>
      if !plan.isProfitable then .error ⟨path, input, plan.output, .unprofitable⟩
      else if plan.profit < s.minProfit then
        .error ⟨path, input, plan.output, .belowMinProfit capped⟩
      else .ok plan

/-- Take one more candidate into account, as a plan or as a miss. -/
def consider (s : Sizing) (g : Graph) (ev : Evaluation) (path : Path) : Evaluation :=
  match s.size g path with
  | .ok plan => ev.accept plan
  | .error candidate => ev.reject candidate

/-- Look at every candidate, in the order in which they come. -/
def evaluate (s : Sizing) (g : Graph) (paths : List Path) : Evaluation :=
  paths.foldl (s.consider g) { candidates := paths.length }

end Sizing

end Arbitrage
