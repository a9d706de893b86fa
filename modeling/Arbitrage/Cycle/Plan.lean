import Arbitrage.Cycle.Path
import Arbitrage.Json

/-!
# Plans

A plan is a path together with an amount to put in: every amount on the way follows from the one
before it, rounded down, and must stay within the capacity of its edge. A plan carries its own copy
of the edges and assets, so that it outlives the graph.
-/

namespace Arbitrage

/-- One sized exchange: the edge, the assets at both of its ends, and what goes in and comes out,
each rounded down to a step. -/
structure Step where
  edgeId : EdgeId
  edge : Edge
  source : Asset
  target : Asset
  amountIn : Wad
  amountOut : Wad
  deriving DecidableEq, Repr

/-- A sized path. What comes out of one of its steps goes into the next. -/
structure Plan where
  path : Path
  steps : List Step
  /-- What goes in at the start. -/
  engagement : Wad
  /-- What comes out at the end. -/
  output : Wad
  deriving DecidableEq, Repr

namespace Plan

/-- Size one edge, the step number `index` of its path. The input must stay within the capacity of
the edge. That is looked at before the assets, so it is the error told of an edge with both
faults. -/
def deriveStep (g : Graph) (index : Nat) (id : EdgeId) (edge : Edge) (input : Wad) :
    Except PathError Step :=
  match edge.maxInput? with
  | some limit =>
    if limit < input then .error (.exceedsCapacity index input.text limit.text) else assets
  | none => assets
where
  assets : Except PathError Step :=
    match g.asset edge.source, g.asset edge.target with
    | .ok source, .ok target => .ok ⟨id, edge, source, target, input, edge.output input⟩
    | .error error, _ => .error (.invalid error.message)
    | .ok _, .error error => .error (.invalid error.message)

/-- Size edges one after the other, the first being the step number `index`. What comes out of an
edge is what goes into the next. -/
def deriveSteps (g : Graph) :
    (index : Nat) → List (EdgeId × Edge) → Wad → Except PathError (List Step)
  | _, [], _ => .ok []
  | index, (id, edge) :: edges, input =>
    match deriveStep g index id edge input with
    | .error error => .error error
    | .ok step => (deriveSteps g (index + 1) edges step.amountOut).map (step :: ·)

/-- What comes out of the last of some steps, or what was put in if there are none. -/
def lastOutput (engagement : Wad) (steps : List Step) : Wad :=
  (steps.getLast?.map Step.amountOut).getD engagement

/-- Derive every amount of a path from the one put in, rounding down at every edge. It fails if an
edge is unknown, if an amount exceeds the capacity of its edge, or if there is no path at all. -/
def derive (g : Graph) (path : Path) (engagement : Wad) : Except PathError Plan :=
  if path.isEmpty then .error .empty
  else
    match g.pathEdges path with
    | .error error => .error error
    | .ok edges =>
      match deriveSteps g 0 (path.zip edges) engagement with
      | .error error => .error error
      | .ok steps => .ok ⟨path, steps, engagement, lastOutput engagement steps⟩

/-- The number of steps. -/
def length (p : Plan) : Nat := p.steps.length

def isProfitable (p : Plan) : Bool := decide (p.engagement < p.output)

/-- What comes out above what goes in, zero for a losing plan. -/
def profit (p : Plan) : Wad := p.output.monus p.engagement

/-- The tokens that the plan touches, in the order of their first use. They are what a batch has to
move to its executor and back. -/
def tokens (p : Plan) : List Address :=
  (p.steps.flatMap fun step => [step.source.address, step.target.address]).eraseDups

/-- The assets on the way, joined by arrows, from the base asset round to itself. -/
def route (p : Plan) : String :=
  " -> ".intercalate (p.steps.map (·.source.symbol) ++
    (p.steps.getLast?.map (·.target.symbol)).toList)

end Plan

/-- One step of a report: the market, what goes in and what comes out, with the symbols of the
assets. -/
structure StepReport where
  market : String
  source : String
  target : String
  amountIn : Wad
  amountOut : Wad
  deriving DecidableEq, Repr

/-- A plan as it is reported, with the block whose market it is for. -/
structure PlanReport where
  block : Nat
  route : String
  engagement : Wad
  output : Wad
  profit : Wad
  steps : List StepReport
  deriving DecidableEq, Repr

def Step.report (s : Step) : StepReport :=
  ⟨s.edge.key.text, s.source.symbol, s.target.symbol, s.amountIn, s.amountOut⟩

/-- The report of a plan for a block. -/
def Plan.report (p : Plan) (block : Nat) : PlanReport :=
  ⟨block, p.route, p.engagement, p.output, p.profit, p.steps.map Step.report⟩

def StepReport.toJson (s : StepReport) : Json :=
  .object [("market", .string s.market), ("from", .string s.source), ("to", .string s.target),
    ("amount_in", s.amountIn.toJson), ("amount_out", s.amountOut.toJson)]

def PlanReport.toJson (r : PlanReport) : Json :=
  .object [("block_number", .ofNat r.block), ("route", .string r.route),
    ("engagement", r.engagement.toJson), ("output", r.output.toJson), ("profit", r.profit.toJson),
    ("steps", .array (r.steps.map StepReport.toJson))]

end Arbitrage
