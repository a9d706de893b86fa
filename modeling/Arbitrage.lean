import Arbitrage.Keeper.Watch
import Arbitrage.Main
import Arbitrage.Node.Client
import Arbitrage.Node.Script
import Arbitrage.Node.Trace
import Arbitrage.Simulation.Scenario
import Arbitrage.World.Script
import Arbitrage.World.Trace
import Arbitrage.Proofs.Keeper.Cycle
import Arbitrage.Proofs.Market.Arrival
import Arbitrage.Proofs.Cycle.Pruning
import Arbitrage.Proofs.Submission.Order
import Arbitrage.Proofs.Submission.Repetition
import Arbitrage.Proofs.Market.Indexed
import Arbitrage.Proofs.Market.Universe
import Arbitrage.Proofs.Cycle.Pricing
import Arbitrage.Proofs.Market.Spread
import Arbitrage.Proofs.World.Confinement
import Arbitrage.Proofs.Submission.Success
import Arbitrage.Proofs.Simulation.Conservation
import Arbitrage.Proofs.Submission.Allowances
import Arbitrage.Proofs.Node.Market
import Arbitrage.Proofs.Keeper.Block
import Arbitrage.Proofs.Keeper.Watch
import Arbitrage.Proofs.Cycle.Optimality
import Arbitrage.Proofs.Submission.Encoding
import Arbitrage.Proofs.Contract.Calldata
import Arbitrage.Proofs.Market.Operations
import Arbitrage.Proofs.Chain.Patience
import Arbitrage.Proofs.Amount.Decimal
import Arbitrage.Proofs.Simulation.Fill
import Arbitrage.Proofs.Cycle.Rejection
import Arbitrage.Proofs.Market.Capacity
import Arbitrage.Proofs.Cycle.Verdict
import Arbitrage.Proofs.Amount.Scale
import Arbitrage.Proofs.Keeper.Ticks
import Arbitrage.Proofs.Keeper.Outage
import Arbitrage.Proofs.Node.Confirmation
import Arbitrage.Proofs.Contract.Integer
import Arbitrage.Proofs.Market.Naming
import Arbitrage.Proofs.Settings.Startup
