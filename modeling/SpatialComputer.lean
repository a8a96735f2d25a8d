import SpatialComputer.Binary64.CubeRoot
import SpatialComputer.Binary64.Decimal
import SpatialComputer.Binary64.Fused
import SpatialComputer.Binary64.Numeral
import SpatialComputer.Binary64.Rounding
import SpatialComputer.Binary64.Sine
import SpatialComputer.Binary64.Value
import SpatialComputer.CommandLine.Arguments
import SpatialComputer.CommandLine.Command
import SpatialComputer.Device.Basic
import SpatialComputer.Device.Processor
import SpatialComputer.Digest.Sha256
import SpatialComputer.Document.Data
import SpatialComputer.Document.Json
import SpatialComputer.Document.Toml.Reader
import SpatialComputer.Document.Toml.Scalar
import SpatialComputer.Document.Toml.Table
import SpatialComputer.Engine.Build
import SpatialComputer.Engine.Control
import SpatialComputer.Engine.Operation
import SpatialComputer.Engine.State
import SpatialComputer.Engine.Tick
import SpatialComputer.Geometry.Vec3
import SpatialComputer.Geometry.Volume
import SpatialComputer.Headless.Runner
import SpatialComputer.Headless.Setup
import SpatialComputer.Main
import SpatialComputer.Metrics
import SpatialComputer.Neighborhood.CellGrid
import SpatialComputer.Neighborhood.Index
import SpatialComputer.Neighborhood.Radius
import SpatialComputer.Placement.Distribution
import SpatialComputer.Placement.Lattice
import SpatialComputer.Population
import SpatialComputer.Program.Decode
import SpatialComputer.Program.Planned
import SpatialComputer.Program.Scripted
import SpatialComputer.Proofs.Binary64.Arithmetic
import SpatialComputer.Proofs.Binary64.Bounds
import SpatialComputer.Proofs.Binary64.Circle
import SpatialComputer.Proofs.Binary64.Exact
import SpatialComputer.Proofs.Binary64.Knots
import SpatialComputer.Proofs.Binary64.Nearest
import SpatialComputer.Proofs.Binary64.Order
import SpatialComputer.Proofs.Binary64.Overflow
import SpatialComputer.Proofs.Binary64.Packing
import SpatialComputer.Proofs.Binary64.Ratio
import SpatialComputer.Proofs.Binary64.ReadBack
import SpatialComputer.Proofs.Binary64.Relative
import SpatialComputer.Proofs.Binary64.Rounding
import SpatialComputer.Proofs.Binary64.Square
import SpatialComputer.Proofs.Binary64.SquareRoot
import SpatialComputer.Proofs.Binary64.Whole
import SpatialComputer.Proofs.Device.Countdown
import SpatialComputer.Proofs.Device.Rearming
import SpatialComputer.Proofs.Document.Json
import SpatialComputer.Proofs.Document.Numerals
import SpatialComputer.Proofs.Engine.Accounting
import SpatialComputer.Proofs.Engine.Backdrop
import SpatialComputer.Proofs.Engine.BoundedArena
import SpatialComputer.Proofs.Engine.Build
import SpatialComputer.Proofs.Engine.CacheCoherence
import SpatialComputer.Proofs.Engine.CloneRate
import SpatialComputer.Proofs.Engine.CloneTimers
import SpatialComputer.Proofs.Engine.Construction
import SpatialComputer.Proofs.Engine.DeathRequests
import SpatialComputer.Proofs.Engine.Deliveries
import SpatialComputer.Proofs.Engine.DeviceInvariant
import SpatialComputer.Proofs.Engine.Failures
import SpatialComputer.Proofs.Engine.Families
import SpatialComputer.Proofs.Engine.FinitePositions
import SpatialComputer.Proofs.Engine.Forgetting
import SpatialComputer.Proofs.Engine.Guise
import SpatialComputer.Proofs.Engine.GuisedHistories
import SpatialComputer.Proofs.Engine.History
import SpatialComputer.Proofs.Engine.HookTrace
import SpatialComputer.Proofs.Engine.Identity
import SpatialComputer.Proofs.Engine.Invariant
import SpatialComputer.Proofs.Engine.NeighborSymmetry
import SpatialComputer.Proofs.Engine.Offspring
import SpatialComputer.Proofs.Engine.ParallelCompute
import SpatialComputer.Proofs.Engine.QueryTransparency
import SpatialComputer.Proofs.Engine.Radii
import SpatialComputer.Proofs.Engine.Runs
import SpatialComputer.Proofs.Engine.Schedules
import SpatialComputer.Proofs.Engine.SeedIndependence
import SpatialComputer.Proofs.Engine.Simulation
import SpatialComputer.Proofs.Engine.Spawning
import SpatialComputer.Proofs.Engine.Steps
import SpatialComputer.Proofs.Engine.StrategyAgreement
import SpatialComputer.Proofs.Engine.TopologyFlag
import SpatialComputer.Proofs.Engine.Twins
import SpatialComputer.Proofs.Geometry.Length
import SpatialComputer.Proofs.Headless.Drivers
import SpatialComputer.Proofs.Headless.Dumps
import SpatialComputer.Proofs.Headless.FailedCommands
import SpatialComputer.Proofs.Neighborhood.CellAnswer
import SpatialComputer.Proofs.Neighborhood.CellCoverage
import SpatialComputer.Proofs.Neighborhood.CellOrder
import SpatialComputer.Proofs.Neighborhood.CellQuery
import SpatialComputer.Proofs.Neighborhood.CellStorage
import SpatialComputer.Proofs.Neighborhood.CheckedQuery
import SpatialComputer.Proofs.Neighborhood.Coherence
import SpatialComputer.Proofs.Neighborhood.Found
import SpatialComputer.Proofs.Neighborhood.Sites
import SpatialComputer.Proofs.Placement.Reach
import SpatialComputer.Proofs.Placement.Seating
import SpatialComputer.Proofs.Population.Counting
import SpatialComputer.Proofs.Population.Frame
import SpatialComputer.Proofs.Population.Lookup
import SpatialComputer.Proofs.Program.Division
import SpatialComputer.Proofs.Program.FaultContainment
import SpatialComputer.Proofs.Program.GradientTick
import SpatialComputer.Proofs.Program.Hearing
import SpatialComputer.Proofs.Program.HopDistance
import SpatialComputer.Proofs.Program.Mirrors
import SpatialComputer.Proofs.Program.Rounds
import SpatialComputer.Proofs.Sampling.Draws
import SpatialComputer.Proofs.Sampling.Ranges
import SpatialComputer.Proofs.Sampling.Units
import SpatialComputer.Proofs.Settings.IdentityText
import SpatialComputer.Proofs.Settings.Validation
import SpatialComputer.Proofs.Snapshot.ReadBack
import SpatialComputer.Proofs.Tick.Actuation
import SpatialComputer.Proofs.Tick.Alarms
import SpatialComputer.Proofs.Tick.Caching
import SpatialComputer.Proofs.Tick.Deliveries
import SpatialComputer.Proofs.Tick.Displacement
import SpatialComputer.Proofs.Tick.Spawning
import SpatialComputer.Proofs.Tick.SpeedLimit
import SpatialComputer.Proofs.Tick.Stages
import SpatialComputer.Proofs.Tick.Transmission
import SpatialComputer.Sampling.Draw
import SpatialComputer.Sampling.Keystream
import SpatialComputer.Settings.Basic
import SpatialComputer.Settings.Decode
import SpatialComputer.Settings.Document
import SpatialComputer.Settings.Fingerprint
import SpatialComputer.Settings.Rejection
import SpatialComputer.Snapshot.Basic
import SpatialComputer.Snapshot.Json
import SpatialComputer.Timing
import SpatialComputer.Word
