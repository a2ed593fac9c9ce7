import VoxelCircuit.Space.Direction
import VoxelCircuit.Space.Orientation
import VoxelCircuit.Space.Position
import VoxelCircuit.Space.Box
import VoxelCircuit.Table.Basic
import VoxelCircuit.Table.Group
import VoxelCircuit.Signal.Number
import VoxelCircuit.Signal.Decimal
import VoxelCircuit.Signal.Basic
import VoxelCircuit.Block.Behavior
import VoxelCircuit.Block.Id
import VoxelCircuit.Grid.Error
import VoxelCircuit.Grid.Catalog
import VoxelCircuit.Grid.Basic
import VoxelCircuit.Grid.Voxel
import VoxelCircuit.Grid.World
import VoxelCircuit.Grid.Cluster
import VoxelCircuit.Net.Basic
import VoxelCircuit.Net.Run
import VoxelCircuit.Net.Trace
import VoxelCircuit.Circuit.Values
import VoxelCircuit.Circuit.State
import VoxelCircuit.Circuit.Effect
import VoxelCircuit.Circuit.Demand
import VoxelCircuit.Circuit.Report
import VoxelCircuit.Circuit.Basic
import VoxelCircuit.Engine.Event
import VoxelCircuit.Engine.Basic
import VoxelCircuit.Engine.Dispatch
import VoxelCircuit.Engine.CircuitSet
import VoxelCircuit.Layout.Basic
import VoxelCircuit.Layout.EndlessChip
import VoxelCircuit.Layout.Profile
import VoxelCircuit.Proofs.Table
import VoxelCircuit.Proofs.Net.Corridor
import VoxelCircuit.Proofs.Net.Machine
import VoxelCircuit.Proofs.Net.Progress
import VoxelCircuit.Proofs.Net.Pairing
import VoxelCircuit.Proofs.Net.Graph
import VoxelCircuit.Proofs.Net.Records
import VoxelCircuit.Proofs.Net.Coverage
import VoxelCircuit.Proofs.Circuit.Compile
import VoxelCircuit.Proofs.Circuit.Success
import VoxelCircuit.Proofs.Circuit.Coverage
import VoxelCircuit.Proofs.Circuit.Demand
import VoxelCircuit.Proofs.Circuit.Footprint
import VoxelCircuit.Proofs.Circuit.Evaluation
import VoxelCircuit.Proofs.Circuit.Equations
import VoxelCircuit.Proofs.Circuit.Requests
import VoxelCircuit.Proofs.Net.Loops
import VoxelCircuit.Proofs.Grid.Edits
import VoxelCircuit.Proofs.Circuit.Interior
import VoxelCircuit.Proofs.Circuit.Refresh
import VoxelCircuit.Proofs.Circuit.ChipEdits
import VoxelCircuit.Proofs.Circuit.Surroundings
import VoxelCircuit.Proofs.Engine.Embedded
import VoxelCircuit.Proofs.Grid.Component
import VoxelCircuit.Proofs.Net.Containment
import VoxelCircuit.Proofs.Circuit.Ownership
import VoxelCircuit.Proofs.Engine.Separation
import VoxelCircuit.Proofs.Engine.RefreshOrder
import VoxelCircuit.Proofs.Circuit.Permission
import VoxelCircuit.Proofs.Circuit.Targets
import VoxelCircuit.Proofs.Circuit.Visits
import VoxelCircuit.Proofs.Circuit.EffectCount
import VoxelCircuit.Proofs.Grid.Circuitry
import VoxelCircuit.Proofs.Circuit.Recompilation
import VoxelCircuit.Proofs.Net.Consistency
import VoxelCircuit.Proofs.Net.Wiring
import VoxelCircuit.Proofs.Space.ScanOrder
import VoxelCircuit.Proofs.Grid.Clusters
import VoxelCircuit.Proofs.Table.Map
import VoxelCircuit.Proofs.Space.Shift
import VoxelCircuit.Proofs.Grid.Shift
import VoxelCircuit.Proofs.Net.Shift
import VoxelCircuit.Proofs.Circuit.ShiftedDemand
import VoxelCircuit.Proofs.Circuit.ShiftedCompilation
import VoxelCircuit.Proofs.Circuit.ShiftedEvaluation
import VoxelCircuit.Proofs.Circuit.ShiftedReports
import VoxelCircuit.Proofs.Circuit.Placement
import VoxelCircuit.Proofs.Circuit.DepthLimit
import VoxelCircuit.Proofs.Circuit.Nesting
import VoxelCircuit.Proofs.Circuit.Reports
import VoxelCircuit.Proofs.Net.Opening
import VoxelCircuit.Proofs.Net.Pairs
import VoxelCircuit.Proofs.Space.Motion
import VoxelCircuit.Proofs.Grid.Turned
import VoxelCircuit.Proofs.Net.Turned
import VoxelCircuit.Proofs.Circuit.Feedback
import VoxelCircuit.Proofs.Circuit.PairedNets
import VoxelCircuit.Proofs.Circuit.TurnedResponse
import VoxelCircuit.Proofs.Circuit.TurnedEvaluation
import VoxelCircuit.Proofs.Layout.Lattice
import VoxelCircuit.Proofs.Layout.LatticeRows
import VoxelCircuit.Proofs.Layout.LatticeCircuits
import VoxelCircuit.Proofs.Layout.LatticeRefresh
import VoxelCircuit.Proofs.Calls
import VoxelCircuit.Proofs.Grid.CellMap
import VoxelCircuit.Proofs.Circuit.RefreshEdits
import VoxelCircuit.Proofs.Net.EdgeRecording
import VoxelCircuit.Proofs.Circuit.EdgeRecording
import VoxelCircuit.Proofs.Engine.PlaceIndex
import VoxelCircuit.Proofs.Circuit.Settling
import VoxelCircuit.Proofs.Engine.Replacement
import VoxelCircuit.Proofs.Engine.Isolation
import VoxelCircuit.Proofs.Circuit.Publishing
import VoxelCircuit.Proofs.Engine.Answer
import VoxelCircuit.Proofs.Circuit.LinkedNets
import VoxelCircuit.Proofs.Circuit.Congruence
import VoxelCircuit.Proofs.Circuit.MemberOrder
import VoxelCircuit.Proofs.Circuit.Repetition
import VoxelCircuit.Proofs.Circuit.Nested
import VoxelCircuit.Proofs.Engine.Threading
import VoxelCircuit.Proofs.Space.Volume
import VoxelCircuit.Proofs.Net.Recursion
import VoxelCircuit.Proofs.Net.Steps
import VoxelCircuit.Proofs.Net.Serials
import VoxelCircuit.Proofs.Grid.BreadthFirst
import VoxelCircuit.Proofs.Grid.Queue
import VoxelCircuit.Proofs.Circuit.Failure
import VoxelCircuit.Proofs.Net.Iterations
import VoxelCircuit.Proofs.Engine.Delivery
import VoxelCircuit.Proofs.Space.Hull
import VoxelCircuit.Proofs.Circuit.Bounds
