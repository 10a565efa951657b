import Broadphase.Benchmark.Harness
import Broadphase.Binary64
import Broadphase.CommandLine.Command
import Broadphase.CommandLine.Options
import Broadphase.CommandLine.Run
import Broadphase.CommandLine.Table
import Broadphase.CommandLine.Value
import Broadphase.Decimal.Layout
import Broadphase.Decimal.Reader
import Broadphase.Decimal.Shortest
import Broadphase.Detection.Basic
import Broadphase.Detection.Detector
import Broadphase.Geometry.Body
import Broadphase.Geometry.Error
import Broadphase.Geometry.Rect
import Broadphase.Grid.Basic
import Broadphase.Grid.Config
import Broadphase.Grid.History
import Broadphase.Grid.Span
import Broadphase.Json.Error
import Broadphase.Json.Number
import Broadphase.Json.Scan
import Broadphase.Json.Schema
import Broadphase.Json.Skip
import Broadphase.Json.Value
import Broadphase.Main
import Broadphase.Proofs.Benchmark.BuiltIn
import Broadphase.Proofs.Benchmark.Sweep
import Broadphase.Proofs.Binary64.Arithmetic
import Broadphase.Proofs.Binary64.Magnitudes
import Broadphase.Proofs.Binary64.Model
import Broadphase.Proofs.Binary64.Ranges
import Broadphase.Proofs.Binary64.Rounding
import Broadphase.Proofs.Binary64.Signs
import Broadphase.Proofs.Detection.Pairs
import Broadphase.Proofs.Grid.Agreement
import Broadphase.Proofs.Grid.Cells
import Broadphase.Proofs.Grid.Contents
import Broadphase.Proofs.Grid.Counting
import Broadphase.Proofs.Grid.Freshness
import Broadphase.Proofs.Grid.Hint
import Broadphase.Proofs.Grid.History
import Broadphase.Proofs.Grid.Marks
import Broadphase.Proofs.Grid.Occupancy
import Broadphase.Proofs.Grid.Query
import Broadphase.Proofs.Grid.Rearrangement
import Broadphase.Proofs.Grid.Retention
import Broadphase.Proofs.Json.Fields
import Broadphase.Proofs.Json.Numbers
import Broadphase.Proofs.Json.Objects
import Broadphase.Proofs.Json.Readers
import Broadphase.Proofs.Json.Records
import Broadphase.Proofs.Json.Text
import Broadphase.Proofs.Json.Values
import Broadphase.Proofs.Sampling.Draws
import Broadphase.Proofs.Sampling.Prefixes
import Broadphase.Proofs.Sampling.Spawn
import Broadphase.Proofs.Sampling.States
import Broadphase.Proofs.Simulation.Contacts
import Broadphase.Proofs.Simulation.DetectorChoice
import Broadphase.Proofs.Simulation.Dragging
import Broadphase.Proofs.Simulation.EditBatches
import Broadphase.Proofs.Simulation.EnergyDecay
import Broadphase.Proofs.Simulation.FailedTick
import Broadphase.Proofs.Simulation.FinitePositions
import Broadphase.Proofs.Simulation.FrameConservation
import Broadphase.Proofs.Simulation.FrameProtocol
import Broadphase.Proofs.Simulation.HostRuns
import Broadphase.Proofs.Simulation.Integration
import Broadphase.Proofs.Simulation.Phase
import Broadphase.Proofs.Simulation.Protocol
import Broadphase.Proofs.Simulation.RateWindows
import Broadphase.Proofs.Simulation.Reachable
import Broadphase.Proofs.Simulation.Reconciliation
import Broadphase.Proofs.Simulation.Tick
import Broadphase.Proofs.Simulation.TickResult
import Broadphase.Proofs.Simulation.TimeAccount
import Broadphase.Proofs.Simulation.Trajectories
import Broadphase.Proofs.Simulation.ValidSettings
import Broadphase.Proofs.Simulation.Walls
import Broadphase.Proofs.Storage.PartialSettings
import Broadphase.Proofs.Storage.RoundTrip
import Broadphase.Proofs.Storage.Settings
import Broadphase.Proofs.Storage.Stores
import Broadphase.Proofs.World
import Broadphase.Sampling.Random
import Broadphase.Sampling.Shapes
import Broadphase.Simulation.Clock
import Broadphase.Simulation.Config
import Broadphase.Simulation.Contacts
import Broadphase.Simulation.Edit
import Broadphase.Simulation.Energy
import Broadphase.Simulation.Error
import Broadphase.Simulation.FrameQueue
import Broadphase.Simulation.FrameRate
import Broadphase.Simulation.Host
import Broadphase.Simulation.Loop
import Broadphase.Simulation.Motion
import Broadphase.Simulation.Session
import Broadphase.Storage.FileTree
import Broadphase.Storage.Files
import Broadphase.Storage.Schemas
import Broadphase.Storage.Service
import Broadphase.Storage.Store
import Broadphase.Text.Invisible
import Broadphase.Text.Plain
import Broadphase.Text.Quoted
