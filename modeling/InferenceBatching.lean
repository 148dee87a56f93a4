import InferenceBatching.Backlog.Admission
import InferenceBatching.Backlog.Basic
import InferenceBatching.Backlog.Expiry
import InferenceBatching.Backlog.Filling
import InferenceBatching.Backlog.Formation
import InferenceBatching.Batch.Basic
import InferenceBatching.Batch.Shapes
import InferenceBatching.Batch.Stacking
import InferenceBatching.Batcher.Basic
import InferenceBatching.Batcher.Outcome
import InferenceBatching.Directory
import InferenceBatching.Dynamic.Basic
import InferenceBatching.Dynamic.Formation
import InferenceBatching.Dynamic.Selection
import InferenceBatching.Fault
import InferenceBatching.Instances
import InferenceBatching.Json.Codec
import InferenceBatching.Json.Items
import InferenceBatching.Json.Number
import InferenceBatching.Json.Record
import InferenceBatching.Json.Scan
import InferenceBatching.Json.Skip
import InferenceBatching.Json.Text
import InferenceBatching.Json.Tree
import InferenceBatching.Model.Config
import InferenceBatching.Model.Document
import InferenceBatching.Model.Input
import InferenceBatching.Number.Decimal
import InferenceBatching.Number.Rounding
import InferenceBatching.Queue.Entry
import InferenceBatching.Queue.Layout
import InferenceBatching.Queue.Level
import InferenceBatching.Queue.Policy
import InferenceBatching.Queue.Priority
import InferenceBatching.Request
import InferenceBatching.RequestError
import InferenceBatching.Sequence.Admission
import InferenceBatching.Sequence.Basic
import InferenceBatching.Sequence.Expiry
import InferenceBatching.Sequence.Formation
import InferenceBatching.Sequence.Seating
import InferenceBatching.Sequence.Settlement
import InferenceBatching.Service.Backend
import InferenceBatching.Service.Basic
import InferenceBatching.Service.Completion
import InferenceBatching.Service.Run
import InferenceBatching.Service.Statistics
import InferenceBatching.Service.Step
import InferenceBatching.Slot.Basic
import InferenceBatching.Slot.Table
import InferenceBatching.Tensor
import InferenceBatching.Text.Hidden
import InferenceBatching.Text.Quoted
import InferenceBatching.Text.Value
import InferenceBatching.Time
import InferenceBatching.Proofs.Slot.Indexing
import InferenceBatching.Proofs.Sequence.Coherence
import InferenceBatching.Proofs.Sequence.Move
import InferenceBatching.Proofs.Sequence.Admission
import InferenceBatching.Proofs.Sequence.Expiry
import InferenceBatching.Proofs.Sequence.Formation
import InferenceBatching.Proofs.Sequence.Settlement
import InferenceBatching.Proofs.Sequence.Handover
import InferenceBatching.Proofs.Run.Operation
import InferenceBatching.Proofs.Sequence.Run
import InferenceBatching.Proofs.Sequence.Order
import InferenceBatching.Proofs.Sequence.Flights
import InferenceBatching.Proofs.Sequence.History
import InferenceBatching.Proofs.Sequence.Protocol
import InferenceBatching.Proofs.Dynamic.Formation
import InferenceBatching.Proofs.Dynamic.Conservation
import InferenceBatching.Proofs.Sequence.Conservation
import InferenceBatching.Proofs.Run.Ledger
import InferenceBatching.Proofs.Sequence.Succession
import InferenceBatching.Proofs.Sequence.Marks
import InferenceBatching.Proofs.Sequence.Waiting
import InferenceBatching.Proofs.Run.Deadlines
import InferenceBatching.Proofs.Sequence.Rest
import InferenceBatching.Proofs.Dynamic.Rest
import InferenceBatching.Proofs.Run.Wake
import InferenceBatching.Proofs.Sequence.Reports
import InferenceBatching.Proofs.Service.Workers
import InferenceBatching.Proofs.Service.Completion
import InferenceBatching.Proofs.Service.Custody
import InferenceBatching.Proofs.Service.Traffic
import InferenceBatching.Proofs.Service.Informed
import InferenceBatching.Proofs.Service.ExactlyOnce
import InferenceBatching.Proofs.Queue.Order
import InferenceBatching.Proofs.Dynamic.Order
import InferenceBatching.Proofs.Run.Order
import InferenceBatching.Proofs.Sequence.Driver
import InferenceBatching.Proofs.Sequence.Endings
import InferenceBatching.Proofs.Sequence.Turns
import InferenceBatching.Proofs.Run.Rejection
import InferenceBatching.Proofs.Sequence.Dispatch
import InferenceBatching.Proofs.Sequence.Seating
import InferenceBatching.Proofs.Sequence.Release
import InferenceBatching.Proofs.Batch.Shapes
import InferenceBatching.Proofs.Dynamic.Greedy
import InferenceBatching.Proofs.Dynamic.Closing
import InferenceBatching.Proofs.Sequence.Timeouts
import InferenceBatching.Proofs.Queue.Single
import InferenceBatching.Proofs.Directory
import InferenceBatching.Proofs.Backlog.Lanes
import InferenceBatching.Proofs.Backlog.Frame
import InferenceBatching.Proofs.Backlog.Admission
import InferenceBatching.Proofs.Backlog.Expiry
import InferenceBatching.Proofs.Backlog.Filling
import InferenceBatching.Proofs.Backlog.Formation
import InferenceBatching.Proofs.Backlog.Refinement
import InferenceBatching.Proofs.Backlog.Conservation
import InferenceBatching.Proofs.Backlog.Agreement
import InferenceBatching.Proofs.Backlog.Seating
import InferenceBatching.Proofs.Backlog.Timeouts
import InferenceBatching.Proofs.Sequence.Remark
import InferenceBatching.Proofs.Sequence.Settings
import InferenceBatching.Proofs.Sequence.Retention
import InferenceBatching.Proofs.Batch.Order
import InferenceBatching.Proofs.Batch.Stacking
import InferenceBatching.Proofs.Run.Stacking
import InferenceBatching.Proofs.Service.Outcomes
import InferenceBatching.Proofs.Service.Delivery
import InferenceBatching.Proofs.Service.Echo
import InferenceBatching.Proofs.Queue.Reference
import InferenceBatching.Proofs.Queue.Simulation
import InferenceBatching.Proofs.Queue.Capacity
import InferenceBatching.Proofs.Run.Capacity
import InferenceBatching.Proofs.Slot.Bookkeeping
import InferenceBatching.Proofs.Run.Inputs
import InferenceBatching.Proofs.Run.Sizes
import InferenceBatching.Proofs.Service.Tally
import InferenceBatching.Proofs.Service.Accounting
import InferenceBatching.Proofs.Json.Text
import InferenceBatching.Proofs.Json.Number
import InferenceBatching.Proofs.Json.Items
import InferenceBatching.Proofs.Json.Codec
import InferenceBatching.Proofs.Json.Record
import InferenceBatching.Proofs.Model.Document
