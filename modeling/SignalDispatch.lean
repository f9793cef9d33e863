import SignalDispatch.Demo
import SignalDispatch.Document.Fault
import SignalDispatch.Document.Records
import SignalDispatch.Interrupt.Session
import SignalDispatch.Main
import SignalDispatch.Registry.Chain
import SignalDispatch.Text.Hex
import SignalDispatch.Proofs.Registry.Links
import SignalDispatch.Proofs.Registry.WellFormed
import SignalDispatch.Proofs.Registry.Admission
import SignalDispatch.Proofs.Registry.Removal
import SignalDispatch.Proofs.Registry.Emission
import SignalDispatch.Proofs.Bus.Invariant
import SignalDispatch.Proofs.Machine.Moves
import SignalDispatch.Proofs.Machine.Coherence
import SignalDispatch.Proofs.Machine.Reachability
import SignalDispatch.Proofs.Machine.Representation
import SignalDispatch.Proofs.Machine.Episode
import SignalDispatch.Proofs.Bus.Retirement
import SignalDispatch.Proofs.Bus.Freed
import SignalDispatch.Proofs.Machine.StaleCalls
import SignalDispatch.Proofs.Machine.Progress
import SignalDispatch.Proofs.Machine.Queue
import SignalDispatch.Proofs.Machine.Flush
import SignalDispatch.Proofs.Machine.Delivery
import SignalDispatch.Proofs.Machine.Expiry
import SignalDispatch.Proofs.Machine.ExactDelivery
import SignalDispatch.Proofs.Machine.LateInsertion
import SignalDispatch.Proofs.Machine.Owners
import SignalDispatch.Proofs.Machine.Hands
import SignalDispatch.Proofs.Machine.Books
import SignalDispatch.Proofs.Machine.Custody
import SignalDispatch.Proofs.Directory.Basic
import SignalDispatch.Proofs.Directory.Connections
import SignalDispatch.Proofs.Directory.Mirror
import SignalDispatch.Proofs.Registry.Growing
import SignalDispatch.Proofs.Directory.Calls
import SignalDispatch.Proofs.Directory.Refinement
import SignalDispatch.Proofs.Machine.Backends
import SignalDispatch.Proofs.Registry.Occupancy
import SignalDispatch.Proofs.Registry.Leaving
import SignalDispatch.Proofs.Machine.Atop
import SignalDispatch.Proofs.Machine.Abandonment
import SignalDispatch.Proofs.Machine.PanicSafety
import SignalDispatch.Proofs.Bus.Housing
import SignalDispatch.Proofs.Bus.Containment
import SignalDispatch.Proofs.Bus.Disconnection
import SignalDispatch.Proofs.Machine.Turns
import SignalDispatch.Proofs.Machine.Sparing
import SignalDispatch.Proofs.Machine.Handles
import SignalDispatch.Proofs.Machine.Returning
import SignalDispatch.Proofs.Machine.Failing
import SignalDispatch.Proofs.Machine.NoTrace
import SignalDispatch.Proofs.Interrupt.Entries
import SignalDispatch.Proofs.Interrupt.Traffic
import SignalDispatch.Proofs.Interrupt.Conservation
import SignalDispatch.Proofs.Interrupt.Sessions
import SignalDispatch.Proofs.Machine.Drains
import SignalDispatch.Proofs.Machine.Interrupts
import SignalDispatch.Proofs.Interrupt.Bookkeeping
import SignalDispatch.Proofs.Machine.Capacity
import SignalDispatch.Proofs.Machine.Spans
import SignalDispatch.Proofs.Machine.Dequeuing
import SignalDispatch.Proofs.Machine.Replays
import SignalDispatch.Proofs.Machine.ExactlyOnce
import SignalDispatch.Proofs.Machine.Reports
import SignalDispatch.Proofs.Machine.ReportedOnce
import SignalDispatch.Proofs.Storage.Mapping
import SignalDispatch.Proofs.Registry.Seen
import SignalDispatch.Proofs.Registry.Resemblance
import SignalDispatch.Proofs.Interrupt.Resemblance
import SignalDispatch.Proofs.Bus.Resemblance
import SignalDispatch.Proofs.Machine.Resemblance
import SignalDispatch.Proofs.Machine.ResemblingMoves
import SignalDispatch.Proofs.Machine.Parallel
import SignalDispatch.Proofs.Machine.FreshStart
import SignalDispatch.Proofs.Machine.Locking
import SignalDispatch.Proofs.Machine.Transparency
import SignalDispatch.Proofs.Bus.Requests
import SignalDispatch.Proofs.Bus.Connecting
import SignalDispatch.Proofs.Machine.Connecting
import SignalDispatch.Proofs.Registry.Separation
import SignalDispatch.Proofs.Bus.Separation
import SignalDispatch.Proofs.Machine.Separation
import SignalDispatch.Proofs.Bus.ChainLength
import SignalDispatch.Proofs.Machine.BoundedWalk
import SignalDispatch.Proofs.Bus.Requeueing
import SignalDispatch.Proofs.Machine.Requeueing
import SignalDispatch.Proofs.Machine.Performing
import SignalDispatch.Proofs.Machine.Batches
import SignalDispatch.Proofs.Machine.Retiming
import SignalDispatch.Proofs.Machine.Relaying
import SignalDispatch.Proofs.Machine.ReplayPaths
import SignalDispatch.Proofs.Text.Truncation
import SignalDispatch.Proofs.Interrupt.Names
import SignalDispatch.Proofs.Storage.Growth
import SignalDispatch.Proofs.Storage.FiniteMap
import SignalDispatch.Proofs.Registry.Meters
import SignalDispatch.Proofs.Machine.Statistics
import SignalDispatch.Proofs.Interrupt.Order
import SignalDispatch.Proofs.Machine.DrainReplays
import SignalDispatch.Proofs.Machine.DrainOrder
import SignalDispatch.Proofs.Name.Whole
import SignalDispatch.Proofs.Registry.Sweeping
import SignalDispatch.Proofs.Timing.Summary
import SignalDispatch.Proofs.Bus.Timekeeping
import SignalDispatch.Proofs.Machine.Profiling
import SignalDispatch.Proofs.Machine.Guarding
import SignalDispatch.Proofs.Directory.Runs
