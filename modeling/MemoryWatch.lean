import MemoryWatch.Main
import MemoryWatch.Proofs.Delivery
import MemoryWatch.Proofs.Descriptors
import MemoryWatch.Proofs.Motion
import MemoryWatch.Proofs.Rounds
import MemoryWatch.Proofs.Steps
import MemoryWatch.Proofs.Output
import MemoryWatch.Proofs.Ownership
import MemoryWatch.Proofs.Subscription
import MemoryWatch.Proofs.Life
import MemoryWatch.Proofs.Account
import MemoryWatch.Proofs.Ledger
import MemoryWatch.Proofs.Mark
import MemoryWatch.Proofs.Registered
import MemoryWatch.Proofs.Machine
import MemoryWatch.Proofs.Operations
import MemoryWatch.Proofs.Holding
import MemoryWatch.Proofs.Shape
import MemoryWatch.Proofs.Turnover
import MemoryWatch.Proofs.Patience
import MemoryWatch.Proofs.Cancellation
import MemoryWatch.Proofs.Release
import MemoryWatch.Proofs.Once
import MemoryWatch.Proofs.Encoding
import MemoryWatch.Proofs.Json
import MemoryWatch.Proofs.Stream
import MemoryWatch.Proofs.Reaction
import MemoryWatch.Proofs.Disturbance
import MemoryWatch.Proofs.Tally
import MemoryWatch.Proofs.Service
import MemoryWatch.Proofs.Exit
import MemoryWatch.Proofs.Likeness
import MemoryWatch.Proofs.Walks
import MemoryWatch.Proofs.Overwriting
import MemoryWatch.Proofs.Frame
import MemoryWatch.Proofs.Edits
import MemoryWatch.Proofs.Concord
import MemoryWatch.Proofs.Lockstep
import MemoryWatch.Proofs.Parallel
import MemoryWatch.Proofs.Indifference
import MemoryWatch.Proofs.Upkeep
import MemoryWatch.Proofs.Handshake
import MemoryWatch.Proofs.Retry
import MemoryWatch.Proofs.Renewal
import MemoryWatch.Proofs.Presence
import MemoryWatch.Proofs.Interval
import MemoryWatch.Proofs.Wakening
import MemoryWatch.Proofs.Emission
import MemoryWatch.Proofs.Warning
import MemoryWatch.Proofs.Policy
import MemoryWatch.Proofs.Components
import MemoryWatch.Proofs.Inscription
import MemoryWatch.Proofs.Drain
import MemoryWatch.Proofs.Sentence
import MemoryWatch.Proofs.Expression
