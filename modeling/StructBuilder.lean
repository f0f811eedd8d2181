import StructBuilder.Counted
import StructBuilder.Datum.Mapper
import StructBuilder.Emit.Item
import StructBuilder.Samples.Library
import StructBuilder.Text.Occurrence
import StructBuilder.Proofs.Marker
import StructBuilder.Proofs.Plan
import StructBuilder.Proofs.Cell
import StructBuilder.Proofs.State
import StructBuilder.Proofs.Build
import StructBuilder.Proofs.Reachable
import StructBuilder.Proofs.Checked
import StructBuilder.Proofs.Completeness
import StructBuilder.Proofs.Meaning
import StructBuilder.Proofs.RoundTrip
import StructBuilder.Proofs.Atomicity
import StructBuilder.Proofs.Replay
import StructBuilder.Proofs.History
import StructBuilder.Proofs.Collections
import StructBuilder.Proofs.Naming
import StructBuilder.Proofs.ContainerTyping
import StructBuilder.Proofs.Hooks
import StructBuilder.Proofs.Tracking
import StructBuilder.Proofs.Alike
import StructBuilder.Proofs.MergePaths
import StructBuilder.Proofs.Isolation
import StructBuilder.Proofs.Alongside
import StructBuilder.Proofs.Lockstep
import StructBuilder.Proofs.Simulation
import StructBuilder.Proofs.DefaultHooks
import StructBuilder.Proofs.Libraries
import StructBuilder.Proofs.Independence
import StructBuilder.Proofs.Review
import StructBuilder.Proofs.Batches
import StructBuilder.Samples.Varied
import StructBuilder.Proofs.Remerge
import StructBuilder.Proofs.Resets
import StructBuilder.Proofs.OptionFolds
import StructBuilder.Proofs.Variants
import StructBuilder.Proofs.Derivation
import StructBuilder.Proofs.Classification
import StructBuilder.Proofs.Helpers
import StructBuilder.Proofs.MapHistory
import StructBuilder.Proofs.Switches
import StructBuilder.Proofs.OrderedSet
import StructBuilder.Proofs.TrackerHistory
import StructBuilder.Proofs.Occurrence
import StructBuilder.Proofs.Consumption
import StructBuilder.Proofs.Message
import StructBuilder.Proofs.Provenance
