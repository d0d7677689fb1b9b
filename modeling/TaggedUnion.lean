import TaggedUnion.Catalog.Request
import TaggedUnion.Marker
import TaggedUnion.Proofs.Addressing
import TaggedUnion.Proofs.Appending
import TaggedUnion.Proofs.Attempts
import TaggedUnion.Proofs.BinaryValue
import TaggedUnion.Proofs.Cloning
import TaggedUnion.Proofs.Commutation
import TaggedUnion.Proofs.Conversions
import TaggedUnion.Proofs.Correspondence
import TaggedUnion.Proofs.DispatchHistory
import TaggedUnion.Proofs.Echoes
import TaggedUnion.Proofs.Edits
import TaggedUnion.Proofs.Effect
import TaggedUnion.Proofs.Equality
import TaggedUnion.Proofs.Footprint
import TaggedUnion.Proofs.Formatting
import TaggedUnion.Proofs.Frame
import TaggedUnion.Proofs.HashBytes
import TaggedUnion.Proofs.Identities
import TaggedUnion.Proofs.InPlace
import TaggedUnion.Proofs.Installations
import TaggedUnion.Proofs.Interchange
import TaggedUnion.Proofs.Ledger
import TaggedUnion.Proofs.Lookup
import TaggedUnion.Proofs.MissedAccess
import TaggedUnion.Proofs.Moves
import TaggedUnion.Proofs.Numbering
import TaggedUnion.Proofs.Observation
import TaggedUnion.Proofs.Offering
import TaggedUnion.Proofs.Outcomes
import TaggedUnion.Proofs.Ownership
import TaggedUnion.Proofs.Padding
import TaggedUnion.Proofs.Presentation
import TaggedUnion.Proofs.Preservation
import TaggedUnion.Proofs.Range
import TaggedUnion.Proofs.Reach
import TaggedUnion.Proofs.Refinement
import TaggedUnion.Proofs.Registers
import TaggedUnion.Proofs.Reindexing
import TaggedUnion.Proofs.Renaming
import TaggedUnion.Proofs.Reordering
import TaggedUnion.Proofs.Runs
import TaggedUnion.Proofs.Selection
import TaggedUnion.Proofs.Simulation
import TaggedUnion.Proofs.Table
import TaggedUnion.Proofs.TagInvariant
import TaggedUnion.Proofs.Traversal
import TaggedUnion.Proofs.TypedState
import TaggedUnion.Proofs.Typing
import TaggedUnion.Proofs.Untracked
import TaggedUnion.Proofs.Walk
