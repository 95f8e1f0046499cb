import BomEvidence.Main
import BomEvidence.Proofs.Resolution.Memo
import BomEvidence.Proofs.Evidence.Questions
import BomEvidence.Proofs.Evidence.UsagePlaces
import BomEvidence.Proofs.FileTree.Written
import BomEvidence.Proofs.Sorted.Bytes
import BomEvidence.Proofs.Evidence.Places
import BomEvidence.Proofs.Bom.Attached
import BomEvidence.Proofs.Run.Outcome
import BomEvidence.Proofs.Run.Occurrences
import BomEvidence.Proofs.Json.Canonical
import BomEvidence.Proofs.Json.Record
import BomEvidence.Proofs.Json.Lexeme
import BomEvidence.Proofs.Json.Written
import BomEvidence.Proofs.Bom.Codec
import BomEvidence.Proofs.Bom.Sound
import BomEvidence.Proofs.Bom.Reattached
import BomEvidence.Proofs.Evidence.Unplaced
import BomEvidence.Proofs.Run.Again
import BomEvidence.Proofs.Run.Turns
import BomEvidence.Proofs.Run.Rerun
import BomEvidence.Proofs.Bom.Callstack
import BomEvidence.Proofs.Resolution.Answers
import BomEvidence.Proofs.Run.Callstacks
import BomEvidence.Proofs.Evidence.Stacks
import BomEvidence.Proofs.Evidence.Failures
import BomEvidence.Proofs.Run.Faults
import BomEvidence.Proofs.Run.Degraded
import BomEvidence.Proofs.FileTree.Kept
import BomEvidence.Proofs.Run.Refused
import BomEvidence.Proofs.Bom.Untouched
import BomEvidence.Proofs.Evidence.Linkage
import BomEvidence.Proofs.Evidence.References
import BomEvidence.Proofs.Bom.References
import BomEvidence.Proofs.Sorted.Settling
import BomEvidence.Proofs.Evidence.Services
import BomEvidence.Proofs.Evidence.UsageRecords
import BomEvidence.Proofs.Evidence.Independence
import BomEvidence.Proofs.Json.Members
import BomEvidence.Proofs.Bom.Members
import BomEvidence.Proofs.Binary64.Rounding
import BomEvidence.Proofs.Binary64.Decimal
import BomEvidence.Proofs.Binary64.Shortest
import BomEvidence.Proofs.Json.Numeral
import BomEvidence.Proofs.Json.Float
import BomEvidence.Proofs.Json.Fitting
import BomEvidence.Proofs.Json.Reread
import BomEvidence.Proofs.Bom.Reread
import BomEvidence.Proofs.Bom.Fitting
import BomEvidence.Proofs.Bom.Depth
import BomEvidence.Proofs.Run.Roundtrip
import BomEvidence.Proofs.Evidence.Growth
import BomEvidence.Proofs.Namespace.Like
import BomEvidence.Proofs.Namespace.Store
import BomEvidence.Proofs.Evidence.Substitution
import BomEvidence.Proofs.Run.Intakes
import BomEvidence.Proofs.Run.Backends
import BomEvidence.Proofs.Sorted.Keys
import BomEvidence.Proofs.Resolution.Counted
import BomEvidence.Proofs.Evidence.Detections
import BomEvidence.Proofs.Bom.Account
import BomEvidence.Proofs.Run.Account
import BomEvidence.Proofs.Evidence.EmptySymbol
import BomEvidence.Proofs.Bom.Settled
import BomEvidence.Proofs.Run.Unsliced
import BomEvidence.Proofs.Run.Status
import BomEvidence.Proofs.Bom.Cryptography
import BomEvidence.Proofs.Run.Cryptography
import BomEvidence.Proofs.Text.Spanning
import BomEvidence.Proofs.Crypto.Matching
import BomEvidence.Proofs.Evidence.TornNames
import BomEvidence.Proofs.Json.Escaped
import BomEvidence.Proofs.Namespace.Listed
import BomEvidence.Proofs.Run.Framed
import BomEvidence.Proofs.Text.AnyCase
import BomEvidence.Proofs.Evidence.ServiceMarks
import BomEvidence.Proofs.Bom.Services
import BomEvidence.Proofs.Text.Pieces
import BomEvidence.Proofs.Resolution.Aliases
import BomEvidence.Proofs.Evidence.ModulePlaces
import BomEvidence.Proofs.Route.Quoted
import BomEvidence.Proofs.Route.Scanned
import BomEvidence.Proofs.Text.Joined
import BomEvidence.Proofs.Symbol.Declared
import BomEvidence.Proofs.Route.Namespaced
import BomEvidence.Proofs.Crypto.Listing
import BomEvidence.Proofs.Text.Blanks
import BomEvidence.Proofs.Command.Configured
import BomEvidence.Proofs.Settings.Overridden
import BomEvidence.Proofs.Command.Database
import BomEvidence.Proofs.Text.Removed
import BomEvidence.Proofs.Evidence.ServiceNames
import BomEvidence.Proofs.Run.Annotations
import BomEvidence.Proofs.Evidence.Reading
import BomEvidence.Proofs.Evidence.FirstRecords
import BomEvidence.Proofs.Evidence.Positions
import BomEvidence.Proofs.Evidence.Identifiers
