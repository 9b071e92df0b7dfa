import PropertyFile.Main
import PropertyFile.Proofs.Aliases
import PropertyFile.Proofs.Diagnosis
import PropertyFile.Proofs.Inputs
import PropertyFile.Proofs.Operations
import PropertyFile.Proofs.Respelling
import PropertyFile.Proofs.SchemaFiles
import PropertyFile.Proofs.Encoding
import PropertyFile.Ledger
import PropertyFile.Proofs.Interchange
import PropertyFile.Proofs.LineEndings
import PropertyFile.Proofs.Ledgers
import PropertyFile.Proofs.Naming
import PropertyFile.Proofs.Indifference
import PropertyFile.Proofs.Circles
import PropertyFile.Proofs.Patterns
import PropertyFile.Proofs.Spans
import PropertyFile.Proofs.Phases
import PropertyFile.Proofs.Verbosity
import PropertyFile.Proofs.Progress
import PropertyFile.Proofs.Numerals
import PropertyFile.Proofs.Splitting
import PropertyFile.Proofs.Lists
import PropertyFile.Proofs.Registries
import PropertyFile.Proofs.PhaseLines
import PropertyFile.Proofs.Scalars
