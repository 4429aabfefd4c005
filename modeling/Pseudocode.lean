import Pseudocode.Main
import Pseudocode.Proofs.Expr.Value
import Pseudocode.Proofs.Machine.Alignment
import Pseudocode.Proofs.Machine.Relocation
import Pseudocode.Proofs.Machine.Termination
import Pseudocode.Proofs.Outline.Grammar
import Pseudocode.Proofs.Session.Batch
import Pseudocode.Proofs.Structured.Refinement
import Pseudocode.Proofs.Machine.Unclosed
import Pseudocode.Proofs.Machine.LoopStack
import Pseudocode.Proofs.Session.Breakpoints
import Pseudocode.Proofs.Registry.Budget
import Pseudocode.Proofs.Registry.Isolation
import Pseudocode.Proofs.Cli.Saving
import Pseudocode.Proofs.Machine.Growth
import Pseudocode.Proofs.Machine.Residue
import Pseudocode.Proofs.Condition
import Pseudocode.Proofs.Source.Headers
import Pseudocode.Proofs.Machine.Counting
import Pseudocode.Proofs.Machine.Provenance
import Pseudocode.Proofs.Outline.Reports
import Pseudocode.Proofs.Registry.Accounting
import Pseudocode.Proofs.Cli.Debugging
import Pseudocode.Proofs.Machine.Branches
import Pseudocode.Proofs.Outline.Pairing
import Pseudocode.Proofs.Assignment
import Pseudocode.Proofs.Expr.Lexemes
import Pseudocode.Proofs.Source.Views
