import Formula.Builtin.Basic
import Formula.Proofs.Builtin.Entries
import Formula.Proofs.Builtin.Extrema
import Formula.Proofs.Builtin.Firsts
import Formula.Proofs.Builtin.Membership
import Formula.Proofs.Builtin.Occurrences
import Formula.Proofs.Builtin.Positions
import Formula.Proofs.Builtin.Selections
import Formula.Proofs.Builtin.Slices
import Formula.Proofs.Builtin.Sorting
import Formula.Proofs.Builtin.Templates
import Formula.Proofs.Context.Families
import Formula.Proofs.Double.Value
import Formula.Proofs.Evaluation.Cancellation
import Formula.Proofs.Evaluation.Failure
import Formula.Proofs.Evaluation.Resolution
import Formula.Proofs.Evaluation.Unbound
import Formula.Proofs.Evaluation.Visibility
import Formula.Proofs.Grammar.Names
import Formula.Proofs.Grammar.Refusal
import Formula.Proofs.Grammar.Tower
import Formula.Proofs.Grammar.WellFormed
import Formula.Proofs.Pattern.Forms
import Formula.Proofs.Rule.Batches
import Formula.Proofs.Token.Boundary
import Formula.Proofs.Token.Literal
import Formula.Proofs.Token.Tiling
import Formula.Proofs.Value.Bits
import Formula.Proofs.Value.Concatenation
import Formula.Proofs.Value.Display
import Formula.Proofs.Value.Encoding
import Formula.Proofs.Value.Integer
import Formula.Proofs.Value.Ordering
import Formula.Proofs.Value.RoundTrip
import Formula.Variables
import Formula.Proofs.Builtin.Shortening
import Formula.Proofs.Builtin.Repetition
import Formula.Proofs.Builtin.Base64
import Formula.Proofs.Builtin.Chronology
import Formula.Proofs.Builtin.Rereading
import Formula.Proofs.Builtin.Supplied
import Formula.Proofs.Grammar.Progress
