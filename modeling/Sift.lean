import Sift.Main
import Sift.Proofs.Compile.Joined
import Sift.Proofs.Sql.Parameters
import Sift.Proofs.Sql.Names
import Sift.Proofs.Dataset.Pages
import Sift.Proofs.Filter.Places
import Sift.Proofs.Filter.Printing
import Sift.Proofs.Filter.Layout
import Sift.Proofs.Decimal.Order
import Sift.Proofs.Value.Order
import Sift.Proofs.Dataset.Sorting
import Sift.Proofs.Sql.Distinct
import Sift.Proofs.Compile.Leaves
import Sift.Proofs.Compile.TypedRecords
import Sift.Proofs.Dataset.Columns
import Sift.Proofs.Backend.Conjunction
import Sift.Proofs.Dataset.Blocks
import Sift.Proofs.Dataset.Requests
import Sift.Proofs.Registry.Building
import Sift.Proofs.Pattern.Verbatim
import Sift.Proofs.Filter.MissingOperands
import Sift.Proofs.Filter.Depth
import Sift.Proofs.Filter.Brackets
import Sift.Proofs.Pattern.Elements
import Sift.Proofs.Compile.Values
import Sift.Proofs.Compile.Outcomes
import Sift.Proofs.Registry.SortTexts
import Sift.Proofs.Value.Membership
import Sift.Proofs.Value.Numbers
import Sift.Proofs.Instant.Forms
import Sift.Proofs.Instant.Written
import Sift.Proofs.Compile.Refusals
import Sift.Proofs.Compile.Blame
import Sift.Proofs.Sql.Counting
import Sift.Proofs.Filter.Carets
import Sift.Proofs.Filter.Combining
import Sift.Proofs.Predicate.Building
