import DefaultArgs.Binary.Format
import DefaultArgs.Callable
import DefaultArgs.Companion
import DefaultArgs.Config
import DefaultArgs.Decimal.Layout
import DefaultArgs.Decimal.Reading
import DefaultArgs.Default.Declared
import DefaultArgs.Default.Reading
import DefaultArgs.Diagnostic
import DefaultArgs.Generation.Run
import DefaultArgs.Hierarchy
import DefaultArgs.Identity
import DefaultArgs.Namespace.Graph
import DefaultArgs.Plan
import DefaultArgs.QualifiedName
import DefaultArgs.Reference
import DefaultArgs.Registry.Basic
import DefaultArgs.Registry.Table
import DefaultArgs.Spelling
import DefaultArgs.Symbol
import DefaultArgs.Text.Case
import DefaultArgs.Text.CaseTable
import DefaultArgs.Text.Classes
import DefaultArgs.Text.Escape
import DefaultArgs.Text.Segments
import DefaultArgs.ValueType
import DefaultArgs.Proofs.Companion.Accounting
import DefaultArgs.Proofs.Companion.Agreement
import DefaultArgs.Proofs.Companion.Choice
import DefaultArgs.Proofs.Companion.Collecting
import DefaultArgs.Proofs.Companion.Filling
import DefaultArgs.Proofs.Companion.Naming
import DefaultArgs.Proofs.Config
import DefaultArgs.Proofs.Decimal.Numerals
import DefaultArgs.Proofs.Decimal.Rounding
import DefaultArgs.Proofs.Decimal.Written
import DefaultArgs.Proofs.Default.Admissible
import DefaultArgs.Proofs.Default.Integers
import DefaultArgs.Proofs.Default.RoundTrip
import DefaultArgs.Proofs.Diagnostic.Grading
import DefaultArgs.Proofs.Generation.Admission
import DefaultArgs.Proofs.Generation.Deletion
import DefaultArgs.Proofs.Generation.ForeignTypes
import DefaultArgs.Proofs.Generation.Independence
import DefaultArgs.Proofs.Generation.Modes
import DefaultArgs.Proofs.Generation.Outcome
import DefaultArgs.Proofs.Generation.Privacy
import DefaultArgs.Proofs.Generation.Reporting
import DefaultArgs.Proofs.Generation.Settings
import DefaultArgs.Proofs.Generation.SharedBuilder
import DefaultArgs.Proofs.Generation.WellFormed
import DefaultArgs.Proofs.Hierarchy.Assignability
import DefaultArgs.Proofs.Hierarchy.Search
import DefaultArgs.Proofs.Identity
import DefaultArgs.Proofs.Listing
import DefaultArgs.Proofs.Namespace.Growth
import DefaultArgs.Proofs.Namespace.Lineage
import DefaultArgs.Proofs.Namespace.Tree
import DefaultArgs.Proofs.Plan.Agreement
import DefaultArgs.Proofs.Plan.Conflict
import DefaultArgs.Proofs.Plan.Expansion
import DefaultArgs.Proofs.Plan.Insertion
import DefaultArgs.Proofs.QualifiedName
import DefaultArgs.Proofs.Reference.Completeness
import DefaultArgs.Proofs.Reference.Judgment
import DefaultArgs.Proofs.Reference.Paths
import DefaultArgs.Proofs.Reference.Reading
import DefaultArgs.Proofs.Reference.Scanning
import DefaultArgs.Proofs.Reference.Soundness
import DefaultArgs.Proofs.Reference.Suggestion
import DefaultArgs.Proofs.Registry.Catalogue
import DefaultArgs.Proofs.Registry.Containment
import DefaultArgs.Proofs.Registry.Frame
import DefaultArgs.Proofs.Registry.Order
import DefaultArgs.Proofs.Registry.Outline
import DefaultArgs.Proofs.Registry.Reachable
import DefaultArgs.Proofs.Registry.Shadowing
import DefaultArgs.Proofs.Spelling.Distance
import DefaultArgs.Proofs.Spelling.Rows
import DefaultArgs.Proofs.Spelling.Suggestion
import DefaultArgs.Proofs.Text.Quotation
