import Hybrid.Text.Alphabetic
import Hybrid.Text.Columns
import Hybrid.Expr.Evaluation
import Hybrid.Expr.Substitution
import Hybrid.Expr.References
import Hybrid.Expr.Printer
import Hybrid.Walk.Plan
import Hybrid.Error
import Hybrid.Naming
import Hybrid.Term
import Hybrid.Body
import Hybrid.Class
import Hybrid.Registry
import Hybrid.Wrapper
import Hybrid.Event
import Hybrid.InstanceCache
import Hybrid.Store
import Hybrid.Text.Escaped
import Hybrid.Reading
import Hybrid.Session.Run
import Hybrid.Expr.Serial
import Hybrid.Proofs.Action
import Hybrid.Proofs.Body.Leaves
import Hybrid.Proofs.Body.Composed
import Hybrid.Proofs.Expr.Occurrences
import Hybrid.Proofs.Expr.Replacement
import Hybrid.Proofs.Store.Caches
import Hybrid.Proofs.Expr.Environment
import Hybrid.Proofs.Expr.NoValue
import Hybrid.Proofs.Expr.Substitution
import Hybrid.Proofs.Expr.Rebuilding
import Hybrid.Proofs.Expr.Composition
import Hybrid.Proofs.Expr.Reads
import Hybrid.Proofs.Expr.Knowledge
import Hybrid.Proofs.Term.Folding
import Hybrid.Proofs.Term.Tree
import Hybrid.Proofs.Store.Ledger
import Hybrid.Proofs.Reading.Rules
import Hybrid.Proofs.Body.Answer
import Hybrid.Proofs.Reading.History
import Hybrid.Proofs.Wrapper.Inlining
import Hybrid.Proofs.Reading.Builds
import Hybrid.Proofs.Term.Faithful
import Hybrid.Proofs.Reading.Agreement
import Hybrid.Proofs.Reading.Graph
import Hybrid.Proofs.Reading.Cycles
import Hybrid.Proofs.Reading.Evaluation
import Hybrid.Proofs.Reading.Transparency
import Hybrid.Proofs.Printing.Literal
import Hybrid.Proofs.Printing.Reader
import Hybrid.Proofs.Printing.Regrouping
import Hybrid.Proofs.Printing.Readback
import Hybrid.Proofs.Expr.Exact
import Hybrid.Proofs.Printing.Preservation
import Hybrid.Proofs.Printing.Factors
import Hybrid.Proofs.Store.Growth
import Hybrid.Proofs.Store.Memory
import Hybrid.Proofs.Reading.Growth
import Hybrid.Proofs.Reading.Failure
import Hybrid.Proofs.Reading.Stability
import Hybrid.Proofs.Wrapper.Listing
import Hybrid.Proofs.Reading.Mentions
import Hybrid.Proofs.Reading.Construction
import Hybrid.Proofs.Reading.Uncached
import Hybrid.Proofs.Reading.Independence
import Hybrid.Proofs.Reading.Success
import Hybrid.Proofs.Expr.Literals
import Hybrid.Proofs.Printing.Unambiguous
import Hybrid.Proofs.Reading.Effects
import Hybrid.Proofs.Wrapper.Order
import Hybrid.Proofs.Wrapper.Sharing
import Hybrid.Proofs.Wrapper.Traversal
import Hybrid.Proofs.Reading.Stamps
import Hybrid.Proofs.Reading.Composition
import Hybrid.Proofs.Reading.Descent
import Hybrid.Proofs.Reading.Repetition
import Hybrid.Proofs.Reading.Annotation
import Hybrid.Proofs.Reading.Termination
import Hybrid.Proofs.Reading.Resolved
import Hybrid.Proofs.Printing.Spacing
import Hybrid.Proofs.Expr.RoundTrip
import Hybrid.Proofs.Value.Overflow
import Hybrid.Proofs.Value.Association
import Hybrid.Proofs.Reading.Reach
import Hybrid.Proofs.Reading.Footprint
import Hybrid.Proofs.Reading.Circles
import Hybrid.Proofs.Walk.Turns
import Hybrid.Proofs.Walk.Clearing
import Hybrid.Proofs.Walk.Agendas
import Hybrid.Proofs.Walk.Places
import Hybrid.Proofs.Walk.Modes
import Hybrid.Proofs.Walk.Orders
import Hybrid.Proofs.Expr.References
import Hybrid.Proofs.Printing.Parentheses
import Hybrid.Proofs.Printing.Colours
import Hybrid.Proofs.Printing.Steps
import Hybrid.Proofs.Printing.Groupings
import Hybrid.Proofs.Printing.Minimal
import Hybrid.Proofs.Printing.Lookahead
import Hybrid.Proofs.Printing.Fitting
import Hybrid.Proofs.Printing.Spread
import Hybrid.Proofs.Printing.Groups
import Hybrid.Proofs.Printing.Lines
import Hybrid.Proofs.Printing.Widening
import Hybrid.Proofs.Class.Attributes
import Hybrid.Proofs.Class.Registry
import Hybrid.Proofs.Naming
import Hybrid.Proofs.Printing.Quotation
import Hybrid.Proofs.Value.Equality
import Hybrid.Proofs.Expr.Equality
