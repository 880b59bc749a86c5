import FormLogic.Text.Letters
import FormLogic.Text.Blank
import FormLogic.Text.Quoted
import FormLogic.Number.FloatText
import FormLogic.Number.Word
import FormLogic.Dictionary
import FormLogic.Value.Equality
import FormLogic.Value.Printer
import FormLogic.Formula.Lexer
import FormLogic.Formula.Expr
import FormLogic.Formula.Parser
import FormLogic.Formula.Arithmetic
import FormLogic.Formula.Eval
import FormLogic.Formula.Validation
import FormLogic.Timestamp.Reader
import FormLogic.Trace
import FormLogic.Main
import FormLogic.Proofs.DependencyGraph.Order
import FormLogic.Proofs.Entity.Graph
import FormLogic.Proofs.Formula.Locality
import FormLogic.Proofs.Calculation.Equations
import FormLogic.Proofs.Formula.Parsing
import FormLogic.Proofs.Service.Freshness
import FormLogic.Proofs.Formula.TypeSoundness
import FormLogic.Proofs.DependencyGraph.Additions
import FormLogic.Proofs.DependencyGraph.Search
import FormLogic.Proofs.Formula.Faults
import FormLogic.Proofs.Formula.Parts
import FormLogic.Proofs.Formula.References
import FormLogic.Proofs.Controls.Precedence
import FormLogic.Proofs.Controls.FieldStates
import FormLogic.Proofs.Controls.Precedents
import FormLogic.Proofs.Calculation.Sources
import FormLogic.Proofs.Calculation.Accounting
import FormLogic.Proofs.Controls.Isolation
import FormLogic.Proofs.Controls.Conditions
import FormLogic.Proofs.DependencyGraph.Extensionality
import FormLogic.Proofs.Entity.Rearrangement
import FormLogic.Proofs.Override.Calls
import FormLogic.Proofs.Override.Lifecycle
import FormLogic.Proofs.Service.Refresh
import FormLogic.Proofs.Formula.Height
import FormLogic.Proofs.Formula.Bindings
import FormLogic.Proofs.Value.Agreement
import FormLogic.Proofs.Formula.Comparison
import FormLogic.Proofs.Formula.Extremes
import FormLogic.Proofs.Formula.Powers
import FormLogic.Proofs.Formula.Multiples
import FormLogic.Proofs.Formula.Totals
import FormLogic.Proofs.DependencyGraph.Cycles
import FormLogic.Proofs.Calculation.Cycles
import FormLogic.Proofs.Formula.Blame
import FormLogic.Proofs.InPlace.Termination
import FormLogic.Proofs.Formula.TextLiterals
import FormLogic.Proofs.Formula.Spacing
import FormLogic.Proofs.Stored.Entities
import FormLogic.Proofs.Stored.Conflicts
