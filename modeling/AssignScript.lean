import AssignScript.Main
import AssignScript.Proofs.Engine.Reachable
import AssignScript.Proofs.Engine.Transaction
import AssignScript.Proofs.Syntax.Acceptance
import AssignScript.Proofs.Typing.Widening
import AssignScript.Proofs.Typing.Rules
import AssignScript.Proofs.Typing.Decided
import AssignScript.Proofs.Lexing.Lossless
import AssignScript.Proofs.Syntax.Spelling
import AssignScript.Proofs.Syntax.Placed
import AssignScript.Proofs.Syntax.Reparse
import AssignScript.Proofs.Lexing.Layout
import AssignScript.Proofs.Syntax.Rendering
import AssignScript.Proofs.Typing.Parentheses
import AssignScript.Proofs.Typing.RoundTrip
import AssignScript.Proofs.Engine.Independence
import AssignScript.Proofs.Engine.Inlining
import AssignScript.Proofs.Lexing.Assignment
import AssignScript.Proofs.Lexing.Written
import AssignScript.Proofs.Syntax.Assignment
import AssignScript.Proofs.Engine.Assignment
import AssignScript.Proofs.Syntax.Viable
import AssignScript.Proofs.Syntax.Refusal
import AssignScript.Proofs.Syntax.FirstImpossible
import AssignScript.Proofs.Typing.Dependence
import AssignScript.Proofs.Engine.Compiled
import AssignScript.Proofs.Typing.Known
import AssignScript.Proofs.Engine.Exact
import AssignScript.Proofs.Engine.Integers
import AssignScript.Proofs.Evaluation.Parts
import AssignScript.Proofs.Evaluation.Strictness
import AssignScript.Proofs.Evaluation.Filling
import AssignScript.Proofs.Pattern.Replacement
import AssignScript.Proofs.Syntax.Counter
import AssignScript.Proofs.Syntax.Limit
import AssignScript.Proofs.Syntax.History
import AssignScript.Proofs.Evaluation.FirstFailure
import AssignScript.Proofs.Evaluation.WholeNumber
import AssignScript.Proofs.Evaluation.Comparison
import AssignScript.Proofs.Evaluation.Substring
import AssignScript.Proofs.Evaluation.Occurrence
import AssignScript.Proofs.Evaluation.Trimming
import AssignScript.Proofs.Typing.ErrorSource
import AssignScript.Proofs.Evaluation.Depth
import AssignScript.Proofs.Typing.Visitor
import AssignScript.Proofs.Typing.NestingLimit
import AssignScript.Proofs.Typing.OmittedArgument
import AssignScript.Proofs.Pattern.FullMatch
