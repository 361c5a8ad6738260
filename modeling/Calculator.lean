import Calculator.Main
import Calculator.Expr.Printer
import Calculator.Token.Listing
import Calculator.Console.Response
import Calculator.Proofs.Grammar.Derives
import Calculator.Proofs.Grammar.Unlimited
import Calculator.Proofs.Grammar.Awaited
import Calculator.Proofs.Grammar.Completeness
import Calculator.Proofs.Grammar.Language
import Calculator.Proofs.Token.Reads
import Calculator.Proofs.Grammar.FirstError
import Calculator.Proofs.Expr.Induction
import Calculator.Proofs.Evaluation.Recursive
import Calculator.Proofs.Number.Exponents
import Calculator.Proofs.Number.Patterns
import Calculator.Proofs.Number.Written
import Calculator.Proofs.Number.Characters
import Calculator.Proofs.Token.Lexes
import Calculator.Proofs.Expr.Lexemes
import Calculator.Proofs.Expr.Nesting
import Calculator.Proofs.Expr.RoundTrip
import Calculator.Proofs.Grammar.Outline
import Calculator.Proofs.Grammar.DraftOutline
import Calculator.Proofs.Grammar.Threshold
import Calculator.Proofs.Grammar.TwoGrammars
import Calculator.Proofs.Grammar.Nested
import Calculator.Proofs.Evaluation.Depth
import Calculator.Proofs.Evaluation.Calls
import Calculator.Proofs.Registry.Extensions
import Calculator.Proofs.Evaluation.Stages
import Calculator.Proofs.Registry.Lookups
import Calculator.Proofs.Registry.Sessions
import Calculator.Proofs.Number.Numerals
import Calculator.Proofs.Token.Words
import Calculator.Proofs.Token.Rendering
import Calculator.Proofs.Expr.Closed
import Calculator.Proofs.Evaluation.Closed
import Calculator.Proofs.Registry.Conservative
import Calculator.Proofs.Grammar.CallSites
import Calculator.Proofs.Evaluation.CallOrder
import Calculator.Proofs.Number.WholeNumbers
import Calculator.Proofs.Config.Loading
import Calculator.Proofs.Toml.DistinctKeys
import Calculator.Proofs.Config.Usable
import Calculator.Proofs.Config.Failures
import Calculator.Proofs.Files.Nearest
import Calculator.Proofs.Console.Eval
import Calculator.Proofs.Config.Documents
import Calculator.Proofs.Grammar.Unclosed
import Calculator.Proofs.Token.Successive
import Calculator.Proofs.Evaluation.FlatChains
import Calculator.Proofs.Diagnostic.Caret
import Calculator.Proofs.Number.ReadBack
import Calculator.Proofs.Expr.UniqueReading
import Calculator.Proofs.Evaluation.Powers
import Calculator.Proofs.Console.Shown
import Calculator.Proofs.Config.Finding
import Calculator.Proofs.Evaluation.WrittenNumbers
