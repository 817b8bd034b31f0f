import GrowthGrammar.Text.Blank
import GrowthGrammar.Text.Line
import GrowthGrammar.Text.Composition
import GrowthGrammar.Text.Identifier
import GrowthGrammar.Text.Quoted
import GrowthGrammar.Text.CharacterName
import GrowthGrammar.Text.Digit
import GrowthGrammar.Number.Layout
import GrowthGrammar.Number.Numeral
import GrowthGrammar.Json.Reader
import GrowthGrammar.Json.Writer
import GrowthGrammar.Value.Builtin
import GrowthGrammar.Expression.Quotation
import GrowthGrammar.Expression.Token
import GrowthGrammar.Expression.Grammar
import GrowthGrammar.Bracket
import GrowthGrammar.Quantity
import GrowthGrammar.Description
import GrowthGrammar.Result
import GrowthGrammar.Main
import GrowthGrammar.Proofs.Word.RoundTrip
import GrowthGrammar.Proofs.Description.RuleBlock
import GrowthGrammar.Proofs.Source.TwoForms
import GrowthGrammar.Proofs.Growth.Globals
import GrowthGrammar.Proofs.CommandLine.Effects
import GrowthGrammar.Proofs.Rule.ParameterName
import GrowthGrammar.Proofs.Growth.FirstMatch
import GrowthGrammar.Proofs.Description.Documented
import GrowthGrammar.Proofs.Expression.Blanks
import GrowthGrammar.Proofs.Word.Brackets
import GrowthGrammar.Proofs.Rule.Layout
import GrowthGrammar.Proofs.Expression.Tree
import GrowthGrammar.Proofs.Expression.Lexeme
import GrowthGrammar.Proofs.Expression.Parse
import GrowthGrammar.Proofs.Expression.Phrase
import GrowthGrammar.Proofs.Expression.Printed
import GrowthGrammar.Proofs.Description.RuleLines
import GrowthGrammar.Proofs.Growth.Scope
import GrowthGrammar.Proofs.Expression.Integers
import GrowthGrammar.Proofs.Growth.Shadowing
import GrowthGrammar.Proofs.Word.Grammar
import GrowthGrammar.Proofs.Text.Utf8
import GrowthGrammar.Proofs.Json.Scalar
import GrowthGrammar.Proofs.Json.RoundTrip
import GrowthGrammar.Proofs.Json.Readable
import GrowthGrammar.Proofs.Source.Data
import GrowthGrammar.Proofs.CommandLine.Data
import GrowthGrammar.Proofs.Rule.Output
import GrowthGrammar.Proofs.Source.Checks
import GrowthGrammar.Proofs.Word.Decomposition
import GrowthGrammar.Proofs.Description.Layout
import GrowthGrammar.Proofs.Expression.Spelling
import GrowthGrammar.Proofs.Expression.Formatted
