import Propositional.Console.Box
import Propositional.Console.Cells
import Propositional.Console.Grid
import Propositional.Console.Library
import Propositional.Console.Literal.Grammar
import Propositional.Console.Literal.Lexeme
import Propositional.Console.Markup
import Propositional.Console.Pictures
import Propositional.Console.Print
import Propositional.Console.Style
import Propositional.Console.Wrap
import Propositional.Expression
import Propositional.Files
import Propositional.Formula
import Propositional.Formula.Nesting
import Propositional.Formula.Parser
import Propositional.Formula.SyntaxError
import Propositional.Interpreter
import Propositional.Json.Reader
import Propositional.Json.Value
import Propositional.Json.Writer
import Propositional.Log
import Propositional.Number.Binary64
import Propositional.Number.Shortest
import Propositional.Proofs.Grammar
import Propositional.Settings
import Propositional.Settings.Dotenv
import Propositional.Settings.Environment
import Propositional.Shell.Arguments
import Propositional.Shell.Command
import Propositional.Shell.Palette
import Propositional.Shell.Presentation
import Propositional.Shell.Session
import Propositional.Text.Blank
import Propositional.Text.CellWidth
import Propositional.Text.CharRange
import Propositional.Text.Digit
import Propositional.Text.Grapheme
import Propositional.Text.Integer
import Propositional.Text.Lowercase
import Propositional.Text.Numeral
import Propositional.Text.Points
import Propositional.Text.Printable
import Propositional.Text.Quoted
import Propositional.Text.Symbol
import Propositional.Text.Uppercase
import Propositional.Text.Utf8
import Propositional.Token
import Propositional.Tree
import Propositional.TruthTable
import Propositional.TruthTable.Export
import Propositional.TruthTable.Generation
import Propositional.TruthTable.Grid
import Propositional.TruthTable.Html
import Propositional.TruthTable.Validation
import Propositional.Verdict
import Propositional.Main
import Propositional.Proofs.Scan
import Propositional.Proofs.Descent
import Propositional.Proofs.Completeness
import Propositional.Proofs.Recognition
import Propositional.Proofs.Rendering
import Propositional.Proofs.Atoms
import Propositional.Proofs.Bits
import Propositional.Proofs.Validity
import Propositional.Proofs.Nesting
import Propositional.Proofs.Exhaustion
import Propositional.Proofs.Viability
import Propositional.Proofs.Columns
import Propositional.Proofs.Validation
import Propositional.Proofs.Enumeration
import Propositional.Proofs.CallDepth
import Propositional.Proofs.Alphabet
import Propositional.Proofs.Session
import Propositional.Proofs.Palette
import Propositional.Proofs.Composition
import Propositional.Proofs.SoftFailure
import Propositional.Proofs.RenderedTable
import Propositional.Proofs.Equivariance
import Propositional.Proofs.Renaming
import Propositional.Proofs.Decimals
import Propositional.Proofs.PlainTexts
import Propositional.Proofs.HtmlTable
import Propositional.Proofs.WrittenCells
import Propositional.Proofs.JsonTable
import Propositional.Proofs.Graphemes
import Propositional.Proofs.Filling
import Propositional.Proofs.Pictures
import Propositional.Proofs.Layout
import Propositional.Proofs.PrintedDocument
import Propositional.Proofs.LiteralMarkup
import Propositional.Proofs.Writing
import Propositional.Proofs.DrawnTable
import Propositional.Proofs.SavedDocument
import Propositional.Proofs.ParserState
import Propositional.Proofs.CallBudget
import Propositional.Proofs.MainConnective
import Propositional.Proofs.Outcomes
import Propositional.Proofs.JsonIntegers
import Propositional.Proofs.StoredTable
import Propositional.Proofs.EscapedMarkup
import Propositional.Proofs.SettingsMessages
import Propositional.Proofs.Configuration
import Propositional.Proofs.Variables
import Propositional.Proofs.TreeEvaluation
import Propositional.Proofs.RenderedForm
import Propositional.Proofs.DeepestSegment
import Propositional.Proofs.Lookahead
import Propositional.Proofs.GridColumns
import Propositional.Proofs.Renderings
import Propositional.Proofs.Reading
import Propositional.Proofs.SavedSettings
import Propositional.Proofs.Traversal
