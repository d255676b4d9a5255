import Formwork.Calculator.Result
import Formwork.Element.Audit
import Formwork.Element.Completion
import Formwork.Element.Contact
import Formwork.Element.Device
import Formwork.Element.Event
import Formwork.Element.Loading
import Formwork.Element.Revision
import Formwork.Quiz.Progress
import Formwork.Quiz.Result
import Formwork.Survey.Progress
import Formwork.Survey.Summary
import Formwork.Proofs.Formula.Grammar
import Formwork.Proofs.Formula.Reading
import Formwork.Proofs.Formula.Sentence
import Formwork.Proofs.Formula.Value
import Formwork.Proofs.Formula.Parse
import Formwork.Proofs.Formula.Names
import Formwork.Proofs.Calculator.Check
import Formwork.Proofs.Entries
import Formwork.Proofs.Document.Cells
import Formwork.Proofs.Document.RoundTrip
import Formwork.Proofs.Document.Models
import Formwork.Proofs.Document.Respelling
import Formwork.Proofs.Document.Amendment
import Formwork.Proofs.Element.Revision
import Formwork.Proofs.Survey.Run
import Formwork.Proofs.Survey.Completion
import Formwork.Proofs.Survey.Place
import Formwork.Proofs.Survey.Visibility
import Formwork.Proofs.Survey.Record
import Formwork.Proofs.Survey.Walk
import Formwork.Proofs.Quiz.Run
import Formwork.Proofs.Quiz.Walk
import Formwork.Proofs.Quiz.Completion
import Formwork.Proofs.Number.Literal
import Formwork.Proofs.Formula.Stack
import Formwork.Proofs.Number.Parts
import Formwork.Proofs.Number.Rounding
import Formwork.Proofs.Number.Range
import Formwork.Proofs.Number.Share
import Formwork.Proofs.Number.Nearest
import Formwork.Proofs.Number.Packing
import Formwork.Proofs.Number.Rank
import Formwork.Proofs.Number.Arithmetic
import Formwork.Proofs.Number.Whole
import Formwork.Proofs.Number.Within
import Formwork.Proofs.Quiz.Selection
import Formwork.Proofs.Quiz.RightAnswer
import Formwork.Proofs.Quiz.Breakdown
import Formwork.Proofs.Quiz.Bounds
import Formwork.Proofs.Insertion
import Formwork.Proofs.Quiz.Coverage
import Formwork.Proofs.Calculator.Amount
import Formwork.Proofs.Formula.Range
import Formwork.Proofs.Calculator.Range
import Formwork.Proofs.Formula.Tiling
import Formwork.Proofs.Formula.Spacing
import Formwork.Proofs.Formula.Bounds
import Formwork.Proofs.Formula.Culprit
import Formwork.Proofs.Calculator.Entry
import Formwork.Proofs.Calculator.Result
import Formwork.Proofs.Calculator.Format
import Formwork.Proofs.Survey.Check
import Formwork.Proofs.Quiz.Check
import Formwork.Proofs.Element.Persona
import Formwork.Proofs.Formula.Lexing
import Formwork.Proofs.Formula.Reads
import Formwork.Proofs.Pattern.Matching
import Formwork.Proofs.Element.Contact
import Formwork.Proofs.Number.Numeral
import Formwork.Proofs.Calculator.Text
import Formwork.Proofs.Number.Middle
import Formwork.Proofs.Number.Percentage
import Formwork.Proofs.Formula.Numbers
import Formwork.Proofs.Formula.Literals
