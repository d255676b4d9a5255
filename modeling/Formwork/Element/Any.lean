/-
  Formwork.Element.Any: elements of every kind.

  The `type` of a document says which kind of element it describes; issues are reported
  below that word.
-/

import Formwork.Calculator.Config
import Formwork.Quiz.Config
import Formwork.Survey.Config

namespace Formwork

inductive AnyElement where
  | quiz (q : Quiz)
  | calculator (c : Calculator)
  | survey (s : Survey)
  deriving Repr

namespace AnyElement

def kind : AnyElement → ElementKind
  | quiz _ => .quiz
  | calculator _ => .calculator
  | survey _ => .survey

def common : AnyElement → Element
  | quiz q => q.toElement
  | calculator c => c.toElement
  | survey s => s.toElement

def readAs (kind : ElementKind) (v : Value) : Checked AnyElement :=
  match kind with
  | .quiz => (Quiz.schema.read v).map quiz
  | .calculator => (Calculator.schema.read v).map calculator
  | .survey => (Survey.schema.read v).map survey

def read (v : Value) : Checked AnyElement :=
  match v with
  | .map entries =>
    match Value.field? entries "type" with
    | none => Checked.fail .tagMissing
    | some (.text word) =>
      match Keyword.find? ElementKind word with
      | some kind => Checked.within (.key word) (readAs kind v)
      | none => Checked.fail .tagUnknown
    | some _ => Checked.fail .tagUnknown
  | _ => Checked.fail .elementExpected

def write (spelling : Spelling) : AnyElement → Value
  | quiz q => Quiz.schema.write spelling q
  | calculator c => Calculator.schema.write spelling c
  | survey s => Survey.schema.write spelling s

/-- The element read again with `updates` on top, and then `stamps`. -/
def amend (updates stamps : Entries Value) : AnyElement → Checked AnyElement
  | quiz q => (Quiz.schema.amend q updates stamps).map quiz
  | calculator c => (Calculator.schema.amend c updates stamps).map calculator
  | survey s => (Survey.schema.amend s updates stamps).map survey

end AnyElement

inductive CreationError where
  /-- Not one of the three kinds. -/
  | unsupported (kind : String)
  | invalid (issues : List Issue)
  deriving Repr

def CreationError.message : CreationError → String
  | unsupported kind => s!"Unsupported interactive element type: {kind}"
  | invalid issues => s!"{issues.length} validation error(s)"

def Value.kindName : Value → String
  | null => "NoneType"
  | bool _ => "bool"
  | int _ => "int"
  | float _ => "float"
  | text _ | scalar (.broken _) => "str"
  | scalar (.bytes _) => "bytes"
  | scalar (.date _) => "date"
  | scalar (.time _) => "datetime"
  | list _ => "list"
  | map _ => "dict"
  | set _ => "set"
  | endless => "object"

namespace AnyElement

def create (v : Value) : Except CreationError AnyElement :=
  match v with
  | .map _ => (read v).mapError .invalid
  | v => .error (.unsupported v.kindName)

def refuseBare (kind : Value) : CreationError :=
  match Element.schema.read (.ofEntries [("type", kind)]) with
  | .error issues => .invalid issues
  | .ok (_, kind) => .unsupported (Keyword.word kind)

end AnyElement

end Formwork
