/-
  Formwork.Element.Processed: what comes of a response or an answer.
-/

import Formwork.Element.Report
import Formwork.Document.Schema

namespace Formwork

inductive Processed (α : Type) where
  /-- The evaluation, and notes about it. -/
  | done (data : α) (notes : Entries Value)
  /-- The reason, and the defects of the entries if those are the reason. -/
  | refused (message : String) (defects : Option (List Defect))
  deriving Repr

def Processed.unreadable {α : Type} (issues : List Issue) : Processed α :=
  .refused s!"Invalid response: {issues.length} validation error(s)" none

/-- The response that a document holds; no document is an empty response. -/
def readResponse {α : Type} (schema : Schema α) (v : Value) : Checked α :=
  schema.read (match v with
    | .null => .map []
    | v => v)

structure UnknownQuestion where
  id : String
  deriving DecidableEq, Repr

def UnknownQuestion.message (e : UnknownQuestion) : String := s!"Unknown question: {e.id}"

end Formwork
