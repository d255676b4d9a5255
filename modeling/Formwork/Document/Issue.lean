/-
  Formwork.Document.Issue: what is wrong with a document, and where.

  Reading a document collects every issue instead of stopping at the first one. A path leads
  from the top to the value at fault through keys and list positions.
-/

namespace Formwork

inductive IssueKind where
  | missing
  | textExpected
  /-- Bytes or code points that are no text. -/
  | textUndecodable
  | listExpected
  | mapExpected
  | recordExpected
  | elementExpected
  | unknownWord
  | flagExpected
  | flagUnreadable
  | integerExpected
  | integerUnreadable
  | integerTooLong
  | integerHasFraction
  | finiteExpected
  | floatExpected
  | floatUnreadable
  | belowLeast
  | timeExpected
  | timeOutOfRange
  | timeUnreadable
  | tagUnknown
  | tagMissing
  deriving DecidableEq, Repr

def IssueKind.code : IssueKind → String
  | missing => "missing"
  | textExpected => "string_type"
  | textUndecodable => "string_unicode"
  | listExpected => "list_type"
  | mapExpected => "dict_type"
  | recordExpected => "model_type"
  | elementExpected => "model_attributes_type"
  | unknownWord => "literal_error"
  | flagExpected => "bool_type"
  | flagUnreadable => "bool_parsing"
  | integerExpected => "int_type"
  | integerUnreadable => "int_parsing"
  | integerTooLong => "int_parsing_size"
  | integerHasFraction => "int_from_float"
  | finiteExpected => "finite_number"
  | floatExpected => "float_type"
  | floatUnreadable => "float_parsing"
  | belowLeast => "greater_than_equal"
  | timeExpected => "datetime_type"
  | timeOutOfRange => "datetime_parsing"
  | timeUnreadable => "datetime_from_date_parsing"
  | tagUnknown => "union_tag_invalid"
  | tagMissing => "union_tag_not_found"

inductive PathStep where
  | key (name : String)
  | index (i : Int)
  deriving DecidableEq, Repr

structure Issue where
  path : List PathStep
  kind : IssueKind
  deriving DecidableEq, Repr

/-- A value, or every issue that kept it from being read. -/
abbrev Checked (α : Type) := Except (List Issue) α

namespace Checked

variable {α β : Type}

def fail (kind : IssueKind) : Checked α := .error [⟨[], kind⟩]

/-- Both values, or the issues of both, the first ones first. -/
def both : Checked α → Checked β → Checked (α × β)
  | .ok a, .ok b => .ok (a, b)
  | .ok _, .error e => .error e
  | .error e, .ok _ => .error e
  | .error e, .error f => .error (e ++ f)

def below (step : PathStep) (issues : List Issue) : List Issue :=
  issues.map fun i => { i with path := step :: i.path }

def within (step : PathStep) : Checked α → Checked α
  | .ok a => .ok a
  | .error issues => .error (below step issues)

def items (read : β → Checked α) : Int → List β → Checked (List α)
  | _, [] => .ok []
  | i, v :: rest => (both (within (.index i) (read v)) (items read (i + 1) rest)).map fun p => p.1 :: p.2

end Checked

end Formwork
