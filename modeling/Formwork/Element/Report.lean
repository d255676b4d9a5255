/-
  Formwork.Element.Report: what a check finds.

  A defect blocks, a warning only advises; a report without defects is a valid one. Reports
  are put together in order.
-/

namespace Formwork

structure Defect where
  field : String
  message : String
  code : String
  deriving DecidableEq, Repr

structure Warning where
  field : String
  message : String
  deriving DecidableEq, Repr

structure Report where
  defects : List Defect := []
  warnings : List Warning := []
  deriving DecidableEq, Repr

namespace Report

def isValid (r : Report) : Bool := r.defects.isEmpty

instance : Append Report where
  append a b := ⟨a.defects ++ b.defects, a.warnings ++ b.warnings⟩

def merge (reports : List Report) : Report := reports.foldr (· ++ ·) {}

def defectLines (r : Report) : List String := r.defects.map fun d => s!"{d.field}: {d.message}"

def warningLines (r : Report) : List String := r.warnings.map fun w => s!"{w.field}: {w.message}"

end Report

def Defect.when (bad : Bool) (field message code : String) : List Defect :=
  if bad then [⟨field, message, code⟩] else []

def Warning.when (bad : Bool) (field message : String) : List Warning :=
  if bad then [⟨field, message⟩] else []

end Formwork
