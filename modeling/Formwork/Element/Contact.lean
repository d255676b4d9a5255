/-
  Formwork.Element.Contact: the contact form and what is entered into it.

  A required entry must not be blank. A given entry of a field for mail addresses or phone
  numbers has to match the pattern of these, and the pattern of a field has to occur in its
  entry; a pattern that is none is passed over. Entries of any kind are checked as texts.
-/

import Formwork.Element.Check
import Formwork.Pattern.Matching
import Formwork.Pattern.Reading

namespace Formwork

namespace Contact

open Pattern (CharSet Node)

def exactly (c : Char) : Node := .one (.of .exact false [.single c.toNat])

/-- A character of an address: neither blank nor an `@`. -/
def addressChar : CharSet := .of .exact true [.ofClass .blank false false, .single '@'.toNat]

/-- Characters of an address, an `@`, and more of them with a point between. -/
def emailPattern : Node :=
  .ofList [.place (.lineStart false), .repeated .greedy 1 none (.one addressChar), exactly '@',
    .repeated .greedy 1 none (.one addressChar), exactly '.', .repeated .greedy 1 none (.one addressChar),
    .place (.lineEnd false)]

/-- A character of a phone number: a digit, a blank or one of the signs in it. -/
def phoneChar : CharSet :=
  .of .exact false [.ofClass .digit false false, .ofClass .blank false false, .single '-'.toNat, .single '+'.toNat,
    .single '('.toNat, .single ')'.toNat]

def phonePattern : Node :=
  .ofList [.place (.lineStart false), .repeated .greedy 7 (some 20) (.one phoneChar), .place (.lineEnd false)]

def isEmail (s : String) : Bool := emailPattern.startsIn s

def isPhone (s : String) : Bool := phonePattern.startsIn s

end Contact

namespace LeadField

def checkPattern (f : LeadField) (entry : String) : Except Pattern.Error (List Defect) :=
  match (f.validation.filter (· != "")).map Pattern.read with
  | some (.ok pattern) =>
    .ok (Defect.when (!pattern.occursIn entry) f.id s!"{f.label} format is invalid" "INVALID_FORMAT")
  | some (.error e) => if e == .malformed then .ok [] else .error e
  | none => .ok []

def checkEntry (f : LeadField) (entry : String) : Except Pattern.Error (List Defect) :=
  if f.required && Text.isBlankText entry then .ok [⟨f.id, s!"{f.label} is required", "REQUIRED_FIELD"⟩]
  else if entry == "" then .ok []
  else
    (f.checkPattern entry).map fun defects =>
      Defect.when (f.type == .email && !Contact.isEmail entry) f.id "Please enter a valid email address"
        "INVALID_EMAIL" ++
      Defect.when (f.type == .phone && !Contact.isPhone entry) f.id "Please enter a valid phone number"
        "INVALID_PHONE" ++
      defects

end LeadField

def entryText (entries : Entries Value) (id : String) : Except NumericError String :=
  match (entries.get? id).getD .null with
  | .null => .ok ""
  | v => v.display

inductive EntryError where
  | numeric (e : NumericError)
  | pattern (e : Pattern.Error)
  deriving DecidableEq, Repr

def LeadField.checkEntryIn (entries : Entries Value) (f : LeadField) : Except EntryError (List Defect) := do
  let entry ← (entryText entries f.id).mapError .numeric
  (f.checkEntry entry).mapError .pattern

namespace Element

def checkContact (e : Element) (entries : Entries Value) : Except EntryError Report :=
  match e.activeLeadCapture with
  | none => .ok {}
  | some l => (l.fields.mapM (LeadField.checkEntryIn entries)).map fun defects => ⟨defects.flatten, []⟩

/-- The contact form belongs at this point: before, after completion, or with a result. -/
def showsContact (e : Element) (position : LeadPosition) (completed hasResult : Bool) : Bool :=
  e.activeLeadCapture.any fun l =>
    l.position == position &&
      match position with
      | .before => true
      | .after => completed
      | .onResult => hasResult

end Element

end Formwork
