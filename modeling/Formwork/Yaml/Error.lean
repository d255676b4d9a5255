/-
  Formwork.Yaml.Error: why a YAML document has no value.

  Most documents fail because they are malformed. Values that are written in the right form
  and still name nothing, such as the thirteenth month, have errors of their own.
-/

import Formwork.Number.Basic
import Formwork.Text.Points
import Formwork.Time.Date

namespace Formwork.Yaml

inductive Error where
  | malformed
  /-- A code point beyond the last one. -/
  | noCharacter (code : Nat)
  /-- A text that is no integer in a base. -/
  | noInteger (base : Nat) (text : Text.Points)
  | numeric (e : NumericError)
  | calendar (e : CalendarError)
  /-- A text tagged as a flag, in lower case. -/
  | noFlag (word : Text.Points)
  /-- A text tagged as a timestamp. -/
  | noTimestamp
  /-- A mapping whose default is, in the end, the mapping itself. -/
  | endlessDefault
  /-- A mapping tagged as a timestamp, with a default to stand for it. -/
  | timestampMapping
  /-- An empty text tagged as a number. -/
  | emptyNumber
  deriving DecidableEq, Repr

/-- The most characters of a quoted text that the message about an integer shows. -/
def shownTextLimit : Nat := 200

def Error.message : Error → String
  | malformed => "malformed document"
  | noCharacter code =>
    if code < 0x80000000 then "chr() arg not in range(0x110000)" else "Python int too large to convert to C int"
  | noInteger base text =>
    s!"invalid literal for int() with base {base}: {String.ofList (text.quoted.toList.take shownTextLimit)}"
  | numeric e => e.message
  | calendar e => e.message
  | noFlag word => word.quoted
  | noTimestamp => "'NoneType' object has no attribute 'groupdict'"
  | endlessDefault => "maximum recursion depth exceeded"
  | timestampMapping => "expected string or bytes-like object, got 'list'"
  | emptyNumber => "string index out of range"

end Formwork.Yaml
