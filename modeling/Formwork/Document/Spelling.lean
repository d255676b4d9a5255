/-
  Formwork.Document.Spelling: the two spellings of a field name.

  Documents spell field names in camel case (`websiteId`); the plain spelling with
  underscores (`website_id`) is accepted as well.
-/

namespace Formwork

inductive Spelling where
  | camel
  | plain
  deriving DecidableEq, Repr

/-- Each letter after an underscore becomes a capital, and the underscore goes. -/
def camelChars : List Char → List Char
  | '_' :: c :: rest => c.toUpper :: camelChars rest
  | c :: rest => c :: camelChars rest
  | [] => []

def camel (name : String) : String := String.ofList (camelChars name.toList)

def Spelling.spell : Spelling → String → String
  | .camel, name => Formwork.camel name
  | .plain, name => name

end Formwork
