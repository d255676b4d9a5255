/-
  Formwork.Element.Loading: elements from documents and from files.

  A document is in the format that it is said to be in, or in the format that its file's name
  tells, or else in JSON if it begins like a JSON list or object and in YAML otherwise. One
  element is written as an object; several are written as a list, a single one as an object
  alone. A file holds UTF-8 text whose lines may end in any of the three common ways.
-/

import Formwork.Document.Json
import Formwork.Element.Any
import Formwork.Text.Lowercase
import Formwork.Yaml.Reading

namespace Formwork

/-! ## Formats -/

inductive DocumentFormat where
  | json
  | yaml
  deriving DecidableEq, Repr

namespace DocumentFormat

/-- The part of a file's name from its last point on; a point at either end starts none. -/
def suffix? (name : String) : Option String :=
  let behind := name.toList.reverse.takeWhile (· != '.')
  if !behind.isEmpty && behind.length + 1 < name.length then some (String.ofList behind.reverse) else none

def ofName? (name : String) : Option DocumentFormat :=
  match (suffix? name).map Text.lower with
  | some "json" => some .json
  | some "yaml" | some "yml" => some .yaml
  | _ => none

def ofText (content : String) : DocumentFormat :=
  match Text.trimLeft content.toList with
  | '\x7b' :: _ | '[' :: _ => .json
  | _ => .yaml

end DocumentFormat

inductive LoadError where
  | json (e : Json.Error)
  | yaml (e : Yaml.Error)
  /-- No object, or an empty one; `file` names the file. -/
  | objectExpected (file : Option String)
  | objectOrListExpected
  | invalid (issues : List Issue)
  | fileMissing
  /-- The bytes of a file are no text. -/
  | textExpected
  deriving DecidableEq, Repr

def LoadError.message : LoadError → String
  | json .malformed => "malformed document"
  | json (.tooManyDigits count) => (NumericError.tooManyDigits count).message
  | yaml e => e.message
  | objectExpected none => "Element configuration must be an object"
  | objectExpected (some file) => s!"Element configuration in {file} must be an object"
  | objectOrListExpected => "Element configurations must be an object or a list"
  | invalid issues => (CreationError.invalid issues).message
  | fileMissing => "no such file"
  | textExpected => "no text"

def DocumentFormat.read (format : DocumentFormat) (content : String) : Except LoadError Value :=
  match format with
  | .json => (Json.read content).mapError .json
  | .yaml => (Yaml.read content).mapError .yaml

/-! ## Elements in documents -/

namespace AnyElement

def ofObject (file : Option String) (v : Value) : Except LoadError AnyElement :=
  match v with
  | .map (_ :: _) => (read v).mapError .invalid
  | _ => .error (.objectExpected file)

/-- The elements of a list, the element of an object, or no elements. -/
def ofObjects (v : Value) : Except LoadError (List AnyElement) :=
  match v with
  | .null => .ok []
  | .map _ => ((read v).map fun e => [e]).mapError .invalid
  | .list items => (Checked.items read 0 items).mapError .invalid
  | _ => .error .objectOrListExpected

def parse (content : String) (format : DocumentFormat) : Except LoadError AnyElement := do
  ofObject none (← format.read content)

def parseAll (content : String) (format : DocumentFormat) : Except LoadError (List AnyElement) := do
  ofObjects (← format.read content)

end AnyElement

/-! ## Elements in files -/

/-- A file; one that is missing has no bytes. -/
structure File where
  name : String
  bytes : Option ByteArray

namespace File

def unifyLines : List Char → List Char
  | '\r' :: '\n' :: rest => '\n' :: unifyLines rest
  | '\r' :: rest => '\n' :: unifyLines rest
  | c :: rest => c :: unifyLines rest
  | [] => []

def text (f : File) : Except LoadError String :=
  match f.bytes with
  | none => .error .fileMissing
  | some bytes =>
    match String.fromUTF8? bytes with
    | some s => .ok (String.ofList (unifyLines s.toList))
    | none => .error .textExpected

def format (f : File) (content : String) : DocumentFormat :=
  (DocumentFormat.ofName? f.name).getD (.ofText content)

end File

namespace AnyElement

def load (f : File) : Except LoadError AnyElement := do
  let content ← f.text
  ofObject (some f.name) (← (f.format content).read content)

def loadAll (f : File) : Except LoadError (List AnyElement) := do
  let content ← f.text
  parseAll content (f.format content)

end AnyElement

end Formwork
