/-
  Formwork.Document.Schema: typed views of documents.

  A schema says how a type is written in documents: its scalars, lists and maps, and for a
  record its fields with their names and defaults. From one schema come reading (`read`,
  which collects every issue), writing (`write`, in either spelling of the names) and
  amending (`amend`, which overwrites fields of a written record and reads it again).

  A field is looked up under its camel-case name first and under its plain name second;
  issues are reported under the name that was found, missing fields under the camel-case
  one. A default stands for an absent field and is not checked. Unknown keys are passed over.
-/

import Formwork.Document.Coercion
import Formwork.Document.Keyword
import Formwork.Document.Spelling

namespace Formwork

inductive NumberOrText where
  | number (x : Float)
  | text (s : String)
  deriving DecidableEq, Repr

inductive TextOrTexts where
  | one (s : String)
  | several (items : List String)
  deriving DecidableEq, Repr

mutual

/-- How the values of a type are written. -/
inductive Schema : Type → Type 1 where
  | text : Schema String
  | flag : Schema Bool
  | integer (least : Option Int) : Schema Int
  | decimal (least : Option Float) : Schema Float
  | timestamp : Schema Timestamp
  /-- One of the words of a type. -/
  | word {α : Type} (words : Keyword α) : Schema α
  /-- One fixed word. -/
  | constant (word : String) : Schema Unit
  | anything : Schema Value
  | numberOrText : Schema NumberOrText
  | textOrTexts : Schema TextOrTexts
  | optional {α : Type} (s : Schema α) : Schema (Option α)
  | list {α : Type} (s : Schema α) : Schema (List α)
  /-- A map from any texts. -/
  | entries {α : Type} (s : Schema α) : Schema (Entries α)
  /-- A type that is the same as the row of its fields. -/
  | record {α ρ : Type} (fields : Fields ρ) (build : ρ → α) (parts : α → ρ)
      (build_parts : ∀ a, build (parts a) = a) (parts_build : ∀ r, parts (build r) = r) : Schema α

/-- The fields of a record; the row type pairs their types. -/
inductive Fields : Type → Type 1 where
  | done : Fields Unit
  /-- A field, named in the plain spelling; without a default it is required. -/
  | field {α ρ : Type} (name : String) (s : Schema α) (default : Option α) (rest : Fields ρ) : Fields (α × ρ)

end

namespace Fields

variable {α ρ : Type}

abbrev need (name : String) (s : Schema α) (rest : Fields ρ) : Fields (α × ρ) := .field name s none rest

abbrev or (name : String) (s : Schema α) (default : α) (rest : Fields ρ) : Fields (α × ρ) :=
  .field name s (some default) rest

/-- A field that may be absent or nothing. -/
abbrev opt (name : String) (s : Schema α) (rest : Fields ρ) : Fields (Option α × ρ) :=
  .field name (.optional s) (some none) rest

end Fields

def Fields.names : {ρ : Type} → Fields ρ → List String
  | _, .done => []
  | _, .field name _ _ rest => name :: rest.names

/-- The plain name of the field that a key spells; another key stays as it is. -/
def Fields.plainName {ρ : Type} (fields : Fields ρ) (key : String) : String :=
  (fields.names.find? fun name => camel name == key).getD key

namespace Checked

/-- The value under a field's name, in camel case if it is there; an absent field has its default. -/
def field {α : Type} (read : Value → Checked α) (name : String) (default : Option α)
    (entries : List (Scalar × Value)) : Checked α :=
  match Value.field? entries (camel name) with
  | some v => within (.key (camel name)) (read v)
  | none =>
    match Value.field? entries name with
    | some v => within (.key name) (read v)
    | none =>
      match default with
      | some d => .ok d
      | none => .error [⟨[.key (camel name)], .missing⟩]

/-- The path step that a key of any kind makes; a truth value counts as 0 or 1. -/
def keyStep : Scalar → PathStep
  | .text s => .key s
  | .broken codes => .key (Text.Points.broken codes).shown
  | .bool b => .index (if b then 1 else 0)
  | .int n => if Coercion.isWord n then .index n else .key (toString n)
  | .null => .key "None"
  | .float x => .key (naturalText x)
  | .bytes data => .key (Scalar.bytesText data)
  | .date d => .key d.literal
  | .time t => .key t.literal

def entries {α : Type} (read : Value → Checked α) : List (Scalar × Value) → Checked (Entries α)
  | [] => .ok []
  | (k, v) :: rest =>
    let key := within (keyStep k) (within (.key "[key]") (Coercion.toText (.scalar k)))
    (both (both key (within (keyStep k) (read v))) (entries read rest)).map fun p => p.1 :: p.2

def wordOf {α : Type} (find? : String → Option α) (v : Value) : Checked α :=
  match v with
  | .text s =>
    match find? s with
    | some a => .ok a
    | none => fail .unknownWord
  | .scalar (.broken _) => fail .textUndecodable
  | _ => fail .unknownWord

/-- A text stays a text; what reads as a float becomes one, and other bytes a text. -/
def numberOrText (v : Value) : Checked NumberOrText :=
  match v, Coercion.toFloat v, Coercion.toText v with
  | .text s, _, _ => .ok (.text s)
  | _, .ok x, _ => .ok (.number x)
  | _, .error _, .ok s => .ok (.text s)
  | _, .error es, .error fs => .error (below (.key "float") es ++ below (.key "str") fs)

def list {α : Type} (read : Value → Checked α) (v : Value) : Checked (List α) :=
  match v.items? with
  | some values => items read 0 values
  | none => fail .listExpected

def textOrTexts (v : Value) : Checked TextOrTexts :=
  match Coercion.toText v, list Coercion.toText v with
  | .ok s, _ => .ok (.one s)
  | .error _, .ok texts => .ok (.several texts)
  | .error es, .error fs => .error (below (.key "str") es ++ below (.key "list[str]") fs)

end Checked

open Checked in
mutual

/-- The value that a document stands for, or everything that is wrong with it. -/
def Schema.read : {α : Type} → Schema α → Value → Checked α
  | _, .text, v => Coercion.toText v
  | _, .flag, v => Coercion.toFlag v
  | _, .integer least, v => Coercion.atLeast least (Coercion.toInteger v)
  | _, .decimal least, v => Coercion.atLeast least (Coercion.toFloat v)
  | _, .timestamp, v => Coercion.toTimestamp v
  | α, .word _, v => wordOf (Keyword.find? α) v
  | _, .constant word, v => wordOf (fun s => if s == word then some () else none) v
  | _, .anything, v => .ok v
  | _, .numberOrText, v => Checked.numberOrText v
  | _, .textOrTexts, v => Checked.textOrTexts v
  | _, .optional s, v =>
    match v with
    | .null => .ok none
    | v => (s.read v).map some
  | _, .list s, v => Checked.list s.read v
  | _, .entries s, v =>
    match v with
    | .map es => (Checked.entries s.read es).map Entries.ofList
    | _ => fail .mapExpected
  | _, .record fields build _ _ _, v =>
    match v with
    | .map es => (fields.read es).map build
    | _ => fail .recordExpected

def Fields.read : {ρ : Type} → Fields ρ → List (Scalar × Value) → Checked ρ
  | _, .done, _ => .ok ()
  | _, .field name s default rest, es => both (Checked.field s.read name default es) (rest.read es)

end

mutual

def Schema.write (spelling : Spelling) : {α : Type} → Schema α → α → Value
  | _, .text, s => .text s
  | _, .flag, b => .bool b
  | _, .integer _, n => .int n
  | _, .decimal _, x => .float x
  | _, .timestamp, t => .scalar (.time t)
  | _, .word words, a => .text (words.word a)
  | _, .constant word, _ => .text word
  | _, .anything, v => v
  | _, .numberOrText, v =>
    match v with
    | .number x => .float x
    | .text s => .text s
  | _, .textOrTexts, v =>
    match v with
    | .one s => .text s
    | .several texts => .list (texts.map .text)
  | _, .optional s, v =>
    match v with
    | none => .null
    | some a => s.write spelling a
  | _, .list s, xs => .list (xs.map (s.write spelling))
  | _, .entries s, es => .map (es.map fun e => (.text e.1, s.write spelling e.2))
  | _, .record fields _ parts _ _, a => .map (fields.write spelling (parts a))

def Fields.write (spelling : Spelling) : {ρ : Type} → Fields ρ → ρ → List (Scalar × Value)
  | _, .done, _ => []
  | _, .field name s _ rest, r => (.text (spelling.spell name), s.write spelling r.1) :: rest.write spelling r.2

end

/-- The written record with `updates` on top, in either spelling of the names and the later one of a name winning. -/
def Fields.overlay {ρ : Type} (fields : Fields ρ) (r : ρ) (updates : Entries Value) : Entries Value :=
  updates.foldl (fun es u => es.put (fields.plainName u.1) u.2) (Value.textEntries (fields.write .plain r))

/-- The record read again with `updates` on top, and then `stamps`, whose names are plain. -/
def Schema.amend : {α : Type} → Schema α → α → (updates stamps : Entries Value) → Checked α
  | _, .record fields build parts _ _, a, updates, stamps =>
    let es := stamps.foldl (fun es s => es.put s.1 s.2) (fields.overlay (parts a) updates)
    (fields.read (es.map fun e => (.text e.1, e.2))).map build
  | _, _, a, _, _ => .ok a

end Formwork
