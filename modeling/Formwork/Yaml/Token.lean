/-
  Formwork.Yaml.Token: YAML documents as tokens.

  Indentation becomes tokens: a block collection begins where an entry stands further right
  than the collection around it and ends before the first token further left. A key need not
  be marked: when a colon follows a token on the same line, that token turns out to have
  begun a key, and the mark is put in before it. An error within the text is a token, too, so
  that it counts only if the tokens before it make sense; a token that may still turn out to
  begin a key does not come before it.
-/

import Formwork.Yaml.Folding

namespace Formwork.Yaml

inductive Token where
  | version (major : Nat)
  | handle (name uri : String)
  | directive
  | documentStart
  | documentEnd
  | blockSequence
  | blockMapping
  | blockEnd
  | blockEntry
  | flowSequence
  | flowSequenceEnd
  | flowMapping
  | flowMappingEnd
  | flowEntry
  | key
  | value
  | alias (name : String)
  | anchor (name : String)
  /-- A tag and the handle that it is short with. -/
  | tag (handle : Option String) (suffix : String)
  | scalar (plain : Bool) (text : Text.Points)
  | failed (e : Error)
  deriving DecidableEq, Repr

structure Candidate where
  token : Nat
  /-- Nothing but a key may stand here. -/
  required : Bool
  index : Nat
  line : Nat
  column : Nat
  deriving Repr

structure Scan where
  cursor : Cursor
  tokens : Array Token := #[]
  flowDepth : Nat := 0
  /-- The column of the innermost block collection, -1 outside of all. -/
  indent : Int := -1
  outer : List Int := []
  keyAllowed : Bool := true
  /-- Possible keys by depth of flow collections. -/
  candidates : List (Nat × Candidate) := []

namespace Scan

def push (s : Scan) (t : Token) : Scan := { s with tokens := s.tokens.push t }

def move (s : Scan) (n : Nat) : Scan := { s with cursor := s.cursor.advance n }

/-! ## Possible keys -/

def keyLimit : Nat := 1024

/-- A possible key that has become too long or spans lines. -/
def isStale (s : Scan) (k : Candidate) : Bool := k.line != s.cursor.line || keyLimit < s.cursor.index - k.index

def dropStale (s : Scan) : Except Error Scan :=
  if s.candidates.any fun k => s.isStale k.2 && k.2.required then .error .malformed
  else .ok { s with candidates := s.candidates.filter fun k => !s.isStale k.2 }

def dropCandidate (s : Scan) : Except Error Scan :=
  if s.candidates.any fun k => k.1 == s.flowDepth && k.2.required then .error .malformed
  else .ok { s with candidates := s.candidates.filter (·.1 != s.flowDepth) }

def saveCandidate (s : Scan) : Except Error Scan :=
  if !s.keyAllowed then .ok s
  else do
    let s ← s.dropCandidate
    let c := s.cursor
    let required := s.flowDepth == 0 && s.indent == c.column
    return { s with candidates := (s.flowDepth, ⟨s.tokens.size, required, c.index, c.line, c.column⟩) :: s.candidates }

/-! ## Indentation -/

def unwind (column : Int) : List Int → Scan → Scan
  | [], s => s
  | o :: outer, s => if column < s.indent then unwind column outer { s.push .blockEnd with indent := o, outer } else s

def unwindTo (s : Scan) (column : Int) : Scan := if s.flowDepth != 0 then s else unwind column s.outer s

/-- Begins a block collection at a column, its token at a place, unless it is already open. -/
def openBlock (s : Scan) (column : Nat) (place : Nat) (t : Token) : Scan :=
  if s.indent < column then
    { s with outer := s.indent :: s.outer, indent := column, tokens := s.tokens.insertIdxIfInBounds place t }
  else s

/-! ## Names and tags -/

def isNameChar (c : Char) : Bool := c.isAlphanum || c == '-' || c == '_'

def takeAnchor (c : Cursor) : Except Error (String × Cursor) :=
  let (name, after) := c.step.takeWhile isNameChar
  let ends := isBlankOrEnd after.peek || after.peek.any ['?', ':', ',', ']', '\x7d', '%', '@', '\x60'].contains
  if name.isEmpty || !ends then .error .malformed else .ok (String.ofList name, after)

def isUriChar (c : Char) : Bool := isNameChar c || ";/?:@&=+$,.!~*'()[]".toList.contains c

def takePercents : Nat → List UInt8 → Cursor → Except Error (List Char × Cursor)
  | 0, _, _ => .error .malformed
  | fuel + 1, bytes, c =>
    if c.peek == some '%' then
      let digits := c.step.rest.take 2
      if digits.length == 2 && digits.all Text.isHex then
        takePercents fuel (bytes ++ [UInt8.ofNat (Text.numberIn 16 digits)]) (c.advance 3)
      else .error .malformed
    else match String.fromUTF8? ⟨bytes.toArray⟩ with
      | some text => .ok (text.toList, c)
      | none => .error .malformed

def takeUri : Nat → List Char → Cursor → Except Error (String × Cursor)
  | 0, _, _ => .error .malformed
  | fuel + 1, text, c =>
    let (run, c) := c.takeWhile isUriChar
    if c.peek == some '%' then do
      let (more, c) ← takePercents (c.rest.length + 1) [] c
      takeUri fuel (text ++ run ++ more) c
    else if (text ++ run).isEmpty then .error .malformed
    else .ok (String.ofList (text ++ run), c)

def uri (c : Cursor) : Except Error (String × Cursor) := takeUri (c.rest.length + 1) [] c

def takeHandle (c : Cursor) : Except Error (String × Cursor) :=
  if c.peek != some '!' then .error .malformed
  else
    let c := c.step
    if c.peek == some ' ' then .ok ("!", c)
    else
      let (name, c) := c.takeWhile isNameChar
      if c.peek == some '!' then .ok (String.ofList ('!' :: name ++ ['!']), c.step) else .error .malformed

/-- A tag: whole between angle brackets, alone, or short with a handle. -/
def takeTag (c : Cursor) : Except Error (Token × Cursor) := do
  let (t, c) ←
    if c.peekAt 1 == some '<' then do
      let (suffix, c) ← uri (c.advance 2)
      if c.peek != some '>' then throw .malformed
      pure (Token.tag none suffix, c.step)
    else if isBlankOrEnd (c.peekAt 1) then pure (Token.tag none "!", c.step)
    else do
      let word := (c.rest.drop 1).takeWhile fun ch => !(ch == ' ' || isBreak ch)
      let (handle, c) ← if word.contains '!' then takeHandle c else pure ("!", c.step)
      let (suffix, c) ← uri c
      pure (Token.tag (some handle) suffix, c)
  if !isSpaceOrEnd c.peek then throw .malformed
  return (t, c)

/-! ## Directives -/

def takeNumber (c : Cursor) : Except Error (Nat × Cursor) :=
  let (digits, c) := c.takeWhile Char.isDigit
  if digits.isEmpty then .error .malformed
  else if NumericError.digitLimit < digits.length then .error (.numeric (.tooManyDigits digits.length))
  else .ok (Text.numberIn 10 digits, c)

def takeVersion (c : Cursor) : Except Error (Token × Cursor) := do
  let (major, c) ← takeNumber c.skipSpaces
  if c.peek != some '.' then throw .malformed
  let (_, c) ← takeNumber c.step
  if !isSpaceOrEnd c.peek then throw .malformed
  return (.version major, c)

def takeHandleDirective (c : Cursor) : Except Error (Token × Cursor) := do
  let (name, c) ← takeHandle c.skipSpaces
  if c.peek != some ' ' then throw .malformed
  let (text, c) ← uri c.skipSpaces
  if !isSpaceOrEnd c.peek then throw .malformed
  return (.handle name text, c)

def takeDirective (c : Cursor) : Except Error (Token × Cursor) := do
  let (name, c) := c.step.takeWhile isNameChar
  if name.isEmpty || !isSpaceOrEnd c.peek then throw .malformed
  let (t, c) ←
    match String.ofList name with
    | "YAML" => takeVersion c
    | "TAG" => takeHandleDirective c
    | _ => pure (Token.directive, c.skipWhile (!isBreak ·))
  let c := c.skipSpaces.skipComment
  if !isBreakOrEnd c.peek then throw .malformed
  return (t, c.takeBreak.2)

/-! ## One token after another -/

def addAtTop (s : Scan) (t : Token) (c : Cursor) : Except Error Scan := do
  let s ← (s.unwindTo (-1)).dropCandidate
  return { s.push t with cursor := c, keyAllowed := false }

def openFlow (s : Scan) (t : Token) : Except Error Scan := do
  let s ← s.saveCandidate
  return { (s.push t).move 1 with flowDepth := s.flowDepth + 1, keyAllowed := true }

def closeFlow (s : Scan) (t : Token) : Except Error Scan := do
  let s ← s.dropCandidate
  return { (s.push t).move 1 with flowDepth := s.flowDepth - 1, keyAllowed := false }

def addFlowEntry (s : Scan) : Except Error Scan := do
  let s ← s.dropCandidate
  return { (s.push .flowEntry).move 1 with keyAllowed := true }

def addBlockEntry (s : Scan) : Except Error Scan := do
  if s.flowDepth == 0 && !s.keyAllowed then throw .malformed
  let s := if s.flowDepth == 0 then s.openBlock s.cursor.column s.tokens.size .blockSequence else s
  let s ← s.dropCandidate
  return { (s.push .blockEntry).move 1 with keyAllowed := true }

def addKey (s : Scan) : Except Error Scan := do
  if s.flowDepth == 0 && !s.keyAllowed then throw .malformed
  let s := if s.flowDepth == 0 then s.openBlock s.cursor.column s.tokens.size .blockMapping else s
  let s ← s.dropCandidate
  return { (s.push .key).move 1 with keyAllowed := s.flowDepth == 0 }

/-- A colon: the value of a possible key before it, or of one that was marked. -/
def addValue (s : Scan) : Except Error Scan :=
  match s.candidates.find? (·.1 == s.flowDepth) with
  | some (_, k) =>
    let s := { s with
      candidates := s.candidates.filter (·.1 != s.flowDepth)
      tokens := s.tokens.insertIdxIfInBounds k.token .key }
    let s := if s.flowDepth == 0 then s.openBlock k.column k.token .blockMapping else s
    .ok { (s.push .value).move 1 with keyAllowed := false }
  | none => do
    if s.flowDepth == 0 && !s.keyAllowed then throw .malformed
    let s := if s.flowDepth == 0 then s.openBlock s.cursor.column s.tokens.size .blockMapping else s
    let s ← { s with keyAllowed := s.flowDepth == 0 }.dropCandidate
    return (s.push .value).move 1

/-- A token that may begin a key and behind which none can. -/
def addWord (s : Scan) (take : Cursor → Except Error (Token × Cursor)) : Except Error Scan := do
  let s ← s.saveCandidate
  let (t, c) ← take s.cursor
  return { s.push t with cursor := c, keyAllowed := false }

def addQuoted (s : Scan) (double : Bool) : Except Error Scan :=
  s.addWord fun c => do
    let (text, c) ← quotedText double (c.rest.length + 1) [] c.step
    return (.scalar false text, c)

def addBlockText (s : Scan) (fold : Bool) : Except Error Scan := do
  let s ← { s with keyAllowed := true }.dropCandidate
  let (text, c) ← blockText fold s.indent s.cursor.step
  return { s.push (.scalar false (.text (String.ofList text))) with cursor := c }

def addPlain (s : Scan) : Except Error Scan := do
  let s ← s.saveCandidate
  let c := s.cursor
  let (text, crossed, c) := plainText (s.flowDepth != 0) (s.indent + 1) (c.rest.length + 1) [] [] false c
  return { s.push (.scalar true (.text (String.ofList text))) with cursor := c, keyAllowed := crossed }

/-- What a plain scalar cannot begin with. -/
def indicators : List Char := "-?:,[]\x7b\x7d#&*!|>'\"%@\x60".toList

def startsPlain (s : Scan) (ch : Char) : Bool :=
  !(isBlankOrEnd (some ch) || indicators.contains ch) ||
    (!isBlankOrEnd (s.cursor.peekAt 1) && (ch == '-' || (s.flowDepth == 0 && (ch == '?' || ch == ':'))))

def addToken (s : Scan) (ch : Char) : Except Error Scan :=
  let c := s.cursor
  let inFlow := s.flowDepth != 0
  let alone := isBlankOrEnd (c.peekAt 1)
  if c.column == 0 && ch == '%' then do
    let s ← (s.unwindTo (-1)).dropCandidate
    let (t, c) ← takeDirective c
    return { s.push t with cursor := c, keyAllowed := false }
  else if c.column == 0 && c.isSeparator then
    s.addAtTop (if ch == '-' then .documentStart else .documentEnd) (c.advance 3)
  else match ch with
    | '[' => s.openFlow .flowSequence
    | '\x7b' => s.openFlow .flowMapping
    | ']' => s.closeFlow .flowSequenceEnd
    | '\x7d' => s.closeFlow .flowMappingEnd
    | ',' => s.addFlowEntry
    | '*' => s.addWord fun c => (takeAnchor c).map fun (name, c) => (.alias name, c)
    | '&' => s.addWord fun c => (takeAnchor c).map fun (name, c) => (.anchor name, c)
    | '!' => s.addWord takeTag
    | '\'' => s.addQuoted false
    | '"' => s.addQuoted true
    | ch =>
      if ch == '-' && alone then s.addBlockEntry
      else if ch == '?' && (inFlow || alone) then s.addKey
      else if ch == ':' && (inFlow || alone) then s.addValue
      else if ch == '|' && !inFlow then s.addBlockText false
      else if ch == '>' && !inFlow then s.addBlockText true
      else if s.startsPlain ch then s.addPlain
      else .error .malformed

def skipToToken : Nat → Scan → Scan
  | 0, s => s
  | fuel + 1, s =>
    let c := s.cursor.skipSpaces.skipComment
    let (lineEnd, after) := c.takeBreak
    if lineEnd.isEmpty then { s with cursor := c }
    else skipToToken fuel { s with cursor := after, keyAllowed := s.keyAllowed || s.flowDepth == 0 }

/-- Moves to the next token: possible keys may expire and block collections end before it. -/
def settle (s : Scan) : Except Error Scan :=
  (skipToToken (s.cursor.rest.length + 1) s).dropStale.map fun s => s.unwindTo s.cursor.column

def finish (s : Scan) : Except Error Scan := (s.unwindTo (-1)).dropCandidate

/-- The tokens up to an error in the next one. -/
def fail (s : Scan) (e : Error) : Scan :=
  let sure := (s.candidates.filter fun k => !s.isStale k.2).foldl (fun n k => min n k.2.token) s.tokens.size
  { s with tokens := (s.tokens.extract 0 sure).push (.failed e) }

def next (s : Scan) : Except Error Scan := do
  let s ← s.settle
  match s.cursor.peek with
  | none => s.finish
  | some ch => s.addToken ch

def run : Nat → Scan → Scan
  | 0, s => s
  | fuel + 1, s =>
    match s.next with
    | .error e => s.fail e
    | .ok t => if s.cursor.rest.isEmpty then t else run fuel t

end Scan

/-- The tokens of a document; a byte order mark at its start is passed over. -/
def tokens (text : String) : List Token :=
  let cs := text.toList
  if !cs.all isPrintable then [.failed .malformed]
  else
    let start : Cursor := { rest := cs }
    let start := if start.peek == some byteOrderMark then start.step else start
    (Scan.run (cs.length + 2) { cursor := start }).tokens.toList

end Formwork.Yaml
