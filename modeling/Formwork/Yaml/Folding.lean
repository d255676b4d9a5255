/-
  Formwork.Yaml.Folding: the texts of scalars, over one line or several.

  Plain and quoted scalars fold lines: a single line end counts as a space, and of several
  the first is dropped. Block scalars keep their lines (`|`) or fold those that begin with
  a letter (`>`), and end as their header says.
-/

import Formwork.Text.Digit
import Formwork.Yaml.Cursor
import Formwork.Yaml.Error

namespace Formwork.Yaml

/-- A line end and the empty lines behind it, folded. -/
def folded (lineEnd breaks : List Char) : List Char :=
  if lineEnd != ['\n'] then lineEnd ++ breaks else if breaks.isEmpty then [' '] else breaks

/-! ## Plain scalars -/

def isFlowSign (c : Char) : Bool := [',', '[', ']', '\x7b', '\x7d'].contains c

def stopsPlain (inFlow : Bool) (c : Char) (next : Option Char) : Bool :=
  isBlankOrEnd (some c) ||
    (c == ':' && (isBlankOrEnd next || (inFlow && next.any isFlowSign))) ||
    (inFlow && (c == '?' || isFlowSign c))

def plainLength (inFlow : Bool) : List Char → Nat
  | [] => 0
  | c :: rest => if stopsPlain inFlow c rest.head? then 0 else plainLength inFlow rest + 1

/-- Spaces and line ends behind the first line end of a plain scalar; none at a separator of documents. -/
def plainBreaks : Nat → List Char → Cursor → Option (List Char) × Cursor
  | 0, breaks, c => (some breaks, c)
  | fuel + 1, breaks, c =>
    match c.peek with
    | some ' ' => plainBreaks fuel breaks c.step
    | some ch =>
      if isBreak ch then
        let (lineEnd, c) := c.takeBreak
        if c.isSeparator then (none, c) else plainBreaks fuel (breaks ++ lineEnd) c
      else (some breaks, c)
    | none => (some breaks, c)

/-- What stands between two words of a plain scalar, empty if it ends here, and whether a line ended. -/
def plainSpaces (c : Cursor) : List Char × Bool × Cursor :=
  let (spaces, c) := c.takeWhile (· == ' ')
  let (lineEnd, after) := c.takeBreak
  if lineEnd.isEmpty then (spaces, false, c)
  else if after.isSeparator then ([], true, after)
  else
    let (breaks, c) := plainBreaks (after.rest.length + 1) [] after
    ((breaks.map (folded lineEnd)).getD [], true, c)

/-- A plain scalar from `text` on: its text, whether it ended on a new line, and the place behind it. -/
def plainText (inFlow : Bool) (indent : Int) :
    Nat → List Char → List Char → Bool → Cursor → List Char × Bool × Cursor
  | 0, text, _, crossed, c => (text, crossed, c)
  | fuel + 1, text, spaces, crossed, c =>
    let n := plainLength inFlow c.rest
    if c.peek == some '#' || n == 0 then (text, crossed, c)
    else
      let text := text ++ spaces ++ c.rest.take n
      let (spaces, crossed, c) := plainSpaces (c.advance n)
      if spaces.isEmpty || c.peek == some '#' || (!inFlow && (c.column : Int) < indent) then (text, crossed, c)
      else plainText inFlow indent fuel text spaces crossed c

/-! ## Quoted scalars -/

def escaped? : Char → Option Char
  | '0' => some '\x00'
  | 'a' => some '\x07'
  | 'b' => some '\x08'
  | 't' | '\t' => some '\t'
  | 'n' => some '\n'
  | 'v' => some '\x0b'
  | 'f' => some '\x0c'
  | 'r' => some '\r'
  | 'e' => some '\x1b'
  | ' ' => some ' '
  | '"' => some '"'
  | '\\' => some '\\'
  | '/' => some '/'
  | 'N' => some '\u0085'
  | '_' => some '\u00a0'
  | 'L' => some '\u2028'
  | 'P' => some '\u2029'
  | _ => none

def codeLength? : Char → Option Nat
  | 'x' => some 2
  | 'u' => some 4
  | 'U' => some 8
  | _ => none

def checkCode (n : Nat) : Except Error Nat := if n < 0x110000 then .ok n else .error (.noCharacter n)

def quotedBreaks : Nat → List Char → Cursor → Except Error (List Char × Cursor)
  | 0, breaks, c => .ok (breaks, c)
  | fuel + 1, breaks, c =>
    if c.isSeparator then .error .malformed
    else
      let c := c.skipWhile fun ch => ch == ' ' || ch == '\t'
      let (lineEnd, after) := c.takeBreak
      if lineEnd.isEmpty then .ok (breaks, c) else quotedBreaks fuel (breaks ++ lineEnd) after

def quotedSpaces (c : Cursor) : Except Error (List Char × Cursor) :=
  let (spaces, c) := c.takeWhile fun ch => ch == ' ' || ch == '\t'
  let (lineEnd, after) := c.takeBreak
  if lineEnd.isEmpty then .ok (spaces, c)
  else (quotedBreaks (after.rest.length + 1) [] after).map fun (breaks, c) => (folded lineEnd breaks, c)

def quotedEscape (c : Cursor) : Except Error (List Nat × Cursor) :=
  match c.peek with
  | none => .error .malformed
  | some ch =>
    match escaped? ch, codeLength? ch with
    | some x, _ => .ok ([x.toNat], c.step)
    | none, some n =>
      let digits := c.step.rest.take n
      if digits.length == n && digits.all Text.isHex then
        (checkCode (Text.numberIn 16 digits)).map fun code => ([code], c.advance (n + 1))
      else .error .malformed
    | none, none =>
      let (lineEnd, after) := c.takeBreak
      if lineEnd.isEmpty then .error .malformed
      else (quotedBreaks (after.rest.length + 1) [] after).map fun (breaks, c) => (breaks.map Char.toNat, c)

/-- A quoted scalar behind its opening quote, its code points so far in reverse; only between
double quotes do backslashes escape. -/
def quotedText (double : Bool) : Nat → List Nat → Cursor → Except Error (Text.Points × Cursor)
  | 0, _, _ => .error .malformed
  | fuel + 1, done, c =>
    match c.peek with
    | none => .error .malformed
    | some ch =>
      if ch == ' ' || ch == '\t' || isBreak ch then do
        let (spaces, c) ← quotedSpaces c
        quotedText double fuel (spaces.reverse.map Char.toNat ++ done) c
      else if double && ch == '\\' then do
        let (codes, c) ← quotedEscape c.step
        quotedText double fuel (codes.reverse ++ done) c
      else if !double && ch == '\'' && c.peekAt 1 == some '\'' then
        quotedText double fuel (ch.toNat :: done) (c.advance 2)
      else if ch == (if double then '"' else '\'') then .ok (.ofCodes done.reverse, c.step)
      else quotedText double fuel (ch.toNat :: done) c.step

/-! ## Block scalars -/

/-- What becomes of the line ends behind a block scalar: one is kept by default. -/
inductive Chomp where
  | clip
  | strip
  | keep
  deriving DecidableEq, Repr

def chomp? : Option Char → Option Chomp
  | some '+' => some .keep
  | some '-' => some .strip
  | _ => none

def takeDepth (c : Cursor) : Except Error (Option Nat × Cursor) :=
  match c.peek with
  | some ch =>
    if ch == '0' then .error .malformed
    else if ch.isDigit then .ok (some (ch.toNat - 48), c.step)
    else .ok (none, c)
  | none => .ok (none, c)

/-- The header of a block scalar: a sign and a depth in either order. -/
def blockHeader (c : Cursor) : Except Error (Chomp × Option Nat × Cursor) := do
  let (chomp, depth, c) ←
    match chomp? c.peek with
    | some chomp => do
      let (depth, c) ← takeDepth c.step
      pure (chomp, depth, c)
    | none => do
      let (depth, c) ← takeDepth c
      match depth, chomp? c.peek with
      | some _, some chomp => pure (chomp, depth, c.step)
      | _, _ => pure (.clip, depth, c)
  if !isSpaceOrEnd c.peek then throw .malformed
  let c := c.skipSpaces.skipComment
  if !isBreakOrEnd c.peek then throw .malformed
  return (chomp, depth, c.takeBreak.2)

def skipIndent (n : Nat) (c : Cursor) : Cursor :=
  c.advance ((c.rest.take (n - c.column)).takeWhile (· == ' ')).length

def blockBreaks (n : Nat) : Nat → List Char → Cursor → List Char × Cursor
  | 0, breaks, c => (breaks, c)
  | fuel + 1, breaks, c =>
    let c := skipIndent n c
    let (lineEnd, after) := c.takeBreak
    if lineEnd.isEmpty then (breaks, c) else blockBreaks n fuel (breaks ++ lineEnd) after

/-- Empty lines of any indentation, and the greatest one. -/
def blockIndent : Nat → List Char → Nat → Cursor → List Char × Nat × Cursor
  | 0, breaks, deepest, c => (breaks, deepest, c)
  | fuel + 1, breaks, deepest, c =>
    let c := c.skipSpaces
    let deepest := max deepest c.column
    let (lineEnd, after) := c.takeBreak
    if lineEnd.isEmpty then (breaks, deepest, c) else blockIndent fuel (breaks ++ lineEnd) deepest after

def startsBlank (c : Cursor) : Bool := c.peek == some ' ' || c.peek == some '\t'

/-- The lines of a block scalar that stand at column `n`: the text, its last line end and the empty lines behind it. -/
def blockLines (fold : Bool) (n : Nat) :
    Nat → List Char → List Char → Cursor → List Char × List Char × List Char × Cursor
  | 0, text, breaks, c => (text, [], breaks, c)
  | fuel + 1, text, breaks, c =>
    let blank := startsBlank c
    let (line, c) := c.takeWhile (!isBreak ·)
    let (lineEnd, c) := c.takeBreak
    let text := text ++ breaks ++ line
    let (breaks, c) := blockBreaks n (c.rest.length + 1) [] c
    if c.column != n || c.peek.isNone then (text, lineEnd, breaks, c)
    else if fold && lineEnd == ['\n'] && !blank && !startsBlank c then
      blockLines fold n fuel (if breaks.isEmpty then text ++ [' '] else text) breaks c
    else blockLines fold n fuel (text ++ lineEnd) breaks c

def blockText (fold : Bool) (indent : Int) (c : Cursor) : Except Error (List Char × Cursor) := do
  let (chomp, depth, c) ← blockHeader c
  let least := (max (indent + 1) 1).toNat
  let (breaks, n, c) :=
    match depth with
    | some depth =>
      let n := least + depth - 1
      let (breaks, c) := blockBreaks n (c.rest.length + 1) [] c
      (breaks, n, c)
    | none =>
      let (breaks, deepest, c) := blockIndent (c.rest.length + 1) [] 0 c
      (breaks, max least deepest, c)
  let (text, lineEnd, breaks, c) :=
    if c.column == n && c.peek.isSome then blockLines fold n (c.rest.length + 1) [] breaks c else ([], [], breaks, c)
  return (text ++ (if chomp == .strip then [] else lineEnd) ++ (if chomp == .keep then breaks else []), c)

end Formwork.Yaml
