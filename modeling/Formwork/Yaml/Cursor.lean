/-
  Formwork.Yaml.Cursor: a place in a YAML document.

  Lines end in a line feed, a carriage return, both together, or one of three further
  separators. A byte order mark takes up no column.
-/

namespace Formwork.Yaml

def isBreak (c : Char) : Bool := c == '\n' || c == '\r' || c == '\u0085' || c == '\u2028' || c == '\u2029'

def isBreakOrEnd (c : Option Char) : Bool := c.all isBreak

def isSpaceOrEnd (c : Option Char) : Bool := c.all fun c => c == ' ' || isBreak c

def isBlankOrEnd (c : Option Char) : Bool := c.all fun c => c == ' ' || c == '\t' || isBreak c

def byteOrderMark : Char := '\uFEFF'

def isPrintable (c : Char) : Bool :=
  let n := c.toNat
  c == '\t' || c == '\n' || c == '\r' || (0x20 ≤ n && n ≤ 0x7E) || n == 0x85 ||
    (0xA0 ≤ n && n ≤ 0xD7FF) || (0xE000 ≤ n && n ≤ 0xFFFD) || 0x10000 ≤ n

structure Cursor where
  rest : List Char
  index : Nat := 0
  line : Nat := 0
  column : Nat := 0
  deriving Repr

namespace Cursor

def peek (c : Cursor) : Option Char := c.rest.head?

def peekAt (c : Cursor) (n : Nat) : Option Char := c.rest[n]?

def step (c : Cursor) : Cursor :=
  match c.rest with
  | [] => c
  | ch :: rest =>
    let endsLine := isBreak ch && !(ch == '\r' && rest.head? == some '\n')
    { rest
      index := c.index + 1
      line := if endsLine then c.line + 1 else c.line
      column := if endsLine then 0 else if ch == byteOrderMark then c.column else c.column + 1 }

def advance : Nat → Cursor → Cursor
  | 0, c => c
  | n + 1, c => advance n c.step

def takeWhile (ok : Char → Bool) (c : Cursor) : List Char × Cursor :=
  let run := c.rest.takeWhile ok
  (run, c.advance run.length)

def skipWhile (ok : Char → Bool) (c : Cursor) : Cursor := (c.takeWhile ok).2

def skipSpaces (c : Cursor) : Cursor := c.skipWhile (· == ' ')

def skipComment (c : Cursor) : Cursor := if c.peek == some '#' then c.skipWhile (!isBreak ·) else c

/-- A line end as it counts in a text, none where there is none. -/
def takeBreak (c : Cursor) : List Char × Cursor :=
  match c.rest with
  | '\r' :: '\n' :: _ => (['\n'], c.advance 2)
  | ch :: _ =>
    if ch == '\u2028' || ch == '\u2029' then ([ch], c.step)
    else if isBreak ch then (['\n'], c.step)
    else ([], c)
  | [] => ([], c)

/-- Three equal signs on their own, which separate documents. -/
def isSeparator (c : Cursor) : Bool :=
  (c.rest.take 3 == ['-', '-', '-'] || c.rest.take 3 == ['.', '.', '.']) && isBlankOrEnd (c.peekAt 3)

end Cursor

end Formwork.Yaml
