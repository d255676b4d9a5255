/-
  Formwork.Pattern.Reading: patterns as they are written.

  A written pattern is a list of characters, some of them escaped. It is read from left to
  right in steps. Each step adds an item to the innermost open group, repeats its last item,
  begins an alternative, or opens or closes a group; a group that is closed is an item of the
  one around it. Faults that the whole pattern has to be read for are kept until then: a
  look back of no fixed width, or a repetition where there must be none.
-/

import Formwork.Entries
import Formwork.Number.Basic
import Formwork.Number.Literal
import Formwork.Pattern.Node
import Formwork.Text.CharacterName
import Formwork.Text.Identifier

namespace Formwork.Pattern

inductive Error where
  | malformed
  /-- A number of repetitions not below `repetitionLimit`. -/
  | tooManyRepetitions
  | numeric (e : NumericError)
  /-- A code point not below `codeLimit`. -/
  | codeTooLarge
  /-- Options for narrow and for wide character classes at once. -/
  | clashingOptions
  /-- A look back over `lookbackLimit` characters or more. -/
  | lookbackTooWide
  deriving DecidableEq, Repr

def Error.message : Error → String
  | malformed => "malformed pattern"
  | tooManyRepetitions => "the repetition number is too large"
  | numeric e => e.message
  | codeTooLarge => "Python int too large to convert to C int"
  | clashingOptions => "ASCII and UNICODE flags are incompatible"
  | lookbackTooWide => "invalid SRE code"

def repetitionLimit : Nat := 4294967295

def groupLimit : Nat := 1073741823

/-- Code points stay below it, whether there is such a character or not. -/
def codeLimit : Nat := 0x80000000

def lookbackLimit : Nat := 0x80000000

/-- A character as it is, or after a backslash. -/
inductive Sign where
  | plain (c : Char)
  | escaped (c : Char)
  /-- A backslash at the end. -/
  | dangling
  deriving DecidableEq, Repr

def signs : List Char → List Sign
  | [] => []
  | ['\\'] => [.dangling]
  | '\\' :: c :: rest => .escaped c :: signs rest
  | c :: rest => .plain c :: signs rest

/-- An error in what stands before `rest`; a backslash that dangles there is found first. -/
def refuse (e : Error) (rest : List Sign) : Error := if rest == [.dangling] then .malformed else e

def takePlain (ok : Char → Bool) : Nat → List Sign → List Char × List Sign
  | n + 1, .plain c :: rest =>
    if ok c then
      let (cs, rest) := takePlain ok n rest
      (c :: cs, rest)
    else ([], .plain c :: rest)
  | _, rest => ([], rest)

def takeName (closing : Char) : List Sign → Except Error (String × List Sign)
  | .plain c :: rest =>
    if c == closing then .ok ("", rest)
    else (takeName closing rest).map fun (name, rest) => (String.singleton c ++ name, rest)
  | _ => .error .malformed

/-! ## Options -/

structure Options where
  ignoreCase : Bool := false
  multiline : Bool := false
  dotAll : Bool := false
  /-- Blanks and comments are passed over. -/
  spaced : Bool := false
  narrow : Bool := false
  wide : Bool := false
  /-- No repetitions. -/
  plain : Bool := false
  deriving DecidableEq, Repr

namespace Options

def set (value : Bool) (o : Options) : Char → Options
  | 'i' => { o with ignoreCase := value }
  | 'm' => { o with multiline := value }
  | 's' => { o with dotAll := value }
  | 'x' => { o with spaced := value }
  | 'a' => { o with narrow := value }
  | 'u' => { o with wide := value }
  | 't' => { o with plain := value }
  | _ => o

def letters : List Char := ['i', 'm', 's', 'x', 'a', 'u', 't']

def folding (o : Options) : Folding := if !o.ignoreCase then .exact else if o.narrow then .latin else .full

/-- Options within a group; narrow and wide replace each other. -/
def change (o : Options) (on off : List Char) : Options :=
  let o := if on.contains 'a' || on.contains 'u' then { o with narrow := false, wide := false } else o
  off.foldl (set false) (on.foldl (set true) o)

end Options

def takeLetters (rest : List Sign) : Except Error (List Char × Char × List Sign) :=
  match takePlain Options.letters.contains rest.length rest with
  | (letters, .plain c :: rest) =>
    if letters.contains 'a' && letters.contains 'u' then .error .malformed else .ok (letters, c, rest)
  | _ => .error .malformed

/-- The letters to turn on and off, and whether they hold for the whole pattern. -/
def takeOptions (rest : List Sign) : Except Error (List Char × List Char × Bool × List Sign) := do
  let (on, c, rest) ← takeLetters rest
  if c == ')' && !on.isEmpty then return (on, [], true, rest)
  if on.contains 't' then throw .malformed
  if c == ':' && !on.isEmpty then return (on, [], false, rest)
  if c != '-' then throw .malformed
  let (off, c, rest) ← takeLetters rest
  if c != ':' || off.isEmpty || off.any ['a', 'u', 't'].contains || on.any off.contains then throw .malformed
  return (on, off, false, rest)

/-! ## Escapes -/

inductive Escape where
  | code (n : Nat)
  | charClass (k : CharClass) (negated : Bool)
  | place (p : Bool → Place)
  | backref (group : Nat)

def isOctal (c : Char) : Bool := '0' ≤ c && c ≤ '7'

def takeHex (n : Nat) (rest : List Sign) : Except Error (Escape × List Sign) :=
  let (cs, rest) := takePlain Text.isHex n rest
  let code := Text.numberIn 16 cs
  if cs.length != n then .error .malformed
  else if codeLimit ≤ code then .error (refuse .codeTooLarge rest)
  else if 0x10FFFF < code then .error .malformed
  else .ok (.code code, rest)

def takeNamed : List Sign → Except Error (Escape × List Sign)
  | .plain '\x7b' :: rest => do
    let (name, rest) ← takeName '\x7d' rest
    match Text.namedCode? name with
    | some code => .ok (.code code, rest)
    | none => .error .malformed
  | _ => .error .malformed

def controlCode? : Char → Option Nat
  | 'a' => some 7
  | 'b' => some 8
  | 'f' => some 12
  | 'n' => some 10
  | 'r' => some 13
  | 't' => some 9
  | 'v' => some 11
  | '\\' => some 92
  | _ => none

def charClass? : Char → Option Escape
  | 'd' => some (.charClass .digit false)
  | 'D' => some (.charClass .digit true)
  | 's' => some (.charClass .blank false)
  | 'S' => some (.charClass .blank true)
  | 'w' => some (.charClass .word false)
  | 'W' => some (.charClass .word true)
  | _ => none

def place? : Char → Option Escape
  | 'A' => some (.place fun _ => .textStart)
  | 'Z' => some (.place fun _ => .textEnd)
  | 'b' => some (.place (.wordEdge false))
  | 'B' => some (.place (.wordEdge true))
  | _ => none

def takeCode (c : Char) (rest : List Sign) : Except Error (Escape × List Sign) :=
  match c with
  | 'x' => takeHex 2 rest
  | 'u' => takeHex 4 rest
  | 'U' => takeHex 8 rest
  | 'N' => takeNamed rest
  | c => if c.isAlphanum then .error .malformed else .ok (.code c.toNat, rest)

def takeOctal (c : Char) (rest : List Sign) : Except Error (Escape × List Sign) :=
  let (cs, rest) := takePlain isOctal 2 rest
  let n := Text.numberIn 8 (c :: cs)
  if n ≤ 0o377 then .ok (.code n, rest) else .error .malformed

def setEscape (c : Char) (rest : List Sign) : Except Error (Escape × List Sign) :=
  match controlCode? c, charClass? c with
  | some n, _ => .ok (.code n, rest)
  | none, some e => .ok (e, rest)
  | none, none => if isOctal c then takeOctal c rest else takeCode c rest

/-- Digits after a backslash: an octal code if they are three octal digits, else a group. -/
def numberEscape (c : Char) (rest : List Sign) : Except Error (Escape × List Sign) :=
  let (second, rest) := takePlain Char.isDigit 1 rest
  let (third, rest') := takePlain isOctal 1 rest
  if isOctal c && !second.isEmpty && second.all isOctal && !third.isEmpty then
    let n := Text.numberIn 8 (c :: second ++ third)
    if n ≤ 0o377 then .ok (.code n, rest') else .error .malformed
  else .ok (.backref (Text.numberIn 10 (c :: second)), rest)

def plainEscape (c : Char) (rest : List Sign) : Except Error (Escape × List Sign) :=
  match charClass? c, place? c, controlCode? c with
  | some e, _, _ | none, some e, _ => .ok (e, rest)
  | none, none, some n => .ok (.code n, rest)
  | none, none, none =>
    if c == '0' then takeOctal c rest
    else if c.isDigit then numberEscape c rest
    else takeCode c rest

/-! ## Character sets -/

def setSign : Sign → List Sign → Except Error (Escape × List Sign)
  | .plain c, rest => .ok (.code c.toNat, rest)
  | .escaped c, rest => setEscape c rest
  | .dangling, _ => .error .malformed

def Escape.setItem (narrow : Bool) : Escape → SetItem
  | .code n => .single n
  | .charClass k negated => .ofClass k negated narrow
  | _ => .range 1 0

/-- The members up to the closing bracket, which is a member itself where it comes first. -/
def setItems (narrow : Bool) : Nat → List SetItem → List Sign → Except Error (List SetItem × List Sign)
  | 0, _, _ => .error .malformed
  | _ + 1, _, [] => .error .malformed
  | fuel + 1, items, s :: rest => do
    if s == .plain ']' && !items.isEmpty then return (items.reverse, rest)
    let (low, rest) ← setSign s rest
    match rest with
    | .plain '-' :: .plain ']' :: rest => return ((.single 45 :: low.setItem narrow :: items).reverse, rest)
    | .plain '-' :: t :: rest =>
      let (high, rest) ← setSign t rest
      match low, high with
      | .code m, .code n => if n < m then throw .malformed else setItems narrow fuel (.range m n :: items) rest
      | _, _ => throw .malformed
    | rest => setItems narrow fuel (low.setItem narrow :: items) rest

/-! ## Repetitions -/

def countOf (digits : List Char) (rest : List Sign) : Except Error Nat :=
  if NumericError.digitLimit < digits.length then
    .error (refuse (.numeric (.tooManyDigits digits.length)) rest)
  else if repetitionLimit ≤ Text.numberIn 10 digits then .error (refuse .tooManyRepetitions rest)
  else .ok (Text.numberIn 10 digits)

/-- The least and the greatest number that a repetition sign stands for; braces that hold
no numbers stand for themselves. -/
def takeCounts (c : Char) (rest : List Sign) : Except Error (Option ((Nat × Option Nat) × List Sign)) :=
  match c with
  | '?' => .ok (some ((0, some 1), rest))
  | '*' => .ok (some ((0, none), rest))
  | '+' => .ok (some ((1, none), rest))
  | _ =>
    let (low, rest) := takePlain Char.isDigit rest.length rest
    let (high, closing) :=
      match rest with
      | .plain ',' :: rest => takePlain Char.isDigit rest.length rest
      | rest => (low, rest)
    match closing with
    | .plain '\x7d' :: after =>
      if low.isEmpty && rest == closing then .ok none
      else do
        let least ← countOf low after
        let most ← if high.isEmpty then pure none else (countOf high after).map some
        if most.any (· < least) then throw .malformed
        return some ((least, most), after)
    | _ => .ok none

def takeEffort : List Sign → Effort × List Sign
  | .plain '?' :: rest => (.lazy, rest)
  | .plain '+' :: rest => (.possessive, rest)
  | rest => (.greedy, rest)

def Node.canRepeat : Node → Bool
  | place _ | repeated .. => false
  | _ => true

/-! ## Groups -/

inductive Opening where
  | plain
  /-- With options of its own. -/
  | scope
  | numbered (n : Nat)
  | atomic
  /-- Back over what precedes, with the number of groups before, or ahead. -/
  | look (back : Option Nat) (negated : Bool)
  | choice (group : Nat)
  deriving DecidableEq, Repr

/-- A group that is still open: the items of its alternatives and its current items, the last ones first. -/
structure Frame where
  opening : Opening
  options : Options
  alternatives : List (List Node) := []
  items : List Node := []
  deriving Repr

structure Progress where
  rest : List Sign
  top : Frame
  /-- The groups around the innermost one. -/
  outer : List Frame := []
  /-- The widths of the groups by number, none for an open one; number 0 is not used. -/
  widths : List (Option Width) := [none]
  names : Entries Nat := []
  /-- Groups that choices depend on by number. -/
  awaited : List Nat := []
  /-- What is wrong with the parts read so far. -/
  fault : Option Error := none
  deriving Repr

namespace Progress

def add (p : Progress) (n : Node) (rest : List Sign) : Progress :=
  { p with rest, top := { p.top with items := n :: p.top.items } }

/-- The number of groups before the outermost open look back. -/
def lookbackBound (p : Progress) : Option Nat :=
  (p.top :: p.outer).reverse.findSome? fun f =>
    match f.opening with
    | .look back _ => back
    | _ => none

/-- A group can be referred to when it is closed and not part of the current look back. -/
def canRefer (p : Progress) (group : Nat) : Bool :=
  (p.widths[group]?.join).isSome && p.lookbackBound.all (group < ·)

/-- Keeps a fault for the end; a malformed pattern is that before anything else. -/
def blame (p : Progress) (e : Error) : Progress :=
  { p with fault := if p.fault == some .malformed then p.fault else some e }

def literal (o : Options) (n : Nat) : Node := .one (.of o.folding false [.single n])

def addEscape (p : Progress) (e : Escape) (rest : List Sign) : Except Error Progress :=
  let o := p.top.options
  match e with
  | .code n => .ok (p.add (literal o n) rest)
  | .charClass k negated => .ok (p.add (.one (.of o.folding false [.ofClass k negated o.narrow])) rest)
  | .place f => .ok (p.add (.place (f o.narrow)) rest)
  | .backref n => if p.canRefer n then .ok (p.add (.backref n o.folding) rest) else .error .malformed

def addSet (p : Progress) (rest : List Sign) : Except Error Progress := do
  let o := p.top.options
  let (negated, rest) :=
    match rest with
    | .plain '^' :: rest => (true, rest)
    | rest => (false, rest)
  let (items, rest) ← setItems o.narrow (rest.length + 1) [] rest
  return p.add (.one (.of o.folding negated items)) rest

def addRepetition (p : Progress) (c : Char) (rest : List Sign) : Except Error Progress := do
  match ← takeCounts c rest with
  | none => return p.add (literal p.top.options c.toNat) rest
  | some ((least, most), rest) =>
    match p.top.items with
    | item :: items =>
      if !item.canRepeat then throw .malformed
      let (effort, rest) := takeEffort rest
      let p := if p.top.options.plain then p.blame .malformed else p
      return { p with rest, top := { p.top with items := .repeated effort least most item :: items } }
    | [] => throw .malformed

def enter (p : Progress) (opening : Opening) (options : Options) (rest : List Sign) : Progress :=
  { p with rest, top := { opening, options }, outer := p.top :: p.outer }

def enterNumbered (p : Progress) (rest : List Sign) : Progress :=
  { p.enter (.numbered p.widths.length) p.top.options rest with widths := p.widths ++ [none] }

def enterNamed (p : Progress) (rest : List Sign) : Except Error Progress := do
  let (name, rest) ← takeName '>' rest
  if !Text.isIdentifier name || (p.names.get? name).isSome then throw .malformed
  return { p.enterNumbered rest with names := p.names.put name p.widths.length }

def addNamedReference (p : Progress) (rest : List Sign) : Except Error Progress := do
  let (name, rest) ← takeName ')' rest
  match p.names.get? name with
  | some n => p.addEscape (.backref n) rest
  | none => throw .malformed

/-- The number of a group: white space around it and a plus before it are allowed. -/
def groupNumber? (name : String) : Option Nat :=
  let cs := Text.trimPadding name.toList
  let cs := Literal.dropSeparators (if cs.head? == some '+' then cs.drop 1 else cs)
  if cs.isEmpty || !cs.all Text.isDigit then none else some (Text.digitsValue cs)

def enterChoice (p : Progress) (rest : List Sign) : Except Error Progress := do
  let (name, rest) ← takeName ')' rest
  let (group, awaited) ←
    if Text.isIdentifier name then
      match p.names.get? name with
      | some n => pure (n, p.awaited)
      | none => throw .malformed
    else
      match groupNumber? name with
      | some n => if n == 0 || groupLimit ≤ n then throw .malformed else pure (n, n :: p.awaited)
      | none => throw .malformed
  if p.lookbackBound.isSome && !p.canRefer group then throw .malformed
  return { p.enter (.choice group) p.top.options rest with awaited }

def atStart (p : Progress) : Bool := p.outer.isEmpty && p.top.alternatives.isEmpty && p.top.items.isEmpty

def addOptions (p : Progress) (rest : List Sign) : Except Error Progress := do
  let (on, off, whole, rest) ← takeOptions rest
  if whole then
    if !p.atStart then throw .malformed
    return { p with rest, top := { p.top with options := on.foldl (Options.set true) p.top.options } }
  return p.enter .scope (p.top.options.change on off) rest

def skipComment : List Sign → Except Error (List Sign)
  | [] => .error .malformed
  | s :: rest => if s == .plain ')' then .ok rest else skipComment rest

def addGroup (p : Progress) (rest : List Sign) : Except Error Progress :=
  let o := p.top.options
  match rest with
  | .plain '?' :: rest =>
    match rest with
    | .plain 'P' :: .plain '<' :: rest => p.enterNamed rest
    | .plain 'P' :: .plain '=' :: rest => p.addNamedReference rest
    | .plain ':' :: rest => .ok (p.enter .plain o rest)
    | .plain '#' :: rest => do return { p with rest := ← skipComment rest }
    | .plain '=' :: rest => .ok (p.enter (.look none false) o rest)
    | .plain '!' :: rest => .ok (p.enter (.look none true) o rest)
    | .plain '<' :: .plain '=' :: rest => .ok (p.enter (.look (some p.widths.length) false) o rest)
    | .plain '<' :: .plain '!' :: rest => .ok (p.enter (.look (some p.widths.length) true) o rest)
    | .plain '(' :: rest => p.enterChoice rest
    | .plain '>' :: rest => .ok (p.enter .atomic o rest)
    | rest => p.addOptions rest
  | rest => .ok (p.enterNumbered rest)

/-- Begins the next alternative; a choice has two at most. -/
def addAlternative (p : Progress) (rest : List Sign) : Except Error Progress :=
  match p.top.opening, p.top.alternatives with
  | .choice _, _ :: _ => .error .malformed
  | _, alternatives =>
    .ok { p with rest, top := { p.top with alternatives := p.top.items :: alternatives, items := [] } }

def branches (p : Progress) : List (List Node) := (p.top.items :: p.top.alternatives).reverse.map List.reverse

def body (p : Progress) : Node :=
  Node.ofAlternatives p.top.options.folding (p.branches.map fun items => items.flatMap Node.parts)

def node (p : Progress) : Node :=
  match p.top.opening with
  | .plain => .group none p.body
  | .scope => .scope p.body
  | .numbered n => .group (some n) p.body
  | .atomic => .atomic p.body
  | .look none negated => .look none negated p.body
  | .look (some _) negated => .look (some (p.body.width p.widths).1) negated p.body
  | .choice n =>
    match p.branches with
    | [yes, no] => .choice n (.ofList yes) (.ofList no)
    | branches => .choice n (.ofList branches.flatten) .empty

def widthFault? (w : Width) : Option Error :=
  if w.2 != some w.1 || repetitionLimit ≤ w.1 then some .malformed
  else if lookbackLimit ≤ w.1 then some .lookbackTooWide
  else none

def groupFault? (p : Progress) : Option Error :=
  match p.top.opening with
  | .look (some _) _ => widthFault? (p.body.width p.widths)
  | _ => none

def closedWidths (p : Progress) : List (Option Width) :=
  match p.top.opening with
  | .numbered n => p.widths.set n (some (p.body.width p.widths))
  | _ => p.widths

def close (p : Progress) (rest : List Sign) : Except Error Progress :=
  match p.outer with
  | [] => .error .malformed
  | frame :: outer =>
    let closed :=
      { p with rest, widths := p.closedWidths, outer, top := { frame with items := p.node :: frame.items } }
    .ok ((p.groupFault?.map closed.blame).getD closed)

def skipLine : List Sign → List Sign
  | [] => []
  | [.dangling] => [.dangling]
  | s :: rest => if s == .plain '\n' then rest else skipLine rest

def isSpacing (c : Char) : Bool := [' ', '\t', '\n', '\r', '\x0b', '\x0c'].contains c

def addPlain (p : Progress) (c : Char) (rest : List Sign) : Except Error Progress :=
  let o := p.top.options
  if o.spaced && isSpacing c then .ok { p with rest }
  else if o.spaced && c == '#' then .ok { p with rest := skipLine rest }
  else match c with
    | '|' => p.addAlternative rest
    | '(' => p.addGroup rest
    | '[' => p.addSet rest
    | '*' | '+' | '?' | '\x7b' => p.addRepetition c rest
    | '.' => .ok (p.add (.any o.dotAll) rest)
    | '^' => .ok (p.add (.place (.lineStart o.multiline)) rest)
    | '$' => .ok (p.add (.place (.lineEnd o.multiline)) rest)
    | c => .ok (p.add (literal o c.toNat) rest)

def run : Nat → Progress → Except Error Progress
  | 0, p => .ok p
  | fuel + 1, p =>
    match p.rest with
    | [] => .ok p
    | .plain ')' :: rest => if p.outer.isEmpty then .ok p else (p.close rest).bind (run fuel)
    | .plain c :: rest => (p.addPlain c rest).bind (run fuel)
    | .escaped c :: rest => do
      let (e, rest) ← plainEscape c rest
      (← p.addEscape e rest).run fuel
    | .dangling :: _ => .error .malformed

def finish (p : Progress) : Except Error Node :=
  if !p.outer.isEmpty then .error .malformed
  else if p.top.options.narrow && p.top.options.wide then .error .clashingOptions
  else if !p.rest.isEmpty || p.awaited.any (p.widths.length ≤ ·) then .error .malformed
  else
    match p.fault with
    | some e => .error e
    | none => .ok p.body

end Progress

def read (s : String) : Except Error Node := do
  let signs := signs s.toList
  (← Progress.run signs.length { rest := signs, top := { opening := .plain, options := {} } }).finish

end Formwork.Pattern
