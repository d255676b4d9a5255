/-
  Formwork.Text.Points: what a text with escapes spells.

  An escape may name any code point, and so also one half of a surrogate pair, which is no
  character. Most spellings are texts; the others keep their code points. Quoted, a half is
  escaped like an unprintable character; shown as a text, each of its three bytes becomes a
  replacement character.
-/

import Formwork.Text.Lowercase
import Formwork.Text.Quoted

namespace Formwork.Text

def isSurrogate (n : Nat) : Bool := 0xD800 ≤ n && n < 0xE000

inductive Points where
  | text (s : String)
  /-- Code points with surrogates among them. -/
  | broken (codes : List Nat)
  deriving DecidableEq, Repr

namespace Points

def ofCodes (codes : List Nat) : Points :=
  if codes.any isSurrogate then .broken codes else .text (String.ofList (codes.map Char.ofNat))

def codes : Points → List Nat
  | text s => s.toList.map Char.toNat
  | broken codes => codes

def shown : Points → String
  | text s => s
  | broken codes =>
    String.ofList (codes.flatMap fun n => if isSurrogate n then List.replicate 3 '\uFFFD' else [Char.ofNat n])

def quoteCode (q : Char) (n : Nat) : List Char :=
  if isSurrogate n then ['\\', 'u'] ++ hex 4 n else quoteChar q (Char.ofNat n)

def quoted : Points → String
  | text s => Text.quoted s
  | broken codes =>
    let q := quoteFor (codes.map Char.ofNat)
    String.ofList ([q] ++ codes.flatMap (quoteCode q) ++ [q])

/-- Lower case; a surrogate ends a word. -/
def lowerCodes (codes : List Nat) : List Nat :=
  let lowered (run : List Nat) : List Nat :=
    if run.any isSurrogate then run
    else (Text.lower (String.ofList (run.map Char.ofNat))).toList.map Char.toNat
  ((codes.splitBy fun a b => isSurrogate a == isSurrogate b).map lowered).flatten

def lower : Points → Points
  | text s => .text (Text.lower s)
  | broken codes => .broken (lowerCodes codes)

end Points

end Formwork.Text
