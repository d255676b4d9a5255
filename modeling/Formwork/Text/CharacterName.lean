/-
  Formwork.Text.CharacterName: characters by their names (Unicode 14).

  Most names are listed, in either case of letters. Two kinds follow a rule and are in
  capitals only: a Hangul syllable is named by the sounds it is made of, and a unified
  ideograph by its code point. Some further signs are named by their code points as well.
-/

import Formwork.Text.Digit
import Formwork.Text.Names.Aliases
import Formwork.Text.Names.From0000
import Formwork.Text.Names.From0900
import Formwork.Text.Names.From1400
import Formwork.Text.Names.From2000
import Formwork.Text.Names.From2600
import Formwork.Text.Names.From2C00
import Formwork.Text.Names.FromA800
import Formwork.Text.Names.From10000
import Formwork.Text.Names.From12000
import Formwork.Text.Names.From1D000
import Formwork.Text.Names.From1F000

namespace Formwork.Text

def nameRuns : List (List NameRun) := [
  namesFrom0000, namesFrom0900, namesFrom1400, namesFrom2000, namesFrom2600, namesFrom2C00, namesFromA800,
  namesFrom10000, namesFrom12000, namesFrom1D000, namesFrom1F000, nameAliases]

/-! ## Syllables -/

def syllableOnsets : List String := [
  "G", "GG", "N", "D", "DD", "R", "M", "B", "BB", "S", "SS", "", "J", "JJ", "C", "K", "T", "P", "H"]

def syllableVowels : List String := [
  "A", "AE", "YA", "YAE", "EO", "E", "YEO", "YE", "O", "WA", "WAE", "OE", "YO", "U", "WEO", "WE", "WI", "YU", "EU",
  "YI", "I"]

def syllableCodas : List String := [
  "", "G", "GG", "GS", "N", "NJ", "NH", "D", "L", "LG", "LM", "LB", "LS", "LT", "LP", "LH", "M", "B", "BS", "S", "SS",
  "NG", "J", "C", "K", "T", "P", "H"]

/-- The code point of a Hangul syllable: vowels lie between its onset and its coda. -/
def syllable? (name : List Char) : Option Nat := do
  let isVowel (c : Char) : Bool := ['A', 'E', 'I', 'O', 'U', 'W', 'Y'].contains c
  let (onset, rest) := name.span fun c => !isVowel c
  let (vowel, coda) := rest.span isVowel
  let i ← syllableOnsets.idxOf? (String.ofList onset)
  let j ← syllableVowels.idxOf? (String.ofList vowel)
  let k ← syllableCodas.idxOf? (String.ofList coda)
  return 0xAC00 + (i * syllableVowels.length + j) * syllableCodas.length + k

/-! ## Names with code points -/

def ideographs : List (Nat × Nat) := [
  (0x3400, 0x4DBF), (0x4E00, 0x9FFF), (0x20000, 0x2A6DF), (0x2A700, 0x2B738), (0x2B740, 0x2B81D),
  (0x2B820, 0x2CEA1), (0x2CEB0, 0x2EBE0), (0x30000, 0x3134A)]

/-- How names begin that end in a code point, and the code points. -/
def numberedNames : List (String × List (Nat × Nat)) := [
  ("CJK COMPATIBILITY IDEOGRAPH-", [(0xF900, 0xFA6D), (0xFA70, 0xFAD9), (0x2F800, 0x2FA1D)]),
  ("KHITAN SMALL SCRIPT CHARACTER-", [(0x18B00, 0x18CD5)]),
  ("NUSHU CHARACTER-", [(0x1B170, 0x1B2FB)])]

def codeIn? (ranges : List (Nat × Nat)) (digits : List Char) : Option Nat :=
  let n := numberIn 16 digits
  if (digits.length == 4 || digits.length == 5) && digits.all (fun c => isHex c && !c.isLower) &&
      ranges.any (fun r => r.1 ≤ n && n ≤ r.2) then
    some n
  else none

def shortCodeIn? (ranges : List (Nat × Nat)) (digits : List Char) : Option Nat :=
  if digits.head? == some '0' then none else codeIn? ranges digits

def namedCode? (name : String) : Option Nat :=
  let cs := name.toList
  match "HANGUL SYLLABLE ".toList.isPrefixOf? cs, "CJK UNIFIED IDEOGRAPH-".toList.isPrefixOf? cs with
  | some sounds, _ => syllable? sounds
  | none, some digits => codeIn? ideographs digits
  | none, none =>
    let cs := cs.map Char.toUpper
    (numberedNames.findSome? fun (start, ranges) => (start.toList.isPrefixOf? cs).bind (shortCodeIn? ranges)).or
      (nameRuns.findSome? fun runs => runs.findSome? (·.code? cs))

end Formwork.Text
