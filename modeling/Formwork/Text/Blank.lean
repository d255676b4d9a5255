/-
  Formwork.Text.Blank: white space, and texts without it.

  Blank are the separators of Unicode (spaces, line and paragraph separators) and the
  control characters that move the writing position or separate records. The zero-width
  space is not blank.
-/

namespace Formwork.Text

def isBlank (c : Char) : Bool :=
  let n := c.toNat
  (9 ≤ n && n ≤ 13) || (28 ≤ n && n ≤ 32) || n == 0x85 || n == 0xA0 || n == 0x1680 ||
    (0x2000 ≤ n && n ≤ 0x200A) || n == 0x2028 || n == 0x2029 || n == 0x202F || n == 0x205F || n == 0x3000

def trimLeft (cs : List Char) : List Char := cs.dropWhile isBlank

def trimRight (cs : List Char) : List Char := (cs.reverse.dropWhile isBlank).reverse

def strip (s : String) : String := String.ofList (trimRight (trimLeft s.toList))

/-- White space that may stand around a number: blanks other than the separators of records. -/
def isPadding (c : Char) : Bool := isBlank c && !(28 ≤ c.toNat && c.toNat ≤ 31)

def trimPadding (cs : List Char) : List Char := ((cs.dropWhile isPadding).reverse.dropWhile isPadding).reverse

def isBlankText (s : String) : Bool := s.toList.all isBlank

end Formwork.Text
