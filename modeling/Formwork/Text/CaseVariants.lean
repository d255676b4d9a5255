/-
  Formwork.Text.CaseVariants: characters that are alike whatever their case.

  Two characters are alike when their lower-case letters are, and a few lower-case letters
  are alike because they share a capital. A character has two cases if it differs from its
  lower-case letter or from its capital.
-/

import Formwork.Text.Lowercase

namespace Formwork.Text

def sharedCapitals : List (List Nat) := [
  [105, 305], [115, 383], [181, 956], [837, 953, 8126], [912, 8147], [944, 8163], [946, 976], [949, 1013], [952, 977],
  [954, 1008], [960, 982], [961, 1009], [962, 963], [966, 981], [1074, 7296], [1076, 7297], [1086, 7298],
  [1089, 7299], [1090, 7300, 7301], [1098, 7302], [1123, 7303], [7304, 42571], [7777, 7835], [64261, 64262]]

/-- The single lower-case letter of a letter; a capital I with a dot has the plain one. -/
def lowerLetter (c : Char) : Char := if c == 'İ' then 'i' else lowerChar c

def CaseRun.capital? (r : CaseRun) (n : Nat) : Option Nat :=
  if r.image ≤ n && n - r.image ≤ r.last - r.first && (n - r.image) % r.step == 0 then
    some (r.first + (n - r.image))
  else none

def capitalsOf (n : Nat) : List Nat := (if n == 105 then [304] else []) ++ caseRuns.filterMap (·.capital? n)

/-- Letters with a capital, or several of which this is the first, that has another lower-case letter or none. -/
def capitalRuns : List CaseRun := [
  ⟨181, 181, 1, 924⟩, ⟨223, 223, 1, 83⟩, ⟨305, 305, 1, 73⟩, ⟨329, 329, 1, 700⟩, ⟨383, 383, 1, 83⟩,
  ⟨453, 453, 1, 452⟩, ⟨456, 456, 1, 455⟩, ⟨459, 459, 1, 458⟩, ⟨496, 496, 1, 74⟩, ⟨498, 498, 1, 497⟩,
  ⟨837, 837, 1, 921⟩, ⟨912, 912, 1, 921⟩, ⟨944, 944, 1, 933⟩, ⟨962, 962, 1, 931⟩, ⟨976, 976, 1, 914⟩,
  ⟨977, 977, 1, 920⟩, ⟨981, 981, 1, 934⟩, ⟨982, 982, 1, 928⟩, ⟨1008, 1008, 1, 922⟩, ⟨1009, 1009, 1, 929⟩,
  ⟨1013, 1013, 1, 917⟩, ⟨1415, 1415, 1, 1333⟩, ⟨7296, 7296, 1, 1042⟩, ⟨7297, 7297, 1, 1044⟩, ⟨7298, 7298, 1, 1054⟩,
  ⟨7299, 7300, 1, 1057⟩, ⟨7301, 7301, 1, 1058⟩, ⟨7302, 7302, 1, 1066⟩, ⟨7303, 7303, 1, 1122⟩,
  ⟨7304, 7304, 1, 42570⟩, ⟨7830, 7830, 1, 72⟩, ⟨7831, 7831, 1, 84⟩, ⟨7832, 7832, 1, 87⟩, ⟨7833, 7833, 1, 89⟩,
  ⟨7834, 7834, 1, 65⟩, ⟨7835, 7835, 1, 7776⟩, ⟨8016, 8016, 1, 933⟩, ⟨8018, 8018, 1, 933⟩, ⟨8020, 8020, 1, 933⟩,
  ⟨8022, 8022, 1, 933⟩, ⟨8064, 8071, 1, 7944⟩, ⟨8072, 8079, 1, 7944⟩, ⟨8080, 8087, 1, 7976⟩, ⟨8088, 8095, 1, 7976⟩,
  ⟨8096, 8103, 1, 8040⟩, ⟨8104, 8111, 1, 8040⟩, ⟨8114, 8114, 1, 8122⟩, ⟨8115, 8115, 1, 913⟩, ⟨8116, 8116, 1, 902⟩,
  ⟨8118, 8118, 1, 913⟩, ⟨8119, 8119, 1, 913⟩, ⟨8124, 8124, 1, 913⟩, ⟨8126, 8126, 1, 921⟩, ⟨8130, 8130, 1, 8138⟩,
  ⟨8131, 8131, 1, 919⟩, ⟨8132, 8132, 1, 905⟩, ⟨8134, 8134, 1, 919⟩, ⟨8135, 8135, 1, 919⟩, ⟨8140, 8140, 1, 919⟩,
  ⟨8146, 8146, 1, 921⟩, ⟨8147, 8147, 1, 921⟩, ⟨8150, 8150, 1, 921⟩, ⟨8151, 8151, 1, 921⟩, ⟨8162, 8162, 1, 933⟩,
  ⟨8163, 8163, 1, 933⟩, ⟨8164, 8164, 1, 929⟩, ⟨8166, 8166, 1, 933⟩, ⟨8167, 8167, 1, 933⟩, ⟨8178, 8178, 1, 8186⟩,
  ⟨8179, 8179, 1, 937⟩, ⟨8180, 8180, 1, 911⟩, ⟨8182, 8182, 1, 937⟩, ⟨8183, 8183, 1, 937⟩, ⟨8188, 8188, 1, 937⟩,
  ⟨64256, 64256, 1, 70⟩, ⟨64257, 64257, 1, 70⟩, ⟨64258, 64258, 1, 70⟩, ⟨64259, 64259, 1, 70⟩,
  ⟨64260, 64260, 1, 70⟩, ⟨64261, 64261, 1, 83⟩, ⟨64262, 64262, 1, 83⟩, ⟨64275, 64275, 1, 1348⟩,
  ⟨64276, 64276, 1, 1348⟩, ⟨64277, 64277, 1, 1348⟩, ⟨64278, 64278, 1, 1358⟩, ⟨64279, 64279, 1, 1348⟩]

def capitalOf (n : Nat) : Nat :=
  ((capitalRuns.findSome? (·.image? n)).or (caseRuns.findSome? (·.capital? n))).getD n

def hasCase (c : Char) : Bool := lowerLetter c != c || capitalOf c.toNat != c.toNat

def caseVariants (c : Char) : List Nat :=
  let n := (lowerLetter c).toNat
  ((sharedCapitals.find? (·.contains n)).getD [n]).flatMap fun m => m :: capitalsOf m

/-- The same among the Latin letters without marks; other characters stand alone. -/
def latinVariants (c : Char) : List Nat :=
  if c.isUpper then [c.toNat, c.toNat + 32] else if c.isLower then [c.toNat, c.toNat - 32] else [c.toNat]

end Formwork.Text
