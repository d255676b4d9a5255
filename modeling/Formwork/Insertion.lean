/-
  Formwork.Insertion: sorting by insertion.

  The items that already rise at the start, or fall and are turned round, are the sorted
  ones to begin with; each further item is put among them, behind its equals, its place
  found by halving. The order need not make sense of every pair of items: numbers that
  compare with nothing stay near where they came.
-/

namespace Formwork.Insertion

variable {α : Type} (less : α → α → Bool)

/-- The items at the start that go on from `last`, each related to the one before it, and the rest. -/
def takeRun (goesOn : α → α → Bool) (last : α) : List α → List α × List α
  | [] => ([], [])
  | x :: rest =>
    if goesOn last x then
      let (run, rest) := takeRun goesOn x rest
      (x :: run, rest)
    else ([], x :: rest)

/-- The items at the start that are in order or in the opposite order, sorted, and the rest. -/
def firstRun : List α → List α × List α
  | a :: b :: rest =>
    if less b a then
      let (run, rest) := takeRun (fun x y => less y x) b rest
      ((a :: b :: run).reverse, rest)
    else
      let (run, rest) := takeRun (fun x y => !less y x) b rest
      (a :: b :: run, rest)
  | items => (items, [])

def place (sorted : Array α) (x : α) (low high : Nat) : Nat :=
  if low < high then
    let middle := low + (high - low) / 2
    if sorted[middle]?.any (less x) then place sorted x low middle else place sorted x (middle + 1) high
  else low
termination_by high - low

def sort (items : List α) : List α :=
  let (run, rest) := firstRun less items
  (rest.foldl (fun sorted x => sorted.insertIdxIfInBounds (place less sorted x 0 sorted.size) x) run.toArray).toList

end Formwork.Insertion
