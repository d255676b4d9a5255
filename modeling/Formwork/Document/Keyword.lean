/-
  Formwork.Document.Keyword: types whose values are written as fixed words.
-/

namespace Formwork

class Keyword (α : Type) where
  all : List α
  word : α → String
  complete : ∀ a, a ∈ all
  injective : ∀ a b, word a = word b → a = b

def Keyword.find? (α : Type) [Keyword α] (s : String) : Option α := (all : List α).find? fun a => word a == s

theorem Keyword.find?_word {α : Type} [Keyword α] (a : α) : Keyword.find? α (word a) = some a := by
  unfold Keyword.find?
  cases h : (all : List α).find? fun b => word b == word a with
  | none => simpa using List.find?_eq_none.1 h a (complete a)
  | some b => rw [injective b a (by simpa using List.find?_some h)]

end Formwork
