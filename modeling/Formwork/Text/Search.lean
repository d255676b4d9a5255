/-
  Formwork.Text.Search: texts inside texts.
-/

namespace Formwork.Text

def occursIn {α : Type} [BEq α] (word : List α) : List α → Bool
  | [] => word.isEmpty
  | c :: rest => word.isPrefixOf (c :: rest) || occursIn word rest

def contains (text word : String) : Bool := occursIn word.toList text.toList

end Formwork.Text
