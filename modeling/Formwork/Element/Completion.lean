/-
  Formwork.Element.Completion: how much of an element is answered.
-/

import Formwork.Value

namespace Formwork

def completion (responses : Entries Value) (total : Number) : Except NumericError Int :=
  if total.same (.int 0) then .ok 0
  else percentage (.int (responses.countP (·.2.isAnswered))) total

end Formwork
