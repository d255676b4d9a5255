/-
  Formwork.Element.Audit: the report on an element of any kind.
-/

import Formwork.Calculator.Check
import Formwork.Element.Any
import Formwork.Quiz.Check
import Formwork.Survey.Check

namespace Formwork.AnyElement

def check : AnyElement → Except NumericError Report
  | quiz q => .ok q.check
  | calculator c => c.check
  | survey s => .ok s.check

end Formwork.AnyElement
