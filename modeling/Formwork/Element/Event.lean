/-
  Formwork.Element.Event: events for the analytics of a site.

  An event is built only when tracking is on and covers its kind.
-/

import Formwork.Element.Config

namespace Formwork

inductive EventKind where
  | view
  | start
  | progress
  | complete
  | abandon
  | custom
  deriving DecidableEq, Repr

instance : Keyword EventKind where
  all := [.view, .start, .progress, .complete, .abandon, .custom]
  word
    | .view => "view"
    | .start => "start"
    | .progress => "progress"
    | .complete => "complete"
    | .abandon => "abandon"
    | .custom => "custom"
  complete a := by cases a <;> decide
  injective a b := by cases a <;> cases b <;> decide

structure Event where
  kind : EventKind
  elementId : String
  visitorId : String
  sessionId : String
  time : String
  data : Value
  deriving Repr

def Tracking.covers (t : Tracking) : EventKind → Bool
  | .view => t.trackViews
  | .start => t.trackStarts
  | .progress => t.trackProgress
  | .complete => t.trackCompletions
  | .abandon => t.trackAbandonment
  | .custom => true

namespace Element

def isTracked (e : Element) (kind : EventKind) : Bool := e.tracking.any fun t => t.enabled && t.covers kind

def event? (e : Element) (kind : EventKind) (visitorId sessionId : String) (now : Timestamp) (data : Value) :
    Option Event :=
  if e.isTracked kind then some ⟨kind, e.id, visitorId, sessionId, now.text, data⟩ else none

end Element

end Formwork
