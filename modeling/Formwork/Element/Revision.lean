/-
  Formwork.Element.Revision: elements with some of their fields replaced.

  An update replaces fields by name, in either spelling, and stamps the element with the
  time; an engine holds the new element from then on, or keeps the old one if the new one
  cannot be read. A persona sees the element with the title, description and tone of its
  variant and with the overrides of the variant on top. Both read the whole element again.
-/

import Formwork.Element.Any
import Formwork.Element.Check

namespace Formwork

namespace AnyElement

def update (e : AnyElement) (updates : Entries Value) (now : Timestamp) : Checked AnyElement :=
  e.amend updates [("updated_at", .scalar (.time now))]

def revise (updates : Entries Value) (now : Timestamp) : ExceptT (List Issue) (StateM AnyElement) AnyElement := do
  let revised ← (← get).update updates now
  set revised
  return revised

end AnyElement

def givenOr (s : Option String) (default : Value) : Value :=
  match s.filter (· != "") with
  | some s => .text s
  | none => default

namespace PersonaVariant

/-- What a variant replaces: the texts of the element, and then its overrides. -/
def overlay (v : PersonaVariant) (e : Element) : Entries Value :=
  (v.contentOverrides.getD []).foldl (fun es o => es.put o.1 o.2) [
    ("title", givenOr v.title (.text e.title)),
    ("description", givenOr v.description (e.description.elim .null .text)),
    ("emotional_tone", givenOr v.emotionalTone (e.emotionalTone.elim .null .text))]

end PersonaVariant

def Element.variant? (e : Element) (personaId : String) : Option PersonaVariant :=
  if personaId == "" then none else (e.personaVariants.getD []).find? (·.personaId == personaId)

namespace AnyElement

def forPersona (e : AnyElement) (personaId : String) : Checked AnyElement :=
  match e.common.variant? personaId with
  | none => .ok e
  | some v => e.amend (v.overlay e.common) []

/-- The element that an engine holds, as a persona sees it; without a persona it is seen as it is. -/
def seenBy (personaId : Option String) : ExceptT (List Issue) (StateM AnyElement) AnyElement := do
  match personaId with
  | none => get
  | some personaId => (← get).forPersona personaId

end AnyElement

end Formwork
