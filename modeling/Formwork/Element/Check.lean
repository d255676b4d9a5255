/-
  Formwork.Element.Check: what every element has to have.
-/

import Formwork.Element.Config
import Formwork.Element.Report

namespace Formwork

/-- Enabled lead capture asks for something, and should ask for a way to get in touch. -/
def LeadCapture.check (l : LeadCapture) : Report :=
  ⟨Defect.when l.fields.isEmpty "leadCapture.fields" "Lead capture is enabled but no fields are defined"
      "LEAD_CAPTURE_NO_FIELDS",
    Warning.when (!l.fields.any fun f => f.type == .email || f.type == .phone) "leadCapture.fields"
      "Lead capture has no email or phone field"⟩

def isGiven (s : Option String) : Bool := s.any (· != "")

def FollowUp.check (f : FollowUp) : Report :=
  ⟨Defect.when (f.type == .redirect && !isGiven f.destination) "followUp.destination"
      "Redirect URL is required for redirect action" "MISSING_REDIRECT_URL" ++
    Defect.when (f.type == .download && !isGiven f.destination) "followUp.destination"
      "Download URL is required for download action" "MISSING_DOWNLOAD_URL",
    []⟩

namespace Element

def checkIdentity (e : Element) : Report :=
  ⟨Defect.when (e.id == "") "id" "Element ID is required" "MISSING_ID" ++
    Defect.when (e.title == "") "title" "Element title is required" "MISSING_TITLE" ++
    Defect.when (e.websiteId == "") "websiteId" "Website ID is required" "MISSING_WEBSITE_ID",
    []⟩

def activeLeadCapture (e : Element) : Option LeadCapture := e.leadCapture.filter (·.enabled)

def check (e : Element) : Report :=
  e.checkIdentity ++ (e.activeLeadCapture.elim {} LeadCapture.check) ++ (e.followUp.elim {} FollowUp.check)

end Element

end Formwork
