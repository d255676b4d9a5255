/-
  Formwork.Element.Submission: what a visitor sends back.

  A response may be incomplete, so every field is optional. The three kinds of elements add
  the answers or values that they evaluate.
-/

import Formwork.Document.Schema

namespace Formwork

inductive DeviceKind where
  | desktop
  | tablet
  | mobile
  deriving DecidableEq, Repr

instance : Keyword DeviceKind where
  all := [.desktop, .tablet, .mobile]
  word
    | .desktop => "desktop"
    | .tablet => "tablet"
    | .mobile => "mobile"
  complete a := by cases a <;> decide
  injective a b := by cases a <;> cases b <;> decide

structure Submission where
  id : Option String := none
  elementId : Option String := none
  websiteId : Option String := none
  visitorId : Option String := none
  sessionId : Option String := none
  pageUrl : Option String := none
  responses : Entries Value := []
  completed : Bool := false
  completionPercentage : Float := 0
  startedAt : Option Timestamp := none
  completedAt : Option Timestamp := none
  timeSpentSeconds : Option Float := none
  deviceType : Option DeviceKind := none
  userAgent : Option String := none
  referrer : Option String := none
  utmSource : Option String := none
  utmMedium : Option String := none
  utmCampaign : Option String := none
  email : Option String := none
  name : Option String := none
  phone : Option String := none
  company : Option String := none
  customFields : Option (Entries Value) := none
  detectedPersonaId : Option String := none
  personaConfidence : Option Float := none
  deriving Repr

/-- The fields of a response in document order, those of its kind at the end. -/
abbrev Submission.Row (ρ : Type) : Type :=
  Option String × Option String × Option String × Option String × Option String × Option String × Entries Value ×
  Bool × Float × Option Timestamp × Option Timestamp × Option Float × Option DeviceKind × Option String ×
  Option String × Option String × Option String × Option String × Option String × Option String × Option String ×
  Option String × Option (Entries Value) × Option String × Option Float × ρ

def Submission.fields {ρ : Type} (rest : Fields ρ) : Fields (Submission.Row ρ) :=
  .opt "id" .text <|
  .opt "element_id" .text <|
  .opt "website_id" .text <|
  .opt "visitor_id" .text <|
  .opt "session_id" .text <|
  .opt "page_url" .text <|
  .or "responses" (.entries .anything) [] <|
  .or "completed" .flag false <|
  .or "completion_percentage" (.decimal none) 0 <|
  .opt "started_at" .timestamp <|
  .opt "completed_at" .timestamp <|
  .opt "time_spent_seconds" (.decimal none) <|
  .opt "device_type" (.word inferInstance) <|
  .opt "user_agent" .text <|
  .opt "referrer" .text <|
  .opt "utm_source" .text <|
  .opt "utm_medium" .text <|
  .opt "utm_campaign" .text <|
  .opt "email" .text <|
  .opt "name" .text <|
  .opt "phone" .text <|
  .opt "company" .text <|
  .opt "custom_fields" (.entries .anything) <|
  .opt "detected_persona_id" .text <|
  .opt "persona_confidence" (.decimal none) <|
  rest

def Submission.ofRow {ρ : Type} : Submission.Row ρ → Submission × ρ
  | (id, elementId, websiteId, visitorId, sessionId, pageUrl, responses, completed, completionPercentage, startedAt,
     completedAt, timeSpentSeconds, deviceType, userAgent, referrer, utmSource, utmMedium, utmCampaign, email, name,
     phone, company, customFields, detectedPersonaId, personaConfidence, rest) =>
    (⟨id, elementId, websiteId, visitorId, sessionId, pageUrl, responses, completed, completionPercentage, startedAt,
      completedAt, timeSpentSeconds, deviceType, userAgent, referrer, utmSource, utmMedium, utmCampaign, email, name,
      phone, company, customFields, detectedPersonaId, personaConfidence⟩,
      rest)

def Submission.toRow {ρ : Type} : Submission × ρ → Submission.Row ρ
  | (r, rest) =>
    (r.id, r.elementId, r.websiteId, r.visitorId, r.sessionId, r.pageUrl, r.responses, r.completed,
     r.completionPercentage, r.startedAt, r.completedAt, r.timeSpentSeconds, r.deviceType, r.userAgent, r.referrer,
     r.utmSource, r.utmMedium, r.utmCampaign, r.email, r.name, r.phone, r.company, r.customFields,
     r.detectedPersonaId, r.personaConfidence, rest)

def Submission.schema : Schema Submission :=
  .record (Submission.fields .done) (fun r => (Submission.ofRow r).1) (fun r => Submission.toRow (r, ()))
    (fun _ => rfl) (fun _ => rfl)

structure Quiz.Response extends Submission where
  answers : Entries Value := []
  score : Option Float := none
  maxScore : Option Float := none
  resultId : Option String := none
  deriving Repr

def Quiz.Response.schema : Schema Quiz.Response :=
  .record
    (Submission.fields <|
      .or "answers" (.entries .anything) [] <|
      .opt "score" (.decimal none) <|
      .opt "max_score" (.decimal none) <|
      .opt "result_id" .text <|
      .done)
    (fun r =>
      let (common, answers, score, maxScore, resultId, ()) := Submission.ofRow r
      ⟨common, answers, score, maxScore, resultId⟩)
    (fun r => Submission.toRow (r.toSubmission, r.answers, r.score, r.maxScore, r.resultId, ()))
    (fun _ => rfl) (fun _ => rfl)

structure Calculator.Response extends Submission where
  inputValues : Entries Value := []
  calculatedOutputs : Option (Entries Float) := none
  deriving Repr

def Calculator.Response.schema : Schema Calculator.Response :=
  .record
    (Submission.fields <|
      .or "input_values" (.entries .anything) [] <|
      .opt "calculated_outputs" (.entries (.decimal none)) <|
      .done)
    (fun r =>
      let (common, inputValues, calculatedOutputs, ()) := Submission.ofRow r
      ⟨common, inputValues, calculatedOutputs⟩)
    (fun r => Submission.toRow (r.toSubmission, r.inputValues, r.calculatedOutputs, ()))
    (fun _ => rfl) (fun _ => rfl)

structure Survey.Response extends Submission where
  answers : Entries Value := []
  deriving Repr

def Survey.Response.schema : Schema Survey.Response :=
  .record
    (Submission.fields <|
      .or "answers" (.entries .anything) [] <|
      .done)
    (fun r =>
      let (common, answers, ()) := Submission.ofRow r
      ⟨common, answers⟩)
    (fun r => Submission.toRow (r.toSubmission, r.answers, ()))
    (fun _ => rfl) (fun _ => rfl)

end Formwork
