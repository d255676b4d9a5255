/-
  Formwork.Element.Config: what every element of a page has.

  An element is a quiz, a calculator or a survey; the three share identity, looks, tracking,
  the contact form, the action at the end and the variants for audiences. Identity may be left
  empty, so that a draft can be read and checked later.
-/

import Formwork.Document.Schema

namespace Formwork

inductive EntryMotion where
  | fadeIn
  | slideUp
  | slideDown
  | scaleIn
  | still
  deriving DecidableEq, Repr

instance : Keyword EntryMotion where
  all := [.fadeIn, .slideUp, .slideDown, .scaleIn, .still]
  word
    | .fadeIn => "fadeIn"
    | .slideUp => "slideUp"
    | .slideDown => "slideDown"
    | .scaleIn => "scaleIn"
    | .still => "none"
  complete a := by cases a <;> decide
  injective a b := by cases a <;> cases b <;> decide

inductive Transition where
  | smooth
  | spring
  | instant
  deriving DecidableEq, Repr

instance : Keyword Transition where
  all := [.smooth, .spring, .instant]
  word
    | .smooth => "smooth"
    | .spring => "spring"
    | .instant => "instant"
  complete a := by cases a <;> decide
  injective a b := by cases a <;> cases b <;> decide

structure Animation where
  entry : Option EntryMotion := none
  transition : Option Transition := none
  stagger : Option Float := none
  duration : Option Float := none
  deriving DecidableEq, Repr

def Animation.schema : Schema Animation :=
  .record
    (.opt "entry" (.word inferInstance) <|
      .opt "transition" (.word inferInstance) <|
      .opt "stagger" (.decimal (some 0)) <|
      .opt "duration" (.decimal (some 0)) <|
      .done)
    (fun (entry, transition, stagger, duration, ()) =>
      ⟨entry, transition, stagger, duration⟩)
    (fun r => (r.entry, r.transition, r.stagger, r.duration, ()))
    (fun _ => rfl) (fun _ => rfl)

structure Padding where
  top : Option String := none
  right : Option String := none
  bottom : Option String := none
  left : Option String := none
  deriving DecidableEq, Repr

def Padding.schema : Schema Padding :=
  .record
    (.opt "top" .text <|
      .opt "right" .text <|
      .opt "bottom" .text <|
      .opt "left" .text <|
      .done)
    (fun (top, right, bottom, left, ()) =>
      ⟨top, right, bottom, left⟩)
    (fun r => (r.top, r.right, r.bottom, r.left, ()))
    (fun _ => rfl) (fun _ => rfl)

inductive Shadow where
  | flat
  | small
  | medium
  | large
  deriving DecidableEq, Repr

instance : Keyword Shadow where
  all := [.flat, .small, .medium, .large]
  word
    | .flat => "none"
    | .small => "sm"
    | .medium => "md"
    | .large => "lg"
  complete a := by cases a <;> decide
  injective a b := by cases a <;> cases b <;> decide

structure Styling where
  backgroundColor : Option String := none
  textColor : Option String := none
  accentColor : Option String := none
  borderRadius : Option String := none
  padding : Option Padding := none
  shadow : Option Shadow := none
  deriving DecidableEq, Repr

def Styling.schema : Schema Styling :=
  .record
    (.opt "background_color" .text <|
      .opt "text_color" .text <|
      .opt "accent_color" .text <|
      .opt "border_radius" .text <|
      .opt "padding" Padding.schema <|
      .opt "shadow" (.word inferInstance) <|
      .done)
    (fun (backgroundColor, textColor, accentColor, borderRadius, padding, shadow, ()) =>
      ⟨backgroundColor, textColor, accentColor, borderRadius, padding, shadow⟩)
    (fun r => (r.backgroundColor, r.textColor, r.accentColor, r.borderRadius, r.padding, r.shadow, ()))
    (fun _ => rfl) (fun _ => rfl)

structure Tracking where
  enabled : Bool := false
  trackViews : Bool := false
  trackStarts : Bool := false
  trackProgress : Bool := true
  trackCompletions : Bool := false
  trackAbandonment : Bool := false
  trackTimeSpent : Bool := false
  customEvents : Option (List String) := none
  deriving DecidableEq, Repr

def Tracking.schema : Schema Tracking :=
  .record
    (.or "enabled" .flag false <|
      .or "track_views" .flag false <|
      .or "track_starts" .flag false <|
      .or "track_progress" .flag true <|
      .or "track_completions" .flag false <|
      .or "track_abandonment" .flag false <|
      .or "track_time_spent" .flag false <|
      .opt "custom_events" (.list .text) <|
      .done)
    (fun (enabled, trackViews, trackStarts, trackProgress, trackCompletions, trackAbandonment, trackTimeSpent,
          customEvents, ()) =>
      ⟨enabled, trackViews, trackStarts, trackProgress, trackCompletions, trackAbandonment, trackTimeSpent,
       customEvents⟩)
    (fun r => (r.enabled, r.trackViews, r.trackStarts, r.trackProgress, r.trackCompletions, r.trackAbandonment,
               r.trackTimeSpent, r.customEvents, ()))
    (fun _ => rfl) (fun _ => rfl)

inductive FollowUpKind where
  | redirect
  | modal
  | leadCapture
  | download
  | email
  | nothing
  deriving DecidableEq, Repr

instance : Keyword FollowUpKind where
  all := [.redirect, .modal, .leadCapture, .download, .email, .nothing]
  word
    | .redirect => "redirect"
    | .modal => "modal"
    | .leadCapture => "lead-capture"
    | .download => "download"
    | .email => "email"
    | .nothing => "none"
  complete a := by cases a <;> decide
  injective a b := by cases a <;> cases b <;> decide

/-- The action after the visitor has finished; the delay is in seconds. -/
structure FollowUp where
  type : FollowUpKind := .nothing
  destination : Option String := none
  message : Option String := none
  delay : Option Float := none
  deriving DecidableEq, Repr

def FollowUp.schema : Schema FollowUp :=
  .record
    (.or "type" (.word inferInstance) .nothing <|
      .opt "destination" .text <|
      .opt "message" .text <|
      .opt "delay" (.decimal (some 0)) <|
      .done)
    (fun (type, destination, message, delay, ()) =>
      ⟨type, destination, message, delay⟩)
    (fun r => (r.type, r.destination, r.message, r.delay, ()))
    (fun _ => rfl) (fun _ => rfl)

inductive LeadKind where
  | email
  | name
  | phone
  | company
  | role
  | custom
  deriving DecidableEq, Repr

instance : Keyword LeadKind where
  all := [.email, .name, .phone, .company, .role, .custom]
  word
    | .email => "email"
    | .name => "name"
    | .phone => "phone"
    | .company => "company"
    | .role => "role"
    | .custom => "custom"
  complete a := by cases a <;> decide
  injective a b := by cases a <;> cases b <;> decide

inductive LeadPosition where
  | before
  | after
  | onResult
  deriving DecidableEq, Repr

instance : Keyword LeadPosition where
  all := [.before, .after, .onResult]
  word
    | .before => "before"
    | .after => "after"
    | .onResult => "on-result"
  complete a := by cases a <;> decide
  injective a b := by cases a <;> cases b <;> decide

structure LeadField where
  id : String
  type : LeadKind := .custom
  label : String := ""
  placeholder : Option String := none
  required : Bool := false
  /-- A pattern that the answer has to contain. -/
  validation : Option String := none
  deriving DecidableEq, Repr

def LeadField.schema : Schema LeadField :=
  .record
    (.need "id" .text <|
      .or "type" (.word inferInstance) .custom <|
      .or "label" .text "" <|
      .opt "placeholder" .text <|
      .or "required" .flag false <|
      .opt "validation" .text <|
      .done)
    (fun (id, type, label, placeholder, required, validation, ()) =>
      ⟨id, type, label, placeholder, required, validation⟩)
    (fun r => (r.id, r.type, r.label, r.placeholder, r.required, r.validation, ()))
    (fun _ => rfl) (fun _ => rfl)

structure LeadCapture where
  enabled : Bool := false
  required : Bool := false
  position : LeadPosition := .after
  fields : List LeadField := []
  privacyText : Option String := none
  submitButtonText : Option String := none
  deriving DecidableEq, Repr

def LeadCapture.schema : Schema LeadCapture :=
  .record
    (.or "enabled" .flag false <|
      .or "required" .flag false <|
      .or "position" (.word inferInstance) .after <|
      .or "fields" (.list LeadField.schema) [] <|
      .opt "privacy_text" .text <|
      .opt "submit_button_text" .text <|
      .done)
    (fun (enabled, required, position, fields, privacyText, submitButtonText, ()) =>
      ⟨enabled, required, position, fields, privacyText, submitButtonText⟩)
    (fun r => (r.enabled, r.required, r.position, r.fields, r.privacyText, r.submitButtonText, ()))
    (fun _ => rfl) (fun _ => rfl)

structure PersonaVariant where
  personaId : String
  title : Option String := none
  description : Option String := none
  emotionalTone : Option String := none
  /-- Values by field name, in either spelling. -/
  contentOverrides : Option (Entries Value) := none
  deriving Repr

def PersonaVariant.schema : Schema PersonaVariant :=
  .record
    (.need "persona_id" .text <|
      .opt "title" .text <|
      .opt "description" .text <|
      .opt "emotional_tone" .text <|
      .opt "content_overrides" (.entries .anything) <|
      .done)
    (fun (personaId, title, description, emotionalTone, contentOverrides, ()) =>
      ⟨personaId, title, description, emotionalTone, contentOverrides⟩)
    (fun r => (r.personaId, r.title, r.description, r.emotionalTone, r.contentOverrides, ()))
    (fun _ => rfl) (fun _ => rfl)

inductive Status where
  | draft
  | published
  | archived
  deriving DecidableEq, Repr

instance : Keyword Status where
  all := [.draft, .published, .archived]
  word
    | .draft => "draft"
    | .published => "published"
    | .archived => "archived"
  complete a := by cases a <;> decide
  injective a b := by cases a <;> cases b <;> decide

inductive ElementKind where
  | quiz
  | calculator
  | survey
  deriving DecidableEq, Repr

instance : Keyword ElementKind where
  all := [.quiz, .calculator, .survey]
  word
    | .quiz => "quiz"
    | .calculator => "calculator"
    | .survey => "survey"
  complete a := by cases a <;> decide
  injective a b := by cases a <;> cases b <;> decide

structure Element where
  id : String := ""
  componentId : Option String := none
  websiteId : String := ""
  pageId : Option String := none
  title : String := ""
  description : Option String := none
  narrativeRole : Option String := none
  emotionalTone : Option String := none
  styling : Option Styling := none
  animations : Option Animation := none
  leadCapture : Option LeadCapture := none
  tracking : Option Tracking := none
  followUp : Option FollowUp := none
  personaVariants : Option (List PersonaVariant) := none
  status : Status := .draft
  createdAt : Option Timestamp := none
  updatedAt : Option Timestamp := none
  deriving Repr

/-- The fields of an element in document order: the type comes second, the fields of its kind at the end. -/
abbrev Element.Row (τ ρ : Type) : Type :=
  String × τ × Option String × String × Option String × String × Option String × Option String × Option String ×
  Option Styling × Option Animation × Option LeadCapture × Option Tracking × Option FollowUp ×
  Option (List PersonaVariant) × Status × Option Timestamp × Option Timestamp × ρ

def Element.fields {τ ρ : Type} (type : Schema τ) (default : Option τ) (rest : Fields ρ) : Fields (Element.Row τ ρ) :=
  .or "id" .text "" <|
  .field "type" type default <|
  .opt "component_id" .text <|
  .or "website_id" .text "" <|
  .opt "page_id" .text <|
  .or "title" .text "" <|
  .opt "description" .text <|
  .opt "narrative_role" .text <|
  .opt "emotional_tone" .text <|
  .opt "styling" Styling.schema <|
  .opt "animations" Animation.schema <|
  .opt "lead_capture" LeadCapture.schema <|
  .opt "tracking" Tracking.schema <|
  .opt "follow_up" FollowUp.schema <|
  .opt "persona_variants" (.list PersonaVariant.schema) <|
  .or "status" (.word inferInstance) .draft <|
  .opt "created_at" .timestamp <|
  .opt "updated_at" .timestamp <|
  rest

def Element.ofRow {τ ρ : Type} : Element.Row τ ρ → Element × τ × ρ
  | (id, type, componentId, websiteId, pageId, title, description, narrativeRole, emotionalTone, styling, animations,
     leadCapture, tracking, followUp, personaVariants, status, createdAt, updatedAt, rest) =>
    (⟨id, componentId, websiteId, pageId, title, description, narrativeRole, emotionalTone, styling, animations,
      leadCapture, tracking, followUp, personaVariants, status, createdAt, updatedAt⟩,
      type, rest)

def Element.toRow {τ ρ : Type} : Element × τ × ρ → Element.Row τ ρ
  | (e, type, rest) =>
    (e.id, type, e.componentId, e.websiteId, e.pageId, e.title, e.description, e.narrativeRole, e.emotionalTone,
     e.styling, e.animations, e.leadCapture, e.tracking, e.followUp, e.personaVariants, e.status, e.createdAt,
     e.updatedAt, rest)

/-- An element without the fields of any kind; its type is required. -/
def Element.schema : Schema (Element × ElementKind) :=
  .record (Element.fields (.word inferInstance) none .done)
    (fun r => ((Element.ofRow r).1, (Element.ofRow r).2.1))
    (fun e => Element.toRow (e.1, e.2, ()))
    (fun _ => rfl) (fun _ => rfl)

end Formwork
