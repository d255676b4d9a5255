/-
  Formwork.Proofs.Document.Models: the documents of elements and responses.

  - `models_sound`: every schema of an element, of a response or of a part of one is sound.
  - `read_write_models`: so what one of them was read as is written as one entry for each
    field, in either spelling of the names, and read again unchanged, any number of times. It
    can be written if the document it came from has an end.
  - `AnyElement.read_write`: an element says which kind it is of, so this also holds where a
    document of any kind is asked for.
-/

import Formwork.Element.Any
import Formwork.Element.Submission
import Formwork.Proofs.Document.RoundTrip

namespace Formwork

def models : List (Sigma Schema) := [
  ⟨_, Element.schema⟩, ⟨_, Animation.schema⟩, ⟨_, Padding.schema⟩, ⟨_, Styling.schema⟩, ⟨_, Tracking.schema⟩,
  ⟨_, FollowUp.schema⟩, ⟨_, LeadField.schema⟩, ⟨_, LeadCapture.schema⟩, ⟨_, PersonaVariant.schema⟩,
  ⟨_, Quiz.Choice.schema⟩, ⟨_, Quiz.Question.schema⟩, ⟨_, Quiz.Scoring.schema⟩, ⟨_, Quiz.Outcome.schema⟩,
  ⟨_, Quiz.Settings.schema⟩, ⟨_, Quiz.schema⟩,
  ⟨_, Calculator.InputChoice.schema⟩, ⟨_, Calculator.Input.schema⟩, ⟨_, Calculator.Output.schema⟩,
  ⟨_, Calculator.BreakdownItem.schema⟩, ⟨_, Calculator.Settings.schema⟩, ⟨_, Calculator.schema⟩,
  ⟨_, Survey.Choice.schema⟩, ⟨_, Survey.Condition.schema⟩, ⟨_, Survey.Logic.schema⟩, ⟨_, Survey.RatingLabels.schema⟩,
  ⟨_, Survey.Question.schema⟩, ⟨_, Survey.Settings.schema⟩, ⟨_, Survey.schema⟩,
  ⟨_, Submission.schema⟩, ⟨_, Quiz.Response.schema⟩, ⟨_, Calculator.Response.schema⟩, ⟨_, Survey.Response.schema⟩]

theorem models_sound : ∀ m ∈ models, m.2.sound = true := by
  rw [← List.all_eq_true]
  decide +kernel

theorem models_records : ∀ m ∈ models, m.2.isRecord = true := by
  rw [← List.all_eq_true]
  decide +kernel

/-- What a document of an element, a response or a part of one was read as is written with one entry
for each field, under either spelling of the names, and read again unchanged; where the document
has an end, what is written has one too. -/
theorem read_write_models (m : Sigma Schema) (hm : m ∈ models) (v : Value) (a : m.1) (h : m.2.read v = .ok a)
    (spelling : Spelling) :
    m.2.write spelling a = .map (Value.ofTexts ((m.2.cells a).map (Cell.entry spelling))) ∧
    m.2.read (m.2.write spelling a) = .ok a ∧
    (v.isEndless = false → (m.2.write spelling a).written = .ok (m.2.write spelling a)) := by
  have hs := models_sound m hm
  have hread := m.2.read_write spelling hs (m.2.admits_of_read hs h)
  refine ⟨Schema.write_eq_map (models_records m hm) spelling a, hread, fun hv => ?_⟩
  rw [Value.written, m.2.isEndless_write spelling hs hv h]
  rfl

/-- A question whose document spells its names in both ways and leaves every kind of value to be understood. -/
def lenient : Value := .ofEntries [
  ("id", .text "q"), ("type", .text "rating"), ("required", .text "Yes"), ("order", .text " 3.0 "),
  ("min_rating", .bool true), ("maxRating", .float 5),
  ("options", .list [
    .ofEntries [("id", .text "a"), ("value", .int 1)],
    .ofEntries [("id", .text "b"), ("value", .text "1"), ("image_url", .null)]]),
  ("conditionalLogic", .ofEntries [("action", .text "show"),
    ("conditions", .list [.ofEntries [("question_id", .text "p"), ("value", .list [.int 1, .null])]])]),
  ("note", .int 1)]

/-- It is read, and from then on the same. -/
theorem lenient_read_write :
    ⟨Survey.Question, Survey.Question.schema⟩ ∈ models ∧ lenient.isEndless = false ∧
    ∃ q, Survey.Question.schema.read lenient = .ok q ∧ ∀ spelling,
      Survey.Question.schema.write spelling q =
        .map (Value.ofTexts ((Survey.Question.schema.cells q).map (Cell.entry spelling))) ∧
      Survey.Question.schema.read (Survey.Question.schema.write spelling q) = .ok q ∧
      (Survey.Question.schema.write spelling q).written = .ok (Survey.Question.schema.write spelling q) := by
  have hm : ⟨Survey.Question, Survey.Question.schema⟩ ∈ models := by simp [models]
  have hend : lenient.isEndless = false := by decide +kernel
  have hread : (Survey.Question.schema.read lenient).toOption.isSome = true := by decide +kernel
  obtain ⟨q, hq⟩ := Option.isSome_iff_exists.mp hread
  have hq := eq_ok_of_toOption hq
  refine ⟨hm, hend, q, hq, fun spelling => ?_⟩
  obtain ⟨hwrite, hagain, hwritten⟩ := read_write_models ⟨_, Survey.Question.schema⟩ hm lenient q hq spelling
  exact ⟨hwrite, hagain, hwritten hend⟩

/-! ## Elements of every kind -/

theorem Element.field?_type_write {τ ρ : Type} {type : Schema τ} {default : Option τ} {rest : Fields ρ}
    (h : (Element.fields type default rest).Apart) (spelling : Spelling) (r : Element.Row τ ρ) :
    Value.field? ((Element.fields type default rest).write spelling r) "type" = some (type.write spelling r.2.1) := by
  have hc : ⟨"type", type, default, r.2.1⟩ ∈ (Element.fields type default rest).cells r := .tail _ (.head _)
  have hname : spelling.spell "type" = "type" := by cases spelling <;> decide +kernel
  have hwrite := h.field?_write spelling hc
  rwa [hname] at hwrite

def ElementKind.Config : ElementKind → Type
  | .quiz => Quiz
  | .calculator => Calculator
  | .survey => Survey

namespace AnyElement

variable {kind : ElementKind} {a : kind.Config} {v : Value} {e : AnyElement} {spelling : Spelling}

def schema : (kind : ElementKind) → Schema kind.Config
  | .quiz => Quiz.schema
  | .calculator => Calculator.schema
  | .survey => Survey.schema

def ofKind : (kind : ElementKind) → kind.Config → AnyElement
  | .quiz => quiz
  | .calculator => calculator
  | .survey => survey

theorem exists_ofKind (e : AnyElement) : ∃ kind a, e = ofKind kind a := by
  cases e with
  | quiz q => exact ⟨.quiz, q, rfl⟩
  | calculator c => exact ⟨.calculator, c, rfl⟩
  | survey s => exact ⟨.survey, s, rfl⟩

@[simp] theorem kind_ofKind : (ofKind kind a).kind = kind := by cases kind <;> rfl

theorem ofKind_inj {b : kind.Config} : ofKind kind a = ofKind kind b ↔ a = b := by
  cases kind with
  | quiz => exact ⟨quiz.inj, congrArg _⟩
  | calculator => exact ⟨calculator.inj, congrArg _⟩
  | survey => exact ⟨survey.inj, congrArg _⟩

theorem readAs_eq (kind : ElementKind) (v : Value) : readAs kind v = ((schema kind).read v).map (ofKind kind) := by
  cases kind <;> rfl

theorem write_ofKind : (ofKind kind a).write spelling = (schema kind).write spelling a := by cases kind <;> rfl

theorem schema_sound (kind : ElementKind) : (schema kind).sound = true := by
  cases kind with
  | quiz => exact models_sound ⟨_, Quiz.schema⟩ (by simp [models])
  | calculator => exact models_sound ⟨_, Calculator.schema⟩ (by simp [models])
  | survey => exact models_sound ⟨_, Survey.schema⟩ (by simp [models])

theorem readAs_eq_ok : readAs kind v = .ok (ofKind kind a) ↔ (schema kind).read v = .ok a := by
  simp [readAs_eq, map_eq_ok, ofKind_inj]

theorem readAs_write (spelling : Spelling) (h : readAs e.kind v = .ok e) :
    readAs e.kind (e.write spelling) = .ok e := by
  obtain ⟨kind, a, rfl⟩ := e.exists_ofKind
  rw [kind_ofKind, readAs_eq_ok] at h
  rw [kind_ofKind, write_ofKind, readAs_eq_ok]
  have hs := schema_sound kind
  exact (schema kind).read_write spelling hs ((schema kind).admits_of_read hs h)

/-- Every element is written with the word of its kind. -/
theorem field?_type_write (spelling : Spelling) (e : AnyElement) :
    ∃ es, e.write spelling = .map es ∧ Value.field? es "type" = some (.text (Keyword.word e.kind)) := by
  cases e with
  | quiz q => exact ⟨_, rfl, Element.field?_type_write (Schema.apart_of_sound (schema_sound .quiz)) spelling _⟩
  | calculator c =>
    exact ⟨_, rfl, Element.field?_type_write (Schema.apart_of_sound (schema_sound .calculator)) spelling _⟩
  | survey s => exact ⟨_, rfl, Element.field?_type_write (Schema.apart_of_sound (schema_sound .survey)) spelling _⟩

theorem readAs_kind {kind : ElementKind} (h : readAs kind v = .ok e) : e.kind = kind := by
  rw [readAs_eq, map_eq_ok] at h
  obtain ⟨a, -, rfl⟩ := h
  exact kind_ofKind

/-- An element that was read from a document of any kind is read again, as one of its own kind. -/
theorem read_write (spelling : Spelling) (h : read v = .ok e) : read (e.write spelling) = .ok e := by
  obtain ⟨kind, hkind⟩ : ∃ kind, readAs kind v = .ok e := by
    unfold read at h
    split at h
    · split at h
      · cases h
      · split at h
        · exact ⟨_, Checked.within_eq_ok.mp h⟩
        · cases h
      · cases h
    · cases h
  obtain rfl := readAs_kind hkind
  obtain ⟨es, he, htype⟩ := e.field?_type_write spelling
  have hwrite := readAs_write spelling hkind
  rw [he] at hwrite ⊢
  simpa only [read, htype, Keyword.find?_word, Checked.within_eq_ok] using hwrite

end AnyElement

end Formwork
