/-
  Formwork.Quiz.Scoring: the points that an answer earns.

  Points are counted before the weight of the question. A choice earns the points of its
  option; several choices earn a share of one point, each wrong one taking back a right
  one; a text earns one point; a rating earns its share of the scale. A score or weight of 0
  counts as unset.
-/

import Formwork.Number.Basic
import Formwork.Number.Literal
import Formwork.Quiz.Config
import Formwork.Text.Lowercase

namespace Formwork

def TextOrTexts.isGiven : TextOrTexts → Bool
  | one s => s != ""
  | several items => !items.isEmpty

namespace Quiz

/-- A number unless it is unset or 0. -/
def setOr (default : Float) : Option Float → Float
  | some x => if x == 0 then default else x
  | none => default

def Question.choices (q : Question) : List Choice := q.options.getD []

def Question.choice? (q : Question) (id : String) : Option Choice := q.choices.find? (·.id == id)

def Question.hasRightAnswer (q : Question) : Bool := q.correctAnswer.any TextOrTexts.isGiven

def Choice.worth (o : Choice) : Float := setOr (if o.isCorrect == some true then 1 else 0) o.score

def greater (x y : Float) : Float := if x < y then y else x

/-- The most points of a question: those of its best option, and at least 1 if that has none. -/
def Question.maxPoints (q : Question) : Float :=
  match q.choices with
  | [] => 1
  | o :: rest =>
    let best := rest.foldl (fun best o => greater best o.worth) o.worth
    if 0 < best then best else 1

structure Score where
  points : Float
  isCorrect : Bool
  deriving DecidableEq, Repr

def Score.nothing : Score := ⟨0, false⟩

def firstText (answer : Value) : Except NumericError String :=
  match answer.asList with
  | [] => .ok ""
  | first :: _ => first.display

def selection (answer : Value) : Except NumericError (List String) := answer.asList.mapM Value.display

/-- One option: right by the right answer of the question, else by its own mark, else by its score. -/
def Question.scoreChoice (q : Question) (answer : String) : Score :=
  match q.choice? answer with
  | none => .nothing
  | some o =>
    if q.hasRightAnswer then
      let right := q.correctAnswer == some (.one answer)
      ⟨if right then setOr 1 o.score else 0, right⟩
    else match o.isCorrect with
      | some right => ⟨if right then setOr 1 o.score else 0, right⟩
      | none =>
        let points := setOr 0 o.score
        ⟨points, 0 < points⟩

/-- The answers that are right, listed by the question or marked among its options. -/
def Question.rightAnswers (q : Question) : List String :=
  let marked := (q.choices.filter (·.isCorrect == some true)).map (·.id)
  match q.correctAnswer with
  | some (.several items) => items
  | some (.one s) => if s == "" then marked else [s]
  | none => marked

/-- The share of `right` that remains when each wrong choice takes back a right one. -/
def shareOf (right selected : List String) : Float :=
  let hits := selected.countP (right.contains ·)
  let misses := selected.length - hits
  greater 0 ((Binary64.divInt? ((hits : Int) - misses) right.length).getD 0)

/-- Several options: their scores if no answer is right, else a share of one point. -/
def Question.scoreChoices (q : Question) (selected : List String) : Score :=
  let right := q.rightAnswers
  if right.isEmpty then
    let total := selected.foldl (fun total id => total + ((q.choice? id).map fun o => setOr 0 o.score).getD 0) 0
    ⟨total, 0 < total⟩
  else if selected.length == right.length && selected.all (right.contains ·) then ⟨1, true⟩
  else ⟨shareOf right selected, false⟩

def plainForm (s : String) : String := Text.lower (Text.strip s)

/-- A text: right if it is one of the right answers or if there are none. -/
def Question.scoreText (q : Question) (answer : String) : Score :=
  if !q.hasRightAnswer then ⟨1, true⟩
  else
    let accepted :=
      match q.correctAnswer with
      | some (.several items) => items
      | some (.one s) => [s]
      | none => []
    let right := accepted.any fun a => plainForm a == plainForm answer
    ⟨if right then 1 else 0, right⟩

def defaultScale : Nat := 5

/-- A rating: the integer that the answer starts with, as a share of the scale. -/
def Question.scoreRating (q : Question) (answer : String) : Except NumericError Score :=
  match Literal.leadingDigits? answer.toList with
  | none => .ok .nothing
  | some (negative, digits) =>
    if NumericError.digitLimit < digits.length then .error (.tooManyDigits digits.length)
    else
      let n : Int := Text.digitsValue digits
      let scale := if q.choices.isEmpty then defaultScale else q.choices.length
      (Number.div (.int (if negative then -n else n)) (.int scale)).map fun share => ⟨share, true⟩

def Question.score (q : Question) (answer : Value) : Except NumericError Score :=
  if !answer.isAnswered then .ok .nothing else
    match q.type with
    | .singleChoice | .trueFalse | .imageChoice => (firstText answer).map q.scoreChoice
    | .multipleChoice => (selection answer).map q.scoreChoices
    | .text => (firstText answer).map q.scoreText
    | .rating => firstText answer >>= q.scoreRating

end Quiz

end Formwork
