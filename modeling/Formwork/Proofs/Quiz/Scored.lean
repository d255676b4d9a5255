/-
  Formwork.Proofs.Quiz.Scored: which answers have a score, and what a rating earns.

  An answer is scored by its texts: a selection by all of them, any other answer by the first
  (`Question.read`). Integers of very many digits have no text. A rating also has no score when the
  number at its start has too many digits to be read, or when its share of the scale is larger than
  all floats.

  - `score_eq_error_iff`: in these cases, and in no other, an answer has no score.
  - `points_of_rating`: a rating earns the share that its number is of the scale, on the scale or not.
-/

import Formwork.Proofs.Display
import Formwork.Proofs.Number.Middle
import Formwork.Proofs.Quiz.RightAnswer

namespace Formwork

open Binary64

namespace Quiz

variable {q : Question} {answer : Value} {s : Score} {e : NumericError} {text : String}

/-! ## What is read of an answer -/

def leading? (answer : Value) : Option (Bool × List Char) :=
  (firstText answer).toOption.bind fun text => Literal.leadingDigits? text.toList

def integerOf (negative : Bool) (digits : List Char) : ℤ :=
  if negative then -(Text.digitsValue digits : ℤ) else Text.digitsValue digits

/-- The integer that an answer starts with. -/
def rated? (answer : Value) : Option ℤ := (leading? answer).map fun number => integerOf number.1 number.2

def Question.scale (q : Question) : ℕ := if q.choices.isEmpty then defaultScale else q.choices.length

def shareOfScale (n : ℤ) (scale : ℕ) : Float := signed (decide (n < 0)) (nearest (n.natAbs / scale))

/-- The values in an answer whose texts count. -/
def Question.read (q : Question) (answer : Value) : List Value :=
  if q.type = .multipleChoice then answer.asList else answer.asList.take 1

/-- The answer cannot be read: an integer in it is too long to be written, or the number that a rating starts
with to be read. -/
inductive Question.Unreadable (q : Question) (answer : Value) : NumericError → Prop
  | unwritten (v : Value) : v ∈ q.read answer → v.Holds Scalar.IsTooLong → q.Unreadable answer .integerTooLong
  | tooLong (negative : Bool) (digits : List Char) : q.type = .rating → leading? answer = some (negative, digits) →
      NumericError.digitLimit < digits.length → q.Unreadable answer (.tooManyDigits digits.length)

def Question.Overflows (q : Question) (answer : Value) : Prop :=
  q.type = .rating ∧ ∃ negative digits, leading? answer = some (negative, digits) ∧
    digits.length ≤ NumericError.digitLimit ∧ integerLimit * q.scale ≤ Text.digitsValue digits

/-! ## Shares of a scale -/

theorem scale_pos (q : Question) : 0 < q.scale := by
  unfold Question.scale
  split
  · decide
  · rename_i h
    exact List.length_pos_iff.mpr (by simpa using h)

theorem natAbs_integerOf (negative : Bool) (digits : List Char) :
    (integerOf negative digits).natAbs = Text.digitsValue digits := by
  unfold integerOf
  split
  · rw [Int.natAbs_neg, Int.natAbs_natCast]
  · exact Int.natAbs_natCast _

theorem isInf_share_iff {n scale : ℕ} (hscale : 0 < scale) :
    (nearest (n / scale)).isInf = true ↔ integerLimit * scale ≤ n := by
  have hpos : (0 : ℚ) < scale := Nat.cast_pos.mpr hscale
  rw [isInf_nearest_iff (by positivity), le_div_iff₀ hpos]
  exact_mod_cast Iff.rfl

theorem div_intCast (n : ℤ) {scale : ℕ} (hscale : 0 < scale) : Number.div (.int n) (.int scale) =
    if integerLimit * scale ≤ n.natAbs then .error .quotientTooLarge else .ok (shareOfScale n scale) := by
  have hne : ((scale : ℤ) == 0) = false := by simpa using hscale.ne'
  have hsign : decide ((scale : ℤ) < 0) = false := decide_eq_false (by omega)
  rw [← if_congr (isInf_share_iff hscale) rfl rfl]
  unfold Number.div divInt? shareOfScale
  simp only [hne, hsign, Int.natAbs_natCast, ofRatio_eq_nearest _ hscale, Bool.bne_false]
  cases (nearest (n.natAbs / scale)).isInf <;> rfl

/-- A share of a scale is from 0 to 1 on the scale. -/
theorem shareOfScale_bounds {n : ℤ} (hnonneg : 0 ≤ n) (hle : n ≤ q.scale) :
    0 ≤ shareOfScale n q.scale ∧ shareOfScale n q.scale ≤ 1 := by
  obtain ⟨n, rfl⟩ := Int.eq_ofNat_of_zero_le hnonneg
  have hshare : shareOfScale n q.scale = ofRatio n q.scale := by
    rw [shareOfScale, decide_eq_false (by omega), Int.natAbs_natCast, ofRatio_eq_nearest _ (scale_pos q)]
    rfl
  have hpart : n ≤ q.scale := by exact_mod_cast hle
  rw [hshare]
  exact ⟨ofRatio_nonneg hpart (scale_pos q), ofRatio_le_one hpart (scale_pos q)⟩

/-- What a rating earns: nothing without a number, else its share of the scale, unless its number is too long
to be read or the share too large for a float. -/
theorem scoreRating_eq (q : Question) (text : String) : q.scoreRating text =
    match Literal.leadingDigits? text.toList with
    | none => .ok .nothing
    | some (negative, digits) =>
      if NumericError.digitLimit < digits.length then .error (.tooManyDigits digits.length)
      else if integerLimit * q.scale ≤ Text.digitsValue digits then .error .quotientTooLarge
      else .ok ⟨shareOfScale (integerOf negative digits) q.scale, true⟩ := by
  unfold Question.scoreRating
  cases Literal.leadingDigits? text.toList with
  | none => rfl
  | some number =>
    obtain ⟨negative, digits⟩ := number
    simp only
    refine if_congr Iff.rfl rfl ?_
    have hscale : (if q.choices.isEmpty then defaultScale else q.choices.length) = q.scale := rfl
    have hinteger : (if negative then -(Text.digitsValue digits : ℤ) else Text.digitsValue digits) =
        integerOf negative digits := rfl
    rw [hscale, hinteger, div_intCast _ (scale_pos q), natAbs_integerOf]
    split <;> rfl

/-! ## The texts of an answer -/

theorem firstText_eq_error_iff :
    firstText answer = .error e ↔ e = .integerTooLong ∧ ∃ v ∈ answer.asList.take 1, v.Holds Scalar.IsTooLong := by
  unfold firstText
  cases answer.asList with
  | nil => simp
  | cons first rest => simp [Value.display_eq_error_iff]

theorem selection_eq_error_iff :
    selection answer = .error e ↔ e = .integerTooLong ∧ ∃ v ∈ answer.asList, v.Holds Scalar.IsTooLong :=
  mapM_eq_error_iff fun _ _ _ => Value.display_eq_error_iff

theorem leading?_of_firstText (h : firstText answer = .ok text) :
    leading? answer = Literal.leadingDigits? text.toList := by
  rw [leading?, h]
  rfl

theorem not_answered_cases (h : answer.isAnswered = false) : answer = .null ∨ answer = .text "" ∨ answer = .list [] := by
  cases answer with
  | scalar s =>
    cases s with
    | null => exact Or.inl rfl
    | text s => simpa [Value.isAnswered] using h
    | _ => cases h
  | list items => simpa [Value.isAnswered] using h
  | _ => cases h

/-- An answer that is none has a text, without a number. -/
theorem read_of_not_answered (h : answer.isAnswered = false) :
    leading? answer = none ∧ ∀ v ∈ answer.asList, ¬ v.Holds Scalar.IsTooLong := by
  rcases not_answered_cases h with rfl | rfl | rfl <;> refine ⟨rfl, ?_⟩
  · simp [Value.asList, Value.holds_scalar, Scalar.IsTooLong]
  · simp [Value.asList, Value.holds_scalar, Scalar.IsTooLong]
  · simp [Value.asList]

theorem read_subset (q : Question) (answer : Value) : q.read answer ⊆ answer.asList := by
  unfold Question.read
  split
  · exact List.Subset.refl _
  · exact List.take_subset 1 _

theorem unreadable_iff : q.Unreadable answer e ↔
    (e = .integerTooLong ∧ ∃ v ∈ q.read answer, v.Holds Scalar.IsTooLong) ∨
    (q.type = .rating ∧ ∃ negative digits, leading? answer = some (negative, digits) ∧
      NumericError.digitLimit < digits.length ∧ e = .tooManyDigits digits.length) := by
  constructor
  · rintro (⟨v, hv, hlong⟩ | ⟨negative, digits, hq, hleading, hlong⟩)
    · exact Or.inl ⟨rfl, v, hv, hlong⟩
    · exact Or.inr ⟨hq, negative, digits, hleading, hlong, rfl⟩
  · rintro (⟨rfl, v, hv, hlong⟩ | ⟨hq, negative, digits, hleading, hlong, rfl⟩)
    · exact .unwritten v hv hlong
    · exact .tooLong negative digits hq hleading hlong

/-! ## Scores -/

theorem rating_eq_error_iff : (∃ text, firstText answer = .ok text ∧ q.scoreRating text = .error e) ↔
    (∃ negative digits, leading? answer = some (negative, digits) ∧
      NumericError.digitLimit < digits.length ∧ e = .tooManyDigits digits.length) ∨
    e = .quotientTooLarge ∧ ∃ negative digits, leading? answer = some (negative, digits) ∧
      digits.length ≤ NumericError.digitLimit ∧ integerLimit * q.scale ≤ Text.digitsValue digits := by
  cases hfirst : firstText answer with
  | error d =>
    have hnone : leading? answer = none := by rw [leading?, hfirst]; rfl
    simp [hnone]
  | ok text =>
    simp only [Except.ok.injEq, exists_eq_left', leading?_of_firstText hfirst]
    rw [scoreRating_eq]
    cases Literal.leadingDigits? text.toList with
    | none => simp
    | some number =>
      obtain ⟨negative, digits⟩ := number
      simp only [Option.some.injEq, Prod.mk.injEq, and_assoc, exists_and_left, exists_eq_left']
      split
      · next hlong => simp [hlong, Nat.not_le.mpr hlong, eq_comm]
      · next hshort =>
        rw [or_iff_right fun h => hshort h.1, and_iff_right (Nat.le_of_not_lt hshort)]
        split
        · next hlarge => rw [and_iff_left hlarge, Except.error.injEq, eq_comm]
        · next hsmall => exact iff_of_false nofun fun h => hsmall h.2

/-- An answer has no score where it cannot be read, or where its share is too large. -/
theorem score_eq_error_iff : q.score answer = .error e ↔
    q.Unreadable answer e ∨ e = .quotientTooLarge ∧ q.Overflows answer := by
  rw [unreadable_iff]
  cases hanswered : answer.isAnswered with
  | false =>
    obtain ⟨hleading, hread⟩ := read_of_not_answered hanswered
    rw [score_of_not_answered hanswered]
    refine iff_of_false nofun ?_
    rintro ((⟨-, v, hv, hlong⟩ | ⟨-, negative, digits, hsome, -⟩) | ⟨-, -, negative, digits, hsome, -⟩)
    · exact hread v (read_subset q answer hv) hlong
    · exact absurd hsome (by rw [hleading]; nofun)
    · exact absurd hsome (by rw [hleading]; nofun)
  | true =>
    unfold Question.score Question.read Question.Overflows
    rw [hanswered]
    cases htype : q.type with
    | singleChoice | trueFalse | imageChoice | text => simp [map_eq_error, firstText_eq_error_iff]
    | multipleChoice => simp [map_eq_error, selection_eq_error_iff]
    | rating =>
      -- the text comes first, then the number and its share
      simp only [Bool.not_true, Bool.false_eq_true, if_false, bind_eq_error, firstText_eq_error_iff, true_and,
        reduceCtorEq]
      rw [rating_eq_error_iff, or_assoc]

theorem points_of_rating (hq : q.type = .rating) (hscore : q.score answer = .ok s) :
    s.points = (rated? answer).elim 0 (shareOfScale · q.scale) := by
  unfold rated?
  cases hanswered : answer.isAnswered with
  | false =>
    rw [score_of_not_answered hanswered] at hscore
    rw [(read_of_not_answered hanswered).1, ← Except.ok.inj hscore]
    rfl
  | true =>
    unfold Question.score at hscore
    rw [hanswered, hq] at hscore
    obtain ⟨text, hfirst, hscore⟩ := bind_eq_ok.mp hscore
    rw [scoreRating_eq] at hscore
    rw [leading?_of_firstText hfirst]
    cases hleading : Literal.leadingDigits? text.toList with
    | none =>
      rw [hleading] at hscore
      rw [← Except.ok.inj hscore]
      rfl
    | some number =>
      simp only [hleading] at hscore
      split at hscore
      · cases hscore
      split at hscore
      · cases hscore
      rw [← Except.ok.inj hscore]
      rfl

end Quiz

end Formwork
