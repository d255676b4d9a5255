/-
  Formwork.Proofs.Number.Literal: a literal is a number on its own.

  What a literal looks like is said by rules for its parts (`Spells`): a sign, digits with a point in or
  before them, a power of ten. What the readers take is spelled so. The reader of whole texts allows
  more than a literal: white space around it, a sign before it, underscores between its digits. A literal
  holds none of these, whatever the script of its digits, so nothing is taken from it and it has its
  own value.

  - `spells_of_take`: what is taken is a literal that the text starts with.
  - `mem_of_isWhole`: what a literal is made of.
  - `float?_of_isWhole`: a literal is read as its value.
-/

import Formwork.Number.Literal

namespace Formwork

namespace Text

/-- The digits of ASCII are digits. -/
theorem isDigit_of_ascii {c : Char} (h : c.isDigit = true) : isDigit c = true := by
  rw [isDigit, digit?_of_isDigit h]
  rfl

/-- No digit of any script is white space, a sign, a point or an underscore. -/
theorem apart_of_isDigit {c : Char} (h : isDigit c = true) :
    isBlank c = false ∧ c ≠ '_' ∧ c ≠ '+' ∧ c ≠ '-' ∧ c ≠ '.' := by
  have htable : ∀ z ∈ zeros, ∀ d < 10, isBlank (Char.ofNat (z + d)) = false ∧ Char.ofNat (z + d) ≠ '_' ∧
      Char.ofNat (z + d) ≠ '+' ∧ Char.ofNat (z + d) ≠ '-' ∧ Char.ofNat (z + d) ≠ '.' := by
    decide +kernel
  rw [isDigit, digit?, Option.isSome_map, List.find?_isSome] at h
  obtain ⟨z, hz, hc⟩ := h
  rw [Bool.and_eq_true, decide_eq_true_eq, decide_eq_true_eq] at hc
  have hd := htable z hz (c.toNat - z) (by omega)
  rwa [show z + (c.toNat - z) = c.toNat by omega, Char.ofNat_toNat] at hd

end Text

namespace Literal

open Text

def IsPart (c : Char) : Prop := isDigit c = true ∨ c = '.' ∨ isMark c = true ∨ c = '+' ∨ c = '-'

theorem IsPart.apart {c : Char} (h : IsPart c) : isBlank c = false ∧ c ≠ '_' := by
  rcases h with h | rfl | h | rfl | rfl
  · exact ⟨(apart_of_isDigit h).1, (apart_of_isDigit h).2.1⟩
  · decide
  · rw [isMark, Bool.or_eq_true, beq_iff_eq, beq_iff_eq] at h
    rcases h with rfl | rfl <;> decide
  · decide
  · decide

/-! ## Spelling -/

def IsDigits (cs : List Char) : Prop := cs ≠ [] ∧ ∀ c ∈ cs, isDigit c = true

/-- An optional sign; `true` is minus. -/
inductive SpellsSign : List Char → Bool → Prop
  | absent : SpellsSign [] false
  | plus : SpellsSign ['+'] false
  | minus : SpellsSign ['-'] true

/-- Digits that may have a point and more digits behind them, or a point and digits. -/
inductive SpellsMantissa : List Char → List Char → List Char → Prop
  | plain {whole : List Char} (hwhole : IsDigits whole) : SpellsMantissa whole whole []
  | pointed {whole fraction : List Char} (hwhole : IsDigits whole) (hfraction : ∀ c ∈ fraction, isDigit c = true) :
      SpellsMantissa (whole ++ '.' :: fraction) whole fraction
  | bare {fraction : List Char} (hfraction : IsDigits fraction) : SpellsMantissa ('.' :: fraction) [] fraction

inductive SpellsPower : List Char → Int → Prop
  | absent : SpellsPower [] 0
  | written {mark : Char} {sign digits : List Char} {negative : Bool} (hmark : isMark mark = true)
      (hsign : SpellsSign sign negative) (hdigits : IsDigits digits) :
      SpellsPower (mark :: (sign ++ digits)) (if negative then -(digitsValue digits : Int) else digitsValue digits)

inductive SpellsUnsigned : List Char → Literal → Prop
  | mk {mantissa whole fraction power : List Char} {e : Int} (hmantissa : SpellsMantissa mantissa whole fraction)
      (hpower : SpellsPower power e) :
      SpellsUnsigned (mantissa ++ power) ⟨whole, fraction, e⟩

inductive Spells : List Char → Bool → Literal → Prop
  | mk {sign unsigned : List Char} {negative : Bool} {l : Literal} (hsign : SpellsSign sign negative)
      (hunsigned : SpellsUnsigned unsigned l) :
      Spells (sign ++ unsigned) negative l

def IsNumeral (cs : List Char) : Prop := ∃ negative l, Spells cs negative l

variable {cs rest text whole fraction : List Char} {negative : Bool} {power : Int} {l : Literal} {c : Char}

theorem SpellsMantissa.head (h : SpellsMantissa text whole fraction) :
    ∃ c rest, text = c :: rest ∧ (isDigit c = true ∨ c = '.') := by
  have hdigits : ∀ {ds : List Char} (tail : List Char), IsDigits ds →
      ∃ c rest, ds ++ tail = c :: rest ∧ (isDigit c = true ∨ c = '.') := by
    rintro ds tail ⟨hne, hds⟩
    obtain ⟨c, rest, rfl⟩ := List.exists_cons_of_ne_nil hne
    exact ⟨c, rest ++ tail, rfl, Or.inl (hds c List.mem_cons_self)⟩
  cases h with
  | plain hwhole => simpa using hdigits [] hwhole
  | pointed hwhole => exact hdigits _ hwhole
  | bare => exact ⟨'.', _, rfl, Or.inr rfl⟩

theorem SpellsUnsigned.head (h : SpellsUnsigned text l) :
    ∃ c rest, text = c :: rest ∧ (isDigit c = true ∨ c = '.') := by
  cases h with
  | mk hmantissa =>
    obtain ⟨c, rest, rfl, hc⟩ := hmantissa.head
    exact ⟨c, _, rfl, hc⟩

theorem not_isDigit_of_isMark (h : isMark c = true) : isDigit c = false ∧ c ≠ '.' := by
  rw [isMark, Bool.or_eq_true, beq_iff_eq, beq_iff_eq] at h
  rcases h with rfl | rfl <;> decide

theorem isDigit_of_mem_takeWhile (h : c ∈ cs.takeWhile isDigit) : isDigit c = true :=
  List.all_eq_true.mp List.all_takeWhile c h

/-! ## What is taken is spelled -/

theorem spellsSign_takeSign (cs : List Char) :
    ∃ sign, cs = sign ++ (takeSign cs).2 ∧ SpellsSign sign (takeSign cs).1 := by
  unfold takeSign
  split
  · exact ⟨_, rfl, .minus⟩
  · exact ⟨_, rfl, .plus⟩
  · exact ⟨[], rfl, .absent⟩

theorem isDigits_takeWhile (h : cs.takeWhile isDigit ≠ []) : IsDigits (cs.takeWhile isDigit) :=
  ⟨h, fun _ => isDigit_of_mem_takeWhile⟩

theorem spellsMantissa_of_takeMantissa (h : takeMantissa cs = some (whole, fraction, rest)) :
    ∃ text, cs = text ++ rest ∧ SpellsMantissa text whole fraction := by
  have hsplit := List.takeWhile_append_dropWhile (p := isDigit) (l := cs)
  unfold takeMantissa at h
  simp only at h
  split at h
  · rename_i behind hbehind
    split at h
    · cases h
    · rename_i hne
      cases h
      refine ⟨cs.takeWhile isDigit ++ '.' :: behind.takeWhile isDigit, ?_, ?_⟩
      · rw [List.append_assoc, List.cons_append, List.takeWhile_append_dropWhile, ← hbehind, hsplit]
      · by_cases hwhole : cs.takeWhile isDigit = []
        · rw [hwhole]
          exact .bare (isDigits_takeWhile (by simpa [hwhole] using hne))
        · exact .pointed (isDigits_takeWhile hwhole) fun _ => isDigit_of_mem_takeWhile
  · split at h
    · cases h
    · rename_i hne
      cases h
      exact ⟨cs.takeWhile isDigit, hsplit.symm, .plain (isDigits_takeWhile (by simpa using hne))⟩

theorem spellsPower_takePower (cs : List Char) :
    ∃ text, cs = text ++ (takePower cs).2 ∧ SpellsPower text (takePower cs).1 := by
  unfold takePower
  split
  · rename_i mark behind
    obtain ⟨sign, hsplit, hsign⟩ := spellsSign_takeSign behind
    simp only
    split
    · rename_i hmark
      simp only [Bool.and_eq_true, bne_iff_ne, ne_eq, List.length_eq_zero_iff] at hmark
      refine ⟨mark :: (sign ++ (takeSign behind).2.takeWhile isDigit), ?_, ?_⟩
      · rw [List.cons_append, List.append_assoc, List.takeWhile_append_dropWhile, ← hsplit]
      · exact .written hmark.1 hsign (isDigits_takeWhile hmark.2)
    · exact ⟨[], rfl, .absent⟩
  · exact ⟨[], rfl, .absent⟩

theorem spells_of_take (h : take cs = some (l, rest)) : ∃ text, cs = text ++ rest ∧ SpellsUnsigned text l := by
  obtain ⟨⟨whole, fraction, behind⟩, hmantissa, heq⟩ := Option.map_eq_some_iff.mp h
  obtain ⟨rfl, rfl⟩ : ⟨whole, fraction, (takePower behind).1⟩ = l ∧ (takePower behind).2 = rest := Prod.mk.inj heq
  obtain ⟨mantissa, rfl, hspells⟩ := spellsMantissa_of_takeMantissa hmantissa
  obtain ⟨power, hsplit, hpower⟩ := spellsPower_takePower behind
  refine ⟨mantissa ++ power, ?_, .mk hspells hpower⟩
  rw [List.append_assoc, ← hsplit]

/-! ## What a literal is made of -/

theorem SpellsSign.isPart (h : SpellsSign text negative) : ∀ c ∈ text, IsPart c := by
  cases h <;> simp [IsPart]

theorem SpellsMantissa.mem (h : SpellsMantissa text whole fraction) : ∀ c ∈ text, isDigit c = true ∨ c = '.' := by
  cases h with
  | plain hwhole => exact fun c hc => Or.inl (hwhole.2 c hc)
  | pointed hwhole hfraction =>
    intro c hc
    rcases List.mem_append.mp hc with hc | hc
    · exact Or.inl (hwhole.2 c hc)
    · rcases List.mem_cons.mp hc with rfl | hc
      · exact Or.inr rfl
      · exact Or.inl (hfraction c hc)
  | bare hfraction =>
    intro c hc
    rcases List.mem_cons.mp hc with rfl | hc
    · exact Or.inr rfl
    · exact Or.inl (hfraction.2 c hc)

theorem SpellsMantissa.isPart (h : SpellsMantissa text whole fraction) : ∀ c ∈ text, IsPart c :=
  fun c hc => (h.mem c hc).imp_right Or.inl

theorem SpellsPower.isPart (h : SpellsPower text power) : ∀ c ∈ text, IsPart c := by
  cases h with
  | absent => simp
  | written hmark hsign hdigits =>
    intro c hc
    rcases List.mem_cons.mp hc with rfl | hc
    · exact Or.inr (Or.inr (Or.inl hmark))
    · rcases List.mem_append.mp hc with hc | hc
      · exact hsign.isPart c hc
      · exact Or.inl (hdigits.2 c hc)

theorem SpellsUnsigned.isPart (h : SpellsUnsigned text l) : ∀ c ∈ text, IsPart c := by
  cases h with
  | mk hmantissa hpower =>
    intro c hc
    rcases List.mem_append.mp hc with hc | hc
    · exact hmantissa.isPart c hc
    · exact hpower.isPart c hc

theorem isWhole_iff : isWhole cs = true ↔ ∃ l, take cs = some (l, []) := by
  unfold isWhole
  split
  · rename_i l h
    simp [h]
  · rename_i hne
    refine ⟨fun h => (by cases h), ?_⟩
    rintro ⟨l, h⟩
    exact absurd h (hne l)

theorem spells_of_isWhole (h : isWhole cs = true) : ∃ l, take cs = some (l, []) ∧ SpellsUnsigned cs l := by
  obtain ⟨l, htake⟩ := isWhole_iff.mp h
  obtain ⟨text, htext, hspells⟩ := spells_of_take htake
  rw [List.append_nil] at htext
  exact ⟨l, htake, htext ▸ hspells⟩

/-- A literal starts with a digit or a point and holds digits, points, marks and signs only. -/
theorem mem_of_isWhole (h : isWhole cs = true) :
    (∃ c after, cs = c :: after ∧ (isDigit c = true ∨ c = '.')) ∧ ∀ c ∈ cs, IsPart c := by
  obtain ⟨l, -, hspells⟩ := spells_of_isWhole h
  exact ⟨hspells.head, hspells.isPart⟩

/-! ## Reading it alone -/

theorem trimPadding_eq_self (h : ∀ c ∈ cs, isBlank c = false) : trimPadding cs = cs := by
  have hkeep : ∀ {ds : List Char}, (∀ c ∈ ds, isBlank c = false) → ds.dropWhile isPadding = ds := by
    intro ds hds
    cases ds with
    | nil => rfl
    | cons d ds => exact List.dropWhile_cons_of_neg (by simp [isPadding, hds d List.mem_cons_self])
  rw [trimPadding, hkeep h, hkeep fun c hc => h c (List.mem_reverse.mp hc), List.reverse_reverse]

theorem dropSeparators_eq_self : ∀ {cs : List Char}, (∀ c ∈ cs, c ≠ '_') → dropSeparators cs = cs := by
  intro cs
  fun_induction dropSeparators cs with
  | case1 a b rest _ ih => exact fun h => absurd rfl (h '_' (by simp))
  | case2 a b rest _ ih => exact fun h => absurd rfl (h '_' (by simp))
  | case3 c rest _ ih => exact fun h => by rw [ih fun d hd => h d (List.mem_cons_of_mem _ hd)]
  | case4 => exact fun _ => rfl

theorem takeSign_eq_self (hc : isDigit c = true ∨ c = '.') : takeSign (c :: cs) = (false, c :: cs) := by
  have hne : c ≠ '-' ∧ c ≠ '+' := by
    rcases hc with hc | rfl
    · exact ⟨(apart_of_isDigit hc).2.2.2.1, (apart_of_isDigit hc).2.2.1⟩
    · decide
  unfold takeSign
  split
  · rename_i heq
    exact absurd (List.cons.inj heq).1 hne.1
  · rename_i heq
    exact absurd (List.cons.inj heq).1 hne.2
  · rfl

/-- From the characters of literals the reader of whole texts takes nothing away. -/
theorem float?_ofList (h : ∀ c ∈ cs, IsPart c) : float? (String.ofList cs) = signed? cs := by
  rw [float?, String.toList_ofList, trimPadding_eq_self fun c hc => (h c hc).apart.1,
    dropSeparators_eq_self fun c hc => (h c hc).apart.2]

/-- A literal and nothing else is a number on its own, and has the value of the literal. -/
theorem float?_of_isWhole (h : isWhole cs = true) :
    ∃ l, take cs = some (l, []) ∧ float? (String.ofList cs) = some l.value := by
  obtain ⟨⟨c, after, hhead, hc⟩, hparts⟩ := mem_of_isWhole h
  obtain ⟨l, hl⟩ := isWhole_iff.mp h
  refine ⟨l, hl, ?_⟩
  rw [float?_ofList hparts, signed?]
  rw [show takeSign cs = (false, cs) by rw [hhead]; exact takeSign_eq_self hc]
  simp only [hl, Binary64.signed, Bool.false_eq_true, if_false]

end Literal

end Formwork
