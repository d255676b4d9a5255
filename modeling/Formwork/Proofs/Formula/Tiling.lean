/-
  Formwork.Proofs.Formula.Tiling: the tokens of a formula tile its text.

  The scanner goes over the text once. What it passes is a blank or the next word as a whole, and
  a word stands where it was found (`TilesFrom`). So no character is lost or read twice: the words
  are slices of the text, in their order and apart, what lies between them is blank, and one after
  the other they are the text without its blanks.

  - `scan_tilesFrom`: what the scanner makes of a text tiles it, blank by blank and word by word.
  - `tokenize_tiling`: what follows for positions, gaps and texts.
-/

import Formwork.Proofs.Formula.Scan

namespace Formwork.Formula

/-! ## Words -/

/-- A text without blanks and commas; of the texts of one operator character, each has its own kind. -/
structure Token.IsWord (t : Token) : Prop where
  ne_empty : t.text ≠ ""
  plain : ∀ c ∈ t.text.toList, Text.isBlank c = false ∧ c ≠ ','
  operator : ∀ c kind, operator? c = some kind → (t.text = String.singleton c ↔ t.kind = kind)

theorem operator?_injective {c d : Char} {kind : Kind} (hc : operator? c = some kind) (hd : operator? d = some kind) :
    c = d := by
  have hmarks : ∀ mark ∈ marks, ∀ other ∈ marks, mark.2 = other.2 → mark.1 = other.1 := by decide
  exact hmarks (c, kind) (mem_marks hc) (d, kind) (mem_marks hd) rfl

theorem isWord_of_operator {c : Char} {kind : Kind} (h : operator? c = some kind) (position : Nat) :
    Token.IsWord ⟨kind, String.singleton c, position⟩ where
  ne_empty := by simp
  plain := by simpa using operator?_plain h
  operator := by
    intro d other hd
    simp only [String.singleton_inj]
    constructor
    · rintro rfl
      exact Option.some.inj (h.symm.trans hd)
    · rintro rfl
      exact operator?_injective h hd

theorem isWord_ofRun {c : Char} (h : endsRun c = false) (rest : List Char) (position : Nat) :
    (Token.ofRun (takeRun [c] rest).1 position).IsWord := by
  obtain ⟨hblank, hoperator, hcomma⟩ := endsRun_eq_false.mp h
  refine ⟨Token.ofRun_text_ne_empty (takeRun_ne_nil (by simp)), ?_, ?_⟩
  · rw [Token.ofRun, String.toList_ofList]
    exact takeRun_plain (by simpa using ⟨hblank, hcomma⟩)
  · -- a run has no operator in front, and is a number or a name
    intro d kind hd
    obtain ⟨more, hrun, -⟩ := takeRun_append [c] rest
    obtain ⟨hnumber, hname, -⟩ := operator?_kind hd
    refine iff_of_false (fun htext => ?_) (fun hkind => ?_)
    · have hchars := congrArg String.toList htext
      rw [Token.ofRun, String.toList_ofList, hrun, String.toList_singleton] at hchars
      rw [(List.cons.inj hchars).1, hd] at hoperator
      cases hoperator
    · subst hkind
      simp only [Token.ofRun] at hnumber hname
      split at hnumber <;> simp_all

/-! ## Blanks and words, one after another -/

/-- From column `n` on, the characters are blanks and the words of the tokens, each where its token says. -/
inductive TilesFrom : (n : Nat) → List Char → List Token → Prop
  | done {n} : TilesFrom n [] []
  | blank {n c cs tokens} : Text.isBlank c = true → TilesFrom (n + 1) cs tokens → TilesFrom n (c :: cs) tokens
  | word {n cs t tokens} : t.position = n → t.IsWord → TilesFrom (n + t.text.length) cs tokens →
      TilesFrom n (t.text.toList ++ cs) (t :: tokens)

theorem scan_tilesFrom {source : String} {position : Nat} {cs : List Char} :
    ∀ {tokens : List Token}, scan source position cs = .ok tokens → TilesFrom position cs tokens := by
  fun_induction scan source position cs with
  | case1 =>
    intro tokens h
    cases h
    exact .done
  | case2 position c rest hblank ih =>
    intro tokens h
    exact .blank hblank (ih h)
  | case3 position c rest _ kind hkind ih =>
    intro tokens h
    obtain ⟨later, hl, ht⟩ := bind_eq_ok.mp h
    cases ht
    have hrest : TilesFrom (position + (String.singleton c).length) rest later := by simpa using ih hl
    simpa using TilesFrom.word rfl (isWord_of_operator hkind position) hrest
  | case4 => intro tokens h; cases h
  | case5 position c rest hblank hoperator hcomma =>
    rename_i ih
    intro tokens h
    obtain ⟨later, hl, ht⟩ := bind_eq_ok.mp h
    cases ht
    have hgoes : endsRun c = false := endsRun_eq_false.mpr ⟨by simpa using hblank, hoperator, by simpa using hcomma⟩
    have htail := TilesFrom.word (t := Token.ofRun (takeRun [c] rest).1 position) rfl
      (isWord_ofRun hgoes rest position) (by simpa [Token.ofRun] using ih hl)
    have htext : (Token.ofRun (takeRun [c] rest).1 position).text.toList ++ (takeRun [c] rest).2 = c :: rest := by
      rw [Token.ofRun, String.toList_ofList, takeRun_split]
    rwa [htext] at htail

namespace TilesFrom

variable {n : Nat} {cs : List Char} {tokens : List Token}

/-- A token is found where it says, with the text that it says. -/
theorem split (h : TilesFrom n cs tokens) :
    ∀ t ∈ tokens, t.IsWord ∧ ∃ before after, cs = before ++ (t.text.toList ++ after) ∧ t.position = n + before.length := by
  induction h with
  | done => simp
  | @blank n c cs tokens _ _ ih =>
    intro t ht
    obtain ⟨hword, before, after, rfl, hposition⟩ := ih t ht
    exact ⟨hword, c :: before, after, rfl, by rw [List.length_cons]; omega⟩
  | @word n cs t tokens hposition hword _ ih =>
    rintro u (_ | ⟨_, hu⟩)
    · exact ⟨hword, [], cs, rfl, hposition⟩
    · obtain ⟨hother, before, after, rfl, hplace⟩ := ih u hu
      refine ⟨hother, t.text.toList ++ before, after, by rw [List.append_assoc], ?_⟩
      rw [List.length_append, String.length_toList]
      omega

/-- A text from its start on goes on with a token at its position. -/
theorem starts (h : TilesFrom 0 cs tokens) : ∀ t ∈ tokens,
    t.position + t.text.length ≤ cs.length ∧ t.text.toList <+: cs.drop t.position := by
  intro t ht
  obtain ⟨-, before, after, rfl, hposition⟩ := h.split t ht
  rw [Nat.zero_add] at hposition
  rw [hposition, List.drop_left, List.length_append, List.length_append, String.length_toList]
  exact ⟨by omega, List.prefix_append _ _⟩

/-- A token ends before the next one begins. -/
theorem apart (h : TilesFrom n cs tokens) :
    tokens.Pairwise fun t u => t.position + t.text.length ≤ u.position := by
  induction h with
  | done => exact .nil
  | blank _ _ ih => exact ih
  | @word n cs t tokens hposition _ htail ih =>
    refine List.pairwise_cons.mpr ⟨fun u hu => ?_, ih⟩
    obtain ⟨-, before, -, -, hplace⟩ := htail.split u hu
    omega

/-- A character is blank or inside of a token. -/
theorem blank_or_inside (h : TilesFrom n cs tokens) : ∀ i c, cs[i]? = some c →
    Text.isBlank c = true ∨ ∃ t ∈ tokens, t.position ≤ n + i ∧ n + i < t.position + t.text.length := by
  induction h with
  | done => simp
  | @blank n c cs tokens hc _ ih =>
    rintro (_ | i) d hd
    · cases hd
      exact Or.inl hc
    · refine (ih i d hd).imp_right fun ⟨t, ht, hbounds⟩ => ⟨t, ht, ?_⟩
      omega
  | @word n cs t tokens hposition _ _ ih =>
    intro i d hd
    by_cases hi : i < t.text.length
    · exact Or.inr ⟨t, List.mem_cons_self, by omega⟩
    · rw [List.getElem?_append_right (by rw [String.length_toList]; omega), String.length_toList] at hd
      refine (ih _ d hd).imp_right fun ⟨u, hu, hbounds⟩ => ⟨u, List.mem_cons_of_mem _ hu, ?_⟩
      omega

/-- The words one after the other are the characters without the blanks. -/
theorem texts (h : TilesFrom n cs tokens) :
    tokens.flatMap (fun t => t.text.toList) = cs.filter fun c => !Text.isBlank c := by
  induction h with
  | done => rfl
  | blank hc _ ih => rw [List.filter_cons_of_neg (by simp [hc]), ih]
  | @word n cs t tokens _ hword _ ih =>
    have hself : t.text.toList.filter (fun c => !Text.isBlank c) = t.text.toList :=
      List.filter_eq_self.mpr fun c hc => by simp [(hword.plain c hc).1]
    rw [List.flatMap_cons, List.filter_append, hself, ih]

end TilesFrom

/-! ## Texts with their tokens -/

structure Tiling (source : String) (tokens : List Token) : Prop where
  ne_empty : ∀ t ∈ tokens, t.text ≠ ""
  within : ∀ t ∈ tokens, t.position + t.text.length ≤ source.length
  slice : ∀ t ∈ tokens, (source.toList.drop t.position).take t.text.length = t.text.toList
  increasing : tokens.Pairwise fun t u => t.position < u.position
  apart : tokens.Pairwise fun t u => t.position + t.text.length ≤ u.position
  /-- What lies outside of all tokens is blank. -/
  gaps : ∀ i c, source.toList[i]? = some c →
    (∀ t ∈ tokens, ¬(t.position ≤ i ∧ i < t.position + t.text.length)) → Text.isBlank c = true
  plain : ∀ t ∈ tokens, ∀ c ∈ t.text.toList, Text.isBlank c = false ∧ c ≠ ','
  operator : ∀ t ∈ tokens, ∀ c kind, operator? c = some kind → (t.text = String.singleton c ↔ t.kind = kind)
  joined : String.join (tokens.map Token.text) = String.ofList (source.toList.filter fun c => !Text.isBlank c)

/-- The tokens of a formula tile its text: they are slices of it, apart and in order, with nothing but
blanks between them, and joined they are the text without its blanks. -/
theorem tokenize_tiling {source : String} {limits : Limits} {tokens : List Token}
    (h : tokenize source limits = .ok tokens) : Tiling source tokens := by
  have htiles := scan_tilesFrom (scan_of_tokenize h)
  have hword : ∀ t ∈ tokens, t.IsWord := fun t ht => (htiles.split t ht).1
  refine ⟨fun t ht => (hword t ht).ne_empty, fun t ht => ?_, fun t ht => ?_, ?_, htiles.apart, ?_,
    fun t ht => (hword t ht).plain, fun t ht => (hword t ht).operator, ?_⟩
  · rw [← String.length_toList]
    exact (htiles.starts t ht).1
  · rw [← String.length_toList]
    exact (List.prefix_iff_eq_take.mp (htiles.starts t ht).2).symm
  · refine htiles.apart.imp_of_mem fun {t u} ht _ hle => ?_
    have hpos : 0 < t.text.length := by
      rw [← String.length_toList, List.length_pos_iff, ne_eq, String.toList_eq_nil_iff]
      exact (hword t ht).ne_empty
    omega
  · intro i c hc houtside
    rcases htiles.blank_or_inside i c hc with hblank | ⟨t, ht, hbounds⟩
    · exact hblank
    · rw [Nat.zero_add] at hbounds
      exact absurd hbounds (houtside t ht)
  · rw [← htiles.texts, ← String.toList_inj, String.toList_ofList, String.toList_join, List.flatMap_map]

/-- A sign inside of a number, a sign behind a name that begins like one, and blanks. -/
theorem exponents_tiling :
    ∃ tokens, tokenize " 1e-5 * 2e+x" {} = .ok tokens ∧ tokens.map Token.text = ["1e-5", "*", "2e", "+", "x"] ∧
      Tiling " 1e-5 * 2e+x" tokens := by
  have h : tokenize " 1e-5 * 2e+x" {} =
      .ok [⟨.number, "1e-5", 1⟩, ⟨.star, "*", 6⟩, ⟨.name, "2e", 8⟩, ⟨.plus, "+", 10⟩, ⟨.name, "x", 11⟩] :=
    eq_ok_of_toOption (by decide +kernel)
  exact ⟨_, h, rfl, tokenize_tiling h⟩

end Formwork.Formula
