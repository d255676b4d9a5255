/-
  Formwork.Proofs.Element.Persona: what a persona sees of an element.

  The texts of a variant and its overrides are put into one list by name, the list on top of the
  element, and everything is read again. The list has the texts first, so an override in the spelling of
  a text takes the place of that text, in front of all other overrides (`lastNaming?_overlay`). Title and
  description have one spelling. The tone has two, and its camel-case name always comes behind the
  plain one, in whichever order the overrides have them.

  - `seenBy_shows`: without a variant the element is seen as it is. With one, each field has what
    `override?` takes from the overrides, the texts have those of the variant where it has any, and all else
    is as it was. That is the last override of each field, unless the overrides contradict each other
    about the tone (`ContradictsTone`). The engine holds the element that it held.
  - `later_tone_is_lost`: where they do, the last word is not what is seen.
-/

import Formwork.Proofs.Element.Revision

namespace Formwork

/-- A persona is shown this variant: it is the first one for a persona of that name. -/
def Element.Offers (e : Element) (personaId : Option String) (v : PersonaVariant) : Prop :=
  personaId = some v.personaId ∧ v.personaId ≠ "" ∧
    ∃ before after, e.personaVariants = some (before ++ v :: after) ∧ ∀ u ∈ before, u.personaId ≠ v.personaId

namespace PersonaVariant

def overrides (v : PersonaVariant) : Entries Value := v.contentOverrides.getD []

/-- What the overrides of a variant have for a field: the last one that names it, but for the tone the
one under its camel-case name if there is one. -/
def override? (v : PersonaVariant) (name : String) : Option Value :=
  if name = "emotional_tone" then (v.overrides.get? "emotionalTone").or (v.overrides.get? "emotional_tone")
  else lastNaming? v.overrides name

/-- The overrides say what the tone is by its camel-case name and later, by the plain one, something else. -/
def ContradictsTone (v : PersonaVariant) : Prop :=
  ∃ before between after a b,
    v.overrides = before ++ ("emotionalTone", a) :: (between ++ ("emotional_tone", b) :: after) ∧
    (Schema.optional .text).read a ≠ (Schema.optional .text).read b

def textNames : List String := ["title", "description", "emotional_tone"]

def texts (v : PersonaVariant) (e : Element) : Entries Value := [
  ("title", givenOr v.title (.text e.title)),
  ("description", givenOr v.description (e.description.elim .null .text)),
  ("emotional_tone", givenOr v.emotionalTone (e.emotionalTone.elim .null .text))]

end PersonaVariant

namespace AnyElement

/-- `e'` is `e` with what `override?` has for a field in its place, and with the texts of the variant that are
not empty in place of its own. -/
structure ShowsWith (v : PersonaVariant) (override? : String → Option Value) (e e' : AnyElement) : Prop where
  valid : e'.Valid
  kind : e'.kind = e.kind
  overridden : ∀ c ∈ e'.cells, ∀ w, override? c.name = some w → c.schema.read w = .ok c.value
  title : override? "title" = none → e'.common.title = (v.title.filter (· != "")).getD e.common.title
  description : override? "description" = none →
    e'.common.description = (v.description.filter (· != "")).or e.common.description
  emotionalTone : override? "emotional_tone" = none →
    e'.common.emotionalTone = (v.emotionalTone.filter (· != "")).or e.common.emotionalTone
  others : ∀ c ∈ e'.cells, c.name ∉ PersonaVariant.textNames → override? c.name = none → c ∈ e.cells

end AnyElement

variable {e e' : AnyElement} {common : Element} {v : PersonaVariant} {personaId : Option String} {c : Cell} {w : Value}

/-! ## The overrides of the tone -/

namespace PersonaVariant

theorem names_tone_iff {key : String} : Names key "emotional_tone" ↔ key = "emotional_tone" ∨ key = "emotionalTone" := by
  have hcamel : camel "emotional_tone" = "emotionalTone" := by decide +kernel
  rw [Names, hcamel]

theorem override?_tone (v : PersonaVariant) : v.override? "emotional_tone" =
    (v.overrides.get? "emotionalTone").or (v.overrides.get? "emotional_tone") := if_pos rfl

theorem override?_of_ne {name : String} (h : name ≠ "emotional_tone") : v.override? name = lastNaming? v.overrides name :=
  if_neg h

theorem override?_tone_eq_none : v.override? "emotional_tone" = none ↔ lastNaming? v.overrides "emotional_tone" = none := by
  rw [override?_tone, Option.or_eq_none_iff, Entries.get?_eq_none, Entries.get?_eq_none, lastNaming?_eq_none]
  simp only [names_tone_iff, List.mem_map, not_exists, not_and, not_or]
  exact ⟨fun h u hu => ⟨h.2 u hu, h.1 u hu⟩, fun h => ⟨fun u hu => (h u hu).2, fun u hu => (h u hu).1⟩⟩

variable (hd : v.overrides.Distinct)

include hd

/-- Where the plain name of the tone comes behind the camel-case one, the former is the last and the latter counts. -/
theorem tone_of_camel_first {before between after : Entries Value} {a b : Value}
    (h : v.overrides = before ++ ("emotionalTone", a) :: (between ++ ("emotional_tone", b) :: after)) :
    v.override? "emotional_tone" = some a ∧ lastNaming? v.overrides "emotional_tone" = some b := by
  have hcamel : v.overrides.get? "emotionalTone" = some a :=
    (Entries.get?_eq_some hd).mpr (h ▸ List.mem_append_right _ List.mem_cons_self)
  refine ⟨by rw [override?_tone, hcamel, Option.some_or], ?_⟩
  refine lastNaming?_eq_some.mpr ⟨before ++ ("emotionalTone", a) :: between, "emotional_tone", after, ?_, Or.inl rfl, ?_⟩
  · rw [h, List.append_assoc, List.cons_append]
  · -- either name is there already
    intro u hu hnames
    rw [h, Entries.Distinct, List.map_append, List.nodup_append, List.map_cons, List.map_append, List.map_cons,
      List.nodup_cons, List.nodup_append, List.nodup_cons] at hd
    obtain ⟨-, ⟨hfirst, -, ⟨hsecond, -⟩, -⟩, -⟩ := hd
    have hmem : u.1 ∈ after.map (·.1) := List.mem_map_of_mem hu
    rcases names_tone_iff.mp hnames with hu' | hu'
    · exact hsecond (hu' ▸ hmem)
    · exact hfirst (List.mem_append_right _ (List.mem_cons_of_mem _ (hu' ▸ hmem)))

/-- The last override of the tone counts, or the camel-case name comes before the plain one. -/
theorem tone_cases {b : Value} (h : lastNaming? v.overrides "emotional_tone" = some b) :
    v.override? "emotional_tone" = some b ∨ ∃ before between after a,
      v.overrides = before ++ ("emotionalTone", a) :: (between ++ ("emotional_tone", b) :: after) := by
  obtain ⟨before, key, after, hsplit, hnames, hafter⟩ := lastNaming?_eq_some.mp h
  have hmem : (key, b) ∈ v.overrides := hsplit ▸ List.mem_append_right _ List.mem_cons_self
  rw [override?_tone]
  rcases names_tone_iff.mp hnames with rfl | rfl
  · cases hcamel : v.overrides.get? "emotionalTone" with
    | none => exact Or.inl (by rw [Option.none_or, (Entries.get?_eq_some hd).mpr hmem])
    | some a =>
      refine Or.inr ?_
      have ha := Entries.mem_of_get? hcamel
      rw [hsplit, List.mem_append, List.mem_cons] at ha
      rcases ha with ha | ha | ha
      · obtain ⟨first, between, rfl⟩ := List.append_of_mem ha
        exact ⟨first, between, after, a, by rw [hsplit, List.append_assoc, List.cons_append]⟩
      · have hname : "emotionalTone" = "emotional_tone" := congrArg Prod.fst ha
        exact absurd hname (by decide)
      · exact absurd (names_tone_iff.mpr (Or.inr rfl)) (hafter _ ha)
  · exact Or.inl (by rw [(Entries.get?_eq_some hd).mpr hmem, Option.some_or])

/-- The overrides contradict each other when the one that counts is not what the last one says. -/
theorem contradictsTone_iff : v.ContradictsTone ↔ ∃ a b, v.override? "emotional_tone" = some a ∧
    lastNaming? v.overrides "emotional_tone" = some b ∧ (Schema.optional .text).read a ≠ (Schema.optional .text).read b := by
  constructor
  · rintro ⟨before, between, after, a, b, hsplit, hne⟩
    obtain ⟨hcounts, hlast⟩ := tone_of_camel_first hd hsplit
    exact ⟨a, b, hcounts, hlast, hne⟩
  · rintro ⟨a, b, hcounts, hlast, hne⟩
    rcases tone_cases hd hlast with hsame | ⟨before, between, after, a', hsplit⟩
    · obtain rfl := Option.some.inj (hcounts.symm.trans hsame)
      exact absurd rfl hne
    · obtain rfl := Option.some.inj (hcounts.symm.trans (tone_of_camel_first hd hsplit).1)
      exact ⟨before, between, after, a, b, hsplit, hne⟩

end PersonaVariant

/-! ## The overlay -/

namespace AnyElement

theorem title_mem_cells (e : AnyElement) : ⟨"title", .text, some "", e.common.title⟩ ∈ e.cells := by
  cases e <;> exact List.mem_of_getElem? (i := 5) rfl

theorem description_mem_cells (e : AnyElement) :
    ⟨"description", .optional .text, some none, e.common.description⟩ ∈ e.cells := by
  cases e <;> exact List.mem_of_getElem? (i := 6) rfl

theorem emotionalTone_mem_cells (e : AnyElement) :
    ⟨"emotional_tone", .optional .text, some none, e.common.emotionalTone⟩ ∈ e.cells := by
  cases e <;> exact List.mem_of_getElem? (i := 8) rfl

theorem personaVariants_mem_cells (e : AnyElement) :
    ⟨"persona_variants", .optional (.list PersonaVariant.schema), some none, e.common.personaVariants⟩ ∈ e.cells := by
  cases e <;> exact List.mem_of_getElem? (i := 14) rfl

/-- The name of a text is in no other spelling the name of a field. -/
theorem names_textName_iff {key : String} (hc : c ∈ e.cells) (hkey : key ∈ PersonaVariant.textNames) :
    Names key c.name ↔ key = c.name := by
  obtain ⟨c', hc', rfl⟩ : ∃ c' ∈ e.cells, c'.name = key := by
    simp only [PersonaVariant.textNames, List.mem_cons, List.not_mem_nil, or_false] at hkey
    rcases hkey with rfl | rfl | rfl
    · exact ⟨_, e.title_mem_cells, rfl⟩
    · exact ⟨_, e.description_mem_cells, rfl⟩
    · exact ⟨_, e.emotionalTone_mem_cells, rfl⟩
  exact ⟨fun h => congrArg Cell.name (eq_of_names hc' hc (Or.inl rfl) h), Or.inl⟩

/-- No variant of an element that some document stands for has two overrides under one name. -/
theorem distinct_overrides (he : e.Valid) (hv : e.common.Offers personaId v) : v.overrides.Distinct := by
  obtain ⟨-, -, before, after, hvariants, -⟩ := hv
  obtain ⟨kind, a, rfl⟩ := e.exists_ofKind
  have hcell := (ofKind kind a).personaVariants_mem_cells
  rw [cells_ofKind] at hcell
  have hadmits := Schema.admits_of_mem_cells (valid_ofKind.mp he) hcell
  rw [hvariants] at hadmits
  have hvariant : PersonaVariant.schema.admits v = true :=
    List.all_eq_true.mp hadmits v (List.mem_append_right _ List.mem_cons_self)
  rw [PersonaVariant.overrides]
  cases hoverrides : v.contentOverrides with
  | none => exact Entries.distinct_nil
  | some overrides =>
    simp only [PersonaVariant.schema, Schema.admits, Fields.admits, hoverrides, Option.all_some, Bool.and_eq_true,
      decide_eq_true_eq] at hvariant
    exact hvariant.2.2.2.2.1.1

/-- On top of an element, an override of a field counts, and a text of the variant where there is none. -/
theorem lastNaming?_overlay (hd : v.overrides.Distinct) (hc : c ∈ e'.cells) :
    lastNaming? (v.overlay common) c.name = (v.override? c.name).or ((v.texts common).get? c.name) := by
  let replaced : Entries Value := (v.texts common).map fun t => (t.1, (v.overrides.get? t.1).getD t.2)
  let rest : Entries Value := v.overrides.filter fun u => u.1 ∉ PersonaVariant.textNames
  have hoverlay : v.overlay common = replaced ++ rest := Entries.foldl_put_of_distinct hd
  have hrest : rest.Distinct := hd.sublist (List.filter_sublist.map _)
  have hget (key : String) : rest.get? key = if key ∉ PersonaVariant.textNames then v.overrides.get? key else none := by
    rw [Entries.get?_filter (fun key => decide (key ∉ PersonaVariant.textNames))]
    exact if_congr decide_eq_true_iff rfl rfl
  have hreplaced : lastNaming? replaced c.name = replaced.get? c.name := by
    refine lastNaming?_eq_get? (show List.Nodup PersonaVariant.textNames by decide) fun u hu => ?_
    exact names_textName_iff hc (show u.1 ∈ replaced.map (·.1) from List.mem_map_of_mem hu)
  rw [hoverlay, lastNaming?_append, hreplaced]
  by_cases htone : c.name = "emotional_tone"
  · -- only the camel-case name comes behind the texts
    have hcamel : lastNaming? rest c.name = rest.get? "emotionalTone" := by
      refine lastNaming?_eq_get? hrest fun u hu => ?_
      have hplain : u.1 ≠ "emotional_tone" := by
        intro he
        simp [rest, he, PersonaVariant.textNames] at hu
      rw [htone, PersonaVariant.names_tone_iff, or_iff_right hplain]
    rw [hcamel, hget, htone, PersonaVariant.override?_tone, Option.or_assoc]
    simp [replaced, PersonaVariant.texts, PersonaVariant.textNames, Entries.get?_cons]
  rw [PersonaVariant.override?_of_ne htone]
  by_cases htext : c.name ∈ PersonaVariant.textNames
  · simp only [PersonaVariant.textNames, List.mem_cons, List.not_mem_nil, or_false, htone] at htext
    have hcamel : camel c.name = c.name := by rcases htext with hname | hname <;> rw [hname] <;> decide +kernel
    have hplain (updates : Entries Value) (hd : updates.Distinct) : lastNaming? updates c.name = updates.get? c.name :=
      lastNaming?_eq_get? hd fun u _ => by rw [Names, hcamel, or_self]
    rw [hplain rest hrest, hplain v.overrides hd, hget]
    rcases htext with hname | hname <;>
      simp [hname, replaced, PersonaVariant.texts, PersonaVariant.textNames, Entries.get?_cons]
  · have hsame : lastNaming? rest c.name = lastNaming? v.overrides c.name := by
      refine lastNaming?_filter (p := fun key => decide (key ∉ PersonaVariant.textNames)) (fun key hkey => ?_) _
      exact decide_eq_true fun hmem => htext ((names_textName_iff hc hmem).mp hkey ▸ hmem)
    have hnone (entries : Entries Value) (h : entries.map (·.1) = PersonaVariant.textNames) : entries.get? c.name = none :=
      Entries.get?_eq_none.mpr (h ▸ htext)
    rw [hsame, hnone replaced rfl, hnone (v.texts common) rfl]

theorem givenOr_text (given : Option String) (default : String) :
    givenOr given (.text default) = .text ((given.filter (· != "")).getD default) := by
  unfold givenOr
  cases given.filter (· != "") <;> rfl

theorem givenOr_elim (given default : Option String) :
    givenOr given (default.elim .null .text) = ((given.filter (· != "")).or default).elim .null .text := by
  unfold givenOr
  cases given.filter (· != "") <;> rfl

theorem read_optional_elim (text : Option String) : (Schema.optional .text).read (text.elim .null .text) = .ok text := by
  cases text <;> rfl

/-- What comes of an element under a variant. -/
theorem showsWith_of_amend (he : e.Valid) (hd : v.overrides.Distinct) (h : e.amend (v.overlay e.common) [] = .ok e') :
    ShowsWith v v.override? e e' := by
  obtain ⟨hvalid, hkind, hcells⟩ := cells_amend he h
  have htext {c : Cell} (hc : c ∈ e'.cells) (hnone : v.override? c.name = none) :
      lastNaming? (v.overlay e.common) c.name = (v.texts e.common).get? c.name := by
    rw [lastNaming?_overlay hd hc, hnone, Option.none_or]
  refine ⟨hvalid, hkind, ?_, ?_, ?_, ?_, ?_⟩
  · intro c hc w hw
    exact (hcells c hc).1 w (by rw [lastNaming?_overlay hd hc, hw, Option.some_or])
  · intro hnone
    have hc := e'.title_mem_cells
    have hread := (hcells _ hc).1 _ (htext hc hnone)
    rw [givenOr_text] at hread
    exact (Except.ok.inj hread).symm
  · intro hnone
    have hc := e'.description_mem_cells
    have hread := (hcells _ hc).1 _ (htext hc hnone)
    rw [givenOr_elim, read_optional_elim] at hread
    exact (Except.ok.inj hread).symm
  · intro hnone
    have hc := e'.emotionalTone_mem_cells
    have hread := (hcells _ hc).1 _ (htext hc hnone)
    rw [givenOr_elim, read_optional_elim] at hread
    exact (Except.ok.inj hread).symm
  · intro c hc htexts hnone
    refine (hcells c hc).2 ?_
    rw [htext hc hnone, Entries.get?_eq_none]
    exact htexts

/-- What is seen has the last override of every field unless these contradict each other about the tone. -/
theorem ShowsWith.last_iff (hd : v.overrides.Distinct) (h : ShowsWith v v.override? e e') :
    ShowsWith v (lastNaming? v.overrides) e e' ↔ ¬ v.ContradictsTone := by
  rw [PersonaVariant.contradictsTone_iff hd]
  have htone := e'.emotionalTone_mem_cells
  constructor
  · rintro hlast ⟨a, b, hcounts, hsaid, hne⟩
    exact hne ((h.overridden _ htone a hcounts).trans (hlast.overridden _ htone b hsaid).symm)
  · intro hagree
    have hof {name : String} (hname : name ≠ "emotional_tone") := PersonaVariant.override?_of_ne (v := v) hname
    refine ⟨h.valid, h.kind, ?_, ?_, ?_, ?_, ?_⟩
    · intro c hc w hw
      by_cases hname : c.name = "emotional_tone"
      · obtain rfl := eq_of_names hc htone (Or.inl hname.symm) (Or.inl rfl)
        cases hcounts : v.override? "emotional_tone" with
        | none => exact absurd (PersonaVariant.override?_tone_eq_none.mp hcounts) (hw ▸ nofun)
        | some a =>
          have hsame : (Schema.optional .text).read a = (Schema.optional .text).read w := by
            by_contra hne
            exact hagree ⟨a, w, hcounts, hw, hne⟩
          exact hsame.symm.trans (h.overridden _ htone a hcounts)
      · exact h.overridden c hc w (by rwa [hof hname])
    · exact fun hnone => h.title (by rwa [hof (by decide)])
    · exact fun hnone => h.description (by rwa [hof (by decide)])
    · exact fun hnone => h.emotionalTone (PersonaVariant.override?_tone_eq_none.mpr hnone)
    · intro c hc htexts hnone
      have hname : c.name ≠ "emotional_tone" := fun hname => htexts (hname ▸ by decide)
      exact h.others c hc htexts (by rwa [hof hname])

/-! ## The variant of a persona -/

theorem variant?_eq_some {id : String} : common.variant? id = some v ↔ common.Offers (some id) v := by
  rw [Element.variant?, Element.Offers, Option.some.injEq]
  split
  · next hempty =>
    refine iff_of_false (fun h => nomatch h) ?_
    rintro ⟨hid, hne, -⟩
    exact hne (hid ▸ beq_iff_eq.mp hempty)
  · next hne =>
    rw [List.find?_eq_some_iff_append, beq_iff_eq, eq_comm]
    refine and_congr_right fun hid => ?_
    rw [← hid, and_iff_right (by simpa using hne)]
    simp only [Bool.not_eq_eq_eq_not, Bool.not_true, beq_eq_false_iff_ne]
    cases common.personaVariants <;> simp

theorem variant?_eq_none {id : String} :
    common.variant? id = none ↔ id = "" ∨ ∀ u ∈ common.personaVariants.getD [], u.personaId ≠ id := by
  by_cases hempty : id = "" <;> simp [Element.variant?, hempty]

theorem forPersona_of_offers {id : String} (hv : e.common.Offers (some id) v) :
    e.forPersona id = e.amend (v.overlay e.common) [] := by
  rw [forPersona, variant?_eq_some.mpr hv]

/-- The texts of a variant can be read as what they stand for. -/
theorem read_texts (hc : c ∈ e.cells) (hw : (v.texts common).get? c.name = some w) : ∃ x, c.schema.read w = .ok x := by
  have hmem : (c.name, w) ∈ v.texts common := Entries.mem_of_get? hw
  simp only [PersonaVariant.texts, List.mem_cons, List.not_mem_nil, or_false, Prod.mk.injEq] at hmem
  rcases hmem with ⟨hname, rfl⟩ | ⟨hname, rfl⟩ | ⟨hname, rfl⟩
  · obtain rfl := eq_of_names hc e.title_mem_cells (Or.inl hname.symm) (Or.inl rfl)
    exact ⟨_, by rw [givenOr_text]; rfl⟩
  · obtain rfl := eq_of_names hc e.description_mem_cells (Or.inl hname.symm) (Or.inl rfl)
    exact ⟨_, by rw [givenOr_elim, read_optional_elim]⟩
  · obtain rfl := eq_of_names hc e.emotionalTone_mem_cells (Or.inl hname.symm) (Or.inl rfl)
    exact ⟨_, by rw [givenOr_elim, read_optional_elim]⟩

/-- A variant can be shown if what counts of its overrides can be read. -/
theorem exists_amend_overlay (he : e.Valid) (hd : v.overrides.Distinct) :
    (∃ e', e.amend (v.overlay e.common) [] = .ok e') ↔
      ∀ c ∈ e.cells, ∀ w, v.override? c.name = some w → ∃ x, c.schema.read w = .ok x := by
  rw [exists_amend he]
  refine forall₂_congr fun c hc => ?_
  rw [lastNaming?_overlay hd hc]
  cases hoverride : v.override? c.name with
  | some _ => rfl
  | none => simpa using fun w hw => read_texts hc hw

/-! ## What an engine shows -/

theorem run_seenBy (personaId : Option String) (e : AnyElement) :
    (seenBy personaId).run.run e = (personaId.elim (.ok e) e.forPersona, e) := by cases personaId <;> rfl

/-- Without a persona, or without a variant for it, an engine shows the element as it is. With one, it
shows what the overrides have for each field, the texts of the variant where these are not empty, and
else the element, exactly when the overrides can be read. The last override of every field is what is
shown, exactly when the overrides do not contradict each other about the tone. The engine
holds what it held. -/
theorem seenBy_shows (e : AnyElement) (he : e.Valid) (personaId : Option String) :
    ((personaId = none ∨ personaId = some "" ∨ ∀ u ∈ e.common.personaVariants.getD [], personaId ≠ some u.personaId) →
      (seenBy personaId).run.run e = (.ok e, e)) ∧
    ∀ v, e.common.Offers personaId v →
      ((seenBy personaId).run.run e).2 = e ∧
      ((∃ e', ((seenBy personaId).run.run e).1 = .ok e') ↔
        ∀ c ∈ e.cells, ∀ w, v.override? c.name = some w → ∃ x, c.schema.read w = .ok x) ∧
      ∀ e', ((seenBy personaId).run.run e).1 = .ok e' →
        ShowsWith v v.override? e e' ∧ (ShowsWith v (lastNaming? v.overrides) e e' ↔ ¬ v.ContradictsTone) := by
  rw [run_seenBy]
  constructor
  · intro hnone
    cases personaId with
    | none => rfl
    | some id =>
      have hvariant : e.common.variant? id = none := by
        rw [variant?_eq_none]
        simpa [eq_comm] using hnone
      rw [Option.elim_some, forPersona, hvariant]
  · intro v hv
    have hd : v.overrides.Distinct := distinct_overrides he hv
    have hid : personaId = some v.personaId := hv.1
    rw [hid] at hv ⊢
    rw [Option.elim_some, forPersona_of_offers hv]
    refine ⟨rfl, exists_amend_overlay he hd, fun e' he' => ?_⟩
    have hshows := showsWith_of_amend he hd he'
    exact ⟨hshows, hshows.last_iff hd⟩

def forGuests (overrides : Entries Value) : PersonaVariant where
  personaId := "guest"
  title := some ""
  description := some "For guests"
  contentOverrides := some overrides

def tipsFor (overrides : Entries Value) : AnyElement := .calculator {
  id := "tips"
  title := "Tips"
  websiteId := "w"
  emotionalTone := some "calm"
  outputs := [{ id := "tip", label := "Tip", formula := "0.1" }]
  personaVariants := some [forGuests overrides] }

theorem offers_tipsFor (overrides : Entries Value) :
    (tipsFor overrides).common.Offers (some "guest") (forGuests overrides) :=
  ⟨rfl, by simp [forGuests], [], [], rfl, by simp⟩

def spelledTwice : Entries Value :=
  [("emotional_tone", .text "bright"), ("pageId", .text "old"), ("emotionalTone", .text "warm"), ("page_id", .text "new")]

/-- Guests are shown the last ones; others see the calculator as it is. -/
theorem tips_spelledTwice :
    (seenBy (some "visitor")).run.run (tipsFor spelledTwice) = (.ok (tipsFor spelledTwice), tipsFor spelledTwice) ∧
    ∃ seen, (seenBy (some "guest")).run.run (tipsFor spelledTwice) = (.ok seen, tipsFor spelledTwice) ∧
      ShowsWith (forGuests spelledTwice) (lastNaming? spelledTwice) (tipsFor spelledTwice) seen ∧
      seen.common.title = "Tips" ∧ seen.common.description = some "For guests" ∧ seen.common.pageId = some "new" ∧
      seen.common.emotionalTone = some "warm" := by
  have hvalid : (tipsFor spelledTwice).Valid := valid_ofKind.mpr (show (schema .calculator).admits _ = true by decide +kernel)
  have hseen : ((tipsFor spelledTwice).forPersona "guest").toOption.map
      (fun seen => (seen.common.title, seen.common.description, seen.common.pageId, seen.common.emotionalTone)) =
      some ("Tips", some "For guests", some "new", some "warm") := by decide +kernel
  obtain ⟨seen, hseen, htexts⟩ := Option.map_eq_some_iff.mp hseen
  simp only [Prod.mk.injEq] at htexts
  have hrun := run_seenBy (some "guest") (tipsFor spelledTwice)
  rw [Option.elim_some, eq_ok_of_toOption hseen] at hrun
  have hvisitor := (seenBy_shows (tipsFor spelledTwice) hvalid (some "visitor")).1
    (Or.inr (Or.inr (by simp [tipsFor, common, forGuests])))
  have hguest := ((seenBy_shows (tipsFor spelledTwice) hvalid (some "guest")).2 _ (offers_tipsFor spelledTwice)).2.2 seen
    (by rw [hrun])
  have hagree : ¬ (forGuests spelledTwice).ContradictsTone := by
    have hd : (forGuests spelledTwice).overrides.Distinct := show spelledTwice.Distinct by decide
    rw [PersonaVariant.contradictsTone_iff hd]
    rintro ⟨a, b, hcounts, hlast, hne⟩
    have hsame : (forGuests spelledTwice).override? "emotional_tone" = lastNaming? spelledTwice "emotional_tone" := rfl
    have hab : some a = some b := hcounts.symm.trans (hsame.trans hlast)
    exact hne (congrArg _ (Option.some.inj hab))
  exact ⟨hvisitor, seen, hrun, hguest.2.mpr hagree, htexts⟩

def plainLast : Entries Value := [("emotionalTone", .text "warm"), ("emotional_tone", .text "bright")]

/-- Guests are shown the first one. An update with these values has the last. -/
theorem later_tone_is_lost :
    (tipsFor plainLast).Valid ∧ (tipsFor plainLast).common.Offers (some "guest") (forGuests plainLast) ∧
    lastNaming? plainLast "emotional_tone" = some (.text "bright") ∧
    (∃ seen, (seenBy (some "guest")).run.run (tipsFor plainLast) = (.ok seen, tipsFor plainLast) ∧
      seen.common.emotionalTone = some "warm" ∧
      ¬ ShowsWith (forGuests plainLast) (lastNaming? plainLast) (tipsFor plainLast) seen) ∧
    ∃ held, (tipsFor plainLast).update plainLast (.midnight ⟨2024, 1, 2⟩) = .ok held ∧
      held.common.emotionalTone = some "bright" := by
  have hvalid : (tipsFor plainLast).Valid := valid_ofKind.mpr (show (schema .calculator).admits _ = true by decide +kernel)
  have hseen : ((tipsFor plainLast).forPersona "guest").toOption.map (·.common.emotionalTone) = some (some "warm") := by
    decide +kernel
  have hheld : ((tipsFor plainLast).update plainLast (.midnight ⟨2024, 1, 2⟩)).toOption.map (·.common.emotionalTone) =
      some (some "bright") := by decide +kernel
  obtain ⟨seen, hseen, hwarm⟩ := Option.map_eq_some_iff.mp hseen
  obtain ⟨held, hheld, hbright⟩ := Option.map_eq_some_iff.mp hheld
  have hrun := run_seenBy (some "guest") (tipsFor plainLast)
  rw [Option.elim_some, eq_ok_of_toOption hseen] at hrun
  refine ⟨hvalid, offers_tipsFor plainLast, rfl, ⟨seen, hrun, hwarm, fun hlast => ?_⟩, held, eq_ok_of_toOption hheld, hbright⟩
  have hread : Except.ok (some "bright") = Except.ok seen.common.emotionalTone :=
    hlast.overridden _ seen.emotionalTone_mem_cells (.text "bright") rfl
  rw [hwarm] at hread
  exact absurd (Except.ok.inj hread) (by decide)

end AnyElement

end Formwork
