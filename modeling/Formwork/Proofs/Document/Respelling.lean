/-
  Formwork.Proofs.Document.Respelling: documents that spell some of their names the other way.

  Each record of a document may spell any of its names in camel case or plain, one by one. As long
  as none names a field twice, the spelling is seen in the paths of issues only: the value
  that is read, or the kinds of the issues in their order, stay the same
  (`Schema.outcome_respelled`). A record that has a field under both names is read as if
  the plain one was not there.

  - `read_respelled`: so it is for all elements, responses and their parts, and for elements of
    any kind, whose kind is found in either spelling.
-/

import Formwork.Proofs.Document.Models

namespace Formwork

def Spells (name : String) (key : Scalar) : Prop := key = .text (camel name) ∨ key = .text name

/-- The key stays as it is, or it is the camel-case spelling of a name and becomes the plain one. -/
def Fields.Renames {ρ : Type} (fields : Fields ρ) (key key' : Scalar) : Prop :=
  key' = key ∨ ∃ name ∈ fields.names, key = .text (camel name) ∧ key' = .text name

/-- No field has an entry under both of its names; the keys are distinct, as those of an object are. -/
def Fields.NamedOnce {ρ : Type} (fields : Fields ρ) (es : List (Scalar × Value)) : Prop :=
  (es.map (·.1)).Nodup ∧ ∀ name ∈ fields.names, camel name ≠ name →
    ¬ ((Value.field? es (camel name)).isSome = true ∧ (Value.field? es name).isSome = true)

instance {ρ : Type} (fields : Fields ρ) (es : List (Scalar × Value)) : Decidable (fields.NamedOnce es) :=
  inferInstanceAs (Decidable (_ ∧ ∀ name ∈ fields.names, _))

mutual

/-- The second document is the first one with some names of its records in the plain spelling. -/
def Schema.Respells : {α : Type} → Schema α → Value → Value → Prop
  | _, .optional s, v, w => s.Respells v w
  | _, .list s, v, w =>
    match v, w with
    | .list vs, .list ws => List.Forall₂ s.Respells vs ws
    | v, w => v = w
  | _, .entries s, v, w =>
    match v, w with
    | .map es, .map es' => List.Forall₂ (fun e e' => e.1 = e'.1 ∧ s.Respells e.2 e'.2) es es'
    | v, w => v = w
  | _, .record fields _ _ _ _, v, w =>
    match v, w with
    | .map es, .map es' =>
      List.Forall₂ (fun e e' => fields.Renames e.1 e'.1 ∧ fields.Respells e.1 e.2 e'.2) es es'
    | v, w => v = w
  | _, _, v, w => v = w

/-- The second value is the first one respelled as a value of the field that the key spells; under
another key it is the same. -/
def Fields.Respells : {ρ : Type} → Fields ρ → Scalar → Value → Value → Prop
  | _, .done, _, v, w => v = w
  | _, .field name s _ rest, key, v, w =>
    (Spells name key → s.Respells v w) ∧ (¬ Spells name key → rest.Respells key v w)

end

mutual

def Schema.NamesOnce : {α : Type} → Schema α → Value → Prop
  | _, .optional s, v => s.NamesOnce v
  | _, .list s, v =>
    match v with
    | .list vs => ∀ v ∈ vs, s.NamesOnce v
    | _ => True
  | _, .entries s, v =>
    match v with
    | .map es => ∀ e ∈ es, s.NamesOnce e.2
    | _ => True
  | _, .record fields _ _ _ _, v =>
    match v with
    | .map es => fields.NamedOnce es ∧ ∀ e ∈ es, fields.NamesOnce e.1 e.2
    | _ => True
  | _, _, _ => True

def Fields.NamesOnce : {ρ : Type} → Fields ρ → Scalar → Value → Prop
  | _, .done, _, _ => True
  | _, .field name s _ rest, key, v => (Spells name key → s.NamesOnce v) ∧ (¬ Spells name key → rest.NamesOnce key v)

end

/-- The value, or the kinds of the issues in their order. -/
def Checked.outcome {α : Type} (x : Checked α) : Except (List IssueKind) α := x.mapError (List.map Issue.kind)

variable {α β ρ : Type} {s : Schema α} {fields : Fields ρ} {v w : Value} {es es' : List (Scalar × Value)}
  {name : String} {key key' : Scalar}

/-! ## Outcomes -/

namespace Checked

variable {read : Value → Checked α} {x x' : Checked α} {y y' : Checked β}

/-- Outcomes are the same when the values are, or the kinds of the issues. -/
theorem outcome_eq_iff : x.outcome = x'.outcome ↔ (∃ a, x = .ok a ∧ x' = .ok a) ∨
    ∃ issues issues', x = .error issues ∧ x' = .error issues' ∧ issues.map Issue.kind = issues'.map Issue.kind := by
  constructor
  · intro h
    cases x with
    | ok a =>
      cases x' with
      | ok a' => exact Or.inl ⟨a, rfl, by rw [Except.ok.inj h]⟩
      | error issues' => cases h
    | error issues =>
      cases x' with
      | ok a' => cases h
      | error issues' => exact Or.inr ⟨issues, issues', rfl, rfl, Except.error.inj h⟩
  · rintro (⟨a, rfl, rfl⟩ | ⟨issues, issues', rfl, rfl, hkinds⟩)
    · rfl
    · exact congrArg Except.error hkinds

theorem outcome_within (step : PathStep) (x : Checked α) : (within step x).outcome = x.outcome := by
  cases x with
  | ok a => rfl
  | error issues =>
    refine congrArg Except.error ?_
    rw [below, List.map_map]
    rfl

theorem outcome_map (h : x.outcome = x'.outcome) (f : α → β) :
    Checked.outcome (x.map f) = Checked.outcome (x'.map f) := by
  rcases outcome_eq_iff.mp h with ⟨a, rfl, rfl⟩ | ⟨issues, issues', rfl, rfl, hkinds⟩
  · rfl
  · exact congrArg Except.error hkinds

theorem outcome_both (hx : x.outcome = x'.outcome) (hy : y.outcome = y'.outcome) :
    (both x y).outcome = (both x' y').outcome := by
  rcases outcome_eq_iff.mp hx with ⟨a, rfl, rfl⟩ | ⟨issues, issues', rfl, rfl, hkinds⟩
  · rcases outcome_eq_iff.mp hy with ⟨b, rfl, rfl⟩ | ⟨others, others', rfl, rfl, hothers⟩
    · rfl
    · exact congrArg Except.error hothers
  · rcases outcome_eq_iff.mp hy with ⟨b, rfl, rfl⟩ | ⟨others, others', rfl, rfl, hothers⟩
    · exact congrArg Except.error hkinds
    · refine congrArg Except.error ?_
      rw [List.map_append, List.map_append, hkinds, hothers]

theorem outcome_items {vs ws : List Value} (h : List.Forall₂ (fun v w => (read v).outcome = (read w).outcome) vs ws) :
    ∀ i, (items read i vs).outcome = (items read i ws).outcome := by
  induction h with
  | nil => exact fun _ => rfl
  | cons hread _ ih =>
    intro i
    refine outcome_map (outcome_both ?_ (ih (i + 1))) _
    rw [outcome_within, outcome_within, hread]

theorem outcome_entries
    (h : List.Forall₂ (fun e e' => e.1 = e'.1 ∧ (read e.2).outcome = (read e'.2).outcome) es es') :
    (entries read es).outcome = (entries read es').outcome := by
  induction h with
  | nil => rfl
  | @cons e e' _ _ hread _ ih =>
    obtain ⟨k, v⟩ := e
    obtain ⟨k', v'⟩ := e'
    obtain ⟨rfl, hread⟩ := hread
    refine outcome_map (outcome_both (outcome_both rfl ?_) ih) _
    rw [outcome_within, outcome_within, hread]

/-- A field is read from what is found under either of its names. -/
theorem outcome_field {default : Option α}
    (h : Option.Rel (fun v w => (read v).outcome = (read w).outcome)
      (Value.spelled? es name) (Value.spelled? es' name)) :
    (field read name default es).outcome = (field read name default es').outcome := by
  have hfound : ∀ es, (field read name default es).outcome =
      (Value.spelled? es name).elim (default.elim (.error [.missing]) .ok) fun v => (read v).outcome := by
    intro es
    unfold field Value.spelled?
    cases Value.field? es (camel name) with
    | some v => exact outcome_within _ _
    | none =>
      cases Value.field? es name with
      | some v => exact outcome_within _ _
      | none => cases default <;> rfl
  rw [hfound, hfound]
  generalize Value.spelled? es name = found at h
  generalize Value.spelled? es' name = found' at h
  cases h with
  | none => rfl
  | some hread => exact hread

end Checked

/-! ## Spellings of a name -/

theorem Fields.Apart.spells_unique {n m : String} (h : fields.Apart) (hn : n ∈ fields.names) (hm : m ∈ fields.names)
    (hkn : Spells n key) (hkm : Spells m key) : n = m := by
  rcases hkn with rfl | rfl
  · rcases hkm with hkm | hkm
    · exact h.eq_of_spell_eq .camel .camel hn hm (Scalar.text.inj hkm)
    · exact h.eq_of_spell_eq .camel .plain hn hm (Scalar.text.inj hkm)
  · rcases hkm with hkm | hkm
    · exact h.eq_of_spell_eq .plain .camel hn hm (Scalar.text.inj hkm)
    · exact Scalar.text.inj hkm

/-- A renamed key spells the same names. -/
theorem Fields.Renames.spells_iff (hr : fields.Renames key key') (h : fields.Apart) (hname : name ∈ fields.names) :
    Spells name key ↔ Spells name key' := by
  rcases hr with rfl | ⟨n, hn, rfl, rfl⟩
  · rfl
  · constructor
    · intro hspells
      obtain rfl := h.spells_unique hname hn hspells (Or.inl rfl)
      exact Or.inr rfl
    · intro hspells
      obtain rfl := h.spells_unique hname hn hspells (Or.inr rfl)
      exact Or.inl rfl

namespace Value

theorem field?_cons (e : Scalar × Value) (es : List (Scalar × Value)) (name : String) :
    field? (e :: es) name = if e.1 = .text name then some e.2 else field? es name := by
  by_cases h : e.1 = .text name <;> simp [field?, h]

theorem field?_eq_none : field? es name = none ↔ ∀ e ∈ es, e.1 ≠ .text name := by
  rw [field?, Option.map_eq_none_iff, List.find?_eq_none]
  simp only [beq_iff_eq, ne_eq]

theorem isSome_field? {e : Scalar × Value} (he : e ∈ es) (hkey : e.1 = .text name) :
    (field? es name).isSome = true := by
  rw [Option.isSome_iff_ne_none, Ne, field?_eq_none]
  exact fun h => h e he hkey

theorem spelled?_cons_of_spells {e : Scalar × Value} (h : Spells name e.1) (hrest : ∀ f ∈ es, ¬ Spells name f.1) :
    spelled? (e :: es) name = some e.2 := by
  rw [spelled?, field?_cons, field?_cons]
  by_cases hcamel : e.1 = .text (camel name)
  · rw [if_pos hcamel, Option.some_or]
  · rw [if_neg hcamel, if_pos (h.resolve_left hcamel), field?_eq_none.mpr fun f hf hkey => hrest f hf (Or.inl hkey),
      Option.none_or]

theorem spelled?_cons_of_not_spells {e : Scalar × Value} (h : ¬ Spells name e.1) :
    spelled? (e :: es) name = spelled? es name := by
  rw [spelled?, field?_cons, field?_cons, if_neg fun hkey => h (Or.inl hkey), if_neg fun hkey => h (Or.inr hkey),
    spelled?]

/-- Where no name has two entries, values that are related entry by entry are related under each name. -/
theorem rel_spelled? {R : Value → Value → Prop} (hones : es.Pairwise fun e f => ¬ (Spells name e.1 ∧ Spells name f.1))
    (h : List.Forall₂ (fun e e' => (Spells name e.1 ↔ Spells name e'.1) ∧ (Spells name e.1 → R e.2 e'.2)) es es') :
    Option.Rel R (spelled? es name) (spelled? es' name) := by
  induction h with
  | nil => exact Option.Rel.none
  | @cons e e' rest rest' he hrest ih =>
    obtain ⟨hone, hones⟩ := List.pairwise_cons.mp hones
    obtain ⟨hspells, hvalues⟩ := he
    by_cases hname : Spells name e.1
    · have hothers : ∀ f ∈ rest, ¬ Spells name f.1 := fun f hf hf' => hone f hf ⟨hname, hf'⟩
      have hothers' : ∀ f ∈ rest', ¬ Spells name f.1 := by
        intro f' hf' hspells'
        obtain ⟨f, hf, hff, -⟩ := exists_of_forall₂ hrest f' hf'
        exact hothers f hf (hff.mpr hspells')
      rw [spelled?_cons_of_spells hname hothers, spelled?_cons_of_spells (hspells.mp hname) hothers']
      exact Option.Rel.some (hvalues hname)
    · rw [spelled?_cons_of_not_spells hname, spelled?_cons_of_not_spells (mt hspells.mpr hname)]
      exact ih hones

end Value

/-- Two entries for a field are under its two names. -/
theorem Fields.NamedOnce.pairwise (h : fields.NamedOnce es) (hname : name ∈ fields.names) :
    es.Pairwise fun e f => ¬ (Spells name e.1 ∧ Spells name f.1) := by
  refine (List.pairwise_map.mp h.1).imp_of_mem ?_
  rintro e f he hf hne ⟨hspells, hspells'⟩
  have hboth : ¬ ((Value.field? es (camel name)).isSome = true ∧ (Value.field? es name).isSome = true) := by
    refine h.2 name hname fun hcamel => hne ?_
    rw [Spells, hcamel, or_self] at hspells hspells'
    rw [hspells, hspells']
  rcases hspells with hkey | hkey <;> rcases hspells' with hkey' | hkey'
  · exact hne (hkey.trans hkey'.symm)
  · exact hboth ⟨Value.isSome_field? he hkey, Value.isSome_field? hf hkey'⟩
  · exact hboth ⟨Value.isSome_field? hf hkey', Value.isSome_field? he hkey⟩
  · exact hne (hkey.trans hkey'.symm)

/-! ## Documents as they are -/

mutual

/-- A document is a respelling of itself. -/
theorem Schema.respells_refl : {α : Type} → (s : Schema α) → (v : Value) → s.Respells v v
  | _, .text, _ | _, .flag, _ | _, .integer _, _ | _, .decimal _, _ | _, .timestamp, _ | _, .word _, _
  | _, .constant _, _ | _, .anything, _ | _, .numberOrText, _ | _, .textOrTexts, _ => rfl
  | _, .optional s, v => s.respells_refl v
  | _, .list s, v => by
    cases v with
    | list vs => exact List.forall₂_same.mpr fun v _ => s.respells_refl v
    | _ => rfl
  | _, .entries s, v => by
    cases v with
    | map es => exact List.forall₂_same.mpr fun e _ => ⟨rfl, s.respells_refl e.2⟩
    | _ => rfl
  | _, .record fields _ _ _ _, v => by
    cases v with
    | map es => exact List.forall₂_same.mpr fun e _ => ⟨Or.inl rfl, fields.respells_refl e.1 e.2⟩
    | _ => rfl

theorem Fields.respells_refl : {ρ : Type} → (fields : Fields ρ) → (key : Scalar) → (v : Value) →
    fields.Respells key v v
  | _, .done, _, _ => rfl
  | _, .field _ s _ rest, key, v => ⟨fun _ => s.respells_refl v, fun _ => rest.respells_refl key v⟩

end

/-- A record is respelled where only its own keys are. -/
theorem Schema.respells_record {build : ρ → α} {parts : α → ρ} {hbuild : ∀ a, build (parts a) = a}
    {hparts : ∀ r, parts (build r) = r}
    (h : List.Forall₂ (fun e e' => fields.Renames e.1 e'.1 ∧ e.2 = e'.2) es es') :
    (Schema.record fields build parts hbuild hparts).Respells (.map es) (.map es') :=
  h.imp fun e _ ⟨hkey, hvalue⟩ => ⟨hkey, hvalue ▸ fields.respells_refl e.1 e.2⟩

theorem Schema.namesOnce_scalar : {α : Type} → (s : Schema α) → (x : Scalar) → s.NamesOnce (.scalar x)
  | _, .text, _ | _, .flag, _ | _, .integer _, _ | _, .decimal _, _ | _, .timestamp, _ | _, .word _, _
  | _, .constant _, _ | _, .anything, _ | _, .numberOrText, _ | _, .textOrTexts, _ => trivial
  | _, .optional s, x => s.namesOnce_scalar x
  | _, .list _, _ | _, .entries _, _ | _, .record _ _ _ _ _, _ => trivial

theorem Fields.namesOnce_scalar : {ρ : Type} → (fields : Fields ρ) → (key : Scalar) → (x : Scalar) →
    fields.NamesOnce key (.scalar x)
  | _, .done, _, _ => trivial
  | _, .field _ s _ rest, key, x => ⟨fun _ => s.namesOnce_scalar x, fun _ => rest.namesOnce_scalar key x⟩

/-! ## Reading -/

theorem Schema.Respells.null_iff : {α : Type} → (s : Schema α) → {v w : Value} → s.Respells v w →
    (v = .null ↔ w = .null)
  | _, .text, _, _, h | _, .flag, _, _, h | _, .integer _, _, _, h | _, .decimal _, _, _, h | _, .timestamp, _, _, h
  | _, .word _, _, _, h | _, .constant _, _, _, h | _, .anything, _, _, h | _, .numberOrText, _, _, h
  | _, .textOrTexts, _, _, h => by rw [show _ = _ from h]
  | _, .optional s, _, _, h => Schema.Respells.null_iff s h
  | _, .list _, v, w, h | _, .entries _, v, w, h | _, .record _ _ _ _ _, v, w, h => by
    unfold Schema.Respells at h
    split at h
    · simp
    · rw [h]

theorem Schema.read_optional_of_ne_null (h : v ≠ .null) : (Schema.optional s).read v = (s.read v).map some := by
  rw [Schema.read]
  exact h

mutual

/-- A document and its respelling are read with the same outcome. -/
theorem Schema.outcome_respelled : {α : Type} → (s : Schema α) → s.sound = true → {v w : Value} → s.NamesOnce v →
    s.Respells v w → (s.read v).outcome = (s.read w).outcome
  | _, .text, _, _, _, _, h | _, .flag, _, _, _, _, h | _, .integer _, _, _, _, _, h | _, .decimal _, _, _, _, _, h
  | _, .timestamp, _, _, _, _, h | _, .word _, _, _, _, _, h | _, .constant _, _, _, _, _, h
  | _, .anything, _, _, _, _, h | _, .numberOrText, _, _, _, _, h | _, .textOrTexts, _, _, _, _, h => by
    rw [show _ = _ from h]
  | _, .optional s, hs, v, w, honce, h => by
    have hnull := Schema.Respells.null_iff s h
    by_cases hv : v = .null
    · rw [hv, hnull.mp hv]
    · rw [Schema.read_optional_of_ne_null hv, Schema.read_optional_of_ne_null (mt hnull.mpr hv)]
      exact Checked.outcome_map (s.outcome_respelled (Bool.and_eq_true_iff.mp hs).2 honce h) _
  | _, .list s, hs, v, w, honce, h => by
    unfold Schema.Respells at h
    split at h
    · refine Checked.outcome_items (((List.forall₂_and_left _ _).mpr ⟨honce, h⟩).imp ?_) 0
      rintro v w ⟨honce, h⟩
      exact s.outcome_respelled hs honce h
    · rw [h]
  | _, .entries s, hs, v, w, honce, h => by
    unfold Schema.Respells at h
    split at h
    · refine Checked.outcome_map (Checked.outcome_entries (((List.forall₂_and_left _ _).mpr ⟨honce, h⟩).imp ?_)) _
      rintro e e' ⟨honce, hkey, h⟩
      exact ⟨hkey, s.outcome_respelled hs honce h⟩
    · rw [h]
  | _, .record fields _ _ _ _, hs, v, w, honce, h => by
    unfold Schema.Respells at h
    split at h
    · refine Checked.outcome_map ?_ _
      obtain ⟨hones, hvalues⟩ := honce
      have hapart := Schema.apart_of_sound hs
      refine fields.outcome_respelled (Bool.and_eq_true_iff.mp hs).2 hapart (fun _ hname => hones.pairwise hname)
        (((List.forall₂_and_left _ _).mpr ⟨hvalues, h⟩).imp ?_)
      rintro e e' ⟨honce, hrenames, h⟩
      exact ⟨fun _ hname => hrenames.spells_iff hapart hname, fun _ _ _ => ⟨honce, h⟩⟩
    · rw [h]

theorem Fields.outcome_respelled : {ρ : Type} → (fields : Fields ρ) → fields.sound = true → fields.Apart →
    {es es' : List (Scalar × Value)} →
    (∀ name ∈ fields.names, es.Pairwise fun e f => ¬ (Spells name e.1 ∧ Spells name f.1)) →
    List.Forall₂ (fun e e' => (∀ name ∈ fields.names, Spells name e.1 ↔ Spells name e'.1) ∧
      ∀ name ∈ fields.names, Spells name e.1 → fields.NamesOnce e.1 e.2 ∧ fields.Respells e.1 e.2 e'.2) es es' →
    (fields.read es).outcome = (fields.read es').outcome
  | _, .done, _, _, _, _, _, _ => rfl
  | _, .field name s default rest, hs, hapart, es, es', hones, h => by
    simp only [Fields.sound, Bool.and_eq_true] at hs
    obtain ⟨⟨hs, -⟩, hrest⟩ := hs
    obtain ⟨hname, hones⟩ := List.forall_mem_cons.mp hones
    refine Checked.outcome_both (Checked.outcome_field (Value.rel_spelled? hname (h.imp ?_))) ?_
    · rintro e e' ⟨hspells, hvalues⟩
      refine ⟨hspells name List.mem_cons_self, fun hkey => ?_⟩
      obtain ⟨⟨honce, -⟩, hrespells, -⟩ := hvalues name List.mem_cons_self hkey
      exact s.outcome_respelled hs (honce hkey) (hrespells hkey)
    · refine rest.outcome_respelled hrest (List.Pairwise.of_cons hapart) hones (h.imp ?_)
      rintro e e' ⟨hspells, hvalues⟩
      refine ⟨fun n hn => hspells n (List.mem_cons_of_mem _ hn), fun n hn hkey => ?_⟩
      have hother : ¬ Spells name e.1 := by
        intro hkey'
        obtain rfl := hapart.spells_unique List.mem_cons_self (List.mem_cons_of_mem _ hn) hkey' hkey
        exact (List.nodup_cons.mp hapart.nodup_names).1 hn
      obtain ⟨⟨-, honce⟩, -, hrespells⟩ := hvalues n (List.mem_cons_of_mem _ hn) hkey
      exact ⟨honce hother, hrespells hother⟩

end

/-! ## Elements of every kind -/

theorem camel_type : camel "type" = "type" := by
  decide +kernel

theorem spells_type : Spells "type" key ↔ key = .text "type" := by
  rw [Spells, camel_type, or_self]

/-- The word for the kind of an element is under the same key and is the same. -/
theorem Element.field?_type_respelled {word : String} {default : Option Unit} {rest : Fields ρ}
    (hapart : (Element.fields (.constant word) default rest).Apart)
    (h : List.Forall₂ (fun e e' => (Element.fields (.constant word) default rest).Renames e.1 e'.1 ∧
      (Element.fields (.constant word) default rest).Respells e.1 e.2 e'.2) es es') :
    Value.field? es "type" = Value.field? es' "type" := by
  have htype : "type" ∈ (Element.fields (.constant word) default rest).names :=
    List.mem_cons_of_mem _ List.mem_cons_self
  have hid : ¬ Spells "id" (.text "type") := by
    unfold Spells
    decide +kernel
  induction h with
  | nil => rfl
  | @cons e e' es es' he _ ih =>
    obtain ⟨hrenames, -, hvalues⟩ := he
    have hkey := hrenames.spells_iff hapart htype
    rw [spells_type, spells_type] at hkey
    rw [Value.field?_cons, Value.field?_cons, ih]
    by_cases hek : e.1 = .text "type"
    · have hvalue : e.2 = e'.2 := by
        rw [hek] at hvalues
        exact (hvalues hid).1 (Or.inr rfl)
      rw [if_pos hek, if_pos (hkey.mp hek), hvalue]
    · rw [if_neg hek, if_neg (mt hkey.mpr hek)]

/-- Two documents that respell each other as an element are the same, or records of the same kind. -/
theorem Element.respells_cases {word : String} {default : Option Unit} {rest : Fields ρ} {build : _ → α}
    {parts : α → _} {build_parts : ∀ a, build (parts a) = a} {parts_build : ∀ x, parts (build x) = x}
    (hs : Schema.sound (.record (Element.fields (.constant word) default rest) build parts build_parts parts_build))
    (h : Schema.Respells (.record (Element.fields (.constant word) default rest) build parts build_parts parts_build)
      v w) :
    v = w ∨ ∃ es es', v = .map es ∧ w = .map es' ∧ Value.field? es "type" = Value.field? es' "type" := by
  unfold Schema.Respells at h
  split at h
  · exact Or.inr ⟨_, _, rfl, rfl, Element.field?_type_respelled (Schema.apart_of_sound hs) h⟩
  · exact Or.inl h

namespace AnyElement

def kind? : Value → Option ElementKind
  | .map es =>
    match Value.field? es "type" with
    | some (.text word) => Keyword.find? ElementKind word
    | _ => none
  | _ => none

/-- The second document is the first one respelled as an element of its kind, or of any kind if it says none. -/
def Respells (v w : Value) : Prop :=
  ∃ kind, (∀ other, kind? v = some other → other = kind) ∧ (schema kind).Respells v w

def NamesOnce (v : Value) : Prop := ∀ kind, kind? v = some kind → (schema kind).NamesOnce v

theorem respells_cases {kind : ElementKind} (h : (schema kind).Respells v w) :
    v = w ∨ ∃ es es', v = .map es ∧ w = .map es' ∧ Value.field? es "type" = Value.field? es' "type" := by
  have hsound := schema_sound kind
  cases kind with
  | quiz => exact Element.respells_cases hsound h
  | calculator => exact Element.respells_cases hsound h
  | survey => exact Element.respells_cases hsound h

theorem outcome_readAs (kind : ElementKind) (honce : (schema kind).NamesOnce v) (h : (schema kind).Respells v w) :
    Checked.outcome (readAs kind v) = Checked.outcome (readAs kind w) := by
  rw [readAs_eq, readAs_eq]
  exact Checked.outcome_map ((schema kind).outcome_respelled (schema_sound kind) honce h) _

theorem outcome_respelled (honce : NamesOnce v) (h : Respells v w) :
    Checked.outcome (read v) = Checked.outcome (read w) := by
  obtain ⟨kind, hkind, h⟩ := h
  rcases respells_cases h with rfl | ⟨es, es', rfl, rfl, htype⟩
  · rfl
  · unfold NamesOnce at honce
    simp only [kind?] at hkind honce
    simp only [read, ← htype]
    split
    · rfl
    · rename_i word hword
      rw [hword] at hkind honce
      cases hfound : Keyword.find? ElementKind word with
      | none => rfl
      | some other =>
        obtain rfl := hkind other hfound
        simp only [Checked.outcome_within]
        exact outcome_readAs other (honce other hfound) h
    · rfl

end AnyElement

/-! ## Both spellings at once -/

namespace Fields

/-- Under its plain name a field is looked for only if the camel-case one has no entry. -/
theorem read_congr_of_camel : {ρ : Type} → (fields : Fields ρ) →
    (∀ n ∈ fields.names, Value.field? es (camel n) = Value.field? es' (camel n) ∧
      (Value.field? es (camel n) = none → Value.field? es n = Value.field? es' n)) → fields.read es = fields.read es'
  | _, .done, _ => rfl
  | _, .field name s default rest, h => by
    obtain ⟨⟨hcamel, hplain⟩, hrest⟩ := List.forall_mem_cons.mp h
    rw [read, read, rest.read_congr_of_camel hrest]
    congr 1
    unfold Checked.field
    rw [← hcamel]
    cases hfound : Value.field? es (camel name) with
    | some v => rfl
    | none => rw [hplain hfound]

def without (es : List (Scalar × Value)) (name : String) : List (Scalar × Value) := es.filter fun e => e.1 != .text name

theorem field?_without {n : String} (hne : n ≠ name) : Value.field? (without es name) n = Value.field? es n := by
  induction es with
  | nil => rfl
  | cons e es ih =>
    rw [without, List.filter_cons, Value.field?_cons]
    by_cases hname : e.1 = .text name
    · have hother : e.1 ≠ .text n := by
        rw [hname]
        exact fun hkey => hne (Scalar.text.inj hkey).symm
      rw [if_neg (by simpa using hname), if_neg hother]
      exact ih
    · rw [if_pos (by simpa using hname), Value.field?_cons, ← ih]
      rfl

theorem Apart.read_without (h : fields.Apart) (hname : name ∈ fields.names) (hne : camel name ≠ name)
    (hcamel : Value.field? es (camel name) = some v) : fields.read es = fields.read (without es name) := by
  refine fields.read_congr_of_camel fun n hn => ?_
  have hother : camel n ≠ name := by
    intro heq
    obtain rfl := h.eq_of_spell_eq .camel .plain hn hname heq
    exact hne heq
  refine ⟨(field?_without hother).symm, fun hnone => ?_⟩
  by_cases heq : n = name
  · rw [heq, hcamel] at hnone
    cases hnone
  · exact (field?_without heq).symm

end Fields

def Schema.names : {α : Type} → Schema α → List String
  | _, .record fields _ _ _ _ => fields.names
  | _, _ => []

/-- With an entry under the camel-case name of a field the document is read as if it had none under the
plain one, and the field has the value of that entry. -/
structure Schema.PrefersCamel (s : Schema α) (es : List (Scalar × Value)) (name : String) (v : Value) : Prop where
  without : camel name ≠ name → s.read (.map es) = s.read (.map (Fields.without es name))
  value : ∀ a, s.read (.map es) = .ok a → ∀ c ∈ s.cells a, c.name = name → c.schema.read v = .ok c.value

theorem Schema.prefersCamel (s : Schema α) (hs : s.sound = true) (hname : name ∈ s.names)
    (hcamel : Value.field? es (camel name) = some v) : s.PrefersCamel es name v := by
  cases s with
  | record fields build parts build_parts parts_build =>
    constructor
    · intro hne
      simp only [read]
      rw [(Schema.apart_of_sound hs).read_without hname hne hcamel]
    · rintro a hread c hc rfl
      obtain ⟨_, hes, hfields⟩ := Schema.read_record_eq_ok.mp hread
      obtain rfl := Value.map.inj hes
      have hfield := fields.read_eq_ok.mp hfields c hc
      have hfound : Value.spelled? es c.name = some v := by rw [Value.spelled?, hcamel, Option.some_or]
      rcases Checked.field_eq_ok.mp hfield with ⟨x, hx, hvalue⟩ | ⟨hnone, -⟩
      · rw [hfound] at hx
        rwa [Option.some.inj hx]
      · rw [hfound] at hnone
        cases hnone
  | _ => cases hname

/-! ## All documents -/

/-- Whatever names of its records are respelled, a document of an element, a response or a part of one is
read with the same outcome, and so is one of an element of any kind, as long as no record names a field
twice. A record that does is read by the camel-case name. -/
theorem read_respelled :
    (∀ m ∈ models, ∀ v w, m.2.NamesOnce v → m.2.Respells v w → (m.2.read v).outcome = (m.2.read w).outcome) ∧
    (∀ v w, AnyElement.NamesOnce v → AnyElement.Respells v w →
      Checked.outcome (AnyElement.read v) = Checked.outcome (AnyElement.read w)) ∧
    ∀ m ∈ models, ∀ es, ∀ name ∈ m.2.names, ∀ v, Value.field? es (camel name) = some v →
      m.2.PrefersCamel es name v :=
  ⟨fun m hm _ _ honce h => m.2.outcome_respelled (models_sound m hm) honce h,
    fun _ _ honce h => AnyElement.outcome_respelled honce h,
    fun m hm _ _ hname _ hcamel => m.2.prefersCamel (models_sound m hm) hname hcamel⟩

/-- A question that is left for another one on a condition; what the answer is compared with is no record. -/
def detour : Value := .ofEntries [
  ("action", .text "skip-to"),
  ("conditions", .list [.ofEntries [("questionId", .text "p"), ("value", .ofEntries [("questionId", .int 1)])]]),
  ("targetQuestionId", .text "r")]

def plainDetour : Value := .ofEntries [
  ("action", .text "skip-to"),
  ("conditions", .list [.ofEntries [("question_id", .text "p"), ("value", .ofEntries [("questionId", .int 1)])]]),
  ("target_question_id", .text "r")]

theorem spells_action_conditions : ¬ Spells "action" (.text "conditions") := by
  unfold Spells
  decide +kernel

theorem namesOnce_detour : Survey.Logic.schema.NamesOnce detour := by
  have hcondition : Survey.Condition.schema.NamesOnce
      (.ofEntries [("questionId", .text "p"), ("value", .ofEntries [("questionId", .int 1)])]) := by
    refine ⟨by decide +kernel, List.forall_mem_cons.mpr ⟨Fields.namesOnce_scalar _ _ _, ?_⟩⟩
    refine List.forall_mem_singleton.mpr ?_
    exact ⟨fun _ => trivial, fun _ => ⟨fun _ => trivial, fun _ => ⟨fun _ => trivial, fun _ => trivial⟩⟩⟩
  refine ⟨by decide +kernel, List.forall_mem_cons.mpr ⟨Fields.namesOnce_scalar _ _ _, ?_⟩⟩
  refine List.forall_mem_cons.mpr ⟨?_, List.forall_mem_singleton.mpr (Fields.namesOnce_scalar _ _ _)⟩
  exact ⟨fun _ => trivial, fun _ =>
    ⟨fun _ => List.forall_mem_singleton.mpr hcondition, fun hkey => absurd (Or.inr rfl) hkey⟩⟩

theorem respells_detour : Survey.Logic.schema.Respells detour plainDetour := by
  have hquestion : Scalar.text "questionId" = .text (camel "question_id") := by decide +kernel
  have htarget : Scalar.text "targetQuestionId" = .text (camel "target_question_id") := by decide +kernel
  have hcondition : Survey.Condition.schema.Respells
      (.ofEntries [("questionId", .text "p"), ("value", .ofEntries [("questionId", .int 1)])])
      (.ofEntries [("question_id", .text "p"), ("value", .ofEntries [("questionId", .int 1)])]) := by
    refine Schema.respells_record ?_
    exact .cons ⟨Or.inr ⟨"question_id", by decide, hquestion, rfl⟩, rfl⟩ <| .cons ⟨Or.inl rfl, rfl⟩ .nil
  refine .cons ⟨Or.inl rfl, Fields.respells_refl _ _ _⟩ <| .cons ⟨Or.inl rfl, ?_⟩ <|
    .cons ⟨Or.inr ⟨"target_question_id", by decide, htarget, rfl⟩, Fields.respells_refl _ _ _⟩ .nil
  exact ⟨fun hkey => absurd hkey spells_action_conditions, fun _ =>
    ⟨fun _ => .cons hcondition .nil, fun hkey => absurd (Or.inr rfl) hkey⟩⟩

def bareQuiz (name : String) : Value := .ofEntries [("type", .text "quiz"), (name, .text "w")]

theorem kind?_bareQuiz (name : String) : AnyElement.kind? (bareQuiz name) = some .quiz := by
  have hword : Keyword.find? ElementKind "quiz" = some .quiz := by decide +kernel
  exact hword

theorem namesOnce_bareQuiz : AnyElement.NamesOnce (bareQuiz "websiteId") := by
  intro kind hkind
  rw [kind?_bareQuiz] at hkind
  obtain rfl := Option.some.inj hkind
  refine ⟨by decide +kernel, List.forall_mem_cons.mpr ⟨Fields.namesOnce_scalar _ _ _, ?_⟩⟩
  exact List.forall_mem_singleton.mpr (Fields.namesOnce_scalar _ _ _)

theorem respells_bareQuiz : AnyElement.Respells (bareQuiz "websiteId") (bareQuiz "website_id") := by
  have hwebsite : Scalar.text "websiteId" = .text (camel "website_id") := by decide +kernel
  have hname : "website_id" ∈ Quiz.schema.names := by decide +kernel
  refine ⟨.quiz, fun other hother => ?_, ?_⟩
  · rw [kind?_bareQuiz] at hother
    exact (Option.some.inj hother).symm
  · refine Schema.respells_record ?_
    exact .cons ⟨Or.inl rfl, rfl⟩ <| .cons ⟨Or.inr ⟨"website_id", hname, hwebsite, rfl⟩, rfl⟩ .nil

def twoWebsites : List (Scalar × Value) := [(.text "website_id", .text "old"), (.text "websiteId", .text "new")]

theorem detour_respelled :
    (⟨_, Survey.Logic.schema⟩ ∈ models ∧ Survey.Logic.schema.NamesOnce detour ∧
      Survey.Logic.schema.Respells detour plainDetour ∧
      (Survey.Logic.schema.read detour).outcome = (Survey.Logic.schema.read plainDetour).outcome) ∧
    (AnyElement.NamesOnce (bareQuiz "websiteId") ∧ AnyElement.Respells (bareQuiz "websiteId") (bareQuiz "website_id") ∧
      Checked.outcome (AnyElement.read (bareQuiz "websiteId")) =
        Checked.outcome (AnyElement.read (bareQuiz "website_id"))) ∧
    ⟨_, Quiz.schema⟩ ∈ models ∧ "website_id" ∈ Quiz.schema.names ∧
      Value.field? twoWebsites (camel "website_id") = some (.text "new") ∧
      Quiz.schema.PrefersCamel twoWebsites "website_id" (.text "new") := by
  have hlogic : ⟨_, Survey.Logic.schema⟩ ∈ models := by simp [models]
  have hquiz : ⟨_, Quiz.schema⟩ ∈ models := by simp [models]
  have hname : "website_id" ∈ Quiz.schema.names := by decide +kernel
  have hnew : Value.field? twoWebsites (camel "website_id") = some (.text "new") := by
    have hcamel : camel "website_id" = "websiteId" := by decide +kernel
    rw [hcamel]
    rfl
  obtain ⟨hmodels, helements, hcamel⟩ := read_respelled
  exact ⟨⟨hlogic, namesOnce_detour, respells_detour, hmodels _ hlogic _ _ namesOnce_detour respells_detour⟩,
    ⟨namesOnce_bareQuiz, respells_bareQuiz, helements _ _ namesOnce_bareQuiz respells_bareQuiz⟩,
    hquiz, hname, hnew, hcamel _ hquiz _ _ hname _ hnew⟩

end Formwork
