/-
  Formwork.Proofs.Document.RoundTrip: what is written is read back.

  Reading is lenient, writing is not: a document that says `"1"`, `"yes"` or `3.0` is read as
  a value that is written as `true` or `3`. What was read once stays as it is from then on.

  - `Schema.admits_iff_read`: the values that a schema admits are the ones that documents are
    read as.
  - `Schema.read_write`: each of them is read back from the document it is written as, in
    either spelling of the names.
  - `Schema.isEndless_write`: no value is written without an end that was not read without one.

  All three ask of a schema that it is sound: its names are apart, what may be absent is not
  written as nothing, and its defaults, which no reading checks, are values it admits. That
  is a check which runs.
-/

import Formwork.Proofs.Document.Cells

namespace Formwork

variable {α β ρ : Type} {R : α → β → Prop} {s : Schema α} {v : Value} {spelling : Spelling}

theorem exists_of_forall₂ {xs : List α} {ys : List β} (h : List.Forall₂ R xs ys) : ∀ y ∈ ys, ∃ x ∈ xs, R x y := by
  induction h with
  | nil => simp
  | cons hr _ ih =>
    intro y hy
    rcases List.mem_cons.mp hy with rfl | hy
    · exact ⟨_, List.mem_cons_self, hr⟩
    · obtain ⟨x, hx, hr⟩ := ih y hy
      exact ⟨x, List.mem_cons_of_mem _ hx, hr⟩

/-! ## What each kind of schema reads -/

theorem Coercion.atLeast_eq_ok [LE α] [DecidableLE α] {least : Option α} {x : Checked α} {a : α} :
    atLeast least x = .ok a ↔ x = .ok a ∧ least.all (· ≤ a) = true := by
  cases x with
  | error e => simp [atLeast]
  | ok b =>
    rw [atLeast, Except.ok.injEq]
    by_cases h : least.all (· ≤ b) = true
    · rw [if_pos h, Except.ok.injEq]
      exact ⟨fun hb => ⟨hb, hb ▸ h⟩, And.left⟩
    · rw [if_neg h]
      constructor
      · intro hf
        cases hf
      · rintro ⟨rfl, ha⟩
        exact absurd ha h

namespace Schema

theorem read_optional_eq_some {a : α} : (optional s).read v = .ok (some a) ↔ v ≠ .null ∧ s.read v = .ok a := by
  by_cases hv : v = .null
  · simp [hv, read]
  · simp [hv, read, map_eq_ok]

theorem read_list_eq_ok {xs : List α} :
    (list s).read v = .ok xs ↔
      ∃ values, v.items? = some values ∧ List.Forall₂ (fun v x => s.read v = .ok x) values xs := by
  rw [read, Checked.list]
  cases v.items? with
  | none => simp [Checked.fail]
  | some values => simp [Checked.items_eq_ok]

theorem read_entries_eq_ok {entries : Entries α} :
    (Schema.entries s).read v = .ok entries ↔
      ∃ es pairs, v = .map es ∧
        List.Forall₂ (fun e p => Coercion.toText (.scalar e.1) = .ok p.1 ∧ s.read e.2 = .ok p.2) es pairs ∧
        Entries.ofList pairs = entries := by
  cases v with
  | map es => simp [read, map_eq_ok, Checked.entries_eq_ok]
  | _ => simp [read, Checked.fail]

theorem read_record_eq_ok {fields : Fields ρ} {build : ρ → α} {parts : α → ρ}
    {build_parts : ∀ a, build (parts a) = a} {parts_build : ∀ r, parts (build r) = r} {a : α} :
    (record fields build parts build_parts parts_build).read v = .ok a ↔
      ∃ es, v = .map es ∧ fields.read es = .ok (parts a) := by
  cases v with
  | map es =>
    simp only [read, map_eq_ok, Value.map.injEq, exists_eq_left']
    constructor
    · rintro ⟨r, hr, rfl⟩
      rw [parts_build, hr]
    · exact fun h => ⟨parts a, h, build_parts a⟩
  | _ => simp [read, Checked.fail]

/-! ## Sound schemas -/

/-- Nothing is a value of the schema, not the absence of one. -/
def takesNothing : {α : Type} → Schema α → Bool
  | _, .anything => true
  | _, .optional _ => true
  | _, _ => false

theorem write_ne_null (hs : s.takesNothing = false) (a : α) : s.write spelling a ≠ .null := by
  cases s with
  | anything => cases hs
  | optional s => cases hs
  | numberOrText => cases a <;> simp [write]
  | textOrTexts => cases a <;> simp [write]
  | _ => simp [write]

def ends (s : Schema α) (a : α) : Bool := !(s.write .camel a).isEndless && !(s.write .plain a).isEndless

theorem isEndless_write_of_ends {a : α} (h : s.ends a = true) : (s.write spelling a).isEndless = false := by
  rw [ends, Bool.and_eq_true, Bool.not_eq_true', Bool.not_eq_true'] at h
  cases spelling with
  | camel => exact h.1
  | plain => exact h.2

end Schema

mutual

/-- Some document stands for the value. -/
def Schema.admits : {α : Type} → Schema α → α → Bool
  | _, .integer least, n => least.all (· ≤ n)
  | _, .decimal least, x => least.all (· ≤ x)
  | _, .optional s, x => x.all s.admits
  | _, .list s, xs => xs.all s.admits
  | _, .entries s, es => decide es.Distinct && es.all fun e => s.admits e.2
  | _, .record fields _ parts _ _, a => fields.admits (parts a)
  | _, _, _ => true

def Fields.admits : {ρ : Type} → Fields ρ → ρ → Bool
  | _, .done, _ => true
  | _, .field _ s _ rest, r => s.admits r.1 && rest.admits r.2

end

/-- A value that some document stands for has such values in all its fields. -/
theorem Fields.admits_cells : {ρ : Type} → (fields : Fields ρ) → {r : ρ} → fields.admits r = true →
    ∀ c ∈ fields.cells r, c.schema.admits c.value = true
  | _, .done, _, _ => by simp [Fields.cells]
  | _, .field _ _ _ rest, _, h =>
    List.forall_mem_cons.mpr ⟨(Bool.and_eq_true_iff.mp h).1, rest.admits_cells (Bool.and_eq_true_iff.mp h).2⟩

mutual

/-- Names that are apart, nothing only for what is absent, and defaults that some document stands for. -/
def Schema.sound : {α : Type} → Schema α → Bool
  | _, .optional s => !s.takesNothing && s.sound
  | _, .list s => s.sound
  | _, .entries s => s.sound
  | _, .record fields _ _ _ _ => decide fields.Apart && fields.sound
  | _, _ => true

def Fields.sound : {ρ : Type} → Fields ρ → Bool
  | _, .done => true
  | _, .field _ s default rest => s.sound && default.all (fun d => s.admits d && s.ends d) && rest.sound

end

theorem Schema.apart_of_sound {fields : Fields ρ} {build : ρ → α} {parts : α → ρ}
    {build_parts : ∀ a, build (parts a) = a} {parts_build : ∀ r, parts (build r) = r}
    (h : (record fields build parts build_parts parts_build).sound = true) : fields.Apart :=
  of_decide_eq_true (Bool.and_eq_true_iff.mp h).1

/-! ## Reading admits -/

mutual

theorem Schema.admits_of_read : {α : Type} → (s : Schema α) → s.sound = true → {v : Value} → {a : α} →
    s.read v = .ok a → s.admits a = true
  | _, .text, _, _, _, _ | _, .flag, _, _, _, _ | _, .timestamp, _, _, _, _ | _, .word _, _, _, _, _
  | _, .constant _, _, _, _, _ | _, .anything, _, _, _, _ | _, .numberOrText, _, _, _, _
  | _, .textOrTexts, _, _, _, _ => rfl
  | _, .integer _, _, _, _, h => (Coercion.atLeast_eq_ok.mp h).2
  | _, .decimal _, _, _, _, h => (Coercion.atLeast_eq_ok.mp h).2
  | _, .optional _, _, _, none, _ => rfl
  | _, .optional s, hs, _, some a, h =>
    s.admits_of_read (Bool.and_eq_true_iff.mp hs).2 (Schema.read_optional_eq_some.mp h).2
  | _, .list s, hs, _, xs, h => by
    obtain ⟨values, -, hvalues⟩ := Schema.read_list_eq_ok.mp h
    refine List.all_eq_true.mpr fun x hx => ?_
    obtain ⟨w, -, hw⟩ := exists_of_forall₂ hvalues x hx
    exact s.admits_of_read hs hw
  | _, .entries s, hs, _, entries, h => by
    obtain ⟨es, pairs, -, hpairs, rfl⟩ := Schema.read_entries_eq_ok.mp h
    refine Bool.and_eq_true_iff.mpr ⟨decide_eq_true (Entries.distinct_ofList pairs), ?_⟩
    refine List.all_eq_true.mpr fun p hp => ?_
    obtain ⟨e, -, -, he⟩ := exists_of_forall₂ hpairs p (Entries.mem_of_mem_ofList hp)
    exact s.admits_of_read hs he
  | _, .record fields _ _ _ _, hs, _, _, h => by
    obtain ⟨es, -, h⟩ := Schema.read_record_eq_ok.mp h
    exact fields.admits_of_read (Bool.and_eq_true_iff.mp hs).2 h

theorem Fields.admits_of_read : {ρ : Type} → (fields : Fields ρ) → fields.sound = true →
    {es : List (Scalar × Value)} → {r : ρ} → fields.read es = .ok r → fields.admits r = true
  | _, .done, _, _, _, _ => rfl
  | _, .field _ s default rest, hs, _, r, h => by
    simp only [Fields.sound, Bool.and_eq_true, Option.all_eq_true] at hs
    obtain ⟨⟨hs, hdefault⟩, hrest⟩ := hs
    obtain ⟨hfield, h⟩ := Checked.both_eq_ok.mp h
    refine Bool.and_eq_true_iff.mpr ⟨?_, rest.admits_of_read hrest h⟩
    rcases Checked.field_eq_ok.mp hfield with ⟨_, -, hread⟩ | ⟨-, hd⟩
    · exact s.admits_of_read hs hread
    · exact (hdefault r.1 hd).1

end

/-! ## Written and read back -/

theorem Checked.numberOrText_write (x : NumberOrText) :
    Checked.numberOrText (Schema.numberOrText.write spelling x) = .ok x := by
  cases x with
  | number x => rfl
  | text s => rfl

theorem Checked.textOrTexts_write (x : TextOrTexts) :
    Checked.textOrTexts (Schema.textOrTexts.write spelling x) = .ok x := by
  cases x with
  | one s => rfl
  | several texts =>
    have hread : Checked.list Coercion.toText (.list (texts.map .text)) = .ok texts := by
      refine Checked.items_eq_ok.mpr ?_
      rw [List.forall₂_map_left_iff, List.forall₂_same]
      exact fun _ _ => rfl
    simp only [Schema.write, Checked.textOrTexts, hread]
    rfl

mutual

/-- A value that a document can stand for is read back from the one it is written as. -/
theorem Schema.read_write (spelling : Spelling) : {α : Type} → (s : Schema α) → s.sound = true → {a : α} →
    s.admits a = true → s.read (s.write spelling a) = .ok a
  | _, .text, _, _, _ | _, .flag, _, _, _ | _, .timestamp, _, _, _ | _, .anything, _, _, _ => rfl
  | _, .integer _, _, _, h | _, .decimal _, _, _, h => Coercion.atLeast_eq_ok.mpr ⟨rfl, h⟩
  | _, .word _, _, a, _ => by simp only [Schema.write, Schema.read, Checked.wordOf, Keyword.find?_word]
  | _, .constant _, _, _, _ => by simp [Schema.write, Schema.read, Checked.wordOf]
  | _, .numberOrText, _, x, _ => Checked.numberOrText_write x
  | _, .textOrTexts, _, x, _ => Checked.textOrTexts_write x
  | _, .optional _, _, none, _ => rfl
  | _, .optional s, hs, some a, h => by
    obtain ⟨hnothing, hs⟩ := Bool.and_eq_true_iff.mp hs
    rw [Bool.not_eq_true'] at hnothing
    exact Schema.read_optional_eq_some.mpr ⟨s.write_ne_null hnothing a, s.read_write spelling hs h⟩
  | _, .list s, hs, xs, h => by
    refine Schema.read_list_eq_ok.mpr ⟨_, rfl, ?_⟩
    rw [List.forall₂_map_left_iff, List.forall₂_same]
    exact fun x hx => s.read_write spelling hs (List.all_eq_true.mp h x hx)
  | _, .entries s, hs, es, h => by
    obtain ⟨hdistinct, h⟩ := Bool.and_eq_true_iff.mp h
    refine Schema.read_entries_eq_ok.mpr ⟨_, es, rfl, ?_, Entries.ofList_of_distinct (of_decide_eq_true hdistinct)⟩
    rw [List.forall₂_map_left_iff, List.forall₂_same]
    exact fun e he => ⟨rfl, s.read_write spelling hs (List.all_eq_true.mp h e he)⟩
  | _, .record fields _ _ _ _, hs, _, h => by
    refine Schema.read_record_eq_ok.mpr ⟨_, rfl, fields.read_eq_ok.mpr fun c hc => ?_⟩
    have hfound := (Schema.apart_of_sound hs).spelled?_write spelling hc
    have hcell := fields.read_write_cells spelling (Bool.and_eq_true_iff.mp hs).2 h c hc
    exact Checked.field_eq_ok.mpr (Or.inl ⟨_, hfound, hcell⟩)

theorem Fields.read_write_cells (spelling : Spelling) : {ρ : Type} → (fields : Fields ρ) → fields.sound = true →
    {r : ρ} → fields.admits r = true →
    ∀ c ∈ fields.cells r, c.schema.read (c.schema.write spelling c.value) = .ok c.value
  | _, .done, _, _, _ => by simp [Fields.cells]
  | _, .field _ s _ rest, hs, _, h => by
    simp only [Fields.sound, Bool.and_eq_true] at hs
    obtain ⟨h, hr⟩ := Bool.and_eq_true_iff.mp h
    intro c hc
    rcases List.mem_cons.mp hc with rfl | hc
    · exact s.read_write spelling hs.1.1 h
    · exact rest.read_write_cells spelling hs.2 hr c hc

end

/-- The values that a sound schema admits are the ones that documents are read as. -/
theorem Schema.admits_iff_read (hs : s.sound = true) {a : α} : s.admits a = true ↔ ∃ v, s.read v = .ok a :=
  ⟨fun h => ⟨s.write .plain a, s.read_write .plain hs h⟩, fun ⟨_, h⟩ => s.admits_of_read hs h⟩

/-! ## Values with an end -/

namespace Value

theorem endlessItems_eq_false {values : List Value} :
    endlessItems values = false ↔ ∀ v ∈ values, v.isEndless = false := by
  induction values with
  | nil => simp [endlessItems]
  | cons v values ih => simp [endlessItems, ih]

theorem endlessEntries_eq_false {es : List (Scalar × Value)} :
    endlessEntries es = false ↔ ∀ e ∈ es, e.2.isEndless = false := by
  induction es with
  | nil => simp [endlessEntries]
  | cons e es ih => simp [endlessEntries, ih]

theorem isEndless_of_items? {values : List Value} (h : v.items? = some values) (hv : v.isEndless = false) :
    ∀ w ∈ values, w.isEndless = false := by
  cases v with
  | list items =>
    cases h
    exact endlessItems_eq_false.mp hv
  | set members =>
    cases h
    simp [isEndless]
  | _ => cases h

theorem mem_of_spelled? {es : List (Scalar × Value)} {name : String} (h : spelled? es name = some v) :
    ∃ e ∈ es, e.2 = v := by
  rcases Option.or_eq_some_iff.mp h with h | ⟨-, h⟩ <;>
    · obtain ⟨e, he, rfl⟩ := Option.map_eq_some_iff.mp h
      exact ⟨e, List.mem_of_find?_eq_some he, rfl⟩

end Value

mutual

/-- What is read from a value with an end is written with an end. -/
theorem Schema.isEndless_write (spelling : Spelling) : {α : Type} → (s : Schema α) → s.sound = true → {v : Value} →
    v.isEndless = false → {a : α} → s.read v = .ok a → (s.write spelling a).isEndless = false
  | _, .text, _, _, _, _, _ | _, .flag, _, _, _, _, _ | _, .integer _, _, _, _, _, _ | _, .decimal _, _, _, _, _, _
  | _, .timestamp, _, _, _, _, _ | _, .word _, _, _, _, _, _ | _, .constant _, _, _, _, _, _ => rfl
  | _, .anything, _, _, hv, _, h => Except.ok.inj h ▸ hv
  | _, .numberOrText, _, _, _, .number _, _ | _, .numberOrText, _, _, _, .text _, _ => rfl
  | _, .textOrTexts, _, _, _, .one _, _ => rfl
  | _, .textOrTexts, _, _, _, .several texts, _ => by simp [Schema.write, Value.isEndless, Value.endlessItems_eq_false]
  | _, .optional _, _, _, _, none, _ => rfl
  | _, .optional s, hs, _, hv, some a, h =>
    s.isEndless_write spelling (Bool.and_eq_true_iff.mp hs).2 hv (Schema.read_optional_eq_some.mp h).2
  | _, .list s, hs, _, hv, xs, h => by
    obtain ⟨values, hvalues, hitems⟩ := Schema.read_list_eq_ok.mp h
    refine Value.endlessItems_eq_false.mpr (List.forall_mem_map.mpr fun x hx => ?_)
    obtain ⟨w, hw, hread⟩ := exists_of_forall₂ hitems x hx
    exact s.isEndless_write spelling hs (Value.isEndless_of_items? hvalues hv w hw) hread
  | _, .entries s, hs, _, hv, entries, h => by
    obtain ⟨es, pairs, rfl, hpairs, rfl⟩ := Schema.read_entries_eq_ok.mp h
    refine Value.endlessEntries_eq_false.mpr (List.forall_mem_map.mpr fun p hp => ?_)
    obtain ⟨e, he, -, hread⟩ := exists_of_forall₂ hpairs p (Entries.mem_of_mem_ofList hp)
    exact s.isEndless_write spelling hs (Value.endlessEntries_eq_false.mp hv e he) hread
  | _, .record fields _ parts _ _, hs, _, hv, a, h => by
    obtain ⟨es, rfl, hread⟩ := Schema.read_record_eq_ok.mp h
    obtain ⟨-, hs⟩ := Bool.and_eq_true_iff.mp hs
    have hcells := fields.isEndless_write_cells spelling hs (Value.endlessEntries_eq_false.mp hv) hread
    refine Value.endlessEntries_eq_false.mpr ?_
    rw [Fields.write_eq, List.forall_mem_map, List.forall_mem_map]
    exact hcells

theorem Fields.isEndless_write_cells (spelling : Spelling) : {ρ : Type} → (fields : Fields ρ) → fields.sound = true →
    {es : List (Scalar × Value)} → (∀ e ∈ es, e.2.isEndless = false) → {r : ρ} → fields.read es = .ok r →
    ∀ c ∈ fields.cells r, (c.schema.write spelling c.value).isEndless = false
  | _, .done, _, _, _, _, _ => by simp [Fields.cells]
  | _, .field _ s default rest, hs, es, he, r, h => by
    simp only [Fields.sound, Bool.and_eq_true, Option.all_eq_true] at hs
    obtain ⟨⟨hs, hdefault⟩, hrest⟩ := hs
    obtain ⟨hfield, h⟩ := Checked.both_eq_ok.mp h
    intro c hc
    rcases List.mem_cons.mp hc with rfl | hc
    · rcases Checked.field_eq_ok.mp hfield with ⟨v, hv, hread⟩ | ⟨-, hd⟩
      · obtain ⟨e, hmem, rfl⟩ := Value.mem_of_spelled? hv
        exact s.isEndless_write spelling hs (he e hmem) hread
      · exact Schema.isEndless_write_of_ends (hdefault r.1 hd).2
    · exact rest.isEndless_write_cells spelling hrest he h c hc

end

end Formwork
