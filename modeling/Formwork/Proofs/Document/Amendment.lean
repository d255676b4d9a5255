/-
  Formwork.Proofs.Document.Amendment: a record with some of its fields replaced.

  Amending writes the whole record, puts the updates on top and reads everything again. What
  comes of a field depends on the last update that names it, in whichever spelling, and on
  nothing else:

  - `Schema.cells_amend`: a field that no update names is as before, and one that is named
    has what the last of its updates is read as.
  - `Schema.exists_amend`: the record can be amended exactly when each of these is read.
  - `Schema.amend_congr`: updates that agree on the last value of every field amend alike,
    so keys that name no field do nothing.
-/

import Formwork.Proofs.Document.RoundTrip
import Mathlib.Data.List.Find

namespace Formwork

variable {α ρ : Type} {s : Schema α} {a a' : α} {updates updates' : Entries Value} {key name n : String}

def Names (key name : String) : Prop := key = name ∨ key = camel name

instance (key name : String) : Decidable (Names key name) := inferInstanceAs (Decidable (_ ∨ _))

def lastNaming? (updates : Entries Value) (name : String) : Option Value :=
  (updates.reverse.find? fun u => decide (Names u.1 name)).map (·.2)

theorem lastNaming?_append (updates later : Entries Value) (name : String) :
    lastNaming? (updates ++ later) name = (lastNaming? later name).or (lastNaming? updates name) := by
  rw [lastNaming?, List.reverse_append, List.find?_append, Option.map_or]
  rfl

theorem lastNaming?_singleton (key : String) (v : Value) :
    lastNaming? [(key, v)] name = if Names key name then some v else none := by
  by_cases h : Names key name <;> simp [lastNaming?, h]

theorem lastNaming?_eq_some {v : Value} :
    lastNaming? updates name = some v ↔
      ∃ before key after, updates = before ++ (key, v) :: after ∧ Names key name ∧ ∀ u ∈ after, ¬ Names u.1 name := by
  rw [lastNaming?, Option.map_eq_some_iff]
  constructor
  · rintro ⟨⟨key, w⟩, hfind, rfl⟩
    obtain ⟨hnames, after, before, hsplit, hafter⟩ := List.find?_eq_some_iff_append.mp hfind
    refine ⟨before.reverse, key, after.reverse, ?_, of_decide_eq_true hnames, fun u hu => ?_⟩
    · rw [← List.reverse_reverse updates, hsplit]
      simp
    · simpa using hafter u (List.mem_reverse.mp hu)
  · rintro ⟨before, key, after, rfl, hnames, hafter⟩
    refine ⟨(key, v), List.find?_eq_some_iff_append.mpr ⟨decide_eq_true hnames, after.reverse, before.reverse, ?_, ?_⟩, rfl⟩
    · simp
    · exact fun u hu => by simpa using hafter u (List.mem_reverse.mp hu)

theorem lastNaming?_eq_none : lastNaming? updates name = none ↔ ∀ u ∈ updates, ¬ Names u.1 name := by
  simp [lastNaming?]

/-- Where one spelling alone comes up, it is looked up as any name. -/
theorem lastNaming?_eq_get? (h : updates.Distinct) (hkey : ∀ u ∈ updates, Names u.1 name ↔ u.1 = key) :
    lastNaming? updates name = updates.get? key := by
  rw [← Entries.last?_of_distinct h, Entries.last?, Entries.get?, lastNaming?]
  refine congrArg _ (List.find?_congr fun u hu => ?_)
  rw [beq_eq_decide, decide_eq_decide]
  exact hkey u (List.mem_reverse.mp hu)

/-- Leaving out updates that do not name a field leaves its last value. -/
theorem lastNaming?_filter {p : String → Bool} (h : ∀ key, Names key name → p key = true) (updates : Entries Value) :
    lastNaming? (updates.filter fun u => p u.1) name = lastNaming? updates name := by
  rw [lastNaming?, ← List.filter_reverse, List.find?_filter, lastNaming?]
  refine congrArg _ (List.find?_congr fun u _ => ?_)
  by_cases hu : Names u.1 name <;> simp [hu, h u.1]

namespace Fields

variable {fields : Fields ρ} {r r' : ρ} {c : Cell}

/-! ## The field that a key names -/

theorem plainName_cases (fields : Fields ρ) (key : String) :
    (fields.plainName key ∈ fields.names ∧ camel (fields.plainName key) = key) ∨
    ((∀ n ∈ fields.names, camel n ≠ key) ∧ fields.plainName key = key) := by
  unfold plainName
  cases h : fields.names.find? fun n => camel n == key with
  | some n => exact Or.inl ⟨List.mem_of_find?_eq_some h, by simpa using List.find?_some h⟩
  | none => exact Or.inr ⟨by simpa using h, rfl⟩

theorem Apart.plainName_eq (h : fields.Apart) (hn : n ∈ fields.names) : fields.plainName key = n ↔ Names key n := by
  rcases fields.plainName_cases key with ⟨hmem, hcamel⟩ | ⟨hnone, hkey⟩
  · constructor
    · rintro rfl
      exact Or.inr hcamel.symm
    · rintro (rfl | rfl)
      · exact h.eq_of_spell_eq .camel .plain hmem hn hcamel
      · exact h.eq_of_spell_eq .camel .camel hmem hn hcamel
  · rw [hkey, Names, or_iff_left (fun he => hnone n hn he.symm)]

/-- No key stands for the camel-case spelling of a name. -/
theorem Apart.plainName_ne_camel (h : fields.Apart) (hn : n ∈ fields.names) (hne : camel n ≠ n) :
    fields.plainName key ≠ camel n := by
  intro he
  rcases fields.plainName_cases key with ⟨hmem, -⟩ | ⟨hnone, hkey⟩
  · exact hne (he ▸ h.eq_of_spell_eq .plain .camel hmem hn he)
  · exact hnone n hn (he.symm.trans hkey)

/-! ## The record with the updates on top -/

theorem overlay_eq (fields : Fields ρ) (r : ρ) (updates : Entries Value) :
    fields.overlay r updates =
      (updates.map fun u => (fields.plainName u.1, u.2)).foldl (fun (es : Entries Value) u => es.put u.1 u.2)
        ((fields.cells r).map (Cell.entry .plain)) := by
  rw [overlay, write_eq, Value.textEntries_ofTexts, List.foldl_map]

theorem Apart.last?_plainName (h : fields.Apart) (hn : n ∈ fields.names) (updates : Entries Value) :
    Entries.last? (updates.map fun u => (fields.plainName u.1, u.2)) n = lastNaming? updates n := by
  rw [Entries.last?, Entries.get?, ← List.map_reverse, List.find?_map, Option.map_map, lastNaming?]
  refine congrArg _ (List.find?_congr fun u _ => ?_)
  rw [Function.comp_apply, beq_eq_decide, decide_eq_decide]
  exact h.plainName_eq hn

/-- The entry under a name is the last update of the field, or what the field was written as. -/
theorem Apart.get?_overlay (h : fields.Apart) (hc : c ∈ fields.cells r) (updates : Entries Value) :
    (fields.overlay r updates).get? c.name =
      some ((lastNaming? updates c.name).getD (c.schema.write .plain c.value)) := by
  have hold : Entries.get? ((fields.cells r).map (Cell.entry .plain)) c.name = some (c.schema.write .plain c.value) :=
    h.get?_entries .plain hc
  rw [overlay_eq, Entries.get?_foldl_put, h.last?_plainName (mem_names_of_mem_cells hc), hold]
  cases lastNaming? updates c.name <;> rfl

/-- There is no entry under another spelling of a name. -/
theorem Apart.get?_overlay_camel (h : fields.Apart) (hn : n ∈ fields.names) (hne : camel n ≠ n)
    (updates : Entries Value) : (fields.overlay r updates).get? (camel n) = none := by
  have hnone : Entries.last? (updates.map fun u => (fields.plainName u.1, u.2)) (camel n) = none := by
    rw [Entries.last?_eq_none, List.map_map, List.mem_map]
    rintro ⟨u, -, hu⟩
    exact h.plainName_ne_camel hn hne hu
  rw [overlay_eq, Entries.get?_foldl_put, hnone, Option.none_or]
  exact h.get?_camel_entries_plain hn hne

theorem Apart.spelled?_overlay (h : fields.Apart) (hc : c ∈ fields.cells r) (updates : Entries Value) :
    Value.spelled? (Value.ofTexts (fields.overlay r updates)) c.name =
      some ((lastNaming? updates c.name).getD (c.schema.write .plain c.value)) :=
  Value.spelled?_ofTexts (h.get?_overlay hc updates)
    (fun hne => h.get?_overlay_camel (mem_names_of_mem_cells hc) hne updates)

/-! ## Reading it again -/

/-- A named field has what its last update is read as, any other the value it had. -/
theorem cells_read_overlay (hapart : fields.Apart) (hs : fields.sound = true) (ha : fields.admits r = true)
    (h : fields.read (Value.ofTexts (fields.overlay r updates)) = .ok r') :
    ∀ c ∈ fields.cells r',
      (∀ v, lastNaming? updates c.name = some v → c.schema.read v = .ok c.value) ∧
      (lastNaming? updates c.name = none → c ∈ fields.cells r) := by
  intro c hc
  obtain ⟨x, hx⟩ := fields.exists_cell r' r c hc
  have hfound := hapart.spelled?_overlay hx updates
  have hfield := fields.read_eq_ok.mp h c hc
  rw [Checked.field_eq_ok, hfound] at hfield
  obtain ⟨v, hv, hread⟩ := hfield.resolve_right (fun hn => nomatch hn.1)
  rw [Option.some.injEq] at hv
  constructor
  · intro w hw
    rw [hw, Option.getD_some] at hv
    exact hv ▸ hread
  · intro hnone
    rw [hnone, Option.getD_none] at hv
    have hold := fields.read_write_cells .plain hs ha _ hx
    obtain rfl : x = c.value := Except.ok.inj (hold.symm.trans (hv ▸ hread))
    exact hx

theorem exists_read_overlay (hapart : fields.Apart) (hs : fields.sound = true) (ha : fields.admits r = true)
    (updates : Entries Value) :
    (∃ r', fields.read (Value.ofTexts (fields.overlay r updates)) = .ok r') ↔
      ∀ c ∈ fields.cells r, ∀ v, lastNaming? updates c.name = some v → ∃ x, c.schema.read v = .ok x := by
  rw [fields.exists_read r]
  refine forall₂_congr fun c hc => ?_
  simp only [Checked.field_eq_ok, hapart.spelled?_overlay hc updates]
  cases lastNaming? updates c.name with
  | some v => simp
  | none => simpa using ⟨c.value, fields.read_write_cells .plain hs ha c hc⟩

/-- What is read depends on the last update of each field. -/
theorem read_overlay_congr (hapart : fields.Apart) (r : ρ)
    (h : ∀ n ∈ fields.names, lastNaming? updates n = lastNaming? updates' n) :
    fields.read (Value.ofTexts (fields.overlay r updates)) =
      fields.read (Value.ofTexts (fields.overlay r updates')) := by
  refine fields.read_congr fun n hn => ?_
  simp only [Value.field?_ofTexts]
  have hplain : (fields.overlay r updates).get? n = (fields.overlay r updates').get? n := by
    obtain ⟨c, hc, rfl⟩ := exists_cell_of_mem_names r hn
    rw [hapart.get?_overlay hc, hapart.get?_overlay hc, h _ hn]
  by_cases hne : camel n = n
  · rw [hne]
    exact ⟨hplain, hplain⟩
  · exact ⟨by rw [hapart.get?_overlay_camel hn hne, hapart.get?_overlay_camel hn hne], hplain⟩

/-- Stamps are updates that come last. -/
theorem overlay_append (hapart : fields.Apart) (r : ρ) (updates : Entries Value) {stamps : Entries Value}
    (h : ∀ u ∈ stamps, u.1 ∈ fields.names) :
    stamps.foldl (fun es u => es.put u.1 u.2) (fields.overlay r updates) = fields.overlay r (updates ++ stamps) := by
  have hplain : (stamps.map fun u => (fields.plainName u.1, u.2)) = stamps := by
    refine (List.map_congr_left fun u hu => ?_).trans (List.map_id stamps)
    rw [(hapart.plainName_eq (h u hu)).mpr (Or.inl rfl)]
    rfl
  rw [overlay_eq, overlay_eq, List.map_append, List.foldl_append, hplain]

end Fields

/-! ## Amending a record -/

namespace Schema

theorem amend_append (hs : s.sound = true) (updates : Entries Value) {stamps : Entries Value}
    (h : ∀ u ∈ stamps, u.1 ∈ (s.cells a).map (·.name)) :
    s.amend a updates stamps = s.amend a (updates ++ stamps) [] := by
  cases s with
  | record fields build parts _ _ =>
    rw [cells, fields.map_name_cells] at h
    simp only [amend, List.foldl_nil, fields.overlay_append (apart_of_sound hs) (parts a) updates h]
  | _ => rfl

/-- A field that no update names is as before; one that is named has what its last update is read as. -/
theorem cells_amend (hs : s.sound = true) (ha : s.admits a = true) (h : s.amend a updates [] = .ok a') :
    ∀ c ∈ s.cells a',
      (∀ v, lastNaming? updates c.name = some v → c.schema.read v = .ok c.value) ∧
      (lastNaming? updates c.name = none → c ∈ s.cells a) := by
  cases s with
  | record fields build parts _ parts_build =>
    obtain ⟨r, hread, rfl⟩ := map_eq_ok.mp h
    rw [cells, parts_build]
    exact fields.cells_read_overlay (apart_of_sound hs) (Bool.and_eq_true_iff.mp hs).2 ha hread
  | _ => simp [cells]

/-- A record can be amended if the last update of every field can be read. -/
theorem exists_amend (hs : s.sound = true) (ha : s.admits a = true) (updates : Entries Value) :
    (∃ a', s.amend a updates [] = .ok a') ↔
      ∀ c ∈ s.cells a, ∀ v, lastNaming? updates c.name = some v → ∃ x, c.schema.read v = .ok x := by
  cases s with
  | record fields build parts _ _ =>
    rw [cells, ← fields.exists_read_overlay (apart_of_sound hs) (Bool.and_eq_true_iff.mp hs).2 ha updates]
    simp [amend, map_eq_ok]
  | _ => simp [cells, amend]

theorem admits_of_mem_cells (ha : s.admits a = true) {c : Cell} (hc : c ∈ s.cells a) : c.schema.admits c.value = true := by
  cases s with
  | record fields build parts _ _ => exact fields.admits_cells ha c hc
  | _ => cases hc

/-- Updates with the same last value of every field amend alike. -/
theorem amend_congr (hs : s.sound = true) (h : ∀ c ∈ s.cells a, lastNaming? updates c.name = lastNaming? updates' c.name) :
    s.amend a updates [] = s.amend a updates' [] := by
  cases s with
  | record fields build parts _ _ =>
    have hnames : ∀ n ∈ fields.names, lastNaming? updates n = lastNaming? updates' n := by
      intro n hn
      obtain ⟨c, hc, rfl⟩ := Fields.exists_cell_of_mem_names (parts a) hn
      exact h c hc
    simp only [amend, List.foldl_nil, fields.read_overlay_congr (apart_of_sound hs) (parts a) hnames]
  | _ => rfl

/-- An amended record is a value that some document stands for. -/
theorem admits_amend (hs : s.sound = true) (ha : s.admits a = true) (h : s.amend a updates [] = .ok a') :
    s.admits a' = true := by
  cases s with
  | record fields build parts _ parts_build =>
    obtain ⟨r, hread, rfl⟩ := map_eq_ok.mp h
    rw [admits, parts_build]
    exact fields.admits_of_read (Bool.and_eq_true_iff.mp hs).2 hread
  | _ => exact Except.ok.inj h ▸ ha

end Schema

end Formwork
