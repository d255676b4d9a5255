/-
  Formwork.Proofs.Document.Cells: the fields of a record, one by one.

  A row holds the values of its fields as nested pairs, each of a type of its own. Here it
  is a list of cells, so that what holds of every field is said once.

  - `Fields.read_eq_ok`: entries are read as a row exactly when every cell of the row is read
    from the entry under its name, or has its default where there is no such entry.
  - `Fields.Apart.spelled?_write`: where no name of a record can be taken for another one, each
    field is found again in the written row, whichever spelling it is written in.
-/

import Formwork.Document.Schema
import Formwork.Proofs.Entries
import Mathlib.Data.List.Forall2
import Mathlib.Data.List.Pairwise

namespace Formwork

variable {α β ρ : Type} {name : String} {v : Value} {es : List (Scalar × Value)}

/-! ## Finding a field -/

namespace Value

/-- The value under a field's name, in camel case if it is there. -/
def spelled? (es : List (Scalar × Value)) (name : String) : Option Value :=
  (field? es (camel name)).or (field? es name)

abbrev ofTexts (entries : Entries Value) : List (Scalar × Value) := entries.map fun e => (.text e.1, e.2)

theorem field?_ofTexts (entries : Entries Value) (name : String) : field? (ofTexts entries) name = entries.get? name := by
  induction entries with
  | nil => rfl
  | cons e entries ih =>
    rw [Entries.get?_cons, ← ih]
    by_cases h : e.1 = name <;> simp [field?, h]

theorem textEntries_ofTexts (entries : Entries Value) : textEntries (ofTexts entries) = entries := by
  simp [textEntries, List.filterMap_map]

/-- Where the camel-case name has no entry of its own, the plain one counts. -/
theorem spelled?_ofTexts {entries : Entries Value} (h : entries.get? name = some v)
    (hcamel : camel name ≠ name → entries.get? (camel name) = none) : spelled? (ofTexts entries) name = some v := by
  rw [spelled?, field?_ofTexts, field?_ofTexts]
  by_cases hname : camel name = name
  · rw [hname, h, Option.some_or]
  · rw [hcamel hname, h, Option.none_or]

end Value

namespace Checked

variable {read : Value → Checked α} {a : α}

theorem within_eq_ok {step : PathStep} {x : Checked α} : within step x = .ok a ↔ x = .ok a := by
  cases x <;> simp [within]

theorem both_eq_ok {x : Checked α} {y : Checked β} {p : α × β} : both x y = .ok p ↔ x = .ok p.1 ∧ y = .ok p.2 := by
  cases x <;> cases y <;> simp [both, Prod.ext_iff]

/-- A field has the value that is read from its entry, or its default where it has no entry. -/
theorem field_eq_ok {default : Option α} :
    field read name default es = .ok a ↔
      (∃ v, Value.spelled? es name = some v ∧ read v = .ok a) ∨
      (Value.spelled? es name = none ∧ default = some a) := by
  unfold field Value.spelled?
  cases Value.field? es (camel name) with
  | some v => simp [within_eq_ok]
  | none =>
    cases Value.field? es name with
    | some v => simp [within_eq_ok]
    | none => cases default <;> simp

theorem items_eq_ok {values : List Value} {xs : List α} :
    ∀ {i}, items read i values = .ok xs ↔ List.Forall₂ (fun v x => read v = .ok x) values xs := by
  induction values generalizing xs with
  | nil => simp [items, eq_comm]
  | cons v values ih =>
    intro i
    rw [items, map_eq_ok, List.forall₂_cons_left_iff]
    simp only [both_eq_ok, within_eq_ok, ih, Prod.exists, and_assoc, exists_and_left, @eq_comm _ xs]

theorem entries_eq_ok {pairs : Entries α} :
    entries read es = .ok pairs ↔
      List.Forall₂ (fun e p => Coercion.toText (.scalar e.1) = .ok p.1 ∧ read e.2 = .ok p.2) es pairs := by
  induction es generalizing pairs with
  | nil => simp [entries, eq_comm]
  | cons e es ih =>
    obtain ⟨k, v⟩ := e
    rw [entries, map_eq_ok, List.forall₂_cons_left_iff]
    simp only [both_eq_ok, within_eq_ok, ih, Prod.exists, and_assoc, exists_and_left, @eq_comm _ pairs]

end Checked

/-! ## Cells -/

structure Cell where
  {type : Type}
  name : String
  schema : Schema type
  default : Option type
  value : type

def Cell.entry (spelling : Spelling) (c : Cell) : String × Value :=
  (spelling.spell c.name, c.schema.write spelling c.value)

namespace Fields

def cells : {ρ : Type} → Fields ρ → ρ → List Cell
  | _, .done, _ => []
  | _, .field name s default rest, r => ⟨name, s, default, r.1⟩ :: rest.cells r.2

theorem map_name_cells : {ρ : Type} → (fields : Fields ρ) → (r : ρ) → (fields.cells r).map (·.name) = fields.names
  | _, .done, _ => rfl
  | _, .field _ _ _ rest, r => congrArg _ (rest.map_name_cells r.2)

theorem write_eq (spelling : Spelling) : {ρ : Type} → (fields : Fields ρ) → (r : ρ) →
    fields.write spelling r = Value.ofTexts ((fields.cells r).map (Cell.entry spelling))
  | _, .done, _ => rfl
  | _, .field _ _ _ rest, r => congrArg _ (rest.write_eq spelling r.2)

theorem read_eq_ok : {ρ : Type} → (fields : Fields ρ) → {r : ρ} →
    (fields.read es = .ok r ↔
      ∀ c ∈ fields.cells r, Checked.field c.schema.read c.name c.default es = .ok c.value)
  | _, .done, _ => by simp [read, cells]
  | _, .field _ _ _ rest, _ => by simp only [read, cells, Checked.both_eq_ok, rest.read_eq_ok, List.forall_mem_cons]

theorem exists_read : {ρ : Type} → (fields : Fields ρ) → (r : ρ) →
    ((∃ r', fields.read es = .ok r') ↔
      ∀ c ∈ fields.cells r, ∃ x, Checked.field c.schema.read c.name c.default es = .ok x)
  | _, .done, _ => by simp [read, cells]
  | _, .field _ _ _ rest, r => by
    simp only [read, cells, Checked.both_eq_ok, Prod.exists, exists_and_left, exists_and_right, rest.exists_read r.2,
      List.forall_mem_cons]

/-- What is read depends on the entries under the two spellings of each name. -/
theorem read_congr {es' : List (Scalar × Value)} : {ρ : Type} → (fields : Fields ρ) →
    (∀ n ∈ fields.names, Value.field? es (camel n) = Value.field? es' (camel n) ∧
      Value.field? es n = Value.field? es' n) → fields.read es = fields.read es'
  | _, .done, _ => rfl
  | _, .field name s default rest, h => by
    obtain ⟨⟨hcamel, hplain⟩, hrest⟩ := List.forall_mem_cons.mp h
    simp only [read, Checked.field, hcamel, hplain, rest.read_congr hrest]

/-- Two rows have the same fields. -/
theorem exists_cell : {ρ : Type} → (fields : Fields ρ) → (r r' : ρ) →
    ∀ c ∈ fields.cells r, ∃ x, { c with value := x } ∈ fields.cells r'
  | _, .done, _, _, _, h => by cases h
  | _, .field _ _ _ rest, r, r', c, h => by
    rcases List.mem_cons.mp h with rfl | h
    · exact ⟨r'.1, List.mem_cons_self⟩
    · obtain ⟨x, hx⟩ := rest.exists_cell r.2 r'.2 c h
      exact ⟨x, List.mem_cons_of_mem _ hx⟩

variable {fields : Fields ρ} {r : ρ} {c : Cell} {n : String}

theorem mem_names_of_mem_cells (h : c ∈ fields.cells r) : c.name ∈ fields.names :=
  fields.map_name_cells r ▸ List.mem_map_of_mem h

theorem exists_cell_of_mem_names (r : ρ) (h : n ∈ fields.names) : ∃ c ∈ fields.cells r, c.name = n :=
  List.mem_map.mp (fields.map_name_cells r ▸ h)

end Fields

namespace Schema

/-- The fields of a record; what is no record has none. -/
def cells : {α : Type} → Schema α → α → List Cell
  | _, .record fields _ parts _ _, a => fields.cells (parts a)
  | _, _, _ => []

def isRecord : {α : Type} → Schema α → Bool
  | _, .record _ _ _ _ _ => true
  | _, _ => false

/-- A record is written as one entry for each field, under its name in the spelling asked for. -/
theorem write_eq_map {s : Schema α} (h : s.isRecord = true) (spelling : Spelling) (a : α) :
    s.write spelling a = .map (Value.ofTexts ((s.cells a).map (Cell.entry spelling))) := by
  cases s with
  | record fields _ parts _ _ => rw [write, fields.write_eq, cells]
  | _ => cases h

end Schema

/-! ## Names that cannot be taken for each other -/

/-- No spelling of the one name is a spelling of the other. -/
def Unlike (n m : String) : Prop := camel n ≠ camel m ∧ camel n ≠ m ∧ n ≠ camel m

instance (n m : String) : Decidable (Unlike n m) := inferInstanceAs (Decidable (_ ∧ _ ∧ _))

instance : Std.Symm Unlike := ⟨fun _ _ h => ⟨h.1.symm, h.2.2.symm, h.2.1.symm⟩⟩

namespace Fields

def Apart (fields : Fields ρ) : Prop := fields.names.Pairwise Unlike

instance (fields : Fields ρ) : Decidable fields.Apart := inferInstanceAs (Decidable (List.Pairwise _ _))

variable {fields : Fields ρ} {r : ρ} {c : Cell} {n m : String}

theorem Apart.eq_of_spell_eq (h : fields.Apart) (spelling spelling' : Spelling) (hn : n ∈ fields.names)
    (hm : m ∈ fields.names) (he : spelling.spell n = spelling'.spell m) : n = m := by
  by_contra hne
  obtain ⟨hcc, hcp, hpc⟩ : Unlike n m := List.Pairwise.forall h hn hm hne
  cases spelling with
  | camel =>
    cases spelling' with
    | camel => exact hcc he
    | plain => exact hcp he
  | plain =>
    cases spelling' with
    | camel => exact hpc he
    | plain => exact hne he

theorem Apart.nodup_names (h : fields.Apart) : fields.names.Nodup :=
  List.Pairwise.imp (fun hu he => hu.1 (congrArg camel he)) h

theorem Apart.nodup (h : fields.Apart) (spelling : Spelling) : (fields.names.map spelling.spell).Nodup := by
  rw [List.Nodup, List.pairwise_map]
  refine List.Pairwise.imp (fun {n m} hu => ?_) h
  cases spelling with
  | camel => exact hu.1
  | plain => exact fun he => hu.1 (congrArg camel he)

theorem Apart.distinct (h : fields.Apart) (spelling : Spelling) (r : ρ) :
    Entries.Distinct ((fields.cells r).map (Cell.entry spelling)) := by
  have hn := h.nodup spelling
  rw [← fields.map_name_cells r, List.map_map] at hn
  rwa [Entries.Distinct, List.map_map]

/-- Among the entries of a row each field has its own. -/
theorem Apart.get?_entries (h : fields.Apart) (spelling : Spelling) (hc : c ∈ fields.cells r) :
    Entries.get? ((fields.cells r).map (Cell.entry spelling)) (spelling.spell c.name) =
      some (c.schema.write spelling c.value) :=
  (Entries.get?_eq_some (h.distinct spelling r)).mpr (List.mem_map_of_mem hc)

/-- Entries under plain names leave no other spelling of a name. -/
theorem Apart.get?_camel_entries_plain (h : fields.Apart) (hn : n ∈ fields.names) (hne : camel n ≠ n) :
    Entries.get? ((fields.cells r).map (Cell.entry .plain)) (camel n) = none := by
  rw [Entries.get?_eq_none, List.map_map, List.mem_map]
  rintro ⟨c, hc, he⟩
  have hcn : c.name = n := h.eq_of_spell_eq .plain .camel (mem_names_of_mem_cells hc) hn he
  exact hne (hcn ▸ he.symm)

theorem Apart.field?_write (h : fields.Apart) (spelling : Spelling) (hc : c ∈ fields.cells r) :
    Value.field? (fields.write spelling r) (spelling.spell c.name) = some (c.schema.write spelling c.value) := by
  rw [write_eq, Value.field?_ofTexts]
  exact h.get?_entries spelling hc

theorem Apart.spelled?_write (h : fields.Apart) (spelling : Spelling) (hc : c ∈ fields.cells r) :
    Value.spelled? (fields.write spelling r) c.name = some (c.schema.write spelling c.value) := by
  have hentry := h.get?_entries spelling hc
  rw [write_eq]
  cases spelling with
  | camel =>
    rw [Spelling.spell] at hentry
    rw [Value.spelled?, Value.field?_ofTexts, hentry, Option.some_or]
  | plain => exact Value.spelled?_ofTexts hentry (h.get?_camel_entries_plain (mem_names_of_mem_cells hc))

end Fields

end Formwork
