/-
  Formwork.Entries: values by name, in the order in which the names first came.

  Writing an existing name keeps its place; a new name goes to the end. `get?` is the view
  that the operations are described by (`get?_put`, `get?_erase`, `get?_append`).
-/

namespace Formwork

/-- Named values; the first entry of a name counts. -/
abbrev Entries (α : Type) := List (String × α)

namespace Entries

variable {α : Type}

def get? (entries : Entries α) (name : String) : Option α :=
  (entries.find? fun e => e.1 == name).map (·.2)

def put (entries : Entries α) (name : String) (value : α) : Entries α :=
  if entries.any (·.1 == name) then entries.map fun e => if e.1 == name then (e.1, value) else e
  else entries ++ [(name, value)]

def erase (entries : Entries α) (name : String) : Entries α := entries.filter (·.1 != name)

/-- All entries written one after another, so a later one replaces an earlier one of its name. -/
def ofList (pairs : List (String × α)) : Entries α := pairs.foldl (fun es p => put es p.1 p.2) []

theorem get?_cons (e : String × α) (entries : Entries α) (name : String) :
    get? (e :: entries) name = if e.1 = name then some e.2 else get? entries name := by
  by_cases h : e.1 = name <;> simp [get?, h]

theorem get?_append (a b : Entries α) (name : String) : get? (a ++ b) name = (get? a name).or (get? b name) := by
  induction a with
  | nil => simp [get?]
  | cons e a ih =>
    rw [List.cons_append, get?_cons, get?_cons, ih]
    split <;> rfl

theorem get?_eq_none_of_fresh {entries : Entries α} {name : String} (h : entries.any (·.1 == name) = false) :
    get? entries name = none := by
  induction entries with
  | nil => rfl
  | cons e entries ih =>
    rw [List.any_cons, Bool.or_eq_false_iff] at h
    rw [get?_cons, if_neg (by simpa using h.1)]
    exact ih h.2

theorem get?_map_value (entries : Entries α) (name other : String) (value : α) :
    get? (entries.map fun e => if e.1 == name then (e.1, value) else e) other =
      if other = name then (get? entries other).map fun _ => value else get? entries other := by
  induction entries with
  | nil => simp [get?]
  | cons e entries ih =>
    rw [List.map_cons, get?_cons, get?_cons, ih]
    by_cases hn : e.1 = name <;> by_cases ho : e.1 = other <;> grind

theorem get?_put (entries : Entries α) (name other : String) (value : α) :
    get? (put entries name value) other = if other = name then some value else get? entries other := by
  unfold put
  by_cases h : entries.any (·.1 == name)
  · rw [if_pos h, get?_map_value]
    have hs : (entries.find? fun e => e.1 == name).isSome := by rw [List.find?_isSome]; simpa using h
    obtain ⟨f, hf⟩ := Option.isSome_iff_exists.1 hs
    by_cases ho : other = name
    · rw [if_pos ho, if_pos ho, ho, get?, hf]
      rfl
    · rw [if_neg ho, if_neg ho]
  · rw [if_neg h, get?_append, get?_cons]
    by_cases ho : other = name
    · rw [ho, get?_eq_none_of_fresh (Bool.eq_false_iff.2 h), if_pos rfl, if_pos rfl]
      rfl
    · rw [if_neg (Ne.symm ho), if_neg ho]
      simp [get?]

theorem get?_erase (entries : Entries α) (name other : String) :
    get? (erase entries name) other = if other = name then none else get? entries other := by
  unfold erase
  induction entries with
  | nil => simp [get?]
  | cons e entries ih =>
    rw [List.filter_cons, get?_cons]
    by_cases hn : e.1 = name <;> by_cases ho : e.1 = other <;> grind [get?_cons]

end Entries

end Formwork
