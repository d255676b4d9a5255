/-
  Formwork.Proofs.Entries: which names have a value, and which value.

  Written one after another, entries give a value to exactly the names that were written,
  and it is the one written last (`get?_foldl_put`). No name is then there twice, and such
  entries are given by their values alone: two lists with the same value for every name
  hold the same entries (`perm_of_get?_eq`).
-/

import Formwork.Entries
import Formwork.Proofs.Bind
import Mathlib.Data.List.Induction

namespace Formwork.Entries

variable {α β : Type} {entries : Entries α} {name : String}

theorem mem_of_get? {a : α} (h : entries.get? name = some a) : (name, a) ∈ entries := by
  induction entries with
  | nil => cases h
  | cons e entries ih =>
    rw [get?_cons] at h
    split at h
    · rename_i hn
      cases h
      subst hn
      exact List.mem_cons_self
    · exact List.mem_cons_of_mem _ (ih h)

theorem get?_map (f : α → β) : get? (entries.map fun e => (e.1, f e.2)) name = (entries.get? name).map f := by
  induction entries with
  | nil => rfl
  | cons e entries ih =>
    rw [List.map_cons, get?_cons, get?_cons, ih]
    split <;> rfl

theorem isSome_get?_put {a : α} {other : String} :
    ((put entries name a).get? other).isSome = true ↔ other = name ∨ (entries.get? other).isSome = true := by
  rw [get?_put]
  by_cases h : other = name <;> simp [h]

/-- After a run that writes one entry for each item, the names are those from before and those of the items. -/
theorem isSome_get?_foldlM_put {ε γ : Type} {key : γ → String} {value : γ → Except ε α} {items : List γ} :
    ∀ {start : Entries α},
      items.foldlM (fun (es : Entries α) x => (value x).map (put es (key x))) start = .ok entries →
        ((entries.get? name).isSome = true ↔ (start.get? name).isSome = true ∨ ∃ x ∈ items, key x = name) := by
  induction items with
  | nil =>
    intro start h
    cases h
    simp
  | cons x items ih =>
    intro start h
    rw [List.foldlM_cons] at h
    obtain ⟨next, hn, h⟩ := bind_eq_ok.mp h
    obtain ⟨a, -, rfl⟩ := map_eq_ok.mp hn
    rw [ih h, isSome_get?_put, @eq_comm _ name, @or_comm (key x = name), or_assoc]
    simp only [List.mem_cons, exists_eq_or_imp]

/-- A run that writes one entry for each item fails at the first item that has no value. -/
theorem foldlM_put_eq_error {ε γ : Type} {key : γ → String} {value : γ → Except ε α} {items : List γ} {e : ε} :
    ∀ {start : Entries α},
      items.foldlM (fun (es : Entries α) x => (value x).map (put es (key x))) start = .error e ↔
        ∃ before x after, items = before ++ x :: after ∧ (∀ y ∈ before, ∃ a, value y = .ok a) ∧
          value x = .error e := by
  induction items with
  | nil =>
    intro start
    exact iff_of_false (fun h => by cases h) (by simp)
  | cons x items ih =>
    intro start
    rw [List.foldlM_cons, exists_first_cons]
    cases hx : value x with
    | error failure => simp [Except.map]
    | ok a =>
      rw [Except.map, ok_bind, ih]
      simp

/-- It succeeds when all items have values, and writes these one after another. -/
theorem foldlM_put_eq_ok {ε γ : Type} {key : γ → String} {value : γ → Except ε α} {items : List γ} :
    ∀ {start : Entries α},
      items.foldlM (fun (es : Entries α) x => (value x).map (put es (key x))) start = .ok entries ↔
        ∃ pairs : List (String × α), List.Forall₂ (fun x p => p.1 = key x ∧ value x = .ok p.2) items pairs ∧
          pairs.foldl (fun es p => put es p.1 p.2) start = entries := by
  induction items with
  | nil =>
    intro start
    simp only [List.foldlM_nil, List.forall₂_nil_left_iff, exists_eq_left, List.foldl_nil]
    exact ⟨fun h => Except.ok.inj h, fun h => congrArg Except.ok h⟩
  | cons x items ih =>
    intro start
    rw [List.foldlM_cons, bind_eq_ok]
    simp only [ih, map_eq_ok, List.forall₂_cons_left_iff]
    constructor
    · rintro ⟨_, ⟨a, ha, rfl⟩, pairs, hpairs, rfl⟩
      exact ⟨(key x, a) :: pairs, ⟨_, _, ⟨rfl, ha⟩, hpairs, rfl⟩, rfl⟩
    · rintro ⟨_, ⟨⟨_, a⟩, pairs, ⟨rfl, ha⟩, hpairs, rfl⟩, rfl⟩
      exact ⟨_, ⟨a, ha, rfl⟩, pairs, hpairs, rfl⟩

theorem isSome_get?_ofList {pairs : List (String × α)} :
    ((ofList pairs).get? name).isSome = true ↔ ∃ p ∈ pairs, p.1 = name := by
  have h : pairs.foldlM (fun (es : Entries α) p => (Except.ok p.2 : Except Unit α).map (put es p.1)) [] =
      .ok (ofList pairs) := List.foldlM_pure
  rw [isSome_get?_foldlM_put h]
  simp [get?]

/-! ## The value written last -/

def last? (entries : Entries α) (name : String) : Option α := get? entries.reverse name

@[simp] theorem last?_nil : last? ([] : Entries α) name = none := rfl

theorem last?_append (a b : Entries α) : last? (a ++ b) name = (last? b name).or (last? a name) := by
  rw [last?, List.reverse_append, get?_append]
  rfl

theorem last?_singleton (n : String) (a : α) : last? [(n, a)] name = if n = name then some a else none := by
  rw [last?, List.reverse_singleton, get?_cons]
  rfl

theorem last?_concat {n : String} {a : α} :
    last? (entries ++ [(n, a)]) name = if name = n then some a else last? entries name := by
  rw [last?_append, last?_singleton]
  by_cases h : name = n
  · simp [h]
  · simp [h, Ne.symm h]

theorem get?_foldl_put (pairs : List (String × α)) :
    ∀ {start : Entries α},
      (pairs.foldl (fun es p => put es p.1 p.2) start).get? name = (last? pairs name).or (start.get? name) := by
  induction pairs with
  | nil =>
    intro start
    rfl
  | cons p pairs ih =>
    intro start
    rw [List.foldl_cons, ih, get?_put, ← List.singleton_append, last?_append, last?_singleton, Option.or_assoc]
    by_cases h : p.1 = name
    · rw [if_pos h, if_pos h.symm]
      rfl
    · rw [if_neg h, if_neg (Ne.symm h), Option.none_or]

/-- Of the entries of items, that of a name belongs to the first item with it. -/
theorem get?_of_forall₂ {ε γ : Type} {key : γ → String} {value : γ → Except ε α} {items : List γ}
    {pairs : List (String × α)} (h : List.Forall₂ (fun x p => p.1 = key x ∧ value x = .ok p.2) items pairs) :
    (get? pairs name).map Except.ok = (items.find? fun x => key x == name).map value := by
  induction h with
  | nil => rfl
  | @cons x p items pairs hp _ ih =>
    obtain ⟨hkey, hvalue⟩ := hp
    rw [get?_cons, List.find?_cons, hkey]
    by_cases hn : key x = name
    · simp [hn, hvalue]
    · rw [if_neg hn, ih, beq_eq_false_iff_ne.mpr hn]

/-- Written one after another, it belongs to the last one. -/
theorem get?_ofList_of_forall₂ {ε γ : Type} {key : γ → String} {value : γ → Except ε α} {items : List γ}
    {pairs : List (String × α)} (h : List.Forall₂ (fun x p => p.1 = key x ∧ value x = .ok p.2) items pairs) :
    ((ofList pairs).get? name).map Except.ok = (items.reverse.find? fun x => key x == name).map value := by
  rw [ofList, get?_foldl_put, last?]
  have hreverse := List.forall₂_reverse_iff.mpr h
  rw [← get?_of_forall₂ hreverse]
  cases get? pairs.reverse name <;> rfl

/-! ## No name twice -/

def Distinct (entries : Entries α) : Prop := (entries.map (·.1)).Nodup

instance (entries : Entries α) : Decidable entries.Distinct := inferInstanceAs (Decidable (List.Nodup _))

theorem distinct_nil : Distinct ([] : Entries α) := List.nodup_nil

theorem distinct_cons {e : String × α} : Distinct (e :: entries) ↔ e.1 ∉ entries.map (·.1) ∧ Distinct entries :=
  List.nodup_cons

theorem get?_eq_none : entries.get? name = none ↔ name ∉ entries.map (·.1) := by
  induction entries with
  | nil => simp [get?]
  | cons e entries ih =>
    rw [get?_cons, List.map_cons, List.mem_cons, not_or, ← ih]
    by_cases h : e.1 = name
    · simp [h]
    · simp [h, Ne.symm h]

theorem get?_eq_some (h : Distinct entries) {a : α} : entries.get? name = some a ↔ (name, a) ∈ entries := by
  constructor
  · exact mem_of_get?
  · intro hm
    induction entries with
    | nil => cases hm
    | cons e entries ih =>
      obtain ⟨hfresh, hd⟩ := distinct_cons.mp h
      rw [get?_cons]
      rcases List.mem_cons.mp hm with rfl | hm
      · exact if_pos rfl
      · have hne : e.1 ≠ name := fun he => hfresh (he ▸ List.mem_map_of_mem hm)
        rw [if_neg hne, ih hd hm]

theorem Distinct.nodup (h : Distinct entries) : entries.Nodup :=
  (List.pairwise_map.mp h).imp fun hne he => hne (congrArg Prod.fst he)

/-- Entries of distinct names with the same values are the same, up to their order. -/
theorem perm_of_get?_eq {other : Entries α} (h : Distinct entries) (h' : Distinct other)
    (he : ∀ name, entries.get? name = other.get? name) : entries.Perm other := by
  refine (List.perm_ext_iff_of_nodup h.nodup h'.nodup).mpr fun e => ?_
  rw [← get?_eq_some h, he, get?_eq_some h']

theorem last?_eq_none : last? entries name = none ↔ name ∉ entries.map (·.1) := by
  rw [last?, get?_eq_none, List.map_reverse, List.mem_reverse]

theorem fresh_erase : name ∉ (erase entries name).map (·.1) := by
  rw [← get?_eq_none, get?_erase, if_pos rfl]

theorem Distinct.erase (h : Distinct entries) (name : String) : Distinct (erase entries name) :=
  h.sublist (List.filter_sublist.map _)

theorem distinct_append_singleton (h : Distinct entries) (hfresh : name ∉ entries.map (·.1)) (a : α) :
    Distinct (entries ++ [(name, a)]) := by
  rw [Distinct, List.map_append, List.nodup_append]
  refine ⟨h, List.nodup_cons.mpr ⟨List.not_mem_nil, List.nodup_nil⟩, ?_⟩
  rintro n hn _ hm rfl
  have he : n = name := List.mem_singleton.mp hm
  exact hfresh (he ▸ hn)

theorem put_of_fresh (hfresh : name ∉ entries.map (·.1)) (a : α) : put entries name a = entries ++ [(name, a)] := by
  have h : entries.any (·.1 == name) = false := by
    rw [List.any_eq_false]
    intro e he heq
    exact hfresh (eq_of_beq heq ▸ List.mem_map_of_mem he)
  rw [put, h]
  rfl

theorem map_fst_put_of_any {a : α} (h : entries.any (·.1 == name) = true) :
    (put entries name a).map (·.1) = entries.map (·.1) := by
  rw [put, if_pos h, List.map_map]
  refine List.map_congr_left fun e _ => ?_
  by_cases hn : e.1 = name <;> simp [hn]

theorem map_fst_put (entries : Entries α) (name : String) (a : α) :
    (put entries name a).map (·.1) =
      if name ∈ entries.map (·.1) then entries.map (·.1) else entries.map (·.1) ++ [name] := by
  split
  · next h =>
    obtain ⟨e, he, hn⟩ := List.mem_map.mp h
    exact map_fst_put_of_any (List.any_eq_true.mpr ⟨e, he, beq_iff_eq.mpr hn⟩)
  · next h =>
    rw [put_of_fresh h, List.map_append]
    rfl

theorem Distinct.put (h : Distinct entries) (name : String) (a : α) : Distinct (put entries name a) := by
  by_cases hany : entries.any (·.1 == name) = true
  · rw [Distinct, map_fst_put_of_any hany]
    exact h
  · have hfresh : name ∉ entries.map (·.1) := get?_eq_none.mp (get?_eq_none_of_fresh (Bool.eq_false_iff.mpr hany))
    rw [put_of_fresh hfresh]
    exact distinct_append_singleton h hfresh a

theorem mem_put {e : String × α} {a : α} (h : e ∈ put entries name a) : e = (name, a) ∨ e ∈ entries := by
  unfold put at h
  split at h
  · obtain ⟨f, hf, rfl⟩ := List.mem_map.mp h
    by_cases hn : f.1 == name
    · rw [if_pos hn, eq_of_beq hn]
      exact Or.inl rfl
    · rw [if_neg hn]
      exact Or.inr hf
  · rw [List.mem_append, List.mem_singleton] at h
    exact h.symm

theorem distinct_foldl_put {pairs : List (String × α)} :
    ∀ {start : Entries α}, Distinct start → Distinct (pairs.foldl (fun es p => put es p.1 p.2) start) := by
  induction pairs with
  | nil => exact id
  | cons p pairs ih => exact fun h => ih (h.put p.1 p.2)

theorem distinct_ofList (pairs : List (String × α)) : Distinct (ofList pairs) := distinct_foldl_put distinct_nil

/-- Names stay where they first came. -/
theorem map_fst_ofList (pairs : List (String × α)) : (ofList pairs).map (·.1) = (pairs.map (·.1)).eraseDups := by
  induction pairs using List.reverseRecOn with
  | nil => rfl
  | append_singleton pairs p ih =>
    have hput : ofList (pairs ++ [p]) = put (ofList pairs) p.1 p.2 := by
      rw [ofList, List.foldl_append]
      rfl
    rw [hput, map_fst_put, ih, List.map_append, List.eraseDups_append]
    by_cases h : p.1 ∈ pairs.map (·.1) <;> simp [h, List.removeAll, List.eraseDups_cons]

theorem mem_foldl_put {pairs : List (String × α)} {e : String × α} :
    ∀ {start : Entries α}, e ∈ pairs.foldl (fun es p => put es p.1 p.2) start → e ∈ pairs ∨ e ∈ start := by
  induction pairs with
  | nil => exact fun h => Or.inr h
  | cons p pairs ih =>
    intro start h
    rcases ih h with h | h
    · exact Or.inl (List.mem_cons_of_mem _ h)
    · rcases mem_put h with rfl | h
      · exact Or.inl List.mem_cons_self
      · exact Or.inr h

theorem mem_of_mem_ofList {pairs : List (String × α)} {e : String × α} (h : e ∈ ofList pairs) : e ∈ pairs :=
  (mem_foldl_put h).resolve_right List.not_mem_nil

/-- Entries of distinct names stay as they are when they are written one after another. -/
theorem ofList_of_distinct (h : Distinct entries) : ofList entries = entries := by
  have hfold : ∀ (pairs start : Entries α), Distinct (start ++ pairs) →
      pairs.foldl (fun es p => put es p.1 p.2) start = start ++ pairs := by
    intro pairs
    induction pairs with
    | nil =>
      intro start _
      rw [List.append_nil]
      rfl
    | cons p pairs ih =>
      intro start hd
      have hfresh : p.1 ∉ start.map (·.1) := by
        rw [Distinct, List.map_append, List.nodup_append] at hd
        exact fun hm => hd.2.2 _ hm _ List.mem_cons_self rfl
      rw [List.foldl_cons, put_of_fresh hfresh, ih, List.append_assoc, List.singleton_append]
      rwa [List.append_assoc]
  exact hfold entries [] h

theorem last?_of_distinct (h : Distinct entries) (name : String) : last? entries name = get? entries name := by
  have hreverse : Distinct entries.reverse := ((entries.reverse_perm.map _).nodup_iff).mpr h
  refine Option.ext fun a => ?_
  rw [last?, get?_eq_some hreverse, get?_eq_some h, List.mem_reverse]

theorem get?_filter (p : String → Bool) (entries : Entries α) (name : String) :
    get? (entries.filter fun e => p e.1) name = if p name = true then get? entries name else none := by
  induction entries with
  | nil => simp [get?]
  | cons e entries ih =>
    rw [List.filter_cons, get?_cons]
    by_cases hn : e.1 = name <;> by_cases hp : p e.1 = true <;> grind [get?_cons]

/-- Written one after another, entries of distinct names replace those of their names, and the others follow. -/
theorem foldl_put_of_distinct {pairs : Entries α} (h : Distinct pairs) : ∀ {start : Entries α},
    pairs.foldl (fun es p => put es p.1 p.2) start =
      start.map (fun e => (e.1, (get? pairs e.1).getD e.2)) ++ pairs.filter fun p => p.1 ∉ start.map (·.1) := by
  induction pairs with
  | nil =>
    intro start
    simp [get?]
  | cons p pairs ih =>
    intro start
    obtain ⟨hfresh, h⟩ := distinct_cons.mp h
    have hnone : get? pairs p.1 = none := get?_eq_none.mpr hfresh
    rw [List.foldl_cons, ih h]
    by_cases hp : p.1 ∈ start.map (·.1)
    · -- the entry keeps its place
      obtain ⟨e, he, hname⟩ := List.mem_map.mp hp
      have hany : start.any (·.1 == p.1) = true := List.any_eq_true.mpr ⟨e, he, beq_iff_eq.mpr hname⟩
      rw [map_fst_put_of_any hany, List.filter_cons_of_neg (by simpa using hp), put, if_pos hany, List.map_map]
      refine congrArg (· ++ _) (List.map_congr_left fun e _ => ?_)
      rw [Function.comp_apply, get?_cons]
      by_cases hn : e.1 = p.1
      · simp [hn, hnone]
      · simp [hn, Ne.symm hn]
    · rw [put_of_fresh hp, List.filter_cons_of_pos (by simpa using hp), List.map_append, List.append_assoc]
      have hstart : start.map (fun e => (e.1, (get? pairs e.1).getD e.2)) =
          start.map (fun e => (e.1, (get? (p :: pairs) e.1).getD e.2)) := by
        refine List.map_congr_left fun e he => ?_
        have hne : p.1 ≠ e.1 := fun hn => hp (hn ▸ List.mem_map_of_mem he)
        rw [get?_cons, if_neg hne]
      have hrest : pairs.filter (fun q => q.1 ∉ (start ++ [p]).map (·.1)) = pairs.filter (fun q => q.1 ∉ start.map (·.1)) := by
        refine List.filter_congr fun q hq => ?_
        have hne : q.1 ≠ p.1 := fun hn => hfresh (hn ▸ List.mem_map_of_mem hq)
        simp [hne]
      rw [hstart, hrest]
      simp [hnone]

end Formwork.Entries
