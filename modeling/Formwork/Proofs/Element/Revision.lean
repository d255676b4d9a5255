/-
  Formwork.Proofs.Element.Revision: what an update changes, and what it leaves alone.

  An update goes through the whole document of an element: everything is written, overlaid
  and read again. Nothing of that shows:

  - `isRevision_of_update`: the fields that no key names are as before, each named field has
    what the last of its keys brings, and the element is stamped with the time, whatever the
    update says about that.
  - `exists_update`: an update goes through exactly when every last value can be read.
  - `revise_replaces_named_fields`: an engine holds the revised element, or the one that it
    held before; keys that name no field make no difference.
  - `valid_revisions`: an engine that begins with an element that some document stands for
    holds such an element after any number of updates.
-/

import Formwork.Element.Revision
import Formwork.Proofs.Document.Amendment
import Formwork.Proofs.Document.Models
import Mathlib.Data.List.Nodup

namespace Formwork

namespace Schema

/-- A key names one field at most. -/
theorem eq_of_names {α : Type} {s : Schema α} (hs : s.sound = true) {a : α} {c c' : Cell} (hc : c ∈ s.cells a)
    (hc' : c' ∈ s.cells a) {key : String} (h : Names key c.name) (h' : Names key c'.name) : c = c' := by
  cases s with
  | record fields _ parts _ _ =>
    have hapart := apart_of_sound hs
    have hn := Fields.mem_names_of_mem_cells hc
    have hn' := Fields.mem_names_of_mem_cells hc'
    have hname : c.name = c'.name := by
      rw [← (hapart.plainName_eq hn).mpr h, (hapart.plainName_eq hn').mpr h']
    have hnodup := hapart.nodup_names
    rw [← fields.map_name_cells (parts a)] at hnodup
    exact List.inj_on_of_nodup_map hnodup hc hc' hname
  | _ => cases hc

end Schema

namespace AnyElement

variable {kind : ElementKind} {a : kind.Config} {e e' : AnyElement} {updates updates' stamps : Entries Value}
  {now : Timestamp} {c : Cell} {key : String}

def cells : AnyElement → List Cell
  | quiz q => Quiz.schema.cells q
  | calculator c => Calculator.schema.cells c
  | survey s => Survey.schema.cells s

def knows (e : AnyElement) (key : String) : Bool := e.cells.any fun c => decide (Names key c.name)

def Valid (e : AnyElement) : Prop := ∃ v, readAs e.kind v = .ok e

theorem cells_ofKind : (ofKind kind a).cells = (schema kind).cells a := by cases kind <;> rfl

theorem amend_ofKind :
    (ofKind kind a).amend updates stamps = ((schema kind).amend a updates stamps).map (ofKind kind) := by
  cases kind <;> rfl

theorem valid_ofKind : (ofKind kind a).Valid ↔ (schema kind).admits a = true := by
  rw [Schema.admits_iff_read (schema_sound kind), Valid, kind_ofKind]
  simp only [readAs_eq_ok]

theorem eq_of_names {c' : Cell} (hc : c ∈ e.cells) (hc' : c' ∈ e.cells) (h : Names key c.name)
    (h' : Names key c'.name) : c = c' := by
  obtain ⟨kind, a, rfl⟩ := e.exists_ofKind
  rw [cells_ofKind] at hc hc'
  exact Schema.eq_of_names (schema_sound kind) hc hc' h h'

/-! ## Fields on top of others -/

theorem cells_amend (he : e.Valid) (h : e.amend updates [] = .ok e') :
    e'.Valid ∧ e'.kind = e.kind ∧ ∀ c ∈ e'.cells,
      (∀ v, lastNaming? updates c.name = some v → c.schema.read v = .ok c.value) ∧
      (lastNaming? updates c.name = none → c ∈ e.cells) := by
  obtain ⟨kind, a, rfl⟩ := e.exists_ofKind
  rw [amend_ofKind, map_eq_ok] at h
  obtain ⟨b, hb, rfl⟩ := h
  rw [valid_ofKind] at he
  rw [valid_ofKind, cells_ofKind, cells_ofKind, kind_ofKind, kind_ofKind]
  exact ⟨Schema.admits_amend (schema_sound kind) he hb, rfl, Schema.cells_amend (schema_sound kind) he hb⟩

theorem exists_amend (he : e.Valid) (updates : Entries Value) :
    (∃ e', e.amend updates [] = .ok e') ↔
      ∀ c ∈ e.cells, ∀ v, lastNaming? updates c.name = some v → ∃ x, c.schema.read v = .ok x := by
  obtain ⟨kind, a, rfl⟩ := e.exists_ofKind
  rw [valid_ofKind] at he
  rw [cells_ofKind, ← Schema.exists_amend (schema_sound kind) he, amend_ofKind, exists_map_eq_ok]

/-! ## One update -/

theorem updatedAt_mem_cells (e : AnyElement) :
    ⟨"updated_at", .optional .timestamp, some none, e.common.updatedAt⟩ ∈ e.cells := by
  cases e <;> exact List.mem_of_getElem? (i := 17) rfl

/-- The fields that an update may not replace are the time of the last update alone. -/
theorem lastNaming?_stamped (hc : c ∈ e.cells) (updates : Entries Value) (now : Timestamp) :
    lastNaming? (updates ++ [("updated_at", .scalar (.time now))]) c.name =
      if c.name = "updated_at" then some (.scalar (.time now)) else lastNaming? updates c.name := by
  have hnames : Names "updated_at" c.name ↔ c.name = "updated_at" :=
    ⟨fun h => congrArg Cell.name (eq_of_names hc e.updatedAt_mem_cells h (Or.inl rfl)), fun h => Or.inl h.symm⟩
  rw [lastNaming?_append, lastNaming?_singleton]
  simp only [hnames]
  split <;> rfl

theorem update_eq (e : AnyElement) (updates : Entries Value) (now : Timestamp) :
    e.update updates now = e.amend (updates ++ [("updated_at", .scalar (.time now))]) [] := by
  have hstamp : "updated_at" ∈ e.cells.map (·.name) := List.mem_map_of_mem e.updatedAt_mem_cells
  obtain ⟨kind, a, rfl⟩ := e.exists_ofKind
  rw [cells_ofKind] at hstamp
  rw [update, amend_ofKind, amend_ofKind, Schema.amend_append (schema_sound kind) updates (by simpa using hstamp)]

structure IsRevision (updates : Entries Value) (now : Timestamp) (e e' : AnyElement) : Prop where
  valid : e'.Valid
  kind : e'.kind = e.kind
  stamped : e'.common.updatedAt = some now
  named : ∀ c ∈ e'.cells, c.name ≠ "updated_at" → ∀ v, lastNaming? updates c.name = some v →
    c.schema.read v = .ok c.value
  others : ∀ c ∈ e'.cells, c.name ≠ "updated_at" → lastNaming? updates c.name = none → c ∈ e.cells

theorem isRevision_of_update (he : e.Valid) (h : e.update updates now = .ok e') : IsRevision updates now e e' := by
  rw [update_eq] at h
  obtain ⟨hvalid, hkind, hcells⟩ := cells_amend he h
  refine ⟨hvalid, hkind, ?_, ?_, ?_⟩
  · have hstamp := e'.updatedAt_mem_cells
    have hread := (hcells _ hstamp).1 (.scalar (.time now)) (by rw [lastNaming?_stamped hstamp, if_pos rfl])
    exact (Except.ok.inj hread).symm
  · intro c hc hne v hv
    exact (hcells c hc).1 v (by rwa [lastNaming?_stamped hc, if_neg hne])
  · intro c hc hne hnone
    exact (hcells c hc).2 (by rwa [lastNaming?_stamped hc, if_neg hne])

/-- An update goes through if the last value of every field that it names can be read. -/
theorem exists_update (he : e.Valid) (updates : Entries Value) (now : Timestamp) :
    (∃ e', e.update updates now = .ok e') ↔
      ∀ c ∈ e.cells, c.name ≠ "updated_at" → ∀ v, lastNaming? updates c.name = some v →
        ∃ x, c.schema.read v = .ok x := by
  have hstamped : ∀ c ∈ e.cells,
      (∀ v, lastNaming? (updates ++ [("updated_at", .scalar (.time now))]) c.name = some v →
        ∃ x, c.schema.read v = .ok x) ↔
      (c.name ≠ "updated_at" → ∀ v, lastNaming? updates c.name = some v → ∃ x, c.schema.read v = .ok x) := by
    intro c hc
    rw [lastNaming?_stamped hc]
    by_cases hname : c.name = "updated_at"
    · obtain rfl := eq_of_names hc e.updatedAt_mem_cells (Or.inl hname.symm) (Or.inl rfl)
      simp [Schema.read, Coercion.toTimestamp, Except.map]
    · simp [hname]
  rw [← forall₂_congr hstamped, update_eq, exists_amend he]

theorem update_congr (h : ∀ c ∈ e.cells, lastNaming? updates c.name = lastNaming? updates' c.name) :
    e.update updates now = e.update updates' now := by
  rw [update_eq, update_eq]
  obtain ⟨kind, a, rfl⟩ := e.exists_ofKind
  rw [cells_ofKind] at h
  rw [amend_ofKind, amend_ofKind]
  refine congrArg _ (Schema.amend_congr (schema_sound kind) fun c hc => ?_)
  rw [lastNaming?_append, lastNaming?_append, h c hc]

/-- Keys that name no field do nothing. -/
theorem update_filter_knows (e : AnyElement) (updates : Entries Value) (now : Timestamp) :
    e.update (updates.filter fun u => e.knows u.1) now = e.update updates now := by
  refine update_congr fun c hc => lastNaming?_filter (fun key hkey => ?_) updates
  exact List.any_eq_true.mpr ⟨c, hc, decide_eq_true hkey⟩

/-! ## The element that an engine holds -/

theorem run_revise (e : AnyElement) (updates : Entries Value) (now : Timestamp) :
    (revise updates now).run.run e =
      match e.update updates now with
      | .ok revised => (.ok revised, revised)
      | .error issues => (.error issues, e) := by
  -- Fetching the element and the update itself leave the state alone; the rest runs on their result.
  let hold (revised : AnyElement) : ExceptT (List Issue) (StateM AnyElement) AnyElement := do
    set revised
    return revised
  have hrun : (revise updates now).run.run e = ExceptT.bindCont hold (e.update updates now) e := rfl
  rw [hrun]
  cases e.update updates now <;> rfl

theorem valid_revise (he : e.Valid) (updates : Entries Value) (now : Timestamp) :
    ((revise updates now).run.run e).2.Valid := by
  rw [run_revise]
  cases h : e.update updates now with
  | ok revised => exact (isRevision_of_update he h).valid
  | error issues => exact he

/-- Whatever updates an engine is asked for, it holds an element that some document stands for. -/
theorem valid_revisions (he : e.Valid) (requests : List (Entries Value × Timestamp)) :
    (requests.foldl (fun e u => ((revise u.1 u.2).run.run e).2) e).Valid := by
  induction requests generalizing e with
  | nil => exact he
  | cons u requests ih => exact ih (valid_revise he u.1 u.2)

/-- An update replaces the fields that it names by what their last values are read as, stamps the
element and leaves everything else alone. Where one of these cannot be read, the engine holds
what it held. Keys that name no field make no difference. -/
theorem revise_replaces_named_fields (e : AnyElement) (he : e.Valid) (updates : Entries Value) (now : Timestamp) :
    (∀ e' held, (revise updates now).run.run e = (.ok e', held) → held = e' ∧ IsRevision updates now e e') ∧
    (∀ issues held, (revise updates now).run.run e = (.error issues, held) → held = e) ∧
    ((∃ e', ((revise updates now).run.run e).1 = .ok e') ↔
      ∀ c ∈ e.cells, c.name ≠ "updated_at" → ∀ v, lastNaming? updates c.name = some v →
        ∃ x, c.schema.read v = .ok x) ∧
    (revise (updates.filter fun u => e.knows u.1) now).run.run e = (revise updates now).run.run e := by
  rw [← exists_update he updates now, run_revise, run_revise, update_filter_knows]
  refine ⟨?_, ?_, ?_, rfl⟩
  · intro e' held h
    cases hupdate : e.update updates now with
    | ok revised =>
      rw [hupdate] at h
      cases h
      exact ⟨rfl, isRevision_of_update he hupdate⟩
    | error issues =>
      rw [hupdate] at h
      cases h
  · intro issues held h
    cases hupdate : e.update updates now with
    | ok revised =>
      rw [hupdate] at h
      cases h
    | error _ =>
      rw [hupdate] at h
      cases h
      rfl
  · cases e.update updates now <;> simp

def tips : AnyElement := .calculator {
  id := "tips"
  title := "Tips"
  websiteId := "w"
  inputs := [{ id := "bill", name := "bill", label := "Bill" }]
  outputs := [{ id := "tip", label := "Tip", formula := "bill * 0.1" }] }

/-- It moves to another page, named twice and in both spellings, with a time of its own and a key that names nothing. -/
def moving : Entries Value :=
  [("pageId", .text "old"), ("updated_at", .text "never"), ("page_id", .text "new"), ("note", .int 1)]

/-- The move goes through. -/
theorem tips_moving :
    tips.Valid ∧ ∃ moved, (revise moving (.midnight ⟨2024, 1, 2⟩)).run.run tips = (.ok moved, moved) ∧
      IsRevision moving (.midnight ⟨2024, 1, 2⟩) tips moved ∧ moved.common.pageId = some "new" := by
  have hvalid : tips.Valid := valid_ofKind.mpr (show (schema .calculator).admits _ = true by decide +kernel)
  have hupdate : (tips.update moving (.midnight ⟨2024, 1, 2⟩)).toOption.map (·.common.pageId) =
      some (some "new") := by decide +kernel
  obtain ⟨moved, hmoved, hpage⟩ := Option.map_eq_some_iff.mp hupdate
  have hrun := run_revise tips moving (.midnight ⟨2024, 1, 2⟩)
  rw [eq_ok_of_toOption hmoved] at hrun
  have hrevision := (revise_replaces_named_fields tips hvalid moving (.midnight ⟨2024, 1, 2⟩)).1 moved moved hrun
  exact ⟨hvalid, moved, hrun, hrevision.2, hpage⟩

end AnyElement

end Formwork
