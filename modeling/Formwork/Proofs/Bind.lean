/-
  Formwork.Proofs.Bind: computations that may fail, one after another.

  The second one runs when the first has a result; otherwise the error of the first is the
  error of both. So a fold over a list that fails does so at one of the items, after all
  before it went well, a fold whose steps keep an invariant ends with it, and a traversal
  succeeds exactly when each item has a result, its results being those. Computations that can only
  fail in one way fail so together when one of them does. Where only a part of
  a result and a part of an error matter (`bimap`), computations that agree in them go on alike.
-/

import Mathlib.Data.List.Forall2

namespace Formwork

variable {ε ε' α β : Type}

@[simp] theorem ok_bind (a : α) (f : α → Except ε β) : (Except.ok a >>= f) = f a := rfl

@[simp] theorem error_bind (e : ε) (f : α → Except ε β) : (Except.error e >>= f) = .error e := rfl

theorem bind_eq_ok {x : Except ε α} {f : α → Except ε β} {b : β} :
    (x >>= f) = .ok b ↔ ∃ a, x = .ok a ∧ f a = .ok b := by
  cases x <;> simp

theorem bind_eq_error {x : Except ε α} {f : α → Except ε β} {e : ε} :
    (x >>= f) = .error e ↔ x = .error e ∨ ∃ a, x = .ok a ∧ f a = .error e := by
  cases x <;> simp

/-- Two computations that can only fail in one way fail so one after another when one of them does. -/
theorem bind_pure_eq_error_iff {γ : Type} {x : Except ε α} {y : Except ε β} {f : α → β → γ} {e e' : ε} {P Q : Prop}
    (hx : ∀ e', x = .error e' ↔ e' = e ∧ P) (hy : ∀ e', y = .error e' ↔ e' = e ∧ Q) :
    (x >>= fun a => y >>= fun b => pure (f a b)) = .error e' ↔ e' = e ∧ (P ∨ Q) := by
  cases x with
  | error d =>
    obtain ⟨rfl, hP⟩ := (hx d).mp rfl
    rw [error_bind, Except.error.injEq, and_iff_left (Or.inl hP), eq_comm]
  | ok a =>
    have hP : ¬ P := fun hP => by cases (hx e).mpr ⟨rfl, hP⟩
    rw [ok_bind, or_iff_right hP, ← hy]
    cases y with
    | error d => rw [error_bind, Except.error.injEq, Except.error.injEq]
    | ok b => exact iff_of_false (by simp [pure, Except.pure]) (by simp)

/-- A result can be computed as an option, whose equality is decidable. -/
theorem eq_ok_of_toOption {x : Except ε α} {a : α} (h : x.toOption = some a) : x = .ok a := by
  cases x with
  | error e => cases h
  | ok b => rw [Option.some.inj h]

theorem exists_ok_of_any {x : Except ε α} {p : α → Bool} (h : x.toOption.any p = true) :
    ∃ a, x = .ok a ∧ p a = true := by
  cases x with
  | error e => cases h
  | ok a => exact ⟨a, rfl, h⟩

theorem map_eq_ok {x : Except ε α} {f : α → β} {b : β} : x.map f = .ok b ↔ ∃ a, x = .ok a ∧ f a = b := by
  cases x <;> simp [Except.map]

theorem map_eq_error {x : Except ε α} {f : α → β} {e : ε} : x.map f = .error e ↔ x = .error e := by
  cases x <;> simp [Except.map]

theorem exists_ok_iff {x : Except ε α} : (∃ a, x = .ok a) ↔ ¬ ∃ e, x = .error e := by
  cases x <;> simp

theorem exists_map_eq_ok {x : Except ε α} {f : α → β} : (∃ b, x.map f = .ok b) ↔ ∃ a, x = .ok a := by
  cases x <;> simp [Except.map]

theorem mapError_eq_ok {x : Except ε α} {f : ε → ε'} {a : α} : x.mapError f = .ok a ↔ x = .ok a := by
  cases x with
  | error e =>
    constructor <;> intro h <;> cases h
  | ok b =>
    constructor <;> intro h <;> cases h <;> rfl

theorem mapError_eq_error {x : Except ε α} {f : ε → ε'} {e : ε'} :
    x.mapError f = .error e ↔ ∃ e', x = .error e' ∧ f e' = e := by
  constructor
  · intro h
    cases x with
    | error e' => exact ⟨e', rfl, Except.error.inj h⟩
    | ok a => cases h
  · rintro ⟨e', rfl, rfl⟩
    rfl

/-- An outcome, of which `keep` is kept of a result and `why` of an error. -/
def bimap {ε ε' α α' : Type} (keep : α → α') (why : ε → ε') : Except ε α → Except ε' α'
  | .ok a => .ok (keep a)
  | .error e => .error (why e)

/-- Computations that agree in what is kept agree when they go on in ways that do. -/
theorem bimap_bind_congr {α' β' : Type} {keep : α → α'} {keep' : β → β'} {why : ε → ε'} {x y : Except ε α}
    {f g : α → Except ε β} (h : bimap keep why x = bimap keep why y)
    (hnext : ∀ a b, keep a = keep b → bimap keep' why (f a) = bimap keep' why (g b)) :
    bimap keep' why (x >>= f) = bimap keep' why (y >>= g) := by
  cases x with
  | error e =>
    cases y with
    | error e' => exact congrArg Except.error (Except.error.inj h)
    | ok b => cases h
  | ok a =>
    cases y with
    | error e' => cases h
    | ok b => exact hnext a b (Except.ok.inj h)

/-- A list with a bad item behind good ones begins with it, or begins with a good one and has it in the rest. -/
theorem exists_first_cons {Good Bad : α → Prop} {x : α} {xs : List α} :
    (∃ before y after, x :: xs = before ++ y :: after ∧ (∀ z ∈ before, Good z) ∧ Bad y) ↔
      Bad x ∨ Good x ∧ ∃ before y after, xs = before ++ y :: after ∧ (∀ z ∈ before, Good z) ∧ Bad y := by
  simp only [List.cons_eq_append_iff]
  constructor
  · rintro ⟨before, y, after, ⟨rfl, h⟩ | ⟨rest, rfl, hsplit⟩, hgood, hbad⟩
    · cases h
      exact Or.inl hbad
    · obtain ⟨hx, hrest⟩ := List.forall_mem_cons.mp hgood
      exact Or.inr ⟨hx, rest, y, after, hsplit, hrest, hbad⟩
  · rintro (hbad | ⟨hx, before, y, after, hsplit, hgood, hbad⟩)
    · exact ⟨[], x, xs, Or.inl ⟨rfl, rfl⟩, by simp, hbad⟩
    · exact ⟨x :: before, y, after, Or.inr ⟨before, rfl, hsplit⟩, List.forall_mem_cons.mpr ⟨hx, hgood⟩, hbad⟩

/-- A list with a bad item has a first one. -/
theorem exists_first_of_mem (Bad : α → Prop) {x : α} {xs : List α} (hx : x ∈ xs) (hbad : Bad x) :
    ∃ before y after, xs = before ++ y :: after ∧ (∀ z ∈ before, ¬ Bad z) ∧ Bad y := by
  induction xs with
  | nil => cases hx
  | cons z xs ih =>
    rw [exists_first_cons]
    by_cases hz : Bad z
    · exact Or.inl hz
    · refine Or.inr ⟨hz, ih ((List.mem_cons.mp hx).resolve_left ?_)⟩
      rintro rfl
      exact hz hbad

/-- A fold that fails does so at one item, where all before it went well. -/
theorem foldlM_eq_error {f : β → α → Except ε β} {e : ε} {xs : List α} :
    ∀ {b : β}, xs.foldlM f b = .error e →
      ∃ before x after c, xs = before ++ x :: after ∧ before.foldlM f b = .ok c ∧ f c x = .error e := by
  induction xs with
  | nil => intro b h; cases h
  | cons x xs ih =>
    intro b h
    rw [List.foldlM_cons] at h
    rcases bind_eq_error.mp h with h | ⟨b', hx, h⟩
    · exact ⟨[], x, xs, b, rfl, rfl, h⟩
    · obtain ⟨before, y, after, c, rfl, hb, hy⟩ := ih h
      refine ⟨x :: before, y, after, c, rfl, ?_, hy⟩
      rw [List.foldlM_cons, hx, ok_bind, hb]

/-- What holds at the start of a fold and is kept by every step holds at the end; steps that
succeed make a fold that does. -/
theorem foldlM_invariant {f : β → α → Except ε β} (Good : List α → β → Prop) {xs before : List α} {b : β}
    (hstep : ∀ before b x, x ∈ xs → Good before b → ∃ c, f b x = .ok c ∧ Good (before ++ [x]) c)
    (hb : Good before b) : ∃ c, xs.foldlM f b = .ok c ∧ Good (before ++ xs) c := by
  induction xs generalizing before b with
  | nil => exact ⟨b, rfl, by rwa [List.append_nil]⟩
  | cons x xs ih =>
    obtain ⟨c, hc, hgood⟩ := hstep before b x List.mem_cons_self hb
    obtain ⟨d, hd, hend⟩ := ih (fun before b y hy => hstep before b y (List.mem_cons_of_mem _ hy)) hgood
    refine ⟨d, ?_, ?_⟩
    · rw [List.foldlM_cons, hc, ok_bind, hd]
    · rwa [List.append_assoc, List.singleton_append] at hend

/-- Every result of a traversal is the result of an item. -/
theorem exists_of_mem_mapM {f : α → Except ε β} {xs : List α} :
    ∀ {ys : List β}, xs.mapM f = .ok ys → ∀ y ∈ ys, ∃ x ∈ xs, f x = .ok y := by
  induction xs with
  | nil =>
    intro ys h
    cases h
    simp
  | cons x xs ih =>
    intro ys h y hy
    rw [List.mapM_cons] at h
    obtain ⟨z, hz, h⟩ := bind_eq_ok.mp h
    obtain ⟨zs, hzs, h⟩ := bind_eq_ok.mp h
    cases h
    rcases List.mem_cons.mp hy with rfl | hy
    · exact ⟨x, List.mem_cons_self, hz⟩
    · obtain ⟨w, hw, hf⟩ := ih hzs y hy
      exact ⟨w, List.mem_cons_of_mem _ hw, hf⟩

/-- Every item of a traversal has its result among the results. -/
theorem exists_mem_of_mapM {f : α → Except ε β} {xs : List α} :
    ∀ {ys : List β}, xs.mapM f = .ok ys → ∀ x ∈ xs, ∃ y ∈ ys, f x = .ok y := by
  induction xs with
  | nil => simp
  | cons x xs ih =>
    intro ys h w hw
    rw [List.mapM_cons] at h
    obtain ⟨z, hz, h⟩ := bind_eq_ok.mp h
    obtain ⟨zs, hzs, h⟩ := bind_eq_ok.mp h
    cases h
    rcases List.mem_cons.mp hw with rfl | hw
    · exact ⟨z, List.mem_cons_self, hz⟩
    · obtain ⟨y, hy, hf⟩ := ih hzs w hw
      exact ⟨y, List.mem_cons_of_mem _ hy, hf⟩

/-- A traversal succeeds when every item does. -/
theorem exists_mapM_eq_ok {f : α → Except ε β} {xs : List α} :
    (∃ ys, xs.mapM f = .ok ys) ↔ ∀ x ∈ xs, ∃ y, f x = .ok y := by
  constructor
  · rintro ⟨ys, h⟩ x hx
    obtain ⟨y, -, hy⟩ := exists_mem_of_mapM h x hx
    exact ⟨y, hy⟩
  · intro h
    induction xs with
    | nil => exact ⟨[], rfl⟩
    | cons x xs ih =>
      obtain ⟨⟨y, hy⟩, hrest⟩ := List.forall_mem_cons.mp h
      obtain ⟨ys, hys⟩ := ih hrest
      exact ⟨y :: ys, by rw [List.mapM_cons, hy, ok_bind, hys, ok_bind]; rfl⟩

/-- Where the items can only fail in one way, a traversal fails so when one of them does. -/
theorem mapM_eq_error_iff {f : α → Except ε β} {Bad : α → Prop} {e e' : ε} {xs : List α}
    (h : ∀ x ∈ xs, ∀ e', f x = .error e' ↔ e' = e ∧ Bad x) : xs.mapM f = .error e' ↔ e' = e ∧ ∃ x ∈ xs, Bad x := by
  induction xs generalizing e' with
  | nil => exact iff_of_false (by simp [pure, Except.pure]) (by simp)
  | cons x xs ih =>
    obtain ⟨hx, hxs⟩ := List.forall_mem_cons.mp h
    rw [List.mapM_cons, bind_pure_eq_error_iff hx fun e' => ih hxs]
    simp only [List.mem_cons, exists_eq_or_imp]

/-- The results of a traversal are those of its items, one by one. -/
theorem mapM_eq_ok_iff {f : α → Except ε β} {xs : List α} {ys : List β} :
    xs.mapM f = .ok ys ↔ List.Forall₂ (fun x y => f x = .ok y) xs ys := by
  induction xs generalizing ys with
  | nil =>
    rw [List.forall₂_nil_left_iff]
    exact ⟨fun h => (Except.ok.inj h).symm, fun h => by rw [h]; rfl⟩
  | cons x xs ih =>
    rw [List.mapM_cons, bind_eq_ok, List.forall₂_cons_left_iff]
    constructor
    · rintro ⟨y, hy, h⟩
      obtain ⟨zs, hzs, h⟩ := bind_eq_ok.mp h
      exact ⟨y, zs, hy, ih.mp hzs, (Except.ok.inj h).symm⟩
    · rintro ⟨y, zs, hy, hzs, rfl⟩
      exact ⟨y, hy, by rw [ih.mpr hzs]; rfl⟩

end Formwork
