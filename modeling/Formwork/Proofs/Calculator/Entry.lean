/-
  Formwork.Proofs.Calculator.Entry: the numbers that stand for what a visitor enters.

  Entries are looked at twice. The check sees only what is answered and reports it; the numbers are then
  taken from the answers and, where there are none, from the defaults, which nothing has checked. After a
  check that found nothing the two agree on every answer, so the numbers can only fail for a default.
  Inputs may share a name: all of them are given one entry, and the last one's default counts.

  - `checkEntry_eq_nil`: an input finds nothing wrong with no entry unless it is required, and with a number
    within its bounds.
  - `numbers_of_valid_entries`: which numbers there are after a check that found nothing, and the one way in
    which there are none.
-/

import Formwork.Proofs.Calculator.Check

namespace Formwork

namespace Calculator

variable {c : Calculator} {input : Input} {values : Entries Value} {entry : Option Value} {numbers : Entries Float}
  {x : Float}

/-! ## The check -/

def Input.Admits (input : Input) (x : Float) : Prop :=
  (∀ low, input.min = some low → ¬ x < low) ∧ ∀ high, input.max = some high → ¬ high < x

theorem checkBounds_eq_nil : input.checkBounds x = [] ↔ input.Admits x := by
  unfold Input.checkBounds Input.Admits
  rw [List.append_eq_nil_iff]
  cases input.min <;> cases input.max <;> simp [Defect.when_eq_nil]

theorem filter_eq_none : entry.filter Value.isAnswered = none ↔ isAnswered entry = false := by
  cases entry <;> simp [isAnswered]

theorem not_blank_of_answered {v : Value} (h : entry = some v) (hv : v.isAnswered = true) : isAnswered entry ≠ false := by
  rw [h, isAnswered, Option.any_some, hv]
  decide

/-- An input finds nothing wrong with no answer unless it is required, and with a number within its bounds. -/
theorem checkEntry_eq_nil : input.checkEntry entry = .ok [] ↔
    (isAnswered entry = false ∧ input.required = false) ∨
      ∃ v x, entry = some v ∧ v.isAnswered = true ∧ readNumber v = .ok (some x) ∧ input.Admits x := by
  unfold Input.checkEntry
  cases hanswer : entry.filter Value.isAnswered with
  | none =>
    have hblank := filter_eq_none.mp hanswer
    simp only [Except.ok.injEq, Defect.when_eq_nil, hblank, true_and]
    refine (or_iff_left ?_).symm
    rintro ⟨v, -, hentry, hv, -⟩
    exact not_blank_of_answered hentry hv hblank
  | some v =>
    obtain ⟨rfl, hv⟩ := Option.filter_eq_some_iff.mp hanswer
    have hanswered : isAnswered (some v) = true := hv
    simp only [map_eq_ok, hanswered, Bool.true_eq_false, false_and, false_or]
    constructor
    · rintro ⟨_ | x, hread, h⟩
      · cases h
      · exact ⟨v, x, rfl, hv, hread, checkBounds_eq_nil.mp h⟩
    · rintro ⟨w, x, hw, -, hread, hx⟩
      cases hw
      exact ⟨some x, hread, checkBounds_eq_nil.mpr hx⟩

/-- A valid report has nothing from any input. -/
theorem checkEntry_of_isValid {report : Report} (h : c.checkEntries values = .ok report) (hvalid : report.isValid = true)
    (hinput : input ∈ c.inputs) : input.checkEntry (values.get? input.name) = .ok [] := by
  obtain ⟨defects, hdefects, rfl⟩ := map_eq_ok.mp h
  obtain ⟨ds, hds, hcheck⟩ := exists_mem_of_mapM hdefects input hinput
  have hempty : defects.flatten = [] := List.isEmpty_iff.mp hvalid
  rw [hcheck, List.flatten_eq_nil_iff.mp hempty ds hds]

/-! ## The numbers -/

/-- The number that stands for an input without an answer: that of its default, 0 without one. -/
def Input.DefaultsTo (input : Input) (x : Float) : Prop :=
  match input.defaultValue with
  | none => x = 0
  | some d => readNumber (ofDefault d) = .ok (some x)

/-- An input is not answered, and has a default in which there is no number. -/
def Input.Lacks (input : Input) (values : Entries Value) : Prop :=
  isAnswered (values.get? input.name) = false ∧ ∃ d, input.defaultValue = some d ∧ readNumber (ofDefault d) = .ok none

def lastDeclared? (c : Calculator) (name : String) : Option Input := c.inputs.reverse.find? (·.name == name)

theorem exists_lastDeclared {name : String} (h : c.Declares name) :
    ∃ input ∈ c.inputs, c.lastDeclared? name = some input ∧ input.name = name := by
  obtain ⟨input, hinput, hname⟩ := h
  have hsome : (c.lastDeclared? name).isSome = true :=
    List.find?_isSome.mpr ⟨input, List.mem_reverse.mpr hinput, beq_iff_eq.mpr hname⟩
  obtain ⟨last, hlast⟩ := Option.isSome_iff_exists.mp hsome
  have hname := List.find?_some hlast
  exact ⟨last, List.mem_reverse.mp (List.mem_of_find?_eq_some hlast), hlast, eq_of_beq hname⟩

/-- No default is out of the range of floats. -/
theorem readNumber_ofDefault (d : NumberOrText) : ∃ x, readNumber (ofDefault d) = .ok x := by
  cases d <;> exact ⟨_, rfl⟩

theorem number_of_answered {v : Value} (h : entry = some v) (hv : v.isAnswered = true) (hread : readNumber v = .ok (some x)) :
    input.number entry = .ok x := by
  rw [Input.number, Input.entryOrDefault, Option.filter_eq_some_iff.mpr ⟨h, hv⟩]
  simp only [Option.some_or, hread]

theorem entryOrDefault_of_not_answered (h : isAnswered entry = false) :
    input.entryOrDefault entry = input.defaultValue.map ofDefault := by
  rw [Input.entryOrDefault, filter_eq_none.mpr h, Option.none_or]

theorem number_of_not_answered (h : isAnswered entry = false) :
    (∀ x, input.number entry = .ok x ↔ input.DefaultsTo x) ∧
      ∀ e, input.number entry = .error e ↔
        e = .entry input.label ∧ ∃ d, input.defaultValue = some d ∧ readNumber (ofDefault d) = .ok none := by
  unfold Input.number Input.DefaultsTo
  rw [entryOrDefault_of_not_answered h]
  cases input.defaultValue with
  | none => exact ⟨fun x => by simp [eq_comm], fun e => by simp⟩
  | some d =>
    obtain ⟨r, hr⟩ := readNumber_ofDefault d
    cases r <;> simp [hr, eq_comm]

/-- After a check that found nothing, a number is missing exactly where the default has none. -/
theorem number_eq_error_of_checked (h : input.checkEntry (values.get? input.name) = .ok []) {e : Failure} :
    input.number (values.get? input.name) = .error e ↔ input.Lacks values ∧ e = .entry input.label := by
  rcases checkEntry_eq_nil.mp h with ⟨hblank, -⟩ | ⟨v, x, hv, hanswered, hread, -⟩
  · rw [(number_of_not_answered hblank).2, Input.Lacks, and_iff_right hblank, and_comm]
  · rw [number_of_answered hv hanswered hread]
    refine iff_of_false (by simp) ?_
    rintro ⟨⟨hblank, -⟩, -⟩
    exact not_blank_of_answered hv hanswered hblank

/-- The number of a name is that of the last input with it. -/
theorem get?_numbers (h : c.numbers values = .ok numbers) (name : String) :
    (numbers.get? name).map Except.ok = (c.lastDeclared? name).map fun input => input.number (values.get? input.name) := by
  obtain ⟨pairs, hpairs, rfl⟩ := Entries.foldlM_put_eq_ok.mp h
  exact Entries.get?_ofList_of_forall₂ hpairs

theorem get?_numbers_of_lastDeclared (h : c.numbers values = .ok numbers) {name : String}
    (hlast : c.lastDeclared? name = some input) (hname : input.name = name) :
    ∃ x, numbers.get? name = some x ∧ input.number (values.get? name) = .ok x := by
  have hget := get?_numbers h name
  rw [hlast, Option.map_some, hname] at hget
  obtain ⟨x, hx, hnumber⟩ := Option.map_eq_some_iff.mp hget
  exact ⟨x, hx, hnumber.symm⟩

theorem distinct_numbers (h : c.numbers values = .ok numbers) : numbers.Distinct := by
  obtain ⟨pairs, -, rfl⟩ := Entries.foldlM_put_eq_ok.mp h
  exact Entries.distinct_ofList pairs

theorem mem_names_numbers (h : c.numbers values = .ok numbers) {name : String} :
    name ∈ numbers.map (·.1) ↔ c.Declares name := by
  have hsome : (numbers.get? name).isSome = true ↔ _ := Entries.isSome_get?_foldlM_put h
  rw [← not_iff_not, ← Entries.get?_eq_none, ← Option.not_isSome_iff_eq_none, hsome]
  simp [Entries.get?, Declares]

/-- Numbers that stand for the entries of a calculator: one for every declared name and for no other, that of
the answer and within all bounds of the name, or else that of the last default. -/
structure StandFor (c : Calculator) (values : Entries Value) (numbers : Entries Float) : Prop where
  distinct : numbers.Distinct
  declared : ∀ name, name ∈ numbers.map (·.1) ↔ c.Declares name
  answered : ∀ input ∈ c.inputs, ∀ v, values.get? input.name = some v → v.isAnswered = true →
    ∃ x, readNumber v = .ok (some x) ∧ numbers.get? input.name = some x ∧
      ∀ other ∈ c.inputs, other.name = input.name → other.Admits x
  unanswered : ∀ name, c.Declares name → isAnswered (values.get? name) = false →
    ∃ input x, c.lastDeclared? name = some input ∧ numbers.get? name = some x ∧ input.DefaultsTo x

theorem standFor_numbers (hcheck : ∀ input ∈ c.inputs, input.checkEntry (values.get? input.name) = .ok [])
    (h : c.numbers values = .ok numbers) : c.StandFor values numbers where
  distinct := distinct_numbers h
  declared _ := mem_names_numbers h
  answered := by
    intro input hinput v hv hanswered
    -- all inputs of the name see one entry, so they read one number
    have hread : ∀ other ∈ c.inputs, other.name = input.name → ∃ x, readNumber v = .ok (some x) ∧ other.Admits x := by
      intro other hother hname
      have hnothing := hcheck other hother
      rw [hname, hv] at hnothing
      rcases checkEntry_eq_nil.mp hnothing with ⟨hblank, -⟩ | ⟨_, x, hw, -, hread, hx⟩
      · exact absurd hblank (not_blank_of_answered rfl hanswered)
      · cases hw
        exact ⟨x, hread, hx⟩
    obtain ⟨last, hmem, hlast, hname⟩ := exists_lastDeclared ⟨input, hinput, rfl⟩
    obtain ⟨x, hx, -⟩ := hread last hmem hname
    obtain ⟨y, hget, hnumber⟩ := get?_numbers_of_lastDeclared h hlast hname
    rw [number_of_answered hv hanswered hx] at hnumber
    cases hnumber
    refine ⟨x, hx, hget, fun other hother hsame => ?_⟩
    obtain ⟨z, hz, hadmits⟩ := hread other hother hsame
    cases hx.symm.trans hz
    exact hadmits
  unanswered := by
    intro name hname hblank
    obtain ⟨last, -, hlast, rfl⟩ := exists_lastDeclared hname
    obtain ⟨x, hget, hnumber⟩ := get?_numbers_of_lastDeclared h hlast rfl
    exact ⟨last, x, hlast, hget, ((number_of_not_answered hblank).1 x).mp hnumber⟩

/-- After a check that found nothing, the numbers fail exactly at the first input that lacks one. -/
theorem numbers_eq_error_of_checked (hcheck : ∀ input ∈ c.inputs, input.checkEntry (values.get? input.name) = .ok [])
    {e : Failure} : c.numbers values = .error e ↔
      ∃ before input after, c.inputs = before ++ input :: after ∧ (∀ i ∈ before, ¬ i.Lacks values) ∧
        input.Lacks values ∧ e = .entry input.label := by
  unfold numbers
  rw [Entries.foldlM_put_eq_error]
  have hgood : ∀ i ∈ c.inputs, (∃ x, i.number (values.get? i.name) = .ok x) ↔ ¬ i.Lacks values := by
    intro i hi
    rw [exists_ok_iff]
    simp [number_eq_error_of_checked (hcheck i hi)]
  constructor
  · rintro ⟨before, input, after, hsplit, hbefore, hinput⟩
    have hmem : ∀ i ∈ before ++ input :: after, i ∈ c.inputs := fun i hi => hsplit ▸ hi
    obtain ⟨hlacks, he⟩ := (number_eq_error_of_checked (hcheck input (hmem input (by simp)))).mp hinput
    exact ⟨before, input, after, hsplit, fun i hi => (hgood i (hmem i (by simp [hi]))).mp (hbefore i hi), hlacks, he⟩
  · rintro ⟨before, input, after, hsplit, hbefore, hlacks, he⟩
    have hmem : ∀ i ∈ before ++ input :: after, i ∈ c.inputs := fun i hi => hsplit ▸ hi
    exact ⟨before, input, after, hsplit, fun i hi => (hgood i (hmem i (by simp [hi]))).mpr (hbefore i hi),
      (number_eq_error_of_checked (hcheck input (hmem input (by simp)))).mpr ⟨hlacks, he⟩⟩

/-- Once entries are found valid, they have numbers unless an input without an answer has a default without a
number. The numbers stand for the entries, and the failure tells of the first such input. -/
theorem numbers_of_valid_entries (c : Calculator) (values : Entries Value) (report : Report)
    (h : c.checkEntries values = .ok report) (hvalid : report.isValid = true) :
    ((∃ numbers, c.numbers values = .ok numbers) ↔ ∀ input ∈ c.inputs, ¬ input.Lacks values) ∧
    (∀ numbers, c.numbers values = .ok numbers → c.StandFor values numbers) ∧
    ∀ e, c.numbers values = .error e ↔
      ∃ before input after, c.inputs = before ++ input :: after ∧ (∀ i ∈ before, ¬ i.Lacks values) ∧
        input.Lacks values ∧ e = .entry input.label ∧ e.message = s!"{input.label} must be a valid number" := by
  have hcheck : ∀ input ∈ c.inputs, input.checkEntry (values.get? input.name) = .ok [] :=
    fun input hinput => checkEntry_of_isValid h hvalid hinput
  have hfails : ∀ e, c.numbers values = .error e ↔ ∃ before input after, c.inputs = before ++ input :: after ∧
      (∀ i ∈ before, ¬ i.Lacks values) ∧ input.Lacks values ∧ e = .entry input.label :=
    fun e => numbers_eq_error_of_checked hcheck
  refine ⟨?_, fun numbers => standFor_numbers hcheck, fun e => (hfails e).trans ?_⟩
  · rw [exists_ok_iff]
    constructor
    · intro hnone input hinput hlacks
      obtain ⟨before, first, after, hsplit, hbefore, hfirst⟩ :=
        exists_first_of_mem (Input.Lacks · values) hinput hlacks
      exact hnone ⟨_, (hfails _).mpr ⟨before, first, after, hsplit, hbefore, hfirst, rfl⟩⟩
    · rintro hall ⟨e, he⟩
      obtain ⟨before, input, after, hsplit, -, hlacks, -⟩ := (hfails e).mp he
      exact hall input (by simp [hsplit]) hlacks
  · constructor
    · rintro ⟨before, input, after, hsplit, hbefore, hlacks, rfl⟩
      exact ⟨before, input, after, hsplit, hbefore, hlacks, rfl, rfl⟩
    · rintro ⟨before, input, after, hsplit, hbefore, hlacks, rfl, -⟩
      exact ⟨before, input, after, hsplit, hbefore, hlacks, rfl⟩

/-- A parcel whose weight is asked for twice, and whose number of pieces is `pieces` unless it is entered. -/
def parcel (pieces : String) : Calculator where
  id := "p"
  title := "Parcel"
  websiteId := "w"
  inputs :=
    [{ id := "a", name := "weight", label := "Weight", min := some 0, required := true },
     { id := "b", name := "pieces", label := "Pieces", defaultValue := some (.text pieces) },
     { id := "c", name := "weight", label := "Load", max := some 30, defaultValue := some (.number 5) }]

def weighed : Entries Value := [("weight", .text "12.5kg")]

/-- The weight is what is entered, and the pieces are the number in the default if it has one. -/
theorem numbers_of_parcel :
    ((parcel "3 pcs").checkEntries weighed = .ok ⟨[], []⟩ ∧
      ∃ numbers, (parcel "3 pcs").numbers weighed = .ok numbers ∧ (parcel "3 pcs").StandFor weighed numbers) ∧
    (parcel "many").checkEntries weighed = .ok ⟨[], []⟩ ∧
      ∃ e, (parcel "many").numbers weighed = .error e ∧ e.message = "Pieces must be a valid number" := by
  have hthree : (parcel "3 pcs").checkEntries weighed = .ok ⟨[], []⟩ := eq_ok_of_toOption (by decide +kernel)
  have hmany : (parcel "many").checkEntries weighed = .ok ⟨[], []⟩ := eq_ok_of_toOption (by decide +kernel)
  have hentered : isAnswered (weighed.get? "weight") = true := by decide
  refine ⟨⟨hthree, ?_⟩, hmany, ?_⟩
  · obtain ⟨htotal, hstand, -⟩ := numbers_of_valid_entries (parcel "3 pcs") weighed _ hthree rfl
    have hnumber : (readNumber (ofDefault (.text "3 pcs"))).toOption ≠ some none := by decide +kernel
    have hlacks : ∀ input ∈ (parcel "3 pcs").inputs, ¬ input.Lacks weighed := by
      intro input hinput ⟨hblank, d, hd, hnone⟩
      simp only [parcel, List.mem_cons, List.not_mem_nil, or_false] at hinput
      rcases hinput with rfl | rfl | rfl
      · exact absurd hentered (Bool.eq_false_iff.mp hblank)
      · cases hd
        exact hnumber (congrArg Except.toOption hnone)
      · exact absurd hentered (Bool.eq_false_iff.mp hblank)
    obtain ⟨numbers, hnumbers⟩ := htotal.mpr hlacks
    exact ⟨numbers, hnumbers, hstand numbers hnumbers⟩
  · obtain ⟨-, -, hfails⟩ := numbers_of_valid_entries (parcel "many") weighed _ hmany rfl
    have hnone : readNumber (ofDefault (.text "many")) = .ok none := eq_ok_of_toOption (by decide +kernel)
    refine ⟨.entry "Pieces", (hfails _).mpr ⟨_, _, _, List.singleton_append.symm, ?_, ?_, rfl, rfl⟩, rfl⟩
    · rintro input hinput ⟨hblank, -⟩
      cases List.mem_singleton.mp hinput
      exact absurd hentered (Bool.eq_false_iff.mp hblank)
    · exact ⟨by decide, _, rfl, hnone⟩

end Calculator

end Formwork
