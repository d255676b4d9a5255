/-
  Formwork.Proofs.Formula.Refusal: why tokens have no postfix order.

  A step of the pass refuses the token that it is at, for where the token stands (`Stops`). Tokens that
  all pass are refused when they end too early or leave a parenthesis open, and the open
  parentheses that wait are tokens that have been read (`opening_of_run`).

  - `step_stops` / `run_stops`: a step, and a run, that fails.
  - `toPostfix_refused`: so the tokens themselves hold what an error is about.
-/

import Formwork.Formula.Postfix
import Formwork.Proofs.Bind
import Formwork.Proofs.Formula.Scan
import Mathlib.Data.List.TakeWhile

namespace Formwork.Formula

variable {source : String} {limits : Limits} {t : Token} {next : Option Kind} {tokens : List Token} {e : FormulaError}

namespace Reading

variable {r r' : Reading}

inductive Stops (source : String) (limits : Limits) (r : Reading) (t : Token) : FormulaError → Prop
  | operandTwice : r.wantsOperand = false → t.kind = .number ∨ t.kind = .name ∨ t.kind = .opening →
      Stops source limits r t (.located (.operandTwice t.text) t.position source)
  | operatorFirst : r.wantsOperand = true → t.kind ≠ .plus → t.kind ≠ .minus → t.kind.precedence?.isSome = true →
      Stops source limits r t (.located (.operatorFirst t.text) t.position source)
  | emptyGroup : r.wantsOperand = true → t.kind = .closing →
      Stops source limits r t (.located .emptyGroup t.position source)
  | unopened : (∀ o ∈ r.pending, o.kind ≠ .opening) → t.kind = .closing →
      Stops source limits r t (.located .unopened t.position source)
  | tooDeep : limits.allowed .nesting < (r.depth + 1 : Nat) → t.kind = .opening →
      Stops source limits r t ⟨.exceeds .nesting (limits.allowed .nesting) (r.depth + 1 : Nat), none⟩
  | stray : t.kind = .function ∨ t.kind = .negate →
      Stops source limits r t (.located (.stray t.text) t.position source)

/-! ## One step -/

theorem needOperandPlace_stops (h : r.needOperandPlace source t = .error e)
    (hk : t.kind = .number ∨ t.kind = .name ∨ t.kind = .opening) : r.Stops source limits t e := by
  unfold needOperandPlace at h
  split at h
  · cases h
  · rename_i hwants
    cases h
    exact .operandTwice (by simpa using hwants) hk

theorem close_stops (h : r.close source t = .error e) (hk : t.kind = .closing) : r.Stops source limits t e := by
  unfold close at h
  split at h
  · rename_i hwants
    cases h
    exact .emptyGroup hwants hk
  · simp only at h
    split at h
    · rename_i hdrop
      cases h
      exact .unopened (fun o ho => by simpa [isInner] using List.dropWhile_eq_nil_iff.mp hdrop o ho) hk
    · split at h <;> cases h
    · cases h

theorem step_stops (h : r.step source limits t next = .error e) : r.Stops source limits t e := by
  unfold step at h
  cases hk : t.kind <;> rw [hk] at h
  case number =>
    rcases bind_eq_error.mp h with h | ⟨_, -, h⟩
    · exact needOperandPlace_stops h (by simp [hk])
    · cases h
  case name =>
    rcases bind_eq_error.mp h with h | ⟨_, -, h⟩
    · exact needOperandPlace_stops h (by simp [hk])
    · split at h <;> cases h
  case opening =>
    rcases bind_eq_error.mp h with h | ⟨_, -, h⟩
    · exact needOperandPlace_stops h (by simp [hk])
    · rcases bind_eq_error.mp h with h | ⟨_, -, h⟩
      · obtain ⟨hdeep, rfl⟩ := check_eq_error.mp h
        exact .tooDeep hdeep hk
      · cases h
  case closing => exact close_stops h hk
  case function | negate =>
    cases h
    exact .stray (by simp [hk])
  case plus | minus =>
    simp only at h
    repeat' split at h
    all_goals cases h
    all_goals contradiction
  case star | slash | percent | caret =>
    simp only at h
    split at h
    · rename_i hwants
      cases h
      exact .operatorFirst hwants (by simp [hk]) (by simp [hk]) (by rw [hk]; rfl)
    · cases h

theorem mem_of_mem_dropWhile {p : Token → Bool} {o : Token} (h : o ∈ r.pending.dropWhile p) : o ∈ r.pending :=
  (List.dropWhile_suffix p).subset h

/-- A closing parenthesis lets nothing new wait. -/
theorem close_pending (h : r.close source t = .ok r') : ∀ o ∈ r'.pending, o ∈ r.pending := by
  intro o ho
  apply mem_of_mem_dropWhile (p := isInner)
  unfold close at h
  split at h
  · cases h
  · simp only at h
    split at h
    · cases h
    · rename_i hdrop
      rw [hdrop]
      split at h <;> cases h
      · exact List.mem_cons_of_mem _ (List.mem_cons_of_mem _ ho)
      · exact List.mem_cons_of_mem _ ho
    · cases h
      cases ho

/-- An open parenthesis that waits after a step has waited before, or is the token of the step. -/
theorem opening_of_step (h : r.step source limits t next = .ok r') :
    ∀ o ∈ r'.pending, o.kind = .opening → o = t ∨ o ∈ r.pending := by
  unfold step at h
  cases hk : t.kind <;> rw [hk] at h
  case number =>
    obtain ⟨_, -, h⟩ := bind_eq_ok.mp h
    cases h
    exact fun o ho _ => Or.inr ho
  case name =>
    obtain ⟨_, -, h⟩ := bind_eq_ok.mp h
    split at h <;> cases h
    · -- the name waits as a function
      rintro o (_ | ⟨_, ho⟩) ho'
      · cases ho'
      · exact Or.inr ho
    · exact fun o ho _ => Or.inr ho
  case opening =>
    obtain ⟨_, -, h⟩ := bind_eq_ok.mp h
    obtain ⟨_, -, h⟩ := bind_eq_ok.mp h
    cases h
    exact fun o ho _ => List.mem_cons.mp ho
  case closing => exact fun o ho _ => Or.inr (close_pending h o ho)
  case function | negate => cases h
  case plus | minus | star | slash | percent | caret =>
    -- in front of an operand a minus waits as a negation, elsewhere the operator itself
    simp only at h
    repeat' split at h
    all_goals cases h
    all_goals grind [binary, mem_of_mem_dropWhile]

/-! ## Whole runs -/

theorem run_stops (h : r.run source limits tokens = .error e) : ∃ t ∈ tokens, ∃ r' : Reading, r'.Stops source limits t e := by
  induction tokens generalizing r with
  | nil => cases h
  | cons t rest ih =>
    rcases bind_eq_error.mp h with h | ⟨_, -, h⟩
    · exact ⟨t, List.mem_cons_self, r, step_stops h⟩
    · obtain ⟨u, hu, hstops⟩ := ih h
      exact ⟨u, List.mem_cons_of_mem _ hu, hstops⟩

theorem opening_of_run (h : r.run source limits tokens = .ok r') :
    ∀ o ∈ r'.pending, o.kind = .opening → o ∈ tokens ∨ o ∈ r.pending := by
  induction tokens generalizing r with
  | nil =>
    cases h
    exact fun o ho _ => Or.inr ho
  | cons t rest ih =>
    obtain ⟨r₁, hstep, hrun⟩ := bind_eq_ok.mp h
    intro o ho hk
    rcases ih hrun o ho hk with ho | ho
    · exact Or.inl (List.mem_cons_of_mem _ ho)
    · exact (opening_of_step hstep o ho hk).imp_left fun heq => List.mem_cons.mpr (Or.inl heq)

theorem finish_error (h : r.finish source = .error e) :
    e = .located .endsEarly source.length source ∨
      ∃ o ∈ r.pending, o.kind = .opening ∧ e = .located .unclosed o.position source := by
  unfold finish at h
  split at h
  · cases h
    exact Or.inl rfl
  · split at h
    · rename_i o hfind
      cases h
      exact Or.inr ⟨o, List.mem_of_find?_eq_some hfind, by simpa using List.find?_some hfind, rfl⟩
    · cases h

end Reading

inductive Refused (tokens : List Token) (source : String) (limits : Limits) : FormulaError → Prop
  | empty : tokens = [] → Refused tokens source limits (.located .empty 0 source)
  | stopped {r t e} : t ∈ tokens → Reading.Stops source limits r t e → Refused tokens source limits e
  | endsEarly : Refused tokens source limits (.located .endsEarly source.length source)
  | unclosed {o} : o ∈ tokens → o.kind = .opening → Refused tokens source limits (.located .unclosed o.position source)

theorem toPostfix_refused (h : toPostfix tokens source limits = .error e) : Refused tokens source limits e := by
  unfold toPostfix at h
  split at h
  · rename_i hempty
    cases h
    exact .empty (List.isEmpty_iff.mp hempty)
  · rcases bind_eq_error.mp h with h | ⟨r, hrun, h⟩
    · obtain ⟨t, ht, r, hstops⟩ := Reading.run_stops h
      exact .stopped ht hstops
    · rcases Reading.finish_error h with rfl | ⟨o, ho, hk, rfl⟩
      · exact .endsEarly
      · rcases Reading.opening_of_run hrun o ho hk with ho | ho
        · exact .unclosed ho hk
        · cases ho

/-! ## Families of causes -/

/-- The tokens are no sentence, or one beyond a bound. -/
def Cause.Refuses (c : Cause) : Prop := c.family = .syntactic ∨ c.family = .limit

/-- Refuses tokens of a text, not a token that only postfix order has. -/
def Cause.Misfit (c : Cause) : Prop := c.Refuses ∧ ∀ text, c ≠ .stray text

/-- Tokens are refused for where they stand, or one of them for being of postfix order only. -/
theorem toPostfix_error (h : toPostfix tokens source limits = .error e) :
    e.cause.Misfit ∨ ∃ t ∈ tokens, (t.kind = .function ∨ t.kind = .negate) ∧ e.cause = .stray t.text := by
  cases toPostfix_refused h with
  | empty | endsEarly | unclosed => exact Or.inl ⟨Or.inl rfl, by simp [FormulaError.located]⟩
  | stopped ht hstops =>
    cases hstops with
    | stray hk => exact Or.inr ⟨_, ht, hk, rfl⟩
    | tooDeep => exact Or.inl ⟨Or.inr rfl, by simp⟩
    | operandTwice | operatorFirst | emptyGroup | unopened =>
      exact Or.inl ⟨Or.inl rfl, by simp [FormulaError.located]⟩

theorem toPostfix_refuses (h : toPostfix tokens source limits = .error e) : e.cause.Refuses := by
  rcases toPostfix_error h with h | ⟨t, -, -, h⟩
  · exact h.1
  · rw [h]; exact Or.inl rfl

end Formwork.Formula
