/-
  Formwork.Proofs.Formula.Reading: the pass over the tokens reads every phrase through.

  The pass writes operands at once and lets operators wait, so after a phrase some of its
  operators may still wait. They bind at least as strongly as `Phrase.floor` of the phrase,
  and what waits below them binds less than `Phrase.ceiling`: the next operator moves exactly
  the ones that belong to its left operand. `step_operator` says so of one operator; the other
  `step_` lemmas say what each kind of token does where it may stand.

  - `run_phrase`: from any place where an operand is wanted, the pass reads a phrase through
    and has then written the postorder of its tree, but for the operators that wait.
-/

import Formwork.Proofs.Formula.Grammar

namespace Formwork.Formula

/-! ## What waits -/

/-- How weakly the operators that still wait after a phrase bind at most. -/
def Phrase.floor : Phrase → Nat
  | .sum => 1
  | .product => 2
  | .unary | .power => 3
  | .primary => 5

/-- What waits below a phrase binds less strongly than this. -/
def Phrase.ceiling : Phrase → Nat
  | .sum => 1
  | .product => 2
  | .unary | .power | .primary => 5

def BindFrom (n : Nat) (ops : List Token) : Prop := ∀ o ∈ ops, ∃ p, o.kind.precedence? = some p ∧ n ≤ p

/-- The latest token that waits is no function, and binds less strongly than `n` if it binds at all. -/
def Below (n : Nat) (pending : List Token) : Prop :=
  ∀ o ∈ pending.head?, o.kind ≠ .function ∧ ∀ p, o.kind.precedence? = some p → p < n

theorem Phrase.ceiling_le (g : Phrase) : g.ceiling ≤ 5 := by cases g <;> decide

theorem Kind.precedence?_lt {k : Kind} {p : Nat} (h : k.precedence? = some p) : p < 5 := by
  cases k <;> simp_all [Kind.precedence?] <;> omega

theorem BindFrom.mono {m n : Nat} {ops : List Token} (h : BindFrom n ops) (hmn : m ≤ n) : BindFrom m ops := by
  intro o ho
  obtain ⟨p, hp, hn⟩ := h o ho
  exact ⟨p, hp, by omega⟩

@[simp] theorem bindFrom_nil (n : Nat) : BindFrom n [] := fun _ h => nomatch h

theorem bindFrom_append {n : Nat} {ops ops' : List Token} :
    BindFrom n (ops ++ ops') ↔ BindFrom n ops ∧ BindFrom n ops' := List.forall_mem_append

theorem bindFrom_singleton {n p : Nat} {o : Token} (h : o.kind.precedence? = some p) (hn : n ≤ p) : BindFrom n [o] := by
  intro x hx
  rw [List.mem_singleton.mp hx]
  exact ⟨p, h, hn⟩

theorem BindFrom.not_opening {n : Nat} {ops : List Token} (h : BindFrom n ops) : ∀ o ∈ ops, o.kind ≠ .opening := by
  intro o ho he
  obtain ⟨p, hp, -⟩ := h o ho
  rw [he] at hp
  cases hp

theorem BindFrom.find?_opening {n : Nat} {ops : List Token} (h : BindFrom n ops) :
    ops.find? (fun t => t.kind == .opening) = none :=
  List.find?_eq_none.mpr fun x hx => by simpa using h.not_opening x hx

theorem Below.mono {m n : Nat} {pending : List Token} (h : Below m pending) (hmn : m ≤ n) : Below n pending :=
  fun o ho => ⟨(h o ho).1, fun p hp => Nat.lt_of_lt_of_le ((h o ho).2 p hp) hmn⟩

theorem below_nil (n : Nat) : Below n [] := fun _ h => nomatch h

theorem below_opening {n : Nat} {o : Token} {pending : List Token} (h : o.kind = .opening) :
    Below n (o :: pending) := by
  rintro x ⟨⟩
  rw [h]
  exact ⟨by decide, fun _ hp => nomatch hp⟩

theorem below_cons {n p : Nat} {o : Token} {pending : List Token} (h : o.kind.precedence? = some p) (hn : p < n) :
    Below n (o :: pending) := by
  rintro x ⟨⟩
  refine ⟨fun he => ?_, fun q hq => ?_⟩
  · rw [he] at h; cases h
  · rw [h] at hq; cases hq; exact hn

/-! ## One step -/

namespace Operator

theorem precedence?_isSome {op : Operator} {o : Token} (h : o.kind = op.kind) :
    ∃ p, o.kind.precedence? = some p ∧ op.phrase.floor ≤ p ∧ p < op.right.ceiling := by
  rw [h]
  cases op <;> exact ⟨_, rfl, by decide, by decide⟩

/-- An operator moves what binds at least as strongly as its left phrase allows. -/
theorem yieldsTo_of_floor {op : Operator} {o x : Token} {p : Nat} (h : o.kind = op.kind)
    (hx : x.kind.precedence? = some p) (hp : op.left.floor ≤ p) : Reading.yieldsTo o x = true := by
  have := Kind.precedence?_lt hx
  unfold Reading.yieldsTo
  rw [hx, h]
  cases op <;> simp_all [kind, left, Kind.precedence?, Phrase.floor] <;> omega

theorem not_yieldsTo_of_ceiling {op : Operator} {o x : Token} (h : o.kind = op.kind)
    (hx : ∀ p, x.kind.precedence? = some p → p < op.left.ceiling) : Reading.yieldsTo o x = false := by
  unfold Reading.yieldsTo
  cases hp : x.kind.precedence? with
  | none => rfl
  | some p =>
    have := hx p hp
    rw [h]
    cases op <;> simp_all [kind, left, Kind.precedence?, Phrase.ceiling] <;> omega

end Operator

namespace Reading

variable {source : String} {limits : Limits}

theorem takeWhile_dropWhile_append {p : Token → Bool} {ops below : List Token} (h : ∀ o ∈ ops, p o = true)
    (hb : ∀ o ∈ below.head?, p o = false) :
    (ops ++ below).takeWhile p = ops ∧ (ops ++ below).dropWhile p = below := by
  rw [List.takeWhile_append_of_pos h, List.dropWhile_append_of_pos h]
  cases below with
  | nil => simp
  | cons o below => simp [hb o rfl]

/-- A binary operator after its left operand: the operators of the operand are written. -/
theorem step_operator {op : Operator} {o : Token} {out ops below : List Token} {d : Nat} {next : Option Kind}
    (ho : o.kind = op.kind) (hops : BindFrom op.left.floor ops) (hb : Below op.left.ceiling below) :
    step source limits ⟨out, ops ++ below, d, false⟩ o next = .ok ⟨out ++ ops, o :: below, d, true⟩ := by
  have hy : ∀ x ∈ ops, yieldsTo o x = true := by
    intro x hx
    obtain ⟨p, hp, hn⟩ := hops x hx
    exact Operator.yieldsTo_of_floor ho hp hn
  have hn : ∀ x ∈ below.head?, yieldsTo o x = false :=
    fun x hx => Operator.not_yieldsTo_of_ceiling ho (hb x hx).2
  obtain ⟨ht, hd⟩ := takeWhile_dropWhile_append hy hn
  have hbin : binary ⟨out, ops ++ below, d, false⟩ o = ⟨out ++ ops, o :: below, d, true⟩ := by
    simp only [binary, ht, hd]
  rw [← hbin]
  unfold step
  rw [ho]
  cases op <;> rfl

/-- What a closing parenthesis finds: the operators of its group. -/
theorem takeWhile_isInner {ops : List Token} {o : Token} (hops : BindFrom 1 ops) (ho : o.kind = .opening)
    (below : List Token) :
    (ops ++ o :: below).takeWhile isInner = ops ∧ (ops ++ o :: below).dropWhile isInner = o :: below := by
  refine takeWhile_dropWhile_append (fun x hx => ?_) (fun x hx => ?_)
  · simpa [isInner] using hops.not_opening x hx
  · cases hx; simp [isInner, ho]

theorem step_close_group {out ops below : List Token} {o c : Token} {d : Nat} {next : Option Kind}
    (hc : c.kind = .closing) (hops : BindFrom 1 ops) (ho : o.kind = .opening) (hb : Below 5 below) :
    step source limits ⟨out, ops ++ o :: below, d + 1, false⟩ c next = .ok ⟨out ++ ops, below, d, false⟩ := by
  obtain ⟨ht, hd⟩ := takeWhile_isInner hops ho below
  unfold step
  rw [hc]
  simp only [close, ht, hd, Bool.false_eq_true, if_false]
  cases below with
  | nil => rfl
  | cons f below => simp [(hb f rfl).1]

theorem step_close_call {out ops below : List Token} {f o c : Token} {d : Nat} {next : Option Kind}
    (hc : c.kind = .closing) (hops : BindFrom 1 ops) (ho : o.kind = .opening) (hf : f.kind = .function) :
    step source limits ⟨out, ops ++ o :: f :: below, d + 1, false⟩ c next =
      .ok ⟨out ++ ops ++ [f], below, d, false⟩ := by
  obtain ⟨ht, hd⟩ := takeWhile_isInner hops ho (f :: below)
  unfold step
  rw [hc]
  simp [close, ht, hd, hf]

theorem step_close_unopened {out ops : List Token} {c : Token} {d : Nat} {next : Option Kind} (hc : c.kind = .closing)
    (hops : BindFrom 1 ops) :
    step source limits ⟨out, ops, d, false⟩ c next = .error (.located .unopened c.position source) := by
  have hinner : ∀ x ∈ ops, isInner x = true := fun x hx => by simpa [isInner] using hops.not_opening x hx
  have hd : (ops ++ []).dropWhile isInner = [] := (takeWhile_dropWhile_append hinner (by simp)).2
  rw [List.append_nil] at hd
  unfold step
  rw [hc]
  simp only [close, hd, Bool.false_eq_true, if_false]

theorem step_opening {out pending : List Token} {o : Token} {d : Nat} {next : Option Kind} (ho : o.kind = .opening)
    (hd : (d : Int) + 1 ≤ limits.nesting) :
    step source limits ⟨out, pending, d, true⟩ o next = .ok ⟨out, o :: pending, d + 1, true⟩ := by
  have : ¬ limits.nesting < ((d + 1 : Nat) : Int) := by omega
  unfold step
  rw [ho]
  simp only [needOperandPlace, Limits.check, Limits.allowed, this, if_true, if_false]
  rfl

theorem step_number {out pending : List Token} {o : Token} {d : Nat} {next : Option Kind} (ho : o.kind = .number) :
    step source limits ⟨out, pending, d, true⟩ o next = .ok ⟨out ++ [o], pending, d, false⟩ := by
  unfold step
  rw [ho]
  rfl

theorem step_name {out pending : List Token} {o : Token} {d : Nat} {next : Option Kind} (ho : o.kind = .name)
    (hn : next ≠ some .opening) :
    step source limits ⟨out, pending, d, true⟩ o next = .ok ⟨out ++ [o], pending, d, false⟩ := by
  unfold step
  rw [ho]
  simp only [needOperandPlace, beq_iff_eq, hn, if_true, if_false]
  rfl

theorem step_function {out pending : List Token} {o : Token} {d : Nat} {next : Option Kind} (ho : o.kind = .name)
    (hn : next = some .opening) :
    step source limits ⟨out, pending, d, true⟩ o next = .ok ⟨out, o.word.as .function :: pending, d, true⟩ := by
  unfold step
  rw [ho, hn]
  rfl

theorem step_minus {out pending : List Token} {o : Token} {d : Nat} {next : Option Kind} (ho : o.kind = .minus) :
    step source limits ⟨out, pending, d, true⟩ o next = .ok ⟨out, ⟨.negate, "-", o.position⟩ :: pending, d, true⟩ := by
  unfold step
  rw [ho]
  rfl

theorem step_plus {out pending : List Token} {o : Token} {d : Nat} {next : Option Kind} (ho : o.kind = .plus) :
    step source limits ⟨out, pending, d, true⟩ o next = .ok ⟨out, pending, d, true⟩ := by
  unfold step
  rw [ho]
  rfl

theorem run_cons {r r' : Reading} {t : Token} {rest : List Token}
    (h : r.step source limits t (rest.head?.map Token.kind) = .ok r') :
    r.run source limits (t :: rest) = r'.run source limits rest := by
  simp only [run, h]
  rfl

/-! ## Phrases are read through -/

/-- From a place where an operand is wanted, a phrase is read through. What has been written
then is the postorder of its tree, but for operators that still wait. -/
theorem run_phrase {g : Phrase} {ts : List Token} {t : Tree} (h : Derives g ts t) :
    ∀ (out pending rest : List Token) (d : Nat), Below g.ceiling pending → Within limits.nesting d ts →
      rest.head?.map Token.kind ≠ some .opening →
      ∃ written ops, BindFrom g.floor ops ∧ written ++ ops = t.postorder ∧
        run source limits ⟨out, pending, d, true⟩ (ts ++ rest) =
          run source limits ⟨out ++ written, ops ++ pending, d, false⟩ rest := by
  induction h with
  | ofProduct _ ih | ofUnary _ ih | ofPower _ ih | ofPrimary _ ih =>
    intro out pending rest d hb hd hr
    obtain ⟨written, ops, hops, hw, hrun⟩ := ih out pending rest d (hb.mono (by decide)) hd hr
    exact ⟨written, ops, hops.mono (by decide), hw, hrun⟩
  | @binary g ls rs l r o op hg hl ho hr' ihl ihr =>
    intro out pending rest d hb hd hr
    subst hg
    obtain ⟨p, hp, hfloor, hceil⟩ := Operator.precedence?_isSome ho
    obtain ⟨hdl, -, hdr⟩ := within_append.mp hd
    rw [hl.rise_eq_zero, Operator.rise_of_kind ho, Int.add_zero, Int.add_zero] at hdr
    have hkind : (o :: (rs ++ rest)).head?.map Token.kind ≠ some .opening := by
      simp only [List.head?_cons, Option.map_some, ho]
      cases op <;> decide
    have hb' : Below op.left.ceiling pending := hb.mono (by cases op <;> decide)
    obtain ⟨written, ops, hops, hw, hrun⟩ := ihl out pending _ d hb' hdl hkind
    obtain ⟨written', ops', hops', hw', hrun'⟩ :=
      ihr (out ++ written ++ ops) (o :: pending) rest d (below_cons hp hceil) hdr hr
    refine ⟨written ++ ops ++ written', ops' ++ [o], ?_, ?_, ?_⟩
    · refine bindFrom_append.mpr ⟨hops'.mono (by cases op <;> decide), bindFrom_singleton hp hfloor⟩
    · rw [Tree.postorder, ← hw, ← hw', Token.word_as ho]
      simp only [List.append_assoc]
    · rw [List.append_assoc, List.cons_append, hrun, run_cons (step_operator ho hops hb'), hrun']
      simp only [List.append_assoc, List.cons_append, List.nil_append]
  | @negative ts t o ho _ ih =>
    intro out pending rest d hb hd hr
    obtain ⟨-, hd⟩ := hd
    rw [show o.rise = 0 by simp [Token.rise, ho], Int.add_zero] at hd
    obtain ⟨written, ops, hops, hw, hrun⟩ :=
      ih out (⟨.negate, "-", o.position⟩ :: pending) rest d (below_cons rfl (by decide)) hd hr
    refine ⟨written, ops ++ [⟨.negate, "-", o.position⟩], ?_, ?_, ?_⟩
    · exact bindFrom_append.mpr ⟨hops, bindFrom_singleton rfl (by decide)⟩
    · rw [← List.append_assoc, hw]; rfl
    · rw [List.cons_append, run_cons (step_minus ho), hrun, List.append_assoc]; rfl
  | @positive ts t o ho _ ih =>
    intro out pending rest d hb hd hr
    obtain ⟨-, hd⟩ := hd
    rw [show o.rise = 0 by simp [Token.rise, ho], Int.add_zero] at hd
    obtain ⟨written, ops, hops, hw, hrun⟩ := ih out pending rest d hb hd hr
    exact ⟨written, ops, hops, hw, by rw [List.cons_append, run_cons (step_plus ho), hrun]⟩
  | number ho =>
    intro out pending rest d _ _ _
    exact ⟨[_], [], bindFrom_nil _, by rw [Tree.postorder, Token.word_as ho]; rfl, run_cons (step_number ho)⟩
  | name ho =>
    intro out pending rest d _ _ hr
    exact ⟨[_], [], bindFrom_nil _, by rw [Tree.postorder, Token.word_as ho]; rfl, run_cons (step_name ho hr)⟩
  | @call ts t f o c hf ho hs hc ih =>
    intro out pending rest d _ hd _
    obtain ⟨-, hdo, hd⟩ := hd
    obtain ⟨hd, -⟩ := within_append.mp hd
    rw [show f.rise = 0 by simp [Token.rise, hf], Int.add_zero] at hdo hd
    rw [show o.rise = 1 by simp [Token.rise, ho]] at hd
    obtain ⟨written, ops, hops, hw, hrun⟩ := ih out (o :: f.word.as .function :: pending) (c :: rest) (d + 1)
      (below_opening ho) hd (by simp [hc])
    refine ⟨written ++ ops ++ [f.word.as .function], [], bindFrom_nil _, ?_, ?_⟩
    · rw [List.append_nil, hw]; rfl
    · simp only [List.cons_append, List.append_assoc, List.nil_append]
      rw [run_cons (step_function hf (by simp [ho])), run_cons (step_opening ho (hdo ho)), hrun,
        run_cons (step_close_call hc hops ho rfl), List.append_assoc, List.append_assoc]
  | @group ts t o c ho hs hc ih =>
    intro out pending rest d hb hd _
    obtain ⟨hdo, hd⟩ := hd
    obtain ⟨hd, -⟩ := within_append.mp hd
    rw [show o.rise = 1 by simp [Token.rise, ho]] at hd
    obtain ⟨written, ops, hops, hw, hrun⟩ := ih out (o :: pending) (c :: rest) (d + 1)
      (below_opening ho) hd (by simp [hc])
    refine ⟨written ++ ops, [], bindFrom_nil _, ?_, ?_⟩
    · rw [List.append_nil, hw]
    · simp only [List.cons_append, List.append_assoc, List.nil_append]
      rw [run_cons (step_opening ho (hdo ho)), hrun, run_cons (step_close_group hc hops ho hb), List.append_assoc]

end Reading

end Formwork.Formula
