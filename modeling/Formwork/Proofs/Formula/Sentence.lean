/-
  Formwork.Proofs.Formula.Sentence: exactly the sentences of the grammar have a postfix order,
  and it is the postorder of their tree.

  `run_phrase` reads every sentence through. For the other direction, `Context` gives the
  waiting tokens their meaning: each open parenthesis a group or a call that has begun, each
  operator a phrase on its left that is complete, each sign an operand that is to come.
  `Ends` adds the phrase that has just been read; `Ends.product` and `Ends.sum` complete the
  phrases around it whose operators still wait. `Holds` is the invariant of the pass.

  - `step_holds` / `run_holds`: a token, and a run, keep the invariant and the depth bound.
  - `toPostfix_sound` / `toPostfix_complete`: the two directions.
  - `Derives.unique`: a sentence has one tree.
  - `toPostfix_eq_ok_iff_sentence`: both directions, and the families of the errors.
-/

import Formwork.Proofs.Bind
import Formwork.Proofs.Formula.Reading
import Formwork.Proofs.Formula.Refusal

namespace Formwork.Formula

/-! ## What the waiting tokens mean -/

/-- After `read` a phrase `g` has to follow; what is written and what waits is all on its left. -/
inductive Context : Phrase → (read written pending : List Token) → (depth : Nat) → Prop
  | start : Context .sum [] [] [] 0
  | group {g read written pending d o} : Context g read written pending d → o.kind = .opening →
      Context .sum (read ++ [o]) written (o :: pending) (d + 1)
  | call {g read written pending d f o} : Context g read written pending d → f.kind = .name → o.kind = .opening →
      Context .sum (read ++ [f, o]) written (o :: f.word.as .function :: pending) (d + 1)
  | operand {g read written pending d ls l o} (op : Operator) : Context g read written pending d →
      g.ceiling ≤ op.left.ceiling → Derives op.left ls l → o.kind = op.kind →
      Context op.right (read ++ (ls ++ [o])) (written ++ l.postorder) (o :: pending) d
  | negative {g read written pending d o} : Context g read written pending d → o.kind = .minus →
      Context .unary (read ++ [o]) written (⟨.negate, "-", o.position⟩ :: pending) d
  | positive {g read written pending d o} : Context g read written pending d → o.kind = .plus →
      Context .unary (read ++ [o]) written pending d

/-- What has been read ends with a phrase `g`, of which the operators `ops` still wait. -/
inductive Ends (g : Phrase) (read written pending : List Token) (d : Nat) : Prop
  | intro {outer base out below ops ts t} : Context outer base out below d → outer.ceiling ≤ g.ceiling →
      Derives g ts t → read = base ++ ts → pending = ops ++ below → written ++ ops = out ++ t.postorder →
      BindFrom g.floor ops → Ends g read written pending d

/-- The invariant of the pass; `next` is the kind of the token to come. -/
inductive Holds : (read : List Token) → (next : Option Kind) → Reading → Prop
  | wants {g read written pending d next} : Context g read written pending d →
      Holds read next ⟨written, pending, d, true⟩
  | called {g read written pending d f} : Context g read written pending d → f.kind = .name →
      Holds (read ++ [f]) (some .opening) ⟨written, f.word.as .function :: pending, d, true⟩
  | ended {read written pending d next} : Ends .primary read written pending d →
      Holds read next ⟨written, pending, d, false⟩

/-- An operator between its two phrases: the phrase that it makes, with the operator still waiting. -/
theorem Operator.join {op : Operator} {n : Nat} {ls ts out ops before : List Token} {l t : Tree} {o : Token}
    (hl : Derives op.left ls l) (ho : o.kind = op.kind) (ht : Derives op.right ts t) (hops : BindFrom n ops)
    (hn : n ≤ op.phrase.floor) (hw : out ++ ops = before ++ l.postorder ++ t.postorder) :
    Derives op.phrase (ls ++ o :: ts) (.binary op o.word l t) ∧ BindFrom n (ops ++ [o]) ∧
      out ++ (ops ++ [o]) = before ++ (Tree.binary op o.word l t).postorder := by
  obtain ⟨p, hp, hfloor, -⟩ := precedence?_isSome ho
  refine ⟨.binary op rfl hl ho ht, ?_, ?_⟩
  · exact bindFrom_append.mpr ⟨hops, bindFrom_singleton hp (by omega)⟩
  · rw [← List.append_assoc, hw, Tree.postorder, Token.word_as ho]
    simp only [List.append_assoc]

namespace Context

variable {g : Phrase} {read written pending : List Token} {d : Nat}

/-- What waits binds less than the operators of the phrase to come. -/
theorem waits_below (h : Context g read written pending d) : Below g.ceiling pending := by
  induction h with
  | start => exact below_nil _
  | group _ ho => exact below_opening ho
  | call _ _ ho => exact below_opening ho
  | operand op _ _ _ ho =>
    obtain ⟨p, hp, -, hlt⟩ := Operator.precedence?_isSome ho
    exact below_cons hp hlt
  | negative => exact below_cons rfl (by decide)
  | @positive g _ _ _ _ _ _ _ ih => exact ih.mono g.ceiling_le

theorem rise_eq (h : Context g read written pending d) : rise read = d := by
  induction h with
  | start => rfl
  | group _ ho ih => simp [ih, Token.rise, ho]
  | call _ hf ho ih => simp [ih, Token.rise, hf, ho]
  | operand op _ _ hl ho ih => simp [ih, hl.rise_eq_zero, Operator.rise_of_kind ho]
  | negative _ ho ih => simp [ih, Token.rise, ho]
  | positive _ ho ih => simp [ih, Token.rise, ho]

/-- An operand completes the signs, powers and products that wait for it. -/
theorem ends_product (h : Context g read written pending d) :
    ∀ (ts ops out : List Token) (t : Tree), Derives .unary ts t → BindFrom 2 ops →
      out ++ ops = written ++ t.postorder → Ends .product (read ++ ts) out (ops ++ pending) d := by
  induction h with
  | start =>
    intro ts ops out t ht hops hw
    exact .intro .start (by decide) (.ofUnary ht) rfl rfl hw hops
  | group hc ho =>
    intro ts ops out t ht hops hw
    exact .intro (.group hc ho) (by decide) (.ofUnary ht) rfl rfl hw hops
  | call hc hf ho =>
    intro ts ops out t ht hops hw
    exact .intro (.call hc hf ho) (by decide) (.ofUnary ht) rfl rfl hw hops
  | @operand g base before below d ls l o op hc hfit hl ho ih =>
    intro ts ops out t ht hops hw
    rcases op.phrase_cases with ⟨-, -, hr⟩ | ⟨hp, hleft, hr⟩ | ⟨hp, -, hr⟩
    · exact .intro (.operand op hc hfit hl ho) (Nat.le_of_eq (by rw [hr])) (.ofUnary ht) rfl rfl hw hops
    · obtain ⟨hd, hops', hw'⟩ := Operator.join hl ho (hr ▸ ht) hops (by rw [hp]; decide) hw
      rw [hp] at hd
      rw [hleft] at hfit
      exact .intro hc hfit hd (by simp) (by simp) hw' hops'
    · obtain ⟨hd, hops', hw'⟩ := Operator.join hl ho (hr ▸ ht) hops (by rw [hp]; decide) hw
      rw [hp] at hd
      simpa using ih _ _ out _ (.ofPower hd) hops' hw'
  | @negative g base before below d o hc ho ih =>
    intro ts ops out t ht hops hw
    have hops' : BindFrom 2 (ops ++ [⟨.negate, "-", o.position⟩]) :=
      bindFrom_append.mpr ⟨hops, bindFrom_singleton rfl (by decide)⟩
    have := ih (o :: ts) _ out _ (.negative ho ht) hops' (by rw [← List.append_assoc, hw, List.append_assoc]; rfl)
    simpa using this
  | @positive g base before below d o hc ho ih =>
    intro ts ops out t ht hops hw
    have := ih (o :: ts) ops out t (.positive ho ht) hops hw
    simpa using this

end Context

namespace Ends

variable {read written pending : List Token} {d : Nat}

/-- A primary completes the product that it stands in. -/
theorem product (h : Ends .primary read written pending d) : Ends .product read written pending d := by
  obtain @⟨_, base, out, below, ops, ts, t, hc, -, ht, rfl, rfl, hw, hops⟩ := h
  exact hc.ends_product ts ops written t (.ofPower (.ofPrimary ht)) (hops.mono (by decide)) hw

/-- A product completes the sum that it stands in. -/
theorem sum (h : Ends .product read written pending d) : Ends .sum read written pending d := by
  obtain @⟨outer, base, out, below, ops, ts, t, hc, hfit, ht, rfl, rfl, hw, hops⟩ := h
  have hops : BindFrom 1 ops := hops.mono (by decide)
  cases hc with
  | start => exact .intro .start (by decide) (.ofProduct ht) rfl rfl hw hops
  | group hc ho => exact .intro (.group hc ho) (by decide) (.ofProduct ht) rfl rfl hw hops
  | call hc hf ho => exact .intro (.call hc hf ho) (by decide) (.ofProduct ht) rfl rfl hw hops
  | @operand g base before below _ ls l o op hc hfit' hl ho =>
    rcases op.phrase_cases with ⟨hp, hleft, hr⟩ | ⟨-, -, hr⟩ | ⟨-, -, hr⟩
    · obtain ⟨hd, hops', hw'⟩ := Operator.join hl ho (hr ▸ ht) hops (by rw [hp]; decide) hw
      rw [hp] at hd
      rw [hleft] at hfit'
      exact .intro hc hfit' hd (by simp) (by simp) hw' hops'
    · rw [hr] at hfit; exact absurd hfit (by decide)
    · rw [hr] at hfit; exact absurd hfit (by decide)
  | negative => exact absurd hfit (by decide)
  | positive => exact absurd hfit (by decide)

/-- An operand completes what an operator may have on its left. -/
theorem left (h : Ends .primary read written pending d) (op : Operator) : Ends op.left read written pending d := by
  rcases op.phrase_cases with ⟨-, hl, -⟩ | ⟨-, hl, -⟩ | ⟨-, hl, -⟩
  · rw [hl]; exact h.product.sum
  · rw [hl]; exact h.product
  · rw [hl]; exact h

/-- A number, a name or a closed group where an operand was wanted. -/
theorem of_primary {g : Phrase} {base out : List Token} {ts : List Token} {t : Tree}
    (hc : Context g base out pending d) (ht : Derives .primary ts t) :
    Ends .primary (base ++ ts) (out ++ t.postorder) pending d :=
  .intro hc g.ceiling_le ht rfl rfl (List.append_nil _) (bindFrom_nil _)

end Ends

/-! ## One token -/

theorem within_snoc {limit : Int} {read : List Token} {t : Token} :
    Within limit 0 (read ++ [t]) ↔ Within limit 0 read ∧ (t.kind = .opening → rise read + 1 ≤ limit) := by
  simp [within_append, Within]

section

variable {source : String} {limits : Limits} {read written pending : List Token} {d : Nat}
  {t : Token} {next : Option Kind} {r' : Reading}

open Reading

theorem depth_of_step_opening (ho : t.kind = .opening)
    (hs : step source limits ⟨written, pending, d, true⟩ t next = .ok r') : (d : Int) + 1 ≤ limits.nesting := by
  unfold step at hs
  rw [ho] at hs
  by_cases hd : limits.nesting < ((d + 1 : Nat) : Int)
  · simp only [needOperandPlace, Limits.check, Limits.allowed, hd, if_true] at hs
    cases hs
  · omega

/-- A token where an operand is wanted. -/
theorem holds_of_wants {g : Phrase} (hc : Context g read written pending d)
    (hs : step source limits ⟨written, pending, d, true⟩ t next = .ok r') : Holds (read ++ [t]) next r' := by
  cases hk : t.kind with
  | number =>
    rw [step_number hk] at hs
    cases hs
    have := Ends.of_primary hc (.number hk)
    rw [Tree.postorder, Token.word_as hk] at this
    exact .ended this
  | name =>
    by_cases hn : next = some .opening
    · rw [step_function hk hn] at hs
      cases hs
      rw [hn]
      exact .called hc hk
    · rw [step_name hk hn] at hs
      cases hs
      have := Ends.of_primary hc (.name hk)
      rw [Tree.postorder, Token.word_as hk] at this
      exact .ended this
  | opening =>
    rw [step_opening hk (depth_of_step_opening hk hs)] at hs
    cases hs
    exact .wants (.group hc hk)
  | minus =>
    rw [step_minus hk] at hs
    cases hs
    exact .wants (.negative hc hk)
  | plus =>
    rw [step_plus hk] at hs
    cases hs
    exact .wants (.positive hc hk)
  | star | slash | percent | caret | closing | function | negate =>
    unfold step at hs
    rw [hk] at hs
    cases hs

/-- The opening parenthesis of a call. -/
theorem holds_of_called {g : Phrase} {f : Token} (hc : Context g read written pending d) (hf : f.kind = .name)
    (ho : t.kind = .opening)
    (hs : step source limits ⟨written, f.word.as .function :: pending, d, true⟩ t next = .ok r') :
    Holds (read ++ [f] ++ [t]) next r' := by
  rw [step_opening ho (depth_of_step_opening ho hs)] at hs
  cases hs
  rw [List.append_assoc]
  exact .wants (.call hc hf ho)

/-- A closing parenthesis ends the group or the call that is open. -/
theorem holds_of_closing (he : Ends .primary read written pending d) (hk : t.kind = .closing)
    (hs : step source limits ⟨written, pending, d, false⟩ t next = .ok r') : Holds (read ++ [t]) next r' := by
  obtain @⟨outer, base, out, below, ops, ts, tree, hc, hfit, ht, rfl, rfl, hw, hops⟩ := he.product.sum
  cases hc with
  | start =>
    rw [List.append_nil, step_close_unopened hk hops] at hs
    cases hs
  | @group g base before below d o hc ho =>
    rw [step_close_group hk hops ho (hc.waits_below.mono g.ceiling_le)] at hs
    cases hs
    have := Ends.of_primary hc (.group ho ht hk)
    rw [hw]
    exact .ended (by simpa using this)
  | @call g base before below d f o hc hf ho =>
    rw [step_close_call hk hops ho rfl] at hs
    cases hs
    have := Ends.of_primary hc (.call hf ho ht hk)
    rw [hw]
    exact .ended (by simpa [Tree.postorder] using this)
  | operand op => exact absurd hfit (by cases op <;> decide)
  | negative => exact absurd hfit (by decide)
  | positive => exact absurd hfit (by decide)

/-- An operator after an operand. -/
theorem holds_of_operator {op : Operator} (he : Ends .primary read written pending d) (hk : t.kind = op.kind)
    (hs : step source limits ⟨written, pending, d, false⟩ t next = .ok r') : Holds (read ++ [t]) next r' := by
  obtain @⟨outer, base, out, below, ops, ts, tree, hc, hfit, ht, rfl, rfl, hw, hops⟩ := he.left op
  rw [step_operator hk hops (hc.waits_below.mono hfit)] at hs
  cases hs
  rw [hw, List.append_assoc]
  exact .wants (.operand op hc hfit ht hk)

/-- The invariant after one more token. -/
theorem step_holds {r : Reading} {now : Option Kind} (h : Holds read now r) (hnow : now = some t.kind)
    (hs : r.step source limits t next = .ok r') : Holds (read ++ [t]) next r' := by
  cases h with
  | wants hc => exact holds_of_wants hc hs
  | called hc hf => exact holds_of_called hc hf (Option.some.inj hnow).symm hs
  | ended he =>
    rcases hop : t.kind.operator? with _ | op
    · cases hk : t.kind with
      | closing => exact holds_of_closing he hk hs
      | plus | minus | star | slash | percent | caret => rw [hk] at hop; cases hop
      | number | name | opening | function | negate =>
        unfold step at hs
        rw [hk] at hs
        cases hs
    · exact holds_of_operator he (Kind.operator?_eq_some.mp hop) hs

/-- A token that the pass takes is not too deep. -/
theorem step_within {r : Reading} {now : Option Kind} (h : Holds read now r)
    (hs : r.step source limits t next = .ok r') (ho : t.kind = .opening) : rise read + 1 ≤ limits.nesting := by
  cases h with
  | wants hc => rw [hc.rise_eq]; exact depth_of_step_opening ho hs
  | called hc hf =>
    have := depth_of_step_opening ho hs
    rw [rise_append, hc.rise_eq]
    simpa [Token.rise, hf] using this
  | ended he =>
    unfold step at hs
    rw [ho] at hs
    cases hs

/-! ## Whole runs -/

theorem run_cons_eq_ok {r : Reading} {rest : List Token} (h : r.run source limits (t :: rest) = .ok r') :
    ∃ r₁, r.step source limits t (rest.head?.map Token.kind) = .ok r₁ ∧ r₁.run source limits rest = .ok r' :=
  bind_eq_ok.mp h

/-- The invariant and the depth bound after a run. -/
theorem run_holds {ts : List Token} :
    ∀ {read : List Token} {r : Reading}, Holds read (ts.head?.map Token.kind) r → Within limits.nesting 0 read →
      r.run source limits ts = .ok r' → Holds (read ++ ts) none r' ∧ Within limits.nesting 0 (read ++ ts) := by
  induction ts with
  | nil =>
    intro read r h hd hr
    cases hr
    rw [List.append_nil]
    exact ⟨h, hd⟩
  | cons t rest ih =>
    intro read r h hd hr
    obtain ⟨r₁, hs, hr⟩ := run_cons_eq_ok hr
    have := ih (step_holds h rfl hs) (within_snoc.mpr ⟨hd, step_within h hs⟩) hr
    simpa using this

/-- What is written at the end is the postorder of a tree of all that has been read. -/
theorem finish_sentence {r : Reading} {output : List Token} (h : Holds read none r)
    (hf : r.finish source = .ok output) : ∃ t, Sentence read t ∧ output = t.postorder := by
  generalize hn : (none : Option Kind) = now at h
  cases h with
  | wants => cases hf
  | called => cases hn
  | @ended _ written pending d _ he =>
    obtain @⟨outer, base, out, below, ops, ts, tree, hc, hfit, ht, rfl, rfl, hw, hops⟩ := he.product.sum
    simp only [finish, Bool.false_eq_true, if_false, List.find?_append, hops.find?_opening, Option.none_or] at hf
    cases hc with
    | start =>
      cases hf
      refine ⟨tree, ht, ?_⟩
      rw [List.append_nil, hw, List.nil_append]
    | group hc ho =>
      rw [List.find?_cons_of_pos (by simp [ho])] at hf
      cases hf
    | call hc hf' ho =>
      rw [List.find?_cons_of_pos (by simp [ho])] at hf
      cases hf
    | operand op => exact absurd hfit (by cases op <;> decide)
    | negative => exact absurd hfit (by decide)
    | positive => exact absurd hfit (by decide)

/-- A postfix order is the postorder of a sentence within the depth bound. -/
theorem toPostfix_sound {tokens output : List Token} (h : toPostfix tokens source limits = .ok output) :
    ∃ t, Sentence tokens t ∧ Within limits.nesting 0 tokens ∧ output = t.postorder := by
  unfold toPostfix at h
  split at h
  · cases h
  · obtain ⟨r, hr, hf⟩ := bind_eq_ok.mp h
    obtain ⟨hr, hd⟩ := run_holds (.wants .start) trivial hr
    obtain ⟨t, ht, ho⟩ := finish_sentence hr hf
    exact ⟨t, ht, hd, ho⟩

/-- A sentence within the depth bound has the postorder of its tree as postfix order. -/
theorem toPostfix_complete {tokens : List Token} {t : Tree} (h : Sentence tokens t)
    (hd : Within limits.nesting 0 tokens) : toPostfix tokens source limits = .ok t.postorder := by
  obtain ⟨written, ops, hops, hw, hrun⟩ := @run_phrase source limits _ _ _ h [] [] [] 0 (below_nil _) hd (by simp)
  simp only [List.append_nil, List.nil_append, run] at hrun
  have hne : tokens.isEmpty = false := by simpa using h.ne_nil
  simp only [toPostfix, hne, Bool.false_eq_true, if_false, start, hrun, ok_bind, finish, hops.find?_opening]
  rw [hw]

end

/-- A sentence has one tree: its postorder is what the pass writes when the bound is large enough. -/
theorem Derives.unique {ts : List Token} {t t' : Tree} (h : Sentence ts t) (h' : Sentence ts t') : t = t' := by
  have hd : Within ts.length 0 ts := within_of_length_le (by omega)
  have ht := @toPostfix_complete "" ⟨0, 0, ts.length⟩ _ _ h hd
  have ht' := @toPostfix_complete "" ⟨0, 0, ts.length⟩ _ _ h' hd
  rw [ht] at ht'
  exact Tree.postorder_injective (Except.ok.inj ht')

/-! ## Sentences and no others -/

/-- The tokens that have a postfix order are the sentences within the depth bound, and it is
the postorder of the one tree that the sentence has. All others are refused, those among them
that hold a token of postfix order. -/
theorem toPostfix_eq_ok_iff_sentence (tokens : List Token) (source : String) (limits : Limits) :
    (∀ output, toPostfix tokens source limits = .ok output ↔
      ∃ t, Sentence tokens t ∧ Within limits.nesting 0 tokens ∧ output = t.postorder) ∧
    (∀ t t', Sentence tokens t → Sentence tokens t' → t = t') ∧
    (∀ e, toPostfix tokens source limits = .error e → e.cause.family = .syntactic ∨ e.cause.family = .limit) ∧
    ((∃ o ∈ tokens, o.kind = .function ∨ o.kind = .negate) → ∃ e, toPostfix tokens source limits = .error e) := by
  refine ⟨fun output => ⟨toPostfix_sound, ?_⟩, fun t t' h h' => h.unique h', fun e h => toPostfix_refuses h, ?_⟩
  · rintro ⟨t, ht, hd, rfl⟩
    exact toPostfix_complete ht hd
  · rintro ⟨o, ho, hk⟩
    cases hp : toPostfix tokens source limits with
    | error e => exact ⟨e, rfl⟩
    | ok output =>
      obtain ⟨t, ht, -, -⟩ := toPostfix_sound hp
      obtain ⟨hf, hn⟩ := ht.mem_kind o ho
      rcases hk with hk | hk
      · exact absurd hk hf
      · exact absurd hk hn

end Formwork.Formula
