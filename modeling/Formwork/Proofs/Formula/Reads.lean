/-
  Formwork.Proofs.Formula.Reads: which bindings a formula looks at.

  A name that an opening parenthesis follows is called; any other name is a variable. Postfix order
  keeps the variables of a text, in their order, and turns the called names into functions
  (`Derives.filter_postorder`). On the stack only a variable is looked up, so two runs in scopes that
  agree on the variables of a postfix order stay in step up to its end or the first error.

  - `step_congr` / `foldlM_step_congr`: one token, and a run of tokens.
  - `evaluate_eq_of_agree`: what agrees on the variables has one outcome; a name that is only called, or
    does not occur, has no influence; and without a binding for each variable there is no value.
-/

import Formwork.Proofs.Formula.Names
import Formwork.Proofs.Formula.Parse

namespace Formwork.Formula

/-! ## Variables -/

def Opens (ts : List Token) : Prop := ts.head?.map Token.kind = some .opening

instance (ts : List Token) : Decidable (Opens ts) := inferInstanceAs (Decidable (_ = _))

def uncalled : List Token → List Token
  | [] => []
  | t :: rest => if t.kind = .name ∧ ¬ Opens rest then t :: uncalled rest else uncalled rest

def OnlyCalled (name : String) (ts : List Token) : Prop :=
  ∀ before t after, ts = before ++ t :: after → t.kind = .name → t.text = name → Opens after

variable {ts ls rs : List Token} {t o : Token} {name : String}

theorem uncalled_cons_of_ne (h : t.kind ≠ .name) : uncalled (t :: ts) = uncalled ts :=
  if_neg fun hname => h hname.1

theorem not_opens_cons (h : o.kind ≠ .opening) : ¬ Opens (o :: ts) := fun hopens => h (Option.some.inj hopens)

/-- A list ends where no parenthesis is opened behind it. -/
theorem uncalled_append (h : ¬ Opens rs) : uncalled (ls ++ rs) = uncalled ls ++ uncalled rs := by
  induction ls with
  | nil => rfl
  | cons t ls ih =>
    have hnext : Opens (ls ++ rs) ↔ Opens ls := by
      cases ls with
      | nil => exact iff_of_false h (by simp [Opens])
      | cons u ls => exact Iff.rfl
    rw [List.cons_append, uncalled, uncalled, ih]
    simp only [hnext]
    split <;> rfl

theorem mem_uncalled_iff :
    t ∈ uncalled ts ↔ ∃ before after, ts = before ++ t :: after ∧ t.kind = .name ∧ ¬ Opens after := by
  induction ts with
  | nil => simp [uncalled]
  | cons u ts ih =>
    have hcons : (∃ before after, u :: ts = before ++ t :: after ∧ t.kind = .name ∧ ¬ Opens after) ↔
        (u = t ∧ t.kind = .name ∧ ¬ Opens ts) ∨ t ∈ uncalled ts := by
      rw [ih]
      constructor
      · rintro ⟨_ | ⟨v, before⟩, after, hsplit, hname⟩
        · cases hsplit
          exact Or.inl ⟨rfl, hname⟩
        · cases hsplit
          exact Or.inr ⟨before, after, rfl, hname⟩
      · rintro (⟨rfl, hname⟩ | ⟨before, after, rfl, hname⟩)
        · exact ⟨[], ts, rfl, hname⟩
        · exact ⟨u :: before, after, rfl, hname⟩
    rw [hcons, uncalled]
    split
    · rename_i hu
      rw [List.mem_cons]
      refine or_congr_left ⟨fun h => ?_, fun h => h.1.symm⟩
      subst h
      exact ⟨rfl, hu⟩
    · rename_i hu
      refine (or_iff_right ?_).symm
      rintro ⟨rfl, hname⟩
      exact hu hname

theorem onlyCalled_iff : OnlyCalled name ts ↔ ∀ t ∈ uncalled ts, t.text ≠ name := by
  constructor
  · intro h t ht htext
    obtain ⟨before, after, hsplit, hname, hafter⟩ := mem_uncalled_iff.mp ht
    exact hafter (h before t after hsplit hname htext)
  · intro h before t after hsplit hname htext
    by_contra hafter
    exact h t (mem_uncalled_iff.mpr ⟨before, after, hsplit, hname, hafter⟩) htext

/-! ## Postfix order -/

/-- The variables of a phrase in postfix order are those of its text. -/
theorem Derives.filter_postorder {g : Phrase} {tree : Tree} (h : Derives g ts tree) :
    tree.postorder.filter (·.kind = .name) = uncalled ts := by
  induction h with
  | ofProduct _ ih | ofUnary _ ih | ofPower _ ih | ofPrimary _ ih => exact ih
  | @binary _ ls rs l r o op _ _ ho _ ihl ihr =>
    have hkind : op.kind ≠ .name ∧ op.kind ≠ .opening := by cases op <;> decide
    rw [uncalled_append (not_opens_cons (ho ▸ hkind.2)), uncalled_cons_of_ne (ho ▸ hkind.1), ← ihl, ← ihr]
    simp [Tree.postorder, Word.as, hkind.1]
  | negative ho _ ih =>
    rw [uncalled_cons_of_ne (by rw [ho]; decide), ← ih]
    simp [Tree.postorder, Word.as]
  | positive ho _ ih => rw [uncalled_cons_of_ne (by rw [ho]; decide), ← ih]
  | @number o ho =>
    rw [uncalled_cons_of_ne (by rw [ho]; decide)]
    rfl
  | @name o ho =>
    have hself : uncalled [o] = [o] := if_pos ⟨ho, by simp [Opens]⟩
    rw [hself, Tree.postorder, Token.word_as ho]
    simp [ho]
  | @call ts tree f o c hf ho _ hc ih =>
    have hcalled : uncalled (f :: o :: (ts ++ [c])) = uncalled (o :: (ts ++ [c])) :=
      if_neg fun h => h.2 (congrArg some ho)
    rw [hcalled, uncalled_cons_of_ne (by rw [ho]; decide), uncalled_append (not_opens_cons (by rw [hc]; decide)),
      uncalled_cons_of_ne (by rw [hc]; decide), ← ih]
    simp [Tree.postorder, Word.as, uncalled]
  | @group ts tree o c ho _ hc ih =>
    rw [uncalled_cons_of_ne (by rw [ho]; decide), uncalled_append (not_opens_cons (by rw [hc]; decide)),
      uncalled_cons_of_ne (by rw [hc]; decide), ← ih]
    simp [uncalled]

theorem mem_uncalled_of_parse {source : String} {limits : Limits} {output : List Token}
    (h : parse source limits = .ok output) (ht : t ∈ output) (hk : t.kind = .name) :
    ∃ tokens, tokenize source limits = .ok tokens ∧ t ∈ uncalled tokens := by
  obtain ⟨tokens, tree, htokens, htree, rfl⟩ := parse_sound h
  refine ⟨tokens, htokens, ?_⟩
  rw [← htree.filter_postorder]
  exact List.mem_filter.mpr ⟨ht, by simpa using hk⟩

/-! ## Two runs -/

/-- Two bindings of one name are the same, or both are missing, for every variable of a postfix order. -/
def Agree (output : List Token) (b b' : Bindings) : Prop :=
  ∀ t ∈ output, t.kind = .name → b.get? t.text = b'.get? t.text

namespace Scope

variable {b b' : Bindings} {functions : Functions} {source : String} {stack : List Float}

theorem lookup_congr {t : Token} (h : b.get? t.text = b'.get? t.text) :
    lookup ⟨b, functions, source⟩ t = lookup ⟨b', functions, source⟩ t := by
  unfold lookup
  rw [h]
  rfl

/-- A token looks at the binding of its own name only, and only when it is a variable. -/
theorem step_congr (h : t.kind = .name → b.get? t.text = b'.get? t.text) :
    step ⟨b, functions, source⟩ stack t = step ⟨b', functions, source⟩ stack t := by
  cases hk : t.kind with
  | name =>
    simp only [step, hk]
    rw [lookup_congr (h hk)]
  | number => simp only [step, hk]
  | _ =>
    simp only [step, hk]
    rfl

/-- Two runs stay in step, whatever is on the stack. -/
theorem foldlM_step_congr (h : Agree ts b b') :
    ts.foldlM (step ⟨b, functions, source⟩) stack = ts.foldlM (step ⟨b', functions, source⟩) stack := by
  induction ts generalizing stack with
  | nil => rfl
  | cons t ts ih =>
    rw [List.foldlM_cons, List.foldlM_cons, step_congr (h t List.mem_cons_self)]
    exact congrArg _ (funext fun next => ih fun u hu => h u (List.mem_cons_of_mem t hu))

theorem evaluatePostfix_congr (h : Agree ts b b') :
    evaluatePostfix ⟨b, functions, source⟩ ts = evaluatePostfix ⟨b', functions, source⟩ ts := by
  unfold evaluatePostfix
  rw [foldlM_step_congr h]
  rfl

end Scope

theorem evaluate_congr {source : String} {limits : Limits} {functions : Functions} {b b' : Bindings}
    (h : ∀ output, parse source limits = .ok output → Agree output b b') :
    evaluate source b limits functions = evaluate source b' limits functions := by
  unfold evaluate
  split
  · rfl
  · rename_i output hparse
    exact Scope.evaluatePostfix_congr (h output hparse)

/-- Bindings that agree on the variables of a formula in postfix order give it one outcome, a value or an
error. So the binding of a name that the text only calls, or does not hold, has no influence, also where
the name is that of a function. Each variable does have one: there is no value without a binding for it. -/
theorem evaluate_eq_of_agree (source : String) (limits : Limits) (functions : Functions) :
    (∀ b b', (∀ output, parse source limits = .ok output → Agree output b b') →
      evaluate source b limits functions = evaluate source b' limits functions) ∧
    (∀ name, (∀ tokens, tokenize source limits = .ok tokens → OnlyCalled name tokens) →
      ∀ b b' : Bindings, (∀ other, other ≠ name → b.get? other = b'.get? other) →
        evaluate source b limits functions = evaluate source b' limits functions) ∧
    ∀ (b : Bindings) x, evaluate source b limits functions = .ok x → ∀ output, parse source limits = .ok output →
      ∀ t ∈ output, t.kind = .name → (b.get? t.text).isSome = true := by
  refine ⟨fun b b' => evaluate_congr, ?_, ?_⟩
  · intro name honly b b' hothers
    refine evaluate_congr fun output hparse t ht hk => hothers _ ?_
    obtain ⟨tokens, htokens, hmem⟩ := mem_uncalled_of_parse hparse ht hk
    exact onlyCalled_iff.mp (honly tokens htokens) t hmem
  · intro b x hvalue output hparse t ht hk
    unfold evaluate at hvalue
    rw [hparse] at hvalue
    obtain ⟨stack, hrun, -⟩ := bind_eq_ok.mp hvalue
    exact (Scope.knows_of_run hrun t ht).1 hk

/-- In `floor(price)+abs(floor(2))` the variable is `price`: a binding of `tax` or `floor` counts for nothing. -/
theorem evaluate_floor_unbound :
    (parse "floor(price)+abs(floor(2))" {} = .ok [⟨.name, "price", 6⟩, ⟨.function, "floor", 0⟩, ⟨.number, "2", 23⟩,
        ⟨.function, "floor", 17⟩, ⟨.function, "abs", 13⟩, ⟨.plus, "+", 12⟩] ∧
      evaluate "floor(price)+abs(floor(2))" [("tax", .text "none"), ("price", .float 2.5)] {} [] =
        evaluate "floor(price)+abs(floor(2))" [("price", .float 2.5), ("floor", .float 7)] {} []) ∧
    (∀ tokens, tokenize "floor(price)+abs(floor(2))" {} = .ok tokens → OnlyCalled "floor" tokens) ∧
      ∀ v : Value, evaluate "floor(price)+abs(floor(2))" [("floor", v), ("price", .float 2.5)] {} [] =
        evaluate "floor(price)+abs(floor(2))" [("price", .float 2.5)] {} [] := by
  have hparse : parse "floor(price)+abs(floor(2))" {} = .ok [⟨.name, "price", 6⟩, ⟨.function, "floor", 0⟩,
      ⟨.number, "2", 23⟩, ⟨.function, "floor", 17⟩, ⟨.function, "abs", 13⟩, ⟨.plus, "+", 12⟩] :=
    eq_ok_of_toOption (by decide +kernel)
  have honly : ∀ tokens, tokenize "floor(price)+abs(floor(2))" {} = .ok tokens → OnlyCalled "floor" tokens := by
    intro tokens h
    have hscan : (tokenize "floor(price)+abs(floor(2))" {}).toOption.any
        (fun ts => (uncalled ts).all (·.text ≠ "floor")) = true := by decide +kernel
    obtain ⟨ts, hts, hall⟩ := exists_ok_of_any hscan
    obtain rfl := Except.ok.inj (h.symm.trans hts)
    simpa [onlyCalled_iff] using hall
  obtain ⟨hagree, hcalled, -⟩ := evaluate_eq_of_agree "floor(price)+abs(floor(2))" {} []
  refine ⟨⟨hparse, hagree _ _ fun output houtput => ?_⟩, honly, fun v =>
    hcalled "floor" honly _ _ fun other hother => ?_⟩
  · obtain rfl := Except.ok.inj (hparse.symm.trans houtput)
    simp [Agree, Entries.get?]
  · rw [Entries.get?_cons, if_neg (Ne.symm hother)]

end Formwork.Formula
