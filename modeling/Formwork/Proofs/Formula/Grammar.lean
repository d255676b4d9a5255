/-
  Formwork.Proofs.Formula.Grammar: the sentences that formulas are, and their trees.

    sum     := product (('+' | '-') product)*
    product := unary (('*' | '/' | '%') unary)*
    unary   := ('+' | '-') unary | power
    power   := primary ('^' unary)?
    primary := number | name | name '(' sum ')' | '(' sum ')'

  `Derives g ts t` holds when the tokens `ts` are a phrase `g` whose tree is `t`. An operator
  makes a phrase of the one on its left and the one on its right. A sum stands on the left of
  `+ -` and a product on the left of `* / %`, so both group to the left; a power may stand on
  the right of `^` only. Parentheses leave no trace in the tree, and a plus in front of an
  operand none either.

  `Tree.postorder` writes a tree with operands before operators. Proved:
  - `postorder_injective`: a tree can be read back from its postorder.
  - `Derives.rise_eq_zero`: every phrase closes the parentheses that it opens.
  - `Derives.mem_kind`: no phrase holds a token that only postfix order has.
  - `Derives.mem_postorder`: every token of the postorder comes from a token of the phrase.
-/

import Formwork.Formula.Postfix

namespace Formwork.Formula

/-! ## Trees -/

structure Word where
  text : String
  position : Nat
  deriving DecidableEq, Repr

def Word.as (w : Word) (kind : Kind) : Token := ⟨kind, w.text, w.position⟩

def Token.word (t : Token) : Word := ⟨t.text, t.position⟩

theorem Token.word_as {t : Token} {kind : Kind} (h : t.kind = kind) : t.word.as kind = t := by
  subst h; rfl

inductive Operator where
  | plus
  | minus
  | star
  | slash
  | percent
  | caret
  deriving DecidableEq, Repr

def Operator.kind : Operator → Kind
  | plus => .plus
  | minus => .minus
  | star => .star
  | slash => .slash
  | percent => .percent
  | caret => .caret

def Kind.operator? : Kind → Option Operator
  | .plus => some .plus
  | .minus => some .minus
  | .star => some .star
  | .slash => some .slash
  | .percent => some .percent
  | .caret => some .caret
  | _ => none

theorem Kind.operator?_eq_some {k : Kind} {op : Operator} : k.operator? = some op ↔ k = op.kind := by
  cases k <;> cases op <;> decide

inductive Tree where
  | number (w : Word)
  | name (w : Word)
  | negate (w : Word) (operand : Tree)
  | binary (op : Operator) (w : Word) (left right : Tree)
  | call (w : Word) (argument : Tree)
  deriving DecidableEq, Repr

namespace Tree

/-- Operands before their operator, the left one first. -/
def postorder : Tree → List Token
  | number w => [w.as .number]
  | name w => [w.as .name]
  | negate w t => t.postorder ++ [w.as .negate]
  | binary op w l r => l.postorder ++ r.postorder ++ [w.as op.kind]
  | call w t => t.postorder ++ [w.as .function]

/-- One token of a postorder on the trees read so far, the latest first. -/
def grow (stack : List Tree) (t : Token) : List Tree :=
  match t.kind, stack with
  | .number, _ => number t.word :: stack
  | .name, _ => name t.word :: stack
  | .negate, x :: rest => negate t.word x :: rest
  | .function, x :: rest => call t.word x :: rest
  | kind, r :: l :: rest => (kind.operator?.map fun op => binary op t.word l r).toList ++ rest
  | _, _ => stack

theorem foldl_grow_postorder (t : Tree) (stack : List Tree) : t.postorder.foldl grow stack = t :: stack := by
  induction t generalizing stack with
  | number w => rfl
  | name w => rfl
  | negate w t ih => simp only [postorder, List.foldl_append, ih]; rfl
  | binary op w l r ihl ihr =>
    simp only [postorder, List.foldl_append, ihl, ihr]
    cases op <;> rfl
  | call w t ih => simp only [postorder, List.foldl_append, ih]; rfl

/-- A tree can be read back from its postorder. -/
theorem postorder_injective {t t' : Tree} (h : t.postorder = t'.postorder) : t = t' := by
  have hl := foldl_grow_postorder t []
  rw [h, foldl_grow_postorder t' []] at hl
  exact (List.cons.inj hl).1.symm

end Tree

/-! ## Phrases -/

inductive Phrase where
  | sum
  | product
  | unary
  | power
  | primary
  deriving DecidableEq, Repr

def Operator.phrase : Operator → Phrase
  | plus | minus => .sum
  | star | slash | percent => .product
  | caret => .power

def Operator.left : Operator → Phrase
  | plus | minus => .sum
  | star | slash | percent => .product
  | caret => .primary

def Operator.right : Operator → Phrase
  | plus | minus => .product
  | star | slash | percent | caret => .unary

theorem Operator.phrase_cases (op : Operator) :
    (op.phrase = .sum ∧ op.left = .sum ∧ op.right = .product) ∨
      (op.phrase = .product ∧ op.left = .product ∧ op.right = .unary) ∨
        (op.phrase = .power ∧ op.left = .primary ∧ op.right = .unary) := by
  cases op <;> decide

inductive Derives : Phrase → List Token → Tree → Prop
  | ofProduct {ts t} : Derives .product ts t → Derives .sum ts t
  | ofUnary {ts t} : Derives .unary ts t → Derives .product ts t
  | ofPower {ts t} : Derives .power ts t → Derives .unary ts t
  | ofPrimary {ts t} : Derives .primary ts t → Derives .power ts t
  | binary {g ls rs l r o} (op : Operator) : op.phrase = g → Derives op.left ls l → o.kind = op.kind →
      Derives op.right rs r → Derives g (ls ++ o :: rs) (.binary op o.word l r)
  | negative {ts t o} : o.kind = .minus → Derives .unary ts t → Derives .unary (o :: ts) (.negate ⟨"-", o.position⟩ t)
  | positive {ts t o} : o.kind = .plus → Derives .unary ts t → Derives .unary (o :: ts) t
  | number {o} : o.kind = .number → Derives .primary [o] (.number o.word)
  | name {o} : o.kind = .name → Derives .primary [o] (.name o.word)
  | call {ts t f o c} : f.kind = .name → o.kind = .opening → Derives .sum ts t → c.kind = .closing →
      Derives .primary (f :: o :: (ts ++ [c])) (.call f.word t)
  | group {ts t o c} : o.kind = .opening → Derives .sum ts t → c.kind = .closing → Derives .primary (o :: (ts ++ [c])) t

abbrev Sentence (ts : List Token) (t : Tree) : Prop := Derives .sum ts t

theorem Derives.ne_nil {g : Phrase} {ts : List Token} {t : Tree} (h : Derives g ts t) : ts ≠ [] := by
  induction h with
  | ofProduct _ ih | ofUnary _ ih | ofPower _ ih | ofPrimary _ ih => exact ih
  | binary | negative | positive | number | name | call | group => simp

/-- Tokens that only postfix order has stand in no phrase. -/
theorem Derives.mem_kind {g : Phrase} {ts : List Token} {t : Tree} (h : Derives g ts t) :
    ∀ o ∈ ts, o.kind ≠ .function ∧ o.kind ≠ .negate := by
  induction h with
  | ofProduct _ ih | ofUnary _ ih | ofPower _ ih | ofPrimary _ ih => exact ih
  | binary op _ _ ho _ ihl ihr =>
    simp only [List.mem_append, List.mem_cons]
    rintro x (hx | rfl | hx)
    · exact ihl x hx
    · rw [ho]; cases op <;> decide
    · exact ihr x hx
  | negative ho _ ih | positive ho _ ih =>
    rintro x (_ | ⟨_, hx⟩)
    · rw [ho]; decide
    · exact ih x hx
  | number ho | name ho =>
    simp only [List.mem_singleton]
    rintro x rfl
    rw [ho]; decide
  | call hf ho _ hc ih =>
    simp only [List.mem_cons, List.mem_append, List.not_mem_nil, or_false]
    rintro x (rfl | rfl | hx | rfl)
    · rw [hf]; decide
    · rw [ho]; decide
    · exact ih x hx
    · rw [hc]; decide
  | group ho _ hc ih =>
    simp only [List.mem_cons, List.mem_append, List.not_mem_nil, or_false]
    rintro x (rfl | hx | rfl)
    · rw [ho]; decide
    · exact ih x hx
    · rw [hc]; decide

/-- A token of a formula in postfix order: a called name is a function there, a minus in
front of an operand a negation, and any other token itself. -/
inductive Becomes (o : Token) : Token → Prop
  | itself : Becomes o o
  | function : o.kind = .name → Becomes o (o.word.as .function)
  | negate : o.kind = .minus → Becomes o ⟨.negate, "-", o.position⟩

theorem Derives.mem_postorder {g : Phrase} {ts : List Token} {t : Tree} (h : Derives g ts t) :
    ∀ p ∈ t.postorder, ∃ o ∈ ts, Becomes o p := by
  induction h with
  | ofProduct _ ih | ofUnary _ ih | ofPower _ ih | ofPrimary _ ih => exact ih
  | @binary _ _ _ _ _ o op _ _ ho _ ihl ihr =>
    simp only [Tree.postorder, List.mem_append, List.mem_singleton]
    rintro p ((hp | hp) | rfl)
    · obtain ⟨x, hx, hb⟩ := ihl p hp
      exact ⟨x, Or.inl hx, hb⟩
    · obtain ⟨x, hx, hb⟩ := ihr p hp
      exact ⟨x, Or.inr (List.mem_cons_of_mem _ hx), hb⟩
    · rw [Token.word_as ho]
      exact ⟨o, Or.inr List.mem_cons_self, .itself⟩
  | @negative _ _ o ho _ ih =>
    simp only [Tree.postorder, List.mem_append, List.mem_singleton]
    rintro p (hp | rfl)
    · obtain ⟨x, hx, hb⟩ := ih p hp
      exact ⟨x, List.mem_cons_of_mem _ hx, hb⟩
    · exact ⟨o, List.mem_cons_self, .negate ho⟩
  | positive _ _ ih =>
    intro p hp
    obtain ⟨x, hx, hb⟩ := ih p hp
    exact ⟨x, List.mem_cons_of_mem _ hx, hb⟩
  | @number o ho | @name o ho =>
    simp only [Tree.postorder, List.mem_singleton]
    rintro p rfl
    rw [Token.word_as ho]
    exact ⟨o, rfl, .itself⟩
  | @call _ _ f _ _ hf _ _ _ ih =>
    simp only [Tree.postorder, List.mem_append, List.mem_singleton]
    rintro p (hp | rfl)
    · obtain ⟨x, hx, hb⟩ := ih p hp
      exact ⟨x, by simp [hx], hb⟩
    · exact ⟨f, by simp, .function hf⟩
  | group _ _ _ ih =>
    intro p hp
    obtain ⟨x, hx, hb⟩ := ih p hp
    exact ⟨x, by simp [hx], hb⟩

/-! ## Depth -/

/-- What a token adds to the depth at which the next one stands. -/
def Token.rise (t : Token) : Int :=
  match t.kind with
  | .opening => 1
  | .closing => -1
  | _ => 0

def rise : List Token → Int
  | [] => 0
  | t :: ts => t.rise + rise ts

/-- From `depth` on, every opening parenthesis reaches depth `limit` at most. -/
def Within (limit : Int) : Int → List Token → Prop
  | _, [] => True
  | depth, t :: ts => (t.kind = .opening → depth + 1 ≤ limit) ∧ Within limit (depth + t.rise) ts

@[simp] theorem rise_nil : rise [] = 0 := rfl
@[simp] theorem rise_cons (t : Token) (ts : List Token) : rise (t :: ts) = t.rise + rise ts := rfl

@[simp] theorem rise_append (ls rs : List Token) : rise (ls ++ rs) = rise ls + rise rs := by
  induction ls with
  | nil => simp
  | cons t ls ih => simp [ih, Int.add_assoc]

theorem within_append {limit depth : Int} {ls rs : List Token} :
    Within limit depth (ls ++ rs) ↔ Within limit depth ls ∧ Within limit (depth + rise ls) rs := by
  induction ls generalizing depth with
  | nil => simp [Within]
  | cons t ls ih => simp [Within, ih, and_assoc, Int.add_assoc]

theorem Token.rise_le_one (t : Token) : t.rise ≤ 1 := by
  unfold Token.rise
  split <;> decide

/-- No depth exceeds the number of tokens. -/
theorem within_of_length_le {limit : Int} {ts : List Token} :
    ∀ {depth : Int}, depth + ts.length ≤ limit → Within limit depth ts := by
  induction ts with
  | nil => intro _ _; trivial
  | cons t ts ih =>
    intro depth h
    rw [List.length_cons] at h
    have := t.rise_le_one
    exact ⟨fun _ => by omega, ih (by omega)⟩

theorem Operator.rise_of_kind {op : Operator} {o : Token} (h : o.kind = op.kind) : o.rise = 0 := by
  unfold Token.rise
  rw [h]
  cases op <;> rfl

/-- Every phrase closes the parentheses that it opens. -/
theorem Derives.rise_eq_zero {g : Phrase} {ts : List Token} {t : Tree} (h : Derives g ts t) : rise ts = 0 := by
  induction h with
  | ofProduct _ ih | ofUnary _ ih | ofPower _ ih | ofPrimary _ ih => exact ih
  | binary op _ _ ho _ ihl ihr => simp [ihl, ihr, Operator.rise_of_kind ho]
  | negative ho _ ih | positive ho _ ih => simp [ih, Token.rise, ho]
  | number ho | name ho => simp [Token.rise, ho]
  | call hf ho _ hc ih => simp [ih, Token.rise, hf, ho, hc]
  | group ho _ hc ih => simp [ih, Token.rise, ho, hc]

end Formwork.Formula
