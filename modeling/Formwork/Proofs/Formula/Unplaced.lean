/-
  Formwork.Proofs.Formula.Unplaced: where its words stand does not matter to a formula.

  A position is carried from the scanner to an error, and nothing on the way looks at it. So two
  formulas with the same words are read alike and evaluated alike, but for the positions in their
  postfix order and in their errors (`unplaced` takes these away). A function is told where its
  call stands; the built-in ones use that for their errors only (`builtins_blind`).

  - `toPostfix_unplaced`: the same words have the same postfix order, or the same cause for none.
  - `evaluate_unplaced`: and then the same value, or the same failure.
-/

import Formwork.Formula.Evaluation
import Formwork.Proofs.Bind
import Formwork.Proofs.Entries

namespace Formwork

def FormulaError.unplaced (e : FormulaError) : FormulaError := { e with place := none }

namespace Formula

def Token.unplaced (t : Token) : Token := { t with position := 0 }

def Reading.unplaced (r : Reading) : Reading :=
  { r with output := r.output.map Token.unplaced, pending := r.pending.map Token.unplaced }

def Failure.unplaced : Failure → Failure
  | formula e => formula e.unplaced
  | numeric e => numeric e

variable {source source' : String} {limits : Limits} {t t' : Token} {next : Option Kind} {r r' : Reading}
  {tokens tokens' : List Token}

theorem Token.unplaced_inj : t.unplaced = t'.unplaced ↔ t.kind = t'.kind ∧ t.text = t'.text := by
  simp [Token.unplaced]

theorem map_kind_head? (h : tokens.map Token.unplaced = tokens'.map Token.unplaced) :
    tokens.head?.map Token.kind = tokens'.head?.map Token.kind := by
  have hkinds := congrArg (fun ts => ts.head?.map Token.kind) h
  simp only [List.head?_map, Option.map_map] at hkinds
  exact hkinds

/-! ## Reading -/

namespace Reading

theorem takeWhile_unplaced {p q : Token → Bool} (h : ∀ x, q x.unplaced = p x) (ts : List Token) :
    (ts.takeWhile p).map Token.unplaced = (ts.map Token.unplaced).takeWhile q ∧
      (ts.dropWhile p).map Token.unplaced = (ts.map Token.unplaced).dropWhile q := by
  have hp : p = q ∘ Token.unplaced := funext fun x => (h x).symm
  rw [List.takeWhile_map, List.dropWhile_map, hp]
  exact ⟨rfl, rfl⟩

theorem binary_unplaced (r : Reading) (t : Token) : (r.binary t).unplaced = r.unplaced.binary t.unplaced := by
  obtain ⟨htake, hdrop⟩ := takeWhile_unplaced (p := yieldsTo t) (q := yieldsTo t.unplaced) (fun _ => rfl) r.pending
  simp only [binary, unplaced, List.map_append, List.map_cons, htake, hdrop]

theorem close_unplaced (source : String) (r : Reading) (t : Token) :
    bimap unplaced FormulaError.unplaced (r.close source t) =
      bimap id FormulaError.unplaced (r.unplaced.close "" t.unplaced) := by
  obtain ⟨htake, hdrop⟩ := takeWhile_unplaced (p := isInner) (q := isInner) (fun _ => rfl) r.pending
  obtain ⟨output, pending, depth, wantsOperand⟩ := r
  cases wantsOperand with
  | true => rfl
  | false =>
    simp only [close, unplaced, Bool.false_eq_true, if_false, ← htake, ← hdrop]
    rcases pending.dropWhile isInner with _ | ⟨o, _ | ⟨f, rest⟩⟩
    · rfl
    · simp [bimap, unplaced]
    · simp only [List.map_cons]
      by_cases hf : f.kind = .function
      · simp [bimap, unplaced, hf, Token.unplaced]
      · simp [bimap, unplaced, hf, Token.unplaced]

/-- A step without positions is the step on what has none. -/
theorem step_unplaced (source : String) (r : Reading) (t : Token) :
    bimap unplaced FormulaError.unplaced (r.step source limits t next) =
      bimap id FormulaError.unplaced (r.unplaced.step "" limits t.unplaced next) := by
  unfold step
  have hkind : t.unplaced.kind = t.kind := rfl
  rw [hkind]
  cases hk : t.kind with
  | closing => exact close_unplaced source r t
  | function | negate => rfl
  | plus | minus | star | slash | percent | caret =>
    simp only
    have hwants : r.unplaced.wantsOperand = r.wantsOperand := rfl
    rw [hwants, ← binary_unplaced]
    split <;> rfl
  | number =>
    obtain ⟨output, pending, depth, _ | _⟩ := r
    · rfl
    · simp [needOperandPlace, bimap, unplaced, pure, Except.pure]
  | name =>
    obtain ⟨output, pending, depth, _ | _⟩ := r
    · rfl
    · by_cases hnext : next = some .opening
      · simp [needOperandPlace, bimap, unplaced, hnext, Token.unplaced, pure, Except.pure]
      · simp [needOperandPlace, bimap, unplaced, hnext, pure, Except.pure]
  | opening =>
    obtain ⟨output, pending, depth, _ | _⟩ := r
    · rfl
    · simp only [needOperandPlace, unplaced, if_true, ok_bind]
      cases limits.check .nesting (depth + 1 : Nat) with
      | error e => rfl
      | ok u => simp [bimap, unplaced, pure, Except.pure]

/-- Steps on the same words agree. -/
theorem step_unplaced_congr (hr : r.unplaced = r'.unplaced) (ht : t.unplaced = t'.unplaced) :
    bimap unplaced FormulaError.unplaced (r.step source limits t next) =
      bimap unplaced FormulaError.unplaced (r'.step source' limits t' next) := by
  rw [step_unplaced, step_unplaced, hr, ht]

theorem run_unplaced (h : tokens.map Token.unplaced = tokens'.map Token.unplaced) (hr : r.unplaced = r'.unplaced) :
    bimap unplaced FormulaError.unplaced (r.run source limits tokens) =
      bimap unplaced FormulaError.unplaced (r'.run source' limits tokens') := by
  induction tokens generalizing r r' tokens' with
  | nil =>
    obtain rfl := List.map_eq_nil_iff.mp h.symm
    exact congrArg Except.ok hr
  | cons t rest ih =>
    cases tokens' with
    | nil => cases h
    | cons t' rest' =>
      obtain ⟨ht, hrest⟩ := List.cons.inj h
      rw [run, run, map_kind_head? hrest]
      exact bimap_bind_congr (step_unplaced_congr hr ht) fun _ _ hab => ih hrest hab

theorem finish_unplaced (source : String) (r : Reading) :
    bimap (List.map Token.unplaced) FormulaError.unplaced (r.finish source) =
      bimap id FormulaError.unplaced (r.unplaced.finish "") := by
  obtain ⟨output, pending, depth, _ | _⟩ := r
  · have hfind : (pending.map Token.unplaced).find? (fun t => t.kind == .opening) =
        (pending.find? fun t => t.kind == .opening).map Token.unplaced := List.find?_map
    simp only [finish, unplaced, hfind, Bool.false_eq_true, if_false]
    cases pending.find? fun t => t.kind == .opening with
    | some t => rfl
    | none => exact congrArg Except.ok List.map_append
  · rfl

end Reading

/-- The same words have the same postfix order, or none for the same cause. -/
theorem toPostfix_unplaced (h : tokens.map Token.unplaced = tokens'.map Token.unplaced) :
    bimap (List.map Token.unplaced) FormulaError.unplaced (toPostfix tokens source limits) =
      bimap (List.map Token.unplaced) FormulaError.unplaced (toPostfix tokens' source' limits) := by
  have hempty : tokens.isEmpty = tokens'.isEmpty := by
    have := congrArg List.isEmpty h
    rwa [List.isEmpty_map, List.isEmpty_map] at this
  unfold toPostfix
  rw [hempty]
  split
  · rfl
  · refine bimap_bind_congr (Reading.run_unplaced h rfl) fun r r' hr => ?_
    rw [Reading.finish_unplaced, Reading.finish_unplaced, hr]

/-! ## Evaluation -/

def Function.Blind (f : Function) : Prop :=
  ∀ x site site', bimap id Failure.unplaced (f x site) = bimap id Failure.unplaced (f x site')

def Functions.Blind (functions : Functions) : Prop := ∀ name f, functions.find? name = some f → f.Blind

theorem blind_guard {bad : Float → Prop} [DecidablePred bad] {name : String} {why : Float → Rejection}
    {value : Float → Float} :
    Function.Blind fun x site => if bad x then site.fail (.rejected name (why x)) else .ok (value x) := by
  intro x site site'
  simp only
  split <;> rfl

theorem blind_placeless {value : Float → Except Failure Float} : Function.Blind fun x _ => value x :=
  fun _ _ _ => rfl

theorem builtins_blind : Functions.Blind [] := by
  have hall : ∀ f ∈ builtins, Function.Blind f.2 := by
    simp only [builtins, List.forall_mem_cons]
    exact ⟨blind_placeless, blind_placeless, blind_placeless, blind_placeless, blind_guard, blind_guard, blind_guard,
      blind_guard, blind_placeless, blind_placeless, by simp⟩
  exact fun name f hf => hall _ (Entries.mem_of_get? hf)

namespace Scope

variable {bindings : Bindings} {functions : Functions} {stack : List Float}

theorem call_unplaced (hblind : functions.Blind) (name : String) (x : Float) (site site' : Site) :
    bimap id Failure.unplaced (functions.call name x site) =
      bimap id Failure.unplaced (functions.call name x site') := by
  unfold Functions.call
  split
  · rename_i f hf
    exact hblind name f hf x site site'
  · rfl

theorem lookup_unplaced (htext : t.text = t'.text) :
    bimap id Failure.unplaced (lookup ⟨bindings, functions, source⟩ t) =
      bimap id Failure.unplaced (lookup ⟨bindings, functions, source'⟩ t') := by
  simp only [lookup, htext]
  split
  · rfl
  · split <;> rfl

theorem apply_unplaced (hkind : t.kind = t'.kind) (htext : t.text = t'.text) (x y : Float) :
    bimap id Failure.unplaced (apply ⟨bindings, functions, source⟩ t x y) =
      bimap id Failure.unplaced (apply ⟨bindings, functions, source'⟩ t' x y) := by
  simp only [apply, hkind, htext]
  split
  case h_4 | h_5 | h_6 => split <;> rfl
  all_goals rfl

theorem push_unplaced {x y : Except Failure Float} (h : bimap id Failure.unplaced x = bimap id Failure.unplaced y)
    (rest : List Float) :
    bimap id Failure.unplaced (do return (← x) :: rest) = bimap id Failure.unplaced (do return (← y) :: rest) := by
  refine bimap_bind_congr h fun a b hab => ?_
  rw [show a = b from hab]

/-- Steps on the same words agree. -/
theorem step_unplaced (hblind : functions.Blind) (ht : t.unplaced = t'.unplaced) (stack : List Float) :
    bimap id Failure.unplaced (step ⟨bindings, functions, source⟩ stack t) =
      bimap id Failure.unplaced (step ⟨bindings, functions, source'⟩ stack t') := by
  obtain ⟨hkind, htext⟩ := Token.unplaced_inj.mp ht
  cases hk : t'.kind with
  | number =>
    simp only [step, hkind, hk, numeral, htext]
  | name =>
    simp only [step, hkind, hk]
    exact push_unplaced (lookup_unplaced htext) stack
  | negate =>
    simp only [step, hkind, hk, htext]
    cases stack <;> rfl
  | function =>
    simp only [step, hkind, hk, htext]
    cases stack with
    | nil => rfl
    | cons x rest => exact push_unplaced (call_unplaced hblind t'.text x _ _) rest
  | plus | minus | star | slash | percent | caret | opening | closing =>
    simp only [step, hkind, hk, htext]
    rcases stack with _ | ⟨y, _ | ⟨x, rest⟩⟩
    · rfl
    · rfl
    · exact push_unplaced (apply_unplaced hkind htext x y) rest

theorem run_unplaced (hblind : functions.Blind) (h : tokens.map Token.unplaced = tokens'.map Token.unplaced)
    (stack : List Float) :
    bimap id Failure.unplaced (tokens.foldlM (step ⟨bindings, functions, source⟩) stack) =
      bimap id Failure.unplaced (tokens'.foldlM (step ⟨bindings, functions, source'⟩) stack) := by
  induction tokens generalizing tokens' stack with
  | nil =>
    obtain rfl := List.map_eq_nil_iff.mp h.symm
    rfl
  | cons t rest ih =>
    cases tokens' with
    | nil => cases h
    | cons t' rest' =>
      obtain ⟨ht, hrest⟩ := List.cons.inj h
      rw [List.foldlM_cons, List.foldlM_cons]
      refine bimap_bind_congr (step_unplaced hblind ht stack) fun a b hab => ?_
      rw [show a = b from hab]
      exact ih hrest b

/-- The same words in postfix order have the same value, or the same failure. -/
theorem evaluatePostfix_unplaced (hblind : functions.Blind)
    (h : tokens.map Token.unplaced = tokens'.map Token.unplaced) :
    bimap id Failure.unplaced (evaluatePostfix ⟨bindings, functions, source⟩ tokens) =
      bimap id Failure.unplaced (evaluatePostfix ⟨bindings, functions, source'⟩ tokens') := by
  refine bimap_bind_congr (run_unplaced hblind h []) fun a b hab => ?_
  rw [show a = b from hab]
  unfold result
  split
  · split <;> rfl
  · rfl

end Scope

/-- Texts with the same words in postfix order, or the same cause for none, have the same value or failure. -/
theorem evaluate_unplaced {functions : Functions} (hblind : functions.Blind)
    (h : bimap (List.map Token.unplaced) FormulaError.unplaced (parse source limits) =
      bimap (List.map Token.unplaced) FormulaError.unplaced (parse source' limits)) (bindings : Bindings) :
    bimap id Failure.unplaced (evaluate source bindings limits functions) =
      bimap id Failure.unplaced (evaluate source' bindings limits functions) := by
  unfold evaluate
  cases hp : parse source limits with
  | error e =>
    cases hp' : parse source' limits with
    | error e' =>
      rw [hp, hp'] at h
      exact congrArg (fun e => Except.error (Failure.formula e)) (Except.error.inj h)
    | ok output' => rw [hp, hp'] at h; cases h
  | ok output =>
    cases hp' : parse source' limits with
    | error e' => rw [hp, hp'] at h; cases h
    | ok output' =>
      rw [hp, hp'] at h
      exact Scope.evaluatePostfix_unplaced hblind (Except.ok.inj h)

end Formula

end Formwork
