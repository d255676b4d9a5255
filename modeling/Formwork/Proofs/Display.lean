/-
  Formwork.Proofs.Display: which values have a text.

  A value is written with all the integers in it, and an integer of too many digits is not
  written. So the only error of a value is that of an integer, and it has that error when such
  an integer stands anywhere in it, as a key or as a member too.

  - `Value.display_eq_error_iff`: a value without a text holds an integer that is too long.
-/

import Formwork.Proofs.Bind
import Formwork.Value

namespace Formwork

variable {e : NumericError}

/-! ## Scalars -/

namespace Scalar

variable {s : Scalar}

def IsTooLong (s : Scalar) : Prop := ∃ n, s = .int n ∧ Nat.pow 10 NumericError.digitLimit ≤ n.natAbs

theorem isTooLong_int {n : Int} : (Scalar.int n).IsTooLong ↔ Nat.pow 10 NumericError.digitLimit ≤ n.natAbs := by
  constructor
  · rintro ⟨_, h, hlong⟩
    cases h
    exact hlong
  · exact fun hlong => ⟨n, rfl, hlong⟩

theorem display_eq_error_iff : s.display = .error e ↔ e = .integerTooLong ∧ s.IsTooLong := by
  cases s with
  | int n =>
    rw [isTooLong_int, display]
    split
    · next h => rw [and_iff_left h, Except.error.injEq, eq_comm]
    · next h => exact iff_of_false (by simp) fun hlong => h hlong.2
  | _ => exact iff_of_false (by simp [display]) (by simp [IsTooLong])

theorem literal_eq_error_iff : s.literal = .error e ↔ e = .integerTooLong ∧ s.IsTooLong := by
  cases s with
  | text | broken | date | time => exact iff_of_false (by simp [literal]) (by simp [IsTooLong])
  | _ => rw [literal, display_eq_error_iff] <;> nofun

end Scalar

/-! ## Values -/

namespace Value

/-- Some scalar anywhere in the value has the property. -/
inductive Holds (P : Scalar → Prop) : Value → Prop
  | scalar {s : Scalar} : P s → Holds P (.scalar s)
  | item {items : List Value} {v : Value} : v ∈ items → Holds P v → Holds P (.list items)
  | key {entries : List (Scalar × Value)} {entry : Scalar × Value} :
      entry ∈ entries → P entry.1 → Holds P (.map entries)
  | value {entries : List (Scalar × Value)} {entry : Scalar × Value} :
      entry ∈ entries → Holds P entry.2 → Holds P (.map entries)
  | member {members : List Scalar} {s : Scalar} : s ∈ members → P s → Holds P (.set members)

variable {P : Scalar → Prop} {s : Scalar} {items : List Value} {entries : List (Scalar × Value)}
  {members : List Scalar} {v : Value}

theorem holds_scalar : Holds P (.scalar s) ↔ P s := by
  constructor
  · rintro ⟨h⟩
    assumption
  · exact .scalar

theorem holds_list : Holds P (.list items) ↔ ∃ v ∈ items, v.Holds P := by
  constructor
  · intro h
    cases h with
    | item hv h => exact ⟨_, hv, h⟩
  · rintro ⟨v, hv, h⟩
    exact .item hv h

theorem holds_map : Holds P (.map entries) ↔ ∃ entry ∈ entries, P entry.1 ∨ entry.2.Holds P := by
  constructor
  · intro h
    cases h with
    | key hentry h => exact ⟨_, hentry, Or.inl h⟩
    | value hentry h => exact ⟨_, hentry, Or.inr h⟩
  · rintro ⟨entry, hentry, h | h⟩
    · exact .key hentry h
    · exact .value hentry h

theorem holds_set : Holds P (.set members) ↔ ∃ s ∈ members, P s := by
  constructor
  · intro h
    cases h with
    | member hs h => exact ⟨_, hs, h⟩
  · rintro ⟨s, hs, h⟩
    exact .member hs h

mutual

theorem literal_eq_error_iff (e : NumericError) : (v : Value) →
    (v.literal = .error e ↔ e = .integerTooLong ∧ v.Holds Scalar.IsTooLong)
  | .scalar s => by rw [holds_scalar, literal, Scalar.literal_eq_error_iff]
  | .list items => by
    rw [holds_list, ← literalItems_eq_error_iff e items, literal, bind_eq_error]
    exact or_iff_left (by simp [pure, Except.pure])
  | .map entries => by
    rw [holds_map, ← literalEntries_eq_error_iff e entries, literal, bind_eq_error]
    exact or_iff_left (by simp [pure, Except.pure])
  | .set [] => iff_of_false (by simp [literal]) (by simp [holds_set])
  | .set (s :: members) => by
    rw [holds_set, ← mapM_eq_error_iff fun _ _ _ => Scalar.literal_eq_error_iff, literal, bind_eq_error]
    · exact or_iff_left (by simp [pure, Except.pure])
    · exact List.cons_ne_nil s members
  | .endless => iff_of_false (by simp [literal]) (by rintro ⟨-, ⟨⟩⟩)

theorem literalItems_eq_error_iff (e : NumericError) : (items : List Value) →
    (literalItems items = .error e ↔ e = .integerTooLong ∧ ∃ v ∈ items, v.Holds Scalar.IsTooLong)
  | [] => iff_of_false (by simp [literalItems]) (by simp)
  | v :: rest => by
    simp only [List.mem_cons, exists_eq_or_imp]
    exact bind_pure_eq_error_iff (literal_eq_error_iff · v) (literalItems_eq_error_iff · rest)

theorem literalEntries_eq_error_iff (e : NumericError) : (entries : List (Scalar × Value)) →
    (literalEntries entries = .error e ↔
      e = .integerTooLong ∧ ∃ entry ∈ entries, entry.1.IsTooLong ∨ entry.2.Holds Scalar.IsTooLong)
  | [] => iff_of_false (by simp [literalEntries]) (by simp)
  | (k, v) :: rest => by
    have hentry : ∀ e, (do return (← k.literal) ++ ": " ++ (← v.literal)) = .error e ↔
        e = .integerTooLong ∧ (k.IsTooLong ∨ v.Holds Scalar.IsTooLong) := fun _ =>
      bind_pure_eq_error_iff (fun _ => Scalar.literal_eq_error_iff) (literal_eq_error_iff · v)
    simp only [List.mem_cons, exists_eq_or_imp]
    rw [← bind_pure_eq_error_iff (f := List.cons) hentry (literalEntries_eq_error_iff · rest), literalEntries]
    simp only [bind_assoc, pure_bind]

end

theorem display_eq_error_iff : v.display = .error e ↔ e = .integerTooLong ∧ v.Holds Scalar.IsTooLong := by
  cases v with
  | scalar s => rw [holds_scalar, display, Scalar.display_eq_error_iff]
  | _ =>
    rw [display, literal_eq_error_iff]
    nofun

end Value

end Formwork
