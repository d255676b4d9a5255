/-
  Formwork.Proofs.Pattern.Matching: what the matcher finds.

  The matcher tries one way after another until what follows succeeds. Whether it succeeds does not
  depend on the order: there is a match when the text ahead begins with something that the node
  takes and what follows succeeds behind it. So a repetition of one set succeeds when it does with
  some run of characters of the set of an allowed length, however much is given back on the way.

  - `isSome_iterate`: the loop of a repetition, from one round to the next.
  - `isSome_run_repeated_one`: a greedy repetition of one set.
  - `Reads`: what a row of nodes has to have ahead, put together node by node; `startsIn_iff` for a whole text.
-/

import Formwork.Pattern.Matching

namespace Formwork.Pattern

variable {text : Array Char} {set : CharSet} {before ahead : List Char} {least count fuel : Nat}
  {most last : Option Nat} {groups : List (Nat × Nat × Nat)} {k : Continuation}

/-- The text ahead begins with characters of a set, in a number with `p`, and what follows succeeds behind them. -/
def Takes (set : CharSet) (p : Nat → Prop) (groups : List (Nat × Nat × Nat)) (k : Continuation)
    (before ahead : List Char) : Prop :=
  ∃ taken rest, ahead = taken ++ rest ∧ p taken.length ∧ (∀ c ∈ taken, set.has c = true) ∧
    (k ⟨(before ++ taken).length, groups⟩).isSome = true

/-- Nothing is taken, or one character and then more. -/
theorem takes_iff {p : Nat → Prop} : Takes set p groups k before ahead ↔
    (p 0 ∧ (k ⟨before.length, groups⟩).isSome = true) ∨
      ∃ c rest, ahead = c :: rest ∧ set.has c = true ∧
        Takes set (fun n => p (n + 1)) groups k (before ++ [c]) rest := by
  constructor
  · rintro ⟨_ | ⟨c, taken⟩, rest, rfl, hp, hset, hk⟩
    · rw [List.append_nil] at hk
      exact Or.inl ⟨hp, hk⟩
    · obtain ⟨hc, htaken⟩ := List.forall_mem_cons.mp hset
      refine Or.inr ⟨c, taken ++ rest, rfl, hc, taken, rest, rfl, hp, htaken, ?_⟩
      rwa [List.append_assoc, List.singleton_append]
  · rintro (⟨hp, hk⟩ | ⟨c, rest, rfl, hc, taken, rest, rfl, hp, hset, hk⟩)
    · exact ⟨[], ahead, rfl, hp, by simp, by rwa [List.append_nil]⟩
    · refine ⟨c :: taken, rest, rfl, hp, List.forall_mem_cons.mpr ⟨hc, hset⟩, ?_⟩
      rwa [List.append_assoc, List.singleton_append] at hk

/-! ## Single nodes -/

theorem isSome_orElse {α : Type} {x : Option α} {y : Unit → Option α} :
    (x.orElse y).isSome = true ↔ x.isSome = true ∨ (y ()).isSome = true := by
  cases x with
  | none => exact (or_iff_right Bool.false_ne_true).symm
  | some a => exact iff_of_true rfl (Or.inl rfl)

theorem isSome_run_place {p : Place} {s : Spot} :
    ((Node.place p).run text s k).isSome = true ↔ p.holds text s.position = true ∧ (k s).isSome = true := by
  rw [Node.run]
  split <;> simp_all

theorem getElem?_ahead (htext : text = (before ++ ahead).toArray) : text[before.length]? = ahead.head? := by
  rw [htext, List.getElem?_toArray, List.getElem?_append_right (Nat.le_refl _), Nat.sub_self, List.head?_eq_getElem?]

/-- One character of a set. -/
theorem isSome_run_one (htext : text = (before ++ ahead).toArray) :
    ((Node.one set).run text ⟨before.length, groups⟩ k).isSome = true ↔
      ∃ c rest, ahead = c :: rest ∧ set.has c = true ∧ (k ⟨(before ++ [c]).length, groups⟩).isSome = true := by
  rw [Node.run, getElem?_ahead htext]
  simp only [List.length_append, List.length_singleton]
  cases ahead with
  | nil => simp
  | cons c rest =>
    rw [List.head?_cons, Option.any_some]
    split
    · rename_i hc
      simp [hc]
    · rename_i hc
      simp [hc]

/-! ## Repetitions -/

/-- The loop of a greedy repetition, with `count` characters taken so far, succeeds when it does with some
run of the set that makes the number of all characters an allowed one. -/
theorem isSome_iterate (htext : text = (before ++ ahead).toArray) (hfuel : ahead.length < fuel)
    (hlast : ∀ p, last = some p → p < before.length) (hcount : ∀ m, most = some m → least ≤ m ∧ count ≤ m) :
    (iterate ((Node.one set).run text) true least most fuel count last ⟨before.length, groups⟩ k).isSome = true ↔
      Takes set (fun n => least ≤ count + n ∧ ∀ m, most = some m → count + n ≤ m) groups k before ahead := by
  induction fuel generalizing before ahead count last with
  | zero => exact absurd hfuel (Nat.not_lt_zero _)
  | succ fuel ih =>
    -- one more character, as both phases of the loop take it
    have hmore : ∀ last', (∀ p, last' = some p → p < before.length + 1) →
        (∀ m, most = some m → count + 1 ≤ m) →
        (((Node.one set).run text ⟨before.length, groups⟩ fun t =>
            iterate ((Node.one set).run text) true least most fuel (count + 1) last' t k).isSome = true ↔
          ∃ c rest, ahead = c :: rest ∧ set.has c = true ∧
            Takes set (fun n => least ≤ count + (n + 1) ∧ ∀ m, most = some m → count + (n + 1) ≤ m) groups k
              (before ++ [c]) rest) := by
      intro last' hlast' hroom
      rw [isSome_run_one htext]
      refine exists_congr fun c => exists_congr fun rest => and_congr_right fun hahead => and_congr_right fun _ => ?_
      subst hahead
      have hnext := @ih (before ++ [c]) rest (count + 1) last' (by simp [htext]) (by simpa using hfuel)
        (by simpa using hlast') fun m hm => ⟨(hcount m hm).1, hroom m hm⟩
      rw [hnext]
      simp only [Nat.add_assoc, Nat.add_comm 1]
    rw [iterate, takes_iff]
    split
    · rename_i hleast
      rw [hmore last (fun p hp => Nat.lt_succ_of_lt (hlast p hp)) fun m hm => Nat.lt_of_lt_of_le hleast (hcount m hm).1]
      refine (or_iff_right ?_).symm
      rintro ⟨⟨h, -⟩, -⟩
      omega
    · rename_i hleast
      have hstop : (least ≤ count + 0 ∧ ∀ m, most = some m → count + 0 ≤ m) ↔ True :=
        iff_true_intro ⟨by omega, fun m hm => (hcount m hm).2⟩
      have hmoved : (last == some before.length) = false := by
        rw [beq_eq_false_iff_ne]
        exact fun heq => Nat.lt_irrefl _ (hlast _ heq)
      rw [hstop, true_and, if_pos rfl, isSome_orElse, or_comm]
      refine or_congr_right ?_
      rw [hmoved, Bool.or_false]
      by_cases hfull : ∃ m, most = some m ∧ m ≤ count
      · obtain ⟨m, rfl, hm⟩ := hfull
        rw [if_pos (by simpa using hm)]
        refine iff_of_false (by simp) ?_
        rintro ⟨c, rest, -, -, taken, rest', -, ⟨-, hroom⟩, -⟩
        have := hroom m rfl
        omega
      · have hroom : ∀ m, most = some m → count + 1 ≤ m := fun m hm =>
          Nat.lt_of_not_le fun hle => hfull ⟨m, hm, hle⟩
        have hopen : most.any (· ≤ count) = false := by
          cases most with
          | none => rfl
          | some m => exact decide_eq_false (Nat.not_le.mpr (hroom m rfl))
        rw [hopen, if_neg Bool.false_ne_true]
        exact hmore _ (fun p hp => by cases hp; exact Nat.lt_succ_self _) hroom

/-- A greedy repetition of a set succeeds with any run of it of an allowed length behind which the rest succeeds. -/
theorem isSome_run_repeated_one (htext : text = (before ++ ahead).toArray) (hmost : ∀ m, most = some m → least ≤ m) :
    ((Node.repeated .greedy least most (.one set)).run text ⟨before.length, groups⟩ k).isSome = true ↔
      Takes set (fun n => least ≤ n ∧ ∀ m, most = some m → n ≤ m) groups k before ahead := by
  have hsize : ahead.length < least + (text.size - before.length) + 2 := by
    simp only [htext, List.size_toArray, List.length_append]
    omega
  rw [Node.run]
  simp only
  rw [isSome_iterate htext hsize (by simp) fun m hm => ⟨hmost m hm, Nat.zero_le m⟩]
  simp only [Nat.zero_add]

/-! ## Rows of nodes -/

/-- Nodes in a row match exactly where the text ahead has `p`. -/
def Reads (nodes : List Node) (p : List Char → Prop) : Prop :=
  ∀ before ahead, ((Node.ofList nodes).run (before ++ ahead).toArray ⟨before.length, []⟩ some).isSome = true ↔ p ahead

variable {nodes : List Node} {p : List Char → Prop}

theorem run_ofList_cons (n : Node) (s : Spot) :
    (Node.ofList (n :: nodes)).run text s k = n.run text s fun t => (Node.ofList nodes).run text t k := rfl

theorem reads_one (set : CharSet) (h : Reads nodes p) :
    Reads (.one set :: nodes) fun ahead => ∃ c rest, ahead = c :: rest ∧ set.has c = true ∧ p rest := by
  intro before ahead
  rw [run_ofList_cons, isSome_run_one rfl]
  refine exists_congr fun c => exists_congr fun rest => and_congr_right fun hahead => and_congr_right fun _ => ?_
  rw [hahead, ← h (before ++ [c]) rest, List.append_assoc, List.singleton_append]

theorem reads_repeated (set : CharSet) (least : Nat) (most : Option Nat) (hmost : ∀ m, most = some m → least ≤ m)
    (h : Reads nodes p) :
    Reads (.repeated .greedy least most (.one set) :: nodes) fun ahead => ∃ taken rest, ahead = taken ++ rest ∧
      (least ≤ taken.length ∧ ∀ m, most = some m → taken.length ≤ m) ∧ (∀ c ∈ taken, set.has c = true) ∧ p rest := by
  intro before ahead
  rw [run_ofList_cons, isSome_run_repeated_one rfl hmost]
  refine exists_congr fun taken => exists_congr fun rest => and_congr_right fun hahead => and_congr_right fun _ =>
    and_congr_right fun _ => ?_
  rw [hahead, ← h (before ++ taken) rest, List.append_assoc]

/-- The end of the text, or a line feed before it. -/
theorem reads_lineEnd : Reads [.place (.lineEnd false)] fun ahead => ahead = [] ∨ ahead = ['\n'] := by
  intro before ahead
  rw [run_ofList_cons, isSome_run_place, and_iff_left (by rfl), Place.holds, getElem?_ahead rfl]
  rcases ahead with _ | ⟨c, _ | ⟨d, rest⟩⟩ <;> simp

theorem startsIn_iff {s : String} (h : Reads nodes p) :
    (Node.ofList (.place (.lineStart false) :: nodes)).startsIn s = true ↔ p s.toList := by
  rw [Node.startsIn, run_ofList_cons, isSome_run_place, and_iff_right (by rfl)]
  exact h [] s.toList

end Formwork.Pattern
