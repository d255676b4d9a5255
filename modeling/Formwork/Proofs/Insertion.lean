/-
  Formwork.Proofs.Insertion: sorting by insertion sorts.

  The run at the start, turned round when it falls, and the items put in one by one make up the
  items again (`sort_perm`), whatever the order. Where items have keys and the order compares these,
  what comes out rises by key (`sort_rising`): a run rises because each item is compared with the
  one before it, and halving finds a place with no greater key before it and no smaller one behind.
-/

import Formwork.Insertion
import Mathlib

namespace Formwork.Insertion

variable {α κ : Type} {less : α → α → Bool} {items : List α} {sorted : Array α} {x : α} {low high i : ℕ}

/-! ## The same items -/

theorem takeRun_append (goesOn : α → α → Bool) (last : α) (items : List α) :
    (takeRun goesOn last items).1 ++ (takeRun goesOn last items).2 = items := by
  induction items generalizing last with
  | nil => rfl
  | cons x rest ih =>
    unfold takeRun
    split
    · exact congrArg (x :: ·) (ih x)
    · rfl

theorem firstRun_perm (less : α → α → Bool) (items : List α) :
    ((firstRun less items).1 ++ (firstRun less items).2).Perm items := by
  unfold firstRun
  split
  · rename_i a b rest
    split
    · refine ((List.reverse_perm _).append_right _).trans ?_
      exact .of_eq (congrArg (a :: b :: ·) (takeRun_append _ b rest))
    · exact .of_eq (congrArg (a :: b :: ·) (takeRun_append _ b rest))
  · rw [List.append_nil]

theorem place_bounds (less : α → α → Bool) (sorted : Array α) (x : α) (h : low ≤ high) :
    low ≤ place less sorted x low high ∧ place less sorted x low high ≤ high := by
  fun_induction place less sorted x low high with
  | case1 low high hlt middle habove ih =>
    have := ih (by omega)
    omega
  | case2 low high hlt middle habove ih =>
    have := ih (by omega)
    omega
  | case3 low high hge => omega

theorem insertIdx_eq {sorted : List α} (h : i ≤ sorted.length) (x : α) :
    sorted.insertIdx i x = sorted.take i ++ x :: sorted.drop i := by
  induction sorted generalizing i with
  | nil =>
    obtain rfl : i = 0 := Nat.le_zero.mp h
    rfl
  | cons a rest ih =>
    cases i with
    | zero => rfl
    | succ i => exact congrArg (a :: ·) (ih (Nat.le_of_succ_le_succ h))

theorem toList_insertIdxIfInBounds (h : i ≤ sorted.size) (x : α) :
    (sorted.insertIdxIfInBounds i x).toList = sorted.toList.take i ++ x :: sorted.toList.drop i := by
  rw [Array.insertIdxIfInBounds, dif_pos h, Array.toList_insertIdx, insertIdx_eq h]

def insert (less : α → α → Bool) (sorted : Array α) (x : α) : Array α :=
  sorted.insertIdxIfInBounds (place less sorted x 0 sorted.size) x

theorem toList_insert (less : α → α → Bool) (sorted : Array α) (x : α) : (insert less sorted x).toList =
    sorted.toList.take (place less sorted x 0 sorted.size) ++
      x :: sorted.toList.drop (place less sorted x 0 sorted.size) :=
  toList_insertIdxIfInBounds (place_bounds less sorted x (Nat.zero_le _)).2 x

theorem insert_perm (less : α → α → Bool) (sorted : Array α) (x : α) :
    (insert less sorted x).toList.Perm (x :: sorted.toList) := by
  rw [toList_insert]
  refine List.perm_middle.trans (.cons x ?_)
  rw [List.take_append_drop]

theorem foldl_insert_perm (less : α → α → Bool) (rest : List α) (sorted : Array α) :
    (rest.foldl (insert less) sorted).toList.Perm (sorted.toList ++ rest) := by
  induction rest generalizing sorted with
  | nil => rw [List.foldl_nil, List.append_nil]
  | cons x rest ih =>
    refine (ih (insert less sorted x)).trans (((insert_perm less sorted x).append_right rest).trans ?_)
    exact List.perm_middle.symm

theorem sort_eq (less : α → α → Bool) (items : List α) :
    sort less items = ((firstRun less items).2.foldl (insert less) (firstRun less items).1.toArray).toList := rfl

/-- Sorting gives the same items back. -/
theorem sort_perm (less : α → α → Bool) (items : List α) : (sort less items).Perm items := by
  rw [sort_eq]
  exact (foldl_insert_perm less _ _).trans (firstRun_perm less items)

/-! ## Rising keys -/

section Keys

variable [LinearOrder κ] {key : α → κ} {P : α → Prop}

/-- The order compares keys, on the items that have some. -/
def ComparesKeys (less : α → α → Bool) (key : α → κ) (P : α → Prop) : Prop :=
  ∀ a b, P a → P b → (less a b = true ↔ key a < key b)

def Rising (key : α → κ) (items : List α) : Prop := items.Pairwise fun a b => key a ≤ key b

theorem rising_of_isChain (h : items.IsChain fun a b => key a ≤ key b) : Rising key items := by
  have : Trans (fun a b => key a ≤ key b) (fun a b => key a ≤ key b) (fun a b => key a ≤ key b) := ⟨le_trans⟩
  exact List.isChain_iff_pairwise.mp h

theorem takeRun_isChain (goesOn : α → α → Bool) (last : α) (items : List α) :
    (last :: (takeRun goesOn last items).1).IsChain fun a b => goesOn a b = true := by
  induction items generalizing last with
  | nil => exact .singleton _
  | cons x rest ih =>
    unfold takeRun
    split
    · rename_i h
      exact .cons_cons h (ih x)
    · exact .singleton _

/-- The run at the start rises, if need be turned round. -/
theorem firstRun_rising (hless : ComparesKeys less key P) (h : ∀ a ∈ items, P a) :
    Rising key (firstRun less items).1 := by
  have hP : ∀ a ∈ (firstRun less items).1, P a := fun a ha =>
    h a ((firstRun_perm less items).subset (List.mem_append_left _ ha))
  revert hP
  unfold firstRun
  split
  · rename_i a b rest
    split
    · -- a falling run, which is turned round
      rename_i hfirst
      intro hP
      have hchain : (a :: b :: (takeRun (fun x y => less y x) b rest).1).IsChain fun x y => less y x = true :=
        .cons_cons hfirst (takeRun_isChain _ b rest)
      refine rising_of_isChain (List.isChain_reverse.mpr (hchain.imp_of_mem_imp fun x y hx hy hxy => ?_))
      exact ((hless y x (hP y (List.mem_reverse.mpr hy)) (hP x (List.mem_reverse.mpr hx))).mp hxy).le
    · rename_i hfirst
      intro hP
      have hchain : (a :: b :: (takeRun (fun x y => !less y x) b rest).1).IsChain fun x y => (!less y x) = true :=
        .cons_cons (by simpa using hfirst) (takeRun_isChain _ b rest)
      refine rising_of_isChain (hchain.imp_of_mem_imp fun x y hx hy hxy => ?_)
      rw [Bool.not_eq_true', ← Bool.not_eq_true, hless y x (hP y hy) (hP x hx)] at hxy
      exact not_lt.mp hxy
  · rename_i hshort
    intro hP
    match items, hshort with
    | [], _ => exact .nil
    | [a], _ => exact List.pairwise_singleton _ a
    | a :: b :: rest, hshort => exact absurd rfl (hshort a b rest)

/-- No greater key stands before the place and no smaller one behind it. -/
theorem place_spec (hless : ComparesKeys less key P) (hP : ∀ a ∈ sorted.toList, P a) (hx : P x)
    (hrising : Rising key sorted.toList) (hle : low ≤ high) (hsize : high ≤ sorted.size)
    (hlow : ∀ j (hj : j < sorted.size), j < low → key sorted[j] ≤ key x)
    (hhigh : ∀ j (hj : j < sorted.size), high ≤ j → key x ≤ key sorted[j]) :
    ∀ j (hj : j < sorted.size), (j < place less sorted x low high → key sorted[j] ≤ key x) ∧
      (place less sorted x low high ≤ j → key x ≤ key sorted[j]) := by
  have hmono : ∀ i j (hi : i < sorted.size) (hj : j < sorted.size), i ≤ j → key sorted[i] ≤ key sorted[j] := by
    intro i j hi hj hij
    rcases Nat.lt_or_eq_of_le hij with hlt | rfl
    · exact List.pairwise_iff_getElem.mp hrising i j hi hj hlt
    · exact le_rfl
  have hcompare : ∀ j (hj : j < sorted.size), less x sorted[j] = true ↔ key x < key sorted[j] := fun j hj =>
    hless _ _ hx (hP _ (Array.getElem_mem_toList hj))
  fun_induction place less sorted x low high with
  | case1 low high hlt middle habove ih =>
    have hmiddle : middle < sorted.size := by omega
    rw [Array.getElem?_eq_getElem hmiddle, Option.any_some, hcompare] at habove
    refine ih (by omega) (by omega) hlow fun j hj hj' => ?_
    exact habove.le.trans (hmono middle j hmiddle hj hj')
  | case2 low high hlt middle habove ih =>
    have hmiddle : middle < sorted.size := by omega
    rw [Array.getElem?_eq_getElem hmiddle, Option.any_some, hcompare, not_lt] at habove
    refine ih (by omega) (by omega) (fun j hj hj' => ?_) hhigh
    exact (hmono j middle hj hmiddle (by omega)).trans habove
  | case3 low high hge =>
    intro j hj
    exact ⟨hlow j hj, fun hj' => hhigh j hj (by omega)⟩

/-- An item put into its place leaves the keys rising. -/
theorem insert_rising (hless : ComparesKeys less key P) (hP : ∀ a ∈ sorted.toList, P a) (hx : P x)
    (hrising : Rising key sorted.toList) : Rising key (insert less sorted x).toList := by
  have hplace := place_spec hless hP hx hrising (Nat.zero_le _) le_rfl (fun _ _ h => absurd h (Nat.not_lt_zero _))
    fun j hj hj' => absurd hj (Nat.not_lt.mpr hj')
  have hbound := (place_bounds less sorted x (Nat.zero_le sorted.size)).2
  rw [toList_insert]
  generalize place less sorted x 0 sorted.size = i at hplace hbound
  have hbefore : ∀ a ∈ sorted.toList.take i, key a ≤ key x := by
    intro a ha
    obtain ⟨j, hj, rfl⟩ := List.mem_iff_getElem.mp ha
    rw [List.length_take] at hj
    rw [List.getElem_take]
    exact (hplace j (by simp at hj; omega)).1 (by omega)
  have hbehind : ∀ a ∈ sorted.toList.drop i, key x ≤ key a := by
    intro a ha
    obtain ⟨j, hj, rfl⟩ := List.mem_iff_getElem.mp ha
    rw [List.length_drop] at hj
    rw [List.getElem_drop]
    exact (hplace (i + j) (by simp at hj; omega)).2 (by omega)
  refine List.pairwise_append.mpr ⟨hrising.take, List.pairwise_cons.mpr ⟨hbehind, hrising.drop⟩, ?_⟩
  intro a ha b hb
  rcases List.mem_cons.mp hb with rfl | hb
  · exact hbefore a ha
  · exact (hbefore a ha).trans (hbehind b hb)

/-- Putting in one item after the other leaves the keys rising. -/
theorem foldl_insert_rising {rest : List α} (hless : ComparesKeys less key P) (hP : ∀ a ∈ sorted.toList, P a)
    (hrest : ∀ a ∈ rest, P a) (hrising : Rising key sorted.toList) :
    Rising key (rest.foldl (insert less) sorted).toList := by
  induction rest generalizing sorted with
  | nil => exact hrising
  | cons x rest ih =>
    have hx := hrest x (.head _)
    refine ih (fun a ha => ?_) (fun a ha => hrest a (.tail _ ha)) (insert_rising hless hP hx hrising)
    rcases List.mem_cons.mp ((insert_perm less sorted x).subset ha) with rfl | ha
    · exact hx
    · exact hP a ha

/-- Sorting by an order that compares keys puts the items in the order of their keys. -/
theorem sort_rising (hless : ComparesKeys less key P) (h : ∀ a ∈ items, P a) : Rising key (sort less items) := by
  have hmem : ∀ a ∈ (firstRun less items).1 ++ (firstRun less items).2, P a := fun a ha =>
    h a ((firstRun_perm less items).subset ha)
  rw [sort_eq]
  exact foldl_insert_rising hless (fun a ha => hmem a (List.mem_append_left _ ha))
    (fun a ha => hmem a (List.mem_append_right _ ha)) (firstRun_rising hless h)

end Keys

end Formwork.Insertion
