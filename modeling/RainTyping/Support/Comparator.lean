import Mathlib.Data.List.Sort

/-!
# Comparators, `qsort` and the first element of each group

A C comparator orders two elements by the sign of its result.  `QSort` is any
sorting routine that returns a sorted permutation whenever its comparator is
consistent; it need not be stable.  In a list sorted by a key, the elements of
one key stand together, and `firstOfEach` keeps the first of every group.
-/

namespace RainTyping

/-- The comparator describes a total preorder by its sign. -/
structure Consistent {α : Type} (compare : α → α → Int) : Prop where
  swap : ∀ left right, 0 < compare left right ↔ compare right left < 0
  trans : ∀ first second third, compare first second ≤ 0 →
    compare second third ≤ 0 → compare first third ≤ 0

theorem Consistent.total
    {α : Type} {compare : α → α → Int} (consistent : Consistent compare)
    (left right : α) : compare left right ≤ 0 ∨ compare right left ≤ 0 := by
  by_cases ordered : compare left right ≤ 0
  · exact .inl ordered
  · have positive : 0 < compare left right := Int.not_le.mp ordered
    exact .inr (Int.le_of_lt ((consistent.swap left right).mp positive))

/-- A correct sorting routine that takes a comparator. -/
structure QSort where
  sort : {α : Type} → (α → α → Int) → List α → List α
  perm : ∀ {α : Type} (compare : α → α → Int) (items : List α),
    Consistent compare → (sort compare items).Perm items
  sorted : ∀ {α : Type} (compare : α → α → Int) (items : List α),
    Consistent compare →
      (sort compare items).Pairwise fun first second =>
        compare first second ≤ 0

namespace QSort

/-- Insertion sort is such a routine. -/
def insertion : QSort where
  sort compare items :=
    items.insertionSort fun first second => compare first second ≤ 0
  perm _ items _ := List.perm_insertionSort _ items
  sorted compare items consistent := by
    have : Std.Total fun first second => compare first second ≤ 0 :=
      ⟨consistent.total⟩
    have : IsTrans _ fun first second => compare first second ≤ 0 :=
      ⟨consistent.trans⟩
    exact List.pairwise_insertionSort _ items

theorem mem_sort
    (qsort : QSort) {α : Type} {compare : α → α → Int}
    (consistent : Consistent compare) {items : List α} {item : α} :
    item ∈ qsort.sort compare items ↔ item ∈ items :=
  (qsort.perm compare items consistent).mem_iff

end QSort

section Groups

variable {α : Type u} {κ : Type v} [LinearOrder κ] (key : α → κ)

/-- Keep every element whose key differs from the key kept last. -/
def firstOfEach (last : κ) : List α → List α
  | [] => []
  | item :: items =>
      if key item = last then firstOfEach last items
      else item :: firstOfEach (key item) items

variable {key} {last : κ} {items : List α}

theorem firstOfEach_sublist : (firstOfEach key last items).Sublist items := by
  induction items generalizing last with
  | nil => exact List.Sublist.refl _
  | cons item items induction =>
      by_cases same : key item = last
      · rw [firstOfEach, if_pos same]
        exact induction.cons item
      · rw [firstOfEach, if_neg same]
        exact induction.cons_cons item

theorem exists_mem_firstOfEach
    {item : α} (member : item ∈ items) (different : key item ≠ last) :
    ∃ first ∈ firstOfEach key last items, key first = key item := by
  induction items generalizing last with
  | nil => cases member
  | cons head items induction =>
      by_cases skipped : key head = last
      · rw [firstOfEach, if_pos skipped]
        rcases List.mem_cons.mp member with rfl | later
        · exact absurd skipped different
        · exact induction later different
      · rw [firstOfEach, if_neg skipped]
        by_cases same : key item = key head
        · exact ⟨head, List.mem_cons_self, same.symm⟩
        · rcases List.mem_cons.mp member with rfl | later
          · exact absurd rfl same
          · obtain ⟨first, firstMember, firstSame⟩ := induction later same
            exact ⟨first, List.mem_cons_of_mem _ firstMember, firstSame⟩

private theorem lower_of_sorted
    {head : α}
    (sorted : (head :: items).Pairwise fun first second =>
      key first ≤ key second) :
    ∀ item ∈ items, key head ≤ key item :=
  (List.pairwise_cons.mp sorted).1

/-- The kept keys increase strictly, starting above the last key. -/
theorem firstOfEach_increasing
    (sorted : items.Pairwise fun first second => key first ≤ key second)
    (above : ∀ item ∈ items, last ≤ key item) :
    (firstOfEach key last items).Pairwise
        (fun first second => key first < key second) ∧
      ∀ item ∈ firstOfEach key last items, last < key item := by
  induction items generalizing last with
  | nil =>
      refine ⟨List.Pairwise.nil, ?_⟩
      intro item member
      cases member
  | cons head items induction =>
      have tailSorted := (List.pairwise_cons.mp sorted).2
      by_cases same : key head = last
      · rw [firstOfEach, if_pos same]
        apply induction tailSorted
        intro item member
        exact above item (List.mem_cons_of_mem _ member)
      · rw [firstOfEach, if_neg same]
        obtain ⟨increasing, higher⟩ :=
          induction tailSorted (lower_of_sorted sorted)
        have headAbove : last < key head :=
          lt_of_le_of_ne (above head List.mem_cons_self) (Ne.symm same)
        refine ⟨List.pairwise_cons.mpr ⟨higher, increasing⟩, ?_⟩
        intro item member
        rcases List.mem_cons.mp member with rfl | later
        · exact headAbove
        · exact headAbove.trans (higher item later)

/-- A kept element comes first in its group. -/
theorem firstOfEach_first
    {before : α → α → Prop}
    (sorted : items.Pairwise fun first second => key first ≤ key second)
    (above : ∀ item ∈ items, last ≤ key item)
    (ordered : items.Pairwise before)
    {first item : α} (kept : first ∈ firstOfEach key last items)
    (member : item ∈ items) (same : key item = key first) :
    item = first ∨ before first item := by
  induction items generalizing last with
  | nil => cases member
  | cons head items induction =>
      obtain ⟨headOrdered, tailOrdered⟩ := List.pairwise_cons.mp ordered
      have tailSorted := (List.pairwise_cons.mp sorted).2
      by_cases skipped : key head = last
      · rw [firstOfEach, if_pos skipped] at kept
        have tailAbove : ∀ item ∈ items, last ≤ key item :=
          fun item later => above item (List.mem_cons_of_mem _ later)
        rcases List.mem_cons.mp member with rfl | later
        · have higher := (firstOfEach_increasing tailSorted tailAbove).2
            first kept
          rw [← same, skipped] at higher
          exact absurd higher (lt_irrefl last)
        · exact induction tailSorted tailAbove tailOrdered kept later
      · rw [firstOfEach, if_neg skipped] at kept
        rcases List.mem_cons.mp kept with rfl | keptLater
        · rcases List.mem_cons.mp member with rfl | later
          · exact .inl rfl
          · exact .inr (headOrdered item later)
        · have tailAbove := lower_of_sorted sorted
          rcases List.mem_cons.mp member with rfl | later
          · have higher := (firstOfEach_increasing tailSorted tailAbove).2
              first keptLater
            rw [same] at higher
            exact absurd higher (lt_irrefl (key first))
          · exact induction tailSorted tailAbove tailOrdered keptLater later

/-- In a strictly increasing list an element is among the first ones exactly
when few enough elements are smaller. -/
theorem mem_take_iff_of_increasing
    (increasing : items.Pairwise fun first second => key first < key second)
    {count : Nat} {item : α} :
    item ∈ items.take count ↔
      item ∈ items ∧
        items.countP (fun other => key other < key item) < count := by
  induction items generalizing count with
  | nil => simp
  | cons head items induction =>
      obtain ⟨headLowest, tailIncreasing⟩ := List.pairwise_cons.mp increasing
      cases count with
      | zero => simp
      | succ count =>
          rw [List.take_succ_cons, List.mem_cons, List.mem_cons,
            induction tailIncreasing]
          constructor
          · rintro (rfl | ⟨member, few⟩)
            · refine ⟨.inl rfl, ?_⟩
              have noneSmaller :
                  (item :: items).countP
                    (fun other => decide (key other < key item)) = 0 := by
                rw [List.countP_eq_zero]
                intro other member
                rcases List.mem_cons.mp member with rfl | later
                · simp
                · simpa using (headLowest other later).le
              rw [noneSmaller]
              exact Nat.succ_pos count
            · refine ⟨.inr member, ?_⟩
              have headSmaller := headLowest item member
              rw [List.countP_cons_of_pos (by simpa using headSmaller)]
              exact Nat.succ_lt_succ few
          · rintro ⟨rfl | member, few⟩
            · exact .inl rfl
            · refine .inr ⟨member, ?_⟩
              have headSmaller := headLowest item member
              rw [List.countP_cons_of_pos (by simpa using headSmaller)] at few
              exact Nat.lt_of_succ_lt_succ few

end Groups

end RainTyping
