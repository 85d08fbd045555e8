import Mathlib.Data.List.Basic

/-!
# Tables searched for their first suitable slot

A C table of fixed size is a list whose length never changes.  The usual loop
over it looks for the first slot that passes a test, changes that slot and
leaves the loop.
-/

namespace RainTyping

variable {α : Type u}

/-- Change the first slot that passes the test; `none` when there is none. -/
def updateFirst (test : α → Bool) (update : α → α) : List α → Option (List α)
  | [] => none
  | slot :: slots =>
      if test slot then some (update slot :: slots)
      else (updateFirst test update slots).map fun updated => slot :: updated

variable {test : α → Bool} {update : α → α} {slots updated : List α}

theorem updateFirst_eq_none_iff :
    updateFirst test update slots = none ↔
      ∀ slot ∈ slots, test slot = false := by
  induction slots with
  | nil => simp [updateFirst]
  | cons slot slots induction =>
      cases passes : test slot <;>
        simp [updateFirst, passes, induction]

/-- The changed slot stands behind slots that failed the test. -/
theorem updateFirst_eq_some
    (found : updateFirst test update slots = some updated) :
    ∃ before slot after,
      slots = before ++ slot :: after ∧
        updated = before ++ update slot :: after ∧
        (∀ other ∈ before, test other = false) ∧ test slot = true := by
  induction slots generalizing updated with
  | nil => cases found
  | cons slot slots induction =>
      cases passes : test slot with
      | true =>
          simp only [updateFirst, passes, ↓reduceIte,
            Option.some.injEq] at found
          exact ⟨[], slot, slots, rfl, found.symm, by simp, passes⟩
      | false =>
          simp only [updateFirst, passes, Bool.false_eq_true, ↓reduceIte,
            Option.map_eq_some_iff] at found
          obtain ⟨rest, restFound, rfl⟩ := found
          obtain ⟨before, target, after, rfl, rfl, failed, chosen⟩ :=
            induction restFound
          refine ⟨slot :: before, target, after, rfl, rfl, ?_, chosen⟩
          intro other member
          rcases List.mem_cons.mp member with rfl | later
          · exact passes
          · exact failed other later

theorem length_of_updateFirst
    (found : updateFirst test update slots = some updated) :
    updated.length = slots.length := by
  obtain ⟨before, slot, after, rfl, rfl, _⟩ := updateFirst_eq_some found
  simp

/-- A slot that fails the test keeps its place and its content. -/
theorem getElem?_of_updateFirst
    {slot : α} {index : Nat}
    (found : updateFirst test update slots = some updated)
    (present : slots[index]? = some slot) (fails : test slot = false) :
    updated[index]? = some slot := by
  induction slots generalizing updated index with
  | nil => cases found
  | cons first slots induction =>
      cases passes : test first with
      | true =>
          simp only [updateFirst, passes, ↓reduceIte,
            Option.some.injEq] at found
          subst updated
          cases index with
          | zero =>
              rw [List.getElem?_cons_zero, Option.some.injEq] at present
              rw [present, fails] at passes
              cases passes
          | succ index => exact present
      | false =>
          simp only [updateFirst, passes, Bool.false_eq_true, ↓reduceIte,
            Option.map_eq_some_iff] at found
          obtain ⟨rest, restFound, rfl⟩ := found
          cases index with
          | zero => exact present
          | succ index =>
              rw [List.getElem?_cons_succ] at present ⊢
              exact induction restFound present

end RainTyping
