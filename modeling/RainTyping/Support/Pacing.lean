import Mathlib.Data.List.Perm.Subperm

/-!
# Paced loops

A loop looks at the clock again and again and does its work when an interval
has passed since it last did so.  However often it looks, the work done so far
fits between its start and the time it was last done.
-/

namespace RainTyping

namespace Pacing

/-- Is it time again? -/
def due (last interval now : Nat) : Bool :=
  last + interval ≤ now

/-- The work was done that many times from `start` to `last`, with at least
`least` from each time to the next. -/
def Paced (least start last count : Nat) : Prop :=
  start + least * count ≤ last

variable {least interval start last now count : Nat}

theorem due_iff : due last interval now = true ↔ last + interval ≤ now := by
  simp [due]

namespace Paced

theorem begin (started : start ≤ last) : Paced least start last 0 := by
  rw [Paced, Nat.mul_zero, Nat.add_zero]
  exact started

theorem later
    (paced : Paced least start last count) (passed : last ≤ now) :
    Paced least start now count :=
  Nat.le_trans paced passed

theorem again
    (paced : Paced least start last count)
    (slow : least ≤ interval) (isDue : last + interval ≤ now) :
    Paced least start now (count + 1) := by
  unfold Paced at paced ⊢
  rw [Nat.mul_succ]
  omega

theorem mono
    {fewer : Nat} (paced : Paced least start last count)
    (le : fewer ≤ count) : Paced least start last fewer := by
  have less : least * fewer ≤ least * count := Nat.mul_le_mul_left least le
  unfold Paced at paced ⊢
  omega

end Paced

/-- Of some different arrivals one came no earlier than their number says. -/
theorem exists_late {Arrival : Type u} {arrivals chosen : List Arrival}
    (different : chosen.Nodup) (arrived : chosen ⊆ arrivals)
    (nonempty : 0 < chosen.length) :
    ∃ arrival ∈ chosen, ∃ index, arrivals[index]? = some arrival ∧
      chosen.length ≤ index + 1 := by
  let early := arrivals.take (chosen.length - 1)
  have notAllEarly : ¬chosen ⊆ early := by
    intro allEarly
    have fewer := (List.subperm_of_subset different allEarly).length_le
    have bound : early.length ≤ chosen.length - 1 :=
      List.length_take_le _ _
    omega
  obtain ⟨arrival, isChosen, isLate⟩ :
      ∃ arrival, arrival ∈ chosen ∧ arrival ∉ early := by
    simpa [List.subset_def] using notAllEarly
  obtain ⟨index, there⟩ := List.getElem?_of_mem (arrived isChosen)
  refine ⟨arrival, isChosen, index, there, Nat.le_of_not_lt ?_⟩
  intro isEarly
  apply isLate
  have beforeLast : index < chosen.length - 1 := by omega
  apply List.mem_of_getElem? (i := index)
  rw [List.getElem?_take_of_lt beforeLast]
  exact there

end Pacing

end RainTyping
