import Mathlib.Data.Set.Insert
import Mathlib.Logic.Function.Basic

/-!
# An index of what slots show

Slots show values, and an index stores the values that are shown, so that
nobody has to search the slots.  A slot and the index are not changed at once:
in between the entry of one value is out of date, and `Pending` names it.
-/

namespace RainTyping

/-- The value whose entry is brought up to date; one that is entered is shown
in the given slot. -/
inductive Pending (ι : Type u) (α : Type v) where
  | settled
  | erasing (value : α)
  | entering (slot : ι) (value : α)
  deriving DecidableEq

structure SlotIndex (ι : Type u) (α : Type v) where
  shown : ι → Option α
  stored : Set α
  pending : Pending ι α

namespace SlotIndex

variable {ι : Type u} {α : Type v}

def Shows (index : SlotIndex ι α) (value : α) : Prop :=
  ∃ slot, index.shown slot = some value

/-- No value is shown twice, and the index stores the shown values but for the
one whose entry is pending. -/
structure Coherent (index : SlotIndex ι α) : Prop where
  distinct : ∀ slot other value, index.shown slot = some value →
    index.shown other = some value → slot = other
  mirrors : ∀ value, index.pending ≠ .erasing value →
    (∀ slot, index.pending ≠ .entering slot value) →
      (value ∈ index.stored ↔ index.Shows value)
  erasing : ∀ value, index.pending = .erasing value → ¬index.Shows value
  entering : ∀ slot value, index.pending = .entering slot value →
    index.shown slot = some value

variable [DecidableEq ι]

/-- One change of a slot or of the index. -/
inductive Step (index : SlotIndex ι α) : SlotIndex ι α → Prop where
  | withdraw (slot value)
      (settled : index.pending = .settled)
      (shows : index.shown slot = some value) :
      Step index
        { index with
          shown := Function.update index.shown slot none
          pending := .erasing value }
  /-- The entry of a value that no slot shows is erased anyway. -/
  | discard (value)
      (settled : index.pending = .settled)
      (gone : ¬index.Shows value) :
      Step index { index with pending := .erasing value }
  | erase (value)
      (erasing : index.pending = .erasing value) :
      Step index
        { index with
          stored := index.stored \ {value}
          pending := .settled }
  | put (slot value)
      (settled : index.pending = .settled)
      (blank : index.shown slot = none)
      (fresh : value ∉ index.stored) :
      Step index
        { index with
          shown := Function.update index.shown slot (some value)
          pending := .entering slot value }
  | enter (slot value)
      (entering : index.pending = .entering slot value) :
      Step index { index with stored := insert value index.stored }
  | confirm (slot value)
      (entering : index.pending = .entering slot value)
      (present : value ∈ index.stored) :
      Step index { index with pending := .settled }
  /-- A value that was put is withdrawn at once. -/
  | retract (slot value)
      (entering : index.pending = .entering slot value) :
      Step index
        { index with
          shown := Function.update index.shown slot none
          pending := .erasing value }

variable {index next : SlotIndex ι α} {slot : ι} {value other : α}

section Settled

omit [DecidableEq ι]

theorem Coherent.mirrors_of_settled
    (coherent : index.Coherent) (settled : index.pending = .settled) :
    value ∈ index.stored ↔ index.Shows value := by
  apply coherent.mirrors
  · rw [settled]
    exact nofun
  · intro slot
    rw [settled]
    exact nofun

theorem Coherent.mirrors_of_entering
    (coherent : index.Coherent)
    (entering : index.pending = .entering slot value)
    (differs : other ≠ value) :
    other ∈ index.stored ↔ index.Shows other := by
  apply coherent.mirrors
  · rw [entering]
    exact nofun
  · rw [entering]
    intro place equal
    exact differs (Pending.entering.inj equal).2.symm

/-- An index without a pending entry. -/
theorem coherent_of_settled
    (distinct : ∀ slot other value, index.shown slot = some value →
      index.shown other = some value → slot = other)
    (mirrors : ∀ value, value ∈ index.stored ↔ index.Shows value)
    (settled : index.pending = .settled) : index.Coherent := by
  constructor
  case distinct => exact distinct
  case mirrors => exact fun value _ _ => mirrors value
  case erasing =>
      rw [settled]
      exact fun value => nofun
  case entering =>
      rw [settled]
      exact fun slot value => nofun

end Settled

/-! ## Changes of a slot -/

section Blank

variable (coherent : index.Coherent) (shows : index.shown slot = some value)

include coherent shows

private theorem shows_of_blanked {stored : Set α} {pending : Pending ι α} :
    Shows ⟨Function.update index.shown slot none, stored, pending⟩ other ↔
      index.Shows other ∧ other ≠ value := by
  constructor
  · rintro ⟨place, there⟩
    simp only [Function.update_apply] at there
    split at there
    · cases there
    · rename_i elsewhere
      refine ⟨⟨place, there⟩, ?_⟩
      rintro rfl
      exact elsewhere (coherent.distinct place slot other there shows)
  · rintro ⟨⟨place, there⟩, differs⟩
    have elsewhere : place ≠ slot := by
      rintro rfl
      exact differs (Option.some.inj (there.symm.trans shows))
    exact ⟨place, by simpa only [Function.update_of_ne elsewhere] using there⟩

/-- Taking a value off its slot leaves its entry to be erased. -/
private theorem coherent_of_blanked
    (others : ∀ other, other ≠ value →
      (other ∈ index.stored ↔ index.Shows other)) :
    Coherent
      { index with
        shown := Function.update index.shown slot none
        pending := .erasing value } := by
  constructor
  case distinct =>
      intro first second other atFirst atSecond
      simp only [Function.update_apply] at atFirst atSecond
      split at atFirst
      · cases atFirst
      · split at atSecond
        · cases atSecond
        · exact coherent.distinct first second other atFirst atSecond
  case mirrors =>
      intro other differs _
      have differs : other ≠ value := fun same => differs (same ▸ rfl)
      rw [shows_of_blanked coherent shows, others other differs]
      exact (and_iff_left differs).symm
  case erasing =>
      intro other same
      cases same
      rw [shows_of_blanked coherent shows]
      exact fun shown => shown.2 rfl
  case entering => exact fun slot other => nofun

end Blank

private theorem shows_of_put
    (blank : index.shown slot = none) {stored : Set α} {pending : Pending ι α} :
    Shows ⟨Function.update index.shown slot (some value), stored, pending⟩
        other ↔
      index.Shows other ∨ other = value := by
  constructor
  · rintro ⟨place, there⟩
    simp only [Function.update_apply] at there
    split at there
    · exact .inr (Option.some.inj there).symm
    · exact .inl ⟨place, there⟩
  · rintro (⟨place, there⟩ | rfl)
    · have elsewhere : place ≠ slot := by
        rintro rfl
        rw [blank] at there
        cases there
      exact ⟨place, by
        simpa only [Function.update_of_ne elsewhere] using there⟩
    · exact ⟨slot, Function.update_self ..⟩

private theorem coherent_of_put
    (coherent : index.Coherent) (settled : index.pending = .settled)
    (blank : index.shown slot = none) (fresh : value ∉ index.stored) :
    Coherent
      { index with
        shown := Function.update index.shown slot (some value)
        pending := .entering slot value } := by
  rw [coherent.mirrors_of_settled settled] at fresh
  constructor
  case distinct =>
      intro first second other atFirst atSecond
      simp only [Function.update_apply] at atFirst atSecond
      split at atFirst
      · rename_i firstPut
        split at atSecond
        · rename_i secondPut
          rw [firstPut, secondPut]
        · cases atFirst
          exact absurd ⟨second, atSecond⟩ fresh
      · split at atSecond
        · cases atSecond
          exact absurd ⟨first, atFirst⟩ fresh
        · exact coherent.distinct first second other atFirst atSecond
  case mirrors =>
      intro other _ differs
      have differs : other ≠ value := fun same => differs slot (same ▸ rfl)
      rw [shows_of_put blank, or_iff_left differs]
      exact coherent.mirrors_of_settled settled
  case erasing => exact fun other => nofun
  case entering =>
      intro place other same
      cases same
      exact Function.update_self ..

/-! ## Steps -/

theorem Coherent.step
    (coherent : index.Coherent) (step : Step index next) : next.Coherent := by
  cases step with
  | withdraw slot value settled shows =>
      apply coherent_of_blanked coherent shows
      exact fun other _ => coherent.mirrors_of_settled settled
  | discard value settled gone =>
      constructor
      case distinct => exact coherent.distinct
      case mirrors =>
          exact fun other _ _ => coherent.mirrors_of_settled settled
      case erasing =>
          intro other same
          cases same
          exact gone
      case entering => exact fun slot other => nofun
  | erase value erasing =>
      refine coherent_of_settled coherent.distinct ?_ rfl
      intro other
      have gone := coherent.erasing value erasing
      rw [Set.mem_sdiff, Set.mem_singleton_iff]
      by_cases same : other = value
      · subst same
        exact iff_of_false (fun stored => stored.2 rfl) gone
      · rw [and_iff_left same]
        apply coherent.mirrors
        · rw [erasing]
          exact fun equal => same (Pending.erasing.inj equal).symm
        · rw [erasing]
          exact fun slot => nofun
  | put slot value settled blank fresh =>
      exact coherent_of_put coherent settled blank fresh
  | enter slot value entering =>
      constructor
      case distinct => exact coherent.distinct
      case mirrors =>
          intro other notErasing notEntering
          rw [Set.mem_insert_iff, or_iff_right_of_imp]
          · exact coherent.mirrors other notErasing notEntering
          · rintro rfl
            exact absurd entering (notEntering slot)
      case erasing => exact coherent.erasing
      case entering => exact coherent.entering
  | confirm slot value entering present =>
      refine coherent_of_settled coherent.distinct ?_ rfl
      intro other
      by_cases same : other = value
      · subst same
        exact iff_of_true present ⟨slot, coherent.entering slot other entering⟩
      · exact coherent.mirrors_of_entering entering same
  | retract slot value entering =>
      apply coherent_of_blanked coherent
        (coherent.entering slot value entering)
      exact fun other differs => coherent.mirrors_of_entering entering differs

end SlotIndex

end RainTyping
