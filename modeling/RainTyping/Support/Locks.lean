import Mathlib.Data.Finset.Basic
import Mathlib.Logic.Relation

/-!
# Mutexes and joins

The next operation of every thread determines which threads wait for which.
When the mutexes of a program are taken along a rank and its joins never wait,
no threads wait for each other in a circle.
-/

namespace RainTyping

namespace Locks

/-- What a thread does next. -/
inductive Operation (Thread : Type u) (Mutex : Type v) where
  | lock (mutex : Mutex)
  | unlock (mutex : Mutex)
  | join (other : Thread)
  /-- Code outside the mutexes. -/
  | compute
  /-- The thread has ended. -/
  | stop
  deriving DecidableEq

/-- The thread that holds each mutex. -/
abbrev Owners (Thread : Type u) (Mutex : Type v) :=
  Mutex → Option Thread

variable {Thread : Type u} {Mutex : Type v} [DecidableEq Thread]
  [DecidableEq Mutex]

/-- The owners after the operation of a thread, unless it has to wait. -/
def perform (finished : Thread → Bool) (owners : Owners Thread Mutex)
    (thread : Thread) :
    Operation Thread Mutex → Option (Owners Thread Mutex)
  | .lock mutex =>
      if owners mutex = none then
        some (Function.update owners mutex (some thread))
      else none
  | .unlock mutex =>
      if owners mutex = some thread then
        some (Function.update owners mutex none)
      else none
  | .join other => if finished other then some owners else none
  | .compute => some owners
  | .stop => none

/-- The mutexes a thread holds after its operation. -/
def Operation.heldAfter :
    Operation Thread Mutex → Finset Mutex → Finset Mutex
  | .lock mutex, held => insert mutex held
  | .unlock mutex, held => held.erase mutex
  | .join _, held => held
  | .compute, held => held
  | .stop, held => held

/-- The owners are the threads whose code holds the mutexes. -/
def Consistent (owners : Owners Thread Mutex)
    (held : Thread → Finset Mutex) : Prop :=
  ∀ mutex thread, owners mutex = some thread ↔ mutex ∈ held thread

variable {finished : Thread → Bool} {owners next : Owners Thread Mutex}
  {held : Thread → Finset Mutex} {thread other : Thread} {mutex : Mutex}
  {operation : Operation Thread Mutex}

omit [DecidableEq Thread] in
/-- Taking a free mutex and releasing it changes nothing. -/
theorem release_of_free (free : owners mutex = none) :
    Function.update (Function.update owners mutex (some thread)) mutex none =
      owners := by
  rw [Function.update_idem, ← free, Function.update_eq_self]

omit [DecidableEq Thread] [DecidableEq Mutex] in
theorem Consistent.exclusive
    (consistent : Consistent owners held)
    (first : mutex ∈ held thread) (second : mutex ∈ held other) :
    thread = other := by
  have firstOwner := (consistent mutex thread).mpr first
  have secondOwner := (consistent mutex other).mpr second
  exact Option.some.inj (firstOwner.symm.trans secondOwner)

theorem Consistent.perform
    (consistent : Consistent owners held)
    (performed : perform finished owners thread operation = some next) :
    Consistent next
      (Function.update held thread (operation.heldAfter (held thread))) := by
  intro mutex other
  cases operation with
  | lock taken =>
      simp only [Locks.perform, Option.ite_none_right_eq_some,
        Option.some.injEq] at performed
      obtain ⟨free, rfl⟩ := performed
      have unheld : ∀ thread, taken ∉ held thread := by
        intro thread member
        rw [(consistent taken thread).mpr member] at free
        cases free
      by_cases same : mutex = taken
      · subst same
        by_cases mine : other = thread
        · subst mine
          simp [Operation.heldAfter]
        · simp [Function.update_of_ne mine, unheld, Ne.symm mine]
      · rw [Function.update_of_ne same, consistent mutex other]
        by_cases mine : other = thread
        · subst mine
          simp [Operation.heldAfter, same]
        · rw [Function.update_of_ne mine]
  | unlock given =>
      simp only [Locks.perform, Option.ite_none_right_eq_some,
        Option.some.injEq] at performed
      obtain ⟨owned, rfl⟩ := performed
      by_cases same : mutex = given
      · subst same
        by_cases mine : other = thread
        · subst mine
          simp [Operation.heldAfter]
        · rw [Function.update_of_ne mine, ← consistent mutex other, owned]
          simp [Ne.symm mine]
      · rw [Function.update_of_ne same, consistent mutex other]
        by_cases mine : other = thread
        · subst mine
          simp [Operation.heldAfter, same]
        · rw [Function.update_of_ne mine]
  | join awaited =>
      simp only [Locks.perform, Option.ite_none_right_eq_some,
        Option.some.injEq] at performed
      obtain ⟨_, rfl⟩ := performed
      rw [Operation.heldAfter, Function.update_eq_self]
      exact consistent mutex other
  | compute =>
      simp only [Locks.perform, Option.some.injEq] at performed
      subst performed
      rw [Operation.heldAfter, Function.update_eq_self]
      exact consistent mutex other
  | stop => cases performed

theorem finished_of_join
    (performed : perform finished owners thread (.join other) = some next) :
    finished other = true := by
  by_contra running
  simp [perform, running] at performed

theorem free_of_lock
    (performed : perform finished owners thread (.lock mutex) = some next) :
    owners mutex = none := by
  simp only [perform, Option.ite_none_right_eq_some] at performed
  exact performed.1

/-- Afterwards the mutex of a thread is still its own, or free. -/
theorem owner_of_perform
    (performed : perform finished owners thread operation = some next)
    (within : owners mutex = some thread ∨ operation = .lock mutex) :
    next mutex = some thread ∨ next mutex = none := by
  cases operation with
  | lock taken =>
      simp only [perform, Option.ite_none_right_eq_some,
        Option.some.injEq] at performed
      obtain ⟨free, rfl⟩ := performed
      by_cases same : mutex = taken
      · rw [same, Function.update_self]
        exact .inl rfl
      · rw [Function.update_of_ne same]
        rcases within with mine | takes
        · exact .inl mine
        · cases takes
          exact absurd rfl same
  | unlock given =>
      simp only [perform, Option.ite_none_right_eq_some,
        Option.some.injEq] at performed
      obtain ⟨owned, rfl⟩ := performed
      by_cases same : mutex = given
      · rw [same, Function.update_self]
        exact .inr rfl
      · rw [Function.update_of_ne same]
        exact .inl (within.resolve_right nofun)
  | join awaited =>
      simp only [perform, Option.ite_none_right_eq_some,
        Option.some.injEq] at performed
      obtain ⟨_, rfl⟩ := performed
      exact .inl (within.resolve_right nofun)
  | compute =>
      simp only [perform, Option.some.injEq] at performed
      subst performed
      exact .inl (within.resolve_right nofun)
  | stop => cases performed

/-- A thread that neither holds nor takes a mutex leaves its owner alone. -/
theorem sameOwner_of_perform
    (performed : perform finished owners thread operation = some next)
    (other : owners mutex ≠ some thread)
    (notTaken : operation ≠ .lock mutex) :
    next mutex = owners mutex := by
  cases operation with
  | lock taken =>
      simp only [perform, Option.ite_none_right_eq_some,
        Option.some.injEq] at performed
      obtain ⟨_, rfl⟩ := performed
      apply Function.update_of_ne
      rintro rfl
      exact notTaken rfl
  | unlock given =>
      simp only [perform, Option.ite_none_right_eq_some,
        Option.some.injEq] at performed
      obtain ⟨owned, rfl⟩ := performed
      apply Function.update_of_ne
      rintro rfl
      exact other owned
  | join awaited =>
      simp only [perform, Option.ite_none_right_eq_some,
        Option.some.injEq] at performed
      rw [performed.2]
  | compute =>
      simp only [perform, Option.some.injEq] at performed
      rw [performed]
  | stop => cases performed

/-! ## Waiting -/

/-- A thread cannot go on before the other one does something. -/
inductive WaitsFor (finished : Thread → Bool) (owners : Owners Thread Mutex)
    (operations : Thread → Operation Thread Mutex) :
    Thread → Thread → Prop where
  | lock {thread other : Thread} {mutex : Mutex}
      (wants : operations thread = .lock mutex)
      (owned : owners mutex = some other) :
      WaitsFor finished owners operations thread other
  | join {thread other : Thread}
      (joins : operations thread = .join other)
      (running : finished other = false) :
      WaitsFor finished owners operations thread other

/-- Some thread waits, through others, for itself. -/
def CyclicWait (finished : Thread → Bool) (owners : Owners Thread Mutex)
    (operations : Thread → Operation Thread Mutex) : Prop :=
  ∃ thread, Relation.TransGen (WaitsFor finished owners operations)
    thread thread

/-- A mutex is only taken above every mutex that is held. -/
def Ordered (rank : Mutex → Nat)
    (operations : Thread → Operation Thread Mutex)
    (held : Thread → Finset Mutex) : Prop :=
  ∀ thread mutex, operations thread = .lock mutex →
    ∀ other ∈ held thread, rank other < rank mutex

/-- Joins never wait. -/
def JoinsReady (finished : Thread → Bool)
    (operations : Thread → Operation Thread Mutex) : Prop :=
  ∀ thread other, operations thread = .join other → finished other = true

variable {operations : Thread → Operation Thread Mutex}
  {rank : Mutex → Nat}

omit [DecidableEq Thread] [DecidableEq Mutex] in
/-- A chain of waiting threads climbs the ranks: its last thread holds a mutex
at least as high as the one its first thread wants. -/
private theorem rank_le_of_waits
    (consistent : Consistent owners held)
    (ordered : Ordered rank operations held)
    (ready : JoinsReady finished operations)
    (waits : Relation.TransGen (WaitsFor finished owners operations)
      thread other) :
    ∃ wanted reached, operations thread = .lock wanted ∧
      reached ∈ held other ∧ rank wanted ≤ rank reached := by
  induction waits with
  | single edge =>
      cases edge with
      | lock wants owned =>
          exact ⟨_, _, wants, (consistent _ _).mp owned, le_rfl⟩
      | join joins running =>
          exact absurd (ready _ _ joins) (Bool.eq_false_iff.mp running)
  | tail _ edge induction =>
      obtain ⟨wanted, reached, wants, holds, below⟩ := induction
      cases edge with
      | lock next owned =>
          have above := ordered _ _ next _ holds
          exact ⟨wanted, _, wants, (consistent _ _).mp owned,
            below.trans above.le⟩
      | join joins running =>
          exact absurd (ready _ _ joins) (Bool.eq_false_iff.mp running)

omit [DecidableEq Thread] [DecidableEq Mutex] in
theorem not_cyclicWait
    (consistent : Consistent owners held)
    (ordered : Ordered rank operations held)
    (ready : JoinsReady finished operations) :
    ¬CyclicWait finished owners operations := by
  rintro ⟨thread, waits⟩
  obtain ⟨wanted, reached, wants, holds, below⟩ :=
    rank_le_of_waits consistent ordered ready waits
  have above := ordered _ _ wants _ holds
  omega

omit [DecidableEq Thread] [DecidableEq Mutex] in
/-- A thread that joins the owner of a mutex it wants is in a circle of two. -/
theorem cyclicWait_of_join
    (joins : operations thread = .join other)
    (running : finished other = false)
    (wants : operations other = .lock mutex)
    (owned : owners mutex = some thread) :
    CyclicWait finished owners operations :=
  ⟨thread, .tail (.single (.join joins running)) (.lock wants owned)⟩

/-- Only a thread that takes a mutex may have to wait. -/
private theorem performs_or_locks
    (consistent : Consistent owners held)
    (ready : JoinsReady finished operations)
    (gives : ∀ thread mutex, operations thread = .unlock mutex →
      mutex ∈ held thread)
    (runs : operations thread ≠ .stop) :
    (∃ next, perform finished owners thread (operations thread) = some next) ∨
      ∃ mutex, operations thread = .lock mutex := by
  cases wants : operations thread with
  | lock mutex => exact .inr ⟨mutex, rfl⟩
  | unlock mutex =>
      have mine := (consistent mutex thread).mpr (gives thread mutex wants)
      exact .inl ⟨Function.update owners mutex none, if_pos mine⟩
  | join other => exact .inl ⟨owners, if_pos (ready thread other wants)⟩
  | compute => exact .inl ⟨owners, rfl⟩
  | stop => exact absurd wants runs

/-- Whoever waits, waits in the end for somebody who can go on. -/
theorem exists_performs
    (consistent : Consistent owners held)
    (ordered : Ordered rank operations held)
    (ready : JoinsReady finished operations)
    (gives : ∀ thread mutex, operations thread = .unlock mutex →
      mutex ∈ held thread)
    (ends : ∀ thread, operations thread = .stop → held thread = ∅)
    {highest : Nat} (bounded : ∀ mutex, rank mutex < highest)
    (runs : operations thread ≠ .stop) :
    ∃ other next,
      perform finished owners other (operations other) = some next := by
  -- The wanted mutexes climb the ranks from owner to owner.
  suffices climb : ∀ left thread, operations thread ≠ .stop →
      (∀ mutex, operations thread = .lock mutex →
        highest ≤ rank mutex + left) →
      ∃ other next,
        perform finished owners other (operations other) = some next by
    exact climb highest thread runs fun mutex _ => Nat.le_add_left _ _
  intro left
  induction left with
  | zero =>
      intro thread runs low
      rcases performs_or_locks consistent ready gives runs with
        ⟨next, performed⟩ | ⟨mutex, wants⟩
      · exact ⟨thread, next, performed⟩
      · exact absurd (bounded mutex) (Nat.not_lt.mpr (low mutex wants))
  | succ left induction =>
      intro thread runs low
      rcases performs_or_locks consistent ready gives runs with
        ⟨next, performed⟩ | ⟨mutex, wants⟩
      · exact ⟨thread, next, performed⟩
      · cases owner : owners mutex with
        | none =>
            refine ⟨thread, Function.update owners mutex (some thread), ?_⟩
            rw [wants, perform, if_pos owner]
        | some other =>
            have holds := (consistent mutex other).mp owner
            apply induction other
            · intro stops
              rw [ends other stops] at holds
              exact absurd holds (Finset.notMem_empty mutex)
            · intro next wantsNext
              have above := ordered other next wantsNext mutex holds
              have below := low mutex wants
              omega

end Locks

end RainTyping
