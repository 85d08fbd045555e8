import RainTyping.Client.GameLogic

/-!
# The main thread alone

Runs of the main thread in which no other thread takes a step.  The code
between two operations does not see who holds the mutexes, so a section on a
free mutex is the code up to its release and the code behind it.
-/

namespace RainTyping

namespace Game

/-- The main thread gets there with some answers of its calls while no other
thread takes a step. -/
def Attains (game next : Game) : Prop :=
  ∃ answers : List MainCalls,
    step.run game (answers.map .main) = some next

def withOwners (game : Game) (owners : Locks.Owners Party Mutex) : Game :=
  { game with owners := owners }

variable {game middle next : Game} {calls : MainCalls}

theorem Attains.refl (game : Game) : game.Attains game :=
  ⟨[], rfl⟩

theorem Attains.head
    {answer : MainCalls} (stepped : step game (.main answer) = some middle)
    (rest : middle.Attains next) : game.Attains next := by
  obtain ⟨answers, ran⟩ := rest
  refine ⟨answer :: answers, ?_⟩
  rw [List.map_cons, Machine.run_cons_eq_some_iff]
  exact ⟨middle, stepped, ran⟩

theorem Attains.trans
    (first : game.Attains middle) (second : middle.Attains next) :
    game.Attains next := by
  obtain ⟨answers, ran⟩ := first
  obtain ⟨rest, ranRest⟩ := second
  refine ⟨answers ++ rest, ?_⟩
  rw [List.map_append, Machine.run_append_eq_some_iff]
  exact ⟨middle, ran, ranRest⟩

/-! ## One step -/

theorem step_lock
    (mutex : Mutex)
    (wants : game.main.operation game.words = .lock mutex)
    (free : game.owners mutex = none) :
    step game (.main calls) = some
      ((game.mainStep calls).withOwners
        (Function.update game.owners mutex (some .main))) := by
  simp only [step, operation, wants, Locks.perform, if_pos free,
    Option.map_some, withOwners]

theorem step_unlock
    (mutex : Mutex)
    (gives : game.main.operation game.words = .unlock mutex)
    (mine : game.owners mutex = some .main) :
    step game (.main calls) = some
      ((game.mainStep calls).withOwners
        (Function.update game.owners mutex none)) := by
  simp only [step, operation, gives, Locks.perform, if_pos mine,
    Option.map_some, withOwners]

theorem step_compute
    (wants : game.main.operation game.words = .compute) :
    step game (.main calls) =
      some ((game.mainStep calls).withOwners game.owners) := by
  simp only [step, operation, wants, Locks.perform, Option.map_some,
    withOwners]

/-- The code between two operations does not see who holds the mutexes. -/
theorem mainStep_withOwners
    (owners : Locks.Owners Party Mutex) (answer : MainCalls) :
    (game.withOwners owners).mainStep answer =
      (game.mainStep answer).withOwners owners := by
  cases current : game.main with
  | inputOverUnlock key gameOver =>
      simp only [mainStep, withOwners, current, goto, handleKey]
      split_ifs <;> rfl
  | inputLock =>
      simp only [mainStep, withOwners, current, goto, chooseTarget]
      split <;> rfl
  | inputUnlock target =>
      cases target <;> simp only [mainStep, withOwners, current, goto]
  | scoreLock target wtype =>
      cases wtype <;>
        simp only [mainStep, withOwners, current, goto, scoreWord]
  | spawnCheckUnlock canSpawn =>
      simp only [mainStep, withOwners, current, goto]
      split <;> rfl
  | spawnLock =>
      simp only [mainStep, withOwners, current, goto, chooseSlot, tryPick,
        fillSlot, setWord]
      split
      · split <;> rfl
      · rfl
  | pickUnlock slot tries pick taken =>
      simp only [mainStep, withOwners, current, goto, tryPick, fillSlot,
        setWord]
      split
      · split <;> rfl
      · rfl
  | addUnlock slot =>
      simp only [mainStep, withOwners, current, createThread]
      split <;> rfl
  | draw last pc =>
      simp only [mainStep, withOwners, current, goto]
      split <;> rfl
  | joinLock loop =>
      simp only [mainStep, withOwners, current, goto, joinFrom]
      split <;> rfl
  | joining loop slot =>
      simp only [mainStep, withOwners, current, goto, joinFrom, collectSlot]
      split <;> rfl
  | joinUnlock loop =>
      cases loop <;> simp only [mainStep, withOwners, current, goto]
  | _ => simp only [mainStep, withOwners, current, goto] <;> rfl

private theorem mainStep_owners (answer : MainCalls) :
    (game.mainStep answer).owners = game.owners := by
  have same : game.mainStep answer =
      (game.mainStep answer).withOwners game.owners :=
    mainStep_withOwners game.owners answer
  rw [same]
  rfl

/-- A mutex is taken, and released at the end of a run. -/
theorem attains_around
    (first second : MainCalls) (mutex : Mutex)
    (wants : game.main.operation game.words = .lock mutex)
    (free : game.owners mutex = none)
    (inside : game.mainStep first = middle)
    (run : (middle.withOwners
      (Function.update game.owners mutex (some .main))).Attains next)
    (owners : next.owners = Function.update game.owners mutex (some .main))
    (gives : next.main.operation next.words = .unlock mutex) :
    game.Attains ((next.mainStep second).withOwners game.owners) := by
  have enters : step game (.main first) = some (middle.withOwners
      (Function.update game.owners mutex (some .main))) := by
    rw [step_lock mutex wants free, inside]
  have mine : next.owners mutex = some .main := by
    rw [owners, Function.update_self]
  have leaves : step next (.main second) =
      some ((next.mainStep second).withOwners game.owners) := by
    rw [step_unlock mutex gives mine, owners, Locks.release_of_free free]
  exact .head enters (run.trans (.head leaves (.refl _)))

/-- A mutex is taken and released at once. -/
theorem attains_section
    (first second : MainCalls) (mutex : Mutex)
    (wants : game.main.operation game.words = .lock mutex)
    (free : game.owners mutex = none)
    (inside : game.mainStep first = middle)
    (gives : middle.main.operation middle.words = .unlock mutex) :
    game.Attains (middle.mainStep second) := by
  have attained := attains_around first second mutex wants free inside
    (.refl _) rfl gives
  have sameOwners : (middle.mainStep second).owners = game.owners := by
    rw [mainStep_owners, ← inside, mainStep_owners]
  rw [mainStep_withOwners, ← sameOwners] at attained
  exact attained

end Game

end RainTyping
