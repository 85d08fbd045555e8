import RainTyping.Client.GameLocks

/-!
# Shutting a game down

`cleanup_finished_threads` joins threads that have set `to_remove` in their
last section, so they need no mutex any more.  `safe_game_cleanup` sets
`to_remove` itself and joins while it holds `words_mutex`: no thread waits for
another in a circle as long as the threads have finished by then.
-/

namespace RainTyping

/-- The mutexes a word thread has yet to take before it ends. -/
def WordPc.stillAcquires : WordPc → Finset Mutex
  | .overUnlock active gameOver =>
      if !active || gameOver then {.words, .hash} else {.words, .gameState, .hash}
  | .exitLock => {.words, .hash}
  | .exitHashLock => {.hash}
  | .exitHashUnlock => ∅
  | .exitUnlock => ∅
  | .finished => ∅
  | .joined => ∅
  | _ => {.words, .gameState, .hash}

namespace Game

structure DeadlockFree (game : Game) : Prop where
  /-- The main thread holds no mutex that the thread it joins still needs. -/
  joins : ∀ threadId thread mutex,
    game.operation .main = .join (.word threadId) →
      game.threads threadId = some thread →
        mutex ∈ thread.pc.stillAcquires → game.owners mutex ≠ some .main
  acyclic : ¬Locks.CyclicWait game.finished game.owners game.operation

/-- When the main thread enters the join loop of `safe_game_cleanup`, the
threads of all slots have finished. -/
def JoinsFinished (game : Game) : GameAction → Prop
  | .main _ =>
      game.main = .joinLock .safeGameCleanup →
        ∀ slot, (game.words slot).threadId ≠ 0 →
          game.finished (.word (game.words slot).threadId) = true
  | _ => True

instance (game : Game) (action : GameAction) :
    Decidable (game.JoinsFinished action) :=
  match action with
  | .main _ => inferInstanceAs (Decidable (_ → _))
  | .word _ _ => isTrue trivial
  | .sigint _ => isTrue trivial

/-- The main thread joins the threads of marked slots. -/
def JoinsMarked (game : Game) : Prop :=
  ∀ loop slot, game.main = .joining loop slot → (game.words slot).Removable

/-- What the main thread knows of the slots whose threads it joins. -/
structure Joining (game : Game) : Prop where
  marked : ∀ loop slot, game.main = .joining loop slot →
    (game.words slot).Removable
  ended : ∀ current, game.main = .joining .safeGameCleanup current →
    ∀ slot, (game.words slot).threadId ≠ 0 →
      game.finished (.word (game.words slot).threadId) = true

variable {game next : Game} {slot : Fin maxWords} {threadId : Nat}
  {thread : WordThread} {loop : JoinLoop}

private theorem stillAcquires_successor
    (pc : WordPc) :
    ∀ next ∈ pc.successors, ∀ mutex ∈ pc.stillAcquires,
      pc.operation = .lock mutex ∨ mutex ∈ next.stillAcquires := by
  cases pc with
  | activeUnlock active => cases active <;> decide
  | overLock active => cases active <;> decide
  | overUnlock active gameOver =>
      cases active <;> cases gameOver <;> decide
  | _ => decide

/-- A thread takes what it still acquires before it ends: each of its steps
takes the mutex or leaves it to be taken. -/
theorem stillAcquires_wordStep
    (live : game.threads threadId = some thread) (dropDue : Bool) :
    ∃ pc : WordPc,
      (game.wordStep threadId thread dropDue).threads =
          Function.update game.threads threadId (some ⟨thread.slot, pc⟩) ∧
        ∀ mutex ∈ thread.pc.stillAcquires,
          thread.pc.operation = .lock mutex ∨ mutex ∈ pc.stillAcquires := by
  obtain ⟨pc, follows, threads⟩ := wordStep_successor live dropDue
  exact ⟨pc, threads, stillAcquires_successor thread.pc pc follows⟩

/-! ## The step before a join -/

theorem joinFrom_joining
    {start : Nat} {other : JoinLoop}
    (joins : (game.joinFrom loop start).main = .joining other slot) :
    other = loop ∧ nextRemovable game.words start = some slot := by
  unfold joinFrom at joins
  split at joins
  · rename_i found removable
    cases joins
    exact ⟨rfl, removable⟩
  · cases joins

theorem joinFrom_frame (start : Nat) :
    (game.joinFrom loop start).words = game.words ∧
      (game.joinFrom loop start).threads = game.threads := by
  unfold joinFrom
  split <;> exact ⟨rfl, rfl⟩

theorem mainStep_joining
    {calls : MainCalls}
    (joins : (game.mainStep calls).main = .joining loop slot) :
    game.main = .joinLock loop ∨
      ∃ before, game.main = .joining loop before := by
  cases current : game.main with
  | joinLock other =>
      simp only [mainStep, current] at joins
      rw [(joinFrom_joining joins).1]
      exact .inl rfl
  | joining other before =>
      simp only [mainStep, current] at joins
      rw [(joinFrom_joining joins).1]
      exact .inr ⟨before, rfl⟩
  | inputUnlock target =>
      cases target <;> simp [mainStep, current, goto] at joins
  | joinUnlock other =>
      cases other <;> simp only [mainStep, current, goto] at joins
      · split at joins <;> cases joins
      · cases joins
  | _ =>
      simp only [mainStep, current, handleKey, chooseTarget, chooseSlot,
        tryPick, fillSlot, createThread, goto] at joins
      grind

theorem wordStep_words
    (game : Game) (threadId : Nat) (thread : WordThread) (dropDue : Bool)
    (slot : Fin maxWords) :
    ((game.wordStep threadId thread dropDue).words slot).threadId =
        (game.words slot).threadId ∧
      ((game.words slot).toRemove = true →
        ((game.wordStep threadId thread dropDue).words slot).toRemove =
          true) := by
  cases current : thread.pc with
  | dropLock =>
      simp only [wordStep, current, setThread, setWord, Words.set_apply]
      split
      · rename_i same
        subst same
        exact ⟨drop_threadId _ _, fun marked => by simpa using marked⟩
      · exact ⟨rfl, id⟩
  | exitLock =>
      simp only [wordStep, current, setThread, setWord, Words.set_apply]
      split
      · rename_i same
        subst same
        exact ⟨rfl, fun _ => rfl⟩
      · exact ⟨rfl, id⟩
  | _ => simp [wordStep, current, setThread, removeActive]

private theorem finished_of_update
    {other : Nat} (different : other ≠ threadId)
    (threads : next.threads =
      Function.update game.threads threadId (some thread))
    (finished : game.finished (.word other) = true) :
    next.finished (.word other) = true := by
  obtain ⟨ended, live, atEnd⟩ := finished_word_iff.mp finished
  refine finished_word_iff.mpr ⟨ended, ?_, atEnd⟩
  rw [threads, Function.update_of_ne different]
  exact live

private theorem wordStep_joinsMarked
    (marked : game.JoinsMarked) (dropDue : Bool) :
    (game.wordStep threadId thread dropDue).JoinsMarked := by
  have sameMain := (wordStep_main game threadId thread dropDue).1
  intro loop slot joins
  obtain ⟨some, marked⟩ := marked loop slot (sameMain.symm.trans joins)
  obtain ⟨sameThread, kept⟩ :=
    wordStep_words game threadId thread dropDue slot
  exact ⟨sameThread ▸ some, kept marked⟩

private theorem mainStep_joinsMarked (calls : MainCalls) :
    (game.mainStep calls).JoinsMarked := by
  intro loop slot joins
  rcases mainStep_joining joins with current | ⟨before, current⟩
  · simp only [mainStep, current] at joins ⊢
    rw [(joinFrom_frame 0).1]
    exact nextRemovable_eq_some (joinFrom_joining joins).2
  · simp only [mainStep, current] at joins ⊢
    rw [(joinFrom_frame _).1]
    exact nextRemovable_eq_some (joinFrom_joining joins).2

theorem step_joinsMarked
    {action : GameAction} (marked : game.JoinsMarked)
    (stepped : step game action = some next) : next.JoinsMarked := by
  cases action with
  | sigint isGameRunning =>
      cases stepped
      cases isGameRunning <;> exact marked
  | main calls =>
      simp only [step, Option.map_eq_some_iff] at stepped
      obtain ⟨owners, performed, rfl⟩ := stepped
      exact mainStep_joinsMarked calls
  | word threadId dropDue =>
      simp only [step, Option.bind_eq_some_iff,
        Option.map_eq_some_iff] at stepped
      obtain ⟨thread, live, owners, performed, rfl⟩ := stepped
      exact wordStep_joinsMarked marked dropDue

private theorem wordStep_keepsJoining
    (joining : game.Joining) (live : game.threads threadId = some thread)
    (running : thread.pc ≠ .finished) (dropDue : Bool) :
    (game.wordStep threadId thread dropDue).Joining := by
  obtain ⟨pc, threads, _⟩ := wordStep_thread live dropDue
  have sameMain := (wordStep_main game threadId thread dropDue).1
  have sameWord := wordStep_words game threadId thread dropDue
  constructor
  case marked => exact wordStep_joinsMarked joining.marked dropDue
  case ended =>
      intro current joins slot some
      rw [(sameWord slot).1] at some ⊢
      have finished :=
        joining.ended current (sameMain.symm.trans joins) slot some
      refine finished_of_update ?_ threads finished
      rintro same
      obtain ⟨ended, found, atEnd⟩ := finished_word_iff.mp finished
      rw [same, live, Option.some.injEq] at found
      exact running (found ▸ atEnd)

/-- The loop goes on to the next slot; other slots have other threads. -/
private theorem collectSlot_keepsEnded
    (owned : game.round.Owned) (joining : game.Joining)
    {before : Fin maxWords}
    (current : game.main = .joining .safeGameCleanup before)
    (some : ((game.collectSlot before).words slot).threadId ≠ 0) :
    (game.collectSlot before).finished
      (.word ((game.collectSlot before).words slot).threadId) = true := by
  have different : slot ≠ before := by
    rintro rfl
    simp [collectSlot, Word.collect] at some
  have sameWord : (game.collectSlot before).words slot = game.words slot := by
    simp only [collectSlot, Words.set_of_ne _ _ different]
  rw [sameWord] at some ⊢
  have otherThread : (game.words slot).threadId ≠
      (game.words before).threadId := by
    intro same
    exact different (owned.slot_unique (same ▸ some) same)
  obtain ⟨ended, live, atEnd⟩ :=
    finished_word_iff.mp (joining.ended before current slot some)
  refine finished_word_iff.mpr ⟨ended, ?_, atEnd⟩
  simp only [collectSlot, Function.update_of_ne otherThread]
  exact live

private theorem mainStep_keepsJoining
    (calls : MainCalls) (owned : game.round.Owned) (joining : game.Joining)
    (guard : game.JoinsFinished (.main calls)) :
    (game.mainStep calls).Joining := by
  constructor
  case marked => exact mainStep_joinsMarked calls
  case ended =>
      intro now joins slot some
      rcases mainStep_joining joins with current | ⟨before, current⟩
      · simp only [mainStep, current, joinFrom_frame, finished] at some ⊢
        exact guard current slot some
      · simp only [mainStep, current, joinFrom_frame, finished] at some ⊢
        exact collectSlot_keepsEnded owned joining current some

theorem step_keepsJoining
    {action : GameAction} (owned : game.round.Owned)
    (joining : game.Joining) (guard : game.JoinsFinished action)
    (stepped : step game action = some next) : next.Joining := by
  cases action with
  | sigint isGameRunning =>
      cases stepped
      cases isGameRunning with
      | true => exact ⟨joining.marked, joining.ended⟩
      | false => exact ⟨joining.marked, joining.ended⟩
  | main calls =>
      simp only [step, Option.map_eq_some_iff] at stepped
      obtain ⟨owners, performed, rfl⟩ := stepped
      have kept := mainStep_keepsJoining calls owned joining guard
      exact ⟨kept.marked, kept.ended⟩
  | word threadId dropDue =>
      simp only [step, Option.bind_eq_some_iff,
        Option.map_eq_some_iff] at stepped
      obtain ⟨thread, live, owners, performed, rfl⟩ := stepped
      have running : thread.pc ≠ .finished := by
        intro atEnd
        rw [atEnd] at performed
        cases performed
      have kept := wordStep_keepsJoining joining live running dropDue
      exact ⟨kept.marked, kept.ended⟩

/-! ## Joins do not wait -/

private theorem finished_of_exited
    (pc : WordPc) (exited : pc.phase = .exited)
    (free : Mutex.words ∉ pc.held) : pc = .finished := by
  cases pc with
  | finished => rfl
  | exitHashLock => exact absurd (by decide) free
  | exitHashUnlock => exact absurd (by decide) free
  | exitUnlock => exact absurd (by decide) free
  | _ => cases exited

/-- The thread of a slot that is marked during the game has left its last
section once the main thread holds `words_mutex`. -/
private theorem finished_of_marked
    (owned : game.round.Owned) (locksHeld : game.LocksHeld)
    (playing : game.main.phase = .playing)
    (holds : .words ∈ game.main.held)
    (marked : (game.words slot).Removable) :
    game.finished (.word (game.words slot).threadId) = true := by
  have opened : game.round.phase ≠ .closing := by
    simp [round, playing]
  have unused : ¬game.round.Uses (game.words slot).threadId slot := by
    intro uses
    have unmarked : (game.words slot).toRemove = false :=
      owned.unmarked_of_uses uses opened
    rw [marked.2] at unmarked
    cases unmarked
  obtain ⟨phase, held, falling | landing | exited⟩ :=
    owned.owner slot marked.1
  · exact absurd (.inl (falling ▸ held)) unused
  · exact absurd (.inr (landing ▸ held)) unused
  · simp only [round, Option.map_eq_some_iff] at held
    obtain ⟨thread, live, sameRound⟩ := held
    have atExit : thread.pc.phase = .exited := by
      rw [← exited]
      exact congrArg RoundThread.phase sameRound
    refine finished_word_iff.mpr ⟨thread, live, ?_⟩
    apply finished_of_exited thread.pc atExit
    intro alsoHolds
    have both : .words ∈ game.held (.word (game.words slot).threadId) := by
      simp only [Game.held, live]
      exact alsoHolds
    have mine : .words ∈ game.held .main := holds
    cases locksHeld.exclusive mine both

/-- Every thread the main thread is about to join has finished. -/
theorem ready_of_joining
    (owned : game.round.Owned) (locksHeld : game.LocksHeld)
    (joining : game.Joining)
    (current : game.main = .joining loop slot) :
    game.finished (.word (game.words slot).threadId) = true := by
  have marked := joining.marked loop slot current
  cases loop with
  | cleanupFinishedThreads =>
      have playing : game.main.phase = .playing :=
        congrArg MainPc.phase current
      have holds : .words ∈ game.main.held := by
        rw [current]
        exact Finset.mem_singleton_self _
      exact finished_of_marked owned locksHeld playing holds marked
  | safeGameCleanup => exact joining.ended slot current slot marked.1

theorem joinsReady
    (owned : game.round.Owned) (locksHeld : game.LocksHeld)
    (joining : game.Joining) :
    Locks.JoinsReady game.finished game.operation := by
  intro party other joins
  cases party with
  | main =>
      cases current : game.main with
      | joining loop slot =>
          rw [operation, current] at joins
          cases joins
          exact ready_of_joining owned locksHeld joining current
      | draw last pc =>
          rw [operation, current] at joins
          cases pc <;> cases joins
      | _ =>
          rw [operation, current] at joins
          cases joins
  | word threadId =>
      simp only [operation] at joins
      split at joins
      · rename_i thread live
        cases pc : thread.pc <;> rw [pc] at joins <;> cases joins
      · cases joins

theorem deadlockFree_of_ready
    (locksHeld : game.LocksHeld)
    (ready : Locks.JoinsReady game.finished game.operation) :
    game.DeadlockFree := by
  constructor
  case joins =>
      intro threadId thread mutex joins live needs
      obtain ⟨ended, found, atEnd⟩ :=
        finished_word_iff.mp (ready .main (.word threadId) joins)
      rw [live, Option.some.injEq] at found
      rw [found, atEnd] at needs
      exact absurd needs (Finset.notMem_empty mutex)
  case acyclic => exact Locks.not_cyclicWait locksHeld game.ordered ready

/-- No thread ever waits for another in a circle in a run in which the threads
have finished before the last joins. -/
theorem deadlockFree_of_joinsFinished
    (wordList : List CString) (area : GameArea) (input : InputLine)
    (actions : List GameAction) (game : Game)
    (finished : step.Meets JoinsFinished (start wordList area input) actions)
    (ran : step.run (start wordList area input) actions = some game) :
    game.DeadlockFree := by
  have initial : (start wordList area input).Joining :=
    ⟨fun _ _ => nofun, fun _ => nofun⟩
  have kept := Machine.run_invariant
    (fun game => game.round.Owned ∧ game.LocksHeld ∧ game.Joining)
    (fun game action next ⟨owned, locksHeld, joining⟩ guard stepped =>
      ⟨(step_events stepped).preserve (fun _ _ owned => owned.event) owned,
        step_locksHeld owned locksHeld stepped,
        step_keepsJoining owned joining guard stepped⟩)
    ⟨owned_start wordList area input, locksHeld_start wordList area input,
      initial⟩ finished ran
  obtain ⟨owned, locksHeld, joining⟩ := kept
  exact deadlockFree_of_ready locksHeld (joinsReady owned locksHeld joining)

/-- A word is spawned, the player quits, and the main thread leaves its loop
and waits for a key. -/
def quits : List GameAction :=
  List.replicate 21 (.main .spawnNow) ++ .sigint true ::
    List.replicate 25 (.main .idle)

/-- The word's thread finishes before the last joins. -/
def quitsInOrder : List GameAction :=
  quits ++ List.replicate 11 (.word 1 false) ++ .main (.pressKey 10) ::
    List.replicate 7 (.main .idle)

private theorem quitsInOrder_finished :
    step.Meets JoinsFinished (start oneWord smallArea .blank)
      quitsInOrder := by
  decide +kernel

theorem deadlockFree_of_quitsInOrder :
    ∃ game, step.run (start oneWord smallArea .blank) quitsInOrder =
      some game ∧ game.DeadlockFree :=
  ⟨_, rfl, deadlockFree_of_joinsFinished oneWord smallArea .blank quitsInOrder
    _ quitsInOrder_finished rfl⟩

/-- The word's thread stands before its next section. -/
def quitsEarly : List GameAction :=
  quits ++ .main (.pressKey 10) :: List.replicate 3 (.main .idle) ++
    List.replicate 3 (.word 1 false)

/-- The main thread joins the word's thread, which waits for the mutex that
the main thread holds. -/
theorem quitsEarly_deadlocks :
    ¬ ∀ wordList area input actions game,
      step.run (start wordList area input) actions = some game →
        game.DeadlockFree := by
  intro free
  have waits : ((step.run (start oneWord smallArea .blank) quitsEarly).map
      fun game => (game.operation .main, game.finished (.word 1),
        game.operation (.word 1), game.owners .words)) =
      some (.join (.word 1), false, .lock .words, some .main) := by
    decide
  cases ran : step.run (start oneWord smallArea .blank) quitsEarly with
  | none =>
      rw [ran] at waits
      cases waits
  | some game =>
      simp only [ran, Option.map_some, Option.some.injEq,
        Prod.mk.injEq] at waits
      obtain ⟨joins, running, wants, owned⟩ := waits
      exact (free _ _ _ _ game ran).acyclic
        (Locks.cyclicWait_of_join joins running wants owned)

end Game

end RainTyping
