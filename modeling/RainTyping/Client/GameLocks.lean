import RainTyping.Client.GameRound

/-!
# The mutexes of the game

Which mutexes a thread holds is determined by its program point, and every
thread takes them in the order screen, words, game state or hash.
-/

namespace RainTyping

def WordPc.held : WordPc → Finset Mutex
  | .signalUnlock => {.gameState}
  | .activeUnlock _ => {.words}
  | .overUnlock _ _ => {.gameState}
  | .intervalUnlock => {.gameState}
  | .landHashLock => {.words}
  | .landHashUnlock => {.hash, .words}
  | .landStateLock => {.words}
  | .landStateUnlock => {.gameState, .words}
  | .dropUnlock => {.words}
  | .exitHashLock => {.words}
  | .exitHashUnlock => {.hash, .words}
  | .exitUnlock => {.words}
  | _ => ∅

def DrawPc.held : DrawPc → Finset Mutex
  | .screenLock => ∅
  | .stateLock => {.screen}
  | .stateUnlock => {.gameState, .screen}
  | .levelLock => {.screen}
  | .levelUnlock => {.gameState, .screen}
  | .wordsLock => {.screen}
  | .wordsUnlock => {.words, .screen}
  | .screenUnlock => {.screen}

def MainPc.held : MainPc → Finset Mutex
  | .signalUnlock => {.gameState}
  | .overUnlock => {.gameState}
  | .inputOverUnlock _ _ => {.gameState}
  | .inputHashLock _ _ => {.words}
  | .inputHashUnlock _ _ => {.hash, .words}
  | .inputUnlock _ => {.words}
  | .scoreUnlock => {.gameState}
  | .spawnCheckUnlock _ => {.gameState}
  | .pickLock _ _ _ => {.words}
  | .pickUnlock _ _ _ _ => {.hash, .words}
  | .addLock _ => {.words}
  | .addUnlock _ => {.hash, .words}
  | .undoLock _ => {.words}
  | .undoUnlock => {.hash, .words}
  | .spawnUnlock => {.words}
  | .draw _ pc => pc.held
  | .requestUnlock => {.words}
  | .joining _ _ => {.words}
  | .joinUnlock _ => {.words}
  | .clearUnlock => {.hash}
  | _ => ∅

/-- The points a word thread may reach in one step. -/
def WordPc.successors : WordPc → List WordPc
  | .top => [.signalLock, .activeLock]
  | .signalLock => [.signalUnlock]
  | .signalUnlock => [.activeLock]
  | .activeLock => [.activeUnlock false, .activeUnlock true]
  | .activeUnlock active => [.overLock active]
  | .overLock active => [.overUnlock active false, .overUnlock active true]
  | .overUnlock active gameOver =>
      if !active || gameOver then [.exitLock]
      else [.intervalLock, .dropLock, .top]
  | .intervalLock => [.intervalUnlock]
  | .intervalUnlock => [.dropLock, .top]
  | .dropLock => [.landHashLock, .dropUnlock]
  | .landHashLock => [.landHashUnlock]
  | .landHashUnlock => [.landStateLock]
  | .landStateLock => [.landStateUnlock]
  | .landStateUnlock => [.dropUnlock]
  | .dropUnlock => [.top]
  | .exitLock => [.exitHashLock]
  | .exitHashLock => [.exitHashUnlock]
  | .exitHashUnlock => [.exitUnlock]
  | .exitUnlock => [.finished]
  | .finished => [.finished]
  | .joined => [.joined]

theorem WordPc.held_successor
    (pc : WordPc) :
    ∀ next ∈ pc.successors, next.held = pc.operation.heldAfter pc.held := by
  cases pc with
  | activeUnlock active => cases active <;> decide
  | overLock active => cases active <;> decide
  | overUnlock active gameOver =>
      cases active <;> cases gameOver <;> decide
  | _ => decide

/-- The order in which the mutexes are taken. -/
def Mutex.rank : Mutex → Nat
  | .screen => 0
  | .words => 1
  | .gameState => 2
  | .hash => 2

theorem WordPc.ordered
    (pc : WordPc) {mutex other : Mutex}
    (wants : pc.operation = .lock mutex) (holds : other ∈ pc.held) :
    other.rank < mutex.rank := by
  cases pc with
  | landHashLock =>
      cases wants
      rw [Finset.mem_singleton.mp holds]
      decide
  | landStateLock =>
      cases wants
      rw [Finset.mem_singleton.mp holds]
      decide
  | exitHashLock =>
      cases wants
      rw [Finset.mem_singleton.mp holds]
      decide
  | _ => simp_all [WordPc.operation, WordPc.held]

theorem DrawPc.ordered
    (pc : DrawPc) {mutex other : Mutex}
    (wants : pc.operation = .lock mutex) (holds : other ∈ pc.held) :
    other.rank < mutex.rank := by
  cases pc with
  | stateLock =>
      cases wants
      rw [Finset.mem_singleton.mp holds]
      decide
  | levelLock =>
      cases wants
      rw [Finset.mem_singleton.mp holds]
      decide
  | wordsLock =>
      cases wants
      rw [Finset.mem_singleton.mp holds]
      decide
  | _ => simp_all [DrawPc.operation, DrawPc.held]

theorem MainPc.ordered
    (pc : MainPc) (words : Words) {mutex other : Mutex}
    (wants : pc.operation words = .lock mutex) (holds : other ∈ pc.held) :
    other.rank < mutex.rank := by
  cases pc with
  | inputHashLock target wtype =>
      cases wants
      rw [Finset.mem_singleton.mp holds]
      decide
  | pickLock slot tries pick =>
      cases wants
      rw [Finset.mem_singleton.mp holds]
      decide
  | addLock slot =>
      cases wants
      rw [Finset.mem_singleton.mp holds]
      decide
  | undoLock slot =>
      cases wants
      rw [Finset.mem_singleton.mp holds]
      decide
  | draw last pc => exact pc.ordered wants holds
  | _ => simp_all [MainPc.operation, MainPc.held]

namespace Game

def held (game : Game) : Party → Finset Mutex
  | .main => game.main.held
  | .word threadId =>
      match game.threads threadId with
      | some thread => thread.pc.held
      | none => ∅

variable {game next : Game} {slot : Fin maxWords} {threadId : Nat}
  {thread : WordThread} {calls : MainCalls}

/-! ## What the next point holds -/

private theorem handleKey_held (key : Int) :
    (game.handleKey key).main.held = ∅ := by
  unfold handleKey
  split_ifs <;> rfl

private theorem chooseTarget_held :
    game.chooseTarget.main.held = {.words} := by
  unfold chooseTarget
  split <;> rfl

private theorem tryPick_held (tries : Nat) :
    (game.tryPick slot tries calls).main.held = {.words} := by
  unfold tryPick
  simp only
  split <;> rfl

private theorem chooseSlot_held :
    (game.chooseSlot calls).main.held = {.words} := by
  unfold chooseSlot
  split
  · exact tryPick_held 1
  · rfl

private theorem createThread_held (created : Bool) :
    (game.createThread slot created).main.held = {.words} := by
  unfold createThread
  split <;> rfl

private theorem joinFrom_held (loop : JoinLoop) (start : Nat) :
    (game.joinFrom loop start).main.held = {.words} := by
  unfold joinFrom
  split <;> rfl

theorem mainStep_held :
    (game.mainStep calls).main.held =
      (game.main.operation game.words).heldAfter game.main.held := by
  cases current : game.main with
  | top =>
      simp only [mainStep, current]
      split <;> rfl
  | inputOverUnlock key gameOver =>
      simp only [mainStep, current]
      split
      · rfl
      · rw [handleKey_held]
        rfl
  | inputLock =>
      simp only [mainStep, current, chooseTarget_held]
      rfl
  | inputUnlock target => 
      cases target <;> simp only [mainStep, current] <;> rfl
  | spawnCheckUnlock canSpawn =>
      simp only [mainStep, current]
      split <;> rfl
  | spawnLock =>
      simp only [mainStep, current, chooseSlot_held]
      rfl
  | pickUnlock slot tries pick taken =>
      simp only [mainStep, current]
      split
      · rw [tryPick_held]
        rfl
      · rfl
  | addUnlock slot =>
      simp only [mainStep, current, createThread_held]
      rfl
  | draw last pc =>
      cases pc with
      | screenUnlock => 
        simp only [mainStep, current, DrawPc.next]
        split_ifs <;> rfl
      | _ =>
        simp only [mainStep, current, DrawPc.next]
        rfl
  | joinLock loop =>
      simp only [mainStep, current, joinFrom_held]
      rfl
  | joining loop slot =>
      simp only [mainStep, current, joinFrom_held]
      rfl
  | joinUnlock loop =>
      cases loop <;> simp only [mainStep, current]
      · split <;> rfl
      · rfl
  | overUnlock =>
      simp only [mainStep, current]
      split <;> rfl
  | _ =>
      simp only [mainStep, current]
      rfl

/-- A word thread goes on to a successor of its point; all other threads stay
where they are. -/
theorem wordStep_successor
    (live : game.threads threadId = some thread) (dropDue : Bool) :
    ∃ pc ∈ thread.pc.successors,
      (game.wordStep threadId thread dropDue).threads =
        Function.update game.threads threadId (some ⟨thread.slot, pc⟩) := by
  have unchanged : game.threads =
      Function.update game.threads threadId
        (some ⟨thread.slot, thread.pc⟩) := by
    rw [← live, Function.update_eq_self]
  cases current : thread.pc with
  | top =>
      simp only [wordStep, current]
      exact ⟨_, by split <;> decide, rfl⟩
  | activeLock =>
      simp only [wordStep, current]
      refine ⟨_, ?_, rfl⟩
      cases (game.words thread.slot).active <;> decide
  | activeUnlock active =>
      simp only [wordStep, current]
      exact ⟨_, List.mem_singleton_self _, rfl⟩
  | overLock active =>
      simp only [wordStep, current]
      refine ⟨_, ?_, rfl⟩
      cases game.isOver <;> simp [WordPc.successors]
  | overUnlock active gameOver =>
      simp only [wordStep, current]
      refine ⟨_, ?_, rfl⟩
      rw [WordPc.successors]
      split_ifs <;> simp
  | intervalUnlock =>
      simp only [wordStep, current]
      exact ⟨_, by split <;> decide, rfl⟩
  | dropLock =>
      simp only [wordStep, current]
      exact ⟨_, by split <;> decide, rfl⟩
  | landStateLock =>
      simp only [wordStep, current]
      exact ⟨.landStateUnlock, List.mem_singleton_self _,
        by rw [setThread, landWord_threads]⟩
  | finished =>
      simp only [wordStep, current]
      exact ⟨.finished, by decide, current ▸ unchanged⟩
  | joined =>
      simp only [wordStep, current]
      exact ⟨.joined, by decide, current ▸ unchanged⟩
  | _ =>
      simp only [wordStep, current]
      exact ⟨_, by decide, rfl⟩

theorem wordStep_thread
    (live : game.threads threadId = some thread) (dropDue : Bool) :
    ∃ pc : WordPc,
      (game.wordStep threadId thread dropDue).threads =
          Function.update game.threads threadId (some ⟨thread.slot, pc⟩) ∧
        pc.held = thread.pc.operation.heldAfter thread.pc.held := by
  obtain ⟨pc, follows, threads⟩ := wordStep_successor live dropDue
  exact ⟨pc, threads, thread.pc.held_successor pc follows⟩

/-! ## What the main thread does to the threads -/

private theorem handleKey_threads (key : Int) :
    (game.handleKey key).threads = game.threads := by
  unfold handleKey
  split_ifs <;> rfl

private theorem chooseTarget_threads :
    game.chooseTarget.threads = game.threads := by
  unfold chooseTarget
  split <;> rfl

private theorem tryPick_threads (tries : Nat) :
    (game.tryPick slot tries calls).threads = game.threads := by
  unfold tryPick
  simp only
  split <;> rfl

private theorem chooseSlot_threads :
    (game.chooseSlot calls).threads = game.threads := by
  unfold chooseSlot
  split
  · exact tryPick_threads 1
  · rfl

private theorem joinFrom_threads (loop : JoinLoop) (start : Nat) :
    (game.joinFrom loop start).threads = game.threads := by
  unfold joinFrom
  split <;> rfl

/-- The main thread starts a thread, joins one, or leaves them alone. -/
inductive ThreadChange (game : Game) : (Nat → Option WordThread) → Prop where
  | none : ThreadChange game game.threads
  | start (slot : Fin maxWords) (starts : game.main = .addUnlock slot) :
      ThreadChange game
        (Function.update game.threads game.nextThreadId (some ⟨slot, .top⟩))
  | join (loop : JoinLoop) (slot : Fin maxWords)
      (joins : game.main = .joining loop slot) :
      ThreadChange game (game.collectSlot slot).threads

theorem mainStep_threads :
    game.ThreadChange (game.mainStep calls).threads := by
  cases current : game.main with
  | inputOverUnlock key gameOver =>
      simp only [mainStep, current]
      split
      · exact .none
      · rw [handleKey_threads]
        exact .none
  | inputLock =>
      simp only [mainStep, current, chooseTarget_threads]
      exact .none
  | inputUnlock target =>
      cases target <;> simp only [mainStep, current] <;> exact .none
  | scoreLock target wtype =>
      cases wtype <;> simp only [mainStep, current] <;> exact .none
  | spawnCheckUnlock canSpawn =>
      simp only [mainStep, current]
      split <;> exact .none
  | spawnLock =>
      simp only [mainStep, current, chooseSlot_threads]
      exact .none
  | pickUnlock slot tries pick taken =>
      simp only [mainStep, current]
      split
      · rw [tryPick_threads]
        exact .none
      · exact .none
  | addUnlock slot =>
      simp only [mainStep, current, createThread]
      split
      · exact .start slot current
      · exact .none
  | draw last pc =>
      simp only [mainStep, current]
      split <;> exact .none
  | joinLock loop =>
      simp only [mainStep, current, joinFrom_threads]
      exact .none
  | joining loop slot =>
      simp only [mainStep, current, joinFrom_threads]
      exact .join loop slot current
  | joinUnlock loop =>
      cases loop <;> simp only [mainStep, current] <;> exact .none
  | _ =>
      simp only [mainStep, current]
      exact .none

/-! ## The owners of the mutexes -/

/-- The owners are the threads that hold the mutexes at their points. -/
def LocksHeld (game : Game) : Prop :=
  Locks.Consistent game.owners game.held

theorem thread_fresh
    (owned : game.round.Owned) : game.threads game.nextThreadId = none := by
  by_contra taken
  obtain ⟨thread, live⟩ := Option.ne_none_iff_exists'.mp taken
  have issued := (owned.issued _ _ (round_threads_of_live live)).2
  exact absurd issued (Nat.lt_irrefl _)

/-- The main thread changes nothing of what the others hold: a new thread
holds nothing, and so does one that can be joined. -/
private theorem mainStep_held_word
    (owned : game.round.Owned)
    (ready : ∀ loop slot, game.main = .joining loop slot →
      game.finished (.word (game.words slot).threadId) = true)
    (other : Nat) :
    (game.mainStep calls).held (.word other) = game.held (.word other) := by
  have change : game.ThreadChange (game.mainStep calls).threads :=
    mainStep_threads
  generalize threads : (game.mainStep calls).threads = after at change
  simp only [held, threads]
  cases change with
  | none => rfl
  | start slot starts =>
      by_cases same : other = game.nextThreadId
      · subst same
        rw [Function.update_self, thread_fresh owned]
        rfl
      · rw [Function.update_of_ne same]
  | join loop slot joins =>
      obtain ⟨thread, live, finished⟩ :=
        finished_word_iff.mp (ready loop slot joins)
      rw [collectSlot_of_live live]
      simp only [setThread]
      by_cases same : other = (game.words slot).threadId
      · subst same
        rw [Function.update_self, live]
        simp only [finished]
        rfl
      · rw [Function.update_of_ne same]
        rfl

theorem step_locksHeld
    {action : GameAction} (owned : game.round.Owned)
    (locksHeld : game.LocksHeld)
    (stepped : step game action = some next) : next.LocksHeld := by
  cases action with
  | sigint isGameRunning =>
      cases stepped
      cases isGameRunning with
      | true => exact locksHeld
      | false => exact locksHeld
  | main calls =>
      have ready := finished_of_joining stepped
      simp only [step, Option.map_eq_some_iff] at stepped
      obtain ⟨owners, performed, rfl⟩ := stepped
      have consistent := locksHeld.perform performed
      intro mutex party
      rw [consistent mutex party]
      cases party with
      | main =>
          rw [Function.update_self]
          exact iff_of_eq (congrArg (mutex ∈ ·) mainStep_held.symm)
      | word other =>
          rw [Function.update_of_ne (by simp)]
          exact iff_of_eq (congrArg (mutex ∈ ·)
            (mainStep_held_word owned ready other).symm)
  | word threadId dropDue =>
      simp only [step, Option.bind_eq_some_iff,
        Option.map_eq_some_iff] at stepped
      obtain ⟨thread, live, owners, performed, rfl⟩ := stepped
      obtain ⟨pc, threads, pcHeld⟩ := wordStep_thread live dropDue
      have sameMain := (wordStep_main game threadId thread dropDue).1
      have consistent := locksHeld.perform performed
      intro mutex party
      rw [consistent mutex party]
      apply iff_of_eq
      apply congrArg (mutex ∈ ·)
      cases party with
      | main =>
          rw [Function.update_of_ne (by simp)]
          simp only [held, sameMain]
      | word other =>
          by_cases same : other = threadId
          · subst same
            simp only [held, threads, Function.update_self, live, pcHeld]
          · rw [Function.update_of_ne (by simpa using same)]
            simp only [held, threads, Function.update_of_ne same]

theorem ordered (game : Game) :
    Locks.Ordered Mutex.rank game.operation game.held := by
  intro party mutex wants other holds
  cases party with
  | main => exact game.main.ordered game.words wants holds
  | word threadId =>
      simp only [operation, held] at wants holds
      cases live : game.threads threadId with
      | none =>
          rw [live] at holds
          cases holds
      | some thread =>
          rw [live] at wants holds
          exact thread.pc.ordered wants holds

theorem locksHeld_start
    (wordList : List CString) (area : GameArea) (input : InputLine) :
    (start wordList area input).LocksHeld := by
  intro mutex party
  cases party with
  | main => exact iff_of_false nofun (Finset.notMem_empty mutex)
  | word threadId => exact iff_of_false nofun (Finset.notMem_empty mutex)

/-- In every reachable game the owners hold the mutexes at their points. -/
theorem locksHeld_of_run
    {wordList : List CString} {area : GameArea} {input : InputLine}
    {actions : List GameAction}
    (ran : step.run (start wordList area input) actions = some game) :
    game.LocksHeld := by
  have kept := Machine.run_preserves
    (fun game => game.round.Owned ∧ game.LocksHeld)
    (fun game action next ⟨owned, locksHeld⟩ stepped =>
      ⟨(step_events stepped).preserve (fun _ _ owned => owned.event) owned,
        step_locksHeld owned locksHeld stepped⟩)
    ⟨owned_start wordList area input, locksHeld_start wordList area input⟩ ran
  exact kept.2

end Game

end RainTyping
