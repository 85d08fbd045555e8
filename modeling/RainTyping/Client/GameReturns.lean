import Mathlib.Algebra.BigOperators.Group.Finset.Basic
import Mathlib.Algebra.Order.BigOperators.Group.Finset
import RainTyping.Client.GameOver
import RainTyping.Client.Shutdown

/-!
# A game that ends returns

Once the game is over or a signal has come, every thread has a bounded number
of steps left, whatever the schedule is.  A game in which nobody can take a
step, not even with a key for the main thread, has returned if the threads had
finished before the last joins.
-/

namespace RainTyping

/-- The most steps a word thread still takes. -/
def WordPc.stepsLeft (gameOver : Bool) : WordPc → Nat
  | .top => 11
  | .signalLock => 10
  | .signalUnlock => if gameOver then 9 else 24
  | .activeLock => if gameOver then 8 else 23
  | .activeUnlock _ => if gameOver then 7 else 22
  | .overLock _ => if gameOver then 6 else 21
  | .overUnlock active seen => if !active || seen then 5 else 20
  | .intervalLock => 19
  | .intervalUnlock => 18
  | .dropLock => 17
  | .landHashLock => 16
  | .landHashUnlock => 15
  | .landStateLock => 14
  | .landStateUnlock => 13
  | .dropUnlock => 12
  | .exitLock => 4
  | .exitHashLock => 3
  | .exitHashUnlock => 2
  | .exitUnlock => 1
  | .finished => 0
  | .joined => 0

theorem WordPc.stepsLeft_le (pc : WordPc) (gameOver : Bool) :
    pc.stepsLeft gameOver ≤ 24 := by
  cases pc with
  | overUnlock active seen =>
      cases active <;> cases seen <;> simp [WordPc.stepsLeft]
  | _ => cases gameOver <;> simp [WordPc.stepsLeft]

def DrawPc.stepsLeft : DrawPc → Nat
  | .screenLock => 8
  | .stateLock => 7
  | .stateUnlock => 6
  | .levelLock => 5
  | .levelUnlock => 4
  | .wordsLock => 3
  | .wordsUnlock => 2
  | .screenUnlock => 1

/-- The most steps of the main thread from the head of its loop. -/
def loopSteps (listLength : Nat) : Nat :=
  2 * listLength + 99

/-- Once more around the loop, unless the end has been seen. -/
def againSteps (listLength : Nat) (seen : Bool) : Nat :=
  if seen then 0 else loopSteps listLength

/-- The most steps the main thread still takes, and the steps of a thread it
still starts.  If it has not seen the end, it goes round its loop again. -/
def MainPc.stepsLeft (listLength : Nat) (gameOver loopOver : Bool) :
    MainPc → Nat
  | .top => loopSteps listLength
  | .signalLock => 2 * listLength + 98
  | .signalUnlock =>
      2 * listLength + 97 + againSteps listLength gameOver
  | .overLock =>
      2 * listLength + 96 + againSteps listLength gameOver
  | .overUnlock => 2 * listLength + 95 + againSteps listLength loopOver
  | .inputOverLock _ => 2 * listLength + 94 + againSteps listLength loopOver
  | .inputOverUnlock _ _ =>
      2 * listLength + 93 + againSteps listLength loopOver
  | .inputLock => 2 * listLength + 92 + againSteps listLength loopOver
  | .inputHashLock _ _ => 2 * listLength + 91 + againSteps listLength loopOver
  | .inputHashUnlock _ _ =>
      2 * listLength + 90 + againSteps listLength loopOver
  | .inputUnlock _ => 2 * listLength + 89 + againSteps listLength loopOver
  | .scoreLock _ _ => 2 * listLength + 88 + againSteps listLength loopOver
  | .scoreUnlock => 2 * listLength + 87 + againSteps listLength loopOver
  | .spawnCheckLock => 2 * listLength + 86 + againSteps listLength loopOver
  | .spawnCheckUnlock _ => 2 * listLength + 85 + againSteps listLength loopOver
  | .spawnLock => 2 * listLength + 84 + againSteps listLength loopOver
  | .pickLock _ tries _ =>
      2 * (listLength + 1 - tries) + 83 + againSteps listLength loopOver
  | .pickUnlock _ tries _ _ =>
      2 * (listLength + 1 - tries) + 82 + againSteps listLength loopOver
  | .addLock _ => 81 + againSteps listLength loopOver
  | .addUnlock _ => 80 + againSteps listLength loopOver
  | .undoLock _ => 68 + againSteps listLength loopOver
  | .undoUnlock => 67 + againSteps listLength loopOver
  | .spawnUnlock => 66 + againSteps listLength loopOver
  | .draw false pc => 57 + pc.stepsLeft + againSteps listLength loopOver
  | .joinLock .cleanupFinishedThreads => 57 + againSteps listLength loopOver
  | .joining .cleanupFinishedThreads slot =>
      56 - slot + againSteps listLength loopOver
  | .joinUnlock .cleanupFinishedThreads => 36 + againSteps listLength loopOver
  | .draw true pc => 27 + pc.stepsLeft
  | .keyWait => 27
  | .requestLock => 26
  | .requestUnlock => 25
  | .joinLock .safeGameCleanup => 24
  | .joining .safeGameCleanup slot => 23 - slot
  | .joinUnlock .safeGameCleanup => 3
  | .clearLock => 2
  | .clearUnlock => 1
  | .returned _ => 0

theorem nextRemovable_bound
    {words : Words} {start : Nat} {index : Fin maxWords}
    (next : nextRemovable words start = some index) : start ≤ index.val := by
  have passes := List.find?_some next
  simp only [decide_eq_true_eq] at passes
  exact passes.1

/-! ## Operations and mutexes -/

theorem WordPc.mem_held_of_unlock
    (pc : WordPc) {mutex : Mutex} (gives : pc.operation = .unlock mutex) :
    mutex ∈ pc.held := by
  cases pc <;> simp_all [WordPc.operation, WordPc.held]

theorem WordPc.held_of_stop
    (pc : WordPc) (stops : pc.operation = .stop) : pc.held = ∅ := by
  cases pc <;> simp_all [WordPc.operation, WordPc.held]

theorem MainPc.mem_held_of_unlock
    (pc : MainPc) (words : Words) {mutex : Mutex}
    (gives : pc.operation words = .unlock mutex) : mutex ∈ pc.held := by
  cases pc with
  | draw last pc =>
      cases pc <;>
        simp_all [MainPc.operation, DrawPc.operation, MainPc.held, DrawPc.held]
  | _ => simp_all [MainPc.operation, MainPc.held]

theorem MainPc.returned_of_stop
    (pc : MainPc) (words : Words) (stops : pc.operation words = .stop) :
    ∃ score, pc = .returned score := by
  cases pc with
  | returned score => exact ⟨score, rfl⟩
  | draw last pc => cases pc <;> cases stops
  | _ => cases stops

/-- The signal handler does not count. -/
def GameAction.IsThreadStep : GameAction → Prop
  | .sigint _ => False
  | _ => True

instance : DecidablePred GameAction.IsThreadStep
  | .sigint _ => isFalse id
  | .main _ => isTrue trivial
  | .word _ _ => isTrue trivial

namespace Game

/-- The game is over, or a signal has come. -/
def Ending (game : Game) : Prop :=
  game.isOver = true ∨ game.signaled = true

def mainSteps (game : Game) : Nat :=
  game.main.stepsLeft game.wordList.length game.isOver game.loopOver

def threadSteps (game : Game) (threadId : Nat) : Nat :=
  match game.threads threadId with
  | some thread => thread.pc.stepsLeft game.isOver
  | none => 0

/-- The most steps all threads still take. -/
def stepsLeft (game : Game) : Nat :=
  game.mainSteps + ∑ threadId ∈ Finset.range game.nextThreadId,
    game.threadSteps threadId

variable {game next : Game} {slot : Fin maxWords} {threadId : Nat}
  {thread : WordThread} {calls : MainCalls}

/-! ## The main thread -/

private theorem againSteps_true (listLength : Nat) :
    againSteps listLength true = 0 :=
  rfl

private theorem mainSteps_tryPick (tries : Nat) :
    (game.tryPick slot tries calls).mainSteps + 1 ≤
        2 * (game.wordList.length + 2 - tries) + 82 +
          againSteps game.wordList.length game.loopOver ∧
      (game.tryPick slot tries calls).nextThreadId = game.nextThreadId := by
  unfold tryPick
  simp only
  split
  · refine ⟨?_, rfl⟩
    simp only [fillSlot, goto, setWord, mainSteps, MainPc.stepsLeft]
    omega
  · refine ⟨?_, rfl⟩
    simp only [goto, mainSteps, MainPc.stepsLeft]
    omega

private theorem mainSteps_joinFrom
    (loop : JoinLoop) (start : Nat) (early : start ≤ 20) :
    (game.joinFrom loop start).mainSteps + start ≤
        MainPc.stepsLeft game.wordList.length game.isOver game.loopOver
          (.joining loop 0) ∧
      (game.joinFrom loop start).nextThreadId = game.nextThreadId := by
  unfold joinFrom
  split
  · rename_i found next
    have later := nextRemovable_bound next
    have bound := found.isLt
    refine ⟨?_, rfl⟩
    cases loop <;>
      simp only [goto, mainSteps, MainPc.stepsLeft, Fin.val_zero] <;> omega
  · refine ⟨?_, rfl⟩
    cases loop <;>
      simp only [goto, mainSteps, MainPc.stepsLeft, Fin.val_zero] <;> omega

theorem mainSteps_mainStep
    (ending : game.Ending) (runs : ∀ score, game.main ≠ .returned score)
    (calls : MainCalls) :
    (game.mainStep calls).mainSteps +
        11 * ((game.mainStep calls).nextThreadId - game.nextThreadId) + 1 ≤
      game.mainSteps := by
  cases current : game.main with
  | top =>
      simp only [mainStep, current]
      split
      · simp only [goto, mainSteps, MainPc.stepsLeft, current, loopSteps]
        omega
      · rename_i unsignaled
        have ended : game.isOver = true := ending.resolve_right unsignaled
        simp only [goto, mainSteps, MainPc.stepsLeft, current, loopSteps,
          ended, againSteps_true]
        omega
  | signalLock =>
      simp only [mainStep, goto, mainSteps, MainPc.stepsLeft, current,
        againSteps_true]
      omega
  | overUnlock =>
      simp only [mainStep, current]
      split <;>
        simp only [goto, mainSteps, MainPc.stepsLeft, current] <;> omega
  | inputOverUnlock key gameOver =>
      simp only [mainStep, current, handleKey]
      split_ifs <;>
        simp only [goto, mainSteps, MainPc.stepsLeft, current] <;> omega
  | inputLock =>
      simp only [mainStep, current, chooseTarget]
      split <;>
        simp only [goto, settle, setWord, mainSteps, MainPc.stepsLeft,
          current] <;> omega
  | inputUnlock target =>
      cases target <;>
        simp only [mainStep, goto, mainSteps, MainPc.stepsLeft, current] <;>
        omega
  | scoreLock target wtype =>
      cases wtype <;>
        simp only [mainStep, scoreWord, goto, mainSteps, MainPc.stepsLeft,
          current] <;> omega
  | spawnCheckUnlock canSpawn =>
      simp only [mainStep, current]
      split <;>
        simp only [goto, mainSteps, MainPc.stepsLeft, DrawPc.stepsLeft,
          current] <;> omega
  | spawnLock =>
      simp only [mainStep, current, chooseSlot]
      split
      · rename_i found free
        obtain ⟨less, sameNext⟩ := @mainSteps_tryPick
          (game.setWord found (game.words found).release) found calls 1
        rw [sameNext]
        simp only [setWord] at less ⊢
        simp only [mainSteps, MainPc.stepsLeft, current] at less ⊢
        omega
      · simp only [goto, mainSteps, MainPc.stepsLeft, current]
        omega
  | pickUnlock slot tries pick taken =>
      simp only [mainStep, current]
      split
      · obtain ⟨less, sameNext⟩ :=
          @mainSteps_tryPick game slot calls (tries + 1)
        rw [sameNext]
        simp only [mainSteps, MainPc.stepsLeft, current] at less ⊢
        omega
      · simp only [fillSlot, goto, setWord, mainSteps, MainPc.stepsLeft,
          current]
        omega
  | addUnlock slot =>
      simp only [mainStep, current, createThread]
      split <;>
        simp only [goto, setWord, setThread, mainSteps, MainPc.stepsLeft,
          current] <;> omega
  | draw last pc =>
      cases pc <;> cases last <;> cases signaled : game.sigintReceived <;>
        simp only [mainStep, goto, mainSteps, MainPc.stepsLeft,
          DrawPc.stepsLeft, DrawPc.next, current, signaled, ↓reduceIte,
          Bool.false_eq_true, Bool.not_true, Bool.not_false] <;> omega
  | joinLock loop =>
      obtain ⟨less, sameNext⟩ := @mainSteps_joinFrom game loop 0 (by omega)
      simp only [mainStep, current]
      rw [sameNext]
      cases loop <;>
        simp only [mainSteps, MainPc.stepsLeft, current, Fin.val_zero]
          at less ⊢ <;> omega
  | joining loop slot =>
      obtain ⟨less, sameNext⟩ :=
        @mainSteps_joinFrom (game.collectSlot slot) loop (slot + 1) slot.isLt
      simp only [mainStep, current]
      rw [sameNext]
      cases loop <;>
        simp only [mainSteps, MainPc.stepsLeft, current, Fin.val_zero,
          collectSlot] at less ⊢ <;> omega
  | joinUnlock loop =>
      cases loop with
      | cleanupFinishedThreads =>
          simp only [mainStep, current]
          split
          · simp only [goto, mainSteps, MainPc.stepsLeft, DrawPc.stepsLeft,
              current]
            omega
          · rename_i again
            simp only [goto, mainSteps, MainPc.stepsLeft, againSteps, current,
              if_neg again]
            omega
      | safeGameCleanup =>
          simp only [mainStep, goto, mainSteps, MainPc.stepsLeft, current]
          omega
  | spawnUnlock =>
      simp only [mainStep, goto, mainSteps, MainPc.stepsLeft,
        DrawPc.stepsLeft, current]
      omega
  | returned score => exact absurd current (runs score)
  | _ =>
      simp only [mainStep, current, goto, mainSteps, MainPc.stepsLeft,
        removeActive]
      omega

/-! ## The word threads -/

private theorem stepsLeft_over
    {pc : WordPc} {before after : Bool}
    (later : before = true → after = true) :
    pc.stepsLeft after ≤ pc.stepsLeft before := by
  cases before with
  | true => rw [later rfl]
  | false => cases pc <;> cases after <;> simp [WordPc.stepsLeft]

private theorem threadSteps_wordStep
    (ending : game.Ending) (runs : thread.pc.operation ≠ .stop)
    (threadId : Nat) (dropDue : Bool) :
    (game.wordStep threadId thread dropDue).threadSteps threadId + 1 ≤
      thread.pc.stepsLeft game.isOver := by
  cases current : thread.pc with
  | top =>
      simp only [wordStep, current, threadSteps, setThread,
        Function.update_self]
      split
      · simp only [WordPc.stepsLeft]
        omega
      · rename_i unsignaled
        have ended : game.isOver = true := ending.resolve_right unsignaled
        simp only [WordPc.stepsLeft, ended, ↓reduceIte]
        omega
  | overLock active =>
      simp only [wordStep, current, threadSteps, setThread,
        Function.update_self]
      cases game.isOver <;> cases active <;> simp [WordPc.stepsLeft]
  | overUnlock active gameOver =>
      simp only [wordStep, current, threadSteps, setThread,
        Function.update_self]
      split_ifs with leaves <;> simp [WordPc.stepsLeft, leaves]
  | intervalUnlock =>
      simp only [wordStep, current, threadSteps, setThread,
        Function.update_self]
      split <;> simp [WordPc.stepsLeft]
  | dropLock =>
      simp only [wordStep, current, threadSteps, setThread,
        Function.update_self]
      split <;> simp [WordPc.stepsLeft]
  | finished =>
      rw [current] at runs
      exact absurd rfl runs
  | joined =>
      rw [current] at runs
      exact absurd rfl runs
  | signalLock =>
      simp only [wordStep, current, threadSteps, setThread,
        Function.update_self, WordPc.stepsLeft, ↓reduceIte]
      omega
  | signalUnlock =>
      simp only [wordStep, current, threadSteps, setThread,
        Function.update_self, WordPc.stepsLeft]
      split <;> omega
  | activeLock =>
      simp only [wordStep, current, threadSteps, setThread,
        Function.update_self, WordPc.stepsLeft]
      split <;> omega
  | activeUnlock active =>
      simp only [wordStep, current, threadSteps, setThread,
        Function.update_self, WordPc.stepsLeft]
      split <;> omega
  | _ =>
      simp only [wordStep, current, threadSteps, setThread,
        Function.update_self, WordPc.stepsLeft]
      omega

/-! ## All threads -/

/-- Only a new thread adds to the steps of the word threads. -/
private theorem sum_mainStep
    (owned : game.round.Owned) (calls : MainCalls) :
    ∑ threadId ∈ Finset.range (game.mainStep calls).nextThreadId,
        (game.mainStep calls).threadSteps threadId ≤
      ∑ threadId ∈ Finset.range game.nextThreadId, game.threadSteps threadId +
        11 * ((game.mainStep calls).nextThreadId - game.nextThreadId) := by
  have later : game.isOver = true → (game.mainStep calls).isOver = true :=
    fun ended => (windsDown_mainStep ended calls).ended
  have change : game.ThreadChange (game.mainStep calls).threads :=
    mainStep_threads
  have fresh := thread_fresh owned
  have old : ∀ threadId, threadId < game.nextThreadId →
      (game.mainStep calls).threadSteps threadId ≤
        game.threadSteps threadId := by
    intro threadId earlier
    unfold threadSteps
    generalize (game.mainStep calls).threads = threads at change
    cases change with
    | none =>
        cases game.threads threadId with
        | none => exact Nat.le_refl 0
        | some thread => exact stepsLeft_over later
    | start slot starts =>
        rw [Function.update_of_ne (Nat.ne_of_lt earlier)]
        cases game.threads threadId with
        | none => exact Nat.le_refl 0
        | some thread => exact stepsLeft_over later
    | join loop slot joins =>
        simp only [collectSlot]
        by_cases same : threadId = (game.words slot).threadId
        · subst same
          rw [Function.update_self]
          cases game.threads (game.words slot).threadId with
          | none => exact Nat.le_refl 0
          | some thread => exact Nat.zero_le _
        · rw [Function.update_of_ne same]
          cases game.threads threadId with
          | none => exact Nat.le_refl 0
          | some thread => exact stepsLeft_over later
  have new : (game.mainStep calls).threadSteps game.nextThreadId ≤ 11 := by
    unfold threadSteps
    generalize (game.mainStep calls).threads = threads at change
    cases change with
    | none =>
        rw [fresh]
        exact Nat.zero_le 11
    | start slot starts =>
        rw [Function.update_self]
        exact Nat.le_refl 11
    | join loop slot joins =>
        simp only [collectSlot]
        by_cases same : game.nextThreadId = (game.words slot).threadId
        · rw [← same, Function.update_self, fresh]
          exact Nat.zero_le 11
        · rw [Function.update_of_ne same, fresh]
          exact Nat.zero_le 11
  have sum := Finset.sum_le_sum fun threadId member =>
    old threadId (Finset.mem_range.mp member)
  have spawned : game.SpawnChange calls (game.mainStep calls) :=
    mainStep_spawned
  cases spawned with
  | kept sameSpawned sameNext fewer =>
      rw [sameNext]
      exact sum.trans (Nat.le_add_right _ _)
  | begun sameSpawned sameNext checks isDue one =>
      rw [sameNext]
      exact sum.trans (Nat.le_add_right _ _)
  | started place starts spawned newThread done =>
      rw [newThread, Finset.sum_range_succ, Nat.add_sub_cancel_left]
      omega

private theorem stepsLeft_mainStep
    (owned : game.round.Owned) (ending : game.Ending)
    (runs : ∀ score, game.main ≠ .returned score) (calls : MainCalls) :
    (game.mainStep calls).stepsLeft + 1 ≤ game.stepsLeft := by
  have main := mainSteps_mainStep ending runs calls
  have sum := sum_mainStep owned calls
  unfold stepsLeft
  omega

private theorem againSteps_le
    (listLength : Nat) {before after : Bool}
    (later : before = true → after = true) :
    againSteps listLength after ≤ againSteps listLength before := by
  cases before with
  | true => rw [later rfl]
  | false => cases after <;> simp [againSteps]

/-- The end of the game leaves the main thread no more to do. -/
private theorem mainSteps_over
    {pc : MainPc} {listLength : Nat} {loopOver before after : Bool}
    (later : before = true → after = true) :
    pc.stepsLeft listLength after loopOver ≤
      pc.stepsLeft listLength before loopOver := by
  have again := againSteps_le listLength later
  cases pc with
  | signalUnlock => exact Nat.add_le_add_left again _
  | overLock => exact Nat.add_le_add_left again _
  | draw last pc => cases last <;> exact Nat.le_refl _
  | joinLock loop => cases loop <;> exact Nat.le_refl _
  | joining loop slot => cases loop <;> exact Nat.le_refl _
  | joinUnlock loop => cases loop <;> exact Nat.le_refl _
  | _ => exact Nat.le_refl _

private theorem stepsLeft_wordStep
    (owned : game.round.Owned) (ending : game.Ending)
    (live : game.threads threadId = some thread)
    (runs : thread.pc.operation ≠ .stop) (dropDue : Bool) :
    (game.wordStep threadId thread dropDue).stepsLeft + 1 ≤
      game.stepsLeft := by
  have later : game.isOver = true →
      (game.wordStep threadId thread dropDue).isOver = true :=
    fun ended => (windsDown_wordStep ended threadId thread dropDue).ended
  have sameMain := (wordStep_main game threadId thread dropDue).1
  obtain ⟨_, _, sameList, sameLoop⟩ :=
    @wordStep_constants game threadId thread dropDue
  obtain ⟨_, sameNext⟩ := @wordStep_spawned game threadId thread dropDue
  obtain ⟨pc, _, threads⟩ := wordStep_successor live dropDue
  have main : (game.wordStep threadId thread dropDue).mainSteps ≤
      game.mainSteps := by
    rw [mainSteps, sameMain, sameList, sameLoop]
    exact mainSteps_over later
  have issued : threadId < game.nextThreadId :=
    (owned.issued _ _ (round_threads_of_live live)).2
  have own : (game.wordStep threadId thread dropDue).threadSteps threadId <
      game.threadSteps threadId := by
    have less := threadSteps_wordStep ending runs threadId dropDue
    simp only [threadSteps, live]
    exact less
  have others : ∀ other ∈ Finset.range game.nextThreadId,
      (game.wordStep threadId thread dropDue).threadSteps other ≤
        game.threadSteps other := by
    intro other _
    by_cases same : other = threadId
    · subst same
      exact Nat.le_of_lt own
    · simp only [threadSteps, threads, Function.update_of_ne same]
      cases game.threads other with
      | none => exact Nat.le_refl 0
      | some thread => exact stepsLeft_over later
  have sum := Finset.sum_lt_sum others
    ⟨threadId, Finset.mem_range.mpr issued, own⟩
  unfold stepsLeft
  rw [sameNext]
  omega

private theorem mainSteps_le :
    game.mainSteps ≤ 4 * game.wordList.length + 196 := by
  have again : ∀ seen, againSteps game.wordList.length seen ≤
      loopSteps game.wordList.length := by
    intro seen
    cases seen with
    | true => exact Nat.zero_le _
    | false => exact Nat.le_refl _
  have ended := again game.isOver
  have loop := again game.loopOver
  unfold loopSteps at ended loop
  unfold mainSteps
  cases game.main with
  | draw last pc =>
      cases last <;> cases pc <;>
        simp only [MainPc.stepsLeft, DrawPc.stepsLeft] <;> omega
  | joinLock loop => cases loop <;> simp only [MainPc.stepsLeft] <;> omega
  | joining loop slot => cases loop <;> simp only [MainPc.stepsLeft] <;> omega
  | joinUnlock loop => cases loop <;> simp only [MainPc.stepsLeft] <;> omega
  | _ =>
      simp only [MainPc.stepsLeft, loopSteps]
      omega

private theorem stepsLeft_le :
    game.stepsLeft ≤
      4 * game.wordList.length + 196 + 24 * game.nextThreadId := by
  have main : game.mainSteps ≤ 4 * game.wordList.length + 196 := mainSteps_le
  have each : ∀ threadId ∈ Finset.range game.nextThreadId,
      game.threadSteps threadId ≤ 24 := by
    intro threadId _
    unfold threadSteps
    cases game.threads threadId with
    | none => exact Nat.zero_le 24
    | some thread => exact thread.pc.stepsLeft_le game.isOver
  have sum := Finset.sum_le_sum each
  rw [Finset.sum_const, Finset.card_range] at sum
  change _ ≤ game.nextThreadId * 24 at sum
  unfold stepsLeft
  omega

/-! ## Every run -/

/-- No thread can take a step. -/
def Stuck (game : Game) : Prop :=
  (∀ calls, step game (.main calls) = none) ∧
    ∀ threadId dropDue, step game (.word threadId dropDue) = none

/-- Owners, mutexes and joins in order. -/
structure InOrder (game : Game) : Prop where
  owned : game.round.Owned
  locksHeld : game.LocksHeld
  joining : game.Joining

private theorem ending_step
    {action : GameAction} (ending : game.Ending)
    (stepped : step game action = some next) : next.Ending := by
  cases action with
  | sigint isGameRunning =>
      cases stepped
      rcases ending with ended | signaled
      · refine .inl ?_
        unfold handleSigint
        split <;> exact ended
      · refine .inr ?_
        unfold handleSigint
        split <;> simp [Game.signaled]
  | main calls =>
      simp only [step, Option.map_eq_some_iff] at stepped
      obtain ⟨owners, performed, rfl⟩ := stepped
      exact ending.imp (fun ended => (windsDown_mainStep ended calls).ended)
        mainStep_constants.2.trans
  | word threadId dropDue =>
      simp only [step, Option.bind_eq_some_iff,
        Option.map_eq_some_iff] at stepped
      obtain ⟨thread, live, owners, performed, rfl⟩ := stepped
      exact ending.imp
        (fun ended => (windsDown_wordStep ended threadId thread dropDue).ended)
        wordStep_constants.2.1.trans

private theorem stepsLeft_step
    {action : GameAction} (owned : game.round.Owned) (ending : game.Ending)
    (stepped : step game action = some next) :
    next.stepsLeft + (if action.IsThreadStep then 1 else 0) ≤
      game.stepsLeft := by
  cases action with
  | sigint isGameRunning =>
      cases stepped
      unfold handleSigint
      split <;> exact Nat.le_refl _
  | main calls =>
      simp only [step, Option.map_eq_some_iff] at stepped
      obtain ⟨owners, performed, rfl⟩ := stepped
      have runs : ∀ score, game.main ≠ .returned score := by
        intro score returned
        rw [operation, returned] at performed
        cases performed
      exact stepsLeft_mainStep owned ending runs calls
  | word threadId dropDue =>
      simp only [step, Option.bind_eq_some_iff,
        Option.map_eq_some_iff] at stepped
      obtain ⟨thread, live, owners, performed, rfl⟩ := stepped
      have runs : thread.pc.operation ≠ .stop := by
        intro stops
        rw [stops] at performed
        cases performed
      exact stepsLeft_wordStep owned ending live runs dropDue

private theorem inOrder_step
    {action : GameAction} (inOrder : game.InOrder)
    (guard : game.JoinsFinished action)
    (stepped : step game action = some next) : next.InOrder :=
  ⟨(step_events stepped).preserve (fun _ _ owned => owned.event) inOrder.owned,
    step_locksHeld inOrder.owned inOrder.locksHeld stepped,
    step_keepsJoining inOrder.owned inOrder.joining guard stepped⟩

theorem inOrder_start
    (wordList : List CString) (area : GameArea) (input : InputLine) :
    (start wordList area input).InOrder := by
  constructor
  case owned => exact owned_start wordList area input
  case locksHeld => exact locksHeld_start wordList area input
  case joining =>
      constructor
      case marked =>
          intro loop slot joins
          cases joins
      case ended =>
          intro current joins
          cases joins

private theorem mem_held_of_unlock
    (party : Party) (mutex : Mutex)
    (gives : game.operation party = .unlock mutex) :
    mutex ∈ game.held party := by
  cases party with
  | main => exact game.main.mem_held_of_unlock game.words gives
  | word threadId =>
      simp only [operation, held] at gives ⊢
      cases live : game.threads threadId with
      | none =>
          rw [live] at gives
          cases gives
      | some thread =>
          rw [live] at gives
          exact thread.pc.mem_held_of_unlock gives

private theorem held_of_stop
    (party : Party) (stops : game.operation party = .stop) :
    game.held party = ∅ := by
  cases party with
  | main =>
      obtain ⟨score, returned⟩ := game.main.returned_of_stop game.words stops
      rw [held, returned]
      rfl
  | word threadId =>
      simp only [operation, held] at stops ⊢
      cases live : game.threads threadId with
      | none => rfl
      | some thread =>
          rw [live] at stops
          exact thread.pc.held_of_stop stops

/-- Where no thread can take a step, the main thread has returned. -/
private theorem returned_of_stuck
    (inOrder : game.InOrder) (stuck : game.Stuck) :
    ∃ score, game.main = .returned score := by
  apply game.main.returned_of_stop game.words
  by_contra running
  have runs : game.operation .main ≠ .stop := running
  have bounded : ∀ mutex : Mutex, mutex.rank < 3 := by
    intro mutex
    cases mutex <;> decide
  obtain ⟨party, owners, performed⟩ :=
    Locks.exists_performs inOrder.locksHeld game.ordered
      (joinsReady inOrder.owned inOrder.locksHeld inOrder.joining)
      mem_held_of_unlock held_of_stop bounded runs
  cases party with
  | main =>
      have stays := stuck.1 .idle
      simp only [step, performed, Option.map_some] at stays
      cases stays
  | word threadId =>
      have stays := stuck.2 threadId false
      simp only [operation] at performed
      cases live : game.threads threadId with
      | none =>
          rw [live] at performed
          cases performed
      | some thread =>
          rw [live] at performed
          simp only [step, live, Option.bind_some, performed,
            Option.map_some] at stays
          cases stays

/-- From the end of a game on the threads take a bounded number of steps.
Where they cannot take another one the game has returned, if the last joins
came after the end of the threads. -/
theorem returns_of_ending
    (wordList : List CString) (area : GameArea) (input : InputLine)
    (actions more : List GameAction) (game final : Game)
    (ran : step.run (start wordList area input) actions = some game)
    (ending : game.isOver = true ∨ game.signaled = true)
    (ranOn : step.run game more = some final) :
    more.countP (fun action => action.IsThreadStep) ≤
        4 * game.wordList.length + 196 + 24 * game.nextThreadId ∧
      (step.Meets JoinsFinished (start wordList area input)
          (actions ++ more) →
        final.Stuck → ∃ score, final.main = .returned score) := by
  constructor
  · let invariant := fun (game : Game) (work : Nat) =>
      game.round.Owned ∧ game.Ending ∧ game.stepsLeft ≤ work
    have initial : invariant game game.stepsLeft :=
      ⟨owned_of_run ran, ending, Nat.le_refl _⟩
    have preserved : ∀ game action next work, invariant game work → True →
        step game action = some next →
          ∃ left, invariant next left ∧
            left + (if action.IsThreadStep then 1 else 0) ≤ work := by
      intro game action next work ⟨owned, ending, less⟩ _ stepped
      have owned' := (step_events stepped).preserve
        (fun _ _ owned => owned.event) owned
      have fewer := stepsLeft_step owned ending stepped
      exact ⟨next.stepsLeft,
        ⟨owned', ending_step ending stepped, Nat.le_refl _⟩,
        fewer.trans less⟩
    obtain ⟨left, _, spent⟩ := Machine.run_work invariant preserved initial
      (fun _ _ => trivial) ranOn
    have bound := game.stepsLeft_le
    omega
  · intro orderly stuck
    apply returned_of_stuck _ stuck
    apply Machine.run_invariant InOrder _ (inOrder_start _ _ _) orderly
      (Machine.run_append_eq_some_iff.mpr ⟨game, ran, ranOn⟩)
    intro game action next inOrder guard stepped
    exact inOrder_step inOrder guard stepped

/-- A word is spawned and the player quits. -/
def askedToQuit : List GameAction :=
  List.replicate 21 (.main .spawnNow) ++ [.sigint true]

/-- The game ends, the word's thread finishes before the last joins, and the
player presses a key. -/
def quitsThen : List GameAction :=
  List.replicate 25 (.main .idle) ++ List.replicate 11 (.word 1 false) ++
    .main (.pressKey 10) :: List.replicate 7 (.main .idle)

/-- The game as the player quits. -/
def quitting : Game :=
  (step.run (start oneWord smallArea .blank) askedToQuit).get
    (by decide +kernel)

private theorem ran_quitsThen :
    ∃ game final,
      step.run (start oneWord smallArea .blank) askedToQuit = some game ∧
        game.signaled = true ∧ step.run game quitsThen = some final ∧
          final.main = .returned 0 ∧ final.nextThreadId = 2 ∧
            final.threads 1 = some ⟨0, .joined⟩ := by
  refine ⟨quitting, _, (Option.some_get _).symm, rfl, rfl, ?_⟩
  decide

set_option maxRecDepth 40000 in
private theorem orderly_quitsThen :
    step.Meets JoinsFinished (start oneWord smallArea .blank)
      (askedToQuit ++ quitsThen) := by
  decide

/-- A returned game whose only thread is joined cannot go on. -/
private theorem stuck_of_joined
    {score : Int32} {slot : Fin maxWords} (owned : game.round.Owned)
    (returned : game.main = .returned score) (one : game.nextThreadId = 2)
    (joined : game.threads 1 = some ⟨slot, .joined⟩) : game.Stuck := by
  constructor
  · intro calls
    simp [step, operation, returned, MainPc.operation, Locks.perform]
  · intro threadId dropDue
    cases live : game.threads threadId with
    | none => simp [step, live]
    | some thread =>
        have issued := owned.issued threadId _ (round_threads_of_live live)
        have only : threadId = 1 := by
          have below : threadId < game.nextThreadId := issued.2
          have positive := issued.1
          omega
        subst only
        rw [joined] at live
        cases live
        simp [step, joined, WordPc.operation, Locks.perform]

theorem returns_of_askedToQuit :
    ∃ game final,
      step.run (start oneWord smallArea .blank) askedToQuit = some game ∧
        step.run game quitsThen = some final ∧
          quitsThen.countP (fun action => action.IsThreadStep) ≤
            4 * game.wordList.length + 196 + 24 * game.nextThreadId ∧
          ∃ score, final.main = .returned score := by
  obtain ⟨game, final, ran, signaled, ranOn, returned, one, joined⟩ :=
    ran_quitsThen
  obtain ⟨bounded, returns⟩ := returns_of_ending oneWord smallArea .blank
    askedToQuit quitsThen game final ran (.inr signaled) ranOn
  have owned := owned_of_run
    (Machine.run_append_eq_some_iff.mpr ⟨game, ran, ranOn⟩)
  have stuck := stuck_of_joined owned returned one joined
  exact ⟨game, final, ran, ranOn, bounded, returns orderly_quitsThen stuck⟩

end Game

end RainTyping
