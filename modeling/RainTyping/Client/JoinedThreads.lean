import RainTyping.Client.Shutdown

/-!
# Threads are joined once

Every thread that `spawn_word` starts is joined by `cleanup_finished_threads`
or by `safe_game_cleanup`, and only once.  Both look for it in its slot, so a
thread is forgotten when `spawn_word` takes the slot of a thread that has
finished and has not been joined.
-/

namespace RainTyping

/-- The slots that the joins of `safe_game_cleanup` have passed. -/
def MainPc.passed : MainPc → Nat
  | .joining .safeGameCleanup slot => slot
  | .joinUnlock .safeGameCleanup => maxWords
  | .clearLock => maxWords
  | .clearUnlock => maxWords
  | .returned _ => maxWords
  | _ => 0

/-- After the call of `safe_game_cleanup` every thread is asked to finish. -/
def Round.AllMarked (round : Round) : Prop :=
  round.phase = .closing → ∀ slot, (round.words slot).threadId ≠ 0 →
    (round.words slot).toRemove = true

namespace Game

/-- The thread whose `pthread_join` returns in a step. -/
def joinedBy (game : Game) : GameAction → Option Nat
  | .main _ =>
      match game.main with
      | .joining _ slot => some (game.words slot).threadId
      | _ => none
  | _ => none

/-- A slot is taken again only when its thread has been joined. -/
def ReusesJoined (game : Game) : GameAction → Prop
  | .main _ =>
      game.main = .spawnLock → ∀ slot, freeSlot game.words = some slot →
        (game.words slot).threadId = 0
  | _ => True

instance (game : Game) (action : GameAction) :
    Decidable (game.ReusesJoined action) :=
  match action with
  | .main _ => inferInstanceAs (Decidable (_ → _))
  | .word _ _ => isTrue trivial
  | .sigint _ => isTrue trivial

/-- The joins of a run: each is the first one of a started thread, and when
the game has returned, every started thread has had one. -/
structure JoinsOnce (game : Game) (joins : List Nat) : Prop where
  fresh : ∀ loop slot, game.main = .joining loop slot →
    (game.threads (game.words slot).threadId).isSome ∧
      (game.words slot).threadId ∉ joins
  complete : ∀ score, game.main = .returned score →
    ∀ threadId, (game.threads threadId).isSome → joins.count threadId = 1

def wasJoined (game : Game) (threadId : Nat) : Bool :=
  match game.threads threadId with
  | some thread => thread.pc = .joined
  | none => false

/-- Every thread that is not joined is held by its slot, and the others have
had their join. -/
structure Collecting (game : Game) (joins : List Nat) : Prop where
  held : ∀ threadId thread, game.threads threadId = some thread →
    thread.pc ≠ .joined → (game.words thread.slot).threadId = threadId
  counted : ∀ threadId,
    joins.count threadId = if game.wasJoined threadId then 1 else 0

/-- The slots that the last joins have passed are empty. -/
def Emptied (game : Game) : Prop :=
  ∀ slot : Fin maxWords, slot.val < game.main.passed →
    (game.words slot).threadId = 0

end Game

variable {words : Words} {slot other : Fin maxWords}

/-! ## What a search for the next join has passed -/

private theorem not_removable_of_next
    {start : Nat} {found : Fin maxWords}
    (next : nextRemovable words start = some found)
    (within : start ≤ other.val) (before : other < found) :
    ¬(words other).Removable := by
  obtain ⟨_, passed, rest, split, missed⟩ :=
    List.find?_eq_some_iff_append.mp next
  have sorted := List.pairwise_lt_finRange maxWords
  have member := List.mem_finRange other
  rw [split] at sorted member
  rcases List.mem_append.mp member with earlier | later
  · have unfit := missed other earlier
    simp only [Bool.not_eq_true', decide_eq_false_iff_not, not_and] at unfit
    exact unfit within
  · have behind := (List.pairwise_append.mp sorted).2.1
    rcases List.mem_cons.mp later with same | later
    · exact absurd before (same ▸ lt_irrefl _)
    · have after := (List.pairwise_cons.mp behind).1 other later
      exact absurd (before.trans after) (lt_irrefl _)

private theorem not_removable_of_none
    {start : Nat} (none : nextRemovable words start = none)
    (within : start ≤ other.val) : ¬(words other).Removable := by
  have unfit := List.find?_eq_none.mp none other (List.mem_finRange other)
  simpa [within] using unfit

/-! ## Threads asked to finish -/

namespace Round

variable {round next : Round}

private theorem AllMarked.setWord
    (marked : round.AllMarked) {word : Word}
    (kept : round.phase = .closing → word.threadId ≠ 0 →
      word.toRemove = true) :
    (round.setWord slot word).AllMarked := by
  intro closing other
  simp only [Round.setWord, Words.set_apply]
  split
  · exact kept closing
  · exact marked closing other

theorem AllMarked.event
    (marked : round.AllMarked) (event : Event round next) :
    next.AllMarked := by
  have dropped : ∀ slot areaHeight, (round.setWord slot
      ((round.words slot).drop areaHeight)).AllMarked := by
    intro slot areaHeight
    apply marked.setWord
    rw [drop_threadId, drop_toRemove]
    exact fun closing => marked closing slot
  cases event with
  | endGame => exact marked
  | drop threadId slot areaHeight falling stays =>
      exact dropped slot areaHeight
  | reachGround threadId slot areaHeight falling active down =>
      exact dropped slot areaHeight
  | land threadId slot landing =>
      intro closing other
      simp only [setThread, land_phase, land_words] at closing ⊢
      exact marked closing other
  | leave threadId slot falling =>
      exact marked.setWord fun _ _ => rfl
  | collect slot other calm exited =>
      exact marked.setWord fun _ some => absurd rfl some
  | close playing =>
      intro _ slot some
      simp only [goto, requestRemoval_threadId] at some ⊢
      rw [Word.requestRemoval, if_pos some]
  | _ =>
      intro closing
      cases closing

end Round

namespace Game

variable {game next : Game} {threadId : Nat} {thread : WordThread}
  {calls : MainCalls} {joins : List Nat}

/-! ## What the main thread does to the slots -/

/-- The thread that a slot holds is kept, or the slot is taken, gets a thread,
or its thread is joined. -/
inductive SlotChange (game : Game) (slot : Fin maxWords) : Nat → Prop where
  | kept : SlotChange game slot (game.words slot).threadId
  | taken (spawns : game.main = .spawnLock)
      (free : freeSlot game.words = some slot) : SlotChange game slot 0
  | started (threadId : Nat) (starts : game.main = .addUnlock slot) :
      SlotChange game slot threadId
  | joined (loop : JoinLoop) (joins : game.main = .joining loop slot) :
      SlotChange game slot 0

private theorem words_set_threadId
    {word : Word} (sameThread : word.threadId = (words other).threadId) :
    (words.set other word slot).threadId = (words slot).threadId := by
  rw [Words.set_apply]
  split
  · rename_i same
    rw [same, sameThread]
  · rfl

private theorem tryPick_threadId (tries : Nat) :
    ((game.tryPick other tries calls).words slot).threadId =
      (game.words slot).threadId := by
  unfold tryPick
  simp only
  split
  · exact words_set_threadId rfl
  · rfl

private theorem slotChange_set
    {word : Word} (sameThread : word.threadId = (game.words other).threadId) :
    game.SlotChange slot (game.words.set other word slot).threadId := by
  rw [words_set_threadId sameThread]
  exact .kept

private theorem slotChange_chooseSlot (spawns : game.main = .spawnLock) :
    game.SlotChange slot ((game.chooseSlot calls).words slot).threadId := by
  unfold chooseSlot
  split
  · rename_i found free
    rw [tryPick_threadId]
    by_cases same : slot = found
    · subst same
      rw [release_threadId (freeSlot_eq_some free)]
      simp only [setWord, Words.set_same]
      exact .taken spawns free
    · simp only [setWord, Words.set_of_ne _ _ same]
      exact .kept
  · exact .kept

private theorem slotChange_createThread
    (starts : game.main = .addUnlock other) (created : Bool) :
    game.SlotChange slot
      ((game.createThread other created).words slot).threadId := by
  by_cases same : slot = other
  · subst same
    exact .started _ starts
  · unfold createThread
    split
    · simp only [goto, setThread, setWord, Words.set_of_ne _ _ same]
      exact .kept
    · simp only [goto, setWord, Words.set_of_ne _ _ same]
      exact .kept

private theorem slotChange_collectSlot
    {loop : JoinLoop} (joins : game.main = .joining loop other) :
    game.SlotChange slot ((game.collectSlot other).words slot).threadId := by
  simp only [collectSlot, Words.set_apply]
  split
  · rename_i same
    subst same
    exact .joined loop joins
  · exact .kept

theorem mainStep_slot :
    game.SlotChange slot ((game.mainStep calls).words slot).threadId := by
  cases current : game.main with
  | inputOverUnlock key gameOver =>
      simp only [mainStep, current, handleKey]
      split_ifs <;> exact .kept
  | inputLock =>
      simp only [mainStep, current, chooseTarget]
      split
      · exact slotChange_set rfl
      · exact .kept
  | inputUnlock target =>
      cases target <;> simp only [mainStep, current] <;> exact .kept
  | scoreLock target wtype =>
      cases wtype <;> simp only [mainStep, current] <;> exact .kept
  | spawnCheckUnlock canSpawn =>
      simp only [mainStep, current]
      split <;> exact .kept
  | spawnLock =>
      simp only [mainStep, current]
      exact slotChange_chooseSlot current
  | pickUnlock other tries pick taken =>
      simp only [mainStep, current]
      split
      · rw [tryPick_threadId]
        exact .kept
      · exact slotChange_set rfl
  | addUnlock other =>
      simp only [mainStep, current]
      exact slotChange_createThread current calls.created
  | draw last pc =>
      simp only [mainStep, current]
      split <;> exact .kept
  | requestLock =>
      simp only [mainStep, current, goto, requestRemoval_threadId]
      exact .kept
  | joinLock loop =>
      simp only [mainStep, current, (joinFrom_frame _).1]
      exact .kept
  | joining loop other =>
      simp only [mainStep, current, (joinFrom_frame _).1]
      exact slotChange_collectSlot current
  | joinUnlock loop =>
      cases loop <;> simp only [mainStep, current] <;> exact .kept
  | _ =>
      simp only [mainStep, current]
      exact .kept

/-! ## The main thread -/

private theorem mainStep_joined_threads
    {loop : JoinLoop} (joins : game.main = .joining loop slot)
    (live : game.threads (game.words slot).threadId = some thread) :
    (game.mainStep calls).threads =
      Function.update game.threads (game.words slot).threadId
        (some { thread with pc := .joined }) := by
  simp only [mainStep, joins, (joinFrom_frame _).2]
  rw [collectSlot_of_live live]
  rfl

/-- A thread that is not joined is new, or it was there before. -/
private theorem before_of_mainStep
    (ready : ∀ loop slot, game.main = .joining loop slot →
      game.finished (.word (game.words slot).threadId) = true)
    (live : (game.mainStep calls).threads threadId = some thread)
    (running : thread.pc ≠ .joined) :
    game.threads threadId = some thread ∨ thread.pc = .top := by
  have change : game.ThreadChange (game.mainStep calls).threads :=
    mainStep_threads
  generalize (game.mainStep calls).threads = after at change live
  cases change with
  | none => exact .inl live
  | start slot starts =>
      by_cases same : threadId = game.nextThreadId
      · subst same
        rw [Function.update_self] at live
        cases live
        exact .inr rfl
      · rw [Function.update_of_ne same] at live
        exact .inl live
  | join loop slot joins =>
      obtain ⟨ended, found, _⟩ := finished_word_iff.mp (ready loop slot joins)
      rw [collectSlot_of_live found] at live
      simp only [setThread] at live
      by_cases same : threadId = (game.words slot).threadId
      · subst same
        rw [Function.update_self] at live
        cases live
        exact absurd rfl running
      · rw [Function.update_of_ne same] at live
        exact .inl live

private theorem mainStep_slotHeld
    (owned : game.round.Owned) (nextOwned : (game.mainStep calls).round.Owned)
    (ready : ∀ loop slot, game.main = .joining loop slot →
      game.finished (.word (game.words slot).threadId) = true)
    (joinedFirst : game.ReusesJoined (.main calls))
    (collecting : game.Collecting joins)
    (live : (game.mainStep calls).threads threadId = some thread)
    (running : thread.pc ≠ .joined) :
    ((game.mainStep calls).words thread.slot).threadId = threadId := by
  rcases before_of_mainStep ready live running with before | new
  · have held := collecting.held threadId thread before running
    have some : (game.words thread.slot).threadId ≠ 0 :=
      held ▸ (owned.issued _ _ (round_threads_of_live before)).1
    have change : game.SlotChange thread.slot
        ((game.mainStep calls).words thread.slot).threadId :=
      mainStep_slot
    generalize ((game.mainStep calls).words thread.slot).threadId =
      after at change
    cases change with
    | kept => exact held
    | taken spawns free =>
        exact absurd (joinedFirst spawns thread.slot free) some
    | started _ starts =>
        have filled : game.round.phase = .filled thread.slot :=
          congrArg MainPc.phase starts
        exact absurd (owned.filled thread.slot filled).1 some
    | joined loop joins =>
        rw [← held] at before live
        rw [mainStep_joined_threads joins before, Function.update_self] at live
        exact absurd (congrArg WordThread.pc (Option.some.inj live)).symm
          running
  · have there := round_threads_of_live live
    rw [WordThread.round, new] at there
    exact (nextOwned.falling threadId thread.slot there).1

private theorem wasJoined_eq
    (live : game.threads threadId = some thread) :
    game.wasJoined threadId = decide (thread.pc = .joined) := by
  rw [wasJoined, live]

private theorem wasJoined_mainStep
    (owned : game.round.Owned)
    (ready : ∀ loop slot, game.main = .joining loop slot →
      game.finished (.word (game.words slot).threadId) = true)
    (threadId : Nat) :
    (game.mainStep calls).wasJoined threadId =
      (game.wasJoined threadId ||
        game.joinedBy (.main calls) = some threadId) := by
  by_cases joining : ∃ loop slot, game.main = .joining loop slot
  · obtain ⟨loop, slot, joins⟩ := joining
    obtain ⟨thread, live, _⟩ := finished_word_iff.mp (ready loop slot joins)
    have threads : (game.mainStep calls).threads = _ :=
      mainStep_joined_threads joins live
    by_cases same : threadId = (game.words slot).threadId
    · subst same
      simp [wasJoined, threads, joinedBy, joins]
    · simp [wasJoined, threads, joinedBy, joins, Function.update_of_ne same,
        Ne.symm same]
  · have others : game.joinedBy (.main calls) = none := by
      cases current : game.main with
      | joining loop slot => exact absurd ⟨loop, slot, current⟩ joining
      | _ => simp [joinedBy, current]
    have change : game.ThreadChange (game.mainStep calls).threads :=
      mainStep_threads
    rw [others, wasJoined, wasJoined]
    generalize (game.mainStep calls).threads = after at change
    cases change with
    | none => simp
    | start slot starts =>
        by_cases same : threadId = game.nextThreadId
        · subst same
          simp [thread_fresh owned]
        · simp [Function.update_of_ne same]
    | join loop slot joins => exact absurd ⟨loop, slot, joins⟩ joining

private theorem not_wasJoined_of_joinedBy
    (ready : ∀ loop slot, game.main = .joining loop slot →
      game.finished (.word (game.words slot).threadId) = true)
    (joined : game.joinedBy (.main calls) = some threadId) :
    game.wasJoined threadId = false := by
  cases current : game.main with
  | joining loop slot =>
      simp only [joinedBy, current, Option.some.injEq] at joined
      subst joined
      obtain ⟨thread, live, atEnd⟩ := finished_word_iff.mp
        (ready loop slot current)
      rw [wasJoined_eq live, atEnd]
      rfl
  | _ => simp [joinedBy, current] at joined

private theorem mainStep_counted
    (owned : game.round.Owned)
    (ready : ∀ loop slot, game.main = .joining loop slot →
      game.finished (.word (game.words slot).threadId) = true)
    (collecting : game.Collecting joins) (threadId : Nat) :
    (joins ++ (game.joinedBy (.main calls)).toList).count threadId =
      if (game.mainStep calls).wasJoined threadId then 1 else 0 := by
  rw [List.count_append, collecting.counted, wasJoined_mainStep owned ready]
  cases joined : game.joinedBy (.main calls) with
  | none => simp
  | some other =>
      by_cases same : other = threadId
      · subst same
        simp [not_wasJoined_of_joinedBy ready joined]
      · simp [same]

private theorem mainStep_collecting
    (owned : game.round.Owned) (nextOwned : (game.mainStep calls).round.Owned)
    (ready : ∀ loop slot, game.main = .joining loop slot →
      game.finished (.word (game.words slot).threadId) = true)
    (joinedFirst : game.ReusesJoined (.main calls))
    (collecting : game.Collecting joins) :
    (game.mainStep calls).Collecting
      (joins ++ (game.joinedBy (.main calls)).toList) := by
  constructor
  case held =>
      intro threadId thread live running
      exact mainStep_slotHeld owned nextOwned ready joinedFirst collecting live
        running
  case counted => exact mainStep_counted owned ready collecting

/-! ## The word threads -/

private theorem ne_joined_of_successor
    (pc : WordPc) (running : pc ≠ .joined) :
    ∀ next ∈ pc.successors, next ≠ .joined := by
  cases pc with
  | activeUnlock active => cases active <;> decide
  | overLock active => cases active <;> decide
  | overUnlock active gameOver =>
      cases active <;> cases gameOver <;> decide
  | joined => exact absurd rfl running
  | _ => decide

private theorem wordStep_collecting
    (collecting : game.Collecting joins)
    (live : game.threads threadId = some thread)
    (running : thread.pc ≠ .joined) (dropDue : Bool) :
    (game.wordStep threadId thread dropDue).Collecting joins := by
  obtain ⟨pc, follows, threads⟩ := wordStep_successor live dropDue
  have unjoined := ne_joined_of_successor thread.pc running pc follows
  constructor
  case held =>
      intro other otherThread found otherRunning
      rw [(wordStep_words game threadId thread dropDue _).1]
      rw [threads] at found
      by_cases same : other = threadId
      · subst same
        rw [Function.update_self] at found
        cases found
        exact collecting.held other thread live running
      · rw [Function.update_of_ne same] at found
        exact collecting.held other otherThread found otherRunning
  case counted =>
      intro other
      have sameJoined :
          (game.wordStep threadId thread dropDue).wasJoined other =
            game.wasJoined other := by
        unfold wasJoined
        rw [threads]
        by_cases same : other = threadId
        · subst same
          simp [live, running, unjoined]
        · rw [Function.update_of_ne same]
      rw [collecting.counted, sameJoined]

/-! ## The last joins -/

private theorem emptied_joinFrom
    {start : Nat}
    (marked : ∀ slot, (game.words slot).threadId ≠ 0 →
      (game.words slot).toRemove = true)
    (before : ∀ slot : Fin maxWords, slot.val < start →
      (game.words slot).threadId = 0) :
    (game.joinFrom .safeGameCleanup start).Emptied := by
  intro slot below
  rw [(joinFrom_frame start).1]
  by_contra some
  have within : start ≤ slot.val := by
    by_contra earlier
    exact some (before slot (Nat.not_le.mp earlier))
  have removable : (game.words slot).Removable := ⟨some, marked slot some⟩
  unfold joinFrom at below
  split at below
  · rename_i found next
    exact not_removable_of_next next within below removable
  · rename_i none
    exact not_removable_of_none none within removable

private theorem emptied_collectSlot
    (marked : ∀ slot, (game.words slot).threadId ≠ 0 →
      (game.words slot).toRemove = true)
    (before : ∀ place : Fin maxWords, place.val < slot.val →
      (game.words place).threadId = 0) :
    ((game.collectSlot slot).joinFrom .safeGameCleanup (slot + 1)).Emptied := by
  apply emptied_joinFrom
  · intro other some
    simp only [collectSlot, Words.set_apply] at some ⊢
    split
    · rename_i same
      rw [if_pos same] at some
      exact absurd rfl some
    · rename_i differs
      rw [if_neg differs] at some
      exact marked other some
  · intro other below
    simp only [collectSlot, Words.set_apply]
    split
    · rfl
    · rename_i differs
      apply before other
      have apart : other.val ≠ slot.val := fun same => differs (Fin.ext same)
      omega

private theorem emptied_of_unpassed (unpassed : game.main.passed = 0) :
    game.Emptied := by
  intro slot behind
  rw [unpassed] at behind
  exact absurd behind (Nat.not_lt_zero _)

private theorem mainStep_emptied
    (marked : game.round.AllMarked) (emptied : game.Emptied) :
    (game.mainStep calls).Emptied := by
  cases current : game.main with
  | top =>
      simp only [mainStep, current]
      split <;> exact emptied_of_unpassed rfl
  | overUnlock =>
      simp only [mainStep, current]
      split <;> exact emptied_of_unpassed rfl
  | inputOverUnlock key gameOver =>
      simp only [mainStep, current, handleKey]
      split_ifs <;> exact emptied_of_unpassed rfl
  | inputLock =>
      simp only [mainStep, current, chooseTarget]
      split <;> exact emptied_of_unpassed rfl
  | inputUnlock target =>
      cases target <;> simp only [mainStep, current] <;>
        exact emptied_of_unpassed rfl
  | scoreLock target wtype =>
      cases wtype <;> simp only [mainStep, current] <;>
        exact emptied_of_unpassed rfl
  | spawnCheckUnlock canSpawn =>
      simp only [mainStep, current]
      split <;> exact emptied_of_unpassed rfl
  | spawnLock =>
      simp only [mainStep, current, chooseSlot, tryPick]
      split
      · split <;> exact emptied_of_unpassed rfl
      · exact emptied_of_unpassed rfl
  | pickUnlock other tries pick taken =>
      simp only [mainStep, current, tryPick]
      split_ifs <;> exact emptied_of_unpassed rfl
  | addUnlock other =>
      simp only [mainStep, current, createThread]
      split <;> exact emptied_of_unpassed rfl
  | draw last pc =>
      simp only [mainStep, current]
      split
      · exact emptied_of_unpassed rfl
      · split_ifs <;> exact emptied_of_unpassed rfl
  | joinLock loop =>
      simp only [mainStep, current]
      cases loop with
      | cleanupFinishedThreads =>
          unfold joinFrom
          split <;> exact emptied_of_unpassed rfl
      | safeGameCleanup =>
          have closing : game.round.phase = .closing :=
            congrArg MainPc.phase current
          exact emptied_joinFrom (marked closing) fun slot behind =>
            absurd behind (Nat.not_lt_zero _)
  | joining loop other =>
      simp only [mainStep, current]
      cases loop with
      | cleanupFinishedThreads =>
          unfold joinFrom
          split <;> exact emptied_of_unpassed rfl
      | safeGameCleanup =>
          have closing : game.round.phase = .closing :=
            congrArg MainPc.phase current
          rw [Emptied, current] at emptied
          exact emptied_collectSlot (marked closing) emptied
  | joinUnlock loop =>
      cases loop with
      | cleanupFinishedThreads =>
          simp only [mainStep, current]
          split <;> exact emptied_of_unpassed rfl
      | safeGameCleanup =>
          simp only [mainStep, current]
          rw [Emptied, current] at emptied
          exact emptied
  | clearLock =>
      simp only [mainStep, current]
      rw [Emptied, current] at emptied
      exact emptied
  | clearUnlock =>
      simp only [mainStep, current]
      rw [Emptied, current] at emptied
      exact emptied
  | returned score =>
      simp only [mainStep, current]
      exact emptied
  | _ =>
      simp only [mainStep, current]
      exact emptied_of_unpassed rfl

/-! ## Runs -/

/-- What every reachable game satisfies, whichever slots were taken. -/
structure Orderly (game : Game) : Prop where
  owned : game.round.Owned
  joinsMarked : game.JoinsMarked
  marked : game.round.AllMarked
  emptied : game.Emptied

theorem orderly_start
    (wordList : List CString) (area : GameArea) (input : InputLine) :
    (start wordList area input).Orderly where
  owned := owned_start wordList area input
  joinsMarked := fun _ _ => nofun
  marked := fun closing => nomatch closing
  emptied := fun _ => nofun

theorem Orderly.step
    {action : GameAction} (orderly : game.Orderly)
    (stepped : step game action = some next) : next.Orderly := by
  have events := step_events stepped
  constructor
  case owned =>
      exact events.preserve (fun _ _ owned => owned.event) orderly.owned
  case joinsMarked => exact step_joinsMarked orderly.joinsMarked stepped
  case marked =>
      exact events.preserve (fun _ _ marked => marked.event) orderly.marked
  case emptied =>
      cases action with
      | sigint isGameRunning =>
          cases stepped
          cases isGameRunning <;> exact orderly.emptied
      | main calls =>
          simp only [Game.step, Option.map_eq_some_iff] at stepped
          obtain ⟨owners, _, rfl⟩ := stepped
          exact mainStep_emptied orderly.marked orderly.emptied
      | word threadId dropDue =>
          simp only [Game.step, Option.bind_eq_some_iff,
            Option.map_eq_some_iff] at stepped
          obtain ⟨thread, _, owners, _, rfl⟩ := stepped
          intro slot below
          have sameMain := (wordStep_main game threadId thread dropDue).1
          rw [show (_ : Game).main = game.main from sameMain] at below
          exact (wordStep_words game threadId thread dropDue slot).1.trans
            (orderly.emptied slot below)

theorem step_collecting
    {action : GameAction} (owned : game.round.Owned)
    (joinedFirst : game.ReusesJoined action)
    (collecting : game.Collecting joins)
    (stepped : step game action = some next) :
    next.Collecting (joins ++ (game.joinedBy action).toList) := by
  have nextOwned : next.round.Owned :=
    (step_events stepped).preserve (fun _ _ owned => owned.event) owned
  cases action with
  | sigint isGameRunning =>
      cases stepped
      have unchanged : joins ++ (game.joinedBy (.sigint isGameRunning)).toList =
          joins :=
        List.append_nil joins
      rw [unchanged]
      cases isGameRunning <;> exact ⟨collecting.held, collecting.counted⟩
  | main calls =>
      have ready := finished_of_joining stepped
      simp only [step, Option.map_eq_some_iff] at stepped
      obtain ⟨owners, _, rfl⟩ := stepped
      have kept := mainStep_collecting owned nextOwned ready joinedFirst
        collecting
      exact ⟨kept.held, kept.counted⟩
  | word threadId dropDue =>
      simp only [step, Option.bind_eq_some_iff,
        Option.map_eq_some_iff] at stepped
      obtain ⟨thread, live, owners, performed, rfl⟩ := stepped
      have running : thread.pc ≠ .joined := by
        intro ended
        rw [ended] at performed
        cases performed
      have unchanged :
          joins ++ (game.joinedBy (.word threadId dropDue)).toList =
          joins :=
        List.append_nil joins
      rw [unchanged]
      have kept := wordStep_collecting collecting live running dropDue
      exact ⟨kept.held, kept.counted⟩

private theorem collecting_start
    (wordList : List CString) (area : GameArea) (input : InputLine) :
    (start wordList area input).Collecting [] where
  held := fun _ _ => nofun
  counted := fun _ => rfl

private theorem joinsOnce_of_collecting
    (orderly : game.Orderly) (collecting : game.Collecting joins) :
    game.JoinsOnce joins := by
  constructor
  case fresh =>
      intro loop slot current
      have some := (orderly.joinsMarked loop slot current).1
      obtain ⟨phase, there, within⟩ := orderly.owned.owner slot some
      simp only [round, Option.map_eq_some_iff] at there
      obtain ⟨thread, live, same⟩ := there
      have running : thread.pc ≠ .joined := by
        intro ended
        have samePhase : thread.pc.phase = phase :=
          congrArg RoundThread.phase same
        rw [← samePhase, ended] at within
        rcases within with falling | landing | exited
        · cases falling
        · cases landing
        · cases exited
      refine ⟨Option.isSome_of_eq_some live, ?_⟩
      rw [← List.count_eq_zero, collecting.counted, wasJoined_eq live]
      simp [running]
  case complete =>
      intro score returned threadId started
      obtain ⟨thread, live⟩ := Option.isSome_iff_exists.mp started
      rw [collecting.counted, wasJoined_eq live]
      by_contra running
      have unjoined : thread.pc ≠ .joined := by
        intro ended
        simp [ended] at running
      have held := collecting.held threadId thread live unjoined
      have empty := orderly.emptied thread.slot
        (by rw [returned]; exact thread.slot.isLt)
      exact (orderly.owned.issued _ _ (round_threads_of_live live)).1
        (held.symm.trans empty)

/-- In a run in which `spawn_word` takes no slot of a thread that is not
joined, every started thread is joined once. -/
theorem joinsOnce_of_reusesJoined
    (wordList : List CString) (area : GameArea) (input : InputLine)
    (actions : List GameAction) (game : Game)
    (joinedFirst : step.Meets ReusesJoined (start wordList area input) actions)
    (ran : step.run (start wordList area input) actions = some game) :
    game.JoinsOnce
      (step.trace joinedBy (start wordList area input) actions) := by
  have kept := Machine.run_trace_invariant
    (fun game joins => game.Orderly ∧ game.Collecting joins)
    (fun game joins action next ⟨orderly, collecting⟩ guard stepped =>
      ⟨orderly.step stepped,
        step_collecting orderly.owned guard collecting stepped⟩)
    ⟨orderly_start wordList area input, collecting_start wordList area input⟩
    joinedFirst ran
  exact joinsOnce_of_collecting kept.1 kept.2

private theorem quitsInOrder_reuses :
    step.Meets ReusesJoined (start oneWord smallArea .blank) quitsInOrder := by
  decide +kernel

theorem joinsOnce_of_quitsInOrder :
    ∃ game, step.run (start oneWord smallArea .blank) quitsInOrder =
        some game ∧
      game.main = .returned 0 ∧ game.JoinsOnce
        (step.trace joinedBy (start oneWord smallArea .blank)
          quitsInOrder) := by
  have reached : ((step.run (start oneWord smallArea .blank)
      quitsInOrder).map Game.main) = some (.returned 0) := by
    decide +kernel
  obtain ⟨game, ran, returned⟩ := Option.map_eq_some_iff.mp reached
  exact ⟨game, ran, returned, joinsOnce_of_reusesJoined oneWord smallArea
    .blank quitsInOrder game quitsInOrder_reuses ran⟩

/-- A word is typed, and its thread finishes just before the next word is
spawned into its slot.  Then the player quits. -/
def reusesUnjoined : List GameAction :=
  List.replicate 21 (.main .spawnNow) ++
    List.replicate 17 (.main (.pressKey 97)) ++
    List.replicate 11 (.main (.pressKey 10)) ++
    List.replicate 9 (.word 1 false) ++
    List.replicate 8 (.main .spawnNow) ++ .sigint true ::
    List.replicate 35 (.main .idle) ++ .main (.pressKey 10) ::
    List.replicate 2 (.main .idle) ++ List.replicate 11 (.word 2 false) ++
    List.replicate 5 (.main .idle)

/-- The first thread has lost its slot and is never joined. -/
theorem reusesUnjoined_forgets :
    ¬ ∀ wordList area input actions game,
      step.run (start wordList area input) actions = some game →
        game.JoinsOnce
          (step.trace joinedBy (start wordList area input) actions) := by
  intro once
  have forgotten : ((step.run (start oneWord smallArea .blank)
      reusesUnjoined).map fun game =>
        (game.main, (game.threads 1).isSome)) = some (.returned 1, true) := by
    decide +kernel
  have joined : (step.trace joinedBy (start oneWord smallArea .blank)
      reusesUnjoined).count 1 = 0 := by
    decide +kernel
  cases ran : step.run (start oneWord smallArea .blank) reusesUnjoined with
  | none =>
      rw [ran] at forgotten
      cases forgotten
  | some game =>
      simp only [ran, Option.map_some, Option.some.injEq,
        Prod.mk.injEq] at forgotten
      obtain ⟨returned, started⟩ := forgotten
      have counted :=
        (once _ _ _ _ game ran).complete 1 returned 1 started
      rw [joined] at counted
      cases counted

end Game

end RainTyping
