import RainTyping.Client.GameLogic
import RainTyping.Client.RoundAccounts

/-!
# The game refines the round

Without its program points and mutexes a game is a round, and every step of one
of its threads is nothing or an event of that round.
-/

namespace RainTyping

def WordPc.phase : WordPc → WordPhase
  | .landHashLock => .landing
  | .landHashUnlock => .landing
  | .landStateLock => .landing
  | .exitHashLock => .exited
  | .exitHashUnlock => .exited
  | .exitUnlock => .exited
  | .finished => .exited
  | .joined => .joined
  | _ => .falling

def JoinLoop.phase : JoinLoop → MainPhase
  | .cleanupFinishedThreads => .playing
  | .safeGameCleanup => .closing

def MainPc.phase : MainPc → MainPhase
  | .inputHashLock target wtype => .typed target wtype
  | .inputHashUnlock target wtype => .typed target wtype
  | .inputUnlock (some (target, wtype)) => .typed target wtype
  | .scoreLock target wtype => .typed target wtype
  | .pickLock slot _ _ => .choosing slot
  | .pickUnlock slot _ _ _ => .choosing slot
  | .addLock slot => .filled slot
  | .addUnlock slot => .filled slot
  | .requestUnlock => .closing
  | .joinLock loop => loop.phase
  | .joining loop _ => loop.phase
  | .joinUnlock loop => loop.phase
  | .clearLock => .closing
  | .clearUnlock => .closing
  | .returned _ => .closing
  | _ => .playing

def WordThread.round (thread : WordThread) : RoundThread :=
  ⟨thread.slot, thread.pc.phase⟩

namespace Game

def round (game : Game) : Round where
  words := game.words
  threads := fun threadId => (game.threads threadId).map WordThread.round
  nextThreadId := game.nextThreadId
  phase := game.main.phase
  score := game.score
  lives := game.lives
  isOver := game.isOver
  spawned := game.spawned
  landed := game.landed
  settled := game.settled

variable {game next : Game} {slot : Fin maxWords} {threadId : Nat}
  {thread : WordThread}

/-! ## The round of a changed game -/

theorem round_goto_current
    {phase : MainPhase} (current : game.main.phase = phase) :
    game.round.goto phase = game.round := by
  rw [← current]
  rfl

theorem round_setWord (word : Word) :
    (game.setWord slot word).round = game.round.setWord slot word :=
  rfl

theorem round_setThread :
    (game.setThread threadId thread).round =
      game.round.setThread threadId thread.round := by
  have sameThreads : (fun other =>
      (Function.update game.threads threadId (some thread) other).map
        WordThread.round) =
      Function.update (fun other => (game.threads other).map WordThread.round)
        threadId (some thread.round) := by
    funext other
    by_cases same : other = threadId
    · subst same
      rw [Function.update_self, Function.update_self, Option.map_some]
    · rw [Function.update_of_ne same, Function.update_of_ne same]
  simp only [setThread, round, Round.setThread, sameThreads]

theorem round_threads_of_live
    (live : game.threads threadId = some thread) :
    game.round.threads threadId = some thread.round := by
  simp [round, live]

theorem round_scoreWord
    {target : Fin maxWords} {wtype : WordType}
    (typed : game.main.phase = .typed target wtype) :
    ((game.scoreWord target wtype).goto .scoreUnlock).round =
      { game.round.goto .playing with
        score := game.round.score + .ofNat game.round.pending
        isOver := game.round.isOver || wtype = .kill } := by
  have pending : game.round.pending =
      pointsOf (game.words target).text wtype := by
    have samePhase : game.round.phase = .typed target wtype := typed
    rw [Round.pending, samePhase]
    rfl
  rw [pending]
  cases wtype with
  | normal =>
      simp [scoreWord, round, goto, Round.goto, MainPc.phase, pointsOf]
  | bonus =>
      simp [scoreWord, round, goto, Round.goto, MainPc.phase, pointsOf,
        Int32.ofNat_add, Int32.add_assoc]
  | kill =>
      simp [scoreWord, round, goto, Round.goto, MainPc.phase, pointsOf]

theorem round_landWord :
    (game.landWord slot).round = game.round.land slot := by
  unfold landWord Round.land
  by_cases gameOver : game.isOver = true
  · simp [round, gameOver, settle, Round.settle]
  · simp [round, gameOver, settle, Round.settle]

theorem round_noteLanding
    (down : (game.words slot).active = true ∧
      ¬((game.words slot).drop game.area.height).active = true) :
    (game.noteLanding slot).round = game.round.noteLanding slot := by
  rw [noteLanding, if_pos down]
  rfl

theorem round_noteLanding_of_stays
    (stays : ¬((game.words slot).active = true ∧
      ¬((game.words slot).drop game.area.height).active = true)) :
    (game.noteLanding slot).round = game.round := by
  rw [noteLanding, if_neg stays]

/-! ## The main thread -/

private theorem events_goto
    {after : Game} {phase : MainPhase}
    (current : game.main.phase = phase)
    (same : after.round = game.round.goto phase) :
    game.round.Events after.round := by
  rw [same, round_goto_current current]

private theorem events_handleKey
    (key : Int) (current : game.main.phase = .playing) :
    game.round.Events (game.handleKey key).round := by
  unfold handleKey
  split
  · split
    · exact events_goto current rfl
    · exact events_goto current rfl
  · split
    · exact events_goto current rfl
    · split
      · exact events_goto current rfl
      · exact events_goto current rfl

private theorem events_chooseTarget
    (current : game.main.phase = .playing) :
    game.round.Events game.chooseTarget.round := by
  unfold chooseTarget
  split
  · rename_i target found
    exact .single (.typeWord target current (findTarget_eq_some found).1)
  · exact events_goto current rfl

private theorem events_fillSlot
    (pick : CString) (rolls : Rolls)
    (current : game.main.phase = .choosing slot) :
    game.round.Events (game.fillSlot slot pick rolls).round :=
  .single (.fillSlot slot game.area.width pick rolls current)

private theorem events_tryPick
    (tries : Nat) (calls : MainCalls) :
    (game.round.goto (.choosing slot)).Events
      (game.tryPick slot tries calls).round := by
  unfold tryPick
  simp only
  split
  · exact .single (.fillSlot slot game.area.width _ calls.rolls rfl)
  · exact .refl

private theorem events_chooseSlot
    (calls : MainCalls) (current : game.main.phase = .playing) :
    game.round.Events (game.chooseSlot calls).round := by
  unfold chooseSlot
  split
  · rename_i slot free
    -- The retry loop may end at once, so there can be two events.
    have chosen : game.round.Event
        ((game.setWord slot (game.words slot).release).round.goto
          (.choosing slot)) :=
      .chooseSlot slot current (freeSlot_eq_some free)
    exact .head chosen (events_tryPick 1 calls)
  · exact events_goto current rfl

private theorem events_createThread
    (created : Bool) (current : game.main.phase = .filled slot) :
    game.round.Events (game.createThread slot created).round := by
  unfold createThread
  split
  · let word := (game.words slot).start game.nextThreadId
    let started := (game.setWord slot word).setThread game.nextThreadId
      ⟨slot, .top⟩
    have same : started.round = (game.round.setWord slot word).setThread
        game.nextThreadId ⟨slot, .falling⟩ :=
      round_setThread
    have event : game.round.Event
        { started.round.goto .playing with
          nextThreadId := game.nextThreadId + 1
          spawned := game.spawned ++ [word.spawned] } := by
      rw [same]
      exact .startThread slot current
    exact .single event
  · exact .single (.startFails slot current)

private theorem round_joinFrom (loop : JoinLoop) (start : Nat) :
    (game.joinFrom loop start).round = game.round.goto loop.phase := by
  unfold joinFrom
  split <;> rfl

private theorem events_joining
    (loop : JoinLoop) (current : game.main.phase = loop.phase)
    (ready : game.finished (.word (game.words slot).threadId) = true) :
    game.round.Events
      ((game.collectSlot slot).joinFrom loop (slot + 1)).round := by
  obtain ⟨thread, live, finished⟩ := finished_word_iff.mp ready
  have exited : game.round.threads (game.words slot).threadId =
      some ⟨thread.slot, .exited⟩ := by
    rw [round_threads_of_live live, WordThread.round, finished]
    rfl
  have calm : game.round.phase = .playing ∨ game.round.phase = .closing := by
    rw [round, current]
    cases loop with
    | cleanupFinishedThreads => exact .inl rfl
    | safeGameCleanup => exact .inr rfl
  have collected := Relation.ReflTransGen.single
    (Round.Event.collect slot thread.slot calm exited)
  rw [round_joinFrom, collectSlot_of_live live, round_setThread, round_setWord,
    ← current]
  exact collected

/-- A step of the main thread; a join has waited for its thread. -/
theorem events_mainStep
    (calls : MainCalls)
    (ready : ∀ loop slot, game.main = .joining loop slot →
      game.finished (.word (game.words slot).threadId) = true) :
    game.round.Events (game.mainStep calls).round := by
  cases current : game.main with
  | top =>
      simp only [mainStep, current]
      exact events_goto (congrArg MainPc.phase current) (by split <;> rfl)
  | signalLock =>
      simp only [mainStep, current]
      have ended : game.round.Event { game.round with isOver := true } :=
        .endGame
      have events : game.round.Events { game.round with isOver := true } :=
        .single ended
      simpa [round, goto, current, MainPc.phase] using events
  | signalUnlock =>
      simp only [mainStep, current]
      exact events_goto (congrArg MainPc.phase current) rfl
  | overLock =>
      simp only [mainStep, current]
      exact events_goto (congrArg MainPc.phase current) rfl
  | overUnlock =>
      simp only [mainStep, current]
      exact events_goto (congrArg MainPc.phase current) (by split <;> rfl)
  | inputOverLock key =>
      simp only [mainStep, current]
      exact events_goto (congrArg MainPc.phase current) rfl
  | inputOverUnlock key gameOver =>
      simp only [mainStep, current]
      split
      · exact events_goto (congrArg MainPc.phase current) rfl
      · exact events_handleKey key (congrArg MainPc.phase current)
  | inputLock =>
      simp only [mainStep, current]
      exact events_chooseTarget (congrArg MainPc.phase current)
  | inputHashLock target wtype =>
      simp only [mainStep, current]
      exact events_goto (congrArg MainPc.phase current) rfl
  | inputHashUnlock target wtype =>
      simp only [mainStep, current]
      exact events_goto (congrArg MainPc.phase current) rfl
  | inputUnlock target =>
      cases target with
      | none =>
          simp only [mainStep, current]
          exact events_goto (congrArg MainPc.phase current) rfl
      | some target =>
          simp only [mainStep, current]
          exact events_goto (congrArg MainPc.phase current) rfl
  | scoreLock target wtype =>
      simp only [mainStep, current]
      have typed : game.main.phase = .typed target wtype :=
        congrArg MainPc.phase current
      rw [round_scoreWord typed]
      exact .single (.scoreWord target wtype typed)
  | scoreUnlock =>
      simp only [mainStep, current]
      exact events_goto (congrArg MainPc.phase current) rfl
  | spawnCheckLock =>
      simp only [mainStep, current]
      exact events_goto (congrArg MainPc.phase current) rfl
  | spawnCheckUnlock canSpawn =>
      simp only [mainStep, current]
      split
      · exact events_goto (congrArg MainPc.phase current) rfl
      · exact events_goto (congrArg MainPc.phase current) rfl
  | spawnLock =>
      simp only [mainStep, current]
      exact events_chooseSlot calls (congrArg MainPc.phase current)
  | pickLock slot tries pick =>
      simp only [mainStep, current]
      exact events_goto (congrArg MainPc.phase current) rfl
  | pickUnlock slot tries pick taken =>
      simp only [mainStep, current]
      split
      · have choosing : game.main.phase = .choosing slot :=
          congrArg MainPc.phase current
        rw [← round_goto_current choosing]
        exact events_tryPick _ calls
      · exact events_fillSlot pick calls.rolls (congrArg MainPc.phase current)
  | addLock slot =>
      simp only [mainStep, current]
      exact events_goto (congrArg MainPc.phase current) rfl
  | addUnlock slot =>
      simp only [mainStep, current]
      exact events_createThread calls.created
        (congrArg MainPc.phase current)
  | undoLock slot =>
      simp only [mainStep, current]
      exact events_goto (congrArg MainPc.phase current) rfl
  | undoUnlock =>
      simp only [mainStep, current]
      exact events_goto (congrArg MainPc.phase current) rfl
  | spawnUnlock =>
      simp only [mainStep, current]
      exact events_goto (congrArg MainPc.phase current) rfl
  | draw last pc =>
      simp only [mainStep, current]
      split
      · exact events_goto (congrArg MainPc.phase current) rfl
      · exact events_goto (congrArg MainPc.phase current)
          (by split_ifs <;> rfl)
  | keyWait =>
      simp only [mainStep, current]
      exact events_goto (congrArg MainPc.phase current) rfl
  | requestLock =>
      simp only [mainStep, current]
      exact .single (.close (congrArg MainPc.phase current))
  | requestUnlock =>
      simp only [mainStep, current]
      exact events_goto (congrArg MainPc.phase current) rfl
  | joinLock loop =>
      simp only [mainStep, current]
      exact events_goto (congrArg MainPc.phase current)
        (round_joinFrom loop 0)
  | joining loop slot =>
      simp only [mainStep, current]
      exact events_joining loop (congrArg MainPc.phase current)
        (ready loop slot current)
  | joinUnlock loop =>
      cases loop with
      | cleanupFinishedThreads =>
          simp only [mainStep, current]
          exact events_goto (congrArg MainPc.phase current) (by split <;> rfl)
      | safeGameCleanup =>
          simp only [mainStep, current]
          exact events_goto (congrArg MainPc.phase current) rfl
  | clearLock =>
      simp only [mainStep, current]
      exact events_goto (congrArg MainPc.phase current) rfl
  | clearUnlock =>
      simp only [mainStep, current]
      exact events_goto (congrArg MainPc.phase current) rfl
  | returned score =>
      simp only [mainStep, current]
      exact .refl

/-! ## The word threads -/

private theorem events_setThread
    {after : Game} {pc : WordPc} (live : game.threads threadId = some thread)
    (sameRound : after.round = game.round)
    (same : pc.phase = thread.pc.phase) :
    game.round.Events
      (after.setThread threadId ⟨thread.slot, pc⟩).round := by
  have current : game.round.threads threadId =
      some (WordThread.round ⟨thread.slot, pc⟩) := by
    rw [round_threads_of_live live, WordThread.round, WordThread.round, same]
  rw [round_setThread, sameRound, Round.setThread_current current]

theorem active_drop_of_stays
    {word : Word} {areaHeight : Nat}
    (stays : ¬(word.active = true ∧ ¬(word.drop areaHeight).active = true)) :
    (word.drop areaHeight).active = word.active := by
  cases active : word.active with
  | true =>
      by_contra down
      exact stays ⟨active, down⟩
  | false => simp [Word.drop, active]

private theorem events_dropLock
    (live : game.threads threadId = some thread)
    (falling : thread.pc.phase = .falling) :
    game.round.Events
      (((game.noteLanding thread.slot).setWord thread.slot
        ((game.words thread.slot).drop game.area.height)).setThread threadId
          ⟨thread.slot,
            if (game.words thread.slot).active ∧
                ¬((game.words thread.slot).drop game.area.height).active then
              .landHashLock
            else .dropUnlock⟩).round := by
  have held : game.round.threads threadId = some ⟨thread.slot, .falling⟩ := by
    rw [round_threads_of_live live, WordThread.round, falling]
  rw [round_setThread, round_setWord]
  split
  · rename_i down
    rw [round_noteLanding down]
    exact .single (.reachGround threadId thread.slot game.area.height held
      down.1 (Bool.not_eq_true _ ▸ down.2))
  · rename_i stays
    rw [round_noteLanding_of_stays stays]
    have sameThread : (game.round.setWord thread.slot
        ((game.words thread.slot).drop game.area.height)).threads threadId =
          some (WordThread.round ⟨thread.slot, .dropUnlock⟩) :=
      held
    rw [Round.setThread_current sameThread]
    exact .single (.drop threadId thread.slot game.area.height held
      (active_drop_of_stays stays))

theorem events_wordStep
    (live : game.threads threadId = some thread) (dropDue : Bool) :
    game.round.Events (game.wordStep threadId thread dropDue).round := by
  cases current : thread.pc with
  | top =>
      simp only [wordStep, current]
      exact events_setThread live rfl (by rw [current]; split <;> rfl)
  | signalLock =>
      simp only [wordStep, current]
      have ended : game.round.Event { game with isOver := true }.round :=
        .endGame
      refine .head ended ?_
      have stays : ({ game with isOver := true } : Game).threads threadId =
          some thread :=
        live
      exact events_setThread stays rfl (by rw [current]; rfl)
  | signalUnlock =>
      simp only [wordStep, current]
      exact events_setThread live rfl (by rw [current]; rfl)
  | activeLock =>
      simp only [wordStep, current]
      exact events_setThread live rfl (by rw [current]; rfl)
  | activeUnlock active =>
      simp only [wordStep, current]
      exact events_setThread live rfl (by rw [current]; rfl)
  | overLock active =>
      simp only [wordStep, current]
      exact events_setThread live rfl (by rw [current]; rfl)
  | overUnlock active gameOver =>
      simp only [wordStep, current]
      refine events_setThread live rfl ?_
      rw [current]
      split_ifs <;> rfl
  | intervalLock =>
      simp only [wordStep, current]
      exact events_setThread live rfl (by rw [current]; rfl)
  | intervalUnlock =>
      simp only [wordStep, current]
      exact events_setThread live rfl (by rw [current]; split <;> rfl)
  | dropLock =>
      simp only [wordStep, current]
      exact events_dropLock live (congrArg WordPc.phase current)
  | landHashLock =>
      simp only [wordStep, current]
      exact events_setThread live rfl (by rw [current]; rfl)
  | landHashUnlock =>
      simp only [wordStep, current]
      exact events_setThread live rfl (by rw [current]; rfl)
  | landStateLock =>
      simp only [wordStep, current]
      have landing : game.round.threads threadId =
          some ⟨thread.slot, .landing⟩ := by
        rw [round_threads_of_live live, WordThread.round, current]
        rfl
      rw [round_setThread, round_landWord]
      exact .single (.land threadId thread.slot landing)
  | landStateUnlock =>
      simp only [wordStep, current]
      exact events_setThread live rfl (by rw [current]; rfl)
  | dropUnlock =>
      simp only [wordStep, current]
      exact events_setThread live rfl (by rw [current]; rfl)
  | exitLock =>
      simp only [wordStep, current]
      have falling : game.round.threads threadId =
          some ⟨thread.slot, .falling⟩ := by
        rw [round_threads_of_live live, WordThread.round, current]
        rfl
      rw [round_setThread, round_setWord]
      exact .single (.leave threadId thread.slot falling)
  | exitHashLock =>
      simp only [wordStep, current]
      exact events_setThread live rfl (by rw [current]; rfl)
  | exitHashUnlock =>
      simp only [wordStep, current]
      exact events_setThread live rfl (by rw [current]; rfl)
  | exitUnlock =>
      simp only [wordStep, current]
      exact events_setThread live rfl (by rw [current]; rfl)
  | finished =>
      simp only [wordStep, current]
      exact .refl
  | joined =>
      simp only [wordStep, current]
      exact .refl

/-! ## Runs -/

theorem step_events
    {action : GameAction} (stepped : step game action = some next) :
    game.round.Events next.round := by
  cases action with
  | sigint isGameRunning =>
      cases stepped
      unfold handleSigint
      split <;> exact .refl
  | main calls =>
      have ready := finished_of_joining stepped
      simp only [step, Option.map_eq_some_iff] at stepped
      obtain ⟨owners, performed, rfl⟩ := stepped
      exact events_mainStep _ ready
  | word threadId dropDue =>
      simp only [step, Option.bind_eq_some_iff,
        Option.map_eq_some_iff] at stepped
      obtain ⟨thread, live, owners, performed, rfl⟩ := stepped
      exact events_wordStep live dropDue

/-- What the events of a round preserve holds of every reachable game. -/
theorem run_round
    (invariant : Round → Prop)
    (preserved : ∀ round next, invariant round → Round.Event round next →
      invariant next)
    {actions : List GameAction} (initial : invariant game.round)
    (ran : step.run game actions = some next) : invariant next.round := by
  apply Machine.run_preserves (fun game => invariant game.round) _ initial ran
  intro game action next holds stepped
  exact (step_events stepped).preserve preserved holds

theorem owned_start
    (wordList : List CString) (area : GameArea) (input : InputLine) :
    (start wordList area input).round.Owned := by
  constructor
  case positive => exact Nat.one_pos
  case issued => exact fun threadId thread => nofun
  case owner => exact fun slot some => absurd rfl some
  case falling => exact fun threadId slot => nofun
  case landing => exact fun threadId slot => nofun
  case exited => exact fun slot => nofun
  case active => exact fun slot => nofun
  case choosing => exact fun slot => nofun
  case filled => exact fun slot => nofun

theorem owned_of_run
    {wordList : List CString} {area : GameArea} {input : InputLine}
    {actions : List GameAction}
    (ran : step.run (start wordList area input) actions = some game) :
    game.round.Owned :=
  run_round Round.Owned (fun _ _ owned event => owned.event event)
    (owned_start wordList area input) ran

end Game

end RainTyping
