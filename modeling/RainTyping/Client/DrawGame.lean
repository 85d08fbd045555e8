import RainTyping.Client.GameReturns
import RainTyping.Client.WordsOnScreen

/-!
# The frames of a game

`draw_game_screen` reads the score, the level, the words and the input line in
sections of their own while the other threads go on.  It still prints a level
that fits the printed score, what it prints in one frame is never taken back in
a later one, and in the last frame of a game it prints that the game is over
and what the game returns.

A frame stands for the values that are handed to `mvprintw`.  Which of them
stay visible is left to the terminal: the title is printed over the first line,
and in a narrow area the message does not fit.
-/

namespace RainTyping

/-! ## What a step never takes back -/

structure Round.Onward (round next : Round) : Prop where
  lives : next.lives ≤ round.lives
  ended : round.isOver = true →
    next.isOver = true ∧ next.lives = round.lives
  settled : round.settled <+: next.settled
  spawned : round.spawned <+: next.spawned

namespace Round.Onward

variable {round middle next : Round}

theorem refl (round : Round) : round.Onward round :=
  ⟨le_refl _, fun ended => ⟨ended, rfl⟩, List.prefix_refl _, List.prefix_refl _⟩

theorem trans
    (first : round.Onward middle) (second : middle.Onward next) :
    round.Onward next where
  lives := second.lives.trans first.lives
  ended := fun ended => by
    obtain ⟨overMiddle, sameMiddle⟩ := first.ended ended
    obtain ⟨overNext, sameNext⟩ := second.ended overMiddle
    exact ⟨overNext, sameNext.trans sameMiddle⟩
  settled := first.settled.trans second.settled
  spawned := first.spawned.trans second.spawned

private theorem land (slot : Fin maxWords) (threadId : Nat)
    (thread : RoundThread) :
    round.Onward ((round.land slot).setThread threadId thread) := by
  constructor
  case lives =>
      simp only [Round.setThread, land_lives]
      split <;> omega
  case ended =>
      intro ended
      simp [Round.setThread, land_lives, land_isOver, ended,
        Settlement.CostsLife]
  case settled =>
      simp only [Round.setThread, land_settled]
      exact List.prefix_append _ _
  case spawned =>
      simp only [Round.setThread, land_spawned]
      exact List.prefix_refl _

theorem event (event : Event round next) : round.Onward next := by
  cases event with
  | endGame =>
      exact ⟨le_refl _, fun _ => ⟨rfl, rfl⟩, List.prefix_refl _,
        List.prefix_refl _⟩
  | typeWord slot playing active =>
      exact ⟨le_refl _, fun ended => ⟨ended, rfl⟩, List.prefix_append _ _,
        List.prefix_refl _⟩
  | scoreWord slot wtype typed =>
      refine ⟨le_refl _, fun ended => ⟨?_, rfl⟩, List.prefix_refl _,
        List.prefix_refl _⟩
      simp only [ended, Bool.true_or]
  | startThread slot filled =>
      exact ⟨le_refl _, fun ended => ⟨ended, rfl⟩, List.prefix_refl _,
        List.prefix_append _ _⟩
  | land threadId slot landing => exact land slot threadId _
  | _ => exact ⟨le_refl _, fun ended => ⟨ended, rfl⟩, List.prefix_refl _,
      List.prefix_refl _⟩

theorem events (events : Events round next) : round.Onward next := by
  induction events with
  | refl => exact .refl round
  | tail _ event onward => exact onward.trans (.event event)

end Round.Onward

/-! ## Frames -/

structure DrawnWord where
  row : Nat
  column : Nat
  threadId : Nat
  text : CharArray maxWordLen
  wtype : WordType
  deriving DecidableEq

/-- The values `draw_game_screen` prints between `erase` and `refresh`. -/
structure ScreenFrame where
  score : Int32
  lives : Int
  isOver : Bool
  level : Nat
  words : List DrawnWord
  input : CString
  message : Option (List UInt8)
  /-- The words that are settled when the words are drawn. -/
  settled : List Settlement

/-- Nothing is drawn. -/
def ScreenFrame.erased : ScreenFrame where
  score := 0
  lives := 0
  isOver := false
  level := 0
  words := []
  input := .empty
  message := none
  settled := []

abbrev gameAreaStartY : Nat := 2
abbrev gameAreaStartX : Nat := 1

def drawnWords (words : Words) : List DrawnWord :=
  ((List.finRange maxWords).filter fun slot => (words slot).active).map
    fun slot =>
      { row := gameAreaStartY + (words slot).y
        column := gameAreaStartX + (words slot).x
        threadId := (words slot).threadId
        text := (words slot).text
        wtype := (words slot).wtype }

/-- The line in the middle of the last frame. -/
def Game.overMessage (game : Game) : List UInt8 :=
  if game.sigintReceived then text "EXITING APPLICATION (Ctrl+C)"
  else if game.sigintGameExitRequested then text "GAME EXITED (Ctrl+C)"
  else text "GAME OVER!"

/-- The values that the section of `draw_game_screen` after the point prints;
the title and the other fixed texts have none. -/
def Game.draw (game : Game) (frame : ScreenFrame) : DrawPc → ScreenFrame
  | .screenLock => .erased
  | .stateLock =>
      { frame with
        score := game.score
        lives := game.lives
        isOver := game.isOver }
  | .levelLock => { frame with level := currentLevel game.score }
  | .wordsLock =>
      { frame with
        words := drawnWords game.words
        settled := game.settled }
  | .wordsUnlock =>
      { frame with
        input := game.input.text
        message := if frame.isOver then some game.overMessage else none }
  | _ => frame

/-- The game, the frame on its way, and the frames printed so far. -/
structure DrawnGame where
  game : Game
  sketch : ScreenFrame
  frames : List ScreenFrame

namespace DrawnGame

def start (wordList : List CString) (area : GameArea) (input : InputLine) :
    DrawnGame :=
  ⟨.start wordList area input, .erased, []⟩

/-- The screen after a step to the next game. -/
def after (drawn : DrawnGame) (action : GameAction) (next : Game) :
    DrawnGame :=
  match action, drawn.game.main with
  | .main _, .draw _ pc =>
      let sketch := drawn.game.draw drawn.sketch pc
      { game := next
        sketch := sketch
        frames :=
          if pc = .wordsUnlock then drawn.frames ++ [sketch]
          else drawn.frames }
  | _, _ => { drawn with game := next }

def step : Machine DrawnGame GameAction
  | drawn, action => (Game.step drawn.game action).map (drawn.after action)

end DrawnGame

/-! ## What is printed in a frame -/

structure ScreenFrame.Sound (frame : ScreenFrame) : Prop where
  level : frame.level = currentLevel frame.score
  lives : 0 ≤ frame.lives ∧ frame.lives ≤ initialLives
  gameOver : frame.lives = 0 → frame.isOver = true
  message : frame.message.isSome = frame.isOver
  /-- No word is printed twice. -/
  once : (frame.words.map DrawnWord.threadId).Nodup
  /-- No word is printed that is settled, as typed or as landed. -/
  unsettled : ∀ word ∈ frame.words, ∀ settlement ∈ frame.settled,
    settlement.word.threadId ≠ word.threadId

structure ScreenFrame.Precedes (earlier later : ScreenFrame) : Prop where
  lives : later.lives ≤ earlier.lives
  ended : earlier.isOver = true →
    later.isOver = true ∧ later.lives = earlier.lives
  settled : earlier.settled <+: later.settled

/-- The game has gone on since the frame was drawn. -/
structure ScreenFrame.Behind (frame : ScreenFrame) (game : Game) : Prop where
  lives : game.lives ≤ frame.lives
  ended : frame.isOver = true → game.isOver = true ∧ game.lives = frame.lives
  settled : frame.settled <+: game.settled

theorem ScreenFrame.Behind.onward
    {frame : ScreenFrame} {game next : Game} (behind : frame.Behind game)
    (onward : game.round.Onward next.round) : frame.Behind next where
  lives := onward.lives.trans behind.lives
  ended := fun ended => by
    obtain ⟨overBefore, sameBefore⟩ := behind.ended ended
    obtain ⟨overAfter, sameAfter⟩ := onward.ended overBefore
    exact ⟨overAfter, sameAfter.trans sameBefore⟩
  settled := behind.settled.trans onward.settled

/-- How many sections of `draw_game_screen` have been read. -/
def DrawPc.seen : DrawPc → Nat
  | .screenLock => 0
  | .stateLock => 0
  | .stateUnlock => 1
  | .levelLock => 1
  | .levelUnlock => 2
  | .wordsLock => 2
  | .wordsUnlock => 3
  | .screenUnlock => 3

/-- The last frame is drawn. -/
def MainPc.drawnLast : MainPc → Bool
  | .draw true .screenUnlock => true
  | .keyWait => true
  | .requestLock => true
  | .requestUnlock => true
  | .joinLock .safeGameCleanup => true
  | .joining .safeGameCleanup _ => true
  | .joinUnlock .safeGameCleanup => true
  | .clearLock => true
  | .clearUnlock => true
  | .returned _ => true
  | _ => false

namespace DrawnGame

variable {drawn next : DrawnGame}

/-- What the sections read so far say about the game. -/
structure Sketched (drawn : DrawnGame) (pc : DrawPc) : Prop where
  score : 1 ≤ pc.seen → drawn.sketch.score = drawn.game.score
  lives : 1 ≤ pc.seen → drawn.game.lives ≤ drawn.sketch.lives ∧
    0 ≤ drawn.sketch.lives ∧ drawn.sketch.lives ≤ initialLives ∧
    (drawn.sketch.lives = 0 → drawn.sketch.isOver = true)
  ended : 1 ≤ pc.seen → drawn.sketch.isOver = true →
    drawn.game.isOver = true ∧ drawn.game.lives = drawn.sketch.lives
  later : 1 ≤ pc.seen → ∀ frame ∈ drawn.frames,
    drawn.sketch.lives ≤ frame.lives ∧
      (frame.isOver = true →
        drawn.sketch.isOver = true ∧ drawn.sketch.lives = frame.lives)
  level : 2 ≤ pc.seen → drawn.sketch.level = currentLevel drawn.game.score
  once : 3 ≤ pc.seen → (drawn.sketch.words.map DrawnWord.threadId).Nodup ∧
    ∀ word ∈ drawn.sketch.words, ∀ settlement ∈ drawn.sketch.settled,
      settlement.word.threadId ≠ word.threadId
  settled : 3 ≤ pc.seen → drawn.sketch.settled <+: drawn.game.settled ∧
    ∀ frame ∈ drawn.frames, frame.settled <+: drawn.sketch.settled

structure Drawing (drawn : DrawnGame) : Prop where
  books : drawn.game.Books
  loop : drawn.game.loopOver = true → drawn.game.isOver = true
  last : ∀ pc, drawn.game.main = .draw true pc →
    drawn.game.isOver = true ∧ (1 ≤ pc.seen → drawn.sketch.isOver = true)
  sketched : ∀ last pc, drawn.game.main = .draw last pc → drawn.Sketched pc
  frames : ∀ frame ∈ drawn.frames, frame.Sound ∧ frame.Behind drawn.game
  ordered : drawn.frames.Pairwise ScreenFrame.Precedes
  final : drawn.game.main.drawnLast = true →
    ∃ frame, drawn.frames.getLast? = some frame ∧
      frame.score = drawn.game.score ∧ frame.isOver = true

end DrawnGame

namespace Game

variable {game : Game} {calls : MainCalls}

/-! ## The way to a frame -/

theorem mainStep_draws
    {last : Bool} {pc : DrawPc}
    (draws : (game.mainStep calls).main = .draw last pc) :
    (∃ before, game.main = .draw last before ∧ before.next = some pc) ∨
      pc = .screenLock ∧ (last = true → game.loopOver = true) := by
  cases current : game.main with
  | draw other before =>
      simp only [mainStep, current] at draws
      split at draws
      · rename_i next follows
        cases draws
        exact .inl ⟨before, rfl, follows⟩
      · simp only [goto] at draws
        split_ifs at draws
  | inputUnlock target =>
      cases target <;> simp [mainStep, current, goto] at draws
  | spawnCheckUnlock canSpawn =>
      simp only [mainStep, current, goto] at draws
      split at draws
      · cases draws
      · cases draws
        exact .inr ⟨rfl, fun isLast => absurd isLast (by simp)⟩
  | spawnUnlock =>
      simp only [mainStep, current, goto] at draws
      cases draws
      exact .inr ⟨rfl, fun isLast => absurd isLast (by simp)⟩
  | joinUnlock loop =>
      cases loop with
      | cleanupFinishedThreads =>
          simp only [mainStep, current, goto] at draws
          split at draws
          · rename_i ended
            cases draws
            exact .inr ⟨rfl, fun _ => ended⟩
          · cases draws
      | safeGameCleanup =>
          simp only [mainStep, current, goto] at draws
          cases draws
  | returned score =>
      simp only [mainStep, current] at draws
      cases draws
  | _ =>
      simp only [mainStep, current, handleKey, chooseTarget, chooseSlot,
        tryPick, fillSlot, createThread, joinFrom, goto] at draws
      grind

/-- Behind the last frame only the slots are cleared. -/
theorem mainStep_drawnLast
    (shown : (game.mainStep calls).main.drawnLast = true) :
    (game.main.drawnLast = true ∨ game.main = .draw true .wordsUnlock) ∧
      (game.mainStep calls).score = game.score := by
  cases current : game.main with
  | draw last pc =>
      cases last with
      | false =>
          cases pc <;>
            simp [mainStep, current, goto, DrawPc.next,
              MainPc.drawnLast] at shown
      | true =>
          cases pc <;>
            simp [mainStep, current, goto, DrawPc.next,
              MainPc.drawnLast] at shown ⊢
  | inputUnlock target =>
      cases target <;>
        simp [mainStep, current, goto, MainPc.drawnLast] at shown
  | spawnCheckUnlock canSpawn =>
      simp only [mainStep, current, goto] at shown
      split at shown <;> cases shown
  | joinLock loop =>
      cases loop with
      | cleanupFinishedThreads =>
          simp only [mainStep, current, joinFrom, goto] at shown
          split at shown <;> cases shown
      | safeGameCleanup =>
          refine ⟨.inl rfl, ?_⟩
          simp only [mainStep, current, joinFrom, goto]
          split <;> rfl
  | joining loop slot =>
      cases loop with
      | cleanupFinishedThreads =>
          simp only [mainStep, current, joinFrom, goto] at shown
          split at shown <;> cases shown
      | safeGameCleanup =>
          refine ⟨.inl rfl, ?_⟩
          simp only [mainStep, current, joinFrom, collectSlot, goto]
          split <;> rfl
  | joinUnlock loop =>
      cases loop with
      | cleanupFinishedThreads =>
          simp only [mainStep, current, goto] at shown
          split at shown <;> cases shown
      | safeGameCleanup =>
          simp only [mainStep, current, goto]
          exact ⟨.inl rfl, trivial⟩
  | keyWait =>
      simp only [mainStep, current, goto]
      exact ⟨.inl rfl, trivial⟩
  | requestLock =>
      simp only [mainStep, current, goto]
      exact ⟨.inl rfl, trivial⟩
  | requestUnlock =>
      simp only [mainStep, current, goto]
      exact ⟨.inl rfl, trivial⟩
  | clearLock =>
      simp only [mainStep, current, goto]
      exact ⟨.inl rfl, trivial⟩
  | clearUnlock =>
      simp only [mainStep, current, goto]
      exact ⟨.inl rfl, trivial⟩
  | returned score =>
      simp only [mainStep, current]
      exact ⟨.inl rfl, trivial⟩
  | _ =>
      simp only [mainStep, current, handleKey, chooseTarget, chooseSlot,
        tryPick, fillSlot, createThread, goto] at shown
      grind [MainPc.drawnLast]

/-- The loop has seen the end of the game. -/
theorem mainStep_loopOver
    (loop : game.loopOver = true → game.isOver = true)
    (seen : (game.mainStep calls).loopOver = true) :
    (game.mainStep calls).isOver = true := by
  have kept : game.isOver = true → (game.mainStep calls).isOver = true :=
    fun ended => (windsDown_mainStep ended calls).ended
  cases current : game.main with
  | signalLock =>
      simp only [mainStep, current]
      rfl
  | overLock =>
      simp only [mainStep, current, goto] at seen ⊢
      exact seen
  | inputUnlock target =>
      cases target <;> simp only [mainStep, current, goto] at seen <;>
        exact kept (loop seen)
  | scoreLock target wtype =>
      cases wtype <;> simp only [mainStep, current, scoreWord, goto] at seen <;>
        exact kept (loop seen)
  | joinUnlock other =>
      cases other <;> simp only [mainStep, current, goto] at seen <;>
        exact kept (loop seen)
  | _ =>
      simp only [mainStep, current, handleKey, chooseTarget, chooseSlot,
        tryPick, fillSlot, createThread, joinFrom, collectSlot, goto] at seen
      grind [settle, setWord, setThread, removeActive]

end Game

namespace DrawnGame

variable {drawn next : DrawnGame} {game : Game} {last : Bool}
  {pc after : DrawPc}

/-! ## The sections of a frame -/

/-- No word is drawn twice, and none that is settled. -/
private theorem drawnWords_unsettled
    {game : Game} (owned : game.round.Owned)
    (settledOnce : game.round.SettledOnce)
    (current : game.main = .draw last pc) :
    ((drawnWords game.words).map DrawnWord.threadId).Nodup ∧
      ∀ word ∈ drawnWords game.words, ∀ settlement ∈ game.settled,
        settlement.word.threadId ≠ word.threadId := by
  have unfilled : ∀ slot, game.round.phase ≠ .filled slot := by
    intro slot
    simp [Game.round, current, MainPc.phase]
  have issued : ∀ slot, (game.words slot).active = true →
      (game.words slot).threadId ≠ 0 := fun slot active =>
    (owned.active slot active).resolve_left (unfilled slot)
  unfold drawnWords
  constructor
  · rw [List.map_map]
    apply List.Nodup.map_on
    · intro slot _ other member same
      exact owned.slot_unique (issued other (List.mem_filter.mp member).2) same
    · exact (List.nodup_finRange _).filter _
  · intro word member settlement settled
    obtain ⟨slot, isShown, rfl⟩ := List.mem_map.mp member
    have active := (List.mem_filter.mp isShown).2
    have unsettled := (settledOnce.onScreen slot
      (.inl ⟨active, unfilled slot⟩)).2
    intro same
    apply unsettled
    have sameThread : settlement.word.threadId =
        (game.words slot).threadId := same
    change (game.words slot).threadId ∈ game.round.settledIds
    rw [← sameThread]
    exact List.mem_map_of_mem settled

namespace Sketched

private theorem unseen (none : pc.seen = 0) : drawn.Sketched pc := by
  constructor
  all_goals
    intro some
    omega

private theorem fewer
    (sketched : drawn.Sketched pc) (less : after.seen ≤ pc.seen) :
    drawn.Sketched after where
  score := fun some => sketched.score (some.trans less)
  lives := fun some => sketched.lives (some.trans less)
  ended := fun some => sketched.ended (some.trans less)
  later := fun some => sketched.later (some.trans less)
  level := fun some => sketched.level (some.trans less)
  once := fun some => sketched.once (some.trans less)
  settled := fun some => sketched.settled (some.trans less)

/-- The other threads go on while the main thread draws. -/
private theorem onward
    (sketched : drawn.Sketched pc)
    (onward : drawn.game.round.Onward game.round)
    (sameScore : game.score = drawn.game.score) :
    Sketched { drawn with game := game } pc := by
  constructor
  case score =>
      intro some
      rw [sameScore]
      exact sketched.score some
  case lives =>
      intro some
      obtain ⟨less, bounds⟩ := sketched.lives some
      exact ⟨onward.lives.trans less, bounds⟩
  case ended =>
      intro some ended
      obtain ⟨overBefore, sameBefore⟩ := sketched.ended some ended
      obtain ⟨overAfter, sameAfter⟩ := onward.ended overBefore
      exact ⟨overAfter, sameAfter.trans sameBefore⟩
  case later => exact sketched.later
  case level =>
      intro some
      rw [sameScore]
      exact sketched.level some
  case once => exact sketched.once
  case settled =>
      intro some
      obtain ⟨settled, earlier⟩ := sketched.settled some
      exact ⟨settled.trans onward.settled, earlier⟩

private theorem readState
    (drawing : drawn.Drawing) :
    Sketched { drawn with sketch := drawn.game.draw drawn.sketch .stateLock }
      .stateUnlock := by
  have balanced := drawing.books.balanced
  have lives : drawn.game.lives = initialLives -
      lostLives drawn.game.settled := balanced.lives
  constructor
  case score => exact fun _ => rfl
  case lives =>
      refine fun _ => ⟨le_refl _, balanced.nonneg, ?_, balanced.gameOver⟩
      simp only [Game.draw]
      omega
  case ended => exact fun _ ended => ⟨ended, rfl⟩
  case later =>
      intro _ frame shown
      have behind := (drawing.frames frame shown).2
      exact ⟨behind.lives, behind.ended⟩
  case level =>
      intro some
      simp [DrawPc.seen] at some
  case once =>
      intro some
      simp [DrawPc.seen] at some
  case settled =>
      intro some
      simp [DrawPc.seen] at some

private theorem readLevel
    (sketched : drawn.Sketched .levelLock) :
    Sketched { drawn with sketch := drawn.game.draw drawn.sketch .levelLock }
      .levelUnlock := by
  constructor
  case score => exact fun _ => sketched.score (le_refl 1)
  case lives => exact fun _ => sketched.lives (le_refl 1)
  case ended => exact fun _ => sketched.ended (le_refl 1)
  case later => exact fun _ => sketched.later (le_refl 1)
  case level => exact fun _ => rfl
  case once =>
      intro some
      simp [DrawPc.seen] at some
  case settled =>
      intro some
      simp [DrawPc.seen] at some

private theorem readWords
    (drawing : drawn.Drawing) (current : drawn.game.main = .draw last .wordsLock) :
    Sketched { drawn with sketch := drawn.game.draw drawn.sketch .wordsLock }
      .wordsUnlock := by
  have sketched := drawing.sketched last .wordsLock current
  constructor
  case score => exact fun _ => sketched.score (by decide)
  case lives => exact fun _ => sketched.lives (by decide)
  case ended => exact fun _ => sketched.ended (by decide)
  case later => exact fun _ => sketched.later (by decide)
  case level => exact fun _ => sketched.level (by decide)
  case once =>
      exact fun _ =>
        drawnWords_unsettled drawing.books.owned
          drawing.books.settledOnce current
  case settled =>
      intro _
      refine ⟨List.prefix_refl _, ?_⟩
      intro frame shown
      exact (drawing.frames frame shown).2.settled

private theorem completes (sketched : drawn.Sketched .wordsUnlock) :
    (drawn.game.draw drawn.sketch .wordsUnlock).Sound ∧
      (drawn.game.draw drawn.sketch .wordsUnlock).Behind drawn.game ∧
      ∀ earlier ∈ drawn.frames,
        earlier.Precedes (drawn.game.draw drawn.sketch .wordsUnlock) := by
  obtain ⟨less, nonneg, most, gameOver⟩ := sketched.lives (by decide)
  obtain ⟨once, unsettled⟩ := sketched.once (by decide)
  obtain ⟨settled, settledBefore⟩ := sketched.settled (by decide)
  refine ⟨?_, ?_, ?_⟩
  · constructor
    case level =>
        simp only [Game.draw]
        rw [sketched.level (by decide), sketched.score (by decide)]
    case lives => exact ⟨nonneg, most⟩
    case gameOver => exact gameOver
    case message =>
        simp only [Game.draw]
        cases drawn.sketch.isOver <;> rfl
    case once => exact once
    case unsettled => exact unsettled
  · exact ⟨less, sketched.ended (by decide), settled⟩
  · intro earlier shown
    obtain ⟨fewer, ended⟩ := sketched.later (by decide) earlier shown
    exact ⟨fewer, ended, settledBefore earlier shown⟩

private theorem shown (sketched : drawn.Sketched .wordsUnlock) :
    Sketched
      { drawn with
        sketch := drawn.game.draw drawn.sketch .wordsUnlock
        frames := drawn.frames ++
          [drawn.game.draw drawn.sketch .wordsUnlock] } .screenUnlock := by
  constructor
  case score => exact sketched.score
  case lives => exact sketched.lives
  case ended => exact sketched.ended
  case later =>
      intro some frame member
      rcases List.mem_append.mp member with earlier | last
      · exact sketched.later some frame earlier
      · rw [List.mem_singleton.mp last]
        exact ⟨le_refl _, fun ended => ⟨ended, rfl⟩⟩
  case level => exact sketched.level
  case once => exact sketched.once
  case settled =>
      intro some
      obtain ⟨settled, before⟩ := sketched.settled some
      refine ⟨settled, ?_⟩
      intro frame member
      rcases List.mem_append.mp member with earlier | last
      · exact before frame earlier
      · rw [List.mem_singleton.mp last]

end Sketched

/-- The sketch behind the section at the point. -/
def drawSection (drawn : DrawnGame) (pc : DrawPc) : DrawnGame :=
  { drawn with
    sketch := drawn.game.draw drawn.sketch pc
    frames :=
      if pc = .wordsUnlock then
        drawn.frames ++ [drawn.game.draw drawn.sketch pc]
      else drawn.frames }

private theorem sketched_drawSection
    (drawing : drawn.Drawing) (current : drawn.game.main = .draw last pc)
    (follows : pc.next = some after) :
    (drawn.drawSection pc).Sketched after := by
  have sketched := drawing.sketched last pc current
  cases pc <;> cases follows
  case screenLock => exact .unseen rfl
  case stateLock => exact .readState drawing
  case stateUnlock => exact sketched.fewer (by decide)
  case levelLock => exact .readLevel sketched
  case levelUnlock => exact sketched.fewer (by decide)
  case wordsLock => exact .readWords drawing current
  case wordsUnlock => exact sketched.shown

private theorem frames_drawSection
    (drawing : drawn.Drawing) (current : drawn.game.main = .draw last pc) :
    (∀ frame ∈ (drawn.drawSection pc).frames,
      frame.Sound ∧ frame.Behind drawn.game) ∧
      (drawn.drawSection pc).frames.Pairwise ScreenFrame.Precedes := by
  unfold drawSection
  split
  · rename_i complete
    subst complete
    obtain ⟨sound, behind, precedes⟩ :=
      (drawing.sketched last _ current).completes
    constructor
    · intro frame member
      rcases List.mem_append.mp member with earlier | last
      · exact drawing.frames frame earlier
      · rw [List.mem_singleton.mp last]
        exact ⟨sound, behind⟩
    · apply List.pairwise_append.mpr
      refine ⟨drawing.ordered, List.pairwise_singleton _ _, ?_⟩
      intro earlier shown later isLater
      rw [List.mem_singleton.mp isLater]
      exact precedes earlier shown
  · exact ⟨drawing.frames, drawing.ordered⟩

/-! ## Every step -/

private theorem Drawing.others
    (drawing : drawn.Drawing)
    (events : drawn.game.round.Events game.round)
    (sameMain : game.main = drawn.game.main)
    (sameScore : game.score = drawn.game.score)
    (sameLoop : game.loopOver = drawn.game.loopOver) :
    Drawing { drawn with game := game } := by
  have onward := Round.Onward.events events
  constructor
  case books => exact drawing.books.events events
  case loop =>
      intro seen
      rw [sameLoop] at seen
      exact (onward.ended (drawing.loop seen)).1
  case last =>
      intro pc current
      obtain ⟨ended, sketch⟩ := drawing.last pc (sameMain.symm.trans current)
      exact ⟨(onward.ended ended).1, sketch⟩
  case sketched =>
      intro last pc current
      exact (drawing.sketched last pc (sameMain.symm.trans current)).onward
        onward sameScore
  case frames =>
      intro frame shown
      obtain ⟨sound, behind⟩ := drawing.frames frame shown
      exact ⟨sound, behind.onward onward⟩
  case ordered => exact drawing.ordered
  case final =>
      intro shown
      rw [sameMain] at shown
      rw [sameScore]
      exact drawing.final shown

private theorem Drawing.elsewhere
    {calls : MainCalls} (drawing : drawn.Drawing)
    (outside : ∀ last pc, drawn.game.main ≠ .draw last pc)
    (events : drawn.game.round.Events (drawn.game.mainStep calls).round) :
    Drawing { drawn with game := drawn.game.mainStep calls } := by
  have onward := Round.Onward.events events
  have begins : ∀ last pc,
      (drawn.game.mainStep calls).main = .draw last pc →
        pc = .screenLock ∧ (last = true → drawn.game.loopOver = true) := by
    intro last pc draws
    rcases Game.mainStep_draws draws with ⟨before, current, _⟩ | begins
    · exact absurd current (outside last before)
    · exact begins
  constructor
  case books => exact drawing.books.events events
  case loop => exact Game.mainStep_loopOver drawing.loop
  case last =>
      intro pc draws
      obtain ⟨rfl, seen⟩ := begins true pc draws
      have ended := (onward.ended (drawing.loop (seen rfl))).1
      refine ⟨ended, ?_⟩
      intro some
      cases some
  case sketched =>
      intro last pc draws
      obtain ⟨rfl, _⟩ := begins last pc draws
      exact .unseen rfl
  case frames =>
      intro frame shown
      obtain ⟨sound, behind⟩ := drawing.frames frame shown
      exact ⟨sound, behind.onward onward⟩
  case ordered => exact drawing.ordered
  case final =>
      intro shown
      obtain ⟨before, sameScore⟩ := Game.mainStep_drawnLast shown
      have drawnBefore := before.resolve_right (outside _ _)
      obtain ⟨frame, isLast, score, ended⟩ := drawing.final drawnBefore
      exact ⟨frame, isLast, score.trans sameScore.symm, ended⟩

private theorem Drawing.draws
    {calls : MainCalls} (drawing : drawn.Drawing)
    (current : drawn.game.main = .draw last pc)
    (events : drawn.game.round.Events (drawn.game.mainStep calls).round) :
    Drawing
      { drawn.drawSection pc with game := drawn.game.mainStep calls } := by
  have onward := Round.Onward.events events
  have sameScore : (drawn.game.mainStep calls).score = drawn.game.score := by
    simp only [Game.mainStep, current]
    split <;> rfl
  have comes : ∀ other after,
      (drawn.game.mainStep calls).main = .draw other after →
        other = last ∧ pc.next = some after := by
    intro other after draws
    simp only [Game.mainStep, current] at draws
    split at draws
    · rename_i next follows
      cases draws
      exact ⟨rfl, follows⟩
    · simp only [Game.goto] at draws
      split_ifs at draws
  obtain ⟨frames, ordered⟩ := frames_drawSection drawing current
  constructor
  case books => exact drawing.books.events events
  case loop => exact Game.mainStep_loopOver drawing.loop
  case last =>
      intro after draws
      obtain ⟨rfl, follows⟩ := comes true after draws
      obtain ⟨ended, sketch⟩ := drawing.last pc current
      refine ⟨(onward.ended ended).1, ?_⟩
      intro some
      cases pc <;> cases follows
      case screenLock => cases some
      case stateLock => exact ended
      all_goals exact sketch (by decide)
  case sketched =>
      intro other after draws
      obtain ⟨rfl, follows⟩ := comes other after draws
      exact (sketched_drawSection drawing current follows).onward onward
        sameScore
  case frames =>
      intro frame shown
      obtain ⟨sound, behind⟩ := frames frame shown
      exact ⟨sound, behind.onward onward⟩
  case ordered => exact ordered
  case final =>
      intro shown
      obtain ⟨before, _⟩ := Game.mainStep_drawnLast shown
      rw [sameScore]
      rcases before with drawnBefore | completes
      · have atEnd : pc ≠ .wordsUnlock := by
          rintro rfl
          rw [current] at drawnBefore
          cases last <;> cases drawnBefore
        simp only [drawSection, if_neg atEnd]
        exact drawing.final drawnBefore
      · rw [current] at completes
        cases completes
        have sketched := drawing.sketched true .wordsUnlock current
        have ended := (drawing.last .wordsUnlock current).2 (by decide)
        refine ⟨drawn.game.draw drawn.sketch .wordsUnlock, ?_,
          sketched.score (by decide), ended⟩
        simp only [drawSection, ↓reduceIte, List.getLast?_concat]

theorem Drawing.step
    {action : GameAction} (drawing : drawn.Drawing)
    (stepped : DrawnGame.step drawn action = some next) : next.Drawing := by
  simp only [DrawnGame.step, Option.map_eq_some_iff] at stepped
  obtain ⟨game, gameStepped, rfl⟩ := stepped
  have events := Game.step_events gameStepped
  cases action with
  | sigint isGameRunning =>
      cases gameStepped
      unfold Game.handleSigint at events ⊢
      split <;> exact drawing.others .refl rfl rfl rfl
  | word threadId dropDue =>
      simp only [Game.step, Option.bind_eq_some_iff,
        Option.map_eq_some_iff] at gameStepped
      obtain ⟨thread, _, owners, performed, rfl⟩ := gameStepped
      obtain ⟨sameMain, sameScore⟩ :=
        Game.wordStep_main drawn.game threadId thread dropDue
      obtain ⟨_, _, _, sameLoop⟩ :=
        @Game.wordStep_constants drawn.game threadId thread dropDue
      exact drawing.others events sameMain sameScore sameLoop
  | main calls =>
      simp only [Game.step, Option.map_eq_some_iff] at gameStepped
      obtain ⟨owners, performed, rfl⟩ := gameStepped
      cases current : drawn.game.main with
      | draw last pc =>
          have drew := drawing.draws current events
          simp only [after, current]
          exact drew.others .refl rfl rfl rfl
      | _ =>
          have went := drawing.elsewhere (by simp [current]) events
          simp only [after, current]
          exact went.others .refl rfl rfl rfl

theorem drawing_start
    (wordList : List CString) (area : GameArea) (input : InputLine) :
    (start wordList area input).Drawing := by
  constructor
  case books => exact Game.books_start wordList area input
  case loop =>
      intro seen
      cases seen
  case last =>
      intro pc current
      cases current
  case sketched =>
      intro last pc current
      cases current
  case frames =>
      intro frame shown
      cases shown
  case ordered => exact .nil
  case final =>
      intro shown
      cases shown

private theorem drawing_of_run
    {wordList : List CString} {area : GameArea} {input : InputLine}
    {actions : List GameAction}
    (ran : step.run (start wordList area input) actions = some drawn) :
    drawn.Drawing := by
  apply Machine.run_preserves Drawing _ (drawing_start _ _ _) ran
  intro drawn action next drawing stepped
  exact drawing.step stepped

/-- However the threads are scheduled, the level printed in a frame is that of
the printed score, at most five lives are printed, and a word is printed once
and only as long as it is not settled; later frames take back neither lives nor
settled words nor the end of the game. -/
theorem frames_of_run
    (wordList : List CString) (area : GameArea) (input : InputLine)
    (actions : List GameAction) (drawn : DrawnGame)
    (ran : step.run (start wordList area input) actions = some drawn) :
    (∀ frame ∈ drawn.frames, frame.Sound) ∧
      drawn.frames.Pairwise ScreenFrame.Precedes := by
  have drawing := drawing_of_run ran
  exact ⟨fun frame shown => (drawing.frames frame shown).1, drawing.ordered⟩

/-- The game and its screen behind the return. -/
def returnedGame : DrawnGame :=
  (step.run (start Game.oneWord smallArea .blank)
    (Game.askedToQuit ++ Game.quitsThen)).get (by decide +kernel)

private theorem ran_returned :
    ∃ drawn, step.run (start Game.oneWord smallArea .blank)
        (Game.askedToQuit ++ Game.quitsThen) = some drawn ∧
      drawn.game.main = .returned 0 :=
  ⟨returnedGame, (Option.some_get _).symm, rfl⟩

theorem frames_of_returned :
    ∃ drawn, step.run (start Game.oneWord smallArea .blank)
        (Game.askedToQuit ++ Game.quitsThen) = some drawn ∧
      drawn.frames.Pairwise ScreenFrame.Precedes := by
  obtain ⟨drawn, ran, _⟩ := ran_returned
  exact ⟨drawn, ran, (frames_of_run _ _ _ _ drawn ran).2⟩

private theorem run_game
    {actions : List GameAction}
    (ran : step.run drawn actions = some next) :
    ∃ actions, Game.step.run drawn.game actions = some next.game := by
  apply Machine.run_simulates DrawnGame.game _ ran
  intro drawn action next stepped
  simp only [step, Option.map_eq_some_iff] at stepped
  obtain ⟨game, gameStepped, rfl⟩ := stepped
  have same : (drawn.after action game).game = game := by
    unfold after
    split <;> rfl
  rw [same]
  exact ⟨[action], Machine.run_cons_eq_some_iff.mpr ⟨_, gameStepped, rfl⟩⟩

/-- Into the last frame, a game that has returned has printed that it is over
and the score that it returns. -/
theorem lastFrame_of_run
    (wordList : List CString) (area : GameArea) (input : InputLine)
    (actions : List GameAction) (drawn : DrawnGame) (score : Int32)
    (ran : step.run (start wordList area input) actions = some drawn)
    (returned : drawn.game.main = .returned score) :
    ∃ frame, drawn.frames.getLast? = some frame ∧ frame.score = score ∧
      frame.isOver = true ∧ frame.message.isSome = true := by
  have drawing := drawing_of_run ran
  have shown : drawn.game.main.drawnLast = true := by
    rw [returned]
    rfl
  obtain ⟨frame, isLast, sameScore, ended⟩ := drawing.final shown
  obtain ⟨gameActions, gameRan⟩ := run_game ran
  have returns := (Game.books_of_run gameRan).2 score returned
  have sound := (drawing.frames frame (List.mem_of_getLast? isLast)).1
  exact ⟨frame, isLast, sameScore.trans returns, ended,
    sound.message.trans ended⟩

theorem lastFrame_of_returned :
    ∃ drawn frame, step.run (start Game.oneWord smallArea .blank)
        (Game.askedToQuit ++ Game.quitsThen) = some drawn ∧
      drawn.frames.getLast? = some frame ∧ frame.isOver = true := by
  obtain ⟨drawn, ran, returned⟩ := ran_returned
  obtain ⟨frame, isLast, _, ended, _⟩ :=
    lastFrame_of_run _ _ _ _ drawn 0 ran returned
  exact ⟨drawn, frame, ran, isLast, ended⟩

end DrawnGame

end RainTyping
