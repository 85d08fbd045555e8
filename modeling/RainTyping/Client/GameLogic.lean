import RainTyping.Client.RoundModel
import RainTyping.Support.Locks
import RainTyping.Support.Runs

/-!
# The game as a machine

The main thread runs `run_rain_typing_game`, and every word on the screen has
a thread of its own that runs `word_thread_func`.  A step takes one thread
through its next operation on a mutex or its next join, and includes the code
up to the following one.  What the clock, the keyboard, `rand`, `malloc` and
`pthread_create` answer is part of the action.
-/

namespace RainTyping

/-- `ERR` of `getch`. -/
abbrev errKey : Int := -1

inductive Mutex where
  | screen
  | words
  | gameState
  | hash
  deriving DecidableEq

inductive Party where
  | main
  | word (threadId : Nat)
  deriving DecidableEq

abbrev Operation := Locks.Operation Party Mutex

/-! ## Program points

A point is named after the operation its thread stands at. -/

/-- The points of `word_thread_func`, with its local variables. -/
inductive WordPc where
  /-- At the head of the loop. -/
  | top
  | signalLock
  | signalUnlock
  | activeLock
  | activeUnlock (active : Bool)
  | overLock (active : Bool)
  | overUnlock (active gameOver : Bool)
  | intervalLock
  | intervalUnlock
  | dropLock
  | landHashLock
  | landHashUnlock
  | landStateLock
  | landStateUnlock
  | dropUnlock
  | exitLock
  | exitHashLock
  | exitHashUnlock
  | exitUnlock
  | finished
  /-- After a `pthread_join` of the thread. -/
  | joined
  deriving DecidableEq

/-- The points of `draw_game_screen`. -/
inductive DrawPc where
  | screenLock
  | stateLock
  | stateUnlock
  | levelLock
  | levelUnlock
  | wordsLock
  | wordsUnlock
  | screenUnlock
  deriving DecidableEq

/-- The same join loop stands in `cleanup_finished_threads` and in
`safe_game_cleanup`. -/
inductive JoinLoop where
  | cleanupFinishedThreads
  | safeGameCleanup
  deriving DecidableEq

/-- The points of the main thread in `run_rain_typing_game` and the functions
it calls, with their local variables. -/
inductive MainPc where
  /-- At the head of the loop. -/
  | top
  | signalLock
  | signalUnlock
  | overLock
  | overUnlock
  | inputOverLock (key : Int)
  | inputOverUnlock (key : Int) (gameOver : Bool)
  | inputLock
  | inputHashLock (target : Fin maxWords) (wtype : WordType)
  | inputHashUnlock (target : Fin maxWords) (wtype : WordType)
  | inputUnlock (target : Option (Fin maxWords × WordType))
  | scoreLock (target : Fin maxWords) (wtype : WordType)
  | scoreUnlock
  | spawnCheckLock
  | spawnCheckUnlock (canSpawn : Bool)
  | spawnLock
  | pickLock (slot : Fin maxWords) (tries : Nat) (pick : CString)
  | pickUnlock (slot : Fin maxWords) (tries : Nat) (pick : CString)
      (taken : Bool)
  | addLock (slot : Fin maxWords)
  | addUnlock (slot : Fin maxWords)
  | undoLock (slot : Fin maxWords)
  | undoUnlock
  | spawnUnlock
  /-- In the loop, or for the last time behind it. -/
  | draw (last : Bool) (pc : DrawPc)
  /-- In the `getch` behind the last screen, which blocks. -/
  | keyWait
  | requestLock
  | requestUnlock
  | joinLock (loop : JoinLoop)
  | joining (loop : JoinLoop) (slot : Fin maxWords)
  | joinUnlock (loop : JoinLoop)
  | clearLock
  | clearUnlock
  | returned (score : Int32)
  deriving DecidableEq

def WordPc.operation : WordPc → Operation
  | .top => .compute
  | .signalLock => .lock .gameState
  | .signalUnlock => .unlock .gameState
  | .activeLock => .lock .words
  | .activeUnlock _ => .unlock .words
  | .overLock _ => .lock .gameState
  | .overUnlock _ _ => .unlock .gameState
  | .intervalLock => .lock .gameState
  | .intervalUnlock => .unlock .gameState
  | .dropLock => .lock .words
  | .landHashLock => .lock .hash
  | .landHashUnlock => .unlock .hash
  | .landStateLock => .lock .gameState
  | .landStateUnlock => .unlock .gameState
  | .dropUnlock => .unlock .words
  | .exitLock => .lock .words
  | .exitHashLock => .lock .hash
  | .exitHashUnlock => .unlock .hash
  | .exitUnlock => .unlock .words
  | .finished => .stop
  | .joined => .stop

def DrawPc.operation : DrawPc → Operation
  | .screenLock => .lock .screen
  | .stateLock => .lock .gameState
  | .stateUnlock => .unlock .gameState
  | .levelLock => .lock .gameState
  | .levelUnlock => .unlock .gameState
  | .wordsLock => .lock .words
  | .wordsUnlock => .unlock .words
  | .screenUnlock => .unlock .screen

def DrawPc.next : DrawPc → Option DrawPc
  | .screenLock => some .stateLock
  | .stateLock => some .stateUnlock
  | .stateUnlock => some .levelLock
  | .levelLock => some .levelUnlock
  | .levelUnlock => some .wordsLock
  | .wordsLock => some .wordsUnlock
  | .wordsUnlock => some .screenUnlock
  | .screenUnlock => none

def MainPc.operation (words : Words) : MainPc → Operation
  | .top => .compute
  | .signalLock => .lock .gameState
  | .signalUnlock => .unlock .gameState
  | .overLock => .lock .gameState
  | .overUnlock => .unlock .gameState
  | .inputOverLock _ => .lock .gameState
  | .inputOverUnlock _ _ => .unlock .gameState
  | .inputLock => .lock .words
  | .inputHashLock _ _ => .lock .hash
  | .inputHashUnlock _ _ => .unlock .hash
  | .inputUnlock _ => .unlock .words
  | .scoreLock _ _ => .lock .gameState
  | .scoreUnlock => .unlock .gameState
  | .spawnCheckLock => .lock .gameState
  | .spawnCheckUnlock _ => .unlock .gameState
  | .spawnLock => .lock .words
  | .pickLock _ _ _ => .lock .hash
  | .pickUnlock _ _ _ _ => .unlock .hash
  | .addLock _ => .lock .hash
  | .addUnlock _ => .unlock .hash
  | .undoLock _ => .lock .hash
  | .undoUnlock => .unlock .hash
  | .spawnUnlock => .unlock .words
  | .draw _ pc => pc.operation
  | .keyWait => .compute
  | .requestLock => .lock .words
  | .requestUnlock => .unlock .words
  | .joinLock _ => .lock .words
  | .joining _ slot => .join (.word (words slot).threadId)
  | .joinUnlock _ => .unlock .words
  | .clearLock => .lock .hash
  | .clearUnlock => .unlock .hash
  | .returned _ => .stop

/-- Between the call of `process_game_input` and its return. -/
def MainPc.inProcessGameInput : MainPc → Bool
  | .inputOverLock _ => true
  | .inputOverUnlock _ _ => true
  | .inputLock => true
  | .inputHashLock _ _ => true
  | .inputHashUnlock _ _ => true
  | .inputUnlock _ => true
  | .scoreLock _ _ => true
  | .scoreUnlock => true
  | _ => false

/-! ## The state -/

/-- The terminal sizes that pass the check of `run_rain_typing_game`. -/
structure GameArea where
  height : Nat
  width : Nat
  tall : 5 ≤ height
  wide : 20 ≤ width

/-- The smallest area of a game. -/
def smallArea : GameArea :=
  ⟨5, 20, Nat.le_refl 5, Nat.le_refl 20⟩

structure WordThread where
  slot : Fin maxWords
  pc : WordPc
  deriving DecidableEq

structure Game where
  /-- `g_word_manager.words`. -/
  wordList : List CString
  area : GameArea
  words : Words
  activeWords : ActiveWordTable
  score : Int32
  lives : Int
  isOver : Bool
  input : InputLine
  sigintReceived : Bool
  sigintGameExitRequested : Bool
  main : MainPc
  /-- `loop_condition_check_game_over`. -/
  loopOver : Bool
  /-- Every thread `pthread_create` has started. -/
  threads : Nat → Option WordThread
  nextThreadId : Nat
  owners : Locks.Owners Party Mutex
  /-- The words of all started threads so far. -/
  spawned : List SpawnedWord
  /-- The words that have dropped to the bottom of the area so far. -/
  landed : List SpawnedWord
  /-- The words typed so far, and the landed ones behind the section that
  decides what a landing costs. -/
  settled : List Settlement

/-- What the environment answers in one step of the main thread. -/
structure MainCalls where
  key : Int
  spawnDue : Bool
  pick : Nat
  rolls : Rolls
  allocated : Bool
  created : Bool
  deriving DecidableEq

/-- Nothing is pressed, nothing is due, and no call fails. -/
def MainCalls.idle : MainCalls where
  key := errKey
  spawnDue := false
  pick := 0
  rolls := ⟨0, 99, 99⟩
  allocated := true
  created := true

def MainCalls.spawnNow : MainCalls :=
  { MainCalls.idle with spawnDue := true }

def MainCalls.pressKey (key : Int) : MainCalls :=
  { MainCalls.idle with key := key }

inductive GameAction where
  | main (calls : MainCalls)
  | word (threadId : Nat) (dropDue : Bool)
  | sigint (isGameRunning : Bool)
  deriving DecidableEq

namespace Game

/-- The game at the head of its loop. -/
def start (wordList : List CString) (area : GameArea) (input : InputLine) :
    Game where
  wordList := wordList
  area := area
  words := fun _ => .zero
  activeWords := initActiveWordTable
  score := 0
  lives := initialLives
  isOver := false
  input := input.clear
  sigintReceived := false
  sigintGameExitRequested := false
  main := .top
  loopOver := false
  threads := fun _ => none
  nextThreadId := 1
  owners := fun _ => none
  spawned := []
  landed := []
  settled := []

def goto (game : Game) (pc : MainPc) : Game :=
  { game with main := pc }

def setWord (game : Game) (slot : Fin maxWords) (word : Word) : Game :=
  { game with words := game.words.set slot word }

def setThread (game : Game) (threadId : Nat) (thread : WordThread) : Game :=
  { game with
    threads := Function.update game.threads threadId (some thread) }

def removeActive (game : Game) (slot : Fin maxWords) : Game :=
  { game with
    activeWords :=
      (removeActiveWord game.activeWords (game.words slot).text.toCString).2 }

def settle (game : Game) (slot : Fin maxWords) (outcome : Outcome) : Game :=
  { game with
    settled := game.settled ++ [⟨(game.words slot).spawned, outcome⟩] }

def signaled (game : Game) : Bool :=
  game.sigintReceived || game.sigintGameExitRequested

/-! ## `process_game_input` -/

/-- From the test of `game_is_over` to the next mutex. -/
def handleKey (game : Game) (key : Int) : Game :=
  if key = 10 ∨ key = 32 then
    if game.input.pos > 0 then game.goto .inputLock
    else game.goto .spawnCheckLock
  else if key = 263 ∨ key = 127 ∨ key = 8 then
    { game with input := game.input.backspace }.goto .spawnCheckLock
  else if 32 ≤ key ∧ key ≤ 126 then
    { game with input := game.input.append (.ofNat key.toNat) }.goto
      .spawnCheckLock
  else game.goto .spawnCheckLock

/-- The scan of the slots and the choice among them. -/
def chooseTarget (game : Game) : Game :=
  match findTarget game.input.text game.words with
  | some target =>
      ((game.settle target .typed).setWord target
        (game.words target).deactivate).goto
          (.inputHashLock target (game.words target).wtype)
  | none => game.goto (.inputUnlock none)

/-- The points of a typed word that is not a kill word. -/
def scoreWord (game : Game) (target : Fin maxWords) (wtype : WordType) :
    Game :=
  match wtype with
  | .kill => { game with isOver := true }
  | .bonus =>
      { game with
        score := game.score + 50 +
          .ofNat (game.words target).text.strlen }
  | .normal =>
      { game with
        score := game.score + .ofNat (game.words target).text.strlen }

/-! ## `spawn_word` -/

def pickWord (game : Game) (roll : Nat) : CString :=
  game.wordList.getD (roll % game.wordList.length) .empty

def fillSlot (game : Game) (slot : Fin maxWords) (pick : CString)
    (rolls : Rolls) : Game :=
  (game.setWord slot
    ((game.words slot).fill game.area.width pick rolls)).goto (.addLock slot)

/-- One round of the retry loop, up to its call of
`is_word_in_active_table`. -/
def tryPick (game : Game) (slot : Fin maxWords) (tries : Nat)
    (calls : MainCalls) : Game :=
  let pick := game.pickWord calls.pick
  if tries > game.wordList.length then game.fillSlot slot pick calls.rolls
  else game.goto (.pickLock slot tries pick)

def chooseSlot (game : Game) (calls : MainCalls) : Game :=
  match freeSlot game.words with
  | some slot =>
      (game.setWord slot (game.words slot).release).tryPick slot 1 calls
  | none => game.goto .spawnUnlock

/-- `pthread_create` and what follows it. -/
def createThread (game : Game) (slot : Fin maxWords) (created : Bool) : Game :=
  if created then
    let word := (game.words slot).start game.nextThreadId
    { ((game.setWord slot word).setThread game.nextThreadId
        ⟨slot, .top⟩).goto .spawnUnlock with
      nextThreadId := game.nextThreadId + 1
      spawned := game.spawned ++ [word.spawned] }
  else
    (game.setWord slot (game.words slot).unspawn).goto (.undoLock slot)

/-! ## Joins -/

/-- The next join of the loop. -/
def joinFrom (game : Game) (loop : JoinLoop) (start : Nat) : Game :=
  match nextRemovable game.words start with
  | some slot => game.goto (.joining loop slot)
  | none => game.goto (.joinUnlock loop)

/-- After `pthread_join` on the thread of a slot. -/
def collectSlot (game : Game) (slot : Fin maxWords) : Game :=
  let threadId := (game.words slot).threadId
  { game with
    words := game.words.set slot (game.words slot).collect
    threads := Function.update game.threads threadId
      ((game.threads threadId).map fun thread =>
        { thread with pc := .joined }) }

/-! ## The main thread -/

/-- The code of the main thread from its next operation to the one behind it.
A `pthread_join` of a thread that has not been joined answers `0`, so the
loops of joins run once.  The step behind `keyWait` comes with the key that
`getch` waits for. -/
def mainStep (game : Game) (calls : MainCalls) : Game :=
  match game.main with
  | .top => game.goto (if game.signaled then .signalLock else .overLock)
  | .signalLock =>
      { game with isOver := true, loopOver := true }.goto .signalUnlock
  | .signalUnlock => game.goto .overLock
  | .overLock => { game with loopOver := game.isOver }.goto .overUnlock
  | .overUnlock =>
      game.goto (if calls.key = errKey then .spawnCheckLock
        else .inputOverLock calls.key)
  | .inputOverLock key => game.goto (.inputOverUnlock key game.isOver)
  | .inputOverUnlock key gameOver =>
      if gameOver then game.goto .spawnCheckLock else game.handleKey key
  | .inputLock => game.chooseTarget
  | .inputHashLock target wtype =>
      (game.removeActive target).goto (.inputHashUnlock target wtype)
  | .inputHashUnlock target wtype =>
      game.goto (.inputUnlock (some (target, wtype)))
  | .inputUnlock (some (target, wtype)) => game.goto (.scoreLock target wtype)
  | .inputUnlock none =>
      { game with input := game.input.clear }.goto .spawnCheckLock
  | .scoreLock target wtype => (game.scoreWord target wtype).goto .scoreUnlock
  | .scoreUnlock =>
      { game with input := game.input.clear }.goto .spawnCheckLock
  | .spawnCheckLock => game.goto (.spawnCheckUnlock !game.isOver)
  | .spawnCheckUnlock canSpawn =>
      if canSpawn ∧ calls.spawnDue ∧ game.wordList ≠ [] then
        game.goto .spawnLock
      else game.goto (.draw false .screenLock)
  | .spawnLock => game.chooseSlot calls
  | .pickLock slot tries pick =>
      game.goto (.pickUnlock slot tries pick
        (isWordInActiveTable game.activeWords pick))
  | .pickUnlock slot tries pick taken =>
      if taken then game.tryPick slot (tries + 1) calls
      else game.fillSlot slot pick calls.rolls
  | .addLock slot =>
      { game with
        activeWords := (addActiveWord calls.allocated game.activeWords
          (game.words slot).text.toCString).2 }.goto (.addUnlock slot)
  | .addUnlock slot => game.createThread slot calls.created
  | .undoLock slot => (game.removeActive slot).goto .undoUnlock
  | .undoUnlock => game.goto .spawnUnlock
  | .spawnUnlock => game.goto (.draw false .screenLock)
  | .draw last pc =>
      match pc.next with
      | some next => game.goto (.draw last next)
      | none =>
          game.goto (if !last then .joinLock .cleanupFinishedThreads
            else if game.sigintReceived then .requestLock
            else .keyWait)
  | .keyWait => game.goto .requestLock
  | .requestLock =>
      { game with
        words := fun slot => (game.words slot).requestRemoval }.goto
          .requestUnlock
  | .requestUnlock => game.goto (.joinLock .safeGameCleanup)
  | .joinLock loop => game.joinFrom loop 0
  | .joining loop slot => (game.collectSlot slot).joinFrom loop (slot + 1)
  | .joinUnlock .cleanupFinishedThreads =>
      game.goto (if game.loopOver then .draw true .screenLock else .top)
  | .joinUnlock .safeGameCleanup =>
      { game with wordList := [] }.goto .clearLock
  | .clearLock =>
      { game with activeWords := initActiveWordTable }.goto .clearUnlock
  | .clearUnlock => game.goto (.returned game.score)
  | .returned _ => game

/-! ## The word threads -/

/-- A word that the next row takes to the bottom of the area has landed. -/
def noteLanding (game : Game) (slot : Fin maxWords) : Game :=
  let word := game.words slot
  { game with
    landed :=
      if word.active ∧ ¬(word.drop game.area.height).active then
        game.landed ++ [word.spawned]
      else game.landed }

/-- What a landed word costs. -/
def landWord (game : Game) (slot : Fin maxWords) : Game :=
  let landed := game.settle slot (.landed game.isOver)
  if game.isOver then landed
  else
    let lives :=
      if (game.words slot).wtype = .kill then game.lives else game.lives - 1
    { landed with
      lives := lives
      isOver := lives ≤ 0 }

/-- The code of a word thread from its next operation to the one behind it;
`dropDue` is whether the interval of its type has passed. -/
def wordStep (game : Game) (threadId : Nat) (thread : WordThread)
    (dropDue : Bool) : Game :=
  let slot := thread.slot
  let word := game.words slot
  match thread.pc with
  | .top =>
      game.setThread threadId
        ⟨slot, if game.signaled then .signalLock else .activeLock⟩
  | .signalLock =>
      { game with isOver := true }.setThread threadId ⟨slot, .signalUnlock⟩
  | .signalUnlock => game.setThread threadId ⟨slot, .activeLock⟩
  | .activeLock =>
      game.setThread threadId ⟨slot, .activeUnlock word.active⟩
  | .activeUnlock active =>
      game.setThread threadId ⟨slot, .overLock active⟩
  | .overLock active =>
      game.setThread threadId ⟨slot, .overUnlock active game.isOver⟩
  | .overUnlock active gameOver =>
      game.setThread threadId
        ⟨slot,
          if !active || gameOver then .exitLock
          else if word.wtype = .normal then .intervalLock
          else if dropDue then .dropLock
          else .top⟩
  | .intervalLock => game.setThread threadId ⟨slot, .intervalUnlock⟩
  | .intervalUnlock =>
      game.setThread threadId ⟨slot, if dropDue then .dropLock else .top⟩
  | .dropLock =>
      let dropped := word.drop game.area.height
      ((game.noteLanding slot).setWord slot dropped).setThread threadId
        ⟨slot,
          if word.active ∧ ¬dropped.active then .landHashLock
          else .dropUnlock⟩
  | .landHashLock =>
      (game.removeActive slot).setThread threadId ⟨slot, .landHashUnlock⟩
  | .landHashUnlock => game.setThread threadId ⟨slot, .landStateLock⟩
  | .landStateLock =>
      (game.landWord slot).setThread threadId ⟨slot, .landStateUnlock⟩
  | .landStateUnlock => game.setThread threadId ⟨slot, .dropUnlock⟩
  | .dropUnlock => game.setThread threadId ⟨slot, .top⟩
  | .exitLock =>
      (game.setWord slot word.leave).setThread threadId ⟨slot, .exitHashLock⟩
  | .exitHashLock =>
      (game.removeActive slot).setThread threadId ⟨slot, .exitHashUnlock⟩
  | .exitHashUnlock => game.setThread threadId ⟨slot, .exitUnlock⟩
  | .exitUnlock => game.setThread threadId ⟨slot, .finished⟩
  | .finished => game
  | .joined => game

/-! ## Steps -/

/-- Threads whose join returns. -/
def finished (game : Game) : Party → Bool
  | .main => false
  | .word threadId =>
      match game.threads threadId with
      | some thread => thread.pc = .finished
      | none => false

def operation (game : Game) : Party → Operation
  | .main => game.main.operation game.words
  | .word threadId =>
      match game.threads threadId with
      | some thread => thread.pc.operation
      | none => .stop

/-- `handle_sigint`. -/
def handleSigint (game : Game) (isGameRunning : Bool) : Game :=
  if isGameRunning then { game with sigintGameExitRequested := true }
  else { game with sigintReceived := true }

def step : Machine Game GameAction
  | game, .sigint isGameRunning => some (game.handleSigint isGameRunning)
  | game, .main calls =>
      (Locks.perform game.finished game.owners .main
        (game.operation .main)).map fun owners =>
          { game.mainStep calls with owners := owners }
  | game, .word threadId dropDue =>
      (game.threads threadId).bind fun thread =>
        (Locks.perform game.finished game.owners (.word threadId)
          thread.pc.operation).map fun owners =>
            { game.wordStep threadId thread dropDue with owners := owners }

/-- A word list with one word. -/
def oneWord : List CString :=
  [.ofBuffer (text "a")]

variable {game : Game} {slot : Fin maxWords} {threadId : Nat}
  {thread : WordThread}

theorem finished_word_iff :
    game.finished (.word threadId) = true ↔
      ∃ thread, game.threads threadId = some thread ∧
        thread.pc = .finished := by
  unfold finished
  cases live : game.threads threadId with
  | none => simp [live]
  | some thread => simp [live]

theorem finished_of_joining
    {calls : MainCalls} {next : Game}
    (stepped : step game (.main calls) = some next)
    (loop : JoinLoop) (slot : Fin maxWords)
    (joining : game.main = .joining loop slot) :
    game.finished (.word (game.words slot).threadId) = true := by
  simp only [step, Option.map_eq_some_iff] at stepped
  obtain ⟨owners, performed, _⟩ := stepped
  rw [operation, joining] at performed
  exact Locks.finished_of_join performed

theorem collectSlot_of_live
    (live : game.threads (game.words slot).threadId = some thread) :
    game.collectSlot slot =
      (game.setWord slot (game.words slot).collect).setThread
        (game.words slot).threadId { thread with pc := .joined } := by
  simp only [collectSlot, live, Option.map_some]
  rfl

@[simp] theorem noteLanding_words :
    (game.noteLanding slot).words = game.words :=
  rfl

@[simp] theorem landWord_main : (game.landWord slot).main = game.main := by
  unfold landWord
  split <;> rfl

@[simp] theorem landWord_score : (game.landWord slot).score = game.score := by
  unfold landWord
  split <;> rfl

@[simp] theorem landWord_words : (game.landWord slot).words = game.words := by
  unfold landWord
  split <;> rfl

@[simp] theorem landWord_threads :
    (game.landWord slot).threads = game.threads := by
  unfold landWord
  split <;> rfl

theorem wordStep_main
    (game : Game) (threadId : Nat) (thread : WordThread) (dropDue : Bool) :
    (game.wordStep threadId thread dropDue).main = game.main ∧
      (game.wordStep threadId thread dropDue).score = game.score := by
  unfold wordStep
  cases thread.pc <;>
    simp [setThread, setWord, removeActive, noteLanding]

end Game

end RainTyping
