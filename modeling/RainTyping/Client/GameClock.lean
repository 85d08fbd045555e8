import RainTyping.Client.GameLocks
import RainTyping.Support.Pacing

/-!
# The game on the clock

Words are spawned and fall when the monotonic clock says so.  The timed game
is the game together with the clock and the times its threads remember; it
answers the questions that the game leaves to its actions, so its runs are
runs of the game.
-/

namespace RainTyping

/-! ## Levels and intervals -/

/-- `get_current_level` behind its critical section. -/
def currentLevel (score : Int32) : Nat :=
  if score ≥ 200 then 5
  else if score ≥ 150 then 4
  else if score ≥ 100 then 3
  else if score ≥ 50 then 2
  else 1

/-- `get_normal_drop_interval` behind its critical section. -/
def normalDropInterval (score : Int32) : Nat :=
  if score ≥ 200 then 200
  else if score ≥ 150 then 275
  else if score ≥ 100 then 350
  else if score ≥ 50 then 425
  else 500

/-- `drop_interval_ms`; the entry of normal words is not used, and
`set_drop_interval` accepts only values above 50. -/
structure DropIntervals where
  kill : Int
  bonus : Int
  slow : 50 < kill ∧ 50 < bonus

def DropIntervals.initial : DropIntervals :=
  ⟨350, 200, by decide⟩

abbrev wordSpawnRateMs : Nat := 1500

/-! ## The timed game -/

/-- `last_drop_ms`, `now_ms` and `drop_interval` of a word thread. -/
structure WordClock where
  lastDrop : Nat
  now : Nat
  interval : Nat

structure TimedGame where
  game : Game
  intervals : DropIntervals
  /-- The clock, in milliseconds. -/
  clock : Nat
  /-- `last_spawn_ms`. -/
  lastSpawn : Nat
  /-- What the threads remember that have looked at the clock. -/
  wordClocks : Nat → Option WordClock
  /-- When each thread was created. -/
  created : Nat → Nat

inductive TimedAction where
  | tick (passed : Nat)
  /-- The clock decides whether a word is spawned. -/
  | main (calls : MainCalls)
  | word (threadId : Nat)
  | sigint (isGameRunning : Bool)
  deriving DecidableEq

namespace TimedGame

def start (wordList : List CString) (area : GameArea) (input : InputLine)
    (intervals : DropIntervals) (clock : Nat) : TimedGame where
  game := .start wordList area input
  intervals := intervals
  clock := clock
  lastSpawn := clock
  wordClocks := fun _ => none
  created := fun _ => 0

/-- The interval of a word that is not normal. -/
def typeInterval (timed : TimedGame) : WordType → Nat
  | .kill => timed.intervals.kill.toNat
  | .bonus => timed.intervals.bonus.toNat
  | .normal => 0

/-- The local variables of a word thread; at its first step it looks at the
clock. -/
def wordClock (timed : TimedGame) (threadId : Nat) : WordClock :=
  (timed.wordClocks threadId).getD ⟨timed.clock, timed.clock, 0⟩

/-- What a step of a word thread leaves in its local variables. -/
def readClock (timed : TimedGame) (threadId : Nat) (thread : WordThread) :
    WordClock :=
  let before := timed.wordClock threadId
  let wtype := (timed.game.words thread.slot).wtype
  match thread.pc with
  | .overUnlock active gameOver =>
      if !active || gameOver then before
      else
        { before with
          now := timed.clock
          interval :=
            if wtype = .normal then before.interval
            else timed.typeInterval wtype }
  | .intervalLock =>
      { before with interval := normalDropInterval timed.game.score }
  | .dropUnlock => { before with lastDrop := before.now }
  | _ => before

/-- The test of `word_thread_func` before a drop. -/
def dropDue (timed : TimedGame) (threadId : Nat) (thread : WordThread) :
    Bool :=
  let after := timed.readClock threadId thread
  Pacing.due after.lastDrop after.interval after.now

/-- What a word thread remembers after its step to this game. -/
def afterWord (timed : TimedGame) (threadId : Nat) (thread : WordThread)
    (next : Game) : TimedGame :=
  { timed with
    game := next
    wordClocks := Function.update timed.wordClocks threadId
      (timed.readClock threadId thread) }

/-- The test of the main loop after a look at the clock. -/
def spawnDue (timed : TimedGame) : Bool :=
  Pacing.due timed.lastSpawn wordSpawnRateMs timed.clock

/-- What the main thread remembers after its step to this game. -/
def afterMain (timed : TimedGame) (next : Game) : TimedGame :=
  { timed with
    game := next
    lastSpawn :=
      if timed.game.main = .spawnCheckUnlock true ∧ timed.spawnDue then
        timed.clock
      else timed.lastSpawn
    created :=
      if next.nextThreadId = timed.game.nextThreadId then timed.created
      else
        Function.update timed.created timed.game.nextThreadId timed.clock }

/-- The steps of the game, with the answers of the clock. -/
def step : Machine TimedGame TimedAction
  | timed, .tick passed =>
      some { timed with clock := timed.clock + passed }
  | timed, .main calls =>
      (Game.step timed.game
        (.main { calls with spawnDue := timed.spawnDue })).map
          timed.afterMain
  | timed, .word threadId =>
      (timed.game.threads threadId).bind fun thread =>
        (Game.step timed.game
          (.word threadId (timed.dropDue threadId thread))).map
            (timed.afterWord threadId thread)
  | timed, .sigint isGameRunning =>
      (Game.step timed.game (.sigint isGameRunning)).map fun next =>
        { timed with game := next }

theorem step_game
    {timed next : TimedGame} {action : TimedAction}
    (stepped : step timed action = some next) :
    ∃ actions, Game.step.run timed.game actions = some next.game := by
  cases action with
  | tick passed =>
      cases stepped
      exact ⟨[], rfl⟩
  | main calls =>
      simp only [step, Option.map_eq_some_iff] at stepped
      obtain ⟨game, gameStepped, rfl⟩ := stepped
      exact ⟨[_], Machine.run_cons_eq_some_iff.mpr ⟨_, gameStepped, rfl⟩⟩
  | word threadId =>
      simp only [step, Option.bind_eq_some_iff,
        Option.map_eq_some_iff] at stepped
      obtain ⟨thread, _, game, gameStepped, rfl⟩ := stepped
      exact ⟨[_], Machine.run_cons_eq_some_iff.mpr ⟨_, gameStepped, rfl⟩⟩
  | sigint isGameRunning =>
      simp only [step, Option.map_eq_some_iff] at stepped
      obtain ⟨game, gameStepped, rfl⟩ := stepped
      exact ⟨[_], Machine.run_cons_eq_some_iff.mpr ⟨_, gameStepped, rfl⟩⟩

theorem run_game
    {timed next : TimedGame} {actions : List TimedAction}
    (ran : step.run timed actions = some next) :
    ∃ gameActions, Game.step.run timed.game gameActions = some next.game :=
  Machine.run_simulates TimedGame.game
    (fun _ _ _ stepped => step_game stepped) ran

end TimedGame

end RainTyping
