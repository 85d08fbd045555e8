import RainTyping.Client.GameClock
import RainTyping.Client.MainThread
import RainTyping.Client.ScoreAndLives
import RainTyping.Client.StepEffects

/-!
# The times of the falling words

However the threads are scheduled, a word thread counts a row only when the
interval of its type has passed since the row before, and the main thread
begins a spawn only when the spawn interval has passed.  The invariant speaks
of what every thread remembers of the clock at its program point.
-/

namespace RainTyping

open Pacing

/-- A row of the word is counted and `last_drop_ms` is not set yet. -/
def WordPc.dropped : WordPc → Bool
  | .landHashLock => true
  | .landHashUnlock => true
  | .landStateLock => true
  | .landStateUnlock => true
  | .dropUnlock => true
  | _ => false

/-- When the last counted row was due. -/
def WordClock.reached (wordClock : WordClock) (pc : WordPc) : Nat :=
  if pc.dropped then wordClock.now else wordClock.lastDrop

/-- A slot that is filled and has no thread yet shows its word at the top. -/
def Round.FilledOnTop (round : Round) : Prop :=
  ∀ slot, round.phase = .filled slot → (round.words slot).y = 0

theorem Round.FilledOnTop.event
    {round next : Round} (owned : round.Owned) (onTop : round.FilledOnTop)
    (event : Event round next) : next.FilledOnTop := by
  have undisturbed : ∀ {slot threadId other},
      round.threads threadId = some ⟨other, .falling⟩ →
        round.phase = .filled slot → slot ≠ other := by
    rintro slot threadId other falling filled rfl
    exact owned.unused_of_threadId (owned.filled slot filled).1 threadId
      (.inl falling)
  intro slot filled
  cases event with
  | fillSlot place areaWidth pick rolls choosing =>
      cases filled
      simp only [Round.goto, Round.setWord, Words.set_same]
      rfl
  | drop threadId place areaHeight falling stays =>
      simp only [Round.setWord, Words.set_of_ne _ _
        (undisturbed falling filled)]
      exact onTop slot filled
  | reachGround threadId place areaHeight falling active down =>
      simp only [Round.setThread, Round.setWord, Words.set_of_ne _ _
        (undisturbed falling filled)]
      exact onTop slot filled
  | leave threadId place falling =>
      simp only [Round.setThread, Round.setWord, Words.set_of_ne _ _
        (undisturbed falling filled)]
      exact onTop slot filled
  | collect place other calm exited =>
      simp only [Round.setThread, Round.setWord] at filled
      rcases calm with playing | closing
      · rw [playing] at filled
        cases filled
      · rw [closing] at filled
        cases filled
  | land threadId place landing =>
      simp only [Round.setThread, land_phase] at filled
      simp only [Round.setThread, land_words]
      exact onTop slot filled
  | endGame => exact onTop slot filled
  | _ => cases filled

namespace TimedGame

/-- The time a word of the type needs for a row, if a normal word needs at
least `least`. -/
def rowTime (timed : TimedGame) (least : Nat) : WordType → Nat
  | .normal => least
  | wtype => timed.typeInterval wtype

/-- A word thread on the clock, before it leaves its slot. -/
structure FallsInTime (timed : TimedGame) (least threadId : Nat)
    (thread : WordThread) (wordClock : WordClock) : Prop where
  past : wordClock.lastDrop ≤ wordClock.now ∧ wordClock.now ≤ timed.clock
  paced : Paced
    (timed.rowTime least (timed.game.words thread.slot).wtype)
    (timed.created threadId) (wordClock.reached thread.pc)
    (timed.game.words thread.slot).y
  normal : thread.pc = .intervalLock ∨ thread.pc = .intervalUnlock →
    (timed.game.words thread.slot).wtype = .normal
  slow : thread.pc = .intervalUnlock → least ≤ wordClock.interval
  due : thread.pc = .dropLock → wordClock.lastDrop +
    timed.rowTime least (timed.game.words thread.slot).wtype ≤ wordClock.now
  ground : thread.pc.phase = .landing →
    timed.game.area.height ≤ (timed.game.words thread.slot).y

/-- The words and their times. -/
structure OnTime (timed : TimedGame) (start least : Nat) : Prop where
  spawnPaced : Paced wordSpawnRateMs start timed.lastSpawn
    (timed.game.spawned.length + timed.game.main.spawning)
  spawnPast : timed.lastSpawn ≤ timed.clock
  created : ∀ threadId, timed.created threadId ≤ timed.clock
  spawnTimes : ∀ index word, timed.game.spawned[index]? = some word →
    Paced wordSpawnRateMs start (timed.created word.threadId) (index + 1)
  unread : ∀ threadId, timed.game.threads threadId = none →
    timed.wordClocks threadId = none
  fresh : ∀ threadId thread, timed.game.threads threadId = some thread →
    thread.pc.phase = .falling ∨ thread.pc.phase = .landing →
      timed.wordClocks threadId = none →
        thread.pc = .top ∧ (timed.game.words thread.slot).y = 0
  falls : ∀ threadId thread wordClock,
    timed.game.threads threadId = some thread →
      timed.wordClocks threadId = some wordClock →
        thread.pc.phase = .falling ∨ thread.pc.phase = .landing →
          timed.FallsInTime least threadId thread wordClock
  landed : ∀ settlement gameOver, settlement ∈ timed.game.settled →
    settlement.outcome = .landed gameOver →
      timed.created settlement.word.threadId +
        timed.rowTime least settlement.word.wtype * timed.game.area.height ≤
          timed.clock

variable {timed next : TimedGame} {start least threadId : Nat}
  {thread : WordThread} {wordClock : WordClock}

/-! ## Time passes -/

theorem FallsInTime.later
    (falls : timed.FallsInTime least threadId thread wordClock)
    (passed : Nat) :
    FallsInTime { timed with clock := timed.clock + passed } least threadId
      thread wordClock :=
  ⟨⟨falls.past.1, Nat.le_add_right_of_le falls.past.2⟩, falls.paced,
    falls.normal, falls.slow, falls.due, falls.ground⟩

theorem OnTime.tick
    (onTime : timed.OnTime start least) (passed : Nat) :
    OnTime { timed with clock := timed.clock + passed } start least where
  spawnPaced := onTime.spawnPaced
  spawnPast := Nat.le_add_right_of_le onTime.spawnPast
  created := fun threadId => Nat.le_add_right_of_le (onTime.created threadId)
  spawnTimes := onTime.spawnTimes
  unread := onTime.unread
  fresh := onTime.fresh
  falls := fun threadId thread wordClock live read running =>
    (onTime.falls threadId thread wordClock live read running).later passed
  landed := fun settlement gameOver settled landed =>
    Nat.le_add_right_of_le (onTime.landed settlement gameOver settled landed)

/-! ## A word thread -/

namespace FallsInTime

theorem congr
    (falls : timed.FallsInTime least threadId thread wordClock)
    (sameClock : next.clock = timed.clock)
    (sameIntervals : next.intervals = timed.intervals)
    (sameBirth : next.created threadId = timed.created threadId)
    (sameRow : (next.game.words thread.slot).y =
      (timed.game.words thread.slot).y)
    (sameType : (next.game.words thread.slot).wtype =
      (timed.game.words thread.slot).wtype)
    (sameArea : next.game.area = timed.game.area) :
    next.FallsInTime least threadId thread wordClock := by
  have sameTime : next.rowTime least = timed.rowTime least := by
    funext wtype
    simp only [rowTime, typeInterval, sameIntervals]
  constructor
  case past => rw [sameClock]; exact falls.past
  case paced => rw [sameTime, sameType, sameBirth, sameRow]; exact falls.paced
  case normal => rw [sameType]; exact falls.normal
  case slow => exact falls.slow
  case due => rw [sameTime, sameType]; exact falls.due
  case ground => rw [sameArea, sameRow]; exact falls.ground

theorem goto
    (falls : timed.FallsInTime least threadId thread wordClock) {pc : WordPc}
    (sameDropped : pc.dropped = thread.pc.dropped)
    (plain : pc ≠ .intervalLock ∧ pc ≠ .intervalUnlock ∧ pc ≠ .dropLock)
    (landing : pc.phase = .landing → thread.pc.phase = .landing) :
    timed.FallsInTime least threadId ⟨thread.slot, pc⟩ wordClock := by
  constructor
  case past => exact falls.past
  case paced =>
      rw [WordClock.reached, sameDropped]
      exact falls.paced
  case normal =>
      intro interval
      exact absurd interval (not_or.mpr ⟨plain.1, plain.2.1⟩)
  case slow => exact fun interval => absurd interval plain.2.1
  case due => exact fun drops => absurd drops plain.2.2
  case ground => exact fun down => falls.ground (landing down)

theorem look
    (falls : timed.FallsInTime least threadId thread wordClock)
    {pc : WordPc} {interval : Nat}
    (undropped : thread.pc.dropped = false) (undroppedAfter : pc.dropped = false)
    (falling : pc.phase = .falling)
    (normal : pc = .intervalLock ∨ pc = .intervalUnlock →
      (timed.game.words thread.slot).wtype = .normal)
    (slow : pc = .intervalUnlock → least ≤ interval)
    (due : pc = .dropLock → wordClock.lastDrop +
      timed.rowTime least (timed.game.words thread.slot).wtype ≤
        timed.clock) :
    timed.FallsInTime least threadId ⟨thread.slot, pc⟩
      { wordClock with now := timed.clock, interval := interval } := by
  constructor
  case past => exact ⟨falls.past.1.trans falls.past.2, Nat.le_refl _⟩
  case paced =>
      have paced := falls.paced
      simp only [WordClock.reached, undropped] at paced
      simp only [WordClock.reached, undroppedAfter]
      exact paced
  case normal => exact normal
  case slow => exact slow
  case due => exact due
  case ground =>
      intro landing
      rw [falling] at landing
      cases landing

theorem drop
    (falls : timed.FallsInTime least threadId thread wordClock)
    {pc : WordPc} (drops : thread.pc = .dropLock)
    (dropped : pc = .landHashLock ∧
        (timed.game.words thread.slot).active = true ∧
        ((timed.game.words thread.slot).drop
          timed.game.area.height).active = false ∨
      pc = .dropUnlock)
    (same : next.clock = timed.clock ∧ next.intervals = timed.intervals ∧
      next.created = timed.created ∧ next.game.area = timed.game.area)
    (word : next.game.words thread.slot =
      (timed.game.words thread.slot).drop timed.game.area.height) :
    next.FallsInTime least threadId ⟨thread.slot, pc⟩ wordClock := by
  obtain ⟨sameClock, sameIntervals, sameBirths, sameArea⟩ := same
  have sameTime : next.rowTime least = timed.rowTime least := by
    funext wtype
    simp only [rowTime, typeInterval, sameIntervals]
  have sameType : ((timed.game.words thread.slot).drop
      timed.game.area.height).wtype =
        (timed.game.words thread.slot).wtype := by
    unfold Word.drop
    split <;> rfl
  have counted : pc.dropped = true := by
    rcases dropped with ⟨rfl, _⟩ | rfl <;> rfl
  have paced := falls.paced
  simp only [WordClock.reached, drops, WordPc.dropped] at paced
  constructor
  case past => rw [sameClock]; exact falls.past
  case paced =>
      simp only [word, sameTime, sameType, sameBirths, WordClock.reached,
        counted, ↓reduceIte]
      unfold Word.drop
      split
      · exact paced.again (Nat.le_refl _) (falls.due drops)
      · exact paced.later falls.past.1
  case normal => rcases dropped with ⟨rfl, _⟩ | rfl <;> simp
  case slow => rcases dropped with ⟨rfl, _⟩ | rfl <;> simp
  case due => rcases dropped with ⟨rfl, _⟩ | rfl <;> simp
  case ground =>
      intro landing
      rcases dropped with ⟨rfl, active, down⟩ | rfl
      · simp only [Word.drop, active, ↓reduceIte, decide_eq_false_iff_not,
          Nat.not_lt] at down
        simp only [word, Word.drop, active, ↓reduceIte, sameArea]
        exact down
      · cases landing

/-- The interval of another word has passed, or not. -/
theorem lookOther
    (falls : timed.FallsInTime least threadId thread wordClock)
    (undropped : thread.pc.dropped = false)
    (other : (timed.game.words thread.slot).wtype ≠ .normal) :
    timed.FallsInTime least threadId
      ⟨thread.slot,
        if Pacing.due wordClock.lastDrop
            (timed.typeInterval (timed.game.words thread.slot).wtype)
            timed.clock then .dropLock
        else .top⟩
      { wordClock with
        now := timed.clock
        interval := timed.typeInterval
          (timed.game.words thread.slot).wtype } := by
  have sameTime :
      timed.rowTime least (timed.game.words thread.slot).wtype =
        timed.typeInterval (timed.game.words thread.slot).wtype := by
    cases wtype : (timed.game.words thread.slot).wtype with
    | normal => exact absurd wtype other
    | kill => rfl
    | bonus => rfl
  split
  · rename_i due
    rw [Pacing.due_iff] at due
    apply falls.look undropped rfl rfl
    · simp
    · simp
    · rw [sameTime]
      exact fun _ => due
  · apply falls.look undropped rfl rfl
    · simp
    · simp
    · simp

theorem choose
    (falls : timed.FallsInTime least threadId thread wordClock)
    (asks : thread.pc = .intervalLock) {interval : Nat}
    (slow : least ≤ interval) :
    timed.FallsInTime least threadId ⟨thread.slot, .intervalUnlock⟩
      { wordClock with interval := interval } := by
  have paced := falls.paced
  rw [asks] at paced
  constructor
  case past => exact falls.past
  case paced => exact paced
  case normal => exact fun _ => falls.normal (.inl asks)
  case slow => exact fun _ => slow
  case due => simp
  case ground => simp [WordPc.phase]

/-- The interval of a normal word has passed, or not. -/
theorem decide
    (falls : timed.FallsInTime least threadId thread wordClock)
    (chosen : thread.pc = .intervalUnlock) :
    timed.FallsInTime least threadId
      ⟨thread.slot,
        if Pacing.due wordClock.lastDrop wordClock.interval wordClock.now then
          .dropLock
        else .top⟩ wordClock := by
  have paced := falls.paced
  have normal := falls.normal (.inr chosen)
  have slow := falls.slow chosen
  rw [chosen] at paced
  split
  · rename_i due
    rw [Pacing.due_iff] at due
    constructor
    case past => exact falls.past
    case paced => exact paced
    case normal => simp
    case slow => simp
    case due =>
        intro _
        rw [normal, rowTime]
        omega
    case ground => simp [WordPc.phase]
  · constructor
    case past => exact falls.past
    case paced => exact paced
    case normal => simp
    case slow => simp
    case due => simp
    case ground => simp [WordPc.phase]

theorem remember
    (falls : timed.FallsInTime least threadId thread wordClock)
    (done : thread.pc = .dropUnlock) :
    timed.FallsInTime least threadId ⟨thread.slot, .top⟩
      { wordClock with lastDrop := wordClock.now } := by
  constructor
  case past => exact ⟨Nat.le_refl _, falls.past.2⟩
  case paced =>
      have paced := falls.paced
      simp only [WordClock.reached, done, WordPc.dropped, ↓reduceIte] at paced
      exact paced
  case normal => simp
  case slow => simp
  case due => simp
  case ground =>
      intro landing
      cases landing

end FallsInTime

theorem OnTime.remembers
    (onTime : timed.OnTime start least)
    (live : timed.game.threads threadId = some thread)
    (running : thread.pc.phase = .falling ∨ thread.pc.phase = .landing) :
    timed.FallsInTime least threadId thread (timed.wordClock threadId) := by
  unfold wordClock
  cases read : timed.wordClocks threadId with
  | some wordClock =>
      exact onTime.falls threadId thread wordClock live read running
  | none =>
      obtain ⟨top, row⟩ := onTime.fresh threadId thread live running read
      constructor
      case past => exact ⟨Nat.le_refl _, Nat.le_refl _⟩
      case paced =>
          rw [row, top]
          exact .begin (onTime.created threadId)
      case normal => simp [top]
      case slow => simp [top]
      case due => simp [top]
      case ground =>
          intro landing
          rw [top] at landing
          cases landing

private theorem goes_plain
    {after : WordThread} {pc : WordPc}
    (falls : timed.FallsInTime least threadId thread
      (timed.wordClock threadId))
    (sameClock : timed.readClock threadId thread =
      timed.wordClock threadId)
    (went : WordThread.mk thread.slot pc = after)
    (sameDropped : pc.dropped = thread.pc.dropped)
    (plain : pc ≠ .intervalLock ∧ pc ≠ .intervalUnlock ∧ pc ≠ .dropLock)
    (landing : pc.phase = .landing → thread.pc.phase = .landing) :
    after.slot = thread.slot ∧
      timed.FallsInTime least threadId after
        (timed.readClock threadId thread) := by
  subst went
  rw [sameClock]
  exact ⟨rfl, falls.goto sameDropped plain landing⟩

/-- The point a thread reaches without a drop. -/
private theorem fallsInTime_goes
    {after : WordThread}
    (slow : least ≤ normalDropInterval timed.game.score)
    (falls : timed.FallsInTime least threadId thread
      (timed.wordClock threadId))
    (stays : thread.pc ≠ .dropLock)
    (went : (timed.game.wordStep threadId thread
      (timed.dropDue threadId thread)).threads threadId = some after)
    (live : timed.game.threads threadId = some thread)
    (running : after.pc.phase = .falling ∨ after.pc.phase = .landing) :
    after.slot = thread.slot ∧
      timed.FallsInTime least threadId after
        (timed.readClock threadId thread) := by
  cases current : thread.pc with
  | top =>
      simp only [Game.wordStep, current, Game.setThread,
        Function.update_self, Option.some.injEq] at went
      apply goes_plain falls _ went
      · split <;> simp [WordPc.dropped, current]
      · split <;> simp
      · split <;> simp [WordPc.phase]
      · simp only [readClock, current]
  | overUnlock active gameOver =>
      simp only [Game.wordStep, current, Game.setThread,
        Function.update_self, Option.some.injEq] at went
      by_cases leaves : (!active || gameOver) = true
      · rw [if_pos leaves] at went
        apply goes_plain falls _ went
        · simp [WordPc.dropped, current]
        · simp
        · simp [WordPc.phase]
        · simp only [readClock, current, if_pos leaves]
      · rw [if_neg leaves] at went
        subst went
        refine ⟨rfl, ?_⟩
        have undropped : thread.pc.dropped = false := by
          rw [current]
          rfl
        by_cases normal : (timed.game.words thread.slot).wtype = .normal
        · have looked : timed.readClock threadId thread =
              { timed.wordClock threadId with now := timed.clock } := by
            simp only [readClock, current, if_neg leaves,
              if_pos normal]
          rw [if_pos normal, looked]
          apply falls.look undropped rfl rfl (fun _ => normal)
          · simp
          · simp
        · have looked : timed.readClock threadId thread =
              { timed.wordClock threadId with
                now := timed.clock
                interval := timed.typeInterval
                  (timed.game.words thread.slot).wtype } := by
            simp only [readClock, current, if_neg leaves,
              if_neg normal]
          rw [if_neg normal, dropDue, looked]
          exact falls.lookOther undropped normal
  | intervalLock =>
      simp only [Game.wordStep, current, Game.setThread,
        Function.update_self, Option.some.injEq] at went
      subst went
      refine ⟨rfl, ?_⟩
      have chosen : timed.readClock threadId thread =
          { timed.wordClock threadId with
            interval := normalDropInterval timed.game.score } := by
        simp only [readClock, current]
      rw [chosen]
      exact falls.choose current slow
  | intervalUnlock =>
      simp only [Game.wordStep, current, Game.setThread,
        Function.update_self, Option.some.injEq] at went
      subst went
      have same : timed.readClock threadId thread =
          timed.wordClock threadId := by
        simp only [readClock, current]
      rw [dropDue, same]
      exact ⟨rfl, falls.decide current⟩
  | dropLock => exact absurd current stays
  | dropUnlock =>
      simp only [Game.wordStep, current, Game.setThread,
        Function.update_self, Option.some.injEq] at went
      subst went
      refine ⟨rfl, ?_⟩
      have noted : timed.readClock threadId thread =
          { timed.wordClock threadId with
            lastDrop := (timed.wordClock threadId).now } := by
        simp only [readClock, current]
      rw [noted]
      exact falls.remember current
  | exitLock =>
      simp only [Game.wordStep, current, Game.setThread,
        Function.update_self, Option.some.injEq] at went
      subst went
      simp [WordPc.phase] at running
  | exitHashLock =>
      simp only [Game.wordStep, current, Game.setThread,
        Function.update_self, Option.some.injEq] at went
      subst went
      simp [WordPc.phase] at running
  | exitHashUnlock =>
      simp only [Game.wordStep, current, Game.setThread,
        Function.update_self, Option.some.injEq] at went
      subst went
      simp [WordPc.phase] at running
  | exitUnlock =>
      simp only [Game.wordStep, current, Game.setThread,
        Function.update_self, Option.some.injEq] at went
      subst went
      simp [WordPc.phase] at running
  | finished =>
      simp only [Game.wordStep, current] at went
      rw [live] at went
      cases went
      simp [WordPc.phase, current] at running
  | joined =>
      simp only [Game.wordStep, current] at went
      rw [live] at went
      cases went
      simp [WordPc.phase, current] at running
  | _ =>
      simp only [Game.wordStep, current, Game.setThread,
        Function.update_self, Option.some.injEq] at went
      apply goes_plain falls _ went
      · simp [WordPc.dropped, current]
      · simp
      · simp [WordPc.phase, current]
      · simp only [readClock, current]

/-- The game after the code of the thread's step. -/
private def wordGame (timed : TimedGame) (threadId : Nat)
    (thread : WordThread) : Game :=
  timed.game.wordStep threadId thread (timed.dropDue threadId thread)

/-- The own word of a thread that takes a step. -/
private theorem fallsInTime_own
    {after : WordThread}
    (slow : least ≤ normalDropInterval timed.game.score)
    (falls : timed.FallsInTime least threadId thread
      (timed.wordClock threadId))
    (live : timed.game.threads threadId = some thread)
    (went : (timed.wordGame threadId thread).threads threadId = some after)
    (running : after.pc.phase = .falling ∨ after.pc.phase = .landing) :
    (timed.afterWord threadId thread
      (timed.wordGame threadId thread)).FallsInTime least threadId after
        (timed.readClock threadId thread) := by
  by_cases drops : thread.pc = .dropLock
  · have same : timed.readClock threadId thread =
        timed.wordClock threadId := by
      simp only [readClock, drops]
    simp only [wordGame, Game.wordStep, drops, Game.setThread,
      Function.update_self, Option.some.injEq] at went
    subst went
    rw [same]
    apply falls.drop drops
    · split
      · rename_i landed
        exact .inl ⟨rfl, landed.1, Bool.not_eq_true _ ▸ landed.2⟩
      · exact .inr rfl
    · refine ⟨rfl, rfl, rfl, ?_⟩
      exact Game.wordStep_area
    · simp only [afterWord, wordGame, Game.wordStep, drops,
        Game.setThread, Game.setWord, Words.set_same]
  · obtain ⟨sameSlot, goes⟩ :=
      fallsInTime_goes slow falls drops went live running
    obtain ⟨sameRow, sameType⟩ :=
      @Game.wordStep_row timed.game after.slot threadId thread
        (timed.dropDue threadId thread) drops
    exact goes.congr rfl rfl rfl sameRow sameType Game.wordStep_area

/-- The slot of another thread that is at work is left alone. -/
private theorem wordGame_row
    {slot : Fin maxWords}
    (elsewhere : thread.pc = .dropLock → slot ≠ thread.slot) :
    ((timed.wordGame threadId thread).words slot).y =
        (timed.game.words slot).y ∧
      ((timed.wordGame threadId thread).words slot).wtype =
        (timed.game.words slot).wtype := by
  by_cases drops : thread.pc = .dropLock
  · have same := @Game.wordStep_row_other timed.game slot threadId thread
      (timed.dropDue threadId thread) (elsewhere drops)
    exact ⟨congrArg Word.y same, congrArg Word.wtype same⟩
  · exact Game.wordStep_row drops

private theorem uses_of_phase
    {game : Game} (live : game.threads threadId = some thread)
    (running : thread.pc.phase = .falling ∨ thread.pc.phase = .landing) :
    game.round.Uses threadId thread.slot := by
  have there := Game.round_threads_of_live live
  rw [WordThread.round] at there
  rcases running with falling | landing
  · exact .inl (falling ▸ there)
  · exact .inr (landing ▸ there)

/-- In the drop section a thread changes a slot that no other thread uses. -/
private theorem elsewhere_of_uses
    {slot : Fin maxWords} {other : Nat}
    (owned : timed.game.round.Owned)
    (live : timed.game.threads threadId = some thread)
    (uses : timed.game.round.Uses other slot) (apart : other ≠ threadId) :
    thread.pc = .dropLock → slot ≠ thread.slot := by
  rintro drops rfl
  have falling := uses_of_phase live (.inl (congrArg WordPc.phase drops))
  exact apart ((owned.threadId_of_uses uses).symm.trans
    (owned.threadId_of_uses falling))

private theorem running_of_successor
    {pc : WordPc} (next : WordPc) (follows : next ∈ pc.successors)
    (running : next.phase = .falling ∨ next.phase = .landing) :
    pc.phase = .falling ∨ pc.phase = .landing := by
  cases pc with
  | landHashLock => exact .inr rfl
  | landHashUnlock => exact .inr rfl
  | landStateLock => exact .inr rfl
  | exitLock => exact .inl rfl
  | exitHashLock => simp_all [WordPc.successors, WordPc.phase]
  | exitHashUnlock => simp_all [WordPc.successors, WordPc.phase]
  | exitUnlock => simp_all [WordPc.successors, WordPc.phase]
  | finished => simp_all [WordPc.successors, WordPc.phase]
  | joined => simp_all [WordPc.successors, WordPc.phase]
  | _ => exact .inl rfl

theorem OnTime.wordStep
    (slow : least ≤ normalDropInterval timed.game.score)
    (owned : timed.game.round.Owned) (onTime : timed.OnTime start least)
    (live : timed.game.threads threadId = some thread) :
    (timed.afterWord threadId thread
      (timed.wordGame threadId thread)).OnTime start least := by
  obtain ⟨sameSpawned, _⟩ := @Game.wordStep_spawned timed.game threadId
    thread (timed.dropDue threadId thread)
  have sameMain := (Game.wordStep_main timed.game threadId thread
    (timed.dropDue threadId thread)).1
  have sameArea := @Game.wordStep_area timed.game threadId thread
    (timed.dropDue threadId thread)
  obtain ⟨pc, follows, threads⟩ := Game.wordStep_successor live
    (timed.dropDue threadId thread)
  have others : ∀ other, other ≠ threadId →
      (timed.wordGame threadId thread).threads other =
        timed.game.threads other := by
    intro other apart
    rw [wordGame, threads, Function.update_of_ne apart]
  constructor
  case spawnPaced =>
      simp only [afterWord, wordGame, sameSpawned, sameMain]
      exact onTime.spawnPaced
  case spawnPast => exact onTime.spawnPast
  case created => exact onTime.created
  case spawnTimes =>
      simp only [afterWord, wordGame, sameSpawned]
      exact onTime.spawnTimes
  case unread =>
      intro other absent
      have apart : other ≠ threadId := by
        rintro rfl
        simp only [afterWord, wordGame, threads,
          Function.update_self] at absent
        cases absent
      simp only [afterWord] at absent ⊢
      rw [others other apart] at absent
      rw [Function.update_of_ne apart]
      exact onTime.unread other absent
  case fresh =>
      intro other otherThread otherLive running unread
      have apart : other ≠ threadId := by
        rintro rfl
        simp only [afterWord, Function.update_self] at unread
        cases unread
      simp only [afterWord] at otherLive unread
      rw [others other apart] at otherLive
      rw [Function.update_of_ne apart] at unread
      obtain ⟨top, row⟩ :=
        onTime.fresh other otherThread otherLive running unread
      have uses := uses_of_phase otherLive running
      exact ⟨top, (wordGame_row
        (elsewhere_of_uses owned live uses apart)).1.trans row⟩
  case falls =>
      intro other otherThread otherClock otherLive read running
      by_cases apart : other ≠ threadId
      · simp only [afterWord] at otherLive read
        rw [others other apart] at otherLive
        rw [Function.update_of_ne apart] at read
        obtain ⟨sameRow, sameType⟩ := wordGame_row
          (elsewhere_of_uses owned live (uses_of_phase otherLive running)
            apart)
        exact (onTime.falls other otherThread otherClock otherLive read
          running).congr rfl rfl rfl sameRow sameType sameArea
      · have isOwn := not_not.mp apart
        subst isOwn
        simp only [afterWord, Function.update_self,
          Option.some.injEq] at otherLive read
        subst read
        have ran : thread.pc.phase = .falling ∨ thread.pc.phase = .landing := by
          rw [wordGame, threads, Function.update_self,
            Option.some.injEq] at otherLive
          subst otherLive
          exact running_of_successor pc follows running
        exact fallsInTime_own slow (onTime.remembers live ran) live otherLive
          running
  case landed =>
      intro settlement gameOver settled landed
      rcases Game.wordStep_settled settled with earlier | ⟨lands, word⟩
      · simp only [afterWord, wordGame, sameArea]
        exact onTime.landed settlement gameOver earlier landed
      · have landing : thread.pc.phase = .landing :=
          congrArg WordPc.phase lands
        have falls := onTime.remembers live (.inr landing)
        have mine : (timed.game.words thread.slot).threadId = threadId :=
          owned.threadId_of_uses (uses_of_phase live (.inr landing))
        have paced := falls.paced.mono (falls.ground landing)
        simp only [WordClock.reached, lands, WordPc.dropped,
          ↓reduceIte] at paced
        simp only [afterWord, wordGame, sameArea, word, Word.spawned, mine]
        exact (paced.later falls.past.2)

/-! ## The main thread -/

/-- The game after the code of a step of the main thread. -/
private def mainGame (timed : TimedGame) (calls : MainCalls) : Game :=
  timed.game.mainStep { calls with spawnDue := timed.spawnDue }

variable {calls : MainCalls}

private theorem spawnPaced_mainStep (onTime : timed.OnTime start least) :
    Paced wordSpawnRateMs start
      (timed.afterMain (timed.mainGame calls)).lastSpawn
      ((timed.mainGame calls).spawned.length +
        (timed.mainGame calls).main.spawning) := by
  have change : timed.game.SpawnChange
      { calls with spawnDue := timed.spawnDue } (timed.mainGame calls) :=
    Game.mainStep_spawned
  have spawnPaced := onTime.spawnPaced
  simp only [afterMain]
  cases change with
  | kept sameSpawned sameNext fewer =>
      rw [sameSpawned]
      split
      · exact (spawnPaced.mono (Nat.add_le_add_left fewer _)).later
          onTime.spawnPast
      · exact spawnPaced.mono (Nat.add_le_add_left fewer _)
  | begun sameSpawned sameNext checks isDue one =>
      simp only at isDue
      rw [sameSpawned, if_pos ⟨checks, isDue⟩]
      rw [checks] at spawnPaced
      rw [spawnDue, Pacing.due_iff] at isDue
      exact (spawnPaced.again (Nat.le_refl _) isDue).mono
        (Nat.add_le_add_left one _)
  | started place starts spawned newThread done =>
      rw [starts] at spawnPaced ⊢
      rw [spawned, done, List.length_append, if_neg (by simp)]
      exact spawnPaced

private theorem spawnTimes_mainStep
    (settledOnce : timed.game.round.SettledOnce)
    (onTime : timed.OnTime start least) :
    ∀ index word, (timed.mainGame calls).spawned[index]? = some word →
      Paced wordSpawnRateMs start
        ((timed.afterMain (timed.mainGame calls)).created word.threadId)
        (index + 1) := by
  have change : timed.game.SpawnChange
      { calls with spawnDue := timed.spawnDue } (timed.mainGame calls) :=
    Game.mainStep_spawned
  simp only [afterMain]
  cases change with
  | kept sameSpawned sameNext fewer =>
      rw [sameSpawned, if_pos sameNext]
      exact onTime.spawnTimes
  | begun sameSpawned sameNext checks isDue one =>
      rw [sameSpawned, if_pos sameNext]
      exact onTime.spawnTimes
  | started place starts spawned newThread done =>
      rw [spawned, if_neg (by omega)]
      intro index word found
      rcases Nat.lt_or_ge index timed.game.spawned.length with earlier | last
      · rw [List.getElem?_append_left earlier] at found
        have issued : word.threadId < timed.game.nextThreadId :=
          settledOnce.issued word (List.mem_of_getElem? found)
        rw [Function.update_of_ne (Nat.ne_of_lt issued)]
        exact onTime.spawnTimes index word found
      · rw [List.getElem?_append_right last,
          List.getElem?_singleton] at found
        split at found
        · rename_i zero
          cases found
          have spawnPaced := onTime.spawnPaced
          rw [starts] at spawnPaced
          have here : index = timed.game.spawned.length := by omega
          subst here
          simp only [Word.spawned, Word.start, Function.update_self]
          exact spawnPaced.later onTime.spawnPast
        · cases found

/-- A thread that is at work was there before, or it is new. -/
private theorem before_of_mainStep
    (live : (timed.mainGame calls).threads threadId = some thread)
    (running : thread.pc.phase = .falling ∨ thread.pc.phase = .landing) :
    timed.game.threads threadId = some thread ∨
      threadId = timed.game.nextThreadId ∧
        ∃ slot, timed.game.main = .addUnlock slot ∧ thread = ⟨slot, .top⟩ := by
  have change : timed.game.ThreadChange (timed.mainGame calls).threads :=
    Game.mainStep_threads
  generalize (timed.mainGame calls).threads = threads at change live
  cases change with
  | none => exact .inl live
  | start slot starts =>
      by_cases same : threadId = timed.game.nextThreadId
      · subst same
        rw [Function.update_self] at live
        cases live
        exact .inr ⟨rfl, slot, starts, rfl⟩
      · rw [Function.update_of_ne same] at live
        exact .inl live
  | join loop slot joins =>
      simp only [Game.collectSlot] at live
      by_cases same : threadId = (timed.game.words slot).threadId
      · subst same
        rw [Function.update_self, Option.map_eq_some_iff] at live
        obtain ⟨_, _, rfl⟩ := live
        simp [WordPc.phase] at running
      · rw [Function.update_of_ne same] at live
        exact .inl live

private theorem created_mainStep
    (earlier : threadId ≠ timed.game.nextThreadId) :
    (timed.afterMain (timed.mainGame calls)).created threadId =
      timed.created threadId := by
  simp only [afterMain]
  split
  · rfl
  · rw [Function.update_of_ne earlier]

private theorem afterMain_past
    (onTime : timed.OnTime start least) (next : Game) :
    (timed.afterMain next).lastSpawn ≤ timed.clock ∧
      ∀ threadId, (timed.afterMain next).created threadId ≤ timed.clock := by
  constructor
  · simp only [afterMain]
    split
    · exact Nat.le_refl _
    · exact onTime.spawnPast
  · intro threadId
    simp only [afterMain]
    split
    · exact onTime.created threadId
    · by_cases isNew : threadId = timed.game.nextThreadId
      · subst isNew
        rw [Function.update_self]
      · rw [Function.update_of_ne isNew]
        exact onTime.created threadId

private theorem row_of_start
    {slot : Fin maxWords} (onTop : timed.game.round.FilledOnTop)
    (starts : timed.game.main = .addUnlock slot) :
    ((timed.mainGame calls).words slot).y = 0 := by
  have change : timed.game.PlaceChange slot
      ((timed.mainGame calls).words slot) := Game.mainStep_place
  cases change with
  | kept sameRow sameType =>
      exact sameRow.trans (onTop slot (congrArg MainPc.phase starts))
  | chosen row spawns free => exact row
  | picked row tries pick taken picks => exact row

theorem OnTime.mainStep
    (owned : timed.game.round.Owned)
    (settledOnce : timed.game.round.SettledOnce)
    (onTop : timed.game.round.FilledOnTop)
    (onTime : timed.OnTime start least) :
    (timed.afterMain (timed.mainGame calls)).OnTime start least := by
  have issued : ∀ other thread,
      timed.game.threads other = some thread →
        other ≠ timed.game.nextThreadId := by
    rintro other thread live rfl
    rw [Game.thread_fresh owned] at live
    cases live
  have rows : ∀ other thread, timed.game.threads other = some thread →
      thread.pc.phase = .falling ∨ thread.pc.phase = .landing →
        ((timed.mainGame calls).words thread.slot).y =
            (timed.game.words thread.slot).y ∧
          ((timed.mainGame calls).words thread.slot).wtype =
            (timed.game.words thread.slot).wtype := by
    intro other thread live running
    exact Game.mainStep_row owned (uses_of_phase live running)
  obtain ⟨spawnPast, created⟩ :=
    afterMain_past onTime (timed.mainGame calls)
  constructor
  case spawnPaced => exact spawnPaced_mainStep onTime
  case spawnPast => exact spawnPast
  case created => exact created
  case spawnTimes => exact spawnTimes_mainStep settledOnce onTime
  case unread =>
      intro other absent
      apply onTime.unread other
      have change : timed.game.ThreadChange
          (timed.mainGame calls).threads := Game.mainStep_threads
      simp only [afterMain] at absent
      generalize (timed.mainGame calls).threads = threads at change absent
      cases change with
      | none => exact absent
      | start slot starts =>
          by_cases same : other = timed.game.nextThreadId
          · subst same
            exact Game.thread_fresh owned
          · rw [Function.update_of_ne same] at absent
            exact absent
      | join loop slot joins =>
          simp only [Game.collectSlot] at absent
          by_cases same : other = (timed.game.words slot).threadId
          · subst same
            rw [Function.update_self, Option.map_eq_none_iff] at absent
            exact absent
          · rw [Function.update_of_ne same] at absent
            exact absent
  case fresh =>
      intro other thread live running unread
      rcases before_of_mainStep live running with
        before | ⟨_, slot, starts, rfl⟩
      · obtain ⟨top, row⟩ := onTime.fresh other thread before running unread
        exact ⟨top, (rows other thread before running).1.trans row⟩
      · exact ⟨rfl, row_of_start onTop starts⟩
  case falls =>
      intro other thread wordClock live read running
      rcases before_of_mainStep live running with
        before | ⟨rfl, slot, starts, rfl⟩
      · obtain ⟨sameRow, sameType⟩ := rows other thread before running
        exact (onTime.falls other thread wordClock before read running).congr
          rfl rfl (created_mainStep (issued other thread before)) sameRow
          sameType Game.mainStep_area
      · have unread := onTime.unread _ (Game.thread_fresh owned)
        simp only [afterMain] at read
        rw [unread] at read
        cases read
  case landed =>
      intro settlement gameOver settled landed
      rcases Game.mainStep_settled settled with earlier | typed
      · have wasSpawned := settledOnce.spawned settlement earlier
        have earlierId : settlement.word.threadId ≠
            timed.game.nextThreadId :=
          Nat.ne_of_lt (settledOnce.issued _ wasSpawned)
        have sameArea : (timed.mainGame calls).area = timed.game.area :=
          Game.mainStep_area
        rw [created_mainStep earlierId]
        simp only [afterMain, sameArea]
        exact onTime.landed settlement gameOver earlier landed
      · rw [typed] at landed
        cases landed

/-! ## Every step -/

/-- The flags and the mutexes have no part in the times. -/
theorem OnTime.regame
    (onTime : timed.OnTime start least) {game : Game}
    (sameWords : game.words = timed.game.words ∧
      game.area = timed.game.area)
    (sameThreads : game.threads = timed.game.threads)
    (sameMain : game.main = timed.game.main)
    (sameBooks : game.spawned = timed.game.spawned ∧
      game.settled = timed.game.settled) :
    OnTime { timed with game := game } start least := by
  constructor
  case spawnPaced => rw [sameBooks.1, sameMain]; exact onTime.spawnPaced
  case spawnPast => exact onTime.spawnPast
  case created => exact onTime.created
  case spawnTimes => rw [sameBooks.1]; exact onTime.spawnTimes
  case unread => rw [sameThreads]; exact onTime.unread
  case fresh =>
      rw [sameThreads, sameWords.1]
      exact onTime.fresh
  case falls =>
      rw [sameThreads]
      intro threadId thread wordClock live read running
      exact (onTime.falls threadId thread wordClock live read running).congr
        rfl rfl rfl (by rw [sameWords.1]) (by rw [sameWords.1]) sameWords.2
  case landed =>
      rw [sameBooks.2, sameWords.2]
      exact onTime.landed

/-- The times of a game whose books are in order. -/
structure Timely (timed : TimedGame) (start least : Nat) : Prop where
  books : timed.game.Books
  onTop : timed.game.round.FilledOnTop
  onTime : timed.OnTime start least

namespace Timely

private theorem round
    (timely : timed.Timely start least) {game : Game}
    (events : timed.game.round.Events game.round) :
    game.Books ∧ game.round.FilledOnTop := by
  let invariant := fun round : Round => round.Owned ∧ round.FilledOnTop
  have kept : invariant game.round := by
    apply events.preserve
    · intro round next ⟨owned, onTop⟩ event
      exact ⟨owned.event event, onTop.event owned event⟩
    · exact ⟨timely.books.owned, timely.onTop⟩
  exact ⟨timely.books.events events, kept.2⟩

/-- Every step keeps the times, as long as no normal word falls faster. -/
theorem step
    {action : TimedAction} (timely : timed.Timely start least)
    (slow : least ≤ normalDropInterval timed.game.score)
    (stepped : TimedGame.step timed action = some next) :
    next.Timely start least := by
  cases action with
  | tick passed =>
      cases stepped
      exact ⟨timely.books, timely.onTop, timely.onTime.tick passed⟩
  | main calls =>
      simp only [TimedGame.step, Option.map_eq_some_iff] at stepped
      obtain ⟨game, gameStepped, rfl⟩ := stepped
      obtain ⟨books, onTop⟩ := timely.round (Game.step_events gameStepped)
      refine ⟨books, onTop, ?_⟩
      simp only [Game.step, Option.map_eq_some_iff] at gameStepped
      obtain ⟨owners, performed, rfl⟩ := gameStepped
      have onTime : (timed.afterMain (timed.mainGame calls)).OnTime start
          least :=
        timely.onTime.mainStep timely.books.owned timely.books.settledOnce
          timely.onTop
      exact onTime.regame ⟨rfl, rfl⟩ rfl rfl ⟨rfl, rfl⟩
  | word threadId =>
      simp only [TimedGame.step, Option.bind_eq_some_iff,
        Option.map_eq_some_iff] at stepped
      obtain ⟨thread, live, game, gameStepped, rfl⟩ := stepped
      obtain ⟨books, onTop⟩ := timely.round (Game.step_events gameStepped)
      refine ⟨books, onTop, ?_⟩
      simp only [Game.step, Option.bind_eq_some_iff,
        Option.map_eq_some_iff] at gameStepped
      obtain ⟨same, live', owners, performed, rfl⟩ := gameStepped
      rw [live] at live'
      cases live'
      have onTime := timely.onTime.wordStep slow timely.books.owned live
      exact onTime.regame ⟨rfl, rfl⟩ rfl rfl ⟨rfl, rfl⟩
  | sigint isGameRunning =>
      simp only [TimedGame.step, Option.map_eq_some_iff] at stepped
      obtain ⟨game, gameStepped, rfl⟩ := stepped
      obtain ⟨books, onTop⟩ := timely.round (Game.step_events gameStepped)
      refine ⟨books, onTop, ?_⟩
      cases gameStepped
      unfold Game.handleSigint
      split
      · exact timely.onTime.regame ⟨rfl, rfl⟩ rfl rfl ⟨rfl, rfl⟩
      · exact timely.onTime.regame ⟨rfl, rfl⟩ rfl rfl ⟨rfl, rfl⟩

end Timely

end TimedGame

end RainTyping
