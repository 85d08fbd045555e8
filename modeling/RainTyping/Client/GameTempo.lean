import RainTyping.Client.FallTimes

/-!
# The tempo of a game

However the threads are scheduled, a landed word has been on the screen for
the time of a whole fall, the score grows no faster than new words come, and
no life is lost before as many words have come and one of them has fallen.
-/

namespace RainTyping

open Pacing

theorem le_normalDropInterval (score : Int32) :
    200 ≤ normalDropInterval score := by
  unfold normalDropInterval
  split_ifs <;> omega

theorem pointsOf_le (text : CharArray maxWordLen) (wtype : WordType) :
    pointsOf text wtype ≤ 79 := by
  have short : text.strlen < 30 := text.fits
  cases wtype with
  | normal =>
      simp only [pointsOf]
      omega
  | kill => exact Nat.zero_le _
  | bonus =>
      simp only [pointsOf]
      omega

private theorem points_le (settlement : Settlement) :
    settlement.points ≤ 79 := by
  unfold Settlement.points
  split
  · exact pointsOf_le _ _
  · exact Nat.zero_le _

theorem typedPoints_le (settled : List Settlement) :
    typedPoints settled ≤ 79 * settled.length := by
  induction settled with
  | nil => exact Nat.zero_le _
  | cons settlement settled induction =>
      have points := points_le settlement
      simp only [typedPoints, List.map_cons, List.sum_cons,
        List.length_cons] at induction ⊢
      omega

namespace TimedGame

variable {timed next : TimedGame} {start least : Nat}
  {wordList : List CString} {area : GameArea} {input : InputLine}
  {intervals : DropIntervals} {clock : Nat} {actions : List TimedAction}

private theorem timely_start :
    (TimedGame.start wordList area input intervals clock).Timely clock
      least := by
  constructor
  case books => exact Game.books_start wordList area input
  case onTop => exact fun slot filled => absurd filled (by simp [start,
      Game.round, Game.start, MainPc.phase])
  case onTime =>
      constructor
      case spawnPaced => exact .begin (Nat.le_refl _)
      case spawnPast => exact Nat.le_refl _
      case created => exact fun threadId => Nat.zero_le _
      case spawnTimes =>
          intro index word found
          cases found
      case unread => exact fun threadId absent => rfl
      case fresh =>
          intro threadId thread live
          cases live
      case falls =>
          intro threadId thread wordClock live
          cases live
      case landed =>
          intro settlement gameOver settled
          cases settled

private theorem step_fixed
    {action : TimedAction} (stepped : step timed action = some next) :
    next.intervals = timed.intervals ∧ next.game.area = timed.game.area := by
  cases action with
  | tick passed =>
      cases stepped
      exact ⟨rfl, rfl⟩
  | main calls =>
      simp only [step, Option.map_eq_some_iff] at stepped
      obtain ⟨game, gameStepped, rfl⟩ := stepped
      simp only [Game.step, Option.map_eq_some_iff] at gameStepped
      obtain ⟨owners, performed, rfl⟩ := gameStepped
      exact ⟨rfl, Game.mainStep_area⟩
  | word threadId =>
      simp only [step, Option.bind_eq_some_iff,
        Option.map_eq_some_iff] at stepped
      obtain ⟨thread, _, game, gameStepped, rfl⟩ := stepped
      simp only [Game.step, Option.bind_eq_some_iff,
        Option.map_eq_some_iff] at gameStepped
      obtain ⟨_, _, owners, performed, rfl⟩ := gameStepped
      exact ⟨rfl, Game.wordStep_area⟩
  | sigint isGameRunning =>
      simp only [step, Option.map_eq_some_iff] at stepped
      obtain ⟨game, gameStepped, rfl⟩ := stepped
      cases gameStepped
      unfold Game.handleSigint
      split <;> exact ⟨rfl, rfl⟩

private theorem fixed_of_run
    (ran : step.run (.start wordList area input intervals clock) actions =
      some timed) :
    timed.intervals = intervals ∧ timed.game.area = area := by
  apply Machine.run_preserves (fun timed =>
    timed.intervals = intervals ∧ timed.game.area = area) _ _ ran
  · intro timed action next ⟨sameIntervals, sameArea⟩ stepped
    obtain ⟨intervals, area⟩ := step_fixed stepped
    exact ⟨intervals.trans sameIntervals, area.trans sameArea⟩
  · exact ⟨rfl, rfl⟩

/-- Normal words fall no faster than with this interval. -/
def SlowerThan (least : Nat) (timed : TimedGame) (_ : TimedAction) : Prop :=
  least ≤ normalDropInterval timed.game.score

/-- A normal word is spawned and falls to the ground. -/
def losesLife : List TimedAction :=
  .tick 1500 :: List.replicate 11 (.main .idle) ++
    List.replicate 7 (.word 1) ++
    (List.replicate 5 (.tick 500 :: List.replicate 9 (.word 1))).flatten ++
    List.replicate 3 (.word 1)

private theorem ran_losesLife :
    ∃ timed,
      step.run (.start Game.oneWord smallArea .blank .initial 0) losesLife =
          some timed ∧
        timed.game.lives = 4 ∧ timed.clock = 4000 ∧
          timed.game.main.inProcessGameInput = false := by
  have shown : (step.run (.start Game.oneWord smallArea .blank .initial 0)
      losesLife).map (fun timed => (timed.game.lives, timed.clock,
        timed.game.main.inProcessGameInput)) = some (4, 4000, false) := by
    rfl
  obtain ⟨timed, ran, same⟩ := Option.map_eq_some_iff.mp shown
  simp only [Prod.mk.injEq] at same
  exact ⟨timed, ran, same⟩

private theorem slow_of_le (state : TimedGame) (actions : List TimedAction) :
    step.Meets (SlowerThan 200) state actions :=
  Machine.meets_of_forall
    (fun _ _ state => le_normalDropInterval state.game.score) state

private theorem timely_of_run
    (slow : step.Meets (SlowerThan least)
      (.start wordList area input intervals clock) actions)
    (ran : step.run (.start wordList area input intervals clock) actions =
      some timed) : timed.Timely clock least := by
  apply Machine.run_invariant (fun timed => timed.Timely clock least) _
    timely_start slow ran
  intro timed action next timely slow stepped
  exact timely.step slow stepped

/-! ## Falling words -/

/-- A word on the screen or on the ground has had the time of its rows. -/
theorem fallTimes_of_run
    (slow : step.Meets (SlowerThan least)
      (.start wordList area input intervals clock) actions)
    (ran : step.run (.start wordList area input intervals clock) actions =
      some timed) :
    (∀ slot, (timed.game.words slot).active = true →
      (timed.game.words slot).threadId ≠ 0 →
        timed.created (timed.game.words slot).threadId +
            timed.rowTime least (timed.game.words slot).wtype *
              (timed.game.words slot).y ≤ timed.clock) ∧
      ∀ settlement gameOver, settlement ∈ timed.game.settled →
        settlement.outcome = .landed gameOver →
          timed.created settlement.word.threadId +
              timed.rowTime least settlement.word.wtype * area.height ≤
            timed.clock := by
  have timely := timely_of_run slow ran
  constructor
  · intro slot active started
    have unfilled : timed.game.round.phase ≠ .filled slot := by
      intro filled
      exact started (timely.books.owned.filled slot filled).1
    have falling := timely.books.owned.falling_of_active active unfilled
    obtain ⟨thread, live, same⟩ := Option.map_eq_some_iff.mp falling
    obtain ⟨pc, isSlot⟩ : ∃ pc, thread = ⟨slot, pc⟩ := by
      cases thread
      cases congrArg RoundThread.slot same
      exact ⟨_, rfl⟩
    subst isSlot
    have phase : pc.phase = .falling := congrArg RoundThread.phase same
    have falls := timely.onTime.remembers live (.inl phase)
    have reached : (timed.wordClock
        (timed.game.words slot).threadId).reached pc ≤ timed.clock := by
      unfold WordClock.reached
      split
      · exact falls.past.2
      · exact falls.past.1.trans falls.past.2
    exact falls.paced.later reached
  · obtain ⟨_, sameArea⟩ := fixed_of_run ran
    rw [← sameArea]
    exact timely.onTime.landed

theorem fallTimes_of_losesLife :
    ∃ timed,
      step.run (.start Game.oneWord smallArea .blank .initial 0) losesLife =
          some timed ∧
        ∀ settlement gameOver, settlement ∈ timed.game.settled →
          settlement.outcome = .landed gameOver →
            timed.created settlement.word.threadId +
                timed.rowTime 200 settlement.word.wtype * 5 ≤
              timed.clock := by
  obtain ⟨timed, ran, _⟩ := ran_losesLife
  exact ⟨timed, ran, (fallTimes_of_run (slow_of_le _ _) ran).2⟩

/-! ## Spawned words and the score -/

/-- Different settled words are among the spawned ones. -/
private theorem settled_length_le
    {game : Game} (accounted : game.Accounted) :
    game.settled.length ≤ game.spawned.length := by
  have subset : game.settled.map Settlement.word ⊆ game.spawned := by
    intro word member
    obtain ⟨settlement, settled, rfl⟩ := List.mem_map.mp member
    exact accounted.settledSpawned settlement settled
  have fewer :=
    (List.subperm_of_subset accounted.settledOnce subset).length_le
  rw [List.length_map] at fewer
  exact fewer

private theorem accounted_of_timed
    (ran : step.run (.start wordList area input intervals clock) actions =
      some timed) : timed.game.Accounted := by
  obtain ⟨gameActions, gameRan⟩ := run_game ran
  obtain ⟨books, returns⟩ := Game.books_of_run gameRan
  exact Game.accounted_of_books books returns

/-- There is no more than one word for every spawn interval and no more than
79 points for every word, so a game of less than 471 days has a score that an
`int` can hold. -/
theorem spawnTempo_of_run
    (ran : step.run (.start wordList area input intervals clock) actions =
      some timed) :
    clock + wordSpawnRateMs * timed.game.spawned.length ≤ timed.clock ∧
      (timed.game.main.inProcessGameInput = false →
        timed.clock < clock + 471 * 24 * 60 * 60 * 1000 →
          timed.game.score.toInt = typedPoints timed.game.settled ∧
            wordSpawnRateMs * timed.game.score.toInt ≤
              79 * (timed.clock - clock : Nat)) := by
  have onTime := (timely_of_run (slow_of_le _ _) ran).onTime
  have accounted := accounted_of_timed ran
  have spawned : clock + wordSpawnRateMs * timed.game.spawned.length ≤
      timed.clock :=
    (onTime.spawnPaced.mono (Nat.le_add_right _ _)).later onTime.spawnPast
  refine ⟨spawned, ?_⟩
  intro outside early
  have points := typedPoints_le timed.game.settled
  have settled := settled_length_le accounted
  simp only [wordSpawnRateMs] at spawned ⊢
  have fits : typedPoints timed.game.settled < 2 ^ 31 := by omega
  have score := accounted.score outside fits
  refine ⟨score, ?_⟩
  rw [score]
  omega

theorem spawnTempo_of_losesLife :
    ∃ timed,
      step.run (.start Game.oneWord smallArea .blank .initial 0) losesLife =
          some timed ∧
        wordSpawnRateMs * timed.game.score.toInt ≤
          79 * (timed.clock - 0 : Nat) := by
  obtain ⟨timed, ran, _, clock, outside⟩ := ran_losesLife
  have early : timed.clock < 0 + 471 * 24 * 60 * 60 * 1000 := by
    rw [clock]
    decide
  exact ⟨timed, ran, ((spawnTempo_of_run ran).2 outside early).2⟩

/-! ## Lives -/

/-- Not before so many words have come, and one of the last of them has
fallen, are so many lives lost. -/
theorem lifeTempo_of_run
    {lost : Nat}
    (slow : step.Meets (SlowerThan least)
      (.start wordList area input intervals clock) actions)
    (ran : step.run (.start wordList area input intervals clock) actions =
      some timed)
    (someLost : 0 < lost)
    (lives : timed.game.lives = initialLives - lost) :
    clock + wordSpawnRateMs * lost +
        min least intervals.bonus.toNat * area.height ≤ timed.clock := by
  have onTime := (timely_of_run slow ran).onTime
  have accounted := accounted_of_timed ran
  obtain ⟨sameIntervals, sameArea⟩ := fixed_of_run ran
  let costly := timed.game.settled.filter fun settlement =>
    settlement.CostsLife
  let words := costly.map Settlement.word
  have number : words.length = lost := by
    have counted := accounted.lives
    rw [lives, lostLives, List.countP_eq_length_filter] at counted
    have same : (lost : Int) = costly.length :=
      (Int.sub_right_inj initialLives).mp counted
    rw [List.length_map]
    exact (Int.ofNat.inj same).symm
  have different : words.Nodup :=
    accounted.settledOnce.sublist (List.filter_sublist.map _)
  have arrived : words ⊆ timed.game.spawned := by
    intro word member
    obtain ⟨settlement, costs, rfl⟩ := List.mem_map.mp member
    exact accounted.settledSpawned settlement (List.mem_filter.mp costs).1
  obtain ⟨word, costs, index, there, late⟩ :=
    exists_late different arrived (number ▸ someLost)
  obtain ⟨settlement, costly, rfl⟩ := List.mem_map.mp costs
  obtain ⟨settled, costsLife⟩ := List.mem_filter.mp costly
  obtain ⟨landed, noKill⟩ := of_decide_eq_true costsLife
  have came := (onTime.spawnTimes index _ there).mono (number ▸ late)
  have fell := onTime.landed settlement false settled landed
  have row : min least intervals.bonus.toNat ≤
      timed.rowTime least settlement.word.wtype := by
    rw [← sameIntervals]
    cases wtype : settlement.word.wtype with
    | normal => exact Nat.min_le_left _ _
    | kill => exact absurd wtype noKill
    | bonus => exact Nat.min_le_right _ _
  have fall := Nat.mul_le_mul_right area.height row
  rw [sameArea] at fell
  unfold Paced at came
  omega

theorem lifeTempo_of_losesLife :
    ∃ timed,
      step.run (.start Game.oneWord smallArea .blank .initial 0) losesLife =
          some timed ∧
        0 + wordSpawnRateMs * 1 + min 200 200 * 5 ≤ timed.clock := by
  obtain ⟨timed, ran, lives, _⟩ := ran_losesLife
  exact ⟨timed, ran,
    lifeTempo_of_run (slow_of_le _ _) ran Nat.one_pos lives⟩

end TimedGame

end RainTyping
