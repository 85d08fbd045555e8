import RainTyping.Client.GameRound

/-!
# Score and lives

In every reachable game each spawned word has been settled at most once, the
score is what the typed words are worth and the lives are what the landed
words have left.
-/

namespace RainTyping

namespace Game

variable {game next : Game} {slot : Fin maxWords} {threadId : Nat}
  {thread : WordThread}

/-! ## The returned score -/

theorem mainStep_returned
    {calls : MainCalls} {score : Int32}
    (returned : (game.mainStep calls).main = .returned score) :
    (game.mainStep calls).score = score ∨ game.main = .returned score := by
  cases current : game.main with
  | clearUnlock =>
      simp only [mainStep, current, goto, MainPc.returned.injEq] at returned ⊢
      exact .inl returned
  | returned value =>
      simp only [mainStep, current] at returned
      exact .inr returned
  | inputUnlock target =>
      cases target <;> simp [mainStep, current, goto] at returned
  | joinUnlock loop =>
      cases loop <;> simp only [mainStep, current, goto] at returned
      · split at returned <;> cases returned
      · cases returned
  | _ =>
      simp only [mainStep, current, handleKey, chooseTarget, chooseSlot,
        tryPick, fillSlot, createThread, joinFrom, goto] at returned
      grind

/-- What `run_rain_typing_game` has returned is the score. -/
def ReturnsScore (game : Game) : Prop :=
  ∀ score, game.main = .returned score → game.score = score

theorem step_returnsScore
    {action : GameAction} (returns : game.ReturnsScore)
    (stepped : step game action = some next) : next.ReturnsScore := by
  intro score returned
  cases action with
  | sigint isGameRunning =>
      cases stepped
      cases isGameRunning with
      | true => exact returns score returned
      | false => exact returns score returned
  | main calls =>
      simp only [step, Option.map_eq_some_iff] at stepped
      obtain ⟨owners, performed, rfl⟩ := stepped
      rcases mainStep_returned returned with same | already
      · exact same
      · rw [operation, already] at performed
        cases performed
  | word threadId dropDue =>
      simp only [step, Option.bind_eq_some_iff,
        Option.map_eq_some_iff] at stepped
      obtain ⟨thread, live, owners, performed, rfl⟩ := stepped
      obtain ⟨sameMain, sameScore⟩ :=
        wordStep_main game threadId thread dropDue
      exact sameScore.trans (returns score (sameMain.symm.trans returned))

/-! ## The books -/

/-- The slots, the score, the lives and the words are in order. -/
structure Books (game : Game) : Prop where
  owned : game.round.Owned
  settledOnce : game.round.SettledOnce
  landings : game.round.LandingsSettled
  balanced : game.round.Balanced

theorem Books.events
    (books : game.Books) (events : game.round.Events next.round) :
    next.Books := by
  let invariant := fun round : Round =>
    round.Owned ∧ round.SettledOnce ∧ round.LandingsSettled ∧ round.Balanced
  have kept : invariant next.round := by
    apply events.preserve
    · intro round next ⟨owned, settledOnce, landings, balanced⟩ event
      exact ⟨owned.event event, settledOnce.event owned event,
        landings.event owned settledOnce event, balanced.event event⟩
    · exact ⟨books.owned, books.settledOnce, books.landings, books.balanced⟩
  exact ⟨kept.1, kept.2.1, kept.2.2.1, kept.2.2.2⟩

theorem books_start
    (wordList : List CString) (area : GameArea) (input : InputLine) :
    (start wordList area input).Books := by
  constructor
  case owned => exact owned_start wordList area input
  case settledOnce =>
      constructor
      case issued =>
          intro word member
          cases member
      case spawnedOnce => exact List.nodup_nil
      case spawned =>
          intro settlement member
          cases member
      case once => exact List.nodup_nil
      case onScreen =>
          intro slot shown
          rcases shown with ⟨active, _⟩ | landing
          · cases active
          · cases landing
  case landings =>
      constructor
      case once => exact List.nodup_nil
      case settled => simp [round, start, Round.Landing]
  case balanced =>
      have some : (0 : Int) ≤ initialLives := by
        decide
      refine ⟨rfl, rfl, some, ?_⟩
      intro noLives
      cases noLives

theorem books_of_run
    {wordList : List CString} {area : GameArea} {input : InputLine}
    {actions : List GameAction}
    (ran : step.run (start wordList area input) actions = some game) :
    game.Books ∧ game.ReturnsScore := by
  constructor
  · apply Machine.run_preserves Books _ (books_start _ _ _) ran
    intro game action next books stepped
    exact books.events (step_events stepped)
  · apply Machine.run_preserves ReturnsScore _ _ ran
    · intro game action next returns stepped
      exact step_returnsScore returns stepped
    · intro score returned
      cases returned

/-! ## The accounts of a game -/

/-- The thread of the word stands between the drop that took the word to the
bottom and the section that decides what this costs. -/
def Landing (game : Game) (word : SpawnedWord) : Prop :=
  ∃ thread, game.threads word.threadId = some thread ∧
    thread.pc ∈ [.landHashLock, .landHashUnlock, .landStateLock] ∧
    (game.words thread.slot).spawned = word

structure Accounted (game : Game) : Prop where
  spawnedOnce : (game.spawned.map SpawnedWord.threadId).Nodup
  settledSpawned : ∀ settlement ∈ game.settled,
    settlement.word ∈ game.spawned
  /-- No word is typed twice, lands twice, or is typed and lands. -/
  settledOnce : (game.settled.map Settlement.word).Nodup
  landedOnce : game.landed.Nodup
  /-- The words that have dropped to the bottom are settled as landed, as soon
  as their threads have been through the section of the lives. -/
  landed : ∀ word, word ∈ game.landed ↔
    (∃ gameOver, ⟨word, .landed gameOver⟩ ∈ game.settled) ∨
      game.Landing word
  /-- As long as the points fit an `int`. -/
  score : game.main.inProcessGameInput = false →
    typedPoints game.settled < 2 ^ 31 →
      game.score.toInt = typedPoints game.settled
  lives : game.lives = initialLives - lostLives game.settled
  livesBounds : 0 ≤ game.lives ∧ game.lives ≤ initialLives
  gameOver : game.lives = 0 → game.isOver = true
  returned : ∀ score, game.main = .returned score → score = game.score

private theorem phase_eq_landing_iff (pc : WordPc) :
    pc.phase = .landing ↔
      pc ∈ [.landHashLock, .landHashUnlock, .landStateLock] := by
  cases pc <;> simp [WordPc.phase]

private theorem landing_round_iff (word : SpawnedWord) :
    game.round.Landing word ↔ game.Landing word := by
  constructor
  · rintro ⟨slot, landing, sameWord⟩
    obtain ⟨thread, live, same⟩ := Option.map_eq_some_iff.mp landing
    obtain ⟨rfl, phase⟩ := RoundThread.mk.inj same
    exact ⟨thread, live, (phase_eq_landing_iff _).mp phase, sameWord⟩
  · rintro ⟨thread, live, stands, sameWord⟩
    refine ⟨thread.slot, ?_, sameWord⟩
    rw [round_threads_of_live live, WordThread.round,
      (phase_eq_landing_iff _).mpr stands]

private theorem inProcessGameInput_of_typed
    {pc : MainPc} {wtype : WordType} (typed : pc.phase = .typed slot wtype) :
    pc.inProcessGameInput = true := by
  cases pc with
  | inputHashLock target wtype => rfl
  | inputHashUnlock target wtype => rfl
  | inputUnlock target => rfl
  | scoreLock target wtype => rfl
  | joinLock loop => cases loop <;> cases typed
  | joining loop slot => cases loop <;> cases typed
  | joinUnlock loop => cases loop <;> cases typed
  | _ => cases typed

/-- Outside `process_game_input` no typed word waits for its points. -/
private theorem pending_of_outside
    (outside : game.main.inProcessGameInput = false) :
    game.round.pending = 0 := by
  unfold Round.pending
  split
  · rename_i slot wtype typed
    rw [inProcessGameInput_of_typed typed] at outside
    cases outside
  · rfl

theorem accounted_of_books
    (books : game.Books) (returns : game.ReturnsScore) :
    game.Accounted := by
  obtain ⟨_, settledOnce, landings, balanced⟩ := books
  constructor
  case spawnedOnce => exact settledOnce.spawnedOnce
  case settledSpawned => exact settledOnce.spawned
  case settledOnce =>
      have once := settledOnce.once
      rw [Round.settledIds,
        show (fun settlement : Settlement => settlement.word.threadId) =
          SpawnedWord.threadId ∘ Settlement.word from rfl,
        ← List.map_map] at once
      exact once.of_map _
  case landedOnce => exact landings.once
  case landed =>
      intro word
      rw [← landing_round_iff]
      exact landings.settled word
  case score =>
      intro outside fits
      have score := balanced.score
      rw [pending_of_outside outside] at score
      have same : game.score = .ofNat (typedPoints game.settled) :=
        (Int32.add_zero _).symm.trans score
      rw [same]
      exact Int32.toInt_ofNat_of_lt fits
  case lives => exact balanced.lives
  case livesBounds =>
      refine ⟨balanced.nonneg, ?_⟩
      have lives : game.lives = initialLives - lostLives game.settled :=
        balanced.lives
      omega
  case gameOver => exact balanced.gameOver
  case returned =>
      intro score returned
      exact (returns score returned).symm

/-- Every reachable game keeps its accounts. -/
theorem accounted_of_run
    (wordList : List CString) (area : GameArea) (input : InputLine)
    (actions : List GameAction) (game : Game)
    (ran : step.run (start wordList area input) actions = some game) :
    game.Accounted := by
  obtain ⟨books, returns⟩ := books_of_run ran
  exact accounted_of_books books returns

/-- A word is spawned, typed and scored. -/
def typesWord : List GameAction :=
  List.replicate 21 (.main .spawnNow) ++
    List.replicate 17 (.main (.pressKey 97)) ++
    List.replicate 11 (.main (.pressKey 10))

/-- After it a second word falls to the bottom. -/
def typesAndMisses : List GameAction :=
  typesWord ++ List.replicate 8 (.main .spawnNow) ++
    List.replicate 47 (.word 2 true)

theorem accounted_of_typesAndMisses :
    ∃ game, step.run (start oneWord smallArea .blank) typesAndMisses =
        some game ∧
      game.landed.length = 1 ∧ game.lives = 4 ∧ game.Accounted := by
  refine ⟨_, rfl, ?_, ?_, accounted_of_run oneWord smallArea .blank
    typesAndMisses _ rfl⟩
  · decide
  · decide

end Game

end RainTyping
