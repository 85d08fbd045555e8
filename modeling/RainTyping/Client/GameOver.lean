import RainTyping.Client.GameTempo

/-!
# After the game is over

Every thread looks at `game_is_over` at times of its own, so a game goes on
for a while after it is over.  In that while it cannot go back, no life is
lost, and at most one word is typed and at most one thread is started.
-/

namespace RainTyping

/-- `process_game_input` has seen the game go on and may take a word. -/
def MainPc.typing : MainPc → Nat
  | .inputOverUnlock _ false => 1
  | .inputLock => 1
  | _ => 0

/-- `process_game_input` may take a word or has taken it without points. -/
def MainPc.scoring : MainPc → Nat
  | .inputOverUnlock _ false => 1
  | .inputLock => 1
  | .inputHashLock _ _ => 1
  | .inputHashUnlock _ _ => 1
  | .inputUnlock (some _) => 1
  | .scoreLock _ _ => 1
  | _ => 0

/-- The main loop has seen the game go on and may spawn a word. -/
def MainPc.starting : MainPc → Nat
  | .spawnCheckUnlock true => 1
  | pc => pc.spawning

/-- The typed words among the settled ones. -/
def typedCount (settled : List Settlement) : Nat :=
  settled.countP fun settlement => settlement.outcome = .typed

namespace Game

/-- What a game that is over may still become. -/
structure WindsDown (game next : Game) : Prop where
  ended : next.isOver = true
  lives : next.lives = game.lives
  typed : typedCount next.settled + next.main.typing ≤
    typedCount game.settled + game.main.typing
  started : next.spawned.length + next.main.starting ≤
    game.spawned.length + game.main.starting
  score : next.score = game.score ∧
      next.main.scoring ≤ game.main.scoring ∨
    next.main.scoring + 1 ≤ game.main.scoring ∧
      ∃ points ≤ 79, next.score = game.score + .ofNat points

variable {game middle next : Game}

namespace WindsDown

theorem trans
    (first : game.WindsDown middle) (second : middle.WindsDown next) :
    game.WindsDown next where
  ended := second.ended
  lives := second.lives.trans first.lives
  typed := second.typed.trans first.typed
  started := second.started.trans first.started
  score := by
    have bounded : game.main.scoring ≤ 1 := by
      unfold MainPc.scoring
      split <;> omega
    rcases first.score with ⟨same, less⟩ | ⟨spent, points, few, paid⟩
    · rcases second.score with ⟨same', less'⟩ | ⟨spent', points, few, paid⟩
      · exact .inl ⟨same'.trans same, less'.trans less⟩
      · exact .inr ⟨by omega, points, few, same ▸ paid⟩
    · rcases second.score with ⟨same, less⟩ | ⟨spent', _⟩
      · exact .inr ⟨by omega, points, few, same.trans paid⟩
      · omega

end WindsDown

/-- The score, the lives and the words of a game. -/
def SameBooks (game next : Game) : Prop :=
  next.isOver = game.isOver ∧ next.lives = game.lives ∧
    next.settled = game.settled ∧ next.spawned = game.spawned ∧
    next.score = game.score

private theorem windsDown_of_less
    {pc : MainPc} (ended : game.isOver = true) (current : game.main = pc)
    (books : game.SameBooks next)
    (less : next.main.typing ≤ pc.typing ∧
      next.main.starting ≤ pc.starting ∧
      next.main.scoring ≤ pc.scoring) : game.WindsDown next := by
  subst current
  obtain ⟨sameOver, sameLives, sameSettled, sameSpawned, sameScore⟩ := books
  constructor
  case ended => exact sameOver.trans ended
  case lives => exact sameLives
  case typed =>
      rw [sameSettled]
      exact Nat.add_le_add_left less.1 _
  case started =>
      rw [sameSpawned]
      exact Nat.add_le_add_left less.2.1 _
  case score => exact .inl ⟨sameScore, less.2.2⟩

private theorem windsDown_of_none
    (ended : game.isOver = true) (books : game.SameBooks next)
    (none : next.main.typing = 0 ∧ next.main.starting = 0 ∧
      next.main.scoring = 0) : game.WindsDown next := by
  apply windsDown_of_less ended rfl books
  rw [none.1, none.2.1, none.2.2]
  exact ⟨Nat.zero_le _, Nat.zero_le _, Nat.zero_le _⟩

/-! ## The main thread -/

private theorem windsDown_handleKey
    (ended : game.isOver = true) {key : Int}
    (current : game.main = .inputOverUnlock key false) :
    game.WindsDown (game.handleKey key) := by
  unfold handleKey
  split_ifs
  · exact windsDown_of_less ended current ⟨rfl, rfl, rfl, rfl, rfl⟩
      ⟨Nat.le_refl 1, Nat.le_refl 0, Nat.le_refl 1⟩
  · exact windsDown_of_none ended ⟨rfl, rfl, rfl, rfl, rfl⟩ ⟨rfl, rfl, rfl⟩
  · exact windsDown_of_none ended ⟨rfl, rfl, rfl, rfl, rfl⟩ ⟨rfl, rfl, rfl⟩
  · exact windsDown_of_none ended ⟨rfl, rfl, rfl, rfl, rfl⟩ ⟨rfl, rfl, rfl⟩
  · exact windsDown_of_none ended ⟨rfl, rfl, rfl, rfl, rfl⟩ ⟨rfl, rfl, rfl⟩

private theorem typedCount_append
    (settled : List Settlement) (settlement : Settlement) :
    typedCount (settled ++ [settlement]) =
      typedCount settled + if settlement.outcome = .typed then 1 else 0 := by
  simp [typedCount, List.countP_singleton]

private theorem windsDown_chooseTarget
    (ended : game.isOver = true) (current : game.main = .inputLock) :
    game.WindsDown game.chooseTarget := by
  unfold chooseTarget
  split
  · constructor
    case ended => exact ended
    case lives => rfl
    case typed =>
        simp only [settle, setWord, goto, typedCount_append, current]
        simp [MainPc.typing]
    case started =>
        simp only [settle, setWord, goto, current]
        exact Nat.le_refl _
    case score =>
        rw [current]
        exact .inl ⟨rfl, Nat.le_refl 1⟩
  · exact windsDown_of_none ended ⟨rfl, rfl, rfl, rfl, rfl⟩ ⟨rfl, rfl, rfl⟩

private theorem windsDown_scoreWord
    {target : Fin maxWords} {wtype : WordType}
    (ended : game.isOver = true) (current : game.main = .scoreLock target wtype) :
    game.WindsDown ((game.scoreWord target wtype).goto .scoreUnlock) := by
  constructor
  case ended => cases wtype <;> first | rfl | exact ended
  case lives => cases wtype <;> rfl
  case typed =>
      rw [current]
      cases wtype <;> exact Nat.le_refl _
  case started =>
      rw [current]
      cases wtype <;> exact Nat.le_refl _
  case score =>
      rw [current]
      have paid := pointsOf_le (game.words target).text wtype
      refine .inr ⟨Nat.le_refl 1, pointsOf (game.words target).text wtype,
        paid, ?_⟩
      cases wtype with
      | normal => rfl
      | kill => exact (Int32.add_zero _).symm
      | bonus =>
          simp only [scoreWord, goto, pointsOf, Int32.ofNat_add,
            Int32.add_assoc]
          rfl

private theorem windsDown_tryPick
    {slot : Fin maxWords} {tries : Nat} {calls : MainCalls} {before : Game}
    (ended : game.isOver = true) (books : game.SameBooks before)
    (spawning : game.main.starting = 1) :
    game.WindsDown (before.tryPick slot tries calls) := by
  have same : game.SameBooks (before.tryPick slot tries calls) := by
    unfold tryPick
    simp only
    split <;> exact books
  apply windsDown_of_less ended rfl same
  rw [spawning]
  unfold tryPick
  simp only
  split <;> exact ⟨Nat.zero_le _, Nat.le_refl 1, Nat.zero_le _⟩

theorem windsDown_mainStep
    (ended : game.isOver = true) (calls : MainCalls) :
    game.WindsDown (game.mainStep calls) := by
  cases current : game.main with
  | top =>
      simp only [mainStep, current]
      split <;>
        exact windsDown_of_none ended ⟨rfl, rfl, rfl, rfl, rfl⟩ ⟨rfl, rfl, rfl⟩
  | signalLock =>
      simp only [mainStep, current]
      exact windsDown_of_none ended ⟨ended.symm, rfl, rfl, rfl, rfl⟩
        ⟨rfl, rfl, rfl⟩
  | overUnlock =>
      simp only [mainStep, current]
      split <;>
        exact windsDown_of_none ended ⟨rfl, rfl, rfl, rfl, rfl⟩ ⟨rfl, rfl, rfl⟩
  | inputOverLock key =>
      simp only [mainStep, current, ended]
      exact windsDown_of_none ended ⟨rfl, rfl, rfl, rfl, rfl⟩ ⟨rfl, rfl, rfl⟩
  | inputOverUnlock key gameOver =>
      simp only [mainStep, current]
      cases gameOver with
      | true =>
          exact windsDown_of_none ended ⟨rfl, rfl, rfl, rfl, rfl⟩
            ⟨rfl, rfl, rfl⟩
      | false => exact windsDown_handleKey ended current
  | inputLock =>
      simp only [mainStep, current]
      exact windsDown_chooseTarget ended current
  | inputHashLock target wtype =>
      simp only [mainStep, current]
      exact windsDown_of_less ended current ⟨rfl, rfl, rfl, rfl, rfl⟩
        ⟨Nat.le_refl 0, Nat.le_refl 0, Nat.le_refl 1⟩
  | inputHashUnlock target wtype =>
      simp only [mainStep, current]
      exact windsDown_of_less ended current ⟨rfl, rfl, rfl, rfl, rfl⟩
        ⟨Nat.le_refl 0, Nat.le_refl 0, Nat.le_refl 1⟩
  | inputUnlock target =>
      cases target with
      | none =>
          simp only [mainStep, current]
          exact windsDown_of_none ended ⟨rfl, rfl, rfl, rfl, rfl⟩
            ⟨rfl, rfl, rfl⟩
      | some target =>
          simp only [mainStep, current]
          exact windsDown_of_less ended current ⟨rfl, rfl, rfl, rfl, rfl⟩
            ⟨Nat.le_refl 0, Nat.le_refl 0, Nat.le_refl 1⟩
  | scoreLock target wtype =>
      simp only [mainStep, current]
      exact windsDown_scoreWord ended current
  | spawnCheckLock =>
      simp only [mainStep, current, ended]
      exact windsDown_of_none ended ⟨rfl, rfl, rfl, rfl, rfl⟩ ⟨rfl, rfl, rfl⟩
  | spawnCheckUnlock canSpawn =>
      simp only [mainStep, current]
      split
      · rename_i spawns
        obtain ⟨rfl, _⟩ := spawns
        exact windsDown_of_less ended current ⟨rfl, rfl, rfl, rfl, rfl⟩
          ⟨Nat.le_refl 0, Nat.le_refl 1, Nat.le_refl 0⟩
      · exact windsDown_of_none ended ⟨rfl, rfl, rfl, rfl, rfl⟩ ⟨rfl, rfl, rfl⟩
  | spawnLock =>
      simp only [mainStep, current, chooseSlot]
      split
      · exact windsDown_tryPick ended ⟨rfl, rfl, rfl, rfl, rfl⟩
          (by rw [current]; rfl)
      · exact windsDown_of_none ended ⟨rfl, rfl, rfl, rfl, rfl⟩ ⟨rfl, rfl, rfl⟩
  | pickLock slot tries pick =>
      simp only [mainStep, current]
      exact windsDown_of_less ended current ⟨rfl, rfl, rfl, rfl, rfl⟩
        ⟨Nat.le_refl 0, Nat.le_refl 1, Nat.le_refl 0⟩
  | pickUnlock slot tries pick taken =>
      simp only [mainStep, current]
      split
      · exact windsDown_tryPick ended ⟨rfl, rfl, rfl, rfl, rfl⟩
          (by rw [current]; rfl)
      · exact windsDown_of_less ended current ⟨rfl, rfl, rfl, rfl, rfl⟩
          ⟨Nat.le_refl 0, Nat.le_refl 1, Nat.le_refl 0⟩
  | addLock slot =>
      simp only [mainStep, current]
      exact windsDown_of_less ended current ⟨rfl, rfl, rfl, rfl, rfl⟩
        ⟨Nat.le_refl 0, Nat.le_refl 1, Nat.le_refl 0⟩
  | addUnlock slot =>
      simp only [mainStep, current, createThread]
      split
      · constructor
        case ended => exact ended
        case lives => rfl
        case typed =>
            rw [current]
            exact Nat.le_refl _
        case started =>
            rw [current, List.length_append]
            exact Nat.le_refl _
        case score =>
            rw [current]
            exact .inl ⟨rfl, Nat.le_refl 0⟩
      · exact windsDown_of_none ended ⟨rfl, rfl, rfl, rfl, rfl⟩ ⟨rfl, rfl, rfl⟩
  | draw last pc =>
      simp only [mainStep, current]
      split
      · exact windsDown_of_none ended ⟨rfl, rfl, rfl, rfl, rfl⟩ ⟨rfl, rfl, rfl⟩
      · split_ifs <;>
          exact windsDown_of_none ended ⟨rfl, rfl, rfl, rfl, rfl⟩
            ⟨rfl, rfl, rfl⟩
  | joinLock loop =>
      simp only [mainStep, current, joinFrom]
      split <;>
        exact windsDown_of_none ended ⟨rfl, rfl, rfl, rfl, rfl⟩ ⟨rfl, rfl, rfl⟩
  | joining loop slot =>
      simp only [mainStep, current, joinFrom, collectSlot]
      split <;>
        exact windsDown_of_none ended ⟨rfl, rfl, rfl, rfl, rfl⟩ ⟨rfl, rfl, rfl⟩
  | joinUnlock loop =>
      cases loop with
      | cleanupFinishedThreads =>
          simp only [mainStep, current]
          split <;>
            exact windsDown_of_none ended ⟨rfl, rfl, rfl, rfl, rfl⟩
              ⟨rfl, rfl, rfl⟩
      | safeGameCleanup =>
          simp only [mainStep, current]
          exact windsDown_of_none ended ⟨rfl, rfl, rfl, rfl, rfl⟩
            ⟨rfl, rfl, rfl⟩
  | returned score =>
      simp only [mainStep, current]
      exact windsDown_of_less ended rfl ⟨rfl, rfl, rfl, rfl, rfl⟩
        ⟨Nat.le_refl _, Nat.le_refl _, Nat.le_refl _⟩
  | _ =>
      simp only [mainStep, current]
      exact windsDown_of_none ended ⟨rfl, rfl, rfl, rfl, rfl⟩ ⟨rfl, rfl, rfl⟩

/-! ## The word threads -/

theorem windsDown_wordStep
    (ended : game.isOver = true) (threadId : Nat) (thread : WordThread)
    (dropDue : Bool) :
    game.WindsDown (game.wordStep threadId thread dropDue) := by
  have same : ∀ {next : Game}, next.main = game.main →
      next.main.typing ≤ game.main.typing ∧
        next.main.starting ≤ game.main.starting ∧
        next.main.scoring ≤ game.main.scoring := by
    intro next sameMain
    rw [sameMain]
    exact ⟨Nat.le_refl _, Nat.le_refl _, Nat.le_refl _⟩
  cases current : thread.pc with
  | signalLock =>
      simp only [wordStep, current]
      exact windsDown_of_less ended rfl ⟨ended.symm, rfl, rfl, rfl, rfl⟩ (same rfl)
  | landStateLock =>
      simp only [wordStep, current, landWord, if_pos ended]
      constructor
      case ended => exact ended
      case lives => rfl
      case typed =>
          simp only [setThread, settle, typedCount_append]
          exact Nat.le_refl _
      case started => exact Nat.le_refl _
      case score => exact .inl ⟨rfl, Nat.le_refl _⟩
  | _ =>
      simp only [wordStep, current]
      exact windsDown_of_less ended rfl ⟨rfl, rfl, rfl, rfl, rfl⟩ (same rfl)

/-! ## Every run -/

private theorem windsDown_step
    {action : GameAction} (ended : game.isOver = true)
    (stepped : step game action = some next) : game.WindsDown next := by
  cases action with
  | sigint isGameRunning =>
      cases stepped
      unfold handleSigint
      split <;>
        exact windsDown_of_less ended rfl ⟨rfl, rfl, rfl, rfl, rfl⟩
          ⟨Nat.le_refl _, Nat.le_refl _, Nat.le_refl _⟩
  | main calls =>
      simp only [step, Option.map_eq_some_iff] at stepped
      obtain ⟨owners, performed, rfl⟩ := stepped
      have winds := windsDown_mainStep ended calls
      exact ⟨winds.ended, winds.lives, winds.typed, winds.started, winds.score⟩
  | word threadId dropDue =>
      simp only [step, Option.bind_eq_some_iff,
        Option.map_eq_some_iff] at stepped
      obtain ⟨thread, live, owners, performed, rfl⟩ := stepped
      have winds := windsDown_wordStep ended threadId thread dropDue
      exact ⟨winds.ended, winds.lives, winds.typed, winds.started, winds.score⟩

/-- Once a game is over it stays over and keeps its lives, and until it returns
at most one more word is typed, one more word scores and one more thread is
started. -/
theorem windsDown_of_run
    {actions : List GameAction} (ended : game.isOver = true)
    (ran : step.run game actions = some next) :
    next.isOver = true ∧ next.lives = game.lives ∧
      typedCount next.settled ≤ typedCount game.settled + 1 ∧
      next.spawned.length ≤ game.spawned.length + 1 ∧
      (next.score = game.score ∨
        ∃ points ≤ 79, next.score = game.score + .ofNat points) := by
  have winds : game.WindsDown next := by
    apply Machine.run_preserves (fun next => game.WindsDown next) _ _ ran
    · intro middle action next winds stepped
      exact winds.trans (windsDown_step winds.ended stepped)
    · exact windsDown_of_less ended rfl ⟨rfl, rfl, rfl, rfl, rfl⟩
        ⟨Nat.le_refl _, Nat.le_refl _, Nat.le_refl _⟩
  have typing : game.main.typing ≤ 1 := by
    unfold MainPc.typing
    split <;> omega
  have starting : game.main.starting ≤ 1 := by
    unfold MainPc.starting MainPc.spawning
    split
    · exact Nat.le_refl 1
    · split <;> omega
  have typed := winds.typed
  have started := winds.started
  refine ⟨winds.ended, winds.lives, by omega, by omega, ?_⟩
  rcases winds.score with ⟨same, _⟩ | ⟨_, paid⟩
  · exact .inl same
  · exact .inr paid

/-! ## The last life is lost while a word is typed -/

def sixLetters : List CString :=
  ["a", "b", "c", "d", "e", "f"].map fun letter => .ofBuffer (text letter)

/-- All six words are spawned, `f` and Enter are pressed, and before the main
thread takes the lock for it the five other words fall to the bottom. -/
def overWhileTyping : List GameAction :=
  ((List.range 6).flatMap fun pick =>
      List.replicate 21 (.main { MainCalls.spawnNow with pick := pick })) ++
    List.replicate 10 (.main .idle) ++
    List.replicate 17 (.main (.pressKey 102)) ++
    List.replicate 10 (.main (.pressKey 10)) ++
    (List.range 5).flatMap fun index =>
      List.replicate 58 (.word (index + 1) true)

/-- The word still scores. -/
def scoresLate : List GameAction :=
  List.replicate 8 (.main (.pressKey 10))

private theorem ran_overWhileTyping :
    ∃ game, step.run (start sixLetters smallArea .blank) overWhileTyping =
        some game ∧
      game.isOver = true ∧ game.score = 0 ∧
        ∃ next, step.run game scoresLate = some next ∧ next.score = 1 := by
  have seen : ((step.run (start sixLetters smallArea .blank)
      overWhileTyping).bind fun game =>
        (step.run game scoresLate).map fun next =>
          (game.isOver, game.score, next.score)) = some (true, 0, 1) := by
    decide +kernel
  obtain ⟨game, ran, ranOn⟩ := Option.bind_eq_some_iff.mp seen
  obtain ⟨next, ranLate, scores⟩ := Option.map_eq_some_iff.mp ranOn
  obtain ⟨ended, before, after⟩ : game.isOver = true ∧ game.score = 0 ∧
      next.score = 1 := by
    simpa only [Prod.mk.injEq] using scores
  exact ⟨game, ran, ended, before, next, ranLate, after⟩

theorem windsDown_of_overWhileTyping :
    ∃ game next,
      step.run (start sixLetters smallArea .blank) overWhileTyping =
          some game ∧
        step.run game scoresLate = some next ∧
          game.score = 0 ∧ next.score = 1 ∧
            next.isOver = true ∧ next.lives = game.lives ∧
              typedCount next.settled ≤ typedCount game.settled + 1 ∧
                next.spawned.length ≤ game.spawned.length + 1 := by
  obtain ⟨game, ran, ended, before, next, ranOn, after⟩ :=
    ran_overWhileTyping
  obtain ⟨stillOver, lives, typed, spawned, _⟩ := windsDown_of_run ended ranOn
  exact ⟨game, next, ran, ranOn, before, after, stillOver, lives, typed,
    spawned⟩

end Game

end RainTyping
