import RainTyping.Client.ScoreAndLives

/-!
# What a step changes

The rows of the words, the spawned and the settled words and the area, for
every step of the main thread and for every step of a word thread.
-/

namespace RainTyping

/-- A word of the main thread that is not in `spawned` yet. -/
def MainPc.spawning : MainPc → Nat
  | .spawnLock => 1
  | .pickLock _ _ _ => 1
  | .pickUnlock _ _ _ _ => 1
  | .addLock _ => 1
  | .addUnlock _ => 1
  | _ => 0

namespace Game

variable {game : Game} {slot other : Fin maxWords} {calls : MainCalls}

/-! ## What the main thread does to the rows -/

/-- The word of the slot keeps its row, or the slot is filled anew. -/
inductive PlaceChange (game : Game) (slot : Fin maxWords) : Word → Prop where
  | kept (word) (sameRow : word.y = (game.words slot).y)
      (sameType : word.wtype = (game.words slot).wtype) :
      PlaceChange game slot word
  | chosen (word) (row : word.y = 0) (spawns : game.main = .spawnLock)
      (free : freeSlot game.words = some slot) : PlaceChange game slot word
  | picked (word) (row : word.y = 0) (tries pick taken)
      (picks : game.main = .pickUnlock slot tries pick taken) :
      PlaceChange game slot word

private theorem PlaceChange.same :
    game.PlaceChange slot (game.words slot) :=
  .kept _ rfl rfl

private theorem placeChange_set
    {word : Word} (sameRow : word.y = (game.words other).y)
    (sameType : word.wtype = (game.words other).wtype) :
    game.PlaceChange slot (game.words.set other word slot) := by
  rw [Words.set_apply]
  split
  · rename_i same
    subst same
    exact .kept _ sameRow sameType
  · exact .same

private theorem release_row (word : Word) :
    word.release.y = word.y ∧ word.release.wtype = word.wtype := by
  unfold Word.release
  split <;> exact ⟨rfl, rfl⟩

private theorem placeChange_fillSlot
    {pick : CString} {rolls : Rolls} {tries : Nat} {pick' : CString}
    {taken : Bool} (picks : game.main = .pickUnlock other tries pick' taken) :
    game.PlaceChange slot ((game.fillSlot other pick rolls).words slot) := by
  simp only [fillSlot, goto, setWord, Words.set_apply]
  split
  · rename_i same
    subst same
    exact .picked _ rfl tries pick' taken picks
  · exact .same

private theorem placeChange_chooseSlot (spawns : game.main = .spawnLock) :
    game.PlaceChange slot ((game.chooseSlot calls).words slot) := by
  unfold chooseSlot
  split
  · rename_i found free
    obtain ⟨sameRow, sameType⟩ := release_row (game.words found)
    unfold tryPick
    simp only
    split
    · simp only [fillSlot, goto, setWord, Words.set_apply]
      split
      · rename_i same
        subst same
        exact .chosen _ rfl spawns free
      · exact .same
    · exact placeChange_set sameRow sameType
  · exact .same

theorem mainStep_place :
    game.PlaceChange slot ((game.mainStep calls).words slot) := by
  cases current : game.main with
  | inputOverUnlock key gameOver =>
      simp only [mainStep, current, handleKey]
      split_ifs <;> exact .same
  | inputLock =>
      simp only [mainStep, current, chooseTarget]
      split
      · exact placeChange_set rfl rfl
      · exact .same
  | inputUnlock target =>
      cases target <;> simp only [mainStep, current] <;> exact .same
  | scoreLock target wtype =>
      cases wtype <;> simp only [mainStep, current] <;> exact .same
  | spawnCheckUnlock canSpawn =>
      simp only [mainStep, current]
      split <;> exact .same
  | spawnLock =>
      simp only [mainStep, current]
      exact placeChange_chooseSlot current
  | pickUnlock other tries pick taken =>
      simp only [mainStep, current]
      split
      · unfold tryPick
        simp only
        split
        · exact placeChange_fillSlot current
        · exact .same
      · exact placeChange_fillSlot current
  | addUnlock other =>
      simp only [mainStep, current, createThread]
      split
      · exact placeChange_set rfl rfl
      · exact placeChange_set rfl rfl
  | draw last pc =>
      simp only [mainStep, current]
      split <;> exact .same
  | requestLock =>
      simp only [mainStep, current, goto, Word.requestRemoval]
      split
      · exact .kept _ rfl rfl
      · exact .same
  | joinLock loop =>
      simp only [mainStep, current, joinFrom]
      split <;> exact .same
  | joining loop other =>
      simp only [mainStep, current, joinFrom, collectSlot]
      split <;> exact placeChange_set rfl rfl
  | joinUnlock loop =>
      cases loop <;> simp only [mainStep, current] <;> exact .same
  | _ =>
      simp only [mainStep, current]
      exact .same

/-- The main thread leaves the row of a word that is still at work. -/
theorem mainStep_row
    {threadId : Nat} (owned : game.round.Owned)
    (uses : game.round.Uses threadId slot) :
    ((game.mainStep calls).words slot).y = (game.words slot).y ∧
      ((game.mainStep calls).words slot).wtype = (game.words slot).wtype := by
  have change : game.PlaceChange slot ((game.mainStep calls).words slot) :=
    mainStep_place
  cases change with
  | kept sameRow sameType => exact ⟨sameRow, sameType⟩
  | chosen row spawns free =>
      have playing : game.round.phase = .playing :=
        congrArg MainPc.phase spawns
      exact absurd uses
        ((owned.unused_of_free playing (freeSlot_eq_some free)).1 threadId)
  | picked row tries pick taken picks =>
      have choosing : game.round.phase = .choosing slot :=
        congrArg MainPc.phase picks
      have free := (owned.choosing slot choosing).1
      exact absurd uses (owned.unused_of_threadId free threadId)

/-! ## What the main thread does to the spawned words -/

/-- No word is spawned, a spawn begins, or it ends with a new thread. -/
inductive SpawnChange (game : Game) (calls : MainCalls) (after : Game) :
    Prop where
  | kept (sameSpawned : after.spawned = game.spawned)
      (sameNext : after.nextThreadId = game.nextThreadId)
      (fewer : after.main.spawning ≤ game.main.spawning)
  | begun (sameSpawned : after.spawned = game.spawned)
      (sameNext : after.nextThreadId = game.nextThreadId)
      (checks : game.main = .spawnCheckUnlock true)
      (isDue : calls.spawnDue = true) (one : after.main.spawning ≤ 1)
  | started (place : Fin maxWords) (starts : game.main = .addUnlock place)
      (spawned : after.spawned = game.spawned ++
        [((game.words place).start game.nextThreadId).spawned])
      (newThread : after.nextThreadId = game.nextThreadId + 1)
      (done : after.main.spawning = 0)

private theorem tryPick_spawning (tries : Nat) :
    (game.tryPick slot tries calls).spawned = game.spawned ∧
      (game.tryPick slot tries calls).nextThreadId = game.nextThreadId ∧
      (game.tryPick slot tries calls).main.spawning = 1 := by
  unfold tryPick
  simp only
  split <;> exact ⟨rfl, rfl, rfl⟩

private theorem spawnChange_tryPick
    {after : Game} (one : game.main.spawning = 1)
    (same : ∃ (before : Game) (tries : Nat),
      before.spawned = game.spawned ∧
        before.nextThreadId = game.nextThreadId ∧
        after = before.tryPick slot tries calls) :
    game.SpawnChange calls after := by
  obtain ⟨before, tries, sameSpawned, sameNext, rfl⟩ := same
  obtain ⟨spawned, nextId, spawning⟩ :=
    @tryPick_spawning before slot calls tries
  refine .kept (spawned.trans sameSpawned) (nextId.trans sameNext) ?_
  rw [spawning, one]

theorem mainStep_spawned :
    game.SpawnChange calls (game.mainStep calls) := by
  cases current : game.main with
  | top =>
      simp only [mainStep, current]
      split <;> exact .kept rfl rfl (Nat.zero_le _)
  | overUnlock =>
      simp only [mainStep, current]
      split <;> exact .kept rfl rfl (Nat.zero_le _)
  | inputOverUnlock key gameOver =>
      simp only [mainStep, current, handleKey]
      split_ifs <;> exact .kept rfl rfl (Nat.zero_le _)
  | inputLock =>
      simp only [mainStep, current, chooseTarget]
      split <;> exact .kept rfl rfl (Nat.zero_le _)
  | inputUnlock target =>
      cases target <;> simp only [mainStep, current] <;>
        exact .kept rfl rfl (Nat.zero_le _)
  | scoreLock target wtype =>
      cases wtype <;> simp only [mainStep, current] <;>
        exact .kept rfl rfl (Nat.zero_le _)
  | spawnCheckUnlock canSpawn =>
      simp only [mainStep, current]
      split
      · rename_i spawns
        obtain ⟨rfl, isDue, _⟩ := spawns
        exact .begun rfl rfl current isDue (Nat.le_refl 1)
      · exact .kept rfl rfl (Nat.zero_le _)
  | spawnLock =>
      simp only [mainStep, current, chooseSlot]
      split
      · rename_i found free
        exact spawnChange_tryPick (by rw [current]; rfl)
          ⟨game.setWord found (game.words found).release, 1, rfl, rfl, rfl⟩
      · exact .kept rfl rfl (Nat.zero_le _)
  | pickLock slot tries pick =>
      simp only [mainStep, current]
      exact .kept rfl rfl (by rw [current]; exact Nat.le_refl 1)
  | pickUnlock slot tries pick taken =>
      simp only [mainStep, current]
      split
      · exact spawnChange_tryPick (by rw [current]; rfl)
          ⟨game, tries + 1, rfl, rfl, rfl⟩
      · exact .kept rfl rfl (by rw [current]; exact Nat.le_refl 1)
  | addLock slot =>
      simp only [mainStep, current]
      exact .kept rfl rfl (by rw [current]; exact Nat.le_refl 1)
  | addUnlock slot =>
      simp only [mainStep, current, createThread]
      split
      · exact .started slot current rfl rfl rfl
      · exact .kept rfl rfl (Nat.zero_le _)
  | draw last pc =>
      simp only [mainStep, current]
      split
      · exact .kept rfl rfl (Nat.zero_le _)
      · split_ifs <;> exact .kept rfl rfl (Nat.zero_le _)
  | joinLock loop =>
      simp only [mainStep, current, joinFrom]
      split <;> exact .kept rfl rfl (Nat.zero_le _)
  | joining loop slot =>
      simp only [mainStep, current, joinFrom, collectSlot]
      split <;> exact .kept rfl rfl (Nat.zero_le _)
  | joinUnlock loop =>
      cases loop with
      | cleanupFinishedThreads =>
          simp only [mainStep, current]
          split <;> exact .kept rfl rfl (Nat.zero_le _)
      | safeGameCleanup =>
          simp only [mainStep, current]
          exact .kept rfl rfl (Nat.zero_le _)
  | returned score =>
      simp only [mainStep, current]
      exact .kept rfl rfl (Nat.le_refl _)
  | _ =>
      simp only [mainStep, current]
      exact .kept rfl rfl (Nat.zero_le _)

theorem mainStep_settled {settlement : Settlement}
    (settled : settlement ∈ (game.mainStep calls).settled) :
    settlement ∈ game.settled ∨ settlement.outcome = .typed := by
  cases current : game.main with
  | inputOverUnlock key gameOver =>
      simp only [mainStep, current, handleKey] at settled
      split_ifs at settled <;> exact .inl settled
  | inputLock =>
      simp only [mainStep, current, chooseTarget] at settled
      split at settled
      · rcases List.mem_append.mp settled with earlier | last
        · exact .inl earlier
        · rw [List.mem_singleton.mp last]
          exact .inr rfl
      · exact .inl settled
  | inputUnlock target =>
      cases target <;> simp only [mainStep, current] at settled <;>
        exact .inl settled
  | scoreLock target wtype =>
      cases wtype <;> simp only [mainStep, current] at settled <;>
        exact .inl settled
  | spawnCheckUnlock canSpawn =>
      simp only [mainStep, current] at settled
      split at settled <;> exact .inl settled
  | spawnLock =>
      simp only [mainStep, current, chooseSlot, tryPick] at settled
      split at settled
      · split at settled <;> exact .inl settled
      · exact .inl settled
  | pickUnlock slot tries pick taken =>
      simp only [mainStep, current, tryPick] at settled
      split at settled
      · split at settled <;> exact .inl settled
      · exact .inl settled
  | addUnlock slot =>
      simp only [mainStep, current, createThread] at settled
      split at settled <;> exact .inl settled
  | draw last pc =>
      simp only [mainStep, current] at settled
      split at settled <;> exact .inl settled
  | joinLock loop =>
      simp only [mainStep, current, joinFrom] at settled
      split at settled <;> exact .inl settled
  | joining loop slot =>
      simp only [mainStep, current, joinFrom, collectSlot] at settled
      split at settled <;> exact .inl settled
  | joinUnlock loop =>
      cases loop <;> simp only [mainStep, current] at settled <;>
        exact .inl settled
  | _ =>
      simp only [mainStep, current] at settled
      exact .inl settled

/-- The area stays, and only the signal handler sets its flags. -/
theorem mainStep_constants :
    (game.mainStep calls).area = game.area ∧
      (game.mainStep calls).signaled = game.signaled := by
  cases current : game.main with
  | inputOverUnlock key gameOver =>
      simp only [mainStep, current, handleKey]
      split_ifs <;> exact ⟨rfl, rfl⟩
  | inputLock =>
      simp only [mainStep, current, chooseTarget]
      split <;> exact ⟨rfl, rfl⟩
  | inputUnlock target =>
      cases target <;> simp only [mainStep, current] <;> exact ⟨rfl, rfl⟩
  | scoreLock target wtype =>
      cases wtype <;> simp only [mainStep, current] <;> exact ⟨rfl, rfl⟩
  | spawnCheckUnlock canSpawn =>
      simp only [mainStep, current]
      split <;> exact ⟨rfl, rfl⟩
  | spawnLock =>
      simp only [mainStep, current, chooseSlot, tryPick]
      split
      · split <;> exact ⟨rfl, rfl⟩
      · exact ⟨rfl, rfl⟩
  | pickUnlock slot tries pick taken =>
      simp only [mainStep, current, tryPick]
      split
      · split <;> exact ⟨rfl, rfl⟩
      · exact ⟨rfl, rfl⟩
  | addUnlock slot =>
      simp only [mainStep, current, createThread]
      split <;> exact ⟨rfl, rfl⟩
  | draw last pc =>
      simp only [mainStep, current]
      split <;> exact ⟨rfl, rfl⟩
  | joinLock loop =>
      simp only [mainStep, current, joinFrom]
      split <;> exact ⟨rfl, rfl⟩
  | joining loop slot =>
      simp only [mainStep, current, joinFrom, collectSlot]
      split <;> exact ⟨rfl, rfl⟩
  | joinUnlock loop =>
      cases loop <;> simp only [mainStep, current] <;> exact ⟨rfl, rfl⟩
  | returned score => simp only [mainStep, current, and_self]
  | _ =>
      simp only [mainStep, current]
      exact ⟨rfl, rfl⟩

theorem mainStep_area : (game.mainStep calls).area = game.area :=
  mainStep_constants.1

/-! ## What a word thread does -/

section WordStep

variable {threadId : Nat} {thread : WordThread} {dropDue : Bool}

/-- Only the drop section changes a row. -/
theorem wordStep_row (stays : thread.pc ≠ .dropLock) :
    ((game.wordStep threadId thread dropDue).words slot).y =
        (game.words slot).y ∧
      ((game.wordStep threadId thread dropDue).words slot).wtype =
        (game.words slot).wtype := by
  cases current : thread.pc with
  | dropLock => exact absurd current stays
  | landStateLock =>
      simp only [wordStep, current, setThread, landWord_words, and_self]
  | exitLock =>
      simp only [wordStep, current, setThread, setWord, Words.set_apply]
      split
      · rename_i same
        subst same
        exact ⟨rfl, rfl⟩
      · exact ⟨rfl, rfl⟩
  | _ =>
      constructor <;> simp only [wordStep, current] <;> rfl

theorem wordStep_row_other (apart : slot ≠ thread.slot) :
    (game.wordStep threadId thread dropDue).words slot = game.words slot := by
  cases current : thread.pc with
  | dropLock =>
      simp only [wordStep, current, setThread, setWord, noteLanding_words,
        Words.set_of_ne _ _ apart]
  | landStateLock =>
      simp only [wordStep, current, setThread, landWord_words]
  | exitLock =>
      simp only [wordStep, current, setThread, setWord,
        Words.set_of_ne _ _ apart]
  | _ => simp only [wordStep, current] <;> rfl

theorem wordStep_constants :
    (game.wordStep threadId thread dropDue).area = game.area ∧
      (game.wordStep threadId thread dropDue).signaled = game.signaled ∧
      (game.wordStep threadId thread dropDue).wordList = game.wordList ∧
      (game.wordStep threadId thread dropDue).loopOver = game.loopOver := by
  cases current : thread.pc with
  | landStateLock =>
      simp only [wordStep, current, setThread, landWord]
      split <;> exact ⟨rfl, rfl, rfl, rfl⟩
  | finished => simp only [wordStep, current, and_self]
  | joined => simp only [wordStep, current, and_self]
  | _ =>
      simp only [wordStep, current]
      exact ⟨rfl, rfl, rfl, rfl⟩

theorem wordStep_area :
    (game.wordStep threadId thread dropDue).area = game.area :=
  wordStep_constants.1

theorem wordStep_spawned :
    (game.wordStep threadId thread dropDue).spawned = game.spawned ∧
      (game.wordStep threadId thread dropDue).nextThreadId =
        game.nextThreadId := by
  cases current : thread.pc with
  | landStateLock =>
      simp only [wordStep, current, setThread, landWord]
      split <;> exact ⟨rfl, rfl⟩
  | _ => constructor <;> simp only [wordStep, current] <;> rfl

/-- A word thread settles its word when the word has landed. -/
theorem wordStep_settled {settlement : Settlement}
    (settled : settlement ∈
      (game.wordStep threadId thread dropDue).settled) :
    settlement ∈ game.settled ∨
      thread.pc = .landStateLock ∧
        settlement.word = (game.words thread.slot).spawned := by
  cases current : thread.pc with
  | landStateLock =>
      simp only [wordStep, current, setThread, landWord] at settled
      have appended : settlement ∈ game.settled ++
          [⟨(game.words thread.slot).spawned, .landed game.isOver⟩] := by
        split at settled <;> exact settled
      rcases List.mem_append.mp appended with earlier | last
      · exact .inl earlier
      · rw [List.mem_singleton.mp last]
        exact .inr ⟨rfl, rfl⟩
  | _ =>
      simp only [wordStep, current] at settled
      exact .inl settled

end WordStep

end Game

end RainTyping
