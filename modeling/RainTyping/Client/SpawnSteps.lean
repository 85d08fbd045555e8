import RainTyping.Client.MainThread
import RainTyping.Client.SpawnWord
import RainTyping.Client.WordsOnScreen

/-!
# The steps of a spawn

The program points of the main thread between `.spawnLock` and `.spawnUnlock`
do what `spawn_word` does, and a running game meets what its duplicate check
relies on.
-/

namespace RainTyping

namespace Game

def spawnState (game : Game) : SpawnState :=
  ⟨game.wordList, game.area.width, game.words, game.activeWords⟩

variable {game : Game} {slot : Fin maxWords}

/-- What the calls of the main thread answer in one round of the retry
loop. -/
def answers (calls : SpawnCalls) (roll : Nat) : MainCalls :=
  { MainCalls.spawnNow with
    pick := roll
    rolls := calls.rolls
    allocated := calls.allocated
    created := calls.created.isSome }

/-- One search of the table, and the round behind it. -/
private theorem attains_search
    {tries : Nat} {pick : CString} (answer : MainCalls)
    (current : game.main = .pickLock slot tries pick)
    (free : game.owners .hash = none) :
    game.Attains
      (if isWordInActiveTable game.spawnState.activeWords pick = true then
        game.tryPick slot (tries + 1) answer
      else game.fillSlot slot pick answer.rolls) := by
  have wants : game.main.operation game.words = .lock .hash := by
    rw [current]
    rfl
  have searched : game.mainStep answer =
      game.goto (.pickUnlock slot tries pick
        (isWordInActiveTable game.activeWords pick)) := by
    simp only [mainStep, current]
  exact attains_section answer answer .hash wants free searched rfl

/-- The rounds of the retry loop, up to the filled slot. -/
private theorem attains_fillSlot
    (calls : SpawnCalls) (left tries : Nat) (picks : Nat → Nat)
    (budget : tries + left = game.wordList.length)
    (current : game.main =
      .pickLock slot tries (game.spawnState.pickWord (picks 0)))
    (free : game.owners .hash = none) :
    game.Attains
      (game.fillSlot slot
        (game.spawnState.retry (left + 1) picks).pick calls.rolls) := by
  induction left generalizing game tries picks with
  | zero =>
      have searched := attains_search (answers calls (picks 1)) current free
      have last : tries + 1 > game.wordList.length := by
        omega
      simp only [tryPick, if_pos last] at searched
      simp only [SpawnState.retry]
      split
      · rename_i taken
        rw [if_pos taken] at searched
        exact searched
      · rename_i absent
        rw [if_neg absent] at searched
        exact searched
  | succ left induction =>
      have searched := attains_search (answers calls (picks 1)) current free
      have more : ¬tries + 1 > game.wordList.length := by
        omega
      simp only [tryPick, if_neg more] at searched
      rw [SpawnState.retry]
      split
      · rename_i taken
        rw [if_pos taken] at searched
        have rest : tries + 1 + left = game.wordList.length := by
          omega
        apply searched.trans
        exact induction (tries + 1) (fun round => picks (round + 1)) rest rfl
          free
      · rename_i absent
        rw [if_neg absent] at searched
        exact searched

/-- From the filled slot to the end of the section on `words_mutex`. -/
private theorem attains_createThread
    (calls : SpawnCalls) (current : game.main = .addLock slot)
    (created : ∀ threadId ∈ calls.created, threadId = game.nextThreadId)
    (free : game.owners .hash = none) :
    ∃ next, game.Attains next ∧ next.main = .spawnUnlock ∧
      next.owners = game.owners ∧
        next.spawnState =
          { game.spawnState with
            activeWords := (addActiveWord calls.allocated game.activeWords
              (game.words slot).text.toCString).2 }.createThread slot
                calls.created := by
  let added : Game :=
    { game with
      activeWords := (addActiveWord calls.allocated game.activeWords
        (game.words slot).text.toCString).2 }
  have first : game.mainStep (answers calls 0) =
      added.goto (.addUnlock slot) := by
    simp only [mainStep, current]
    rfl
  have wants : game.main.operation game.words = .lock .hash := by
    rw [current]
    rfl
  have reached : game.Attains
      ((added.goto (.addUnlock slot)).createThread slot
        calls.created.isSome) :=
    attains_section (answers calls 0) (answers calls 0) .hash wants free first
      rfl
  cases outcome : calls.created with
  | some threadId =>
      rw [outcome] at reached created
      refine ⟨_, reached, rfl, rfl, ?_⟩
      rw [created threadId rfl]
      rfl
  | none =>
      rw [outcome] at reached
      have undone := reached.trans
        (attains_section .idle .idle .hash rfl free rfl rfl)
      refine ⟨_, undone, rfl, rfl, ?_⟩
      have text : ((game.words.set slot (game.words slot).unspawn)
          slot).text = (game.words slot).text := by
        rw [Words.set_same]
        rfl
      change SpawnState.mk _ _ _ (removeActiveWord added.activeWords
        ((game.words.set slot (game.words slot).unspawn)
          slot).text.toCString).2 = _
      rw [text]
      rfl

/-- From the chosen slot to the end of the section on `words_mutex`. -/
private theorem attains_spawnUnlock
    (calls : SpawnCalls) (listed : game.wordList ≠ [])
    (current : game.main =
      .pickLock slot 1 (game.spawnState.pickWord (calls.picks 0)))
    (released : (game.words slot).release = game.words slot)
    (created : ∀ threadId ∈ calls.created, threadId = game.nextThreadId)
    (free : game.owners .hash = none) :
    ∃ next, game.Attains next ∧ next.main = .spawnUnlock ∧
      next.owners = game.owners ∧
        next.spawnState =
          (game.spawnState.fillSlot slot (game.spawnState.chosen calls).pick
            calls).createThread slot calls.created := by
  have some : 0 < game.wordList.length := List.length_pos_iff.mpr listed
  have budget : 1 + (game.wordList.length - 1) = game.wordList.length := by
    omega
  have whole : game.wordList.length - 1 + 1 = game.wordList.length := by
    omega
  have filled := attains_fillSlot calls _ 1 calls.picks budget current free
  rw [whole] at filled
  let after :=
    game.fillSlot slot (game.spawnState.chosen calls).pick calls.rolls
  obtain ⟨next, attained, atUnlock, owners, done⟩ :=
    @attains_createThread after slot calls rfl created free
  refine ⟨next, filled.trans attained, atUnlock, owners, ?_⟩
  have text : (after.words slot).text =
      SpawnState.cut (game.spawnState.chosen calls).pick := by
    change ((game.words.set slot _) slot).text = _
    rw [Words.set_same]
    rfl
  have releasedState :
      (game.spawnState.words slot).release = game.words slot := released
  rw [done, text, SpawnState.fillSlot, releasedState]
  rfl

private theorem attains_chooseSlot
    (calls : SpawnCalls) (listed : game.wordList ≠ [])
    (created : ∀ threadId ∈ calls.created, threadId = game.nextThreadId)
    {owners : Locks.Owners Party Mutex} (hashFree : owners .hash = none) :
    ∃ next, ((game.chooseSlot
        (answers calls (calls.picks 0))).withOwners owners).Attains next ∧
      next.main = .spawnUnlock ∧ next.owners = owners ∧
        next.spawnState = game.spawnState.spawnWord calls := by
  cases free : freeSlot game.words with
  | none =>
      have full : game.chooseSlot (answers calls (calls.picks 0)) =
          game.goto .spawnUnlock := by
        rw [chooseSlot, free]
      have freeState : freeSlot game.spawnState.words = none := free
      rw [full]
      refine ⟨_, .refl _, rfl, rfl, ?_⟩
      rw [SpawnState.spawnWord, freeState]
      exact (ite_self _).symm
  | some slot =>
      let searching := (game.setWord slot (game.words slot).release).goto
        (.pickLock slot 1 (game.spawnState.pickWord (calls.picks 0)))
      have chosen :
          game.chooseSlot (answers calls (calls.picks 0)) = searching := by
        rw [chooseSlot, free]
        exact if_neg (Nat.not_lt.mpr (List.length_pos_iff.mpr listed))
      have released :
          (searching.words slot).release = searching.words slot := by
        change (game.words.set slot (game.words slot).release slot).release =
          game.words.set slot (game.words slot).release slot
        rw [Words.set_same, release_release]
      obtain ⟨next, attained, atUnlock, sameOwners, done⟩ :=
        @attains_spawnUnlock (searching.withOwners owners) slot calls listed
          rfl released created hashFree
      rw [chosen]
      refine ⟨next, attained, atUnlock, sameOwners, ?_⟩
      have freeState : freeSlot game.spawnState.words = some slot := free
      have sameChosen : (searching.withOwners owners).spawnState.chosen calls =
          game.spawnState.chosen calls :=
        @SpawnState.chosen_of_words game.spawnState calls searching.words
      have sameFill : (searching.withOwners owners).spawnState.fillSlot slot
          (game.spawnState.chosen calls).pick calls =
            game.spawnState.fillSlot slot (game.spawnState.chosen calls).pick
              calls :=
        @SpawnState.fillSlot_of_released game.spawnState calls slot _
      rw [SpawnState.spawnWord_of_free listed freeState, done, sameChosen,
        sameFill]

/-- The program points of `spawn_word` do what the function does. -/
theorem attains_spawnWord
    (calls : SpawnCalls) (current : game.main = .spawnLock)
    (listed : game.wordList ≠ [])
    (created : ∀ threadId ∈ calls.created, threadId = game.nextThreadId)
    (wordsFree : game.owners .words = none)
    (hashFree : game.owners .hash = none) :
    ∃ next, game.Attains next ∧ next.main = .draw false .screenLock ∧
      next.owners = game.owners ∧
        next.spawnState = game.spawnState.spawnWord calls := by
  have wants : game.main.operation game.words = .lock .words := by
    rw [current]
    rfl
  have inside : game.mainStep (answers calls (calls.picks 0)) =
      game.chooseSlot (answers calls (calls.picks 0)) := by
    simp only [mainStep, current]
  have hashStillFree : Function.update game.owners .words (some .main)
      Mutex.hash = none := by
    have differs : Mutex.hash ≠ Mutex.words := by decide
    rw [Function.update_of_ne differs, hashFree]
  obtain ⟨last, run, atUnlock, owners, done⟩ :=
    attains_chooseSlot calls listed created hashStillFree
  have gives : last.main.operation last.words = .unlock .words := by
    rw [atUnlock]
    rfl
  have attained := attains_around (answers calls (calls.picks 0)) .idle .words
    wants wordsFree inside run owners gives
  have behind : last.mainStep .idle = last.goto (.draw false .screenLock) := by
    simp only [mainStep, atUnlock]
  rw [behind] at attained
  exact ⟨_, attained, rfl, rfl, done⟩

/-! ## Spawns of a game -/

/-- While no section on `words_mutex` is open the table mirrors the screen. -/
theorem Indexed.mirrors
    (indexed : game.Indexed) (running : game.main.cleared = false)
    (free : game.owners .words = none) : game.spawnState.Mirrors where
  wellFormed := indexed.wellFormed
  stored := (indexed.mirrorsScreen running free).stored

/-- With words that fit a slot the check of a game is effective. -/
theorem Indexed.spawnsApart
    {calls : SpawnCalls} (indexed : game.Indexed)
    (current : game.main = .spawnLock)
    (wordsFree : game.owners .words = none)
    (short : ∀ word ∈ game.wordList, word.strlen < maxWordLen)
    (allocated : calls.allocated = true)
    (free : freeSlot game.words = some slot)
    (found : (game.spawnState.chosen calls).ranOut = false) :
    game.spawnState.SpawnsApart calls slot := by
  have mirrors : game.spawnState.Mirrors :=
    indexed.mirrors (by rw [current]; rfl) wordsFree
  have playing : game.round.phase = .playing := by
    change game.main.phase = _
    rw [current]
    rfl
  have inactive : (game.words slot).active = false :=
    (indexed.owned.unused_of_free playing (freeSlot_eq_some free)).2
  apply (SpawnState.spawnsApart_iff_absent mirrors free found).mpr
  refine ⟨?_, fun _ => allocated, fun active => ?_⟩
  · apply (SpawnState.absent_iff mirrors found).mpr
    intro round ends
    have listed : game.wordList ≠ [] :=
      List.ne_nil_of_length_pos (Nat.zero_lt_of_lt ends.within)
    exact .inl (short _ (getD_mod_mem listed _))
  · cases inactive.symm.trans active

end Game

end RainTyping
