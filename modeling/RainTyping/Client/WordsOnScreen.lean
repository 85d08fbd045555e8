import RainTyping.Client.ScreenIndex

/-!
# The table and the screen

While the game runs the table of active words stores what the screen shows,
unless an exiting thread erases the entry of a word that came after its own.
-/

namespace RainTyping

namespace Game

def OnScreen (game : Game) (word : CString) : Prop :=
  ∃ slot, (game.words slot).active = true ∧
    (game.words slot).text.toCString = word

/-- The table stores the words on the screen, and a search tells which these
are. -/
structure MirrorsScreen (game : Game) : Prop where
  stored : ∀ word, game.activeWords.Stores word ↔ game.OnScreen word
  searched : ∀ word,
    isWordInActiveTable game.activeWords word = true ↔ game.OnScreen word

/-- A spawn puts a word on the screen that is not in the table. -/
def SpawnsFresh (game : Game) : GameAction → Prop
  | .main calls =>
      ∀ slot, (game.mainStep calls).main = .addLock slot →
        isWordInActiveTable game.activeWords
          ((game.mainStep calls).words slot).text.toCString = false
  | .word _ _ => True
  | .sigint _ => True

instance (game : Game) : DecidablePred game.SpawnsFresh
  | .main _ => inferInstanceAs (Decidable (∀ _, _))
  | .word _ _ => isTrue trivial
  | .sigint _ => isTrue trivial

/-- No other slot shows the word of this one. -/
def Alone (game : Game) (slot : Fin maxWords) : Prop :=
  ∀ other, (game.words other).active = true →
    (game.words other).text ≠ (game.words slot).text

instance (game : Game) : DecidablePred game.Alone :=
  fun _ => inferInstanceAs (Decidable (∀ _, _))

/-- When the word of an exiting thread has left the screen before, no other
slot shows it again. -/
def ErasesOwn (game : Game) (thread : WordThread) : Prop :=
  thread.pc = .exitLock → (game.words thread.slot).active = false →
    game.Alone thread.slot

instance (game : Game) : DecidablePred game.ErasesOwn :=
  fun _ => inferInstanceAs (Decidable (_ → _ → _))

/-- A word that gets its thread has its entry, and a thread exits with no
entry but its own. -/
def KeepsEntries (game : Game) : GameAction → Prop
  | .main calls =>
      ∀ slot, game.main = .addUnlock slot → calls.created = true →
        isWordInActiveTable game.activeWords
          (game.words slot).text.toCString = true
  | .word threadId _ => ∀ thread ∈ game.threads threadId, game.ErasesOwn thread
  | .sigint _ => True

instance (game : Game) : DecidablePred game.KeepsEntries
  | .main calls =>
      inferInstanceAs (Decidable (∀ slot, game.main = .addUnlock slot →
        calls.created = true → _ = true))
  | .word threadId _ =>
      inferInstanceAs
        (Decidable (∀ thread ∈ game.threads threadId, game.ErasesOwn thread))
  | .sigint _ => isTrue trivial

variable {game next : Game} {slot : Fin maxWords} {threadId : Nat}
  {thread : WordThread} {calls : MainCalls}

/-! ## The table stays well formed -/

private theorem wellFormed_removeActive
    (wellFormed : game.activeWords.WellFormed) (slot : Fin maxWords) :
    (game.removeActive slot).activeWords.WellFormed :=
  ActiveWordTable.wellFormed_remove wellFormed

private theorem wellFormed_mainStep
    (wellFormed : game.activeWords.WellFormed) :
    (game.mainStep calls).activeWords.WellFormed := by
  cases current : game.main with
  | inputOverUnlock key gameOver =>
      simp only [mainStep, current, handleKey]
      split_ifs <;> exact wellFormed
  | inputLock =>
      simp only [mainStep, current, chooseTarget]
      split <;> exact wellFormed
  | inputHashLock target wtype =>
      simp only [mainStep, current]
      exact wellFormed_removeActive wellFormed target
  | inputUnlock target =>
      cases target <;> simp only [mainStep, current] <;> exact wellFormed
  | scoreLock target wtype =>
      cases wtype <;> simp only [mainStep, current] <;> exact wellFormed
  | spawnCheckUnlock canSpawn =>
      simp only [mainStep, current]
      split <;> exact wellFormed
  | spawnLock =>
      simp only [mainStep, current, chooseSlot, tryPick]
      split
      · split <;> exact wellFormed
      · exact wellFormed
  | pickUnlock slot tries pick taken =>
      simp only [mainStep, current, tryPick]
      split_ifs <;> exact wellFormed
  | addLock slot =>
      simp only [mainStep, current]
      exact ActiveWordTable.wellFormed_add _ wellFormed
        (game.words slot).text.fits
  | addUnlock slot =>
      simp only [mainStep, current, createThread]
      split <;> exact wellFormed
  | undoLock slot =>
      simp only [mainStep, current]
      exact wellFormed_removeActive wellFormed slot
  | draw last pc =>
      simp only [mainStep, current]
      split <;> exact wellFormed
  | joinLock loop =>
      simp only [mainStep, current, joinFrom]
      split <;> exact wellFormed
  | joining loop slot =>
      simp only [mainStep, current, joinFrom]
      split <;> exact wellFormed
  | joinUnlock loop =>
      cases loop <;> simp only [mainStep, current] <;> exact wellFormed
  | clearLock =>
      simp only [mainStep, current]
      exact ActiveWordTable.wellFormed_init
  | _ =>
      simp only [mainStep, current]
      exact wellFormed

private theorem wellFormed_wordStep
    (wellFormed : game.activeWords.WellFormed) (dropDue : Bool) :
    (game.wordStep threadId thread dropDue).activeWords.WellFormed := by
  obtain ⟨slot, pc⟩ := thread
  cases pc with
  | landHashLock => exact wellFormed_removeActive wellFormed slot
  | exitHashLock => exact wellFormed_removeActive wellFormed slot
  | landStateLock =>
      simp only [wordStep, landWord]
      split <;> exact wellFormed
  | _ => exact wellFormed

theorem step_wellFormed
    {action : GameAction} (wellFormed : game.activeWords.WellFormed)
    (stepped : step game action = some next) :
    next.activeWords.WellFormed := by
  cases action with
  | sigint isGameRunning =>
      cases stepped
      cases isGameRunning <;> exact wellFormed
  | main calls =>
      simp only [step, Option.map_eq_some_iff] at stepped
      obtain ⟨owners, _, rfl⟩ := stepped
      exact wellFormed_mainStep wellFormed
  | word threadId dropDue =>
      simp only [step, Option.bind_eq_some_iff,
        Option.map_eq_some_iff] at stepped
      obtain ⟨thread, _, owners, _, rfl⟩ := stepped
      exact wellFormed_wordStep wellFormed dropDue

/-! ## The index stays coherent -/

private theorem uncleared_before
    (uncleared : (game.mainStep calls).main.cleared = false) :
    game.main.cleared = false ∧ game.main ≠ .clearLock := by
  cases current : game.main with
  | clearLock =>
      simp only [mainStep, current] at uncleared
      cases uncleared
  | clearUnlock =>
      simp only [mainStep, current] at uncleared
      cases uncleared
  | returned score =>
      simp only [mainStep, current] at uncleared
      cases uncleared
  | _ =>
      refine ⟨rfl, ?_⟩
      intro clearing
      cases clearing

/-- While the table is not cleared it indexes the screen. -/
structure Indexed (game : Game) : Prop where
  owned : game.round.Owned
  locksHeld : game.LocksHeld
  wellFormed : game.activeWords.WellFormed
  coherent : game.main.cleared = false → game.screenIndex.Coherent

private theorem coherent_of_indexStep
    {before after : SlotIndex (Fin maxWords) CString}
    (coherent : before.Coherent) (stepped : IndexStep before after) :
    after.Coherent := by
  cases stepped with
  | refl => exact coherent
  | single event => exact coherent.step event

theorem indexed_start
    (wordList : List CString) (area : GameArea) (input : InputLine) :
    (start wordList area input).Indexed := by
  constructor
  case owned => exact owned_start wordList area input
  case locksHeld => exact locksHeld_start wordList area input
  case wellFormed => exact ActiveWordTable.wellFormed_init
  case coherent =>
      intro _
      apply SlotIndex.coherent_of_settled
      · intro slot other word shows
        cases shows
      · intro word
        apply iff_of_false ActiveWordTable.not_stores_init
        rintro ⟨slot, shows⟩
        cases shows
      · rfl

theorem Indexed.step
    {action : GameAction} (indexed : game.Indexed)
    (fresh : game.SpawnsFresh action) (kept : game.KeepsEntries action)
    (stepped : step game action = some next) : next.Indexed := by
  obtain ⟨owned, locksHeld, wellFormed, coherent⟩ := indexed
  constructor
  case owned =>
      exact (step_events stepped).preserve (fun _ _ owned => owned.event) owned
  case locksHeld => exact step_locksHeld owned locksHeld stepped
  case wellFormed => exact step_wellFormed wellFormed stepped
  case coherent =>
      intro uncleared
      cases action with
      | sigint isGameRunning =>
          cases stepped
          cases isGameRunning <;> exact coherent uncleared
      | main calls =>
          have sameMain : next.main = (game.mainStep calls).main := by
            simp only [Game.step, Option.map_eq_some_iff] at stepped
            obtain ⟨owners, _, rfl⟩ := stepped
            rfl
          rw [sameMain] at uncleared
          obtain ⟨before, notClearing⟩ := uncleared_before uncleared
          apply coherent_of_indexStep (coherent before)
          apply main_indexStep owned locksHeld wellFormed _ _ notClearing
            stepped
          · intro slot puts
            rw [← ActiveWordTable.isWordInActiveTable_iff wellFormed,
              Bool.not_eq_true]
            exact fresh slot puts
          · intro slot adds created
            rw [← ActiveWordTable.isWordInActiveTable_iff wellFormed]
            exact kept slot adds created
      | word threadId dropDue =>
          have sameMain : next.main = game.main := by
            simp only [Game.step, Option.bind_eq_some_iff,
              Option.map_eq_some_iff] at stepped
            obtain ⟨thread, _, owners, _, rfl⟩ := stepped
            exact (wordStep_main game threadId thread dropDue).1
          rw [sameMain] at uncleared
          apply coherent_of_indexStep (coherent uncleared)
          apply word_indexStep owned locksHeld wellFormed _ stepped
          exact kept

/-! ## Runs -/

private theorem shows_iff (word : CString) :
    game.screenIndex.Shows word ↔ game.OnScreen word := by
  apply exists_congr
  intro slot
  simp only [screenIndex, indexWith, Word.shown,
    Option.ite_none_right_eq_some, Option.some.injEq]

/-- With `words_mutex` free no entry is pending. -/
theorem Indexed.mirrorsScreen
    (indexed : game.Indexed) (running : game.main.cleared = false)
    (free : game.owners .words = none) : game.MirrorsScreen := by
  have settled : game.screenIndex.pending = .settled := by
    rw [screenIndex, free]
    rfl
  have stored : ∀ word, game.activeWords.Stores word ↔ game.OnScreen word := by
    intro word
    rw [← shows_iff]
    exact (indexed.coherent running).mirrors_of_settled settled
  constructor
  case stored => exact stored
  case searched =>
      intro word
      rw [ActiveWordTable.isWordInActiveTable_iff indexed.wellFormed]
      exact stored word

/-- After every section on `words_mutex` of a running game the table mirrors
the screen, in a run in which no entry of another word is erased. -/
theorem mirrorsScreen_of_keepsEntries
    (wordList : List CString) (area : GameArea) (input : InputLine)
    (actions : List GameAction) (game : Game)
    (fresh : step.Meets SpawnsFresh (start wordList area input) actions)
    (kept : step.Meets KeepsEntries (start wordList area input) actions)
    (ran : step.run (start wordList area input) actions = some game)
    (running : game.main.cleared = false)
    (free : game.owners .words = none) : game.MirrorsScreen := by
  have indexed : game.Indexed := by
    apply Machine.run_invariant Indexed _ (indexed_start wordList area input)
      (fresh.and kept) ran
    intro game action next indexed guard stepped
    exact indexed.step guard.1 guard.2 stepped
  exact indexed.mirrorsScreen running free

/-- A word is spawned and typed. -/
def typed : List GameAction :=
  List.replicate 21 (.main .spawnNow) ++
    List.replicate 17 (.main (.pressKey 97)) ++
    List.replicate 11 (.main (.pressKey 10))

/-- The word's thread exits before the next word is spawned. -/
def exitsBeforeSpawn : List GameAction :=
  typed ++ List.replicate 9 (.word 1 false) ++
    List.replicate 8 (.main .spawnNow)

/-- The word is spawned again before its first thread exits. -/
def exitsAfterSpawn : List GameAction :=
  typed ++ List.replicate 8 (.main .spawnNow) ++
    List.replicate 9 (.word 1 false)

private theorem exitsBeforeSpawn_fresh :
    step.Meets SpawnsFresh (start oneWord smallArea .blank)
      exitsBeforeSpawn := by
  decide +kernel

private theorem exitsBeforeSpawn_kept :
    step.Meets KeepsEntries (start oneWord smallArea .blank)
      exitsBeforeSpawn := by
  decide +kernel

theorem mirrorsScreen_of_exitsBeforeSpawn :
    ∃ game, step.run (start oneWord smallArea .blank) exitsBeforeSpawn =
      some game ∧ game.MirrorsScreen := by
  have reached : ((step.run (start oneWord smallArea .blank)
      exitsBeforeSpawn).map fun game =>
        (game.main.cleared, game.owners .words)) = some (false, none) := by
    decide +kernel
  obtain ⟨game, ran, ends⟩ := Option.map_eq_some_iff.mp reached
  obtain ⟨running, free⟩ := Prod.mk.inj ends
  exact ⟨game, ran, mirrorsScreen_of_keepsEntries oneWord smallArea .blank
    exitsBeforeSpawn game exitsBeforeSpawn_fresh exitsBeforeSpawn_kept ran
    running free⟩

private theorem exitsAfterSpawn_fresh :
    step.Meets SpawnsFresh (start oneWord smallArea .blank)
      exitsAfterSpawn := by
  decide +kernel

/-- The first thread has erased the entry of the second word. -/
theorem exitsAfterSpawn_erases :
    ¬ ∀ wordList area input actions game,
      wordList.Nodup →
        (∀ word ∈ wordList, word.bytes.length < maxWordLen) →
        step.Meets SpawnsFresh (start wordList area input) actions →
        step.run (start wordList area input) actions = some game →
        game.main.cleared = false → game.owners .words = none →
          game.MirrorsScreen := by
  intro mirrors
  have erased : ((step.run (start oneWord smallArea .blank)
      exitsAfterSpawn).map fun game =>
        (game.main.cleared, game.owners .words, (game.words 1).active,
          isWordInActiveTable game.activeWords
            (game.words 1).text.toCString)) =
      some (false, none, true, false) := by
    decide +kernel
  cases ran : step.run (start oneWord smallArea .blank) exitsAfterSpawn with
  | none =>
      rw [ran] at erased
      cases erased
  | some game =>
      simp only [ran, Option.map_some, Option.some.injEq,
        Prod.mk.injEq] at erased
      obtain ⟨running, free, active, absent⟩ := erased
      have mirrored := mirrors oneWord smallArea .blank exitsAfterSpawn game
        (List.nodup_singleton _) (by decide) exitsAfterSpawn_fresh ran running
        free
      have found := (mirrored.searched _).mpr ⟨1, active, rfl⟩
      rw [absent] at found
      cases found

end Game

end RainTyping
