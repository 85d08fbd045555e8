import RainTyping.Client.GameLocks
import RainTyping.Support.SlotIndex

/-!
# The table as an index of the screen

The texts of the active slots are what the table of active words indexes.
Every step of a thread is nothing or one step of this index, and only the
owner of `words_mutex` takes one.
-/

namespace RainTyping

/-- What a slot shows on the screen. -/
def Word.shown (word : Word) : Option CString :=
  if word.active then some word.text.toCString else none

/-- The entry that is pending at a point of the main thread. -/
def MainPc.pending (words : Words) : MainPc → Pending (Fin maxWords) CString
  | .inputHashLock target _ => .erasing (words target).text.toCString
  | .addLock slot => .entering slot (words slot).text.toCString
  | .addUnlock slot => .entering slot (words slot).text.toCString
  | .undoLock slot => .erasing (words slot).text.toCString
  | _ => .settled

def WordThread.pending (words : Words) (thread : WordThread) :
    Pending (Fin maxWords) CString :=
  match thread.pc with
  | .landHashLock => .erasing (words thread.slot).text.toCString
  | .exitHashLock => .erasing (words thread.slot).text.toCString
  | _ => .settled

/-- `safe_game_cleanup` has initialised the table again. -/
def MainPc.cleared : MainPc → Bool
  | .clearUnlock => true
  | .returned _ => true
  | _ => false

namespace Game

def pending (game : Game) : Party → Pending (Fin maxWords) CString
  | .main => game.main.pending game.words
  | .word threadId =>
      match game.threads threadId with
      | some thread => thread.pending game.words
      | none => .settled

def indexWith (game : Game) (pending : Pending (Fin maxWords) CString) :
    SlotIndex (Fin maxWords) CString where
  shown := fun slot => (game.words slot).shown
  stored := {word | game.activeWords.Stores word}
  pending := pending

/-- The index; its pending entry is that of the owner of `words_mutex`. -/
def screenIndex (game : Game) : SlotIndex (Fin maxWords) CString :=
  game.indexWith
    (match game.owners .words with
    | some party => game.pending party
    | none => .settled)

/-- Nothing or one step of the index. -/
abbrev IndexStep :
    SlotIndex (Fin maxWords) CString → SlotIndex (Fin maxWords) CString →
      Prop :=
  Relation.ReflGen SlotIndex.Step

variable {game next : Game} {slot : Fin maxWords} {threadId : Nat}
  {thread : WordThread} {calls : MainCalls} {word : Word}
  {pending : Pending (Fin maxWords) CString}

/-! ## The index of a changed game -/

theorem shown_of_active (active : word.active = true) :
    word.shown = some word.text.toCString := by
  rw [Word.shown, if_pos active]

theorem shown_of_inactive (inactive : word.active = false) :
    word.shown = none := by
  simp [Word.shown, inactive]

theorem shown_set (words : Words) :
    (fun other => (words.set slot word other).shown) =
      Function.update (fun other => (words other).shown) slot word.shown := by
  funext other
  exact Function.apply_update (fun _ => Word.shown) words slot word other

theorem setWord_words_same : (game.setWord slot word).words slot = word :=
  Words.set_same ..

theorem indexWith_setWord :
    (game.setWord slot word).indexWith pending =
      { game.indexWith pending with
        shown := Function.update (game.indexWith pending).shown slot
          word.shown } := by
  simp only [indexWith, setWord, shown_set]

theorem indexWith_setWord_same (same : word.shown = (game.words slot).shown) :
    (game.setWord slot word).indexWith pending = game.indexWith pending := by
  rw [indexWith_setWord, same]
  simp only [indexWith, Function.update_eq_self]

theorem indexWith_removeActive (wellFormed : game.activeWords.WellFormed) :
    (game.removeActive slot).indexWith pending =
      { game.indexWith pending with
        stored := (game.indexWith pending).stored \
          {(game.words slot).text.toCString} } := by
  have stored : {word | (game.removeActive slot).activeWords.Stores word} =
      {word | game.activeWords.Stores word} \
        {(game.words slot).text.toCString} := by
    ext word
    exact ActiveWordTable.stores_remove wellFormed
  simp only [indexWith, stored]
  rfl

/-! ## Steps of the index -/

private theorem index_withdraw
    (active : (game.words slot).active = true) (gone : word.active = false)
    (sameText : word.text = (game.words slot).text) :
    IndexStep (game.indexWith .settled)
      ((game.setWord slot word).indexWith
        (.erasing ((game.setWord slot word).words slot).text.toCString)) := by
  have text : ((game.setWord slot word).words slot).text =
      (game.words slot).text := by
    rw [setWord_words_same, sameText]
  rw [text, indexWith_setWord, shown_of_inactive gone]
  exact .single (.withdraw slot _ rfl (shown_of_active active))

/-- The word is already gone, and its entry is erased anyway. -/
private theorem index_discard
    (inactive : (game.words slot).active = false) (gone : word.active = false)
    (sameText : word.text = (game.words slot).text)
    (alone : ∀ other, (game.words other).active = true →
      (game.words other).text ≠ (game.words slot).text) :
    IndexStep (game.indexWith .settled)
      ((game.setWord slot word).indexWith
        (.erasing ((game.setWord slot word).words slot).text.toCString)) := by
  have text : ((game.setWord slot word).words slot).text =
      (game.words slot).text := by
    rw [setWord_words_same, sameText]
  have same : word.shown = (game.words slot).shown := by
    rw [shown_of_inactive gone, shown_of_inactive inactive]
  rw [text, indexWith_setWord_same same]
  refine .single (.discard _ rfl ?_)
  rintro ⟨other, shows⟩
  simp only [indexWith, Word.shown, Option.ite_none_right_eq_some,
    Option.some.injEq] at shows
  obtain ⟨active, sameText⟩ := shows
  apply alone other active
  exact CharArray.eq_of_bytes_eq (congrArg CString.bytes sameText)

private theorem index_erase (wellFormed : game.activeWords.WellFormed) :
    IndexStep
      (game.indexWith (.erasing (game.words slot).text.toCString))
      ((game.removeActive slot).indexWith .settled) := by
  rw [indexWith_removeActive wellFormed]
  exact .single (.erase _ rfl)

private theorem index_put
    (blank : (game.words slot).active = false) (active : word.active = true)
    (fresh : ¬game.activeWords.Stores word.text.toCString) :
    IndexStep (game.indexWith .settled)
      ((game.setWord slot word).indexWith
        (.entering slot
          ((game.setWord slot word).words slot).text.toCString)) := by
  rw [setWord_words_same, indexWith_setWord, shown_of_active active]
  exact .single (.put slot _ rfl (shown_of_inactive blank) fresh)

private theorem index_enter
    (allocated : Bool) (wellFormed : game.activeWords.WellFormed) :
    IndexStep
      (game.indexWith (.entering slot (game.words slot).text.toCString))
      (indexWith
        { game with
          activeWords := (addActiveWord allocated game.activeWords
            (game.words slot).text.toCString).2 }
        (.entering slot (game.words slot).text.toCString)) := by
  cases allocated with
  | true =>
      have stored : {word | (addActiveWord true game.activeWords
          (game.words slot).text.toCString).2.Stores word} =
          insert (game.words slot).text.toCString
            {word | game.activeWords.Stores word} := by
        ext word
        rw [Set.mem_ofPred_eq, ActiveWordTable.stores_add wellFormed
          (game.words slot).text.fits]
        exact or_comm
      simp only [indexWith, stored]
      exact .single (.enter slot _ rfl)
  | false => rw [ActiveWordTable.add_of_not_allocated]

private theorem index_retract :
    IndexStep
      (game.indexWith (.entering slot (game.words slot).text.toCString))
      ((game.setWord slot (game.words slot).unspawn).indexWith
        (.erasing ((game.setWord slot
          (game.words slot).unspawn).words slot).text.toCString)) := by
  have text : ((game.setWord slot (game.words slot).unspawn).words slot).text =
      (game.words slot).text := by
    rw [setWord_words_same, Word.unspawn]
  rw [text, indexWith_setWord, shown_of_inactive rfl]
  exact .single (.retract slot _ rfl)

/-! ## The main thread -/

private theorem index_chooseTarget :
    IndexStep (game.indexWith .settled)
      (game.chooseTarget.indexWith (game.chooseTarget.pending .main)) := by
  unfold chooseTarget
  split
  · rename_i target found
    exact index_withdraw (findTarget_eq_some found).1 rfl rfl
  · exact .refl

private theorem index_fillSlot
    (pick : CString) (rolls : Rolls)
    (blank : (game.words slot).active = false)
    (fresh : ¬game.activeWords.Stores
      (CharArray.store maxWordLen pick.bytes).toCString) :
    IndexStep (game.indexWith .settled)
      ((game.fillSlot slot pick rolls).indexWith
        ((game.fillSlot slot pick rolls).pending .main)) :=
  index_put blank rfl fresh

private theorem index_createThread
    (created : Bool)
    (stored : created = true →
      game.activeWords.Stores (game.words slot).text.toCString) :
    IndexStep
      (game.indexWith (.entering slot (game.words slot).text.toCString))
      ((game.createThread slot created).indexWith
        ((game.createThread slot created).pending .main)) := by
  cases created with
  | true =>
      have same : (game.createThread slot true).indexWith .settled =
          game.indexWith .settled := 
        indexWith_setWord_same rfl
      have settled : (game.createThread slot true).pending .main =
          .settled :=
        rfl
      rw [settled, same]
      exact .single (.confirm slot _ rfl (stored rfl))
  | false => exact index_retract

private theorem shown_release : word.release.shown = word.shown := by
  unfold Word.release
  split <;> rfl

private theorem shown_requestRemoval :
    word.requestRemoval.shown = word.shown := by
  unfold Word.requestRemoval
  split <;> rfl

private theorem indexWith_requestRemoval
    (game : Game) (pending : Pending (Fin maxWords) CString) :
    indexWith
        { game with words := fun slot => (game.words slot).requestRemoval }
        pending =
      game.indexWith pending := by
  simp only [indexWith, shown_requestRemoval]

/-- A spawn that ends its retry loop finds its text out of the table. -/
def PutsFresh (game after : Game) : Prop :=
  ∀ slot, after.main = .addLock slot →
    ¬game.activeWords.Stores (after.words slot).text.toCString

private theorem index_tryPick
    (tries : Nat) (blank : (game.words slot).active = false)
    (fresh : game.PutsFresh (game.tryPick slot tries calls)) :
    IndexStep (game.indexWith .settled)
      ((game.tryPick slot tries calls).indexWith
        ((game.tryPick slot tries calls).pending .main)) := by
  unfold tryPick at fresh ⊢
  simp only at fresh ⊢
  split
  · rename_i ends
    rw [if_pos ends] at fresh
    have stored := fresh slot rfl
    rw [fillSlot, goto, setWord_words_same] at stored
    exact index_fillSlot _ _ blank stored
  · exact .refl

private theorem index_chooseSlot
    (owned : game.round.Owned) (current : game.main.phase = .playing)
    (fresh : game.PutsFresh (game.chooseSlot calls)) :
    IndexStep (game.indexWith .settled)
      ((game.chooseSlot calls).indexWith
        ((game.chooseSlot calls).pending .main)) := by
  unfold chooseSlot at fresh ⊢
  cases free : freeSlot game.words with
  | none => exact .refl
  | some slot =>
      simp only [free] at fresh ⊢
      have inactive := (owned.unused_of_free current
        (freeSlot_eq_some free)).2
      have blank : (game.words slot).release.active = false := by
        rw [release_threadId (freeSlot_eq_some free)]
        exact inactive
      have same : (game.setWord slot (game.words slot).release).indexWith
          .settled = game.indexWith .settled :=
        indexWith_setWord_same shown_release
      rw [← same]
      apply index_tryPick
      · rw [setWord_words_same]
        exact blank
      · exact fresh

private theorem indexWith_joinFrom (loop : JoinLoop) (start : Nat) :
    (game.joinFrom loop start).indexWith
        ((game.joinFrom loop start).pending .main) =
      game.indexWith .settled := by
  unfold joinFrom
  split <;> rfl

/-- A thread is joined after its word has left the screen. -/
private theorem indexWith_collectSlot
    (owned : game.round.Owned) (calm : game.round.phase ≠ .filled slot)
    (ready : game.finished (.word (game.words slot).threadId) = true) :
    (game.collectSlot slot).indexWith .settled = game.indexWith .settled := by
  have inactive : (game.words slot).active = false := by
    obtain ⟨thread, live, finished⟩ := finished_word_iff.mp ready
    by_contra active
    rw [Bool.not_eq_false] at active
    have falling := owned.falling_of_active active calm
    have exited := round_threads_of_live live
    rw [WordThread.round, finished] at exited
    cases falling.symm.trans exited
  have same : (game.words slot).collect.shown = (game.words slot).shown := by
    rw [shown_of_inactive inactive]
    rfl
  exact indexWith_setWord_same same

private theorem index_mainStep
    (wellFormed : game.activeWords.WellFormed) (owned : game.round.Owned)
    (ready : ∀ loop slot, game.main = .joining loop slot →
      game.finished (.word (game.words slot).threadId) = true)
    (fresh : game.PutsFresh (game.mainStep calls))
    (kept : ∀ slot, game.main = .addUnlock slot → calls.created = true →
      game.activeWords.Stores (game.words slot).text.toCString)
    (uncleared : game.main ≠ .clearLock) :
    IndexStep (game.indexWith (game.pending .main))
      ((game.mainStep calls).indexWith
        ((game.mainStep calls).pending .main)) := by
  have before : game.pending .main = game.main.pending game.words :=
    rfl
  rw [before]
  cases current : game.main with
  | top =>
      simp only [mainStep, current]
      split <;> exact .refl
  | overUnlock =>
      simp only [mainStep, current]
      split <;> exact .refl
  | inputOverUnlock key gameOver =>
      simp only [mainStep, current, handleKey]
      split_ifs <;> exact .refl
  | inputLock =>
      simp only [mainStep, current]
      exact index_chooseTarget
  | inputHashLock target wtype =>
      simp only [mainStep, current]
      exact index_erase wellFormed
  | inputUnlock target =>
      cases target <;> simp only [mainStep, current] <;> exact .refl
  | scoreLock target wtype =>
      cases wtype <;> simp only [mainStep, current] <;> exact .refl
  | spawnCheckUnlock canSpawn =>
      simp only [mainStep, current]
      split <;> exact .refl
  | spawnLock =>
      simp only [mainStep, current] at fresh ⊢
      exact index_chooseSlot owned (congrArg MainPc.phase current) fresh
  | pickUnlock slot tries pick taken =>
      have choosing : game.round.phase = .choosing slot :=
        congrArg MainPc.phase current
      have blank : (game.words slot).active = false :=
        (owned.choosing slot choosing).2
      simp only [mainStep, current] at fresh ⊢
      split
      · rename_i again
        rw [if_pos again] at fresh
        exact index_tryPick _ blank fresh
      · rename_i ends
        rw [if_neg ends] at fresh
        have stored := fresh slot rfl
        rw [fillSlot, goto, setWord_words_same] at stored
        exact index_fillSlot _ _ blank stored
  | addLock slot =>
      simp only [mainStep, current]
      exact index_enter calls.allocated wellFormed
  | addUnlock slot =>
      simp only [mainStep, current]
      exact index_createThread calls.created (kept slot current)
  | undoLock slot =>
      simp only [mainStep, current]
      exact index_erase wellFormed
  | draw last pc =>
      simp only [mainStep, current]
      split
      · exact .refl
      · split_ifs <;> exact .refl
  | requestLock =>
      simp only [mainStep, current]
      have same := indexWith_requestRemoval game .settled
      exact same ▸ .refl
  | joinLock loop =>
      simp only [mainStep, current, indexWith_joinFrom]
      exact .refl
  | joining loop slot =>
      have calm : game.round.phase ≠ .filled slot := by
        rw [round, current]
        intro filled
        cases loop <;> cases filled
      simp only [mainStep, current, indexWith_joinFrom]
      rw [indexWith_collectSlot owned calm (ready loop slot current)]
      exact .refl
  | joinUnlock loop =>
      cases loop <;> simp only [mainStep, current]
      · split <;> exact .refl
      · exact .refl
  | clearLock => exact absurd current uncleared
  | returned score =>
      simp only [mainStep, current, Game.pending]
      exact .refl
  | _ =>
      simp only [mainStep, current]
      exact .refl

/-- Without `words_mutex` the main thread changes neither the screen nor the
table nor the threads. -/
private theorem mainStep_outside
    (unheld : .words ∉ game.main.held)
    (notTaken : game.main.operation game.words ≠ .lock .words)
    (uncleared : game.main ≠ .clearLock) :
    (game.mainStep calls).words = game.words ∧
      (game.mainStep calls).activeWords = game.activeWords ∧
      (game.mainStep calls).threads = game.threads := by
  have within : ∀ pc, game.main = pc → .words ∉ pc.held :=
    fun pc same => same ▸ unheld
  cases current : game.main with
  | top =>
      simp only [mainStep, current]
      exact ⟨rfl, rfl, rfl⟩
  | inputOverUnlock key gameOver =>
      simp only [mainStep, current, handleKey]
      split_ifs <;> exact ⟨rfl, rfl, rfl⟩
  | scoreLock target wtype =>
      cases wtype <;> simp only [mainStep, current] <;> exact ⟨rfl, rfl, rfl⟩
  | spawnCheckUnlock canSpawn =>
      simp only [mainStep, current]
      split <;> exact ⟨rfl, rfl, rfl⟩
  | draw last pc =>
      simp only [mainStep, current]
      split <;> exact ⟨rfl, rfl, rfl⟩
  | clearLock => exact absurd current uncleared
  | inputLock => exact absurd (current ▸ rfl) notTaken
  | spawnLock => exact absurd (current ▸ rfl) notTaken
  | requestLock => exact absurd (current ▸ rfl) notTaken
  | joinLock loop => exact absurd (current ▸ rfl) notTaken
  | inputHashLock target wtype =>
      exact absurd (Finset.mem_singleton_self _) (within _ current)
  | inputUnlock target =>
      exact absurd (Finset.mem_singleton_self _) (within _ current)
  | pickUnlock slot tries pick taken =>
      exact absurd (by simp [MainPc.held]) (within _ current)
  | addLock slot =>
      exact absurd (Finset.mem_singleton_self _) (within _ current)
  | addUnlock slot =>
      exact absurd (by simp [MainPc.held]) (within _ current)
  | undoLock slot =>
      exact absurd (Finset.mem_singleton_self _) (within _ current)
  | joining loop slot =>
      exact absurd (Finset.mem_singleton_self _) (within _ current)
  | joinUnlock loop =>
      exact absurd (Finset.mem_singleton_self _) (within _ current)
  | returned score =>
      simp only [mainStep, current]
      exact ⟨trivial, trivial, trivial⟩
  | _ =>
      simp only [mainStep, current]
      exact ⟨rfl, rfl, rfl⟩

/-! ## The word threads -/

private theorem pending_setThread :
    (game.setThread threadId thread).pending (.word threadId) =
      thread.pending game.words := by
  simp [Game.pending, setThread]

private theorem index_dropLock :
    IndexStep (game.indexWith .settled)
      (((game.setWord slot
        ((game.words slot).drop game.area.height))).indexWith
          (WordThread.pending
            (game.setWord slot
              ((game.words slot).drop game.area.height)).words
            ⟨slot,
              if (game.words slot).active ∧
                  ¬((game.words slot).drop game.area.height).active then
                .landHashLock
              else .dropUnlock⟩)) := by
  split
  · rename_i landed
    exact index_withdraw landed.1 (Bool.not_eq_true _ ▸ landed.2)
      (drop_text ..)
  · rename_i stays
    have same : ((game.words slot).drop game.area.height).shown =
        (game.words slot).shown := by
      rw [Word.shown, Word.shown, active_drop_of_stays stays, drop_text]
    have sameIndex : (game.setWord slot
        ((game.words slot).drop game.area.height)).indexWith .settled =
          game.indexWith .settled :=
      indexWith_setWord_same same
    exact sameIndex ▸ .refl

private theorem index_exitLock
    (alone : (game.words slot).active = false →
      ∀ other, (game.words other).active = true →
        (game.words other).text ≠ (game.words slot).text) :
    IndexStep (game.indexWith .settled)
      ((game.setWord slot (game.words slot).leave).indexWith
        (WordThread.pending (game.setWord slot (game.words slot).leave).words
          ⟨slot, .exitHashLock⟩)) := by
  cases active : (game.words slot).active with
  | true => exact index_withdraw active rfl rfl
  | false => exact index_discard active rfl rfl (alone active)

private theorem index_wordStep
    (wellFormed : game.activeWords.WellFormed)
    (live : game.threads threadId = some thread) (dropDue : Bool)
    (alone : thread.pc = .exitLock →
      (game.words thread.slot).active = false →
        ∀ other, (game.words other).active = true →
          (game.words other).text ≠ (game.words thread.slot).text) :
    IndexStep (game.indexWith (game.pending (.word threadId)))
      ((game.wordStep threadId thread dropDue).indexWith
        ((game.wordStep threadId thread dropDue).pending
          (.word threadId))) := by
  have before : game.pending (.word threadId) = thread.pending game.words := by
    simp only [Game.pending, live]
  rw [before]
  obtain ⟨slot, pc⟩ := thread
  cases pc with
  | top =>
      simp only [wordStep, pending_setThread]
      split <;> exact .refl
  | overUnlock active gameOver =>
      simp only [wordStep, pending_setThread]
      split_ifs <;> exact .refl
  | intervalUnlock =>
      simp only [wordStep, pending_setThread]
      split <;> exact .refl
  | dropLock =>
      simp only [wordStep, pending_setThread]
      exact index_dropLock
  | landHashLock =>
      simp only [wordStep, pending_setThread]
      exact index_erase wellFormed
  | landStateLock =>
      simp only [wordStep, pending_setThread]
      unfold landWord
      split <;> exact .refl
  | exitLock =>
      simp only [wordStep, pending_setThread]
      exact index_exitLock (alone rfl)
  | exitHashLock =>
      simp only [wordStep, pending_setThread]
      exact index_erase wellFormed
  | finished =>
      simp only [wordStep, Game.pending, live]
      exact .refl
  | joined =>
      simp only [wordStep, Game.pending, live]
      exact .refl
  | _ =>
      simp only [wordStep, pending_setThread]
      exact .refl

/-- Without `words_mutex` a word thread changes neither the screen nor the
table. -/
private theorem wordStep_outside
    (unheld : .words ∉ thread.pc.held)
    (notTaken : thread.pc.operation ≠ .lock .words) (dropDue : Bool) :
    (game.wordStep threadId thread dropDue).words = game.words ∧
      (game.wordStep threadId thread dropDue).activeWords =
        game.activeWords := by
  obtain ⟨slot, pc⟩ := thread
  cases pc with
  | dropLock => exact absurd rfl notTaken
  | exitLock => exact absurd rfl notTaken
  | landHashLock => exact absurd (Finset.mem_singleton_self _) unheld
  | landStateLock => exact absurd (Finset.mem_singleton_self _) unheld
  | exitHashLock => exact absurd (Finset.mem_singleton_self _) unheld
  | _ => exact ⟨rfl, rfl⟩

/-! ## The index of a step -/

private theorem pending_of_unheld
    {party : Party} (unheld : .words ∉ game.held party) :
    game.pending party = .settled := by
  cases party with
  | main =>
      simp only [Game.held] at unheld
      simp only [Game.pending]
      cases current : game.main with
      | inputHashLock target wtype =>
          rw [current] at unheld
          exact absurd (Finset.mem_singleton_self _) unheld
      | addLock slot =>
          rw [current] at unheld
          exact absurd (Finset.mem_singleton_self _) unheld
      | addUnlock slot =>
          rw [current] at unheld
          exact absurd (by simp [MainPc.held]) unheld
      | undoLock slot =>
          rw [current] at unheld
          exact absurd (Finset.mem_singleton_self _) unheld
      | _ => rfl
  | word threadId =>
      simp only [Game.held] at unheld
      simp only [Game.pending]
      cases live : game.threads threadId with
      | none => rfl
      | some thread =>
          obtain ⟨slot, pc⟩ := thread
          simp only [live] at unheld
          cases pc with
          | landHashLock => exact absurd (Finset.mem_singleton_self _) unheld
          | exitHashLock => exact absurd (Finset.mem_singleton_self _) unheld
          | _ => rfl

/-- Unless another party holds `words_mutex`, the pending entry is one's
own. -/
private theorem screenIndex_eq
    {party : Party} (locksHeld : game.LocksHeld)
    (owner : game.owners .words = some party ∨ game.owners .words = none) :
    game.screenIndex = game.indexWith (game.pending party) := by
  rcases owner with mine | free
  · rw [screenIndex, mine]
  · have unheld : .words ∉ game.held party := by
      intro holds
      rw [(locksHeld .words party).mpr holds] at free
      cases free
    rw [screenIndex, free, pending_of_unheld unheld]

private theorem screenIndex_of_outside
    {party : Party}
    (sameOwner : next.owners .words = game.owners .words)
    (other : game.owners .words ≠ some party)
    (sameWords : next.words = game.words)
    (sameTable : next.activeWords = game.activeWords)
    (samePending : ∀ owner, owner ≠ party →
      next.pending owner = game.pending owner) :
    next.screenIndex = game.screenIndex := by
  have sameEntry : (match next.owners .words with
      | some owner => next.pending owner
      | none => .settled) =
      (match game.owners .words with
      | some owner => game.pending owner
      | none => .settled) := by
    rw [sameOwner]
    cases owner : game.owners .words with
    | none => rfl
    | some owner =>
        apply samePending
        rintro rfl
        exact other owner
  rw [screenIndex, screenIndex, sameEntry, indexWith, indexWith, sameWords,
    sameTable]

theorem main_indexStep
    (owned : game.round.Owned) (locksHeld : game.LocksHeld)
    (wellFormed : game.activeWords.WellFormed)
    (fresh : game.PutsFresh (game.mainStep calls))
    (kept : ∀ slot, game.main = .addUnlock slot → calls.created = true →
      game.activeWords.Stores (game.words slot).text.toCString)
    (uncleared : game.main ≠ .clearLock)
    (stepped : step game (.main calls) = some next) :
    IndexStep game.screenIndex next.screenIndex := by
  have nextHeld := step_locksHeld owned locksHeld stepped
  have ready := finished_of_joining stepped
  simp only [step, Option.map_eq_some_iff] at stepped
  obtain ⟨owners, performed, rfl⟩ := stepped
  by_cases within : game.owners .words = some .main ∨
      game.operation .main = .lock .words
  · have before : game.owners .words = some .main ∨
        game.owners .words = none := by
      rcases within with mine | takes
      · exact .inl mine
      · rw [takes] at performed
        exact .inr (Locks.free_of_lock performed)
    have after := Locks.owner_of_perform performed within
    rw [screenIndex_eq locksHeld before, screenIndex_eq nextHeld after]
    exact index_mainStep wellFormed owned ready fresh kept uncleared
  · rw [not_or] at within
    obtain ⟨other, notTaken⟩ := within
    have unheld : .words ∉ game.main.held :=
      fun holds => other ((locksHeld .words .main).mpr holds)
    obtain ⟨sameWords, sameTable, sameThreads⟩ :=
      mainStep_outside unheld notTaken uncleared
    have same : ({ game.mainStep calls with owners := owners } :
        Game).screenIndex = game.screenIndex := by
      refine screenIndex_of_outside
        (Locks.sameOwner_of_perform performed other notTaken) other sameWords
        sameTable ?_
      intro owner differs
      cases owner with
      | main => exact absurd rfl differs
      | word threadId =>
          simp only [Game.pending, sameThreads, sameWords]
    exact same ▸ .refl

theorem word_indexStep
    (owned : game.round.Owned) (locksHeld : game.LocksHeld)
    (wellFormed : game.activeWords.WellFormed) {dropDue : Bool}
    (alone : ∀ thread, game.threads threadId = some thread →
      thread.pc = .exitLock → (game.words thread.slot).active = false →
        ∀ other, (game.words other).active = true →
          (game.words other).text ≠ (game.words thread.slot).text)
    (stepped : step game (.word threadId dropDue) = some next) :
    IndexStep game.screenIndex next.screenIndex := by
  have nextHeld := step_locksHeld owned locksHeld stepped
  simp only [step, Option.bind_eq_some_iff, Option.map_eq_some_iff] at stepped
  obtain ⟨thread, live, owners, performed, rfl⟩ := stepped
  by_cases within : game.owners .words = some (.word threadId) ∨
      thread.pc.operation = .lock .words
  · have before : game.owners .words = some (.word threadId) ∨
        game.owners .words = none := by
      rcases within with mine | takes
      · exact .inl mine
      · rw [takes] at performed
        exact .inr (Locks.free_of_lock performed)
    have after := Locks.owner_of_perform performed within
    rw [screenIndex_eq locksHeld before, screenIndex_eq nextHeld after]
    exact index_wordStep wellFormed live dropDue (alone thread live)
  · rw [not_or] at within
    obtain ⟨other, notTaken⟩ := within
    have unheld : .words ∉ thread.pc.held := by
      intro holds
      apply other
      apply (locksHeld .words (.word threadId)).mpr
      simpa only [Game.held, live] using holds
    obtain ⟨sameWords, sameTable⟩ :=
      wordStep_outside unheld notTaken dropDue
    obtain ⟨pc, threads, _⟩ := wordStep_thread live dropDue
    have sameMain := (wordStep_main game threadId thread dropDue).1
    have same : ({ game.wordStep threadId thread dropDue with
        owners := owners } : Game).screenIndex = game.screenIndex := by
      refine screenIndex_of_outside
        (Locks.sameOwner_of_perform performed other notTaken) other sameWords
        sameTable ?_
      intro owner differs
      cases owner with
      | main => simp only [Game.pending, sameMain, sameWords]
      | word otherId =>
          have elsewhere : otherId ≠ threadId :=
            fun same => differs (same ▸ rfl)
          simp only [Game.pending, threads, sameWords,
            Function.update_of_ne elsewhere]
    exact same ▸ .refl

end Game

end RainTyping
