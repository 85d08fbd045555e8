import RainTyping.Client.GameLogic

/-!
# One call of `spawn_word`

`spawn_word` as one function, without other threads in between.  Its retry
loop searches the table for a word of the list, which has up to 31 bytes, but
the slot and the table store at most 29 of them.
-/

namespace RainTyping

/-- The data that `spawn_word` works on. -/
structure SpawnState where
  /-- `g_word_manager.words`. -/
  wordList : List CString
  areaWidth : Nat
  words : Words
  activeWords : ActiveWordTable

/-- What the calls in `spawn_word` answer. -/
structure SpawnCalls where
  /-- `rand`, in the rounds of the retry loop. -/
  picks : Nat → Nat
  rolls : Rolls
  allocated : Bool
  /-- The identifier of the new thread, unless `pthread_create` fails. -/
  created : Option Nat

/-- The first word is picked, and no call fails. -/
def SpawnCalls.succeeding : SpawnCalls where
  picks := fun _ => 0
  rolls := ⟨0, 99, 99⟩
  allocated := true
  created := some 1

/-- How the retry loop ends. -/
structure Retry where
  pick : CString
  ranOut : Bool
  deriving DecidableEq

namespace SpawnState

def pickWord (state : SpawnState) (roll : Nat) : CString :=
  state.wordList.getD (roll % state.wordList.length) .empty

/-- The retry loop, while it may search the table so many times. -/
def retry (state : SpawnState) : Nat → (Nat → Nat) → Retry
  | 0, picks => ⟨state.pickWord (picks 0), true⟩
  | left + 1, picks =>
      let pick := state.pickWord (picks 0)
      if isWordInActiveTable state.activeWords pick then
        state.retry left fun round => picks (round + 1)
      else ⟨pick, false⟩

def chosen (state : SpawnState) (calls : SpawnCalls) : Retry :=
  state.retry state.wordList.length calls.picks

/-- A slot is filled, and its text is added to the table. -/
def fillSlot (state : SpawnState) (slot : Fin maxWords) (pick : CString)
    (calls : SpawnCalls) : SpawnState :=
  let word :=
    (state.words slot).release.fill state.areaWidth pick calls.rolls
  { state with
    words := state.words.set slot word
    activeWords := (addActiveWord calls.allocated state.activeWords
      word.text.toCString).2 }

/-- `pthread_create` and what follows it. -/
def createThread (state : SpawnState) (slot : Fin maxWords)
    (created : Option Nat) : SpawnState :=
  let word := state.words slot
  match created with
  | some threadId =>
      { state with words := state.words.set slot (word.start threadId) }
  | none =>
      { state with
        words := state.words.set slot word.unspawn
        activeWords :=
          (removeActiveWord state.activeWords word.text.toCString).2 }

def spawnWord (state : SpawnState) (calls : SpawnCalls) : SpawnState :=
  if state.wordList = [] then state
  else
    match freeSlot state.words with
    | some slot =>
        (state.fillSlot slot (state.chosen calls).pick calls).createThread
          slot calls.created
    | none => state

/-! ## What the check is for -/

def OnScreen (state : SpawnState) (word : CString) : Prop :=
  ∃ slot, (state.words slot).active = true ∧
    (state.words slot).text.toCString = word

/-- The table holds exactly the texts of the active slots, each once and in the
chain of its hash. -/
structure Mirrors (state : SpawnState) : Prop where
  wellFormed : state.activeWords.WellFormed
  stored : ∀ word, state.activeWords.Stores word ↔ state.OnScreen word

/-- What the check of `spawn_word` is for: the text of the new slot was not on
the screen, and the table mirrors the screen again. -/
structure SpawnsApart (state : SpawnState) (calls : SpawnCalls)
    (slot : Fin maxWords) : Prop where
  apart : ∀ other, (state.words other).active = true →
    (state.words other).text ≠ ((state.spawnWord calls).words slot).text
  mirrors : (state.spawnWord calls).Mirrors

/-- The first word that is not in the table comes in this round. -/
structure EndsAt (state : SpawnState) (picks : Nat → Nat) (round : Nat) :
    Prop where
  within : round < state.wordList.length
  absent :
    isWordInActiveTable state.activeWords (state.pickWord (picks round)) =
      false
  present : ∀ earlier < round,
    isWordInActiveTable state.activeWords (state.pickWord (picks earlier)) =
      true

/-- The part of the word that a slot stores. -/
abbrev cut (word : CString) : CharArray maxWordLen :=
  .store maxWordLen word.bytes

/-- The word fits a slot, or the part of it that a slot stores is not in the
table either. -/
def CutIsNew (state : SpawnState) (word : CString) : Prop :=
  word.strlen < maxWordLen ∨
    isWordInActiveTable state.activeWords (cut word).toCString = false

def ShownElsewhere (state : SpawnState) (slot : Fin maxWords)
    (word : CString) : Prop :=
  ∃ other, other ≠ slot ∧ (state.words other).active = true ∧
    (state.words other).text.toCString = word

/-- No text leaves the screen when the slot is taken. -/
def Replaceable (state : SpawnState) (slot : Fin maxWords) : Prop :=
  (state.words slot).active = true →
    state.ShownElsewhere slot (state.words slot).text.toCString

variable {state : SpawnState} {calls : SpawnCalls} {slot : Fin maxWords}
  {picks : Nat → Nat} {word : CString} {left round : Nat}

/-! ## The retry loop -/

/-- The loop ends with the first word that is not in the table, if that comes
before the tries run out. -/
theorem retry_eq_iff :
    state.retry left picks = ⟨word, false⟩ ↔
      ∃ round < left, state.pickWord (picks round) = word ∧
        isWordInActiveTable state.activeWords word = false ∧
          ∀ earlier < round, isWordInActiveTable state.activeWords
            (state.pickWord (picks earlier)) = true := by
  induction left generalizing picks with
  | zero => simp [retry]
  | succ left induction =>
      simp only [retry]
      cases first : isWordInActiveTable state.activeWords
          (state.pickWord (picks 0)) with
      | true =>
          rw [if_pos rfl, induction]
          constructor
          · rintro ⟨round, within, same, absent, present⟩
            refine ⟨round + 1, Nat.succ_lt_succ within, same, absent, ?_⟩
            intro earlier before
            cases earlier with
            | zero => exact first
            | succ earlier =>
                exact present earlier (Nat.lt_of_succ_lt_succ before)
          · rintro ⟨round, within, same, absent, present⟩
            cases round with
            | zero =>
                rw [← same, first] at absent
                cases absent
            | succ round =>
                refine ⟨round, Nat.lt_of_succ_lt_succ within, same, absent, ?_⟩
                intro earlier before
                exact present (earlier + 1) (Nat.succ_lt_succ before)
      | false =>
          rw [if_neg Bool.false_ne_true, Retry.mk.injEq]
          constructor
          · rintro ⟨rfl, _⟩
            exact ⟨0, Nat.succ_pos left, rfl, first, nofun⟩
          · rintro ⟨round, _, same, _, present⟩
            cases round with
            | zero => exact ⟨same, rfl⟩
            | succ round =>
                have again := present 0 (Nat.succ_pos round)
                rw [first] at again
                cases again

/-- The loop does not look at the slots. -/
theorem retry_of_words (words : Words) :
    retry { state with words := words } left picks =
      state.retry left picks := by
  induction left generalizing picks with
  | zero => rfl
  | succ left induction =>
      simp only [retry, induction]
      rfl

theorem chosen_of_words (words : Words) :
    chosen { state with words := words } calls = state.chosen calls :=
  retry_of_words words

/-- The loop ends because its pick is not in the table exactly when some round
comes upon such a word. -/
theorem ranOut_eq_false_iff :
    (state.chosen calls).ranOut = false ↔
      ∃ round, state.EndsAt calls.picks round := by
  constructor
  · intro found
    have ended : state.chosen calls = ⟨(state.chosen calls).pick, false⟩ := by
      rw [← found]
    obtain ⟨round, within, same, absent, present⟩ := retry_eq_iff.mp ended
    exact ⟨round, within, same ▸ absent, present⟩
  · rintro ⟨round, within, absent, present⟩
    have ended : state.chosen calls =
        ⟨state.pickWord (calls.picks round), false⟩ :=
      retry_eq_iff.mpr ⟨round, within, rfl, absent, present⟩
    rw [ended]

theorem EndsAt.unique
    {other : Nat} (ends : state.EndsAt picks round)
    (otherEnds : state.EndsAt picks other) : round = other := by
  rcases Nat.lt_trichotomy round other with before | same | behind
  · have present := otherEnds.present round before
    rw [ends.absent] at present
    cases present
  · exact same
  · have present := ends.present other behind
    rw [otherEnds.absent] at present
    cases present

theorem EndsAt.chosen (ends : state.EndsAt calls.picks round) :
    state.chosen calls = ⟨state.pickWord (calls.picks round), false⟩ :=
  retry_eq_iff.mpr ⟨round, ends.within, rfl, ends.absent, ends.present⟩

/-! ## The table -/

/-- A word that is too long for a slot is never found. -/
theorem Mirrors.search_of_long
    (mirrors : state.Mirrors) (long : maxWordLen ≤ word.strlen) :
    isWordInActiveTable state.activeWords word = false := by
  rw [← Bool.not_eq_true,
    ActiveWordTable.isWordInActiveTable_iff mirrors.wellFormed]
  rintro ⟨index, node, _, rfl⟩
  exact absurd node.fits (Nat.not_lt.mpr long)

/-- Of a word that is not in the table, only the cut part may be. -/
theorem cutIsNew_iff
    (absent : isWordInActiveTable state.activeWords word = false) :
    state.CutIsNew word ↔
      isWordInActiveTable state.activeWords (cut word).toCString = false := by
  constructor
  · rintro (short | fresh)
    · have whole : (cut word).toCString = word :=
        CString.ext (CharArray.store_of_fits short)
      rw [whole]
      exact absent
    · exact fresh
  · exact .inr

/-! ## The screen -/

theorem onScreen_iff (slot : Fin maxWords) :
    state.OnScreen word ↔
      ((state.words slot).active = true ∧
          (state.words slot).text.toCString = word) ∨
        state.ShownElsewhere slot word := by
  constructor
  · rintro ⟨other, active, same⟩
    by_cases isSlot : other = slot
    · exact .inl (isSlot ▸ ⟨active, same⟩)
    · exact .inr ⟨other, isSlot, active, same⟩
  · rintro (⟨active, same⟩ | ⟨other, _, active, same⟩)
    · exact ⟨slot, active, same⟩
    · exact ⟨other, active, same⟩

/-- The other slots alone show what all of them show. -/
theorem replaceable_iff :
    state.Replaceable slot ↔
      ∀ word, state.OnScreen word ↔ state.ShownElsewhere slot word := by
  constructor
  · intro replaceable word
    rw [onScreen_iff slot, or_iff_right_iff_imp]
    rintro ⟨active, rfl⟩
    exact replaceable active
  · intro same active
    exact (same _).mp ⟨slot, active, rfl⟩

theorem onScreen_of_set
    {next : SpawnState} {slotWord : Word}
    (set : next.words = state.words.set slot slotWord) :
    next.OnScreen word ↔
      (slotWord.active = true ∧ slotWord.text.toCString = word) ∨
        state.ShownElsewhere slot word := by
  rw [onScreen_iff slot, set]
  apply or_congr
  · rw [Words.set_same]
  · apply exists_congr
    intro other
    apply and_congr_right
    intro elsewhere
    rw [set, Words.set_of_ne _ _ elsewhere]

/-! ## The spawn -/

theorem spawnWord_of_free
    (listed : state.wordList ≠ []) (free : freeSlot state.words = some slot) :
    state.spawnWord calls =
      (state.fillSlot slot (state.chosen calls).pick calls).createThread slot
        calls.created := by
  rw [spawnWord, if_neg listed, free]

private theorem spawnWord_eq
    (free : freeSlot state.words = some slot)
    (found : (state.chosen calls).ranOut = false) :
    state.spawnWord calls =
      (state.fillSlot slot (state.chosen calls).pick calls).createThread slot
        calls.created := by
  apply spawnWord_of_free _ free
  intro empty
  rw [chosen, empty] at found
  cases found

/-- Nothing else changes when the slot is released first. -/
theorem fillSlot_of_released {pick : CString} :
    fillSlot
        { state with
          words := state.words.set slot (state.words slot).release }
        slot pick calls =
      state.fillSlot slot pick calls := by
  simp only [fillSlot, Words.set_same, release_release]
  simp only [Words.set, Function.update_idem]

/-- The new word has the cut text, and is active if it has a thread. -/
theorem spawnWord_words
    (free : freeSlot state.words = some slot)
    (found : (state.chosen calls).ranOut = false) :
    ∃ slotWord : Word,
      (state.spawnWord calls).words = state.words.set slot slotWord ∧
        slotWord.text = cut (state.chosen calls).pick ∧
        slotWord.active = calls.created.isSome := by
  rw [spawnWord_eq free found]
  cases calls.created with
  | some threadId =>
      refine ⟨_, Function.update_idem _ _ _, ?_, ?_⟩
      · simp only [fillSlot, Words.set_same, Word.start, Word.fill]
      · simp only [fillSlot, Words.set_same, Word.start, Word.fill,
          Option.isSome_some]
  | none =>
      refine ⟨_, Function.update_idem _ _ _, ?_, ?_⟩
      · simp only [fillSlot, Words.set_same, Word.unspawn, Word.fill]
      · simp only [fillSlot, Words.set_same, Word.unspawn, Word.fill,
          Option.isSome_none]

private theorem stores_fillSlot
    (wellFormed : state.activeWords.WellFormed) (pick : CString) :
    (state.fillSlot slot pick calls).activeWords.Stores word ↔
      state.activeWords.Stores word ∨
        calls.allocated = true ∧ word = (cut pick).toCString := by
  have text : ((state.words slot).release.fill state.areaWidth pick
      calls.rolls).text = cut pick := rfl
  simp only [fillSlot, text]
  cases calls.allocated with
  | true =>
      rw [ActiveWordTable.stores_add wellFormed (CharArray.fits _)]
      simp
  | false =>
      rw [ActiveWordTable.add_of_not_allocated]
      simp

private theorem wellFormed_fillSlot
    (wellFormed : state.activeWords.WellFormed) (pick : CString) :
    (state.fillSlot slot pick calls).activeWords.WellFormed :=
  ActiveWordTable.wellFormed_add _ wellFormed (CharArray.fits _)

/-- A text that was not in the table is added for a slot that gets its
thread. -/
theorem spawnWord_stores
    (wellFormed : state.activeWords.WellFormed)
    (free : freeSlot state.words = some slot)
    (found : (state.chosen calls).ranOut = false)
    (fresh : ¬state.activeWords.Stores
      (cut (state.chosen calls).pick).toCString)
    (word : CString) :
    (state.spawnWord calls).activeWords.Stores word ↔
      state.activeWords.Stores word ∨
        (calls.created.isSome = true ∧ calls.allocated = true) ∧
          word = (cut (state.chosen calls).pick).toCString := by
  rw [spawnWord_eq free found]
  cases calls.created with
  | some threadId =>
      simp only [createThread, stores_fillSlot wellFormed,
        Option.isSome_some, true_and]
  | none =>
      have text : ((state.fillSlot slot (state.chosen calls).pick
          calls).words slot).text = cut (state.chosen calls).pick := by
        simp only [fillSlot, Words.set_same, Word.fill]
      simp only [createThread, text, Option.isSome_none, Bool.false_eq_true,
        false_and, or_false]
      rw [ActiveWordTable.stores_remove (wellFormed_fillSlot wellFormed _),
        stores_fillSlot wellFormed]
      constructor
      · rintro ⟨stored | ⟨_, same⟩, differs⟩
        · exact stored
        · exact absurd same differs
      · intro stored
        refine ⟨.inl stored, ?_⟩
        rintro rfl
        exact fresh stored

private theorem wellFormed_spawnWord
    (wellFormed : state.activeWords.WellFormed) :
    (state.spawnWord calls).activeWords.WellFormed := by
  unfold spawnWord
  split
  · exact wellFormed
  · split
    · rename_i slot _
      have added : (state.fillSlot slot (state.chosen calls).pick
          calls).activeWords.WellFormed :=
        wellFormed_fillSlot wellFormed _
      cases calls.created with
      | some threadId => exact added
      | none => exact ActiveWordTable.wellFormed_remove added
    · exact wellFormed

/-- With a new text the table mirrors the screen again when the text has got
its entry and has replaced no other one. -/
theorem mirrors_spawnWord_iff
    (mirrors : state.Mirrors) (free : freeSlot state.words = some slot)
    (found : (state.chosen calls).ranOut = false)
    (fresh : ¬state.activeWords.Stores
      (cut (state.chosen calls).pick).toCString) :
    (state.spawnWord calls).Mirrors ↔
      (calls.created.isSome = true → calls.allocated = true) ∧
        state.Replaceable slot := by
  obtain ⟨slotWord, set, text, active⟩ := spawnWord_words free found
  have gone : ¬state.OnScreen (cut (state.chosen calls).pick).toCString :=
    fun shown => fresh ((mirrors.stored _).mpr shown)
  have screen : ∀ word, (state.spawnWord calls).OnScreen word ↔
      (calls.created.isSome = true ∧
        (cut (state.chosen calls).pick).toCString = word) ∨
          state.ShownElsewhere slot word := by
    intro word
    rw [onScreen_of_set set, text, active]
  have table := spawnWord_stores mirrors.wellFormed free found fresh
  rw [replaceable_iff]
  constructor
  · intro after
    constructor
    · intro created
      have shown := (screen _).mpr (.inl ⟨created, rfl⟩)
      rcases (table _).mp ((after.stored _).mpr shown) with before | entered
      · exact absurd before fresh
      · exact entered.1.2
    · intro word
      refine ⟨?_, fun elsewhere => (onScreen_iff slot).mpr (.inr elsewhere)⟩
      intro shown
      have stored := (table word).mpr (.inl ((mirrors.stored word).mpr shown))
      rcases (screen word).mp ((after.stored word).mp stored) with
        ⟨_, rfl⟩ | elsewhere
      · exact absurd shown gone
      · exact elsewhere
  · rintro ⟨entered, same⟩
    refine ⟨wellFormed_spawnWord mirrors.wellFormed, ?_⟩
    intro word
    rw [table, screen, mirrors.stored, same, or_comm]
    apply or_congr_left
    constructor
    · rintro ⟨⟨created, _⟩, rfl⟩
      exact ⟨created, rfl⟩
    · rintro ⟨created, rfl⟩
      exact ⟨⟨created, entered created⟩, rfl⟩

/-- The text of the new slot was not on the screen when it was not in the
table. -/
theorem apart_iff
    (mirrors : state.Mirrors) (free : freeSlot state.words = some slot)
    (found : (state.chosen calls).ranOut = false) :
    (∀ other, (state.words other).active = true →
      (state.words other).text ≠ ((state.spawnWord calls).words slot).text) ↔
      ¬state.activeWords.Stores (cut (state.chosen calls).pick).toCString := by
  obtain ⟨slotWord, set, text, _⟩ := spawnWord_words free found
  rw [set, Words.set_same, text, mirrors.stored]
  constructor
  · rintro apart ⟨other, active, same⟩
    apply apart other active
    exact CharArray.eq_of_bytes_eq (congrArg CString.bytes same)
  · intro gone other active same
    exact gone ⟨other, active, congrArg CharArray.toCString same⟩

theorem spawnsApart_iff_absent
    (mirrors : state.Mirrors) (free : freeSlot state.words = some slot)
    (found : (state.chosen calls).ranOut = false) :
    state.SpawnsApart calls slot ↔
      ¬state.activeWords.Stores (cut (state.chosen calls).pick).toCString ∧
        (calls.created.isSome = true → calls.allocated = true) ∧
          state.Replaceable slot := by
  constructor
  · rintro ⟨apart, after⟩
    have absent := (apart_iff mirrors free found).mp apart
    exact ⟨absent, (mirrors_spawnWord_iff mirrors free found absent).mp after⟩
  · rintro ⟨absent, kept⟩
    exact ⟨(apart_iff mirrors free found).mpr absent,
      (mirrors_spawnWord_iff mirrors free found absent).mpr kept⟩

/-- The condition on the cut text in terms of the random picks. -/
theorem absent_iff
    (mirrors : state.Mirrors) (found : (state.chosen calls).ranOut = false) :
    ¬state.activeWords.Stores (cut (state.chosen calls).pick).toCString ↔
      ∀ round, state.EndsAt calls.picks round →
        state.CutIsNew (state.pickWord (calls.picks round)) := by
  obtain ⟨round, ends⟩ := ranOut_eq_false_iff.mp found
  rw [ends.chosen,
    ← ActiveWordTable.isWordInActiveTable_iff mirrors.wellFormed,
    Bool.not_eq_true, ← cutIsNew_iff ends.absent]
  constructor
  · intro new other otherEnds
    rw [otherEnds.unique ends]
    exact new
  · intro all
    exact all round ends

/-- The duplicate check of a spawn whose retry loop finds a word is effective
exactly when the word is not cut to a text of the table, that text gets its
entry, and the slot was not the only one to show another text. -/
theorem spawnsApart_iff
    (state : SpawnState) (calls : SpawnCalls) (slot : Fin maxWords)
    (mirrors : state.Mirrors) (free : freeSlot state.words = some slot)
    (found : (state.chosen calls).ranOut = false) :
    state.SpawnsApart calls slot ↔
      (∀ round, state.EndsAt calls.picks round →
          state.CutIsNew (state.pickWord (calls.picks round))) ∧
        (calls.created.isSome = true → calls.allocated = true) ∧
          state.Replaceable slot := by
  rw [← absent_iff mirrors found]
  exact spawnsApart_iff_absent mirrors free found

/-- A game with these words before its first spawn. -/
def blank (wordList : List CString) : SpawnState where
  wordList := wordList
  areaWidth := smallArea.width
  words := fun _ => .zero
  activeWords := initActiveWordTable

theorem mirrors_blank (wordList : List CString) :
    (blank wordList).Mirrors where
  wellFormed := ActiveWordTable.wellFormed_init
  stored := by
    intro word
    apply iff_of_false ActiveWordTable.not_stores_init
    rintro ⟨slot, active, _⟩
    cases active

theorem free_blank (wordList : List CString) :
    freeSlot (blank wordList).words = some 0 :=
  rfl

/-- The state behind the first spawn of a game with two words. -/
def oneOnScreen : SpawnState :=
  (blank [.ofBuffer (text "a"), .ofBuffer (text "b")]).spawnWord .succeeding

/-- The first pick is on the screen, the second one is not. -/
def secondPick : SpawnCalls :=
  { SpawnCalls.succeeding with picks := id, created := some 2 }

private theorem oneOnScreen_mirrors : oneOnScreen.Mirrors := by
  apply (mirrors_spawnWord_iff (mirrors_blank _) (free_blank _) _ _).mpr
  · exact ⟨fun _ => rfl, nofun⟩
  · decide
  · exact ActiveWordTable.not_stores_init

theorem spawnsApart_of_secondPick :
    (oneOnScreen.words 0).active = true ∧
      oneOnScreen.SpawnsApart secondPick 1 := by
  refine ⟨by decide, ?_⟩
  apply (spawnsApart_iff oneOnScreen secondPick 1 oneOnScreen_mirrors
    (by decide) (by decide)).mpr
  refine ⟨?_, fun _ => rfl, ?_⟩
  · intro round ends
    have short : ∀ round < 2,
        (oneOnScreen.pickWord (secondPick.picks round)).strlen <
          maxWordLen := by
      decide
    exact .inl (short round ends.within)
  · intro active
    have free : (oneOnScreen.words 1).active = false := by decide
    rw [free] at active
    cases active

/-- A word of 30 letters. -/
def longPick : CString :=
  .ofBuffer (text "abcdefghijklmnopqrstuvwxyzabcd")

/-- The state behind the first spawn of this word. -/
def spawnedOnce : SpawnState :=
  (blank [longPick]).spawnWord .succeeding

private theorem longPick_chosen
    (mirrors : state.Mirrors) (listed : state.wordList = [longPick]) :
    state.chosen .succeeding = ⟨longPick, false⟩ := by
  have pick : state.pickWord 0 = longPick := by
    rw [pickWord, listed]
    rfl
  have ends : state.EndsAt SpawnCalls.succeeding.picks 0 := by
    refine ⟨?_, ?_, nofun⟩
    · rw [listed]
      exact Nat.one_pos
    · apply mirrors.search_of_long
      change maxWordLen ≤ (state.pickWord 0).strlen
      rw [pick]
      decide
  rw [ends.chosen]
  exact congrArg (Retry.mk · false) pick

private theorem blank_chosen :
    (blank [longPick]).chosen .succeeding = ⟨longPick, false⟩ :=
  longPick_chosen (mirrors_blank _) rfl

private theorem spawnedOnce_mirrors : spawnedOnce.Mirrors := by
  apply (mirrors_spawnWord_iff (mirrors_blank _) (free_blank _) _ _).mpr
  · exact ⟨fun _ => rfl, nofun⟩
  · rw [blank_chosen]
  · exact ActiveWordTable.not_stores_init

/-- The word is spawned a second time, and both slots show its first 29
letters. -/
theorem longPick_shownTwice :
    ¬∀ (state : SpawnState) (calls : SpawnCalls) (slot : Fin maxWords),
        (∀ word ∈ state.wordList, word.strlen < maxWordStrLen) →
          calls.allocated = true → calls.created.isSome = true →
            (state.words slot).active = false →
              state.Mirrors → freeSlot state.words = some slot →
                (state.chosen calls).ranOut = false →
                  state.SpawnsApart calls slot := by
  intro effective
  have chosenOnce := blank_chosen
  have chosenAgain := longPick_chosen spawnedOnce_mirrors rfl
  have found : (spawnedOnce.chosen .succeeding).ranOut = false := by
    rw [chosenAgain]
  have free : freeSlot spawnedOnce.words = some 1 := by decide
  have again : spawnedOnce.SpawnsApart .succeeding 1 :=
    effective spawnedOnce .succeeding 1 (by decide) rfl rfl (by decide)
      spawnedOnce_mirrors free found
  have fresh := (apart_iff spawnedOnce_mirrors free found).mp again.apart
  apply fresh
  apply (spawnWord_stores (mirrors_blank _).wellFormed (free_blank _) _
    ActiveWordTable.not_stores_init _).mpr
  · rw [chosenOnce, chosenAgain]
    exact .inr ⟨⟨rfl, rfl⟩, rfl⟩
  · rw [chosenOnce]

end SpawnState

end RainTyping
