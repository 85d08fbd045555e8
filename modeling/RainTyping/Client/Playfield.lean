import RainTyping.Client.MainThread

/-!
# Words inside the playfield

`run_rain_typing_game` refuses terminals whose playfield is less than 5 rows
high or 20 columns wide.  A word has up to 29 bytes, and `spawn_word` puts a
word that is wider than the playfield at its first column.
-/

namespace RainTyping

/-- The static variables that divide the screen. -/
structure ScreenLayout where
  frameTopY : Int
  frameBottomY : Int
  gameAreaStartY : Int
  gameAreaEndY : Int
  gameAreaHeight : Int
  frameLeftX : Int
  frameRightX : Int
  gameAreaStartX : Int
  gameAreaEndX : Int
  gameAreaWidth : Int
  deriving DecidableEq

def screenLayout (screenHeight screenWidth : Int) : ScreenLayout :=
  let frameTopY := 1
  let frameBottomY := screenHeight - 3
  let gameAreaStartY := frameTopY + 1
  let gameAreaEndY := frameBottomY - 1
  let frameLeftX := 0
  let frameRightX := screenWidth - 1
  let gameAreaStartX := frameLeftX + 1
  let gameAreaEndX := frameRightX - 1
  { frameTopY := frameTopY
    frameBottomY := frameBottomY
    gameAreaStartY := gameAreaStartY
    gameAreaEndY := gameAreaEndY
    gameAreaHeight := gameAreaEndY - gameAreaStartY + 1
    frameLeftX := frameLeftX
    frameRightX := frameRightX
    gameAreaStartX := gameAreaStartX
    gameAreaEndX := gameAreaEndX
    gameAreaWidth := gameAreaEndX - gameAreaStartX + 1 }

/-- The playfield of a terminal, unless the screen is too small. -/
def gameArea (screenHeight screenWidth : Int) : Option GameArea :=
  let layout := screenLayout screenHeight screenWidth
  if small : layout.gameAreaHeight < 5 ∨ layout.gameAreaWidth < 20 then none
  else
    some
      { height := layout.gameAreaHeight.toNat
        width := layout.gameAreaWidth.toNat
        tall := by omega
        wide := by omega }

structure Word.Inside (word : Word) (area : GameArea) : Prop where
  left : 0 ≤ (word.x : Int)
  right : word.x + word.text.strlen ≤ area.width
  top : 0 ≤ (word.y : Int)
  bottom : word.y < area.height

/-- The part of the word that a slot shows is not wider than the area. -/
def GameArea.Fits (area : GameArea) (word : CString) : Prop :=
  word.strlen ≤ area.width ∨ maxWordLen - 1 ≤ area.width

instance (area : GameArea) (word : CString) : Decidable (area.Fits word) :=
  inferInstanceAs (Decidable (_ ∨ _))

namespace Game

/-- The divisor that `Word.fill` chooses a column with, if it chooses one. -/
def columnDivisors (game : Game) (pick : CString) : List Int :=
  let text : CharArray maxWordLen := .store maxWordLen pick.bytes
  if game.area.width > text.strlen then
    [(game.area.width : Int) - text.strlen + 1]
  else []

/-- The divisors of one round of the retry loop. -/
def pickDivisors (game : Game) (tries : Nat) (calls : MainCalls) : List Int :=
  game.wordList.length ::
    if tries > game.wordList.length then
      game.columnDivisors (game.pickWord calls.pick)
    else []

/-- What the next step of the main thread divides by while it chooses a word
and its column. -/
def divisors (game : Game) (calls : MainCalls) : List Int :=
  match game.main with
  | .spawnLock =>
      match freeSlot game.words with
      | some _ => game.pickDivisors 1 calls
      | none => []
  | .pickUnlock _ tries pick taken =>
      if taken then game.pickDivisors (tries + 1) calls
      else game.columnDivisors pick
  | _ => []

/-- The active words are inside the area, and nothing is divided by zero. -/
structure StaysWithin (game : Game) (area : GameArea) : Prop where
  inside : ∀ slot, (game.words slot).active = true →
    (game.words slot).Inside area
  divides : ∀ calls, 0 ∉ game.divisors calls

variable {game next : Game} {area : GameArea} {slot : Fin maxWords}
  {threadId : Nat} {thread : WordThread} {calls : MainCalls}
  {word pick : CString}

/-! ## Placing a word -/

theorem strlen_store (word : CString) :
    (CharArray.store maxWordLen word.bytes).strlen =
      min (maxWordLen - 1) word.strlen := by
  simp only [CharArray.store, CString.ofBuffer_bytes, CString.strlen,
    List.length_take]

theorem fits_iff :
    area.Fits word ↔
      (CharArray.store maxWordLen word.bytes).strlen ≤ area.width := by
  rw [strlen_store, GameArea.Fits]
  omega

/-- A filled slot is inside the area exactly when the word fits. -/
theorem inside_fill_iff {slotWord : Word} {rolls : Rolls} :
    (slotWord.fill area.width pick rolls).Inside area ↔ area.Fits pick := by
  constructor
  · intro inside
    have right := inside.right
    simp only [Word.fill] at right
    exact fits_iff.mpr (Nat.le_of_add_left_le right)
  · intro fits
    rw [fits_iff] at fits
    constructor
    case left => exact Int.natCast_nonneg _
    case right =>
        simp only [Word.fill]
        split
        · have column : rolls.column % (area.width -
              (CharArray.store maxWordLen pick.bytes).strlen + 1) <
                area.width -
                  (CharArray.store maxWordLen pick.bytes).strlen + 1 :=
            Nat.mod_lt _ (Nat.succ_pos _)
          omega
        · omega
    case top => exact Int.natCast_nonneg _
    case bottom =>
        have tall := area.tall
        simp only [Word.fill]
        omega

private theorem inside_congr
    {after before : Word} (inside : before.Inside area)
    (sameText : after.text = before.text) (sameX : after.x = before.x)
    (sameY : after.y = before.y) : after.Inside area := by
  constructor
  case left => exact Int.natCast_nonneg _
  case right => rw [sameText, sameX]; exact inside.right
  case top => exact Int.natCast_nonneg _
  case bottom => rw [sameY]; exact inside.bottom

theorem inside_drop
    {slotWord : Word} (inside : slotWord.Inside area)
    (active : (slotWord.drop area.height).active = true) :
    (slotWord.drop area.height).Inside area := by
  unfold Word.drop at active ⊢
  split at active
  · rename_i before
    rw [if_pos before]
    have above : slotWord.y + 1 < area.height := by
      simpa using active
    exact ⟨inside.left, inside.right, Int.natCast_nonneg _, above⟩
  · rename_i before
    rw [if_neg before]
    exact inside

/-! ## Choosing a word -/

/-- The column of a filled slot is the remainder by its divisor. -/
theorem column_fill (word : Word) (pick : CString) (rolls : Rolls) :
    ((word.fill game.area.width pick rolls).x : Int) =
      match game.columnDivisors pick with
      | divisor :: _ => rolls.column % divisor
      | [] => 0 := by
  simp only [Word.fill, columnDivisors]
  split
  · rename_i wide
    rw [Int.natCast_emod]
    congr 1
    omega
  · rfl

/-- The number of a picked word is the remainder by the first divisor. -/
theorem pickWord_eq (tries : Nat) (calls : MainCalls) :
    game.pickWord calls.pick =
      match game.pickDivisors tries calls with
      | divisor :: _ =>
          game.wordList.getD ((calls.pick : Int) % divisor).toNat .empty
      | [] => .empty := by
  simp only [pickWord, pickDivisors]
  rw [← Int.natCast_emod, Int.toNat_natCast]

private theorem columnDivisors_pos (pick : CString) :
    0 ∉ game.columnDivisors pick := by
  unfold columnDivisors
  simp only
  split
  · rename_i wide
    rw [List.mem_singleton]
    omega
  · exact List.not_mem_nil

private theorem pickDivisors_pos
    (listed : game.wordList ≠ []) (tries : Nat) :
    0 ∉ game.pickDivisors tries calls := by
  unfold pickDivisors
  rw [List.mem_cons, not_or]
  refine ⟨?_, ?_⟩
  · have some := List.length_pos_iff.mpr listed
    omega
  · split
    · exact columnDivisors_pos _
    · exact List.not_mem_nil

/-- What the main thread knows of the words while it chooses one. -/
def Choosing (game : Game) : Prop :=
  match game.main with
  | .spawnLock => game.wordList ≠ []
  | .pickLock _ _ pick => pick ∈ game.wordList
  | .pickUnlock _ _ pick _ => pick ∈ game.wordList
  | _ => True

section Choosing

variable {tries : Nat} {taken : Bool}

theorem Choosing.listed
    (choosing : game.Choosing) (current : game.main = .spawnLock) :
    game.wordList ≠ [] := by
  rw [Choosing, current] at choosing
  exact choosing

theorem Choosing.searching
    (choosing : game.Choosing) (current : game.main =
      .pickLock slot tries pick) : pick ∈ game.wordList := by
  rw [Choosing, current] at choosing
  exact choosing

theorem Choosing.searched
    (choosing : game.Choosing) (current : game.main =
      .pickUnlock slot tries pick taken) : pick ∈ game.wordList := by
  rw [Choosing, current] at choosing
  exact choosing

theorem Choosing.divides
    (choosing : game.Choosing) (calls : MainCalls) :
    0 ∉ game.divisors calls := by
  unfold divisors
  split
  · rename_i current
    split
    · exact pickDivisors_pos (choosing.listed current) 1
    · exact List.not_mem_nil
  · rename_i slot tries pick taken current
    split
    · have member := choosing.searched current
      exact pickDivisors_pos (List.ne_nil_of_mem member) _
    · exact columnDivisors_pos pick
  · exact List.not_mem_nil

end Choosing

/-! ## The main thread -/

private theorem choosing_tryPick
    (listed : game.wordList ≠ []) (tries : Nat) :
    (game.tryPick slot tries calls).Choosing := by
  unfold tryPick
  simp only
  split
  · trivial
  · exact getD_mod_mem listed calls.pick

private theorem choosing_mainStep (choosing : game.Choosing) :
    (game.mainStep calls).Choosing := by
  cases current : game.main with
  | top =>
      simp only [mainStep, current]
      split <;> trivial
  | overUnlock =>
      simp only [mainStep, current]
      split <;> trivial
  | inputOverUnlock key gameOver =>
      simp only [mainStep, current, handleKey]
      split_ifs <;> trivial
  | inputLock =>
      simp only [mainStep, current, chooseTarget]
      split <;> trivial
  | inputUnlock target =>
      cases target <;> simp only [mainStep, current] <;> trivial
  | spawnCheckUnlock canSpawn =>
      simp only [mainStep, current]
      split
      · rename_i spawns
        exact spawns.2.2
      · trivial
  | spawnLock =>
      simp only [mainStep, current, chooseSlot]
      split
      · apply choosing_tryPick
        exact choosing.listed current
      · trivial
  | pickLock slot tries pick =>
      simp only [mainStep, current]
      exact choosing.searching current
  | pickUnlock slot tries pick taken =>
      simp only [mainStep, current]
      split
      · have member := choosing.searched current
        exact choosing_tryPick (List.ne_nil_of_mem member) _
      · trivial
  | addUnlock slot =>
      simp only [mainStep, current, createThread]
      split <;> trivial
  | draw last pc =>
      simp only [mainStep, current]
      split
      · trivial
      · split_ifs <;> trivial
  | joinLock loop =>
      simp only [mainStep, current, joinFrom]
      split <;> trivial
  | joining loop slot =>
      simp only [mainStep, current, joinFrom]
      split <;> trivial
  | joinUnlock loop =>
      cases loop with
      | cleanupFinishedThreads =>
          simp only [mainStep, current]
          split <;> trivial
      | safeGameCleanup =>
          simp only [mainStep, current]
          trivial
  | returned score =>
      simp only [mainStep, current]
      exact choosing
  | _ =>
      simp only [mainStep, current]
      trivial

/-- The words of the list fit the area, and those on the screen are inside. -/
structure Contained (game : Game) (area : GameArea) : Prop where
  sameArea : game.area = area
  fits : ∀ word ∈ game.wordList, area.Fits word
  inside : ∀ slot, (game.words slot).active = true →
    (game.words slot).Inside area

private theorem inside_of_inactive
    {slotWord : Word} (inactive : slotWord.active = false)
    (active : slotWord.active = true) : slotWord.Inside area := by
  rw [inactive] at active
  cases active

private theorem inside_set
    {words : Words} {slotWord : Word}
    (inside : ∀ other, (words other).active = true →
      (words other).Inside area)
    (placed : slotWord.active = true → slotWord.Inside area) :
    ∀ other, (words.set slot slotWord other).active = true →
      (words.set slot slotWord other).Inside area := by
  intro other
  rw [Words.set_apply]
  split
  · exact placed
  · exact inside other

private theorem contained_fillSlot
    (contained : game.Contained area) (fits : area.Fits pick)
    (rolls : Rolls) : (game.fillSlot slot pick rolls).Contained area where
  sameArea := contained.sameArea
  fits := contained.fits
  inside := by
    apply inside_set contained.inside
    intro _
    rw [contained.sameArea]
    exact inside_fill_iff.mpr fits

private theorem contained_tryPick
    (contained : game.Contained area) (listed : game.wordList ≠ [])
    (tries : Nat) : (game.tryPick slot tries calls).Contained area := by
  have fits := contained.fits _ (getD_mod_mem listed calls.pick)
  unfold tryPick
  simp only
  split
  · exact contained_fillSlot contained fits calls.rolls
  · exact ⟨contained.sameArea, contained.fits, contained.inside⟩

private theorem contained_setWord
    (contained : game.Contained area) {slotWord : Word}
    (placed : slotWord.active = true → slotWord.Inside area) :
    (game.setWord slot slotWord).Contained area where
  sameArea := contained.sameArea
  fits := contained.fits
  inside := inside_set contained.inside placed

private theorem contained_release (contained : game.Contained area) :
    (game.setWord slot (game.words slot).release).Contained area := by
  apply contained_setWord contained
  intro active
  have same : (game.words slot).release.active = (game.words slot).active ∧
      (game.words slot).release.text = (game.words slot).text ∧
      (game.words slot).release.x = (game.words slot).x ∧
      (game.words slot).release.y = (game.words slot).y := by
    unfold Word.release
    split <;> exact ⟨rfl, rfl, rfl, rfl⟩
  obtain ⟨sameActive, sameText, sameX, sameY⟩ := same
  exact inside_congr (contained.inside slot (sameActive ▸ active)) sameText
    sameX sameY

private theorem contained_mainStep
    (choosing : game.Choosing) (contained : game.Contained area) :
    (game.mainStep calls).Contained area := by
  obtain ⟨sameArea, fits, inside⟩ := contained
  cases current : game.main with
  | inputOverUnlock key gameOver =>
      simp only [mainStep, current, handleKey]
      split_ifs <;> exact ⟨sameArea, fits, inside⟩
  | inputLock =>
      simp only [mainStep, current, chooseTarget]
      split
      · exact ⟨sameArea, fits, inside_set inside (inside_of_inactive rfl)⟩
      · exact ⟨sameArea, fits, inside⟩
  | inputUnlock target =>
      cases target <;> simp only [mainStep, current] <;>
        exact ⟨sameArea, fits, inside⟩
  | scoreLock target wtype =>
      cases wtype <;> simp only [mainStep, current] <;>
        exact ⟨sameArea, fits, inside⟩
  | spawnCheckUnlock canSpawn =>
      simp only [mainStep, current]
      split <;> exact ⟨sameArea, fits, inside⟩
  | spawnLock =>
      simp only [mainStep, current, chooseSlot]
      split
      · apply contained_tryPick (contained_release ⟨sameArea, fits, inside⟩)
        exact choosing.listed current
      · exact ⟨sameArea, fits, inside⟩
  | pickUnlock slot tries pick taken =>
      have member := choosing.searched current
      simp only [mainStep, current]
      split
      · exact contained_tryPick ⟨sameArea, fits, inside⟩
          (List.ne_nil_of_mem member) _
      · exact contained_fillSlot ⟨sameArea, fits, inside⟩ (fits pick member)
          calls.rolls
  | addUnlock slot =>
      simp only [mainStep, current, createThread]
      split
      · refine ⟨sameArea, fits, inside_set inside ?_⟩
        intro active
        exact inside_congr (inside slot active) rfl rfl rfl
      · exact ⟨sameArea, fits, inside_set inside (inside_of_inactive rfl)⟩
  | draw last pc =>
      simp only [mainStep, current]
      split <;> exact ⟨sameArea, fits, inside⟩
  | requestLock =>
      simp only [mainStep, current]
      refine ⟨sameArea, fits, ?_⟩
      intro slot active
      simp only [goto, requestRemoval_active] at active
      have before := inside slot active
      unfold goto Word.requestRemoval
      simp only
      split
      · exact inside_congr before rfl rfl rfl
      · exact before
  | joinLock loop =>
      simp only [mainStep, current, joinFrom]
      split <;> exact ⟨sameArea, fits, inside⟩
  | joining loop slot =>
      simp only [mainStep, current, joinFrom]
      split <;>
        exact ⟨sameArea, fits, inside_set inside (inside_of_inactive rfl)⟩
  | joinUnlock loop =>
      cases loop with
      | cleanupFinishedThreads =>
          simp only [mainStep, current]
          exact ⟨sameArea, fits, inside⟩
      | safeGameCleanup =>
          simp only [mainStep, current]
          exact ⟨sameArea, List.forall_mem_nil _, inside⟩
  | _ =>
      simp only [mainStep, current]
      exact ⟨sameArea, fits, inside⟩

/-! ## The word threads -/

private theorem wordStep_wordList
    (game : Game) (threadId : Nat) (thread : WordThread) (dropDue : Bool) :
    (game.wordStep threadId thread dropDue).wordList = game.wordList := by
  unfold wordStep
  cases thread.pc with
  | landStateLock =>
      simp only [landWord]
      split <;> rfl
  | _ => rfl

private theorem contained_wordStep
    (contained : game.Contained area) (dropDue : Bool) :
    (game.wordStep threadId thread dropDue).Contained area := by
  obtain ⟨sameArea, fits, inside⟩ := contained
  cases current : thread.pc with
  | dropLock =>
      simp only [wordStep, current]
      refine ⟨sameArea, fits, inside_set inside ?_⟩
      rw [sameArea]
      intro active
      exact inside_drop (inside thread.slot (active_of_drop active)) active
  | landStateLock =>
      simp only [wordStep, current, landWord]
      split <;> exact ⟨sameArea, fits, inside⟩
  | exitLock =>
      simp only [wordStep, current]
      exact ⟨sameArea, fits, inside_set inside (inside_of_inactive rfl)⟩
  | _ =>
      simp only [wordStep, current]
      exact ⟨sameArea, fits, inside⟩

private theorem choosing_wordStep
    (choosing : game.Choosing) (dropDue : Bool) :
    (game.wordStep threadId thread dropDue).Choosing := by
  have sameMain := (wordStep_main game threadId thread dropDue).1
  have sameList := wordStep_wordList game threadId thread dropDue
  rw [Choosing, sameMain, sameList]
  exact choosing

/-! ## Runs -/

theorem step_choosing
    {action : GameAction} (choosing : game.Choosing)
    (stepped : step game action = some next) : next.Choosing := by
  cases action with
  | sigint isGameRunning =>
      cases stepped
      cases isGameRunning <;> exact choosing
  | main calls =>
      simp only [step, Option.map_eq_some_iff] at stepped
      obtain ⟨owners, _, rfl⟩ := stepped
      exact choosing_mainStep choosing
  | word threadId dropDue =>
      simp only [step, Option.bind_eq_some_iff,
        Option.map_eq_some_iff] at stepped
      obtain ⟨thread, _, owners, _, rfl⟩ := stepped
      exact choosing_wordStep choosing dropDue

theorem step_contained
    {action : GameAction} (choosing : game.Choosing)
    (contained : game.Contained area)
    (stepped : step game action = some next) : next.Contained area := by
  cases action with
  | sigint isGameRunning =>
      cases stepped
      cases isGameRunning <;>
        exact ⟨contained.sameArea, contained.fits, contained.inside⟩
  | main calls =>
      simp only [step, Option.map_eq_some_iff] at stepped
      obtain ⟨owners, _, rfl⟩ := stepped
      have kept : (game.mainStep calls).Contained area :=
        contained_mainStep choosing contained
      exact ⟨kept.sameArea, kept.fits, kept.inside⟩
  | word threadId dropDue =>
      simp only [step, Option.bind_eq_some_iff,
        Option.map_eq_some_iff] at stepped
      obtain ⟨thread, _, owners, _, rfl⟩ := stepped
      have kept : (game.wordStep threadId thread dropDue).Contained area :=
        contained_wordStep contained dropDue
      exact ⟨kept.sameArea, kept.fits, kept.inside⟩

theorem choosing_start
    (wordList : List CString) (area : GameArea) (input : InputLine) :
    (start wordList area input).Choosing :=
  trivial

theorem contained_start
    {wordList : List CString} (fits : ∀ word ∈ wordList, area.Fits word)
    (input : InputLine) : (start wordList area input).Contained area where
  sameArea := rfl
  fits := fits
  inside := fun _ => inside_of_inactive rfl

/-- No run divides by zero, whatever the words are. -/
theorem divides_of_run
    {wordList : List CString} {input : InputLine} {actions : List GameAction}
    (ran : step.run (start wordList area input) actions = some game)
    (calls : MainCalls) : 0 ∉ game.divisors calls := by
  apply Choosing.divides
  apply Machine.run_preserves Choosing _ (choosing_start _ _ _) ran
  intro game action next choosing stepped
  exact step_choosing choosing stepped

theorem staysWithin_of_fits
    {wordList : List CString} {input : InputLine} {actions : List GameAction}
    (fits : ∀ word ∈ wordList, area.Fits word)
    (ran : step.run (start wordList area input) actions = some game) :
    game.StaysWithin area where
  inside := by
    have kept := Machine.run_preserves
      (fun game => game.Choosing ∧ game.Contained area)
      (fun game action next ⟨choosing, contained⟩ stepped =>
        ⟨step_choosing choosing stepped,
          step_contained choosing contained stepped⟩)
      ⟨choosing_start wordList area input, contained_start fits input⟩ ran
    exact kept.2.inside
  divides := divides_of_run ran

private theorem attains_spawnLock
    {wordList : List CString} (listed : wordList ≠ []) (input : InputLine) :
    (start wordList area input).Attains
      ((start wordList area input).goto .spawnLock) := by
  let start := start wordList area input
  have enters : step start (.main .spawnNow) = some (start.goto .overLock) :=
    step_compute rfl
  have notOver : (start.goto .overLock).Attains (start.goto .spawnCheckLock) :=
    attains_section .spawnNow .spawnNow .gameState rfl rfl rfl rfl
  have check : (start.goto .spawnCheckLock).Attains
      ((start.goto (.spawnCheckUnlock true)).mainStep .spawnNow) :=
    attains_section .spawnNow .spawnNow .gameState rfl rfl rfl rfl
  have spawns : (start.goto (.spawnCheckUnlock true)).mainStep .spawnNow =
      start.goto .spawnLock :=
    if_pos ⟨rfl, rfl, listed⟩
  rw [spawns] at check
  exact .head enters (notOver.trans check)

/-- Every word of the list may be the first one. -/
theorem exists_run_placing
    {wordList : List CString} (area : GameArea) (input : InputLine)
    (member : word ∈ wordList) :
    ∃ actions game, step.run (start wordList area input) actions = some game ∧
      game.words 0 = Word.zero.fill area.width word MainCalls.idle.rolls := by
  obtain ⟨index, within, rfl⟩ := List.getElem_of_mem member
  have listed : wordList ≠ [] := List.ne_nil_of_mem member
  let calls : MainCalls := { MainCalls.spawnNow with pick := index }
  let atSpawn := (start wordList area input).goto .spawnLock
  let searching := ((atSpawn.setWord 0 Word.zero).goto
    (.pickLock 0 1 wordList[index])).withOwners
      (Function.update atSpawn.owners .words (some .main))
  have enters : step atSpawn (.main calls) = some searching := by
    have picked : atSpawn.pickWord index = wordList[index] := by
      rw [pickWord]
      change wordList.getD (index % wordList.length) .empty = _
      rw [Nat.mod_eq_of_lt within, List.getD_eq_getElem?_getD,
        List.getElem?_eq_getElem within, Option.getD_some]
    have chosen : atSpawn.mainStep calls =
        (atSpawn.setWord 0 Word.zero).goto
          (.pickLock 0 1 (atSpawn.pickWord index)) :=
      if_neg (Nat.not_lt.mpr (List.length_pos_iff.mpr listed))
    rw [step_lock .words rfl rfl, chosen, picked]
  have fills : searching.Attains
      (searching.fillSlot 0 wordList[index] calls.rolls) :=
    attains_section calls calls .hash rfl rfl rfl rfl
  obtain ⟨answers, ran⟩ := (attains_spawnLock listed input).trans
    (.head enters fills)
  refine ⟨_, _, ran, ?_⟩
  change searching.words.set 0 ((searching.words 0).fill area.width
    wordList[index] MainCalls.idle.rolls) 0 = _
  have taken : searching.words 0 = Word.zero :=
    Words.set_same atSpawn.words 0 Word.zero
  rw [Words.set_same, taken]

/-- The area of an accepted terminal is the one of the static variables. -/
theorem gameArea_eq_some
    {screenHeight screenWidth : Int}
    (accepted : gameArea screenHeight screenWidth = some area) :
    (screenLayout screenHeight screenWidth).gameAreaHeight = area.height ∧
      (screenLayout screenHeight screenWidth).gameAreaWidth = area.width := by
  unfold gameArea at accepted
  simp only at accepted
  split at accepted
  · cases accepted
  · rename_i large
    cases accepted
    constructor
    · exact (Int.toNat_of_nonneg (by omega)).symm
    · exact (Int.toNat_of_nonneg (by omega)).symm

/-- On a terminal that is accepted, the words stay within the playfield in
every run exactly when none of the list is wider, up to what a slot stores. -/
theorem staysWithin_iff
    (screenHeight screenWidth : Int)
    (accepted : gameArea screenHeight screenWidth = some area)
    (wordList : List CString) (input : InputLine) :
    (∀ actions game,
        step.run (start wordList area input) actions = some game →
          game.StaysWithin area) ↔
      ∀ word ∈ wordList,
        word.strlen ≤ (screenLayout screenHeight screenWidth).gameAreaWidth ∨
          (maxWordLen - 1 : Nat) ≤
            (screenLayout screenHeight screenWidth).gameAreaWidth := by
  simp only [(gameArea_eq_some accepted).2, Int.ofNat_le]
  constructor
  · intro stays word member
    obtain ⟨actions, game, ran, placed⟩ :=
      exists_run_placing area input member
    have inside : (game.words 0).Inside area := by
      apply (stays actions game ran).inside
      rw [placed]
      rfl
    rw [placed] at inside
    exact inside_fill_iff.mp inside
  · intro fits actions game ran
    exact staysWithin_of_fits fits ran

/-- In the smallest terminal, words of one letter stay within it. -/
theorem staysWithin_smallest :
    (∀ actions game,
        step.run (start oneWord smallArea .blank) actions = some game →
          game.StaysWithin smallArea) ↔
      ∀ word ∈ oneWord,
        word.strlen ≤ (screenLayout 10 22).gameAreaWidth ∨
          (maxWordLen - 1 : Nat) ≤ (screenLayout 10 22).gameAreaWidth :=
  staysWithin_iff 10 22 (by rfl) oneWord .blank

/-- A word of 25 letters. -/
def longWord : CString :=
  .ofBuffer (text "abcdefghijklmnopqrstuvwxy")

/-- It sticks out over a playfield of 20 columns. -/
theorem longWord_sticksOut :
    ¬∀ (screenHeight screenWidth : Int) (area : GameArea)
        (wordList : List CString) (input : InputLine)
        (actions : List GameAction) (game : Game),
        gameArea screenHeight screenWidth = some area →
          step.run (start wordList area input) actions = some game →
            game.StaysWithin area := by
  intro claimed
  obtain ⟨actions, game, ran, placed⟩ :=
    exists_run_placing smallArea .blank (List.mem_singleton_self longWord)
  have stays : game.StaysWithin smallArea :=
    claimed 10 22 smallArea [longWord] .blank actions game (by rfl) ran
  have inside : (game.words 0).Inside smallArea := by
    apply stays.inside
    rw [placed]
    rfl
  rw [placed, inside_fill_iff] at inside
  revert inside
  decide

end Game

end RainTyping
