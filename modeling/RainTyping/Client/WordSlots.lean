import Mathlib.Data.List.FinRange
import RainTyping.Client.ActiveWords

/-!
# Word slots and the input line

The parts of `game_logic.c` that work on the array `words` and on the input
buffer between two operations on a mutex.
-/

namespace RainTyping

abbrev maxWords : Nat := 20

instance : NeZero maxWords := ⟨by decide⟩

abbrev inputBufferLen : Nat := maxWordLen + 10

inductive WordType where
  | normal
  | kill
  | bonus
  deriving DecidableEq

structure Word where
  text : CharArray maxWordLen
  x : Nat
  y : Nat
  active : Bool
  toRemove : Bool
  wtype : WordType
  /-- `0` stands for no thread. -/
  threadId : Nat
  deriving DecidableEq

/-- A word as its thread was created for it. -/
structure SpawnedWord where
  threadId : Nat
  text : CharArray maxWordLen
  wtype : WordType
  deriving DecidableEq

def Word.spawned (word : Word) : SpawnedWord :=
  ⟨word.threadId, word.text, word.wtype⟩

/-- A slot after the `memset`. -/
def Word.zero : Word where
  text := .empty
  x := 0
  y := 0
  active := false
  toRemove := false
  wtype := .normal
  threadId := 0

abbrev Words := Fin maxWords → Word

namespace Words

def set (words : Words) (index : Fin maxWords) (word : Word) : Words :=
  Function.update words index word

@[simp] theorem set_same (words : Words) (index : Fin maxWords) (word : Word) :
    words.set index word index = word := by
  rw [set, Function.update_self]

@[simp] theorem set_of_ne
    (words : Words) {index other : Fin maxWords} (word : Word)
    (different : other ≠ index) : words.set index word other = words other := by
  rw [set, Function.update_of_ne different]

@[grind =] theorem set_apply
    (words : Words) (index other : Fin maxWords) (word : Word) :
    words.set index word other =
      if other = index then word else words other := by
  rw [set, Function.update_apply]

end Words

/-! ## The input line -/

/-- `current_input_buffer` and `input_pos`. -/
structure InputLine where
  buffer : Vector UInt8 inputBufferLen
  pos : Nat
  deriving DecidableEq

namespace InputLine

/-- The static buffer when the program starts. -/
def blank : InputLine :=
  ⟨.replicate inputBufferLen 0, 0⟩

/-- The string in the buffer. -/
def text (line : InputLine) : CString :=
  .ofBuffer line.buffer.toList

def clear (line : InputLine) : InputLine where
  buffer := line.buffer.set 0 0
  pos := 0

def backspace (line : InputLine) : InputLine :=
  if line.pos > 0 then
    { buffer := line.buffer.setIfInBounds (line.pos - 1) 0
      pos := line.pos - 1 }
  else line

def append (line : InputLine) (byte : UInt8) : InputLine :=
  if line.pos < inputBufferLen - 1 then
    { buffer := (line.buffer.setIfInBounds line.pos byte).setIfInBounds
        (line.pos + 1) 0
      pos := line.pos + 1 }
  else line

end InputLine

/-! ## Choosing the typed word -/

def WordType.prio : WordType → Int
  | .kill => 0
  | .bonus => 1
  | .normal => 2

/-- `target_idx`, `best_prio` and `best_y` of the scan. -/
structure Target where
  index : Option (Fin maxWords)
  prio : Int
  y : Int
  deriving DecidableEq

def Target.initial : Target :=
  ⟨none, 3, -1⟩

/-- One round of the scan. -/
def Target.scan (input : CString) (words : Words) (best : Target)
    (index : Fin maxWords) : Target :=
  let word := words index
  if word.active ∧ input.bytes = word.text.bytes then
    if word.wtype.prio < best.prio ∨
        word.wtype.prio = best.prio ∧ (word.y : Int) > best.y then
      ⟨some index, word.wtype.prio, word.y⟩
    else best
  else best

def findTarget (input : CString) (words : Words) : Option (Fin maxWords) :=
  ((List.finRange maxWords).foldl (Target.scan input words) .initial).index

/-! ## The fields of a slot -/

def Word.deactivate (word : Word) : Word :=
  { word with active := false }

/-- The slot `spawn_word` takes. -/
def freeSlot (words : Words) : Option (Fin maxWords) :=
  (List.finRange maxWords).find? fun index =>
    (words index).threadId = 0 || (words index).toRemove

def Word.release (word : Word) : Word :=
  if word.threadId ≠ 0 ∧ word.toRemove then { word with threadId := 0 }
  else word

/-- What `rand` answers while a slot is filled. -/
structure Rolls where
  column : Nat
  kill : Nat
  bonus : Nat
  deriving DecidableEq

def Word.fill (word : Word) (areaWidth : Nat) (pick : CString)
    (rolls : Rolls) : Word :=
  let text : CharArray maxWordLen := .store maxWordLen pick.bytes
  { word with
    text := text
    y := 0
    x :=
      if areaWidth > text.strlen then
        rolls.column % (areaWidth - text.strlen + 1)
      else 0
    active := true
    toRemove := false
    wtype :=
      if rolls.kill % 100 < 20 then .kill
      else if rolls.bonus % 100 < 30 then .bonus
      else .normal }

def Word.start (word : Word) (threadId : Nat) : Word :=
  { word with threadId := threadId }

/-- Undo what was done for a thread that is not created. -/
def Word.unspawn (word : Word) : Word :=
  { word with active := false, threadId := 0 }

/-- One row down, unless the word is already gone. -/
def Word.drop (word : Word) (areaHeight : Nat) : Word :=
  if word.active then
    { word with
      y := word.y + 1
      active := word.y + 1 < areaHeight }
  else word

/-- The exit section of the word's thread. -/
def Word.leave (word : Word) : Word :=
  { word with active := false, toRemove := true }

/-- After `pthread_join`. -/
def Word.collect (word : Word) : Word :=
  { word with
    threadId := 0
    active := false
    toRemove := false
    text := .empty }

/-- The loops that join threads look for these slots. -/
def Word.Removable (word : Word) : Prop :=
  word.threadId ≠ 0 ∧ word.toRemove = true

instance (word : Word) : Decidable word.Removable :=
  inferInstanceAs (Decidable (_ ∧ _))

/-- The first such slot from the given index on. -/
def nextRemovable (words : Words) (start : Nat) : Option (Fin maxWords) :=
  (List.finRange maxWords).find? fun index =>
    start ≤ index.val ∧ (words index).Removable

/-- The first pass of `safe_game_cleanup`. -/
def Word.requestRemoval (word : Word) : Word :=
  if word.threadId ≠ 0 then { word with toRemove := true } else word

/-! ## What a drop changes -/

section Drop

variable (word : Word) (areaHeight : Nat)

@[simp] theorem drop_threadId :
    (word.drop areaHeight).threadId = word.threadId := by
  unfold Word.drop
  split <;> rfl

@[simp] theorem drop_toRemove :
    (word.drop areaHeight).toRemove = word.toRemove := by
  unfold Word.drop
  split <;> rfl

@[simp] theorem drop_text : (word.drop areaHeight).text = word.text := by
  unfold Word.drop
  split <;> rfl

@[simp] theorem drop_spawned :
    (word.drop areaHeight).spawned = word.spawned := by
  unfold Word.drop
  split <;> rfl

variable {word areaHeight}

theorem active_of_drop
    (active : (word.drop areaHeight).active = true) : word.active = true := by
  unfold Word.drop at active
  split at active
  · assumption
  · exact active

end Drop

section RequestRemoval

variable {word : Word}

@[simp] theorem requestRemoval_threadId :
    word.requestRemoval.threadId = word.threadId := by
  unfold Word.requestRemoval
  split <;> rfl

@[simp] theorem requestRemoval_active :
    word.requestRemoval.active = word.active := by
  unfold Word.requestRemoval
  split <;> rfl

theorem requestRemoval_toRemove (marked : word.toRemove = true) :
    word.requestRemoval.toRemove = true := by
  unfold Word.requestRemoval
  split
  · rfl
  · exact marked

end RequestRemoval

/-! ## What the searches find -/

theorem getD_mod_mem
    {wordList : List CString} (listed : wordList ≠ []) (roll : Nat) :
    wordList.getD (roll % wordList.length) .empty ∈ wordList := by
  have within : roll % wordList.length < wordList.length :=
    Nat.mod_lt _ (List.length_pos_iff.mpr listed)
  rw [List.getD_eq_getElem?_getD, List.getElem?_eq_getElem within,
    Option.getD_some]
  exact List.getElem_mem within

private theorem scan_index
    {input : CString} {words : Words} {best : Target}
    {index found : Fin maxWords}
    (chosen : (best.scan input words index).index = some found) :
    best.index = some found ∨
      (words found).active = true ∧
        input.bytes = (words found).text.bytes := by
  unfold Target.scan at chosen
  simp only at chosen
  split at chosen
  · rename_i suits
    split at chosen
    · cases chosen
      exact .inr suits
    · exact .inl chosen
  · exact .inl chosen

theorem findTarget_eq_some
    {input : CString} {words : Words} {found : Fin maxWords}
    (chosen : findTarget input words = some found) :
    (words found).active = true ∧
      input.bytes = (words found).text.bytes := by
  have scanned : ∀ (indices : List (Fin maxWords)) (best : Target),
      (indices.foldl (Target.scan input words) best).index = some found →
        best.index = some found ∨
          (words found).active = true ∧
            input.bytes = (words found).text.bytes := by
    intro indices
    induction indices with
    | nil => exact fun best chosen => .inl chosen
    | cons index indices induction =>
        intro best chosen
        rcases induction _ chosen with earlier | suits
        · exact scan_index earlier
        · exact .inr suits
  rcases scanned _ _ chosen with initial | suits
  · cases initial
  · exact suits

theorem freeSlot_eq_some
    {words : Words} {index : Fin maxWords}
    (free : freeSlot words = some index) :
    (words index).threadId = 0 ∨ (words index).toRemove = true := by
  have passes := List.find?_some free
  simpa using passes

theorem release_threadId
    {word : Word} (free : word.threadId = 0 ∨ word.toRemove = true) :
    word.release = { word with threadId := 0 } := by
  unfold Word.release
  rcases free with none | marked
  · cases word
    simp_all
  · split
    · rfl
    · rename_i kept
      have none : word.threadId = 0 := by
        by_contra some
        exact kept ⟨some, marked⟩
      cases word
      simp_all

theorem release_release (word : Word) :
    word.release.release = word.release := by
  unfold Word.release
  split
  · exact if_neg fun again => again.1 rfl
  · rfl

theorem nextRemovable_eq_some
    {words : Words} {start : Nat} {index : Fin maxWords}
    (next : nextRemovable words start = some index) :
    (words index).Removable := by
  have passes := List.find?_some next
  simp only [decide_eq_true_eq] at passes
  exact passes.2

end RainTyping
