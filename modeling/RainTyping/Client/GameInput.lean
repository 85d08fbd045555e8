import RainTyping.Client.MainThread

/-!
# The keyboard of the game

`process_game_input` as one function, without other threads in between: the
input line is a line editor, and a submitted line takes the word it spells off
the screen.
-/

namespace RainTyping

/-! ## The input line as an editor -/

namespace InputLine

/-- The terminated string in front of `input_pos`. -/
structure Holds (line : InputLine) (typed : List UInt8) : Prop where
  pos : line.pos = typed.length
  buffer : ∃ rest, line.buffer.toList = typed ++ 0 :: rest

variable {line : InputLine} {typed : List UInt8}

theorem holds_clear (line : InputLine) : line.clear.Holds [] := by
  constructor
  case pos => rfl
  case buffer =>
      obtain ⟨buffer, pos⟩ := line
      simp only [clear, Vector.toList_set, List.nil_append]
      cases elements : buffer.toList with
      | nil =>
          have length := congrArg List.length elements
          simp at length
      | cons first rest => exact ⟨rest, rfl⟩

theorem Holds.room (holds : line.Holds typed) :
    typed.length ≤ inputBufferLen - 1 := by
  obtain ⟨rest, buffer⟩ := holds.buffer
  have length := congrArg List.length buffer
  simp only [Vector.length_toList, List.length_append,
    List.length_cons] at length
  omega

theorem Holds.append
    (holds : line.Holds typed) (byte : UInt8)
    (room : typed.length < inputBufferLen - 1) :
    (line.append byte).Holds (typed ++ [byte]) := by
  obtain ⟨pos, rest, buffer⟩ := holds
  have length := congrArg List.length buffer
  simp only [Vector.length_toList, List.length_append,
    List.length_cons] at length
  cases rest with
  | nil =>
      simp only [List.length_nil] at length
      omega
  | cons next rest =>
      rw [InputLine.append, if_pos (pos ▸ room), pos]
      constructor
      case pos => simp
      case buffer =>
          refine ⟨rest, ?_⟩
          simp only [Vector.toList_setIfInBounds, buffer]
          simp

theorem Holds.append_full
    (holds : line.Holds typed) (byte : UInt8)
    (full : ¬typed.length < inputBufferLen - 1) :
    line.append byte = line := by
  rw [InputLine.append, if_neg (holds.pos ▸ full)]

theorem Holds.backspace (holds : line.Holds typed) :
    line.backspace.Holds typed.dropLast := by
  obtain ⟨pos, rest, buffer⟩ := holds
  rcases List.eq_nil_or_concat typed with rfl | ⟨front, last, rfl⟩
  · have empty : line.backspace = line := by
      rw [InputLine.backspace, if_neg (by simp [pos])]
    rw [empty]
    exact ⟨pos, rest, buffer⟩
  · rw [List.concat_eq_append, List.length_append] at pos
    have some : line.pos > 0 := by
      simp only [List.length_singleton] at pos
      omega
    rw [InputLine.backspace, if_pos some, pos]
    constructor
    case pos => simp
    case buffer =>
        refine ⟨0 :: rest, ?_⟩
        simp only [Vector.toList_setIfInBounds, buffer]
        simp

theorem Holds.text (holds : line.Holds typed) (noNul : 0 ∉ typed) :
    line.text.bytes = typed := by
  obtain ⟨rest, buffer⟩ := holds.buffer
  have kept : ∀ byte ∈ typed, decide (byte ≠ 0) = true := by
    intro byte member
    have nonzero : byte ≠ 0 := fun zero => noNul (zero ▸ member)
    simpa using nonzero
  rw [InputLine.text, buffer]
  simp only [CString.ofBuffer]
  rw [List.takeWhile_append_of_pos kept]
  simp

end InputLine

/-! ## The chosen word -/

/-- The scan prefers this word: its type, or its row, comes first. -/
def Word.Beats (word other : Word) : Prop :=
  word.wtype.prio < other.wtype.prio ∨
    word.wtype.prio = other.wtype.prio ∧ word.y > other.y

/-- Of two slots with one text the scan chooses this one. -/
def Words.Precedes (words : Words) (slot other : Fin maxWords) : Prop :=
  (words slot).Beats (words other) ∨
    ¬(words other).Beats (words slot) ∧ slot < other

/-- The slot is active and spells the input. -/
def Words.Spells (words : Words) (input : CString) (slot : Fin maxWords) :
    Prop :=
  (words slot).active = true ∧ input.bytes = (words slot).text.bytes

variable {words : Words} {input : CString} {slot other : Fin maxWords}

theorem prio_lt (wtype : WordType) : wtype.prio < 3 := by
  cases wtype <;> decide

theorem Words.Precedes.asymm
    (precedes : words.Precedes slot other) : ¬words.Precedes other slot := by
  simp only [Words.Precedes, Word.Beats] at precedes ⊢
  omega

/-- What the scan has found in the slots it has passed. -/
private structure Chosen (words : Words) (input : CString)
    (passed : List (Fin maxWords)) (best : Target) : Prop where
  none : best.index = none → best = .initial ∧
    ∀ other ∈ passed, ¬words.Spells input other
  some : ∀ slot, best.index = some slot →
    words.Spells input slot ∧
      best.prio = (words slot).wtype.prio ∧ best.y = (words slot).y ∧
      slot ∈ passed ∧
      ∀ other ∈ passed, words.Spells input other → other ≠ slot →
        words.Precedes slot other

private theorem Chosen.pass
    {passed : List (Fin maxWords)} {best : Target} {next : Fin maxWords}
    (chosen : Chosen words input passed best)
    (stays : ∀ slot, best.index = Option.some slot →
      words.Spells input next → words.Precedes slot next)
    (empty : best.index = Option.none → ¬words.Spells input next) :
    Chosen words input (passed ++ [next]) best := by
  constructor
  case none =>
      intro none
      obtain ⟨initial, unspelled⟩ := chosen.none none
      refine ⟨initial, ?_⟩
      intro other member
      rcases List.mem_append.mp member with earlier | last
      · exact unspelled other earlier
      · rw [List.mem_singleton.mp last]
        exact empty none
  case some =>
      intro slot index
      obtain ⟨spells, prio, row, member, first⟩ := chosen.some slot index
      refine ⟨spells, prio, row, List.mem_append_left _ member, ?_⟩
      intro other otherMember otherSpells differs
      rcases List.mem_append.mp otherMember with earlier | last
      · exact first other earlier otherSpells differs
      · rw [List.mem_singleton.mp last] at otherSpells ⊢
        exact stays slot index otherSpells

/-- A slot that the scan prefers to the best so far precedes all others. -/
private theorem Chosen.replace
    {passed : List (Fin maxWords)} {best : Target} {next : Fin maxWords}
    (chosen : Chosen words input passed best)
    (spells : words.Spells input next)
    (better : (words next).wtype.prio < best.prio ∨
      (words next).wtype.prio = best.prio ∧ ((words next).y : Int) > best.y) :
    Chosen words input (passed ++ [next])
      ⟨Option.some next, (words next).wtype.prio, (words next).y⟩ := by
  constructor
  case none => exact nofun
  case some =>
      intro slot index
      cases index
      refine ⟨spells, rfl, rfl,
        List.mem_append_right _ (List.mem_singleton_self _), ?_⟩
      intro other member otherSpells differs
      rcases List.mem_append.mp member with earlier | last
      · cases index : best.index with
        | none => exact absurd otherSpells ((chosen.none index).2 other earlier)
        | some slot =>
            obtain ⟨_, prio, row, _, first⟩ := chosen.some slot index
            have beats : (words next).Beats (words slot) := by
              simp only [Word.Beats, ← prio]
              omega
            by_cases same : other = slot
            · exact .inl (same ▸ beats)
            · have earlierFirst := first other earlier otherSpells same
              left
              simp only [Words.Precedes, Word.Beats] at earlierFirst beats ⊢
              omega
      · exact absurd (List.mem_singleton.mp last) differs

private theorem Chosen.scan
    {passed : List (Fin maxWords)} {best : Target} {next : Fin maxWords}
    (chosen : Chosen words input passed best)
    (later : ∀ other ∈ passed, other < next) :
    Chosen words input (passed ++ [next]) (best.scan input words next) := by
  unfold Target.scan
  simp only
  split
  · rename_i spells
    split
    · rename_i better
      exact chosen.replace spells better
    · rename_i worse
      apply chosen.pass
      · intro slot index _
        obtain ⟨_, prio, row, member, _⟩ := chosen.some slot index
        refine .inr ⟨?_, later slot member⟩
        simp only [Word.Beats, ← prio]
        omega
      · intro none _
        have small := prio_lt (words next).wtype
        apply worse
        rw [(chosen.none none).1]
        exact .inl small
  · rename_i unspelled
    apply chosen.pass
    · intro slot _ spells
      exact absurd spells unspelled
    · intro _ spells
      exact unspelled spells

private theorem chosen_foldl
    (indices passed : List (Fin maxWords)) (best : Target)
    (sorted : (passed ++ indices).Pairwise (· < ·))
    (chosen : Chosen words input passed best) :
    Chosen words input (passed ++ indices)
      (indices.foldl (Target.scan input words) best) := by
  induction indices generalizing passed best with
  | nil => simpa using chosen
  | cons next indices induction =>
      have later : ∀ other ∈ passed, other < next :=
        fun other member =>
          (List.pairwise_append.mp sorted).2.2 other member next
            List.mem_cons_self
      rw [List.append_cons] at sorted ⊢
      exact induction _ _ sorted (chosen.scan later)

private theorem chosen_findTarget (words : Words) (input : CString) :
    Chosen words input (List.finRange maxWords)
      ((List.finRange maxWords).foldl (Target.scan input words) .initial) := by
  apply chosen_foldl (List.finRange maxWords) []
  · exact List.pairwise_lt_finRange maxWords
  · constructor
    case none => exact fun _ => ⟨rfl, fun other member => nomatch member⟩
    case some => exact fun slot => nofun

/-- The scan finds the slot that precedes all others with its text. -/
theorem findTarget_eq_some_iff :
    findTarget input words = some slot ↔
      words.Spells input slot ∧
        ∀ other, words.Spells input other → other ≠ slot →
          words.Precedes slot other := by
  have chosen := chosen_findTarget words input
  constructor
  · intro found
    obtain ⟨spells, _, _, _, first⟩ := chosen.some slot found
    exact ⟨spells, fun other => first other (List.mem_finRange other)⟩
  · rintro ⟨spells, first⟩
    cases found : findTarget input words with
    | none =>
        have unspelled := (chosen.none found).2 slot (List.mem_finRange slot)
        exact absurd spells unspelled
    | some other =>
        obtain ⟨otherSpells, _, _, _, otherFirst⟩ := chosen.some other found
        by_cases same : other = slot
        · rw [same]
        · have before := first other otherSpells same
          have after := otherFirst slot (List.mem_finRange slot) spells
            (Ne.symm same)
          exact absurd after before.asymm

/-! ## Keys -/

/-- What `process_game_input` reads and writes. -/
structure PlayState where
  words : Words
  input : InputLine
  score : Int32
  isOver : Bool

namespace PlayState

/-- A line with at least one character is submitted. -/
def submitLine (state : PlayState) : PlayState :=
  match findTarget state.input.text state.words with
  | some target =>
      let word := state.words target
      let taken :=
        { state with
          words := state.words.set target word.deactivate
          input := state.input.clear }
      match word.wtype with
      | .kill => { taken with isOver := true }
      | .bonus =>
          { taken with
            score := state.score + 50 + .ofNat word.text.strlen }
      | .normal =>
          { taken with score := state.score + .ofNat word.text.strlen }
  | none => { state with input := state.input.clear }

def processGameInput (state : PlayState) (key : Int) : PlayState :=
  if key = errKey ∨ state.isOver then state
  else if key = 10 ∨ key = 32 then
    if state.input.pos > 0 then state.submitLine else state
  else if key = 263 ∨ key = 127 ∨ key = 8 then
    { state with input := state.input.backspace }
  else if 32 ≤ key ∧ key ≤ 126 then
    { state with input := state.input.append (.ofNat key.toNat) }
  else state

/-- What a submitted line does when it spells a word on the screen. -/
structure Scored (state next : PlayState) (target : Fin maxWords) : Prop where
  words : next.words =
    state.words.set target (state.words target).deactivate
  input : next.input = state.input.clear
  score : next.score = state.score +
    .ofNat (pointsOf (state.words target).text (state.words target).wtype)
  isOver : next.isOver =
    (state.isOver || (state.words target).wtype = .kill)

theorem scored_submitLine
    {state : PlayState} {target : Fin maxWords}
    (found : findTarget state.input.text state.words = some target) :
    state.Scored state.submitLine target := by
  cases wtype : (state.words target).wtype with
  | kill =>
      constructor <;> simp [submitLine, found, wtype, pointsOf]
  | bonus =>
      constructor <;> simp [submitLine, found, wtype, pointsOf,
        Int32.ofNat_add, Int32.add_assoc]
  | normal =>
      constructor <;> simp [submitLine, found, wtype, pointsOf]

/-- A key changes nothing, edits the line, or submits it. -/
inductive KeyEffect (state : PlayState) : PlayState → Prop where
  | ignored : KeyEffect state state
  | erased : KeyEffect state { state with input := state.input.backspace }
  | typed (byte : UInt8) (printable : 33 ≤ byte ∧ byte ≤ 126) :
      KeyEffect state { state with input := state.input.append byte }
  | missed (running : state.isOver = false) (some : state.input.pos > 0)
      (unspelled : findTarget state.input.text state.words = none) :
      KeyEffect state { state with input := state.input.clear }
  | scored (next : PlayState) (target : Fin maxWords)
      (running : state.isOver = false) (some : state.input.pos > 0)
      (found : findTarget state.input.text state.words = Option.some target)
      (scored : state.Scored next target) : KeyEffect state next

theorem keyEffect (state : PlayState) (key : Int) :
    state.KeyEffect (state.processGameInput key) := by
  unfold processGameInput
  split
  · exact .ignored
  · rename_i running
    rw [not_or, Bool.not_eq_true] at running
    split
    · split
      · rename_i some
        cases found : findTarget state.input.text state.words with
        | none =>
            simp only [submitLine, found]
            exact .missed running.2 some found
        | some target =>
            exact .scored _ target running.2 some found
              (scored_submitLine found)
      · exact .ignored
    · split
      · exact .erased
      · rename_i notSubmit _
        split
        · rename_i printable
          refine .typed _ ?_
          obtain ⟨code, rfl⟩ := Int.eq_ofNat_of_zero_le
            (show 0 ≤ key by omega)
          have bounds : 33 ≤ code ∧ code ≤ 126 := by
            omega
          rw [Int.toNat_natCast, UInt8.le_iff_toNat_le,
            UInt8.le_iff_toNat_le, UInt8.toNat_ofNat']
          have small : code % 2 ^ 8 = code := Nat.mod_eq_of_lt (by omega)
          rw [small]
          exact bounds
        · exact .ignored

def pressKeys (state : PlayState) (keys : List Int) : PlayState :=
  keys.foldl processGameInput state

/-- What holds after every key that is pressed. -/
theorem pressKeys_induction
    (invariant : PlayState → Prop)
    (preserved : ∀ state key, invariant state →
      invariant (state.processGameInput key))
    {state : PlayState} (initial : invariant state) (keys : List Int) :
    invariant (state.pressKeys keys) := by
  induction keys generalizing state with
  | nil => exact initial
  | cons key keys induction => exact induction (preserved state key initial)

end PlayState

/-! ## The game without other threads -/

namespace Game

def play (game : Game) : PlayState :=
  ⟨game.words, game.input, game.score, game.isOver⟩

/-- The main thread gets there while no other thread takes a step. -/
def Reaches (game next : Game) : Prop :=
  ∃ count, step.run game (List.replicate count (.main .idle)) = some next

/-- No mutex that `process_game_input` takes is held. -/
structure InputFree (game : Game) : Prop where
  words : game.owners .words = none
  hash : game.owners .hash = none
  gameState : game.owners .gameState = none

variable {game middle next : Game} {key : Int}

theorem Reaches.refl (game : Game) : game.Reaches game :=
  ⟨0, rfl⟩

theorem Reaches.head
    (stepped : step game (.main .idle) = some middle)
    (rest : middle.Reaches next) : game.Reaches next := by
  obtain ⟨count, ran⟩ := rest
  refine ⟨count + 1, ?_⟩
  rw [List.replicate_succ, Machine.run_cons_eq_some_iff]
  exact ⟨middle, stepped, ran⟩

private theorem reaches_submitLine
    (current : game.main = .inputLock) (free : game.InputFree) :
    ∃ next, game.Reaches next ∧ next.main = .spawnCheckLock ∧
      next.owners = game.owners ∧ next.lives = game.lives ∧
        next.play = game.play.submitLine := by
  obtain ⟨words, hash, gameState⟩ := free
  have wants : game.main.operation game.words = .lock .words := by
    rw [current]
    rfl
  cases found : findTarget game.input.text game.words with
  | none =>
      refine ⟨_, .head (step_lock .words wants words)
        (.head (step_unlock .words ?_ ?_) (.refl _)), ?_, ?_, ?_, ?_⟩
      all_goals
        simp [withOwners, mainStep, current, chooseTarget, found, goto,
          MainPc.operation, play, PlayState.submitLine, words]
  | some target =>
      refine ⟨_, .head (step_lock .words wants words)
        (.head (step_lock .hash ?_ ?_)
          (.head (step_unlock .hash ?_ ?_)
            (.head (step_unlock .words ?_ ?_)
              (.head (step_lock .gameState ?_ ?_)
                (.head (step_unlock .gameState ?_ ?_)
                  (.refl _)))))), ?_, ?owners, ?lives, ?play⟩
      case owners =>
          funext mutex
          cases mutex <;> simp [withOwners, words, hash, gameState]
      case lives =>
          cases wtype : (game.words target).wtype <;>
            simp [withOwners, mainStep, current, chooseTarget, found, goto,
              settle, setWord, removeActive, scoreWord, wtype]
      case play =>
          cases wtype : (game.words target).wtype <;>
            simp [withOwners, mainStep, current, chooseTarget, found, goto,
              settle, setWord, removeActive, scoreWord, play,
              PlayState.submitLine, wtype, Word.deactivate]
      all_goals
        simp [withOwners, mainStep, current, chooseTarget, found, goto,
          settle, setWord, removeActive, MainPc.operation, hash, gameState]

private theorem handleKey_edits
    (typed : key ≠ errKey) (running : game.isOver = false)
    (edits : ¬((key = 10 ∨ key = 32) ∧ game.input.pos > 0)) :
    (game.handleKey key).main = .spawnCheckLock ∧
      (game.handleKey key).lives = game.lives ∧
        (game.handleKey key).play = game.play.processGameInput key := by
  have goesOn : ¬(key = errKey ∨ game.play.isOver = true) := by
    rintro (unread | gameOver)
    · exact typed unread
    · cases running.symm.trans gameOver
  rw [handleKey, PlayState.processGameInput, if_neg goesOn]
  by_cases submits : key = 10 ∨ key = 32
  · have empty : ¬game.input.pos > 0 := fun some => edits ⟨submits, some⟩
    have emptyPlay : ¬game.play.input.pos > 0 := empty
    rw [if_pos submits, if_pos submits, if_neg empty, if_neg emptyPlay]
    exact ⟨rfl, rfl, rfl⟩
  · rw [if_neg submits, if_neg submits]
    by_cases erases : key = 263 ∨ key = 127 ∨ key = 8
    · rw [if_pos erases, if_pos erases]
      exact ⟨rfl, rfl, rfl⟩
    · rw [if_neg erases, if_neg erases]
      by_cases printable : 32 ≤ key ∧ key ≤ 126
      · rw [if_pos printable, if_pos printable]
        exact ⟨rfl, rfl, rfl⟩
      · rw [if_neg printable, if_neg printable]
        exact ⟨rfl, rfl, rfl⟩

/-- The program points between reading a key and the next spawn do what
`process_game_input` does. -/
theorem reaches_processGameInput
    (current : game.main = .inputOverLock key) (typed : key ≠ errKey)
    (free : game.InputFree) :
    ∃ next, game.Reaches next ∧ next.main = .spawnCheckLock ∧
      next.owners = game.owners ∧ next.lives = game.lives ∧
        next.play = game.play.processGameInput key := by
  have wants : game.main.operation game.words = .lock .gameState := by
    rw [current]
    rfl
  let read : Game :=
    { game.goto (.inputOverUnlock key game.isOver) with
      owners := Function.update game.owners .gameState (some .main) }
  have first : step game (.main .idle) = some read := by
    rw [step_lock .gameState wants free.gameState]
    simp only [withOwners, mainStep, current, read]
  let handled : Game := { read.mainStep .idle with owners := game.owners }
  have second : step read (.main .idle) = some handled := by
    rw [step_unlock .gameState rfl (by simp [read])]
    simp [withOwners, handled, read, free.gameState]
  have reached : game.Reaches handled := .head first (.head second (.refl _))
  by_cases gameOver : game.isOver = true
  · refine ⟨handled, reached, ?_, rfl, ?_, ?_⟩
    · simp [handled, read, mainStep, goto, gameOver]
    · simp [handled, read, mainStep, goto, gameOver]
    · simp [handled, read, mainStep, goto, play, PlayState.processGameInput,
        gameOver]
  · by_cases submits : (key = 10 ∨ key = 32) ∧ game.input.pos > 0
    · have atLock : handled.main = .inputLock := by
        simp [handled, read, mainStep, goto, handleKey, gameOver, submits]
      have samePlay : handled.play = game.play := by
        simp [handled, read, mainStep, goto, handleKey, gameOver, submits,
          play]
      have sameLives : handled.lives = game.lives := by
        simp [handled, read, mainStep, goto, handleKey, gameOver, submits]
      obtain ⟨next, ⟨count, ran⟩, atCheck, owners, lives, submitted⟩ :=
        reaches_submitLine atLock ⟨free.words, free.hash, free.gameState⟩
      refine ⟨next, .head first (.head second ⟨count, ran⟩), atCheck, owners,
        lives.trans sameLives, ?_⟩
      rw [submitted, samePlay]
      simp [PlayState.processGameInput, play, typed, gameOver, submits]
    · have running : game.isOver = false := Bool.not_eq_true _ ▸ gameOver
      have sameHandled : handled.main = (read.handleKey key).main ∧
          handled.lives = (read.handleKey key).lives ∧
            handled.play = (read.handleKey key).play := by
        simp [handled, read, mainStep, goto, play, running]
      have edited : (read.handleKey key).main = .spawnCheckLock ∧
          (read.handleKey key).lives = game.lives ∧
            (read.handleKey key).play = game.play.processGameInput key :=
        handleKey_edits typed running submits
      exact ⟨handled, reached, sameHandled.1.trans edited.1, rfl,
        sameHandled.2.1.trans edited.2.1, sameHandled.2.2.trans edited.2.2⟩

end Game

end RainTyping
