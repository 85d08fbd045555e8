import RainTyping.Client.GameInput

/-!
# A line editor in front of the words

The abstract model behind `process_game_input`: a text that keys edit, and a
choice among the words that the text spells, by an order on their slots.  The
buffer, its position and the scan for the target are how the game does it.
-/

namespace RainTyping

/-- The text of a line editor after a key. -/
def editText (text : List UInt8) (key : Int) : List UInt8 :=
  if key = 10 ∨ key = 32 then []
  else if key = 263 ∨ key = 127 ∨ key = 8 then text.dropLast
  else if 33 ≤ key ∧ key ≤ 126 ∧ text.length < inputBufferLen - 1 then
    text ++ [.ofNat key.toNat]
  else text

/-- An active word that is equal to the text. -/
def Word.Matches (word : Word) (text : List UInt8) : Prop :=
  word.active = true ∧ text = word.text.bytes

instance (word : Word) (text : List UInt8) : Decidable (word.Matches text) :=
  inferInstanceAs (Decidable (_ ∧ _))

/-- The least priority first, then the lowest row, then the first slot. -/
def Words.Before (words : Words) (slot other : Fin maxWords) : Prop :=
  (words slot).wtype.prio < (words other).wtype.prio ∨
    (words slot).wtype.prio = (words other).wtype.prio ∧
      ((words slot).y > (words other).y ∨
        (words slot).y = (words other).y ∧ slot ≤ other)

instance (words : Words) : DecidableRel words.Before :=
  fun _ _ => inferInstanceAs (Decidable (_ ∨ _))

/-- The first of the words that match the text. -/
def Words.IsFirst (words : Words) (text : List UInt8)
    (slot : Fin maxWords) : Prop :=
  (words slot).Matches text ∧
    ∀ other, (words other).Matches text → words.Before slot other

instance (words : Words) (text : List UInt8) :
    DecidablePred (words.IsFirst text) :=
  fun _ => inferInstanceAs (Decidable (_ ∧ _))

def Words.chosen (words : Words) (text : List UInt8) :
    Option (Fin maxWords) :=
  (List.finRange maxWords).find? fun slot => words.IsFirst text slot

structure Console where
  text : List UInt8
  words : Words
  score : Int32
  lives : Int
  isOver : Bool

namespace Console

/-- Enter or space behind a text. -/
def submit (console : Console) : Console :=
  match console.words.chosen console.text with
  | none => console
  | some slot =>
      let word := console.words slot
      let taken :=
        { console with words := console.words.set slot word.deactivate }
      match word.wtype with
      | .kill => { taken with isOver := true }
      | .bonus =>
          { taken with
            score := console.score + .ofNat (50 + word.text.strlen) }
      | .normal =>
          { taken with score := console.score + .ofNat word.text.strlen }

def press (console : Console) (key : Int) : Console :=
  if console.isOver then console
  else
    let submitted :=
      if (key = 10 ∨ key = 32) ∧ console.text ≠ [] then console.submit
      else console
    { submitted with text := editText console.text key }

def pressKeys (console : Console) (keys : List Int) : Console :=
  keys.foldl press console

end Console

/-- `process_game_input` leaves `current_game_lives` alone. -/
structure InputState extends PlayState where
  lives : Int

namespace InputState

def processGameInput (state : InputState) (key : Int) : InputState :=
  { state with toPlayState := state.toPlayState.processGameInput key }

def pressKeys (state : InputState) (keys : List Int) : InputState :=
  keys.foldl processGameInput state

/-- The game shows the text, and all else is the same. -/
structure Shows (state : InputState) (console : Console) : Prop where
  holds : state.input.Holds console.text
  noNul : 0 ∉ console.text
  words : state.words = console.words
  score : state.score = console.score
  lives : state.lives = console.lives
  isOver : state.isOver = console.isOver

end InputState

/-! ## The order among the words -/

section Order

variable {words : Words} {slot other : Fin maxWords} {text : List UInt8}

theorem before_refl (words : Words) (slot : Fin maxWords) :
    words.Before slot slot :=
  .inr ⟨rfl, .inr ⟨rfl, Fin.le_refl slot⟩⟩

theorem before_antisymm
    (before : words.Before slot other) (after : words.Before other slot) :
    slot = other := by
  apply Fin.le_antisymm
  · simp only [Words.Before] at before after
    omega
  · simp only [Words.Before] at before after
    omega

theorem before_iff_precedes (differs : other ≠ slot) :
    words.Before slot other ↔ words.Precedes slot other := by
  have apart : (other : Nat) ≠ slot := fun same => differs (Fin.ext same)
  simp only [Words.Before, Words.Precedes, Word.Beats]
  omega

theorem chosen_eq_some_iff :
    words.chosen text = some slot ↔ words.IsFirst text slot := by
  have isFirst : ∀ {found}, words.chosen text = some found →
      words.IsFirst text found := by
    intro other found
    rw [Words.chosen] at found
    have passes := List.find?_some found
    exact of_decide_eq_true passes
  constructor
  · exact isFirst
  · intro first
    cases found : words.chosen text with
    | none =>
        have nothing := List.find?_eq_none.mp found slot
          (List.mem_finRange slot)
        exact absurd (decide_eq_true first) nothing
    | some other =>
        have otherFirst := isFirst found
        rw [before_antisymm (otherFirst.2 slot first.1)
          (first.2 other otherFirst.1)]

/-- The scan finds the first word in this order. -/
theorem findTarget_eq_chosen (words : Words) (input : CString) :
    findTarget input words = words.chosen input.bytes := by
  apply Option.ext
  intro slot
  rw [findTarget_eq_some_iff, chosen_eq_some_iff]
  apply and_congr_right
  intro spells
  apply forall_congr'
  intro other
  apply forall_congr'
  intro otherSpells
  by_cases same : other = slot
  · rw [same]
    exact iff_of_true (absurd rfl) (before_refl words slot)
  · rw [before_iff_precedes same]
    exact ⟨fun precedes => precedes same, fun precedes _ => precedes⟩

end Order

/-! ## The game as the editor -/

private theorem noNul_editText
    {text : List UInt8} (noNul : 0 ∉ text) (key : Int) :
    0 ∉ editText text key := by
  rw [editText]
  split
  · simp
  · split
    · exact fun member => noNul (List.mem_of_mem_dropLast member)
    · split
      · rename_i printable
        intro member
        rcases List.mem_append.mp member with before | last
        · exact noNul before
        · have zero := congrArg UInt8.toNat (List.mem_singleton.mp last)
          rw [UInt8.toNat_ofNat'] at zero
          have small : key.toNat % 2 ^ 8 = key.toNat :=
            Nat.mod_eq_of_lt (by omega)
          rw [small, UInt8.toNat_zero] at zero
          omega
      · exact noNul

namespace InputState

variable {state : InputState} {console : Console}

theorem Shows.submit (shows : state.Shows console) :
    Shows { state with toPlayState := state.submitLine }
      { console.submit with text := [] } := by
  obtain ⟨⟨words, input, score, isOver⟩, lives⟩ := state
  obtain ⟨text, _, _, _, _⟩ := console
  obtain ⟨holds, noNul, rfl, rfl, rfl, rfl⟩ := shows
  have found : findTarget input.text words = words.chosen text := by
    rw [findTarget_eq_chosen, holds.text noNul]
  have cleared := input.holds_clear
  have nothing : 0 ∉ ([] : List UInt8) := List.not_mem_nil
  cases chosen : words.chosen text with
  | none =>
      simp only [PlayState.submitLine, found, Console.submit, chosen]
      exact ⟨cleared, nothing, rfl, rfl, rfl, rfl⟩
  | some slot =>
      cases wtype : (words slot).wtype with
      | kill =>
          simp only [PlayState.submitLine, found, Console.submit, chosen,
            wtype]
          exact ⟨cleared, nothing, rfl, rfl, rfl, rfl⟩
      | bonus =>
          have sum : score + 50 + .ofNat (words slot).text.strlen =
              score + .ofNat (50 + (words slot).text.strlen) := by
            rw [Int32.ofNat_add, Int32.add_assoc]
            rfl
          simp only [PlayState.submitLine, found, Console.submit, chosen,
            wtype, sum]
          exact ⟨cleared, nothing, rfl, rfl, rfl, rfl⟩
      | normal =>
          simp only [PlayState.submitLine, found, Console.submit, chosen,
            wtype]
          exact ⟨cleared, nothing, rfl, rfl, rfl, rfl⟩

private theorem holds_appended
    {line : InputLine} {text : List UInt8} {key : Int}
    (holds : line.Holds text) (printable : 32 ≤ key ∧ key ≤ 126)
    (noSubmit : ¬(key = 10 ∨ key = 32))
    (noErase : ¬(key = 263 ∨ key = 127 ∨ key = 8)) :
    (line.append (.ofNat key.toNat)).Holds (editText text key) := by
  rw [editText, if_neg noSubmit, if_neg noErase]
  by_cases room : text.length < inputBufferLen - 1
  · rw [if_pos ⟨by omega, printable.2, room⟩]
    exact holds.append _ room
  · rw [if_neg fun both => room both.2.2, holds.append_full _ room]
    exact holds

theorem Shows.press
    (shows : state.Shows console) (key : Int) :
    (state.processGameInput key).Shows (console.press key) := by
  have submitted := shows.submit
  have same : ∀ line : InputLine, line.Holds (editText console.text key) →
      Shows { state with input := line }
        { console with text := editText console.text key } :=
    fun line holds => ⟨holds, noNul_editText shows.noNul key, shows.words,
      shows.score, shows.lives, shows.isOver⟩
  rw [processGameInput, PlayState.processGameInput, Console.press,
    ← shows.isOver]
  by_cases gameOver : state.isOver = true
  · rw [if_pos (.inr gameOver), if_pos gameOver]
    exact shows
  have typed : key ≠ -1 → ¬(key = errKey ∨ state.isOver = true) :=
    fun read => not_or.mpr ⟨read, gameOver⟩
  rw [if_neg gameOver]
  by_cases submits : key = 10 ∨ key = 32
  · have cleared : editText console.text key = [] := if_pos submits
    rw [if_neg (typed (by omega)), if_pos submits]
    by_cases there : console.text = []
    · have empty : ¬state.input.pos > 0 := by
        rw [shows.holds.pos, there]
        exact Nat.lt_irrefl 0
      rw [if_neg empty, if_neg fun both => both.2 there]
      apply same state.input
      rw [cleared, ← there]
      exact shows.holds
    · have some : state.input.pos > 0 := by
        rw [shows.holds.pos]
        exact List.length_pos_of_ne_nil there
      rw [if_pos some, if_pos ⟨submits, there⟩, cleared]
      exact submitted
  have noSubmit : ¬((key = 10 ∨ key = 32) ∧ console.text ≠ []) :=
    fun both => submits both.1
  rw [if_neg noSubmit]
  by_cases erases : key = 263 ∨ key = 127 ∨ key = 8
  · have shorter : editText console.text key = console.text.dropLast := by
      rw [editText, if_neg submits, if_pos erases]
    rw [if_neg (typed (by omega)), if_neg submits, if_pos erases]
    apply same
    rw [shorter]
    exact shows.holds.backspace
  by_cases printable : 32 ≤ key ∧ key ≤ 126
  · rw [if_neg (typed (by omega)), if_neg submits, if_neg erases,
      if_pos printable]
    exact same _ (holds_appended shows.holds printable submits erases)
  · have unchanged : editText console.text key = console.text := by
      rw [editText, if_neg submits, if_neg erases, if_neg (by omega)]
    rw [if_neg submits, if_neg erases, if_neg printable, ite_self]
    apply same state.input
    rw [unchanged]
    exact shows.holds

theorem Shows.pressKeys
    (shows : state.Shows console) (keys : List Int) :
    (state.pressKeys keys).Shows (console.pressKeys keys) := by
  induction keys generalizing state console with
  | nil => exact shows
  | cons key keys induction => exact induction (shows.press key)

end InputState

namespace Console

variable {console : Console}

/-- Only the end of the game keeps a key from the editor. -/
theorem text_press
    {key : Int} (running : (console.press key).isOver = false) :
    console.isOver = false ∧
      (console.press key).text = editText console.text key := by
  by_cases gameOver : console.isOver = true
  · rw [press, if_pos gameOver] at running
    exact absurd (gameOver.symm.trans running) nofun
  · refine ⟨Bool.not_eq_true _ ▸ gameOver, ?_⟩
    rw [press, if_neg gameOver]

theorem text_pressKeys
    {keys : List Int} (running : (console.pressKeys keys).isOver = false) :
    console.isOver = false ∧
      (console.pressKeys keys).text = keys.foldl editText console.text := by
  induction keys generalizing console with
  | nil => exact ⟨running, rfl⟩
  | cons key keys induction =>
      obtain ⟨stillRunning, text⟩ := induction running
      obtain ⟨wasRunning, edited⟩ := text_press stillRunning
      refine ⟨wasRunning, ?_⟩
      rw [edited] at text
      exact text

end Console

namespace InputState

/-- From an empty line on, every sequence of keys leaves the game as it leaves
the line editor in front of the words, which takes no key once the game is
over.  Up to then the text is that of the editor alone. -/
theorem shows_pressKeys
    (words : Words) (line : InputLine) (score : Int32) (lives : Int)
    (isOver : Bool) (keys : List Int) :
    (InputState.pressKeys ⟨⟨words, line.clear, score, isOver⟩, lives⟩
        keys).Shows (Console.pressKeys ⟨[], words, score, lives, isOver⟩
          keys) ∧
      ((InputState.pressKeys ⟨⟨words, line.clear, score, isOver⟩, lives⟩
        keys).isOver = false →
          (InputState.pressKeys ⟨⟨words, line.clear, score, isOver⟩, lives⟩
            keys).input.Holds (keys.foldl editText [])) := by
  have empty : Shows ⟨⟨words, line.clear, score, isOver⟩, lives⟩
      ⟨[], words, score, lives, isOver⟩ :=
    ⟨line.holds_clear, List.not_mem_nil, rfl, rfl, rfl, rfl⟩
  have shows := empty.pressKeys keys
  refine ⟨shows, fun running => ?_⟩
  rw [shows.isOver] at running
  have text := (Console.text_pressKeys running).2
  rw [← text]
  exact shows.holds

/-- The kill word "a" in the first slot. -/
def killWord : Words :=
  Words.set (fun _ => .zero) 0
    { Word.zero with
      text := .store maxWordLen (text "a")
      active := true
      wtype := .kill
      threadId := 1 }

/-- Behind a kill word, the editor alone goes on. -/
theorem keys_ignored_when_over :
    (InputState.pressKeys ⟨⟨killWord, InputLine.blank, 0, false⟩, 5⟩
        [97, 10, 98]).input.text.bytes ≠
      [97, 10, 98].foldl editText [] := by
  decide +kernel

end InputState

namespace Game

def inputState (game : Game) : InputState :=
  ⟨game.play, game.lives⟩

/-- One call of `process_game_input` in the main thread. -/
theorem reaches_inputState
    {game : Game} {key : Int} (current : game.main = .inputOverLock key)
    (typed : key ≠ errKey) (free : game.InputFree) :
    ∃ next, game.Reaches next ∧ next.main = .spawnCheckLock ∧
      next.inputState = game.inputState.processGameInput key := by
  obtain ⟨next, reached, returned, _, lives, play⟩ :=
    reaches_processGameInput current typed free
  refine ⟨next, reached, returned, ?_⟩
  rw [inputState, lives, play]
  rfl

end Game

end RainTyping
