import Mathlib.Algebra.Order.BigOperators.Group.List
import RainTyping.Client.GameInput
import RainTyping.Server.WordManager

/-!
# Words that can be typed

The loader of the server accepts more words than the keyboard of the game can
spell and than a slot can show.
-/

namespace RainTyping

/-- Every byte is on a key that appends it to the input line. -/
def Typeable (bytes : List UInt8) : Prop :=
  ∀ byte ∈ bytes, 33 ≤ byte ∧ byte ≤ 126

instance (bytes : List UInt8) : Decidable (Typeable bytes) :=
  inferInstanceAs (Decidable (∀ byte ∈ bytes, _))

theorem Typeable.noNul
    {bytes : List UInt8} (typeable : Typeable bytes) : 0 ∉ bytes := by
  intro member
  have printable := (typeable 0 member).1
  exact absurd printable (by decide)

namespace PlayState

/-- The points of a word of which all of the text counts. -/
def wordPoints (word : CString) : WordType → Nat
  | .kill => 0
  | .bonus => word.strlen + 50
  | .normal => word.strlen

/-- The slot shows the whole word, and some keys take it off the screen and
score its length. -/
structure CanBeTyped (state : PlayState) (slot : Fin maxWords)
    (word : CString) : Prop where
  shown : (state.words slot).text.toCString = word
  typed : ∃ keys,
    ((state.pressKeys keys).words slot).active = false ∧
      ((state.words slot).wtype ≠ .kill →
        (state.pressKeys keys).score = state.score +
          .ofNat (wordPoints word (state.words slot).wtype))

variable {start state next : PlayState} {slot other target : Fin maxWords}

/-- The word has been typed since the start. -/
def Taken (start state : PlayState) (slot : Fin maxWords) : Prop :=
  (start.words slot).active = true ∧
    state.words slot = (start.words slot).deactivate

/-- The points of a slot. -/
def slotPoints (start : PlayState) (slot : Fin maxWords) : Nat :=
  pointsOf (start.words slot).text (start.words slot).wtype

/-- What a state has come to by keys alone: words have been typed that were
preferred to all others with their text, and they are all that is scored. -/
structure Played (start state : PlayState) : Prop where
  input : ∃ typed, state.input.Holds typed ∧ Typeable typed
  words : ∀ slot, state.words slot = start.words slot ∨
    start.Taken state slot
  readable : ∀ slot, start.Taken state slot →
    (start.words slot).text.bytes ≠ [] ∧
      Typeable (start.words slot).text.bytes
  first : ∀ slot, start.Taken state slot → ∀ other, other ≠ slot →
    start.words.Spells (start.words slot).text.toCString other →
      start.words.Precedes slot other ∨
        start.Taken state other ∧ (start.words other).wtype ≠ .kill
  score : ∃ taken : List (Fin maxWords), taken.Nodup ∧
    (∀ slot, slot ∈ taken ↔ start.Taken state slot) ∧
      state.score = start.score + .ofNat (taken.map start.slotPoints).sum
  alive : state.isOver = false → ∀ slot, start.Taken state slot →
    (start.words slot).wtype ≠ .kill

namespace Played

private theorem edit
    (played : start.Played state) {input : InputLine} {typed : List UInt8}
    (holds : input.Holds typed) (typeable : Typeable typed) :
    start.Played { state with input := input } :=
  ⟨⟨typed, holds, typeable⟩, played.words, played.readable, played.first,
    played.score, played.alive⟩

private theorem same_of_active
    (played : start.Played state)
    (active : (state.words slot).active = true) :
    state.words slot = start.words slot := by
  rcases played.words slot with same | taken
  · exact same
  · rw [taken.2] at active
    cases active

private theorem taken_of_scored
    (scored : state.Scored next target)
    (same : state.words target = start.words target)
    (active : (start.words target).active = true) :
    start.Taken next slot ↔ start.Taken state slot ∨ slot = target := by
  unfold Taken
  rw [scored.words, Words.set_apply]
  by_cases here : slot = target
  · subst here
    rw [if_pos rfl, same]
    exact iff_of_true ⟨active, rfl⟩ (.inr rfl)
  · rw [if_neg here]
    exact (or_iff_left here).symm

private theorem submit
    (played : start.Played state) (running : state.isOver = false)
    (some : state.input.pos > 0)
    (found : findTarget state.input.text state.words = Option.some target)
    (scored : state.Scored next target) : start.Played next := by
  obtain ⟨⟨active, sameText⟩, preferred⟩ := findTarget_eq_some_iff.mp found
  have same := played.same_of_active active
  rw [same] at active sameText
  obtain ⟨typed, holds, typeable⟩ := played.input
  rw [holds.text typeable.noNul] at sameText
  have taken : ∀ slot, start.Taken next slot ↔
      start.Taken state slot ∨ slot = target :=
    fun slot => taken_of_scored scored same active
  have alive := played.alive running
  constructor
  case input =>
      rw [scored.input]
      exact ⟨[], state.input.holds_clear, nofun⟩
  case words =>
      intro slot
      rcases played.words slot with unchanged | gone
      · by_cases here : slot = target
        · exact .inr ((taken slot).mpr (.inr here))
        · rw [scored.words, Words.set_of_ne _ _ here]
          exact .inl unchanged
      · exact .inr ((taken slot).mpr (.inl gone))
  case readable =>
      intro slot gone
      rcases (taken slot).mp gone with before | rfl
      · exact played.readable slot before
      · rw [← sameText]
        refine ⟨?_, typeable⟩
        rintro rfl
        rw [holds.pos] at some
        exact absurd some (Nat.lt_irrefl 0)
  case first =>
      intro slot gone other differs spells
      rcases (taken slot).mp gone with before | rfl
      · rcases played.first slot before other differs spells with
          precedes | ⟨otherGone, harmless⟩
        · exact .inl precedes
        · exact .inr ⟨(taken other).mpr (.inl otherGone), harmless⟩
      · rcases played.words other with unchanged | otherGone
        · have spelled : state.words.Spells state.input.text other := by
            rw [Words.Spells, unchanged, holds.text typeable.noNul, sameText]
            exact spells
          have precedes := preferred other spelled differs
          rw [Words.Precedes, unchanged, same] at precedes
          exact .inl precedes
        · exact .inr ⟨(taken other).mpr (.inl otherGone),
            alive other otherGone⟩
  case score =>
      obtain ⟨slots, distinct, members, score⟩ := played.score
      have absent : target ∉ slots := by
        intro member
        have gone := ((members target).mp member).2
        rw [same] at gone
        have inactive := congrArg Word.active gone
        rw [active] at inactive
        cases inactive
      refine ⟨target :: slots, List.nodup_cons.mpr ⟨absent, distinct⟩, ?_, ?_⟩
      · intro slot
        rw [List.mem_cons, members, taken]
        exact or_comm
      · rw [scored.score, score, same, List.map_cons, List.sum_cons,
          Nat.add_comm, Int32.ofNat_add, Int32.add_assoc]
        rfl
  case alive =>
      intro continues slot gone
      rw [scored.isOver, Bool.or_eq_false_iff, same] at continues
      rcases (taken slot).mp gone with before | rfl
      · exact alive slot before
      · simpa using continues.2

theorem step
    (played : start.Played state) (effect : state.KeyEffect next) :
    start.Played next := by
  cases effect with
  | ignored => exact played
  | erased =>
      obtain ⟨typed, holds, typeable⟩ := played.input
      apply played.edit holds.backspace
      intro byte member
      exact typeable byte (List.dropLast_subset typed member)
  | typed byte printable =>
      obtain ⟨typed, holds, typeable⟩ := played.input
      by_cases room : typed.length < inputBufferLen - 1
      · apply played.edit (holds.append byte room)
        intro other member
        rcases List.mem_append.mp member with before | last
        · exact typeable other before
        · rw [List.mem_singleton.mp last]
          exact printable
      · rw [holds.append_full byte room]
        exact played
  | missed running some unspelled =>
      exact played.edit state.input.holds_clear nofun
  | scored next target running some found scored =>
      exact played.submit running some found scored

theorem initial (blank : start.input.Holds []) : start.Played start := by
  have untaken : ∀ slot, ¬start.Taken start slot := by
    rintro slot ⟨active, gone⟩
    have inactive := congrArg Word.active gone
    rw [active] at inactive
    cases inactive
  constructor
  case input => exact ⟨[], blank, nofun⟩
  case words => exact fun slot => .inl rfl
  case readable => exact fun slot gone => absurd gone (untaken slot)
  case first => exact fun slot gone => absurd gone (untaken slot)
  case score =>
      refine ⟨[], List.nodup_nil, ?_, ?_⟩
      · exact fun slot => iff_of_false List.not_mem_nil (untaken slot)
      · exact (Int32.add_zero _).symm
  case alive => exact fun _ slot gone => absurd gone (untaken slot)

theorem of_keys
    (blank : start.input.Holds []) (keys : List Int) :
    start.Played (start.pressKeys keys) := by
  apply pressKeys_induction start.Played _ (initial blank)
  intro state key played
  exact played.step (state.keyEffect key)

private theorem slotPoints_le : start.slotPoints slot ≤ 79 := by
  have fits : (start.words slot).text.bytes.length < 30 :=
    (start.words slot).text.fits
  unfold slotPoints pointsOf CString.strlen
  split <;> omega

private theorem slotPoints_pos
    (nonempty : (start.words slot).text.bytes ≠ [])
    (harmless : (start.words slot).wtype ≠ .kill) :
    0 < start.slotPoints slot := by
  have long := List.length_pos_iff.mpr nonempty
  unfold slotPoints pointsOf CString.strlen
  split
  · exact absurd ‹_› harmless
  · omega
  · exact long

private theorem sum_slotPoints_lt
    {slots : List (Fin maxWords)} (distinct : slots.Nodup) :
    (slots.map start.slotPoints).sum < 2 ^ 31 := by
  have count : slots.length ≤ 20 := by
    simpa using distinct.length_le_card
  have bound : (slots.map start.slotPoints).sum ≤
      (slots.map start.slotPoints).length • 79 := by
    apply List.sum_le_card_nsmul
    intro points member
    obtain ⟨slot, _, rfl⟩ := List.mem_map.mp member
    exact slotPoints_le
  rw [List.length_map, Nat.nsmul_eq_mul] at bound
  omega

/-- When the score grows by the points of one slot, no other word that counts
has been typed. -/
private theorem alone_of_score
    (played : start.Played state) (gone : start.Taken state slot)
    (score : state.score = start.score + .ofNat (start.slotPoints slot))
    (otherGone : start.Taken state other) (differs : other ≠ slot) :
    (start.words other).wtype = .kill := by
  by_contra harmless
  obtain ⟨slots, distinct, members, total⟩ := played.score
  have sameSum : (slots.map start.slotPoints).sum = start.slotPoints slot := by
    have same : Int32.ofNat (slots.map start.slotPoints).sum =
        .ofNat (start.slotPoints slot) :=
      (Int32.add_right_inj start.score).mp (total.symm.trans score)
    have whole := congrArg Int32.toInt same
    rw [Int32.toInt_ofNat_of_lt (sum_slotPoints_lt distinct),
      Int32.toInt_ofNat_of_lt
        (Nat.lt_of_le_of_lt slotPoints_le (by decide))] at whole
    exact Int.ofNat_inj.mp whole
  have split : start.slotPoints slot +
      ((slots.erase slot).map start.slotPoints).sum =
        (slots.map start.slotPoints).sum :=
    List.sum_map_erase _ ((members slot).mpr gone)
  have counted : start.slotPoints other ≤
      ((slots.erase slot).map start.slotPoints).sum := by
    apply List.le_sum_of_mem
    apply List.mem_map_of_mem
    exact (List.mem_erase_of_ne differs).mpr ((members other).mpr otherGone)
  have positive := slotPoints_pos (played.readable other otherGone).1 harmless
  omega

end Played

/-! ## Typing a word -/

private theorem processGameInput_printable
    (running : state.isOver = false) {byte : UInt8}
    (printable : 33 ≤ byte ∧ byte ≤ 126) :
    state.processGameInput byte.toNat =
      { state with input := state.input.append byte } := by
  rw [UInt8.le_iff_toNat_le, UInt8.le_iff_toNat_le] at printable
  have bounds : 33 ≤ byte.toNat ∧ byte.toNat ≤ 126 := printable
  unfold processGameInput
  rw [if_neg, if_neg, if_neg, if_pos]
  · rw [Int.toNat_natCast, UInt8.ofNat_toNat]
  · omega
  · omega
  · omega
  · rw [running]
    have typed : (byte.toNat : Int) ≠ errKey := by
      rw [errKey]
      omega
    simpa using typed

private theorem pressKeys_bytes
    {typed bytes : List UInt8} (running : state.isOver = false)
    (holds : state.input.Holds typed) (typeable : Typeable bytes)
    (room : typed.length + bytes.length ≤ inputBufferLen - 1) :
    ∃ input, state.pressKeys (bytes.map fun byte => (byte.toNat : Int)) =
        { state with input := input } ∧
      input.Holds (typed ++ bytes) := by
  induction bytes generalizing state typed with
  | nil =>
      rw [List.append_nil]
      exact ⟨state.input, rfl, holds⟩
  | cons byte bytes induction =>
      rw [List.length_cons] at room
      have printable := typeable byte List.mem_cons_self
      have appended := holds.append byte (by omega)
      let after : PlayState := { state with input := state.input.append byte }
      obtain ⟨input, pressed, finished⟩ :=
        @induction after (typed ++ [byte]) running appended
          (fun other member => typeable other (List.mem_cons_of_mem _ member))
          (by rw [List.length_append, List.length_singleton]; omega)
      refine ⟨input, ?_, ?_⟩
      · rw [List.map_cons, pressKeys, List.foldl_cons,
          processGameInput_printable running printable]
        exact pressed
      · rwa [List.append_assoc] at finished

private theorem processGameInput_enter
    (running : state.isOver = false) (some : state.input.pos > 0) :
    state.processGameInput 10 = state.submitLine := by
  have typed : ¬((10 : Int) = errKey ∨ state.isOver = true) := by
    rw [running]
    decide
  rw [processGameInput, if_neg typed, if_pos (.inl rfl), if_pos some]

private theorem slotPoints_eq
    {word : CString} (shown : (state.words slot).text.toCString = word) :
    state.slotPoints slot = wordPoints word (state.words slot).wtype := by
  rw [slotPoints, ← shown]
  cases (state.words slot).wtype with
  | normal => rfl
  | kill => rfl
  | bonus => exact Nat.add_comm 50 _

/-- The conditions are enough: the word and Enter. -/
theorem canBeTyped_of_typeable
    {word : CString} (nonempty : word.bytes ≠ [])
    (shown : (state.words slot).text.toCString = word)
    (active : (state.words slot).active = true)
    (blank : state.input.Holds []) (running : state.isOver = false)
    (typeable : Typeable word.bytes)
    (preferred : ∀ other, state.words.Spells word other → other ≠ slot →
      state.words.Precedes slot other) :
    state.CanBeTyped slot word := by
  have fits : word.bytes.length < 30 := by
    rw [← shown]
    exact (state.words slot).text.fits
  obtain ⟨input, pressed, holds⟩ := pressKeys_bytes running blank typeable
    (by rw [List.length_nil, inputBufferLen, maxWordLen]; omega)
  rw [List.nil_append] at holds
  have text : input.text = word := CString.ext (holds.text typeable.noNul)
  have found : findTarget input.text state.words = some slot := by
    rw [text]
    apply findTarget_eq_some_iff.mpr
    exact ⟨⟨active, congrArg CString.bytes shown.symm⟩, preferred⟩
  have some : input.pos > 0 := by
    rw [holds.pos]
    exact List.length_pos_iff.mpr nonempty
  let typed : PlayState := { state with input := input }
  have entered : typed.processGameInput 10 = typed.submitLine :=
    processGameInput_enter running some
  have scored : typed.Scored typed.submitLine slot := scored_submitLine found
  constructor
  case shown => exact shown
  case typed =>
      refine ⟨word.bytes.map (fun byte => (byte.toNat : Int)) ++ [10], ?_⟩
      have final : state.pressKeys
          (word.bytes.map (fun byte => (byte.toNat : Int)) ++ [10]) =
            typed.submitLine := by
        rw [pressKeys, List.foldl_append, List.foldl_cons, List.foldl_nil,
          ← entered]
        exact congrArg (fun state => processGameInput state 10) pressed
      rw [final]
      constructor
      · rw [scored.words, Words.set_same]
        rfl
      · intro _
        rw [scored.score, ← slotPoints_eq shown]
        rfl

/-- The conditions are needed, whatever keys are pressed. -/
theorem typeable_of_canBeTyped
    {word : CString} (active : (state.words slot).active = true)
    (blank : state.input.Holds []) (typable : state.CanBeTyped slot word) :
    Typeable word.bytes ∧
      ∀ other, state.words.Spells word other → other ≠ slot →
        state.words.Precedes slot other := by
  obtain ⟨shown, keys, inactive, score⟩ := typable
  have played := Played.of_keys blank keys
  have gone : state.Taken (state.pressKeys keys) slot := by
    rcases played.words slot with same | gone
    · rw [same, active] at inactive
      cases inactive
    · exact gone
  rw [← shown]
  refine ⟨(played.readable slot gone).2, ?_⟩
  intro other spells differs
  rcases played.first slot gone other differs spells with
    precedes | ⟨otherGone, harmless⟩
  · exact precedes
  · by_cases kill : (state.words slot).wtype = .kill
    · left
      left
      rw [kill]
      cases wtype : (state.words other).wtype with
      | kill => exact absurd wtype harmless
      | bonus => decide
      | normal => decide
    · rw [← slotPoints_eq shown] at score
      exact absurd
        (played.alone_of_score gone (score kill) otherGone differs) harmless

/-- A word of the loaded list can be typed when it fits a slot, every byte has
a key, and no other active slot with its text is preferred. -/
theorem canBeTyped_iff
    {rounds : List LoadCalls} {file after : WordFile}
    {list : WordListResponse} {word : CharArray maxWordStrLen}
    (loaded : loadWordlistFromFile rounds file = some (some list, after))
    (accepted : word ∈ list.words)
    (old : Word) (areaWidth : Nat) (rolls : Rolls)
    (state : PlayState) (slot : Fin maxWords)
    (filled : (state.words slot).text =
      (old.fill areaWidth word.toCString rolls).text)
    (active : (state.words slot).active = true)
    (blank : state.input.Holds []) (running : state.isOver = false) :
    state.CanBeTyped slot word.toCString ↔
      word.bytes.length < maxWordLen ∧ Typeable word.bytes ∧
        ∀ other, state.words.Spells word.toCString other → other ≠ slot →
          state.words.Precedes slot other := by
  constructor
  · intro typable
    refine ⟨?_, typeable_of_canBeTyped active blank typable⟩
    rw [← congrArg CString.bytes typable.shown]
    exact (state.words slot).text.fits
  · rintro ⟨short, typeable, preferred⟩
    have shown : (state.words slot).text.toCString = word.toCString := by
      rw [filled]
      exact CString.ext (CharArray.store_of_fits short)
    exact canBeTyped_of_typeable (nonempty_of_loaded loaded accepted) shown
      active blank running typeable preferred

/-- One slot has been filled with the word. -/
def showing (word : CString) : PlayState where
  words := Words.set (fun _ => .zero) 0 (Word.zero.fill 20 word ⟨0, 99, 99⟩)
  input := .blank
  score := 0
  isOver := false

private theorem showing_blank (word : CString) :
    (showing word).input.Holds [] :=
  ⟨rfl, _, rfl⟩

theorem canBeTyped_rain :
    (showing (.ofBuffer (text "rain"))).CanBeTyped 0
      (.ofBuffer (text "rain")) := by
  obtain ⟨list, after, loaded, accepted⟩ : ∃ list after,
      loadWordlistFromFile [.succeed] (.found (some (text "rain\n"))) =
          some (some list, after) ∧
        (.store maxWordStrLen (text "rain")) ∈ list.words :=
    ⟨_, _, rfl, by decide⟩
  refine (canBeTyped_iff loaded accepted .zero 20 ⟨0, 99, 99⟩
    (showing (.ofBuffer (text "rain"))) 0 rfl rfl (showing_blank _) rfl).mpr ?_
  refine ⟨by decide +kernel, by decide +kernel, ?_⟩
  rintro other ⟨active, _⟩ differs
  simp only [showing, Words.set_of_ne _ _ differs] at active
  cases active

/-- No key gives the bytes of a word that is not ASCII. -/
theorem accented_word_not_typable :
    ¬ ∀ rounds file after list (word : CharArray maxWordStrLen)
        (old : Word) areaWidth rolls (state : PlayState) slot,
      loadWordlistFromFile rounds file = some (some list, after) →
        word ∈ list.words →
        (state.words slot).text =
          (old.fill areaWidth word.toCString rolls).text →
        (state.words slot).active = true → state.input.Holds [] →
        state.isOver = false → state.CanBeTyped slot word.toCString := by
  intro typable
  obtain ⟨list, after, loaded, accepted⟩ : ∃ list after,
      loadWordlistFromFile [.succeed] (.found (some (text "é\n"))) =
          some (some list, after) ∧
        (.store maxWordStrLen (text "é")) ∈ list.words :=
    ⟨_, _, rfl, by decide⟩
  have typed := typable [.succeed] (.found (some (text "é\n"))) after list
    _ .zero 20 ⟨0, 99, 99⟩ (showing (.ofBuffer (text "é"))) 0 loaded accepted rfl rfl
    (showing_blank _) rfl
  have typeable := (typeable_of_canBeTyped rfl (showing_blank _) typed).1
  exact absurd typeable (by decide +kernel)

end PlayState

end RainTyping
