import RainTyping.Server.WordManager
import RainTyping.Support.LinePieces

/-!
# What becomes of the word file

Each line of `words.txt` is meant as one word or none.  The reading function
takes the file in pieces of its buffer and its loop stops at the first empty
piece, so a blank line hides every word behind it.  A loading that has found
no word for this reason replaces the file.
-/

namespace RainTyping

open LineReader

/-- The word a line stands for. -/
def wordMeant (line : List UInt8) : Option (List UInt8) :=
  let word := line.takeWhile (· ≠ carriageReturn)
  if word ≠ [] ∧ word.length < maxWordStrLen then some word else none

/-- The word `load_wordlist_from_file` takes from a piece. -/
def wordRead (piece : List UInt8) : Option (List UInt8) :=
  (wordOfLine piece).map fun word => word.bytes

/-- The reading loop gets to a word. -/
def ReachesWord (failsAfter : Option Nat) (content : List UInt8) : Prop :=
  ∃ piece, Reached newline failsAfter.isSome wordLineRoom
      (readable failsAfter content) piece ∧
    (wordRead piece).isSome

/-- The same text with a carriage return at the end of each closed line. -/
def withCarriageReturns (content : List UInt8) : List UInt8 :=
  content.flatMap fun byte =>
    if byte = newline then [carriageReturn, newline] else [byte]

/-! ## Words and pieces -/

theorem wordRead_eq (piece : List UInt8) :
    wordRead piece =
      let word :=
        (CString.ofBuffer (piece.takeWhile (· ≠ carriageReturn))).bytes
      if word ≠ [] ∧ word.length < maxWordStrLen then some word else none := by
  simp only [wordRead, wordOfLine]
  split <;> rfl

/-- What a loaded word is made of. -/
theorem wordOfLine_clean
    {line : List UInt8} {word : CharArray maxWordStrLen}
    (accepted : wordOfLine line = some word) :
    word.bytes ⊆ line ∧ carriageReturn ∉ word.bytes := by
  unfold wordOfLine at accepted
  simp only at accepted
  split at accepted
  · cases accepted
    have kept :
        (CString.ofBuffer (line.takeWhile (· ≠ carriageReturn))).bytes ⊆
          line.takeWhile (· ≠ carriageReturn) :=
      (List.takeWhile_prefix _).subset
    have cut : line.takeWhile (· ≠ carriageReturn) ⊆ line :=
      (List.takeWhile_prefix _).subset
    refine ⟨List.Subset.trans kept cut, fun member => ?_⟩
    have different := List.mem_takeWhile_imp (kept member)
    simp at different
  · cases accepted

private theorem takeWhile_take
    {keep : UInt8 → Bool} {line : List UInt8} {room : Nat}
    (short : (line.takeWhile keep).length < room) :
    (line.take room).takeWhile keep = line.takeWhile keep := by
  induction line generalizing room with
  | nil => rw [List.take_nil]
  | cons byte line induction =>
      obtain ⟨room, rfl⟩ := Nat.exists_eq_succ_of_ne_zero
        (Nat.ne_of_gt (Nat.zero_lt_of_lt short))
      rw [List.take_succ_cons]
      cases kept : keep byte with
      | false => simp [kept]
      | true =>
          simp only [List.takeWhile_cons, kept, ↓reduceIte,
            List.length_cons] at short ⊢
          rw [induction (Nat.lt_of_succ_lt_succ short)]

/-- The first piece of a line has its word, unless a NUL cuts it. -/
theorem wordRead_take
    {line word : List UInt8} (isMeant : wordMeant line = some word)
    (noNul : 0 ∉ word) : wordRead (line.take wordLineRoom) = some word := by
  unfold wordMeant at isMeant
  simp only at isMeant
  split at isMeant
  · rename_i valid
    cases isMeant
    have sameCut : (line.take wordLineRoom).takeWhile (· ≠ carriageReturn) =
        line.takeWhile (· ≠ carriageReturn) :=
      takeWhile_take (Nat.lt_trans valid.2 (by decide))
    have sameWord :
        (CString.ofBuffer (line.takeWhile (· ≠ carriageReturn))).bytes =
          line.takeWhile (· ≠ carriageReturn) :=
      congrArg CString.bytes (CString.ofBuffer_bytes ⟨_, noNul⟩)
    rw [wordRead_eq, sameCut]
    simp only [sameWord, valid, ne_eq, not_false_eq_true, and_self,
      ↓reduceIte]
  · cases isMeant

theorem noNul_of_wordRead
    {piece word : List UInt8} (isRead : wordRead piece = some word) :
    0 ∉ word := by
  obtain ⟨kept, _, rfl⟩ := Option.map_eq_some_iff.mp isRead
  exact kept.noNul

/-- The words of a file are loaded from the pieces of its lines. -/
theorem readWords_bytes (content : List UInt8) :
    (readWords none content).words.map (fun word => word.bytes) =
      recordsLoaded wordLineRoom maxWordlistWords wordRead
        (linesOf newline content) := by
  rw [recordsLoaded, ← lines_eq_piecesSeen (by decide), readWords,
    List.map_take, List.map_filterMap]
  rfl

/-! ## The default words -/

private theorem readWords_default_nonempty :
    (readWords none defaultContent).words ≠ [] := by
  have lines : linesRead ⟨false, false, none⟩ wordLineRoom defaultContent =
      defaultWords :=
    congrArg Reading.lines (readLines_records (by decide))
  have first : (wordOfLine (text "hello")).isSome := by
    decide
  obtain ⟨word, accepted⟩ := Option.isSome_iff_exists.mp first
  have loaded : (readWords none defaultContent).words =
      (defaultWords.filterMap wordOfLine).take maxWordlistWords :=
    congrArg (fun lines => (lines.filterMap wordOfLine).take maxWordlistWords)
      lines
  rw [loaded, defaultWords, List.map_cons,
    List.filterMap_cons_some accepted]
  exact List.cons_ne_nil _ _

private theorem loadContent_found
    {calls : LoadCalls} {content : List UInt8}
    (found : (readWords calls.failsAfter content).words ≠ [])
    (rewrites : Nat) :
    loadContent calls ⟨some content, rewrites⟩ =
      (.loaded (readWords calls.failsAfter content),
        ⟨some content, rewrites⟩) :=
  if_neg found

private theorem loadRound_default (rewrites : Nat) :
    loadRound .succeed ⟨some defaultContent, rewrites⟩ =
      (.loaded (readWords none defaultContent),
        ⟨some defaultContent, rewrites⟩) := by
  have nonempty : some defaultContent ≠ some [] := by
    decide
  rw [loadRound, if_neg fun both => nonempty both.1]
  have found : (readWords LoadCalls.succeed.failsAfter defaultContent).words ≠
      [] :=
    readWords_default_nonempty
  exact loadContent_found found rewrites

/-- One round without failures loads words, or it leaves the default words to
the next one. -/
private theorem loadRound_succeed (file : DataFile) :
    (∃ content rewrites, (readWords none content).words ≠ [] ∧
      loadRound .succeed (.found file) =
        (.loaded (readWords none content), ⟨some content, rewrites⟩) ∧
      rewrites ≤ 1) ∨
    loadRound .succeed (.found file) = (.reload, ⟨some defaultContent, 1⟩) := by
  have written := @loadContent_found .succeed _ readWords_default_nonempty 1
  cases file with
  | none =>
      exact .inl ⟨defaultContent, 1, readWords_default_nonempty, written,
        Nat.le_refl 1⟩
  | some content =>
      by_cases empty : content = []
      · subst empty
        exact .inl ⟨defaultContent, 1, readWords_default_nonempty, written,
          Nat.le_refl 1⟩
      · have nonempty : ¬(some content = some [] ∧ ¬false = true) :=
          fun both => empty (Option.some.inj both.1)
        have round : loadRound .succeed (.found (some content)) =
            loadContent .succeed (.found (some content)) :=
          if_neg nonempty
        rw [round]
        by_cases found : (readWords none content).words = []
        · exact .inr (if_pos found)
        · exact .inl ⟨content, 0, found, @loadContent_found .succeed _ found 0,
            Nat.zero_le 1⟩

private theorem load_of_loadRound
    {calls : LoadCalls} {file after : WordFile} {words : WordListResponse}
    (rounds : List LoadCalls)
    (round : loadRound calls file = (.loaded words, after)) :
    loadWordlistFromFile (calls :: rounds) file = some (some words, after) := by
  rw [loadWordlistFromFile, round]

private theorem load_succeed (rounds : List LoadCalls) (file : DataFile) :
    ∃ content rewrites, (readWords none content).words ≠ [] ∧
      loadWordlistFromFile (.succeed :: .succeed :: rounds) (.found file) =
        some (some (readWords none content), ⟨some content, rewrites⟩) ∧
      rewrites ≤ 1 := by
  rcases loadRound_succeed file with
    ⟨content, rewrites, found, round, once⟩ | round
  · exact ⟨content, rewrites, found, load_of_loadRound _ round, once⟩
  · refine ⟨defaultContent, 1, readWords_default_nonempty, ?_, Nat.le_refl 1⟩
    rw [loadWordlistFromFile, round]
    exact load_of_loadRound rounds (loadRound_default 1)

/-- Whatever the word file was, a loading without failures rewrites it at most
once, reloads it at most once and has loaded words. -/
theorem loadWordlistFromFile_usable
    (rounds : List LoadCalls) (file : DataFile) :
    ∃ words after,
      loadWordlistFromFile (.succeed :: .succeed :: rounds) (.found file) =
        some (some words, after) ∧
      after.rewrites ≤ 1 ∧
      1 ≤ words.words.length ∧ words.words.length ≤ maxWordlistWords ∧
      ∀ word ∈ words.words, word.bytes ≠ [] ∧
        word.bytes.length < maxWordStrLen ∧
        carriageReturn ∉ word.bytes ∧ newline ∉ word.bytes := by
  obtain ⟨content, rewrites, found, loaded, once⟩ := load_succeed rounds file
  refine ⟨_, _, loaded, once, ?_, ?_, ?_⟩
  · exact List.length_pos_iff.mpr found
  · exact (readWords none content).fits
  · intro word member
    obtain ⟨line, seen, accepted⟩ :=
      List.mem_filterMap.mp (List.mem_of_mem_take member)
    obtain ⟨kept, noReturn⟩ := wordOfLine_clean accepted
    have noNewline : newline ∉ line := delimiter_notMem_of_mem_lines seen
    exact ⟨nonempty_of_wordOfLine accepted, word.fits, noReturn,
      fun inside => noNewline (kept inside)⟩

/-! ## Files that are kept -/

theorem reachesWord_iff (failsAfter : Option Nat) (content : List UInt8) :
    ReachesWord failsAfter content ↔
      (readWords failsAfter content).words ≠ [] := by
  have taken : (readWords failsAfter content).words ≠ [] ↔
      ∃ piece ∈ linesRead ⟨false, false, failsAfter⟩ wordLineRoom content,
        wordOfLine piece ≠ none := by
    simp [readWords, maxWordlistWords]
  rw [taken, linesRead_eq]
  simp only [mem_lines_iff (show 0 < wordLineRoom by decide), ReachesWord,
    wordRead, Option.isSome_map, Option.isSome_iff_ne_none]

private theorem loadRound_nonempty
    {content : List UInt8} (nonempty : content ≠ []) (calls : LoadCalls) :
    loadRound calls (.found (some content)) =
      if calls.openFails then (.failed, .found (some content))
      else loadContent calls (.found (some content)) :=
  if_neg fun both => nonempty (Option.some.inj both.1)

/-- A file that has a word is kept, whatever becomes of any write, exactly when
it cannot be opened or the reading gets to a word. -/
theorem wordFile_kept_iff
    {content : List UInt8}
    (valid : ∃ line ∈ linesOf newline content, (wordMeant line).isSome)
    (openFails : Bool) (failsAfter : Option Nat) :
    (∀ (calls : LoadCalls) rounds result after,
      calls.openFails = openFails → calls.failsAfter = failsAfter →
        loadWordlistFromFile (calls :: rounds) (.found (some content)) =
            some (result, after) →
          after = .found (some content)) ↔
      openFails = true ∨ ReachesWord failsAfter content := by
  have nonempty : content ≠ [] := by
    rintro rfl
    obtain ⟨line, member, _⟩ := valid
    rw [linesOf_nil] at member
    cases member
  constructor
  · intro kept
    cases openFails with
    | true => exact .inl rfl
    | false =>
        right
        rw [reachesWord_iff]
        intro nothing
        -- the write that replaces the file stores nothing
        let calls : LoadCalls :=
          ⟨false, ⟨false, none, false⟩, false, ⟨false, none, false⟩, false,
            failsAfter, ⟨false, some 0, false⟩⟩
        have round : loadRound calls (.found (some content)) =
            (.failed, ⟨some [], 1⟩) :=
          (loadRound_nonempty nonempty calls).trans (if_pos nothing)
        have loaded : loadWordlistFromFile [calls] (.found (some content)) =
            some (none, ⟨some [], 1⟩) := by
          rw [loadWordlistFromFile, round]
        have same := kept calls [] none ⟨some [], 1⟩ rfl rfl loaded
        cases same
  · rintro condition calls rounds result after rfl rfl loaded
    have round := loadRound_nonempty nonempty calls
    by_cases openFails : calls.openFails = true
    · rw [if_pos openFails] at round
      rw [loadWordlistFromFile, round] at loaded
      cases loaded
      rfl
    · have found := (reachesWord_iff _ _).mp (condition.resolve_left openFails)
      rw [if_neg openFails, loadContent_found found] at round
      rw [load_of_loadRound rounds round] at loaded
      cases loaded
      rfl

/-- Two words, a blank line and a third word. -/
def blankBehind : List UInt8 :=
  text "hello\r\nworld\n\nrain\n"

theorem blankBehind_kept :
    ∃ result after,
      loadWordlistFromFile [.succeed] (.found (some blankBehind)) =
          some (result, after) ∧
        after = .found (some blankBehind) := by
  have loads : (loadWordlistFromFile [.succeed]
      (.found (some blankBehind))).isSome = true := by
    decide +kernel
  obtain ⟨⟨result, after⟩, loaded⟩ := Option.isSome_iff_exists.mp loads
  have reaches : ReachesWord none blankBehind :=
    (reachesWord_iff _ _).mpr (by decide)
  exact ⟨result, after, loaded,
    (wordFile_kept_iff ⟨text "world", by decide, by decide⟩ false none).mpr
      (.inr reaches) .succeed [] result after rfl rfl loaded⟩

/-- A blank line in front of the only word lets the file be replaced. -/
theorem blankFirst_replaced :
    ¬ ∀ content, (∃ line ∈ linesOf newline content,
        (wordMeant line).isSome) →
      ∀ rounds result after,
        loadWordlistFromFile rounds (.found (some content)) =
            some (result, after) →
          after.content = some content := by
  intro kept
  have replaced :
      (loadWordlistFromFile [.succeed, .succeed]
        (.found (some (newline :: (text "hello" ++ [newline]))))).map
          (fun loaded => loaded.2.content) = some (some defaultContent) := by
    decide +kernel
  obtain ⟨⟨result, after⟩, loaded, written⟩ :=
    Option.map_eq_some_iff.mp replaced
  have same := kept _ ⟨text "hello", by decide, by decide⟩ _ _ _ loaded
  exact absurd (same.symm.trans written) (by decide)

/-! ## Words that are loaded as they are meant -/

/-- Every beginning of the file that is loaded as it stands gives the words
its lines mean, as many as the list holds. -/
def LoadsAsMeant (content : List UInt8) : Prop :=
  ∀ part calls words, Beginning newline part content →
    calls.failsAfter = none →
      loadWordlistFromFile [calls] (.found (some part)) =
          some (some words, .found (some part)) →
        words.words.map (fun word => word.bytes) =
          ((linesOf newline part).filterMap wordMeant).take maxWordlistWords

/-- A loading that leaves the file as it was has read the words from it. -/
private theorem words_of_loaded
    {calls : LoadCalls} {content : List UInt8} {words : WordListResponse}
    (noError : calls.failsAfter = none)
    (loaded : loadWordlistFromFile [calls] (.found (some content)) =
      some (some words, .found (some content))) :
    words = readWords none content ∧ words.words ≠ [] := by
  rw [loadWordlistFromFile] at loaded
  split at loaded
  · cases loaded
  · rename_i round
    cases loaded
    obtain ⟨read, found⟩ := loadRound_loaded round
    exact ⟨noError ▸ read, found⟩
  · cases loaded

private theorem load_of_found
    {content : List UInt8} (found : (readWords none content).words ≠ []) :
    loadWordlistFromFile [.succeed] (.found (some content)) =
      some (some (readWords none content), .found (some content)) := by
  have nonempty : content ≠ [] := by
    rintro rfl
    exact found rfl
  have round := (loadRound_nonempty nonempty .succeed).trans
    (@loadContent_found .succeed _ found 0)
  exact load_of_loadRound _ round

private theorem wordRead_noNul_of_loaded
    {lines : List (List UInt8)} {word : List UInt8}
    (member : word ∈
      recordsLoaded wordLineRoom maxWordlistWords wordRead lines) :
    0 ∉ word := by
  obtain ⟨piece, _, isRead⟩ :=
    List.mem_filterMap.mp (List.mem_of_mem_take member)
  exact noNul_of_wordRead isRead

/-- When the words of all lines are loaded as they are meant, some word of the
first lines is loaded if one is meant. -/
private theorem recordsMeant_nil
    {before after : List (List UInt8)}
    (same : recordsLoaded wordLineRoom maxWordlistWords wordRead
        (before ++ after) =
      recordsMeant maxWordlistWords wordMeant (before ++ after))
    (found : recordsLoaded wordLineRoom maxWordlistWords wordRead
      (before ++ after) ≠ [])
    (nothing : recordsLoaded wordLineRoom maxWordlistWords wordRead before =
      []) :
    recordsMeant maxWordlistWords wordMeant before = [] := by
  rw [recordsMeant]
  cases words : before.filterMap wordMeant with
  | nil => exact List.take_nil
  | cons word others =>
      exfalso
      obtain ⟨first, line, later, rfl, _, isMeant, _⟩ :=
        List.filterMap_eq_cons_iff.mp words
      by_cases none : NoneStops wordLineRoom first
      · by_cases noNul : 0 ∉ word
        · have nonempty : line ≠ [] := by
            rintro rfl
            cases isMeant
          have firstPiece :
              line.take wordLineRoom ∈ pieces wordLineRoom line := by
            rw [pieces_eq (by decide) nonempty]
            exact List.mem_cons_self
          have seen := mem_piecesSeen_iff.mpr
            ⟨first, line, later, rfl, none, firstPiece⟩
          have kept := List.mem_filterMap.mpr
            ⟨_, seen, wordRead_take isMeant noNul⟩
          rw [recordsLoaded, List.take_eq_nil_iff] at nothing
          rcases nothing with full | nothing
          · cases full
          · exact List.ne_nil_of_mem kept nothing
        · have isFirst : word ∈ recordsMeant maxWordlistWords wordMeant
              ((first ++ line :: later) ++ after) := by
            rw [recordsMeant, List.filterMap_append, words]
            exact List.mem_cons_self
          rw [← same] at isFirst
          exact noNul (wordRead_noNul_of_loaded isFirst)
      · have seenBefore : piecesSeen wordLineRoom (first ++ line :: later) =
            piecesSeen wordLineRoom first := by
          rw [piecesSeen_append, if_neg none, List.append_nil]
        have seenAll :
            piecesSeen wordLineRoom ((first ++ line :: later) ++ after) =
              piecesSeen wordLineRoom first := by
          rw [List.append_assoc, piecesSeen_append, if_neg none,
            List.append_nil]
        rw [recordsLoaded, seenBefore] at nothing
        rw [recordsLoaded, seenAll] at found
        exact found nothing

/-! ## Line ends of two kinds -/

private theorem wordMeant_return (line : List UInt8) :
    wordMeant (line ++ [carriageReturn]) = wordMeant line := by
  have sameCut : (line ++ [carriageReturn]).takeWhile (· ≠ carriageReturn) =
      line.takeWhile (· ≠ carriageReturn) := by
    induction line with
    | nil => rfl
    | cons byte line induction =>
        rw [List.cons_append, List.takeWhile_cons, List.takeWhile_cons,
          induction]
  rw [wordMeant, wordMeant, sameCut]

private theorem withCarriageReturns_line
    {line : List UInt8} (inside : newline ∉ line) :
    withCarriageReturns line = line := by
  induction line with
  | nil => rfl
  | cons byte line induction =>
      rw [List.mem_cons, not_or] at inside
      have tail : withCarriageReturns line = line := induction inside.2
      rw [withCarriageReturns, List.flatMap_cons,
        if_neg (Ne.symm inside.1)]
      exact congrArg (List.cons byte) tail

/-- Both kinds of line ends mean the same words. -/
theorem wordsMeant_withCarriageReturns (content : List UInt8) :
    (linesOf newline (withCarriageReturns content)).filterMap wordMeant =
      (linesOf newline content).filterMap wordMeant := by
  induction content using text_induction newline with
  | empty => rfl
  | unclosed content inside _ => rw [withCarriageReturns_line inside]
  | closed line rest inside tail =>
      have split : withCarriageReturns (line ++ newline :: rest) =
          (line ++ [carriageReturn]) ++
            newline :: withCarriageReturns rest := by
        rw [withCarriageReturns, List.flatMap_append, List.flatMap_cons,
          if_pos rfl]
        have first := withCarriageReturns_line inside
        rw [withCarriageReturns] at first
        simp [first, withCarriageReturns]
      have different : newline ≠ carriageReturn := by
        decide
      have closed : newline ∉ line ++ [carriageReturn] := by
        simp [inside, different]
      rw [split, linesOf_closed closed, linesOf_closed inside,
        List.filterMap_cons, List.filterMap_cons, wordMeant_return, tail]

/-! ## Files that are loaded as they are meant -/

private theorem loadsAsMeant_of_readsAsMeant
    {content : List UInt8}
    (reads : ReadsAsMeant wordLineRoom maxWordlistWords wordRead wordMeant
      (linesOf newline content)) :
    LoadsAsMeant content := by
  intro part calls words beginning noError loaded
  obtain ⟨rfl, _⟩ := words_of_loaded noError loaded
  rw [readWords_bytes]
  exact recordsLoaded_eq_iff.mpr reads _ beginning.linesOf

private theorem readsAsMeant_of_loadsAsMeant
    {content : List UInt8} (found : (readWords none content).words ≠ [])
    (loads : LoadsAsMeant content) :
    ReadsAsMeant wordLineRoom maxWordlistWords wordRead wordMeant
      (linesOf newline content) := by
  have meant : ∀ part, Beginning newline part content →
      (readWords none part).words ≠ [] →
        recordsLoaded wordLineRoom maxWordlistWords wordRead
            (linesOf newline part) =
          recordsMeant maxWordlistWords wordMeant (linesOf newline part) := by
    intro part beginning partFound
    rw [← readWords_bytes]
    exact loads part .succeed _ beginning rfl (load_of_found partFound)
  apply recordsLoaded_eq_iff.mp
  rintro lines ⟨after, split⟩
  obtain ⟨part, beginning, rfl⟩ := exists_beginning ⟨after, split⟩
  by_cases nothing : (readWords none part).words = []
  · have bytes := readWords_bytes content
    have whole := meant content (.whole content) found
    have noBytes := readWords_bytes part
    rw [nothing, List.map_nil] at noBytes
    rw [← split] at whole bytes
    rw [← noBytes]
    refine (recordsMeant_nil whole (fun empty => ?_) noBytes.symm).symm
    rw [empty, List.map_eq_nil_iff] at bytes
    exact found bytes
  · exact meant part beginning nothing

/-- A file that is loaded as it stands gives the words its lines mean, at
whichever line it ends, exactly when each line is read as it is meant.  Line
ends of two kinds make no difference between files that are. -/
theorem loadsAsMeant_iff
    {calls : LoadCalls} {content : List UInt8} {words : WordListResponse}
    (noError : calls.failsAfter = none)
    (loaded : loadWordlistFromFile [calls] (.found (some content)) =
      some (some words, .found (some content))) :
    (LoadsAsMeant content ↔
      ReadsAsMeant wordLineRoom maxWordlistWords wordRead wordMeant
        (linesOf newline content)) ∧
    (LoadsAsMeant content → LoadsAsMeant (withCarriageReturns content) →
      ∀ returnCalls returnWords, returnCalls.failsAfter = none →
        loadWordlistFromFile [returnCalls]
            (.found (some (withCarriageReturns content))) =
            some (some returnWords,
              .found (some (withCarriageReturns content))) →
          returnWords = words) := by
  obtain ⟨same, found⟩ := words_of_loaded noError loaded
  refine ⟨⟨readsAsMeant_of_loadsAsMeant (same ▸ found),
    loadsAsMeant_of_readsAsMeant⟩, ?_⟩
  intro loads returnLoads returnCalls returnWords returnNoError returnLoaded
  have bytes := loads content calls words (.whole content) noError loaded
  have returnBytes := returnLoads _ returnCalls returnWords (.whole _)
    returnNoError returnLoaded
  rw [wordsMeant_withCarriageReturns, ← bytes] at returnBytes
  have injective : Function.Injective
      fun word : CharArray maxWordStrLen => word.bytes :=
    fun _ _ sameBytes => CharArray.eq_of_bytes_eq sameBytes
  obtain ⟨list, _⟩ := words
  obtain ⟨returnList, _⟩ := returnWords
  have sameList : returnList = list :=
    List.map_injective_iff.mpr injective returnBytes
  subst sameList
  rfl

/-- Two closed lines with a word each. -/
def twoWords : List UInt8 :=
  text "hello" ++ newline :: (text "world" ++ [newline])

private theorem twoWords_loaded :
    loadWordlistFromFile [.succeed] (.found (some twoWords)) =
      some (some (readWords none twoWords), .found (some twoWords)) :=
  load_of_found (by decide +kernel)

theorem twoWords_loadsAsMeant : LoadsAsMeant twoWords := by
  have reads : ReadsAsMeant wordLineRoom maxWordlistWords wordRead wordMeant
      (linesOf newline twoWords) := by
    apply recordsLoaded_eq_iff.mp
    intro part started
    have each : ∀ lines ∈ (linesOf newline twoWords).inits,
        recordsLoaded wordLineRoom maxWordlistWords wordRead lines =
          recordsMeant maxWordlistWords wordMeant lines := by
      decide +kernel
    exact each part ((List.mem_inits _ _).mpr started)
  exact (loadsAsMeant_iff rfl twoWords_loaded).1.mpr reads

/-- The same lines with a blank line between them. -/
def blankBetween : List UInt8 :=
  text "hello" ++ newline :: newline :: (text "world" ++ [newline])

/-- The blank line hides the word behind it. -/
theorem blankBetween_misloaded :
    ¬ ∀ content calls words, calls.failsAfter = none →
      loadWordlistFromFile [calls] (.found (some content)) =
          some (some words, .found (some content)) →
        words.words.map (fun word => word.bytes) =
          ((linesOf newline content).filterMap wordMeant).take
            maxWordlistWords := by
  intro meant
  have loaded : loadWordlistFromFile [.succeed] (.found (some blankBetween)) =
      some (some (readWords none blankBetween),
        .found (some blankBetween)) :=
    load_of_found (by decide +kernel)
  have same := meant blankBetween .succeed _ rfl loaded
  exact absurd same (by decide +kernel)

end RainTyping
