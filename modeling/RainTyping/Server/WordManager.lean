import RainTyping.Server.DbHandler

/-!
# The word file

`word_manager.c` loads the word list the server sends.  Its reading function
is a copy of the one of `db_handler.c`.  A file that is absent, empty or
without a word is replaced by the default words.
-/

namespace RainTyping

open LineReader

abbrev carriageReturn : UInt8 := 13

def defaultWords : List (List UInt8) :=
  ["hello", "world", "rain", "typing", "keyboard", "program", "linux",
    "thread", "mutex", "socket", "network", "coding", "algorithm", "pointer",
    "system"].map text

/-- The file `write_default_words_to_file` writes. -/
def defaultContent : List UInt8 :=
  defaultWords.flatMap fun word => word ++ [newline]

/-- What the calls of `write_default_words_to_file` answer. -/
structure DefaultCalls where
  openFails : Bool
  /-- A `dprintf` fails with this many bytes stored. -/
  stored : Option Nat
  closeFails : Bool
  deriving DecidableEq

/-- What the calls between `reload` and the next `goto` answer. -/
structure LoadCalls where
  statFails : Bool
  fillEmpty : DefaultCalls
  openFails : Bool
  createAbsent : DefaultCalls
  reopenFails : Bool
  /-- `read` reports an error after this many bytes, or at the end of a file
  that has fewer. -/
  failsAfter : Option Nat
  replaceUseless : DefaultCalls
  deriving DecidableEq

/-- `words.txt`, and how often it was given to `write_default_words_to_file`. -/
structure WordFile where
  content : DataFile
  rewrites : Nat
  deriving DecidableEq

/-- The file as a loading finds it. -/
abbrev WordFile.found (content : DataFile) : WordFile :=
  ⟨content, 0⟩

/-- Success and the file afterwards, which the `open` has truncated. -/
def writeDefaultWordsToFile (calls : DefaultCalls) (file : WordFile) :
    Bool × WordFile :=
  let called := { file with rewrites := file.rewrites + 1 }
  if calls.openFails then (false, called)
  else
    match calls.stored with
    | some count =>
        (false, { called with content := some (defaultContent.take count) })
    | none =>
        (!calls.closeFails, { called with content := some defaultContent })

/-- Characters that fit `line_buffer`. -/
def wordLineRoom : Nat :=
  maxWordStrLen + 2 - 1

/-- The word of a line, cut at its first carriage return. -/
def wordOfLine (line : List UInt8) : Option (CharArray maxWordStrLen) :=
  let word := CString.ofBuffer (line.takeWhile (· ≠ carriageReturn))
  if fits : word.bytes ≠ [] ∧ word.bytes.length < maxWordStrLen then
    some ⟨word, fits.2⟩
  else none

/-- The reading loop, which stops when `g_wordlist` is full. -/
def readWords (failsAfter : Option Nat) (content : List UInt8) :
    WordListResponse where
  words := ((linesRead ⟨false, false, failsAfter⟩ wordLineRoom
    content).filterMap wordOfLine).take maxWordlistWords
  fits := List.length_take_le ..

inductive LoadOutcome where
  | failed
  | loaded (words : WordListResponse)
  | reload
  deriving DecidableEq

/-- From the opened file on. -/
def loadContent (calls : LoadCalls) (file : WordFile) :
    LoadOutcome × WordFile :=
  let words := readWords calls.failsAfter (file.content.getD [])
  if words.words = [] then
    let replaced := writeDefaultWordsToFile calls.replaceUseless file
    (if replaced.1 then .reload else .failed, replaced.2)
  else (.loaded words, file)

/-- From the test for an empty file on. -/
def openWords (calls : LoadCalls) (file : WordFile) :
    LoadOutcome × WordFile :=
  match file.content with
  | some _ =>
      if calls.openFails then (.failed, file) else loadContent calls file
  | none =>
      let created := writeDefaultWordsToFile calls.createAbsent file
      if created.1 then
        if calls.reopenFails then (.failed, created.2)
        else loadContent calls created.2
      else (.failed, created.2)

/-- One round, from `reload` on. -/
def loadRound (calls : LoadCalls) (file : WordFile) :
    LoadOutcome × WordFile :=
  if file.content = some [] ∧ ¬calls.statFails then
    let filled := writeDefaultWordsToFile calls.fillEmpty file
    if filled.1 then openWords calls filled.2 else (.failed, filled.2)
  else openWords calls file

/-- The loaded words, if the loading succeeds, and the file afterwards;
`none` while it would still go to `reload` after the given rounds. -/
def loadWordlistFromFile :
    List LoadCalls → WordFile → Option (Option WordListResponse × WordFile)
  | [], _ => none
  | calls :: rounds, file =>
      match loadRound calls file with
      | (.failed, after) => some (none, after)
      | (.loaded words, after) => some (some words, after)
      | (.reload, after) => loadWordlistFromFile rounds after

/-- No call fails. -/
def LoadCalls.succeed : LoadCalls where
  statFails := false
  fillEmpty := ⟨false, none, false⟩
  openFails := false
  createAbsent := ⟨false, none, false⟩
  reopenFails := false
  failsAfter := none
  replaceUseless := ⟨false, none, false⟩

/-! ## Loaded words -/

theorem nonempty_of_wordOfLine
    {line : List UInt8} {word : CharArray maxWordStrLen}
    (accepted : wordOfLine line = some word) : word.bytes ≠ [] := by
  unfold wordOfLine at accepted
  simp only at accepted
  split at accepted
  · rename_i fits
    cases accepted
    exact fits.1
  · cases accepted

theorem nonempty_of_mem_readWords
    {failsAfter : Option Nat} {content : List UInt8}
    {word : CharArray maxWordStrLen}
    (member : word ∈ (readWords failsAfter content).words) :
    word.bytes ≠ [] := by
  obtain ⟨line, _, accepted⟩ :=
    List.mem_filterMap.mp (List.mem_of_mem_take member)
  exact nonempty_of_wordOfLine accepted

private theorem loadContent_loaded
    {calls : LoadCalls} {file after : WordFile} {words : WordListResponse}
    (loaded : loadContent calls file = (.loaded words, after)) :
    words = readWords calls.failsAfter (after.content.getD []) ∧
      words.words ≠ [] := by
  unfold loadContent at loaded
  simp only at loaded
  split at loaded
  · rw [Prod.mk.injEq] at loaded
    have outcome := loaded.1
    split at outcome <;> cases outcome
  · rename_i found
    cases loaded
    exact ⟨rfl, found⟩

private theorem openWords_loaded
    {calls : LoadCalls} {file after : WordFile} {words : WordListResponse}
    (loaded : openWords calls file = (.loaded words, after)) :
    words = readWords calls.failsAfter (after.content.getD []) ∧
      words.words ≠ [] := by
  unfold openWords at loaded
  split at loaded
  · split at loaded
    · cases loaded
    · exact loadContent_loaded loaded
  · simp only at loaded
    split at loaded
    · split at loaded
      · cases loaded
      · exact loadContent_loaded loaded
    · cases loaded

theorem loadRound_loaded
    {calls : LoadCalls} {file after : WordFile} {words : WordListResponse}
    (loaded : loadRound calls file = (.loaded words, after)) :
    words = readWords calls.failsAfter (after.content.getD []) ∧
      words.words ≠ [] := by
  unfold loadRound at loaded
  simp only at loaded
  split at loaded
  · split at loaded
    · exact openWords_loaded loaded
    · cases loaded
  · exact openWords_loaded loaded

/-- A loaded list was read from the file in one of the rounds. -/
theorem loadWordlistFromFile_loaded
    {rounds : List LoadCalls} {file after : WordFile}
    {words : WordListResponse}
    (loaded : loadWordlistFromFile rounds file = some (some words, after)) :
    ∃ calls ∈ rounds, ∃ content,
      words = readWords calls.failsAfter content := by
  induction rounds generalizing file with
  | nil => cases loaded
  | cons calls rounds induction =>
      rw [loadWordlistFromFile] at loaded
      split at loaded
      · cases loaded
      · rename_i found here
        cases loaded
        exact ⟨calls, List.mem_cons_self, _, (loadRound_loaded here).1⟩
      · obtain ⟨later, member, content, same⟩ := induction loaded
        exact ⟨later, List.mem_cons_of_mem _ member, content, same⟩

theorem nonempty_of_loaded
    {rounds : List LoadCalls} {file after : WordFile}
    {words : WordListResponse} {word : CharArray maxWordStrLen}
    (loaded : loadWordlistFromFile rounds file = some (some words, after))
    (member : word ∈ words.words) : word.bytes ≠ [] := by
  obtain ⟨calls, _, content, rfl⟩ := loadWordlistFromFile_loaded loaded
  exact nonempty_of_mem_readWords member

end RainTyping
