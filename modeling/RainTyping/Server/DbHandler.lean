import RainTyping.Protocol
import RainTyping.Support.Decimal
import RainTyping.Support.LineReader

/-!
# The data files

`db_handler.c` keeps `users.txt` with one `username:password` line for each
user and `scores.txt` with one `username:score` line for each submission.
Both are searched from the front and only ever appended to.  What the system
calls of one access answer is an argument; the functions themselves decide
what is made of a failing call.
-/

namespace RainTyping

open LineReader

abbrev maxTotalScores : Nat := 500

/-- A data file: absent, or its bytes. -/
abbrev DataFile := Option (List UInt8)

/-- What the calls of one reading access answer.  Opening an absent file fails
with `ENOENT` in any case; `openFails` stands for every other error. -/
structure ReadCalls where
  openFails : Bool
  flockFails : Bool
  /-- `read` reports an error after this many bytes, or at the end of a file
  that has fewer. -/
  failsAfter : Option Nat
  deriving DecidableEq

/-- What the calls of one appending access answer.  A failing `fsync` is only
reported, so it is left out. -/
structure WriteCalls where
  openFails : Bool
  flockFails : Bool
  /-- `dprintf` fails with this many bytes of the line stored. -/
  stored : Option Nat
  closeFails : Bool
  deriving DecidableEq

def ReadCalls.succeed : ReadCalls :=
  ⟨false, false, none⟩

def WriteCalls.succeed : WriteCalls :=
  ⟨false, false, none, false⟩

/-- Nothing of the line reaches the file. -/
def WriteCalls.StoreNothing (calls : WriteCalls) : Prop :=
  calls.openFails = true ∨ calls.flockFails = true ∨ calls.stored = some 0

/-- The file is not even created. -/
def WriteCalls.LeaveFile (calls : WriteCalls) (file : DataFile) : Prop :=
  calls.openFails = true ∨ file ≠ none ∧ calls.StoreNothing

/-- A failing `dprintf` has still stored all of the line. -/
def WriteCalls.StoreAll (calls : WriteCalls) (line : List UInt8) : Prop :=
  ∀ count, calls.stored = some count → line.length ≤ count

/-- All of the line reaches the file, or nothing of it. -/
def WriteCalls.InFull (calls : WriteCalls) : Prop :=
  calls.StoreNothing ∨ calls.stored = none

structure UserData where
  username : CharArray maxIdLen
  password : CharArray maxPwLen
  deriving DecidableEq

/-- The results `1`, `0` and `-1` of `find_user_in_file`. -/
inductive FindResult where
  | found (user : UserData)
  | absent
  | error
  deriving DecidableEq

/-- Characters that fit the line buffer of `find_user_in_file`. -/
def userLineRoom : Nat :=
  maxIdLen + maxPwLen + 3 - 1

/-- Characters that fit the line buffer of `load_all_scores_from_file`. -/
def scoreLineRoom : Nat :=
  maxIdLen + 16 - 1

/-- The lines a `read_line` loop sees in a file of the given content. -/
def linesRead (calls : ReadCalls) (room : Nat) (content : List UInt8) :
    List (List UInt8) :=
  match calls.failsAfter with
  | none => (readLines newline false room content).lines
  | some count => (readLines newline true room (content.take count)).lines

/-- The bytes that can be read before `read` reports an error. -/
def readable (failsAfter : Option Nat) (content : List UInt8) : List UInt8 :=
  match failsAfter with
  | none => content
  | some count => content.take count

theorem linesRead_eq
    (calls : ReadCalls) (room : Nat) (content : List UInt8) :
    linesRead calls room content =
      (readLines newline calls.failsAfter.isSome room
        (readable calls.failsAfter content)).lines := by
  unfold linesRead
  cases calls.failsAfter <;> rfl

/-- The parts before and after the first colon of a line. -/
def splitAtColon (line : List UInt8) : Option (List UInt8 × List UInt8) :=
  if colon ∈ line then
    some (line.takeWhile (· ≠ colon), (line.dropWhile (· ≠ colon)).tail)
  else none

/-- Parse a `username:password` line. -/
def parseUserLine (line : List UInt8) : Option UserData :=
  match splitAtColon (CString.ofBuffer line).bytes with
  | none => none
  | some (namePart, passwordPart) =>
      if namePart.length < maxIdLen ∧ passwordPart.length < maxPwLen then
        some ⟨.store maxIdLen namePart, .store maxPwLen passwordPart⟩
      else none

/-- The record of a line when it belongs to the requested user. -/
def matchUserLine (username : CString) (line : List UInt8) :
    Option UserData :=
  (parseUserLine line).filter fun user =>
    user.username.bytes = username.bytes

def findUserInFile (calls : ReadCalls) (file : DataFile)
    (username : CString) : FindResult :=
  if calls.openFails then .error
  else
    match file with
    | none => .absent
    | some content =>
        if calls.flockFails then .error
        else
          match (linesRead calls userLineRoom content).findSome?
              (matchUserLine username) with
          | some user => .found user
          | none => .absent

/-- The shared body of the two append functions: success and the file
afterwards. -/
def appendLine (calls : WriteCalls) (file : DataFile) (line : List UInt8) :
    Bool × DataFile :=
  if calls.openFails then (false, file)
  else
    let content := file.getD []
    if calls.flockFails then (false, some content)
    else
      match calls.stored with
      | some count => (false, some (content ++ line.take count))
      | none => (!calls.closeFails, some (content ++ line))

def userRecord (user : UserData) : List UInt8 :=
  user.username.bytes ++ colon :: user.password.bytes

def addUserToFile (calls : WriteCalls) (file : DataFile) (user : UserData) :
    Bool × DataFile :=
  appendLine calls file (userRecord user ++ [newline])

def scoreRecord (username : CString) (score : Int32) : List UInt8 :=
  username.bytes ++ colon :: Decimal.printInt score.toInt

def addScoreToFile (calls : WriteCalls) (file : DataFile)
    (username : CString) (score : Int32) : Bool × DataFile :=
  appendLine calls file (scoreRecord username score ++ [newline])

/-- Parse a `username:score` line. -/
def parseScoreLine (line : List UInt8) : Option ScoreRecord :=
  match splitAtColon (CString.ofBuffer line).bytes with
  | none => none
  | some (namePart, scorePart) =>
      if namePart.length < maxIdLen then
        match Decimal.strtol scorePart with
        | some (value, []) =>
            some ⟨.store maxIdLen namePart, Int32.ofInt value⟩
        | _ => none
      else none

/-- The loaded records, or `none` for the result `-1`. -/
def loadAllScoresFromFile (calls : ReadCalls) (file : DataFile)
    (maxRecords : Nat) : Option (List ScoreRecord) :=
  if calls.openFails then none
  else
    match file with
    | none => some []
    | some content =>
        if calls.flockFails then none
        else
          some (((linesRead calls scoreLineRoom content).filterMap
            parseScoreLine).take maxRecords)

/-! ## Parsing what was written -/

theorem splitAtColon_record
    {name rest : List UInt8} (absent : colon ∉ name) :
    splitAtColon (name ++ colon :: rest) = some (name, rest) := by
  have nameKept : ∀ byte ∈ name, (decide (byte ≠ colon)) = true := by
    intro byte member
    have different : byte ≠ colon := fun same => absent (same ▸ member)
    simpa using different
  simp only [splitAtColon, List.mem_append, List.mem_cons, true_or, or_true,
    ↓reduceIte]
  rw [List.takeWhile_append_of_pos nameKept,
    List.dropWhile_append_of_pos nameKept]
  simp

private theorem ofBuffer_of_noNul
    {bytes : List UInt8} (noNul : 0 ∉ bytes) :
    (CString.ofBuffer bytes).bytes = bytes :=
  congrArg CString.bytes (CString.ofBuffer_bytes ⟨bytes, noNul⟩)

theorem parseUserLine_record
    {name password : List UInt8}
    (nameNoNul : 0 ∉ name) (passwordNoNul : 0 ∉ password)
    (absent : colon ∉ name)
    (nameShort : name.length < maxIdLen)
    (passwordShort : password.length < maxPwLen) :
    parseUserLine (name ++ colon :: password) =
      some ⟨.store maxIdLen name, .store maxPwLen password⟩ := by
  have noNul : (0 : UInt8) ∉ name ++ colon :: password := by
    simp [nameNoNul, passwordNoNul]
  simp [parseUserLine, ofBuffer_of_noNul noNul, splitAtColon_record absent,
    nameShort, passwordShort]

theorem parseScoreLine_record
    {username : CString} (absent : colon ∉ username.bytes)
    (short : username.bytes.length < maxIdLen) (score : Int32) :
    parseScoreLine (scoreRecord username score) =
      some ⟨.store maxIdLen username.bytes, score⟩ := by
  have printedNoNul : (0 : UInt8) ∉ Decimal.printInt score.toInt := by
    intro member
    rcases Decimal.mem_printInt member with sign | digit
    · cases sign
    · cases digit
  have noNul : (0 : UInt8) ∉ scoreRecord username score := by
    simp [scoreRecord, username.noNul, printedNoNul]
  have lower := score.le_toInt
  have upper := score.toInt_lt
  have readBack : Decimal.strtol (Decimal.printInt score.toInt) =
      some (score.toInt, []) :=
    Decimal.strtol_printInt (by simp only [Decimal.longMin]; omega)
      (by simp only [Decimal.longMax]; omega)
  rw [parseScoreLine, ofBuffer_of_noNul noNul, scoreRecord,
    splitAtColon_record absent]
  simp only [short, ↓reduceIte, readBack, Int32.ofInt_toInt]

theorem length_userRecord_lt (user : UserData) :
    (userRecord user).length < userLineRoom := by
  have nameFits := user.username.fits
  have passwordFits := user.password.fits
  simp only [userRecord, List.length_append, List.length_cons, userLineRoom,
    maxIdLen, maxPwLen] at nameFits passwordFits ⊢
  omega

theorem length_scoreRecord_lt
    {username : CString} (short : username.bytes.length < maxIdLen)
    (score : Int32) :
    (scoreRecord username score).length < scoreLineRoom := by
  have lower := score.le_toInt
  have upper := score.toInt_lt
  have printed : (Decimal.printInt score.toInt).length ≤ 10 + 1 :=
    Decimal.length_printInt_le (by decide) (by omega)
  simp only [scoreRecord, List.length_append, List.length_cons,
    scoreLineRoom, maxIdLen] at short ⊢
  omega

theorem newline_notMem_scoreRecord
    {username : CString} (clean : newline ∉ username.bytes)
    (score : Int32) :
    newline ∉ scoreRecord username score := by
  have printed : newline ∉ Decimal.printInt score.toInt := by
    intro member
    rcases Decimal.mem_printInt member with sign | digit
    · cases sign
    · cases digit
  simp [scoreRecord, clean, printed]

/-! ## Appending -/

@[simp] theorem appendLine_succeed (content line : List UInt8) :
    appendLine .succeed (some content) line =
      (true, some (content ++ line)) :=
  rfl

theorem appendLine_of_success
    {calls : WriteCalls} {file : DataFile} {line : List UInt8}
    (success : (appendLine calls file line).1 = true) :
    (appendLine calls file line).2 = some (file.getD [] ++ line) := by
  unfold appendLine at success ⊢
  split
  · simp_all
  · split
    · simp_all
    · split <;> simp_all

theorem appendLine_of_storeNothing
    {calls : WriteCalls} {file : DataFile} {line : List UInt8}
    (nothing : calls.StoreNothing) :
    (appendLine calls file line).1 = false ∧
      (appendLine calls file line).2.getD [] = file.getD [] := by
  unfold appendLine
  split
  · exact ⟨rfl, rfl⟩
  · rename_i opened
    simp only
    split
    · exact ⟨rfl, rfl⟩
    · rename_i locked
      rcases nothing with openFails | flockFails | stored
      · exact absurd openFails opened
      · exact absurd flockFails locked
      · simp [stored]

/-- A failing append changes nothing exactly when it leaves the file. -/
theorem appendLine_unchanged_iff
    {calls : WriteCalls} {file : DataFile} {line : List UInt8}
    (written : line ≠ []) :
    appendLine calls file line = (false, file) ↔ calls.LeaveFile file := by
  obtain ⟨openFails, flockFails, stored, closeFails⟩ := calls
  cases openFails with
  | true => simp [appendLine, WriteCalls.LeaveFile]
  | false =>
      cases file with
      | none =>
          cases flockFails <;> cases stored <;>
            simp [appendLine, WriteCalls.LeaveFile]
      | some content =>
          cases flockFails <;> cases stored <;>
            simp [appendLine, WriteCalls.LeaveFile, WriteCalls.StoreNothing,
              written]

theorem appendLine_of_storeAll
    {calls : WriteCalls} {line : List UInt8} (all : calls.StoreAll line)
    (file : DataFile) :
    (appendLine calls file line).2.getD [] = file.getD [] ∨
      (appendLine calls file line).2.getD [] = file.getD [] ++ line := by
  unfold appendLine
  split
  · exact .inl rfl
  · simp only
    split
    · exact .inl rfl
    · split
      · rename_i count stored
        have whole := List.take_of_length_le (all count stored)
        exact .inr (by simp [whole])
      · exact .inr rfl

theorem appendLine_of_inFull
    {calls : WriteCalls} {line : List UInt8} (inFull : calls.InFull)
    (file : DataFile) :
    (appendLine calls file line).2.getD [] = file.getD [] ∨
      (appendLine calls file line).2.getD [] = file.getD [] ++ line := by
  rcases inFull with nothing | complete
  · exact .inl (appendLine_of_storeNothing nothing).2
  · apply appendLine_of_storeAll
    intro count stored
    rw [complete] at stored
    cases stored

end RainTyping
