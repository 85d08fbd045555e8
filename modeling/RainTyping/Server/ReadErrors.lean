import RainTyping.Server.AuthManager
import RainTyping.Support.LinePieces

/-!
# Reading errors taken for the end of the file

The loops over `users.txt` and `scores.txt` go on while `read_line` returns a
positive length, so its `-1` ends them like the end of the file.  A search is
then answered with absence and a load with the records that were complete.
-/

namespace RainTyping

open LineReader

/-- What a reading loop sees of a file, and why it ends. -/
def loopReading (failsAfter : Option Nat) (room : Nat)
    (content : List UInt8) : Reading UInt8 :=
  readLines newline failsAfter.isSome room (readable failsAfter content)

/-- The search gets to the read that fails. -/
def SearchFails (content : List UInt8) (position : Nat)
    (username : CString) : Prop :=
  (loopReading (some position) userLineRoom content).ending = .failure ∧
    ∀ line ∈ (loopReading (some position) userLineRoom content).lines,
      matchUserLine username line = none

/-- `find_user_in_file` finds a user in a line that `read_line` has returned,
and it reports the read that fails. -/
def FindReports (content : List UInt8) (position : Nat)
    (username : CString) : Prop :=
  (∀ user,
    findUserInFile ⟨false, false, some position⟩ (some content) username =
        .found user →
      ∃ line ∈ (loopReading (some position) userLineRoom content).lines,
        matchUserLine username line = some user) ∧
  (SearchFails content position username →
    findUserInFile ⟨false, false, some position⟩ (some content) username =
      .error)

/-- The load gets to the read that fails. -/
def LoadFails (content : List UInt8) (position maxRecords : Nat) : Prop :=
  (loopReading (some position) scoreLineRoom content).ending = .failure ∧
    ((loopReading (some position) scoreLineRoom content).lines.filterMap
      parseScoreLine).length < maxRecords

/-- `load_all_scores_from_file` reports the read that fails. -/
def LoadReports (content : List UInt8) (position maxRecords : Nat) : Prop :=
  LoadFails content position maxRecords →
    loadAllScoresFromFile ⟨false, false, some position⟩ (some content)
      maxRecords = none

/-- `register_user_impl` appends only when its search has gone through the
whole file. -/
def RegisterSearchesAll (failsAfter : Option Nat) (content : List UInt8)
    (username hashedPassword : Option CString) : Prop :=
  ∀ writes,
    (registerUserImpl ⟨false, false, failsAfter⟩ writes (some content)
        username hashedPassword).2 ≠ some content →
      (loopReading failsAfter userLineRoom content).ending = .endOfInput

/-- The fields pass the checks of `register_user_impl`. -/
def FieldsAccepted (username hashedPassword : Option CString) : Prop :=
  ∃ name password, username = some name ∧ hashedPassword = some password ∧
    (name.strlen ≠ 0 ∧ password.strlen ≠ 0) ∧
    name.strlen < maxIdLen ∧ password.strlen < maxPwLen

/-- A loop is ended by a line before it gets to the end of the text. -/
def EndsEarly (room : Nat) (text : List UInt8) : Prop :=
  ∃ line ∈ closedLines newline text, line.length % room = 0

/-- A record of the user is among the pieces the loop gets to. -/
def RecordReached (failsAfter : Option Nat) (content : List UInt8)
    (username : CString) : Prop :=
  ∃ piece, Reached newline failsAfter.isSome userLineRoom
      (readable failsAfter content) piece ∧
    (matchUserLine username piece).isSome

/-- The score records of the pieces that are complete before a failure. -/
def recordsBefore (content : List UInt8) (position : Nat) :
    List ScoreRecord :=
  ((closedLines newline (content.take position)).flatMap
      (pieces scoreLineRoom) ++
    openPieces true scoreLineRoom
      (openLine newline (content.take position))).filterMap parseScoreLine

/-! ## Loops -/

theorem not_endsEarly_iff {room : Nat} {text : List UInt8} :
    ¬EndsEarly room text ↔ NoneStops room (closedLines newline text) := by
  simp [EndsEarly, NoneStops]

private theorem loopReading_ending
    {room : Nat} (roomy : 0 < room) (failsAfter : Option Nat)
    (content : List UInt8) :
    (loopReading failsAfter room content).ending =
      if NoneStops room (closedLines newline (readable failsAfter content))
      then if failsAfter.isSome then .failure else .endOfInput
      else .emptyLine := by
  rw [loopReading, readLines_pieces roomy]
  split <;> rfl

private theorem ending_failure_iff
    {room : Nat} (roomy : 0 < room) {position : Nat} {content : List UInt8} :
    (loopReading (some position) room content).ending = .failure ↔
      ¬EndsEarly room (content.take position) := by
  rw [not_endsEarly_iff, loopReading_ending roomy, readable]
  split
  · rename_i none
    exact iff_of_true rfl none
  · rename_i stopped
    exact iff_of_false (fun same => nomatch same) stopped

private theorem ending_endOfInput_iff
    {room : Nat} (roomy : 0 < room) {failsAfter : Option Nat}
    {content : List UInt8} :
    (loopReading failsAfter room content).ending = .endOfInput ↔
      failsAfter = none ∧ ¬EndsEarly room content := by
  rw [not_endsEarly_iff, loopReading_ending roomy]
  cases failsAfter with
  | none =>
      rw [readable]
      split <;> simp_all
  | some position =>
      split <;> simp

/-! ## The search -/

private theorem findUserInFile_of_readable
    (failsAfter : Option Nat) (content : List UInt8) (username : CString) :
    findUserInFile ⟨false, false, failsAfter⟩ (some content) username =
      match (loopReading failsAfter userLineRoom content).lines.findSome?
          (matchUserLine username) with
      | some user => .found user
      | none => .absent := by
  rw [findUserInFile, linesRead_eq]
  rfl

private theorem exists_match_iff
    (failsAfter : Option Nat) (content : List UInt8) (username : CString) :
    (∀ line ∈ (loopReading failsAfter userLineRoom content).lines,
      matchUserLine username line = none) ↔
        ¬RecordReached failsAfter content username := by
  simp only [loopReading, mem_lines_iff (show 0 < userLineRoom by decide),
    RecordReached, not_exists, not_and, Option.not_isSome_iff_eq_none]

theorem findUserInFile_absent
    {failsAfter : Option Nat} {content : List UInt8} {username : CString} :
    findUserInFile ⟨false, false, failsAfter⟩ (some content) username =
        .absent ↔
      ¬RecordReached failsAfter content username := by
  rw [← exists_match_iff, findUserInFile_of_readable,
    ← List.findSome?_eq_none_iff]
  split
  · rename_i user found
    rw [found]
    exact iff_of_false (fun same => nomatch same) fun same => nomatch same
  · rename_i nothing
    exact iff_of_true rfl nothing

theorem findReports_iff
    (content : List UInt8) (position : Nat) (username : CString) :
    FindReports content position username ↔
      EndsEarly userLineRoom (content.take position) ∨
        RecordReached (some position) content username := by
  have fails : SearchFails content position username ↔
      ¬(EndsEarly userLineRoom (content.take position) ∨
        RecordReached (some position) content username) := by
    rw [SearchFails, ending_failure_iff (by decide), exists_match_iff, not_or]
  constructor
  · intro reports
    by_contra reached
    have error := reports.2 (fails.mpr reached)
    rw [findUserInFile_absent.mpr (not_or.mp reached).2] at error
    cases error
  · intro condition
    refine ⟨?_, fun gets => absurd condition (fails.mp gets)⟩
    intro user found
    rw [findUserInFile_of_readable] at found
    split at found
    · rename_i other here
      cases found
      exact List.exists_of_findSome?_eq_some here
    · cases found

/-! ## The load -/

theorem loadReports_iff
    (content : List UInt8) (position maxRecords : Nat) :
    LoadReports content position maxRecords ↔
      EndsEarly scoreLineRoom (content.take position) ∨
        maxRecords ≤ (recordsBefore content position).length := by
  have fails : LoadFails content position maxRecords ↔
      ¬(EndsEarly scoreLineRoom (content.take position) ∨
        maxRecords ≤ (recordsBefore content position).length) := by
    rw [LoadFails, ending_failure_iff (by decide), not_or, Nat.not_le]
    apply and_congr_right
    intro noEnd
    have none : NoneStops scoreLineRoom
        (closedLines newline (readable (some position) content)) :=
      not_endsEarly_iff.mp noEnd
    rw [loopReading, readLines_pieces (by decide), if_pos none]
    rfl
  have loaded :
      loadAllScoresFromFile ⟨false, false, some position⟩ (some content)
        maxRecords ≠ none := by
    intro nothing
    cases nothing
  constructor
  · intro reports
    by_contra reached
    exact loaded (reports (fails.mpr reached))
  · intro condition gets
    exact absurd condition (fails.mp gets)

/-! ## The registration -/

/-- A registration appends after a search that has found nothing. -/
private theorem search_absent_iff
    {failsAfter : Option Nat} {content : List UInt8}
    {username hashedPassword : Option CString} :
    (∃ newUser, registerUserSearch ⟨false, false, failsAfter⟩ (some content)
        username hashedPassword = .absent newUser) ↔
      FieldsAccepted username hashedPassword ∧
        ∀ name, username = some name →
          ¬RecordReached failsAfter content name := by
  cases username with
  | none =>
      refine iff_of_false (fun ⟨_, absent⟩ => nomatch absent) ?_
      rintro ⟨⟨name, _, same, _⟩, _⟩
      cases same
  | some name =>
      cases hashedPassword with
      | none =>
          refine iff_of_false (fun ⟨_, absent⟩ => nomatch absent) ?_
          rintro ⟨⟨_, password, _, same, _⟩, _⟩
          cases same
      | some password =>
          simp only [registerUserSearch_absent_iff, findUserInFile_absent]
          constructor
          · rintro ⟨newUser, filled, missing, sameName, samePassword⟩
            refine ⟨⟨name, password, rfl, rfl, filled, ?_, ?_⟩, ?_⟩
            · rw [CString.strlen, ← sameName]
              exact newUser.username.fits
            · rw [CString.strlen, ← samePassword]
              exact newUser.password.fits
            · rintro _ ⟨⟩
              exact missing
          · rintro ⟨⟨_, _, ⟨⟩, ⟨⟩, filled, nameShort, passwordShort⟩, missing⟩
            exact ⟨⟨⟨name, nameShort⟩, ⟨password, passwordShort⟩⟩, filled,
              missing name rfl, rfl, rfl⟩

theorem registerSearchesAll_iff
    (failsAfter : Option Nat) (content : List UInt8)
    (username hashedPassword : Option CString) :
    RegisterSearchesAll failsAfter content username hashedPassword ↔
      ¬FieldsAccepted username hashedPassword ∨
        (∃ name, username = some name ∧
          RecordReached failsAfter content name) ∨
        failsAfter = none ∧ ¬EndsEarly userLineRoom content := by
  rw [RegisterSearchesAll, ending_endOfInput_iff (by decide)]
  have appends : (∃ writes,
      (registerUserImpl ⟨false, false, failsAfter⟩ writes (some content)
        username hashedPassword).2 ≠ some content) ↔
      FieldsAccepted username hashedPassword ∧
        ∀ name, username = some name →
          ¬RecordReached failsAfter content name := by
    rw [← search_absent_iff]
    simp only [registerUserImpl]
    cases searched : registerUserSearch ⟨false, false, failsAfter⟩
        (some content) username hashedPassword with
    | refused message => simp
    | absent newUser =>
        refine iff_of_true ⟨.succeed, ?_⟩ ⟨newUser, rfl⟩
        simp only [registerUserAppend_users, appendLine_succeed, ne_eq,
          Option.some.injEq]
        intro same
        have lengths := congrArg List.length same
        simp [userLine] at lengths
  constructor
  · intro searchesAll
    by_cases all : failsAfter = none ∧ ¬EndsEarly userLineRoom content
    · exact .inr (.inr all)
    · by_contra reached
      simp only [not_or, not_exists, not_and, not_not] at reached
      obtain ⟨writes, changed⟩ := appends.mpr ⟨reached.1, reached.2.1⟩
      exact all (searchesAll writes changed)
  · intro condition writes changed
    obtain ⟨accepted, missing⟩ := appends.mp ⟨writes, changed⟩
    rcases condition with refused | ⟨name, same, reached⟩ | all
    · exact absurd accepted refused
    · exact absurd reached (missing name same)
    · exact all

/-- A read that fails is reported exactly when the loop does not get to it,
and a registration searches the whole file exactly when it does not append or
no read fails and no line ends the loop. -/
theorem readErrors_reported_iff
    (content : List UInt8) (position maxRecords : Nat) (name : CString)
    (failsAfter : Option Nat) (username hashedPassword : Option CString) :
    (FindReports content position name ↔
      EndsEarly userLineRoom (content.take position) ∨
        RecordReached (some position) content name) ∧
    (LoadReports content position maxRecords ↔
      EndsEarly scoreLineRoom (content.take position) ∨
        maxRecords ≤ (recordsBefore content position).length) ∧
    (RegisterSearchesAll failsAfter content username hashedPassword ↔
      ¬FieldsAccepted username hashedPassword ∨
        (∃ name, username = some name ∧
          RecordReached failsAfter content name) ∨
        failsAfter = none ∧ ¬EndsEarly userLineRoom content) :=
  ⟨findReports_iff content position name,
    loadReports_iff content position maxRecords,
    registerSearchesAll_iff failsAfter content username hashedPassword⟩

/-- A read that fails at once hides the user and lets the name be registered
again, and it hides the scores. -/
theorem readErrors_unreported :
    ¬ ∀ content position maxRecords name password,
      FindReports content position name ∧
        LoadReports content position maxRecords ∧
        RegisterSearchesAll (some position) content (some name)
          (some password) := by
  intro reported
  have hidden := (reported (text "alice:pw\n") 0 maxTotalScores
    (.ofBuffer (text "alice")) (.ofBuffer (text "pw"))).1.2
  have error := hidden ⟨by decide, by decide⟩
  exact absurd error (by decide)

end RainTyping
