import RainTyping.Server.Leaderboard

/-!
# Every accepted score counts

Submissions are appended to `scores.txt` and never removed, but a leaderboard
loads no more than the first `maxTotalScores` of them.  A score that is
accepted later is not seen, however good it is.
-/

namespace RainTyping

open LineReader

/-- A score submission by a handler whose user is logged in. -/
structure Submission where
  username : CharArray maxIdLen
  score : Int32
  loggedIn : LoggedIn username

def Submission.record (submission : Submission) : ScoreRecord :=
  ⟨submission.username, submission.score⟩

/-- The scores file and the submissions answered with success so far. -/
structure ScoreLog where
  scores : DataFile
  accepted : List Submission

namespace ScoreLog

def empty : ScoreLog :=
  ⟨some [], []⟩

/-- One submission whose writes succeed. -/
def submit (log : ScoreLog) (submission : Submission) : ScoreLog :=
  let (response, scores) := submitScoreImpl .succeed log.scores
    submission.username.toCString submission.score
  ⟨scores,
    if response.success then log.accepted ++ [submission] else log.accepted⟩

/-- The given submissions, one after another, on an empty scores file. -/
def submitAll (submissions : List Submission) : ScoreLog :=
  submissions.foldl submit empty

def leaderboard (qsort : QSort) (log : ScoreLog) : LeaderboardResponse :=
  getLeaderboardImpl qsort .succeed log.scores maxLeaderboardEntries

end ScoreLog

open ScoreLog

/-- The users who have submitted a score. -/
def submitters (submissions : List Submission) : List (CharArray maxIdLen) :=
  (submissions.map Submission.username).dedup

/-- The leaderboard has one entry for each user, with the best of the user's
accepted scores. -/
def ShowsBestScores (qsort : QSort) (submissions : List Submission) : Prop :=
  ∃ entries,
    (submitAll submissions).leaderboard qsort = ⟨some entries⟩ ∧
      (entries.map ScoreRecord.username).Perm (submitters submissions) ∧
      ∀ entry ∈ entries,
        IsBestScore ((submitAll submissions).accepted.map Submission.record)
          entry.username entry.score

/-- No submission beats all that its user has among the first
`maxTotalScores`. -/
def BestScoresEarly (submissions : List Submission) : Prop :=
  ∀ submission ∈ submissions,
    ∃ early ∈ submissions.take maxTotalScores,
      early.username = submission.username ∧
        submission.score ≤ early.score

/-! ## The file after some submissions -/

theorem submitAll_snoc (submissions : List Submission)
    (submission : Submission) :
    submitAll (submissions ++ [submission]) =
      (submitAll submissions).submit submission := by
  simp [submitAll]

private def scoreLine (submission : Submission) : List UInt8 :=
  scoreRecord submission.username.toCString submission.score ++ [newline]

theorem submit_succeeds (content : List UInt8) (accepted : List Submission)
    (submission : Submission) :
    submit ⟨some content, accepted⟩ submission =
      ⟨some (content ++ scoreLine submission), accepted ++ [submission]⟩ := by
  have named : submission.username.strlen ≠ 0 := by
    have nonempty := submission.loggedIn.1
    simpa [CString.strlen] using nonempty
  simp [submit, submitScoreImpl, named, addScoreToFile, scoreLine]

/-- Every submission is accepted and appended. -/
theorem submitAll_eq (submissions : List Submission) :
    submitAll submissions =
      ⟨some (submissions.flatMap scoreLine), submissions⟩ := by
  induction submissions using List.reverseRecOn with
  | nil => rfl
  | append_singleton submissions submission induction =>
      rw [submitAll_snoc, induction, submit_succeeds]
      simp

/-- The line of a record in the scores file. -/
def recordLine (record : ScoreRecord) : List UInt8 :=
  scoreRecord record.username.toCString record.score ++ [newline]

/-- Records of clean names are read back from their lines. -/
theorem loadAllScores_recordLines
    {records : List ScoreRecord}
    (clean : ∀ record ∈ records, CleanName record.username.bytes)
    (maxRecords : Nat) :
    loadAllScoresFromFile .succeed (some (records.flatMap recordLine))
        maxRecords =
      some (records.take maxRecords) := by
  have wellFormed : ∀ line ∈ records.map fun record =>
      scoreRecord record.username.toCString record.score,
      line ≠ [] ∧ newline ∉ line ∧ line.length < scoreLineRoom := by
    intro line member
    obtain ⟨record, recordMember, rfl⟩ := List.mem_map.mp member
    exact ⟨by simp [scoreRecord],
      newline_notMem_scoreRecord (clean record recordMember).noNewline _,
      length_scoreRecord_lt record.username.fits _⟩
  have read := readLines_records wellFormed
  have parsed : (records.map fun record =>
      scoreRecord record.username.toCString record.score).filterMap
        parseScoreLine = records := by
    rw [List.filterMap_map]
    calc
      records.filterMap (parseScoreLine ∘ fun record =>
          scoreRecord record.username.toCString record.score)
          = records.filterMap some := by
            apply List.filterMap_congr
            intro record member
            have readBack := parseScoreLine_record
              (clean record member).noColon record.username.fits record.score
            simpa using readBack
      _ = records := List.filterMap_some
  rw [List.flatMap_map] at read
  simp only [loadAllScoresFromFile, ReadCalls.succeed, Bool.false_eq_true,
    ↓reduceIte, linesRead]
  have content : records.flatMap recordLine = records.flatMap fun record =>
      scoreRecord record.username.toCString record.score ++ [newline] :=
    rfl
  rw [content, read, parsed]

/-- The records of the first submissions are loaded. -/
theorem loadAllScores_submitAll (submissions : List Submission) :
    loadAllScoresFromFile .succeed (submitAll submissions).scores
        maxTotalScores =
      some ((submissions.take maxTotalScores).map Submission.record) := by
  have clean : ∀ record ∈ submissions.map Submission.record,
      CleanName record.username.bytes := by
    intro record member
    obtain ⟨submission, _, rfl⟩ := List.mem_map.mp member
    exact submission.loggedIn.clean
  have content : submissions.flatMap scoreLine =
      (submissions.map Submission.record).flatMap recordLine := by
    rw [List.flatMap_map]
    rfl
  rw [submitAll_eq, List.map_take]
  simp only [content]
  exact loadAllScores_recordLines clean maxTotalScores

/-! ## What the leaderboard shows -/

section Leaderboard

variable {qsort : QSort} {submissions : List Submission}

/-- The records a leaderboard is made of. -/
private def loadedRecords (submissions : List Submission) :
    List ScoreRecord :=
  (submissions.take maxTotalScores).map Submission.record

private theorem loadedRecords_named : AllNamed (loadedRecords submissions) := by
  intro record member
  obtain ⟨submission, _, rfl⟩ := List.mem_map.mp member
  exact submission.loggedIn.1

private theorem leaderboard_submitAll :
    (submitAll submissions).leaderboard qsort =
      ⟨some (leaderboardOf qsort (loadedRecords submissions)
        maxLeaderboardEntries)⟩ :=
  getLeaderboardImpl_of_loaded (loadAllScores_submitAll submissions)

private theorem accepted_submitAll :
    (submitAll submissions).accepted = submissions := by
  rw [submitAll_eq]

private theorem mem_loadedRecords {record : ScoreRecord} :
    record ∈ loadedRecords submissions ↔
      ∃ submission ∈ submissions.take maxTotalScores,
        submission.record = record :=
  List.mem_map

private theorem usersBefore_loaded_lt
    (few : (submitters submissions).length ≤ maxLeaderboardEntries)
    {record : ScoreRecord} (member : record ∈ loadedRecords submissions) :
    usersBefore (loadedRecords submissions) record.username <
      maxLeaderboardEntries := by
  have loadedUsers :
      ((loadedRecords submissions).map ScoreRecord.username).dedup ⊆
        submitters submissions := by
    intro username listed
    rw [List.mem_dedup] at listed
    obtain ⟨record, loaded, rfl⟩ := List.mem_map.mp listed
    obtain ⟨submission, early, rfl⟩ := mem_loadedRecords.mp loaded
    rw [submitters, List.mem_dedup]
    exact List.mem_map_of_mem (List.mem_of_mem_take early)
  calc
    usersBefore (loadedRecords submissions) record.username
        < ((loadedRecords submissions).map ScoreRecord.username).dedup.length :=
          usersBefore_lt member
    _ ≤ (submitters submissions).length :=
          ((List.nodup_dedup _).subperm loadedUsers).length_le
    _ ≤ maxLeaderboardEntries := few

theorem bestScoresEarly_of_shows
    (shows : ShowsBestScores qsort submissions) :
    BestScoresEarly submissions := by
  obtain ⟨entries, answered, users, best⟩ := shows
  rw [leaderboard_submitAll, LeaderboardResponse.mk.injEq,
    Option.some.injEq] at answered
  subst entries
  rw [accepted_submitAll] at best
  intro submission member
  have listed : submission.username ∈ submitters submissions := by
    rw [submitters, List.mem_dedup]
    exact List.mem_map_of_mem member
  obtain ⟨entry, entryMember, sameUser⟩ :=
    List.mem_map.mp (users.mem_iff.mpr listed)
  have loaded :=
    ((mem_leaderboardOf_iff loadedRecords_named).mp entryMember).1.scored
  obtain ⟨early, earlyMember, same⟩ := mem_loadedRecords.mp loaded
  have sameRecord := ScoreRecord.mk.inj same
  refine ⟨early, earlyMember, sameRecord.1.trans sameUser, ?_⟩
  rw [sameRecord.2]
  exact (best entry entryMember).best submission.record
    (List.mem_map_of_mem member) sameUser.symm

theorem showsBestScores_of_early
    (few : (submitters submissions).length ≤ maxLeaderboardEntries)
    (early : BestScoresEarly submissions) :
    ShowsBestScores qsort submissions := by
  refine ⟨_, leaderboard_submitAll, ?_, ?_⟩
  · apply (List.perm_ext_iff_of_nodup leaderboardOf_username_nodup
      (List.nodup_dedup _)).mpr
    intro username
    rw [List.mem_dedup, List.mem_map, List.mem_map]
    constructor
    · rintro ⟨entry, member, rfl⟩
      have loaded :=
        ((mem_leaderboardOf_iff loadedRecords_named).mp member).1.scored
      obtain ⟨submission, earlyMember, same⟩ := mem_loadedRecords.mp loaded
      exact ⟨submission, List.mem_of_mem_take earlyMember,
        (ScoreRecord.mk.inj same).1⟩
    · rintro ⟨submission, member, rfl⟩
      obtain ⟨first, firstMember, same, _⟩ := early submission member
      have loaded : first.record ∈ loadedRecords submissions :=
        mem_loadedRecords.mpr ⟨first, firstMember, rfl⟩
      obtain ⟨best, isBest⟩ :=
        exists_isBestScore loaded (loadedRecords_named _ loaded)
      rw [← same]
      exact (listed_iff loadedRecords_named isBest).mpr
        (Int.ofNat_lt.mpr (usersBefore_loaded_lt few loaded))
  · intro entry member
    have best := ((mem_leaderboardOf_iff loadedRecords_named).mp member).1
    rw [accepted_submitAll]
    constructor
    · obtain ⟨submission, earlyMember, same⟩ :=
        mem_loadedRecords.mp best.scored
      exact List.mem_map.mpr
        ⟨submission, List.mem_of_mem_take earlyMember, same⟩
    · intro record recordMember sameUser
      obtain ⟨submission, submissionMember, rfl⟩ :=
        List.mem_map.mp recordMember
      obtain ⟨first, firstMember, same, atLeast⟩ :=
        early submission submissionMember
      have loaded : first.record ∈ loadedRecords submissions :=
        mem_loadedRecords.mpr ⟨first, firstMember, rfl⟩
      have isBest := best.best first.record loaded (same.trans sameUser)
      exact Int32.le_trans atLeast isBest

end Leaderboard

/-- With few submitters the leaderboard shows every best score exactly when
each user has reached it among the first submissions. -/
theorem showsBestScores_iff
    {qsort : QSort} {submissions : List Submission}
    (few : (submitters submissions).length ≤ maxLeaderboardEntries) :
    ShowsBestScores qsort submissions ↔ BestScoresEarly submissions :=
  ⟨bestScoresEarly_of_shows, showsBestScores_of_early few⟩

theorem bestScoresEarly_of_length_le
    {submissions : List Submission}
    (few : submissions.length ≤ maxTotalScores) :
    BestScoresEarly submissions := by
  intro submission member
  refine ⟨submission, ?_, rfl, Int32.le_refl _⟩
  rw [List.take_of_length_le few]
  exact member

/-! ## A short file, and a full one -/

private theorem a_loggedIn : LoggedIn (.store maxIdLen (text "a")) := by
  refine ⟨by decide, .succeed, some (text "a:b\n"),
    some (.ofBuffer (text "a")), some (.ofBuffer (text "b")), ?_⟩
  decide

private theorem c_loggedIn : LoggedIn (.store maxIdLen (text "c")) := by
  refine ⟨by decide, .succeed, some (text "c:d\n"),
    some (.ofBuffer (text "c")), some (.ofBuffer (text "d")), ?_⟩
  decide

def submissionOf (score : Int32) : Submission :=
  ⟨.store maxIdLen (text "a"), score, a_loggedIn⟩

/-- Two users, one of whom plays twice. -/
def twoPlayers : List Submission :=
  [submissionOf 3, ⟨.store maxIdLen (text "c"), 5, c_loggedIn⟩,
    submissionOf 7]

theorem showsBestScores_twoPlayers :
    (submitters twoPlayers).length = 2 ∧
      ShowsBestScores .insertion twoPlayers :=
  ⟨by decide, (showsBestScores_iff (by decide)).mpr
    (bestScoresEarly_of_length_le (by decide))⟩

/-- One user's better score after `maxTotalScores` submissions. -/
def lateRecord : List Submission :=
  List.replicate maxTotalScores (submissionOf 0) ++ [submissionOf 1]

theorem lateRecord_not_shown :
    ¬ ∀ qsort submissions,
      (submitters submissions).length ≤ maxLeaderboardEntries →
        ShowsBestScores qsort submissions := by
  intro shows
  have one : submitters lateRecord ⊆ [(submissionOf 0).username] := by
    intro username listed
    rw [submitters, List.mem_dedup, List.mem_map] at listed
    obtain ⟨submission, member, rfl⟩ := listed
    rcases List.mem_append.mp member with first | last
    · rw [List.eq_of_mem_replicate first]
      exact List.mem_singleton_self _
    · rw [List.mem_singleton.mp last]
      exact List.mem_singleton_self _
  have few : (submitters lateRecord).length ≤ 1 :=
    ((List.nodup_dedup _).subperm one).length_le
  have early := bestScoresEarly_of_shows
    (shows .insertion lateRecord (few.trans (by decide)))
  obtain ⟨first, firstMember, _, atLeast⟩ :=
    early (submissionOf 1) (by simp [lateRecord])
  have loaded : lateRecord.take maxTotalScores =
      List.replicate maxTotalScores (submissionOf 0) := by
    rw [lateRecord, List.take_left' List.length_replicate]
  rw [loaded] at firstMember
  rw [List.eq_of_mem_replicate firstMember] at atLeast
  exact absurd atLeast (by decide)

end RainTyping
