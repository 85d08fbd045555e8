import RainTyping.Server.UserLookup

/-!
# Appends to the data files

`add_user_to_file` and `add_score_to_file` are answered with success only when
their whole line is in the file.  An append that fails after some bytes of the
line were stored, or only in its `close`, leaves these bytes behind.
-/

namespace RainTyping

open LineReader

/-- A call of one of the two functions. -/
inductive AppendCall where
  | addUser (user : UserData)
  | addScore (username : CString) (score : Int32)
  deriving DecidableEq

/-- A call with what its system calls answer; a failing `fsync` is reported
and nothing else. -/
structure Append where
  call : AppendCall
  writes : WriteCalls
  fsyncFails : Bool
  deriving DecidableEq

structure DataFiles where
  users : DataFile
  scores : DataFile
  deriving DecidableEq

/-- The answer and the files afterwards. -/
def Append.run (append : Append) (files : DataFiles) : Bool × DataFiles :=
  match append.call with
  | .addUser user =>
      let (added, users) := addUserToFile append.writes files.users user
      (added, ⟨users, files.scores⟩)
  | .addScore username score =>
      let (added, scores) :=
        addScoreToFile append.writes files.scores username score
      (added, ⟨files.users, scores⟩)

/-- The files after some appends, one after another. -/
def filesAfter (files : DataFiles) (appends : List Append) : DataFiles :=
  appends.foldl (fun files append => (append.run files).2) files

/-- The appends that are answered with success. -/
def succeeded (files : DataFiles) : List Append → List Append
  | [] => []
  | append :: appends =>
      let (added, after) := append.run files
      if added then append :: succeeded after appends
      else succeeded after appends

/-- The bytes an append is meant to add to the users file. -/
def Append.userBytes (append : Append) : List UInt8 :=
  match append.call with
  | .addUser user => userLine user
  | .addScore _ _ => []

/-- The bytes an append is meant to add to the scores file. -/
def Append.scoreBytes (append : Append) : List UInt8 :=
  match append.call with
  | .addUser _ => []
  | .addScore username score => scoreRecord username score ++ [newline]

/-- Both files have grown by the given appends. -/
structure Grown (files after : DataFiles) (appends : List Append) : Prop where
  users : after.users.getD [] =
    files.users.getD [] ++ appends.flatMap Append.userBytes
  scores : after.scores.getD [] =
    files.scores.getD [] ++ appends.flatMap Append.scoreBytes

/-- The append is answered with success and has added its whole line, or it is
answered with failure and has added nothing. -/
def Append.WholeOrNothing (append : Append) (files : DataFiles) : Prop :=
  ((append.run files).1 = true ∧ Grown files (append.run files).2 [append]) ∨
    ((append.run files).1 = false ∧ Grown files (append.run files).2 [])

/-- Every append of a sequence adds its whole line or nothing, and the files
are those of the successful appends alone. -/
structure AllOrNothing (files : DataFiles) (appends : List Append) : Prop where
  each : ∀ before append after, appends = before ++ append :: after →
    append.WholeOrNothing (filesAfter files before)
  grown : Grown files (filesAfter files appends) (succeeded files appends)
  lookups : ∀ username,
    findUserInFile .succeed (filesAfter files appends).users username =
      findUserInFile .succeed
        (filesAfter files (succeeded files appends)).users username
  loads : ∀ maxRecords,
    loadAllScoresFromFile .succeed (filesAfter files appends).scores
        maxRecords =
      loadAllScoresFromFile .succeed
        (filesAfter files (succeeded files appends)).scores maxRecords

/-- All of the line reaches the file and the `close` succeeds, or nothing of
the line reaches it. -/
def WriteCalls.AllOrNone (calls : WriteCalls) : Prop :=
  calls.StoreNothing ∨ calls.stored = none ∧ calls.closeFails = false

/-! ## One append -/

/-- What one append must leave, by its answer. -/
private def LeavesLine (outcome : Bool × DataFile) (file : DataFile)
    (line : List UInt8) : Prop :=
  (outcome.1 = true ∧ outcome.2.getD [] = file.getD [] ++ line) ∨
    (outcome.1 = false ∧ outcome.2.getD [] = file.getD [])

private theorem appendLine_leavesLine_iff
    {calls : WriteCalls} {line : List UInt8} (file : DataFile)
    (written : line ≠ []) :
    LeavesLine (appendLine calls file line) file line ↔ calls.AllOrNone := by
  obtain ⟨openFails, flockFails, stored, closeFails⟩ := calls
  cases openFails with
  | true =>
      exact iff_of_true (.inr ⟨rfl, rfl⟩) (.inl (.inl rfl))
  | false =>
      cases flockFails with
      | true =>
          exact iff_of_true (.inr ⟨rfl, rfl⟩) (.inl (.inr (.inl rfl)))
      | false =>
          cases stored with
          | some count =>
              simp [LeavesLine, appendLine, WriteCalls.AllOrNone,
                WriteCalls.StoreNothing, written]
          | none =>
              cases closeFails <;>
                simp [LeavesLine, appendLine, WriteCalls.AllOrNone,
                  WriteCalls.StoreNothing, written]

private theorem grown_iff {files after : DataFiles} {appends : List Append} :
    Grown files after appends ↔
      after.users.getD [] =
          files.users.getD [] ++ appends.flatMap Append.userBytes ∧
        after.scores.getD [] =
          files.scores.getD [] ++ appends.flatMap Append.scoreBytes :=
  ⟨fun grown => ⟨grown.users, grown.scores⟩, fun both => ⟨both.1, both.2⟩⟩

/-- An append leaves what its answer says exactly when its line is stored
completely and closed, or not at all. -/
theorem Append.wholeOrNothing_iff (append : Append) (files : DataFiles) :
    append.WholeOrNothing files ↔ append.writes.AllOrNone := by
  obtain ⟨call, writes, fsyncFails⟩ := append
  cases call with
  | addUser user =>
      have written : userLine user ≠ [] :=
        List.append_ne_nil_of_right_ne_nil _ (List.cons_ne_nil _ _)
      rw [← appendLine_leavesLine_iff files.users written]
      simp only [WholeOrNothing, grown_iff, run, addUserToFile, userLine,
        LeavesLine, List.flatMap_cons, List.flatMap_nil, userBytes,
        scoreBytes, List.append_nil, and_true]
  | addScore username score =>
      have written : scoreRecord username score ++ [newline] ≠ [] :=
        List.append_ne_nil_of_right_ne_nil _ (List.cons_ne_nil _ _)
      rw [← appendLine_leavesLine_iff files.scores written]
      simp only [WholeOrNothing, grown_iff, run, addScoreToFile, LeavesLine,
        List.flatMap_cons, List.flatMap_nil, userBytes, scoreBytes,
        List.append_nil, true_and]

theorem Append.run_fst (append : Append) (files others : DataFiles) :
    (append.run files).1 = (append.run others).1 := by
  have sameAnswer : ∀ (file other : DataFile) (line : List UInt8),
      (appendLine append.writes file line).1 =
        (appendLine append.writes other line).1 := by
    intro file other line
    unfold appendLine
    split
    · rfl
    · simp only
      split
      · rfl
      · split <;> rfl
  obtain ⟨call, writes, fsyncFails⟩ := append
  cases call with
  | addUser user => exact sameAnswer files.users others.users _
  | addScore username score => exact sameAnswer files.scores others.scores _

/-! ## All appends -/

theorem succeeded_subset (files : DataFiles) (appends : List Append) :
    succeeded files appends ⊆ appends := by
  induction appends generalizing files with
  | nil => exact List.Subset.refl []
  | cons append appends induction =>
      have later := induction (append.run files).2
      rw [succeeded]
      simp only
      split
      · exact List.cons_subset_cons append later
      · exact List.subset_cons_of_subset append later

theorem succeeded_succeeded (files others : DataFiles)
    (appends : List Append) :
    succeeded others (succeeded files appends) = succeeded files appends := by
  induction appends generalizing files others with
  | nil => rfl
  | cons append appends induction =>
      rw [succeeded]
      simp only
      by_cases added : (append.run files).1 = true
      · have again : (append.run others).1 = true :=
          (append.run_fst others files).trans added
        rw [if_pos added, succeeded]
        simp only
        rw [if_pos again, induction]
      · rw [if_neg added, induction]

private theorem grown_of_allOrNone
    {appends : List Append}
    (allOrNone : ∀ append ∈ appends, append.writes.AllOrNone)
    (files : DataFiles) :
    Grown files (filesAfter files appends) (succeeded files appends) := by
  induction appends generalizing files with
  | nil => exact ⟨(List.append_nil _).symm, (List.append_nil _).symm⟩
  | cons append appends induction =>
      have later := induction
        (fun other member => allOrNone other (List.mem_cons_of_mem _ member))
        (append.run files).2
      have first := (append.wholeOrNothing_iff files).mpr
        (allOrNone append List.mem_cons_self)
      rw [succeeded]
      simp only
      rcases first with ⟨added, grown⟩ | ⟨refused, grown⟩
      · rw [if_pos added]
        refine ⟨?_, ?_⟩
        · exact later.users.trans (by rw [grown.users]; simp)
        · exact later.scores.trans (by rw [grown.scores]; simp)
      · rw [if_neg (by simp [refused])]
        refine ⟨?_, ?_⟩
        · exact later.users.trans (by rw [grown.users]; simp)
        · exact later.scores.trans (by rw [grown.scores]; simp)

/-- Files that have grown by the same appends have the same bytes. -/
private theorem Grown.same_bytes
    {files first second : DataFiles} {appends : List Append}
    (firstGrown : Grown files first appends)
    (secondGrown : Grown files second appends) :
    first.users.getD [] = second.users.getD [] ∧
      first.scores.getD [] = second.scores.getD [] :=
  ⟨firstGrown.users.trans secondGrown.users.symm,
    firstGrown.scores.trans secondGrown.scores.symm⟩

private theorem findUserInFile_congr
    {first second : DataFile} (same : first.getD [] = second.getD [])
    (username : CString) :
    findUserInFile .succeed first username =
      findUserInFile .succeed second username := by
  have asContent : ∀ file, findUserInFile .succeed file username =
      findUserInFile .succeed (some (file.getD [])) username := by
    intro file
    cases file with
    | none => simp [findUserInFile, ReadCalls.succeed, linesRead]
    | some content => rfl
  rw [asContent first, asContent second, same]

private theorem loadAllScoresFromFile_congr
    {first second : DataFile} (same : first.getD [] = second.getD [])
    (maxRecords : Nat) :
    loadAllScoresFromFile .succeed first maxRecords =
      loadAllScoresFromFile .succeed second maxRecords := by
  have asContent : ∀ file, loadAllScoresFromFile .succeed file maxRecords =
      loadAllScoresFromFile .succeed (some (file.getD [])) maxRecords := by
    intro file
    cases file with
    | none => simp [loadAllScoresFromFile, ReadCalls.succeed, linesRead]
    | some content => rfl
  rw [asContent first, asContent second, same]

/-- A sequence of appends is all or nothing exactly when each of them stores
its line completely and closes it, or stores nothing. -/
theorem appends_allOrNothing_iff (files : DataFiles) (appends : List Append) :
    AllOrNothing files appends ↔
      ∀ append ∈ appends, append.writes.AllOrNone := by
  constructor
  · intro allOrNothing append member
    obtain ⟨before, after, split⟩ := List.append_of_mem member
    exact (append.wholeOrNothing_iff _).mp
      (allOrNothing.each before append after split)
  · intro allOrNone
    have grown := grown_of_allOrNone allOrNone files
    have alone := grown_of_allOrNone
      (fun append member =>
        allOrNone append (succeeded_subset files appends member)) files
    rw [succeeded_succeeded] at alone
    obtain ⟨sameUsers, sameScores⟩ := grown.same_bytes alone
    refine ⟨?_, grown, findUserInFile_congr sameUsers,
      loadAllScoresFromFile_congr sameScores⟩
    rintro before append after rfl
    exact (append.wholeOrNothing_iff _).mpr (allOrNone append (by simp))

/-- The registration of `abc` stores two bytes before the device is full. -/
def tornAppend : Append where
  call := .addUser ⟨.store maxIdLen (text "abc"), .store maxPwLen (text "x")⟩
  writes := ⟨false, false, some 2, false⟩
  fsyncFails := false

/-- An append answered with failure leaves two bytes of its line. -/
theorem tornAppend_leaves_bytes :
    ¬ ∀ files appends, AllOrNothing files appends := by
  intro allOrNothing
  have whole := (allOrNothing ⟨some [], some []⟩ [tornAppend]).each
    [] tornAppend [] rfl
  rcases whole with ⟨added, _⟩ | ⟨_, grown⟩
  · exact absurd added (by decide)
  · exact absurd grown.users (by decide)

end RainTyping
