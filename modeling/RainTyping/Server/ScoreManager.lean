import RainTyping.Server.AuthManager
import RainTyping.Support.Comparator
import Mathlib.Order.Lex
import Mathlib.Data.List.Lex

/-!
# Score submission and the leaderboard

`get_leaderboard_impl` sorts the loaded records by name and falling score,
copies the first record of each name until the output is full, and sorts the
copies by falling score.  The sorting routine is an argument: any correct
`qsort` will do.
-/

namespace RainTyping

/-- `strcmp`, by the first byte in which the strings differ. -/
def strcmp : List UInt8 → List UInt8 → Int
  | [], [] => 0
  | [], byte :: _ => -byte.toNat
  | byte :: _, [] => byte.toNat
  | left :: lefts, right :: rights =>
      if left = right then strcmp lefts rights
      else left.toNat - right.toNat

def submitScoreImpl (calls : WriteCalls) (scores : DataFile)
    (username : CString) (score : Int32) : StatusResponse × DataFile :=
  if username.strlen = 0 then
    (⟨false, message (text "Cannot submit score for an anonymous user.")⟩,
      scores)
  else
    let (added, scores) := addScoreToFile calls scores username score
    if added then
      (⟨true, message (text "Score " ++ Decimal.printInt score.toInt ++
        text " submitted successfully for '" ++ username.bytes ++
        text "'.")⟩, scores)
    else
      (⟨false, messageFor "Failed to save score for '" username "'."⟩, scores)

def compareScoreRecordsForUserBest (recordA recordB : ScoreRecord) : Int :=
  let userCmp := strcmp recordA.username.bytes recordB.username.bytes
  if userCmp ≠ 0 then userCmp
  else if recordB.score > recordA.score then 1
  else if recordB.score < recordA.score then -1
  else 0

def compareLeaderboardEntriesFinal (entryA entryB : LeaderboardEntry) : Int :=
  if entryB.score > entryA.score then 1
  else if entryB.score < entryA.score then -1
  else 0

/-- The loop over the sorted records: a record of another user than the last
one copied is copied while the output has room. -/
def pickEntries (maxFinalEntries : Int) (lastProcessedUser : List UInt8)
    (entries : List LeaderboardEntry) :
    List ScoreRecord → List LeaderboardEntry
  | [] => entries
  | record :: records =>
      if record.username.bytes ≠ lastProcessedUser then
        if (entries.length : Int) < maxFinalEntries then
          pickEntries maxFinalEntries record.username.bytes
            (entries ++ [record]) records
        else pickEntries maxFinalEntries lastProcessedUser entries records
      else pickEntries maxFinalEntries lastProcessedUser entries records

/-- `get_leaderboard_impl` after the records are loaded. -/
def leaderboardOf (qsort : QSort) (records : List ScoreRecord)
    (maxFinalEntries : Int) : List LeaderboardEntry :=
  let allScores := qsort.sort compareScoreRecordsForUserBest records
  let entries := pickEntries maxFinalEntries [] [] allScores
  if entries.length > 0 then qsort.sort compareLeaderboardEntriesFinal entries
  else entries

def getLeaderboardImpl (qsort : QSort) (calls : ReadCalls)
    (scores : DataFile) (maxFinalEntries : Int) : LeaderboardResponse :=
  match loadAllScoresFromFile calls scores maxTotalScores with
  | none => ⟨none⟩
  | some [] => ⟨some []⟩
  | some records => ⟨some (leaderboardOf qsort records maxFinalEntries)⟩

/-! ## The comparators -/

/-- The byte values of a name; names are compared lexicographically by them. -/
def nameKey (record : ScoreRecord) : List Nat :=
  record.username.bytes.map UInt8.toNat

private theorem map_toNat_injective :
    Function.Injective (List.map UInt8.toNat) :=
  List.map_injective_iff.mpr fun _ _ same => UInt8.toNat_inj.mp same

theorem nameKey_eq_iff {first second : ScoreRecord} :
    nameKey first = nameKey second ↔ first.username = second.username := by
  constructor
  · intro same
    exact CharArray.eq_of_bytes_eq (map_toNat_injective same)
  · intro same
    rw [nameKey, nameKey, same]

theorem strcmp_neg_iff {left right : List UInt8} (rightNoNul : 0 ∉ right) :
    strcmp left right < 0 ↔
      left.map UInt8.toNat < right.map UInt8.toNat := by
  induction left generalizing right with
  | nil =>
      cases right with
      | nil => simp [strcmp]
      | cons byte rest =>
          have nonzero : byte ≠ 0 := fun zero => rightNoNul (by simp [zero])
          have positive : 0 < byte.toNat :=
            Nat.pos_of_ne_zero fun zero =>
              nonzero (UInt8.toNat_inj.mp (by simpa using zero))
          simp [strcmp, positive]
  | cons first lefts induction =>
      cases right with
      | nil => simp [strcmp]
      | cons second rights =>
          have tailNoNul : 0 ∉ rights :=
            fun member => rightNoNul (List.mem_cons_of_mem _ member)
          by_cases same : first = second
          · subst same
            simp only [strcmp, ↓reduceIte, List.map_cons,
              List.cons_lt_cons_iff, Nat.lt_irrefl, true_and, false_or]
            exact induction tailNoNul
          · have different : first.toNat ≠ second.toNat :=
              fun equal => same (UInt8.toNat_inj.mp equal)
            simp only [strcmp, same, ↓reduceIte, List.map_cons,
              List.cons_lt_cons_iff, different, false_and, or_false]
            omega

theorem strcmp_eq_zero_iff
    {left right : List UInt8} (leftNoNul : 0 ∉ left) (rightNoNul : 0 ∉ right) :
    strcmp left right = 0 ↔ left = right := by
  induction left generalizing right with
  | nil =>
      cases right with
      | nil => simp [strcmp]
      | cons byte rest =>
          have nonzero : byte ≠ 0 := fun zero => rightNoNul (by simp [zero])
          simpa [strcmp, ← UInt8.toNat_inj] using nonzero
  | cons first lefts induction =>
      cases right with
      | nil =>
          have nonzero : first ≠ 0 := fun zero => leftNoNul (by simp [zero])
          simpa [strcmp, ← UInt8.toNat_inj] using nonzero
      | cons second rights =>
          by_cases same : first = second
          · subst same
            simp only [strcmp, ↓reduceIte, List.cons.injEq, true_and]
            exact induction
              (fun member => leftNoNul (List.mem_cons_of_mem _ member))
              (fun member => rightNoNul (List.mem_cons_of_mem _ member))
          · have different : first.toNat ≠ second.toNat :=
              fun equal => same (UInt8.toNat_inj.mp equal)
            simp only [strcmp, same, ↓reduceIte, List.cons.injEq, false_and,
              iff_false]
            omega

theorem strcmp_username_neg_iff {first second : ScoreRecord} :
    strcmp first.username.bytes second.username.bytes < 0 ↔
      nameKey first < nameKey second :=
  strcmp_neg_iff second.username.noNul

theorem strcmp_username_eq_zero_iff {first second : ScoreRecord} :
    strcmp first.username.bytes second.username.bytes = 0 ↔
      nameKey first = nameKey second := by
  rw [strcmp_eq_zero_iff first.username.noNul second.username.noNul,
    nameKey_eq_iff]
  constructor
  · exact CharArray.eq_of_bytes_eq
  · intro same
    rw [same]

/-- The order of the first sort: by name, and by falling score for one name. -/
theorem compareScoreRecords_nonpos_iff {recordA recordB : ScoreRecord} :
    compareScoreRecordsForUserBest recordA recordB ≤ 0 ↔
      nameKey recordA < nameKey recordB ∨
        nameKey recordA = nameKey recordB ∧
          recordB.score ≤ recordA.score := by
  unfold compareScoreRecordsForUserBest
  by_cases same : nameKey recordA = nameKey recordB
  · have zero := strcmp_username_eq_zero_iff.mpr same
    simp only [zero, ne_eq, not_true_eq_false, ↓reduceIte, same, lt_irrefl,
      false_or, true_and, gt_iff_lt]
    rw [Int32.le_iff_toInt_le]
    simp only [Int32.lt_iff_toInt_lt]
    split
    · omega
    · split <;> omega
  · have nonzero : strcmp recordA.username.bytes recordB.username.bytes ≠ 0 :=
      fun zero => same (strcmp_username_eq_zero_iff.mp zero)
    simp only [ne_eq, nonzero, not_false_eq_true, ↓reduceIte, same, false_and,
      or_false, ← strcmp_username_neg_iff]
    omega

theorem compareScoreRecords_neg_iff {recordA recordB : ScoreRecord} :
    compareScoreRecordsForUserBest recordA recordB < 0 ↔
      nameKey recordA < nameKey recordB ∨
        nameKey recordA = nameKey recordB ∧
          recordB.score < recordA.score := by
  unfold compareScoreRecordsForUserBest
  by_cases same : nameKey recordA = nameKey recordB
  · have zero := strcmp_username_eq_zero_iff.mpr same
    simp only [zero, ne_eq, not_true_eq_false, ↓reduceIte, same, lt_irrefl,
      false_or, true_and, gt_iff_lt, Int32.lt_iff_toInt_lt]
    split
    · omega
    · split <;> omega
  · have nonzero : strcmp recordA.username.bytes recordB.username.bytes ≠ 0 :=
      fun zero => same (strcmp_username_eq_zero_iff.mp zero)
    simp only [ne_eq, nonzero, not_false_eq_true, ↓reduceIte, same, false_and,
      or_false, ← strcmp_username_neg_iff]

theorem compareScoreRecords_consistent :
    Consistent compareScoreRecordsForUserBest where
  swap recordA recordB := by
    rw [← Int.not_le, compareScoreRecords_nonpos_iff,
      compareScoreRecords_neg_iff, not_or, not_and, not_lt,
      Int32.le_iff_toInt_le, Int32.lt_iff_toInt_lt]
    constructor
    · rintro ⟨notBefore, notBetter⟩
      rcases lt_or_eq_of_le notBefore with smaller | same
      · exact .inl smaller
      · exact .inr ⟨same, by have := notBetter same.symm; omega⟩
    · rintro (smaller | ⟨same, better⟩)
      · exact ⟨smaller.le, fun same => absurd same smaller.ne'⟩
      · exact ⟨same.le, fun _ => by omega⟩
  trans first second third := by
    simp only [compareScoreRecords_nonpos_iff, Int32.le_iff_toInt_le]
    rintro (smaller | ⟨same, better⟩) (smaller' | ⟨same', better'⟩)
    · exact .inl (smaller.trans smaller')
    · exact .inl (same' ▸ smaller)
    · exact .inl (same ▸ smaller')
    · exact .inr ⟨same.trans same', by omega⟩

/-- The order of the final sort: by falling score. -/
theorem compareLeaderboardEntries_nonpos_iff
    {entryA entryB : LeaderboardEntry} :
    compareLeaderboardEntriesFinal entryA entryB ≤ 0 ↔
      entryB.score ≤ entryA.score := by
  unfold compareLeaderboardEntriesFinal
  simp only [gt_iff_lt, Int32.lt_iff_toInt_lt, Int32.le_iff_toInt_le]
  split
  · omega
  · split <;> omega

theorem compareLeaderboardEntries_consistent :
    Consistent compareLeaderboardEntriesFinal where
  swap entryA entryB := by
    unfold compareLeaderboardEntriesFinal
    simp only [gt_iff_lt, Int32.lt_iff_toInt_lt]
    split <;> split <;> omega
  trans first second third := by
    simp only [compareLeaderboardEntries_nonpos_iff, Int32.le_iff_toInt_le]
    omega

/-! ## The loop over the sorted records -/

private theorem pickEntries_full
    {maxFinalEntries : Int} {entries : List LeaderboardEntry}
    (full : maxFinalEntries ≤ entries.length)
    (lastProcessedUser : List UInt8) (records : List ScoreRecord) :
    pickEntries maxFinalEntries lastProcessedUser entries records =
      entries := by
  induction records with
  | nil => rfl
  | cons record records induction =>
      rw [pickEntries, if_neg (Int.not_lt.mpr full), induction, ite_self]

/-- The loop copies the first record of each name, as many as fit. -/
theorem pickEntries_eq
    (maxFinalEntries : Int) (last : ScoreRecord)
    (entries : List LeaderboardEntry) (records : List ScoreRecord) :
    pickEntries maxFinalEntries last.username.bytes entries records =
      entries ++ (firstOfEach nameKey (nameKey last) records).take
        (maxFinalEntries - entries.length).toNat := by
  induction records generalizing last entries with
  | nil => simp [pickEntries, firstOfEach]
  | cons record records induction =>
      by_cases same : nameKey record = nameKey last
      · have sameUser : record.username.bytes = last.username.bytes := by
          rw [nameKey_eq_iff.mp same]
        rw [pickEntries, firstOfEach, if_pos same, sameUser, if_neg (by simp)]
        exact induction last entries
      · have differentUser : record.username.bytes ≠ last.username.bytes :=
          fun equal =>
            same (nameKey_eq_iff.mpr (CharArray.eq_of_bytes_eq equal))
        rw [pickEntries, firstOfEach, if_pos differentUser, if_neg same]
        by_cases room : (entries.length : Int) < maxFinalEntries
        · rw [if_pos room, induction record]
          have count : (maxFinalEntries - entries.length).toNat =
              (maxFinalEntries - (entries ++ [record]).length).toNat + 1 := by
            simp only [List.length_append, List.length_singleton]
            omega
          rw [count, List.take_succ_cons, List.append_assoc]
          rfl
        · rw [if_neg room, pickEntries_full (Int.not_lt.mp room)]
          have none : (maxFinalEntries - entries.length).toNat = 0 := by
            omega
          simp [none]

end RainTyping
