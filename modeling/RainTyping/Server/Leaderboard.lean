import RainTyping.Server.ScoreManager
import Mathlib.Data.List.Dedup

/-!
# Who is on the leaderboard

The loop of `get_leaderboard_impl` copies the best record of each user in the
order of the names and stops when the output is full; only then are the copies
sorted by score.  So a user is listed when few enough other users come before
it by name, and the result is a top list by score exactly when the scores
agree with that choice.
-/

namespace RainTyping

/-- The user's best score among the records. -/
structure IsBestScore (records : List ScoreRecord)
    (username : CharArray maxIdLen) (score : Int32) : Prop where
  scored : ⟨username, score⟩ ∈ records
  best : ∀ record ∈ records, record.username = username →
    record.score ≤ score

/-- No user left out of the entries beats a listed one. -/
def IsTopList (records : List ScoreRecord)
    (entries : List LeaderboardEntry) : Prop :=
  ∀ username best, IsBestScore records username best →
    (∀ entry ∈ entries, entry.username ≠ username) →
      ∀ entry ∈ entries, ¬ entry.score < best

/-- The number of users whose names `strcmp` puts before the given one. -/
def usersBefore (records : List ScoreRecord)
    (username : CharArray maxIdLen) : Nat :=
  (records.map ScoreRecord.username).dedup.countP fun other =>
    strcmp other.bytes username.bytes < 0

/-- None of the users after the first `maxFinalEntries` by name has a better
score than one of those first users. -/
def ScoresFollowNames (records : List ScoreRecord)
    (maxFinalEntries : Int) : Prop :=
  ∀ early earlyBest late lateBest,
    IsBestScore records early earlyBest →
      IsBestScore records late lateBest →
        (usersBefore records early : Int) < maxFinalEntries →
          maxFinalEntries ≤ usersBefore records late →
            lateBest ≤ earlyBest

/-- Every record names its user. -/
def AllNamed (records : List ScoreRecord) : Prop :=
  ∀ record ∈ records, record.username.bytes ≠ []

instance (records : List ScoreRecord) : Decidable (AllNamed records) :=
  inferInstanceAs (Decidable (∀ record ∈ records, record.username.bytes ≠ []))

namespace IsBestScore

variable {records : List ScoreRecord} {username : CharArray maxIdLen}

theorem unique
    {first second : Int32}
    (firstBest : IsBestScore records username first)
    (secondBest : IsBestScore records username second) :
    first = second := by
  have upper := secondBest.best ⟨username, first⟩ firstBest.scored rfl
  have lower := firstBest.best ⟨username, second⟩ secondBest.scored rfl
  exact Int32.le_antisymm upper lower

end IsBestScore

section FirstSort

variable (qsort : QSort) (records : List ScoreRecord)

/-- The first record of each user after the first sort. -/
def firstRecords : List LeaderboardEntry :=
  firstOfEach nameKey []
    (qsort.sort compareScoreRecordsForUserBest records)

variable {qsort} {records}

private theorem mem_sorted {record : ScoreRecord} :
    record ∈ qsort.sort compareScoreRecordsForUserBest records ↔
      record ∈ records :=
  qsort.mem_sort compareScoreRecords_consistent

private theorem sorted_by_name :
    (qsort.sort compareScoreRecordsForUserBest records).Pairwise
      fun first second => nameKey first ≤ nameKey second := by
  apply (qsort.sorted _ records compareScoreRecords_consistent).imp
  intro first second ordered
  rcases compareScoreRecords_nonpos_iff.mp ordered with smaller | ⟨same, _⟩
  · exact smaller.le
  · exact same.le

private theorem nil_le_nameKey :
    ∀ record ∈ qsort.sort compareScoreRecordsForUserBest records,
      [] ≤ nameKey record :=
  fun _ _ => not_lt.mp (List.not_lt_nil _)

theorem firstRecords_increasing :
    (firstRecords qsort records).Pairwise
      fun first second => nameKey first < nameKey second :=
  (firstOfEach_increasing sorted_by_name nil_le_nameKey).1

theorem firstRecords_username_nodup :
    ((firstRecords qsort records).map ScoreRecord.username).Nodup := by
  apply List.Pairwise.map ScoreRecord.username _ firstRecords_increasing
  intro first second smaller same
  exact smaller.ne (nameKey_eq_iff.mpr same)

theorem isBestScore_of_mem_firstRecords
    {entry : LeaderboardEntry} (member : entry ∈ firstRecords qsort records) :
    IsBestScore records entry.username entry.score where
  scored := mem_sorted.mp (firstOfEach_sublist.mem member)
  best := by
    intro record recordMember sameUser
    have sameKey := nameKey_eq_iff.mpr sameUser
    have ordered := qsort.sorted _ records compareScoreRecords_consistent
    rcases firstOfEach_first sorted_by_name nil_le_nameKey ordered member
        (mem_sorted.mpr recordMember) sameKey with rfl | before
    · exact Int32.le_refl _
    · rcases compareScoreRecords_nonpos_iff.mp before with
        smaller | ⟨_, better⟩
      · rw [sameKey] at smaller
        exact absurd smaller (lt_irrefl _)
      · exact better

variable (qsort) in
theorem exists_mem_firstRecords
    {record : ScoreRecord} (member : record ∈ records)
    (named : record.username.bytes ≠ []) :
    ∃ entry ∈ firstRecords qsort records,
      entry.username = record.username := by
  have nonempty : nameKey record ≠ [] := by
    simpa [nameKey] using named
  obtain ⟨entry, kept, same⟩ :=
    exists_mem_firstOfEach (mem_sorted.mpr member) nonempty
  exact ⟨entry, kept, nameKey_eq_iff.mp same⟩

theorem named_of_mem_firstRecords
    {entry : LeaderboardEntry} (member : entry ∈ firstRecords qsort records) :
    entry.username.bytes ≠ [] := by
  have higher : [] < nameKey entry :=
    (firstOfEach_increasing sorted_by_name nil_le_nameKey).2 entry member
  intro unnamed
  rw [nameKey, unnamed] at higher
  exact lt_irrefl _ higher

theorem mem_firstRecords_iff {entry : LeaderboardEntry} :
    entry ∈ firstRecords qsort records ↔
      IsBestScore records entry.username entry.score ∧
        entry.username.bytes ≠ [] := by
  constructor
  · intro member
    exact ⟨isBestScore_of_mem_firstRecords member,
      named_of_mem_firstRecords member⟩
  · rintro ⟨isBest, named⟩
    obtain ⟨first, kept, sameUser⟩ :=
      exists_mem_firstRecords qsort isBest.scored named
    have firstBest := isBestScore_of_mem_firstRecords kept
    rw [sameUser] at firstBest
    have sameScore : first.score = entry.score := firstBest.unique isBest
    have sameEntry : first = entry := by
      cases first
      cases entry
      simp_all
    exact sameEntry ▸ kept

theorem exists_isBestScore
    {record : ScoreRecord} (member : record ∈ records)
    (named : record.username.bytes ≠ []) :
    ∃ best, IsBestScore records record.username best := by
  obtain ⟨entry, kept, same⟩ :=
    exists_mem_firstRecords QSort.insertion member named
  exact ⟨entry.score, same ▸ isBestScore_of_mem_firstRecords kept⟩

/-- The first records list every user once. -/
theorem firstRecords_username_perm (named : AllNamed records) :
    ((firstRecords qsort records).map ScoreRecord.username).Perm
      (records.map ScoreRecord.username).dedup := by
  apply (List.perm_ext_iff_of_nodup firstRecords_username_nodup
    (List.nodup_dedup _)).mpr
  intro username
  rw [List.mem_dedup, List.mem_map, List.mem_map]
  constructor
  · rintro ⟨entry, kept, rfl⟩
    exact ⟨_, (isBestScore_of_mem_firstRecords kept).scored, rfl⟩
  · rintro ⟨record, member, rfl⟩
    exact exists_mem_firstRecords qsort member (named record member)

theorem countP_firstRecords
    (named : AllNamed records) {entry : LeaderboardEntry}
    {before : LeaderboardEntry → Bool}
    (decides : ∀ other, before other ↔ nameKey other < nameKey entry) :
    (firstRecords qsort records).countP before =
      usersBefore records entry.username := by
  rw [usersBefore, ← (firstRecords_username_perm named).countP_eq,
    List.countP_map]
  apply List.countP_congr
  intro other _
  simp [decides, strcmp_username_neg_iff]

end FirstSort

/-- A user comes before fewer users than there are. -/
theorem usersBefore_lt
    {records : List ScoreRecord} {record : ScoreRecord}
    (member : record ∈ records) :
    usersBefore records record.username <
      (records.map ScoreRecord.username).dedup.length := by
  apply List.countP_lt_length_iff.mpr
  refine ⟨record.username, ?_, ?_⟩
  · rw [List.mem_dedup]
    exact List.mem_map_of_mem member
  · simp [strcmp_username_neg_iff]

section Listed

variable {qsort : QSort} {records : List ScoreRecord} {maxFinalEntries : Int}

theorem leaderboardOf_perm :
    (leaderboardOf qsort records maxFinalEntries).Perm
      ((firstRecords qsort records).take maxFinalEntries.toNat) := by
  have picked := pickEntries_eq maxFinalEntries ⟨.empty, 0⟩ []
    (qsort.sort compareScoreRecordsForUserBest records)
  have entries : pickEntries maxFinalEntries [] []
      (qsort.sort compareScoreRecordsForUserBest records) =
      (firstRecords qsort records).take maxFinalEntries.toNat := by
    simpa [firstRecords, nameKey] using picked
  rw [leaderboardOf, entries]
  split
  · exact qsort.perm _ _ compareLeaderboardEntries_consistent
  · exact List.Perm.refl _

theorem mem_leaderboardOf_iff
    (named : AllNamed records) {entry : LeaderboardEntry} :
    entry ∈ leaderboardOf qsort records maxFinalEntries ↔
      IsBestScore records entry.username entry.score ∧
        (usersBefore records entry.username : Int) < maxFinalEntries := by
  rw [leaderboardOf_perm.mem_iff,
    mem_take_iff_of_increasing firstRecords_increasing,
    mem_firstRecords_iff, ← Int.lt_toNat]
  apply and_congr
  · constructor
    · rintro ⟨isBest, _⟩
      exact isBest
    · intro isBest
      exact ⟨isBest, named _ isBest.scored⟩
  · apply iff_of_eq
    congr 1
    exact countP_firstRecords named fun _ => by simp

theorem leaderboardOf_username_nodup :
    ((leaderboardOf qsort records maxFinalEntries).map
      ScoreRecord.username).Nodup := by
  apply (leaderboardOf_perm.map ScoreRecord.username).nodup_iff.mpr
  exact List.Nodup.sublist ((List.take_sublist _ _).map ScoreRecord.username)
    firstRecords_username_nodup

theorem listed_iff
    (named : AllNamed records) {username : CharArray maxIdLen}
    {best : Int32} (isBest : IsBestScore records username best) :
    (∃ entry ∈ leaderboardOf qsort records maxFinalEntries,
        entry.username = username) ↔
      (usersBefore records username : Int) < maxFinalEntries := by
  constructor
  · rintro ⟨entry, member, rfl⟩
    exact ((mem_leaderboardOf_iff named).mp member).2
  · intro few
    exact ⟨⟨username, best⟩,
      (mem_leaderboardOf_iff named).mpr ⟨isBest, few⟩, rfl⟩

/-- The result is a top list exactly when the scores follow the names. -/
theorem leaderboardOf_isTopList_iff (named : AllNamed records) :
    IsTopList records (leaderboardOf qsort records maxFinalEntries) ↔
      ScoresFollowNames records maxFinalEntries := by
  constructor
  · intro top early earlyBest late lateBest earlyIsBest lateIsBest kept cut
    have listed : ⟨early, earlyBest⟩ ∈
        leaderboardOf qsort records maxFinalEntries :=
      (mem_leaderboardOf_iff named).mpr ⟨earlyIsBest, kept⟩
    have left : ∀ entry ∈ leaderboardOf qsort records maxFinalEntries,
        entry.username ≠ late := by
      intro entry member same
      have few := (listed_iff named lateIsBest).mp ⟨entry, member, same⟩
      omega
    have notWorse := top late lateBest lateIsBest left ⟨early, earlyBest⟩
      listed
    exact Int32.not_lt.mp notWorse
  · intro follow late lateBest lateIsBest left entry member
    obtain ⟨entryIsBest, kept⟩ := (mem_leaderboardOf_iff named).mp member
    apply Int32.not_lt.mpr
    apply follow entry.username entry.score late lateBest entryIsBest
      lateIsBest kept
    apply Int.not_lt.mp
    intro few
    obtain ⟨other, otherMember, same⟩ := (listed_iff named lateIsBest).mpr few
    exact left other otherMember same

/-- What is answered after the records could be loaded. -/
theorem getLeaderboardImpl_of_loaded
    {calls : ReadCalls} {scores : DataFile}
    (loaded : loadAllScoresFromFile calls scores maxTotalScores =
      some records) :
    getLeaderboardImpl qsort calls scores maxFinalEntries =
      ⟨some (leaderboardOf qsort records maxFinalEntries)⟩ := by
  rw [getLeaderboardImpl, loaded]
  cases records with
  | nil =>
      have noRecords : qsort.sort compareScoreRecordsForUserBest [] = [] :=
        (qsort.perm _ [] compareScoreRecords_consistent).eq_nil
      simp [leaderboardOf, noRecords, pickEntries]
  | cons record records => rfl

end Listed

/-! ## The cut by name -/

/-- The second user has the better score. -/
def twoUsers : List ScoreRecord :=
  [⟨.store maxIdLen (text "a"), 1⟩, ⟨.store maxIdLen (text "b"), 2⟩]

theorem leaderboardOf_isTopList_iff_twoUsers :
    AllNamed twoUsers ∧
      (IsTopList twoUsers (leaderboardOf .insertion twoUsers 1) ↔
        ScoresFollowNames twoUsers 1) :=
  ⟨by decide, leaderboardOf_isTopList_iff (by decide)⟩

/-- With one entry the first name wins over the better score. -/
theorem leaderboardOf_cut_by_name :
    ¬ ∀ qsort records maxFinalEntries, AllNamed records →
      IsTopList records (leaderboardOf qsort records maxFinalEntries) := by
  intro top
  have cut : leaderboardOf .insertion twoUsers 1 =
      [⟨.store maxIdLen (text "a"), 1⟩] := by
    decide
  have beaten := top .insertion twoUsers 1 (by decide)
    (.store maxIdLen (text "b")) 2 ⟨by decide, by decide⟩
  rw [cut] at beaten
  exact beaten (by decide) _ List.mem_cons_self (by decide)

end RainTyping
