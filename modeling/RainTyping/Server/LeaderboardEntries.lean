import RainTyping.Server.Leaderboard

/-!
# The entries of the leaderboard

Whatever the cut by name leaves out, the entries that are listed are sound:
one for each listed user, with that user's best score, the better scores
first.  They depend on the loaded records as a multiset only, although
`qsort` may order equal records as it likes.
-/

namespace RainTyping

section Entries

variable {qsort : QSort} {records : List ScoreRecord} {maxFinalEntries : Int}

theorem leaderboardOf_sorted :
    (leaderboardOf qsort records maxFinalEntries).Pairwise
      fun first second => second.score ≤ first.score := by
  rw [leaderboardOf]
  split
  · apply (qsort.sorted _ _ compareLeaderboardEntries_consistent).imp
    exact compareLeaderboardEntries_nonpos_iff.mp
  · rename_i noEntries
    have empty :=
      List.eq_nil_of_length_eq_zero (Nat.eq_zero_of_not_pos noEntries)
    rw [empty]
    exact List.Pairwise.nil

theorem scores_leaderboardOf_sorted :
    ((leaderboardOf qsort records maxFinalEntries).map
      ScoreRecord.score).Pairwise fun first second => second ≤ first :=
  List.pairwise_map.mpr leaderboardOf_sorted

theorem length_leaderboardOf (named : AllNamed records) :
    (leaderboardOf qsort records maxFinalEntries).length =
      min maxFinalEntries.toNat
        (records.map ScoreRecord.username).dedup.length := by
  have permutation :
      ((firstRecords qsort records).map ScoreRecord.username).Perm
        (records.map ScoreRecord.username).dedup :=
    firstRecords_username_perm named
  have users : (firstRecords qsort records).length =
      (records.map ScoreRecord.username).dedup.length := by
    simpa using permutation.length_eq
  rw [leaderboardOf_perm.length_eq, List.length_take, users]

end Entries

/-- What can be relied on about the entries made of some records. -/
structure SoundEntries (records : List ScoreRecord) (maxFinalEntries : Int)
    (entries : List LeaderboardEntry) : Prop where
  count : (entries.length : Int) =
    min maxFinalEntries (records.map ScoreRecord.username).dedup.length
  distinct : (entries.map ScoreRecord.username).Nodup
  best : ∀ entry ∈ entries, IsBestScore records entry.username entry.score
  ordered : entries.Pairwise fun first second => second.score ≤ first.score

/-- The leaderboard of named records is sound, and it is what
`get_leaderboard_impl` answers after loading them. -/
theorem soundEntries_leaderboardOf
    (qsort : QSort) {records : List ScoreRecord} {maxFinalEntries : Int}
    (named : AllNamed records) (nonnegative : 0 ≤ maxFinalEntries) :
    SoundEntries records maxFinalEntries
        (leaderboardOf qsort records maxFinalEntries) ∧
      ∀ calls scores,
        loadAllScoresFromFile calls scores maxTotalScores = some records →
          getLeaderboardImpl qsort calls scores maxFinalEntries =
            ⟨some (leaderboardOf qsort records maxFinalEntries)⟩ := by
  refine ⟨⟨?_, ?_, ?_, ?_⟩, ?_⟩
  · rw [length_leaderboardOf named]
    omega
  · exact leaderboardOf_username_nodup
  · intro entry member
    exact ((mem_leaderboardOf_iff named).mp member).1
  · exact leaderboardOf_sorted
  · intro calls scores loaded
    exact getLeaderboardImpl_of_loaded loaded

/-- A user with two scores and a user with one. -/
def threeRecords : List ScoreRecord :=
  [⟨.store maxIdLen (text "a"), -1⟩, ⟨.store maxIdLen (text "b"), 5⟩,
    ⟨.store maxIdLen (text "a"), 3⟩]

theorem soundEntries_leaderboardOf_threeRecords :
    SoundEntries threeRecords 10 (leaderboardOf .insertion threeRecords 10) ∧
      ∀ calls scores,
        loadAllScoresFromFile calls scores maxTotalScores =
            some threeRecords →
          getLeaderboardImpl .insertion calls scores 10 =
            ⟨some (leaderboardOf .insertion threeRecords 10)⟩ :=
  soundEntries_leaderboardOf .insertion (by decide) (by decide)

example : leaderboardOf .insertion threeRecords 10 =
    [⟨.store maxIdLen (text "b"), 5⟩, ⟨.store maxIdLen (text "a"), 3⟩] := by
  decide

/-! ## Records in another order -/

section Reordered

variable {records others : List ScoreRecord}

theorem isBestScore_of_perm
    (same : records.Perm others) {username : CharArray maxIdLen}
    {score : Int32} (isBest : IsBestScore records username score) :
    IsBestScore others username score where
  scored := same.mem_iff.mp isBest.scored
  best := fun record member => isBest.best record (same.mem_iff.mpr member)

theorem isBestScore_iff_of_perm
    (same : records.Perm others) {username : CharArray maxIdLen}
    {score : Int32} :
    IsBestScore records username score ↔
      IsBestScore others username score :=
  ⟨isBestScore_of_perm same, isBestScore_of_perm same.symm⟩

/-- The first sort may order equal records differently, but the first record
of each user is always the same. -/
theorem firstRecords_eq_of_perm
    (first second : QSort) (same : records.Perm others) :
    firstRecords first records = firstRecords second others := by
  have permutation :
      (firstRecords first records).Perm (firstRecords second others) := by
    apply (List.perm_ext_iff_of_nodup
      (List.Nodup.of_map _ firstRecords_username_nodup)
      (List.Nodup.of_map _ firstRecords_username_nodup)).mpr
    intro entry
    rw [mem_firstRecords_iff, mem_firstRecords_iff,
      isBestScore_iff_of_perm same]
  apply List.Perm.eq_of_pairwise _ firstRecords_increasing
    firstRecords_increasing permutation
  intro left right _ _ smaller larger
  exact absurd larger (lt_asymm smaller)

theorem leaderboardOf_perm_of_perm
    (first second : QSort) (same : records.Perm others)
    (maxFinalEntries : Int) :
    (leaderboardOf first records maxFinalEntries).Perm
      (leaderboardOf second others maxFinalEntries) := by
  have picked : (leaderboardOf first records maxFinalEntries).Perm
      ((firstRecords second others).take maxFinalEntries.toNat) := by
    rw [← firstRecords_eq_of_perm first second same]
    exact leaderboardOf_perm
  exact picked.trans leaderboardOf_perm.symm

end Reordered

/-- Two leaderboards with the same entries and the same sequence of scores. -/
structure SameBoard (entries others : List LeaderboardEntry) : Prop where
  sameEntries : entries.Perm others
  sameScores : entries.map ScoreRecord.score = others.map ScoreRecord.score

/-- Neither the order of the records nor the choices of an unstable sorting
routine can be seen in the leaderboard. -/
theorem sameBoard_of_perm
    (first second : QSort) {records others : List ScoreRecord}
    (same : records.Perm others) (maxFinalEntries : Int) :
    SameBoard (leaderboardOf first records maxFinalEntries)
        (leaderboardOf second others maxFinalEntries) ∧
      ∀ calls scores calls' scores',
        loadAllScoresFromFile calls scores maxTotalScores = some records →
          loadAllScoresFromFile calls' scores' maxTotalScores =
              some others →
            ∃ entries entries',
              getLeaderboardImpl first calls scores maxFinalEntries =
                  ⟨some entries⟩ ∧
                getLeaderboardImpl second calls' scores' maxFinalEntries =
                    ⟨some entries'⟩ ∧
                  SameBoard entries entries' := by
  have board : SameBoard (leaderboardOf first records maxFinalEntries)
      (leaderboardOf second others maxFinalEntries) := by
    have permutation :=
      leaderboardOf_perm_of_perm first second same maxFinalEntries
    refine ⟨permutation, ?_⟩
    apply List.Perm.eq_of_pairwise _ scores_leaderboardOf_sorted
      scores_leaderboardOf_sorted (permutation.map ScoreRecord.score)
    intro left right _ _ rightLower leftLower
    exact Int32.le_antisymm leftLower rightLower
  refine ⟨board, ?_⟩
  intro calls scores calls' scores' loaded loaded'
  exact ⟨_, _, getLeaderboardImpl_of_loaded loaded,
    getLeaderboardImpl_of_loaded loaded', board⟩

theorem sameBoard_of_perm_threeRecords :
    SameBoard (leaderboardOf .insertion threeRecords 10)
        (leaderboardOf .insertion threeRecords.reverse 10) :=
  (sameBoard_of_perm .insertion .insertion
    threeRecords.reverse_perm.symm 10).1

end RainTyping
