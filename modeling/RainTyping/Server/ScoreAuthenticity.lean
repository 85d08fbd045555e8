import RainTyping.Server.Conversation
import RainTyping.Server.ScoreLog
import RainTyping.Support.LineSplitting

/-!
# Every score has its owner

A registration accepts any name, but only a name that comes back from the
parser of `users.txt` can log in, and such a name has no delimiter in it.  So
the lines of `scores.txt` are the accepted submissions of users who are logged
in, and they are loaded as they were submitted.
-/

namespace RainTyping

open LineReader

/-- The name of the most recent accepted login over the connection, `none`
when it is followed by a logout. -/
def Exchange.loginAfter (socket : Nat) (before : Option CString) :
    Exchange → Option CString
  | .connected other => if other = socket then none else before
  | .disconnected other => if other = socket then none else before
  | .answered other (.login (some credentials)) (.login status) =>
      if other = socket ∧ status.success = true then some credentials.username
      else before
  | .answered other .logout _ => if other = socket then none else before
  | .answered _ _ _ => before

def lastLogin (socket : Nat) (transcript : List Exchange) : Option CString :=
  transcript.foldl (Exchange.loginAfter socket) none

/-- An accepted SCORE_SUBMIT: who is logged in over its connection, and the
score. -/
def Exchange.submission (before : List Exchange) :
    Exchange → Option (Option CString × Int32)
  | .answered socket (.scoreSubmit (some score)) (.scoreSubmit status) =>
      if status.success then some (lastLogin socket before, score) else none
  | _ => none

def submissionsFrom (before : List Exchange) :
    List Exchange → List (Option CString × Int32)
  | [] => []
  | exchange :: later =>
      (exchange.submission before).toList ++
        submissionsFrom (before ++ [exchange]) later

/-- The accepted submissions in their order. -/
def submissions (transcript : List Exchange) :
    List (Option CString × Int32) :=
  submissionsFrom [] transcript

/-- The scores file holds the accepted submissions of logged-in users, one in
each line, and is loaded as such. -/
structure AuthenticLog (transcript : List Exchange) (scores : DataFile)
    (records : List ScoreRecord) : Prop where
  submitted : submissions transcript = records.map fun record =>
    (some record.username.toCString, record.score)
  lines : linesOf newline (scores.getD []) = records.map fun record =>
    scoreRecord record.username.toCString record.score
  loaded : ∀ maxRecords, loadAllScoresFromFile .succeed scores maxRecords =
    some (records.take maxRecords)

/-- The disk stores what the visit writes. -/
def Visit.WritesSucceed : Visit → Prop
  | .request _ _ disk => disk.writes = .succeed
  | _ => True

/-! ## One more exchange -/

section Transcript

variable {socket : Nat} {transcript : List Exchange} {exchange : Exchange}

theorem lastLogin_snoc :
    lastLogin socket (transcript ++ [exchange]) =
      exchange.loginAfter socket (lastLogin socket transcript) := by
  simp [lastLogin]

private theorem submissionsFrom_snoc (before : List Exchange) :
    submissionsFrom before (transcript ++ [exchange]) =
      submissionsFrom before transcript ++
        (exchange.submission (before ++ transcript)).toList := by
  induction transcript generalizing before with
  | nil => simp [submissionsFrom]
  | cons first transcript induction =>
      simp [submissionsFrom, induction]

theorem submissions_snoc :
    submissions (transcript ++ [exchange]) =
      submissions transcript ++ (exchange.submission transcript).toList :=
  submissionsFrom_snoc []

theorem loginAfter_other
    {before : Option CString} {other : Nat} {request : Request}
    {response : Response} (apart : other ≠ socket) :
    (Exchange.answered other request response).loginAfter socket before =
      before := by
  cases request with
  | login body =>
      cases body with
      | none => rfl
      | some credentials =>
          cases response <;> simp [Exchange.loginAfter, apart]
  | logout => simp [Exchange.loginAfter, apart]
  | _ => rfl

end Transcript

/-! ## One visit -/

/-- The scores file is made of these accepted submissions. -/
structure Recorded (transcript : List Exchange) (scores : DataFile)
    (records : List ScoreRecord) : Prop where
  content : scores = some (records.flatMap recordLine)
  clean : ∀ record ∈ records, CleanName record.username.bytes
  submitted : submissions transcript = records.map fun record =>
    (some record.username.toCString, record.score)

/-- What holds between the visits of a run. -/
structure AuthenticState (state : Conversation) : Prop where
  alive : state.server.alive = true
  recorded : ∃ records,
    Recorded state.transcript state.server.scores records
  users : ∀ socket handler, state.server.handlers socket = some handler →
    handler.currentUser ≠ .empty →
      lastLogin socket state.transcript =
          some handler.currentUser.toCString ∧
        CleanName handler.currentUser.bytes

/-- An exchange without a submission leaves what is recorded. -/
private theorem Recorded.snoc
    {transcript : List Exchange} {scores : DataFile}
    {records : List ScoreRecord} {exchange : Exchange}
    (recorded : Recorded transcript scores records)
    (none : exchange.submission transcript = none) :
    Recorded (transcript ++ [exchange]) scores records where
  content := recorded.content
  clean := recorded.clean
  submitted := by
    rw [submissions_snoc, none, Option.toList_none, List.append_nil]
    exact recorded.submitted

private theorem submit_succeeds_on
    {user : CharArray maxIdLen} (named : user ≠ .empty)
    (content : List UInt8) (score : Int32) :
    (submitScoreImpl .succeed (some content) user.toCString score).1.success =
        true ∧
      (submitScoreImpl .succeed (some content) user.toCString score).2 =
        some (content ++ recordLine ⟨user, score⟩) := by
  have nonempty : user.toCString.strlen ≠ 0 :=
    Nat.ne_of_gt (CharArray.strlen_pos_iff.mpr named)
  simp [submitScoreImpl, nonempty, addScoreToFile, recordLine]

/-- What is recorded after an answered request. -/
private theorem Recorded.answer
    {user after : CharArray maxIdLen} {scores scores' : DataFile}
    {disk : DiskCalls} {request : Request} {response : Response}
    {socket : Nat} {transcript : List Exchange} {records : List ScoreRecord}
    (recorded : Recorded transcript scores records)
    (answers : Answers user scores disk request response after scores')
    (writes : disk.writes = .succeed)
    (known : user ≠ .empty →
      lastLogin socket transcript = some user.toCString ∧
        CleanName user.bytes) :
    ∃ records', Recorded
      (transcript ++ [.answered socket request response]) scores'
        records' := by
  cases answers with
  | submitted score named =>
      obtain ⟨login, cleanUser⟩ := known named
      obtain ⟨success, stored⟩ :=
        submit_succeeds_on named (records.flatMap recordLine) score
      rw [writes, recorded.content]
      refine ⟨records ++ [⟨user, score⟩], ?_, ?_, ?_⟩
      · rw [stored]
        simp
      · intro record member
        rcases List.mem_append.mp member with earlier | last
        · exact recorded.clean record earlier
        · rw [List.mem_singleton.mp last]
          exact cleanUser
      · rw [submissions_snoc, recorded.submitted]
        simp [Exchange.submission, success, login]
  | notSubmitted body failure =>
      refine ⟨records, recorded.snoc ?_⟩
      cases body <;> simp [Exchange.submission, failure]
  | _ => exact ⟨records, recorded.snoc rfl⟩

private theorem user_after_answer
    {user after : CharArray maxIdLen} {scores scores' : DataFile}
    {disk : DiskCalls} {request : Request} {response : Response}
    {socket : Nat} {before : Option CString}
    (answers : Answers user scores disk request response after scores')
    (known : user ≠ .empty →
      before = some user.toCString ∧ CleanName user.bytes)
    (named : after ≠ .empty) :
    (Exchange.answered socket request response).loginAfter socket before =
        some after.toCString ∧
      CleanName after.bytes := by
  cases answers with
  | @loggedIn status _ credentials success same clean =>
      refine ⟨?_, clean⟩
      simp only [Exchange.loginAfter, success, and_self, ↓reduceIte]
      exact congrArg some (CString.ext same.symm)
  | notLoggedIn body failure kept =>
      rcases kept with rfl | rfl
      · cases body with
        | none => exact known named
        | some credentials =>
            simpa [Exchange.loginAfter, failure] using known named
      · exact absurd rfl named
  | loggedOut status => exact absurd rfl named
  | registered body status => exact known named
  | submitted score userNamed => exact known userNamed
  | notSubmitted body failure => exact known named
  | leaderboard response => exact known named
  | wordlist response => exact known named
  | unknown type message => exact known named

theorem visit_authentic
    {qsort : QSort} {state next : Conversation} {visit : Visit}
    (authentic : AuthenticState state) (writes : visit.WritesSucceed)
    (visited : Conversation.visit qsort state visit = some next) :
    AuthenticState next := by
  have others : ∀ {other}, other ≠ visit.socket →
      next.server.handlers other = state.server.handlers other :=
    Conversation.visit_other authentic.alive visited
  have alive := (Conversation.visit_run authentic.alive visited).1
  obtain ⟨records, recorded⟩ := authentic.recorded
  cases Conversation.visits_of_visit visited with
  | connect socket free =>
      refine ⟨alive, ⟨records, recorded.snoc rfl⟩, ?_⟩
      intro other handler live named
      by_cases own : other = socket
      · subst own
        rw [Server.setHandler_self] at live
        cases live
        exact absurd rfl named
      · rw [others own] at live
        rw [lastLogin_snoc]
        simpa [Exchange.loginAfter, Ne.symm own] using
          authentic.users other handler live named
  | @request user after response socket request disk live replied =>
      have known : user ≠ .empty →
          lastLogin socket state.transcript = some user.toCString ∧
            CleanName user.bytes :=
        authentic.users socket _ live
      have answers :=
        Conversation.answers_of_replied authentic.alive live replied
      refine ⟨alive, recorded.answer answers writes known, ?_⟩
      intro other handler otherLive named
      by_cases own : other = socket
      · subst own
        rw [Server.setHandler_self] at otherLive
        cases otherLive
        rw [lastLogin_snoc]
        exact user_after_answer answers known named
      · rw [others own] at otherLive
        rw [lastLogin_snoc, loginAfter_other (Ne.symm own)]
        exact authentic.users other handler otherLive named
  | disconnect socket live =>
      refine ⟨alive, ⟨records, recorded.snoc rfl⟩, ?_⟩
      intro other handler otherLive named
      by_cases own : other = socket
      · subst own
        simp [Server.cleanUp] at otherLive
      · rw [others own] at otherLive
        rw [lastLogin_snoc]
        simpa [Exchange.loginAfter, Ne.symm own] using
          authentic.users other handler otherLive named

/-! ## Whole runs -/

private theorem linesOf_recordLines
    {records : List ScoreRecord}
    (clean : ∀ record ∈ records, CleanName record.username.bytes) :
    linesOf newline (records.flatMap recordLine) =
      records.map fun record =>
        scoreRecord record.username.toCString record.score := by
  induction records with
  | nil => exact linesOf_nil
  | cons record records induction =>
      have inside := newline_notMem_scoreRecord
        (clean record List.mem_cons_self).noNewline record.score
      have tail := induction fun later member =>
        clean later (List.mem_cons_of_mem _ member)
      rw [List.flatMap_cons, List.map_cons, ← tail, recordLine,
        List.append_assoc, List.singleton_append, linesOf_closed inside]

theorem authenticLog_of_recorded
    {transcript : List Exchange} {scores : DataFile}
    {records : List ScoreRecord}
    (recorded : Recorded transcript scores records) :
    AuthenticLog transcript scores records where
  submitted := recorded.submitted
  lines := by
    rw [recorded.content]
    exact linesOf_recordLines recorded.clean
  loaded := by
    rw [recorded.content]
    exact loadAllScores_recordLines recorded.clean

theorem authentic_start
    (users : DataFile) (wordlist : WordListResponse) :
    AuthenticState (.start users (some []) wordlist) where
  alive := rfl
  recorded := ⟨[], rfl, by simp, rfl⟩
  users := by
    intro socket handler live
    cases live

/-- Whatever clients send, the scores file is made of the accepted submissions
of the users who were logged in. -/
theorem authenticLog_of_run
    {qsort : QSort} {users : DataFile} {wordlist : WordListResponse}
    {visits : List Visit} {state : Conversation}
    (writes : ∀ visit ∈ visits, visit.WritesSucceed)
    (ran : (Conversation.visit qsort).run
      (.start users (some []) wordlist) visits = some state) :
    ∃ records,
      AuthenticLog state.transcript state.server.scores records := by
  have authentic : AuthenticState state := by
    apply Machine.run_invariant AuthenticState _
      (authentic_start users wordlist)
      (Machine.meets_of_forall (fun visit member _ => writes visit member) _)
      ran
    intro before visit next holds allowed visited
    exact visit_authentic holds allowed visited
  obtain ⟨records, recorded⟩ := authentic.recorded
  exact ⟨records, authenticLog_of_recorded recorded⟩

/-- A login as `a` and a score. -/
def oneScore : List Visit :=
  [.connect 4,
    .request 4
      (.login (some ⟨.ofBuffer (text "a"), .ofBuffer (text "b")⟩)) .succeed,
    .request 4 (.scoreSubmit (some 7)) .succeed]

private theorem oneScore_writes :
    ∀ visit ∈ oneScore, visit.WritesSucceed := by
  intro visit member
  simp only [oneScore, List.mem_cons, List.not_mem_nil, or_false] at member
  rcases member with rfl | rfl | rfl
  · trivial
  · rfl
  · rfl

example : ((Conversation.visit .insertion).run
      (.start (some (text "a:b\n")) (some []) .empty) oneScore).map
        (fun state => submissions state.transcript) =
      some [(some (.ofBuffer (text "a")), 7)] := by
  decide

theorem authenticLog_of_oneScore :
    ∃ state, (Conversation.visit .insertion).run
        (.start (some (text "a:b\n")) (some []) .empty) oneScore =
          some state ∧
      ∃ records,
        AuthenticLog state.transcript state.server.scores records := by
  obtain ⟨state, ran⟩ : ∃ state, (Conversation.visit .insertion).run
      (.start (some (text "a:b\n")) (some []) .empty) oneScore =
        some state :=
    ⟨_, rfl⟩
  exact ⟨state, ran, authenticLog_of_run oneScore_writes ran⟩

end RainTyping
