import RainTyping.Client.ClientExit
import RainTyping.Network.ResponsesInFlight
import RainTyping.Network.ScoreOrigin

/-!
# What the leaderboards show

As long as the disk answers, every entry of every leaderboard on its way to a
client is the score of a finished game, under the name of the user who played
it, or one of the records that the scores file held when the server came up.
-/

namespace RainTyping

/-! ## The users of the handlers -/

namespace Sessions

variable {Name Socket : Type} [decidableSocket : DecidableEq Socket]
  {nobody : Name} {state next : Sessions Name Socket}
  {event : SessionEvent Name Socket}

/-- Every connection acts for nobody or for a name of this kind. -/
def ActsFor (nobody : Name) (kind : Name → Prop)
    (state : Sessions Name Socket) : Prop :=
  ∀ socket connection, state.connection socket = some connection →
    connection.user ≠ nobody → kind connection.user

theorem ActsFor.connect
    {kind : Name → Prop} {socket : Socket} {user : Name} {pending : Bool}
    (acts : state.ActsFor nobody kind) (allowed : user ≠ nobody → kind user) :
    (state.connect socket user pending).ActsFor nobody kind := by
  intro other connection live named
  rcases connect_eq_some_iff.mp live with ⟨_, rfl⟩ | ⟨_, before⟩
  · exact allowed named
  · exact acts other connection before named

/-- Only a password check brings a new name in. -/
theorem ActsFor.step
    {kind : Name → Prop} (acts : state.ActsFor nobody kind)
    (verified : ∀ socket user, event = .verify socket user → kind user)
    (stepped : Step nobody state event next) : next.ActsFor nobody kind := by
  have closed : ∀ {active : Multiset (Name × Socket)} {socket : Socket},
      (close ⟨active, state.connection⟩ socket).ActsFor nobody kind := by
    intro active socket other connection live named
    exact acts other connection (close_eq_some_iff.mp live).2 named
  cases stepped with
  | other => exact acts
  | connect free => exact acts.connect fun named => absurd rfl named
  | verify user live => exact acts.connect fun _ => verified _ user rfl
  | reject live => exact acts.connect fun named => absurd rfl named
  | @grant _ socket user live =>
      have still : ActsFor nobody kind
          (⟨(user, socket) ::ₘ state.active, state.connection⟩ :
            Sessions Name Socket) := acts
      exact still.connect fun named => acts _ _ live named
  | refuse live => exact acts.connect fun named => absurd rfl named
  | @logOut _ remaining _ _ live named removed =>
      have still : ActsFor nobody kind
          (⟨remaining, state.connection⟩ : Sessions Name Socket) := acts
      exact still.connect fun named => absurd rfl named
  | disconnect live named removed => exact closed
  | disconnectNobody live => exact closed

end Sessions

namespace Server

variable {qsort : QSort} {server next : Server} {action : Action}

/-- A handler acts for nobody or for a user with a clean name. -/
def CleanUsers (server : Server) : Prop :=
  server.sessions.ActsFor .empty fun user => CleanName user.bytes

theorem step_cleanUsers
    (clean : server.CleanUsers)
    (stepped : step qsort server action = some next) : next.CleanUsers := by
  apply Sessions.ActsFor.step clean _ (step_refines stepped)
  intro socket user event
  cases action with
  | verifyPassword place reads =>
      simp only [sessionEvent] at event
      split at event
      · rename_i old request peerOpen live
        split at event
        · rename_i success
          cases event
          cases request with
          | none => cases success
          | some credentials =>
              obtain ⟨name, _, sameBytes, clean⟩ :=
                loginUserImpl_of_success success
              exact sameBytes ▸ clean
        · cases event
      · cases event
  | receive place request disk =>
      cases request with
      | logout =>
          simp only [sessionEvent] at event
          split at event
          · split at event
            · cases event
            · cases event
          · cases event
      | _ => cases event
  | addSession place =>
      simp only [sessionEvent] at event
      split at event
      · split at event
        · cases event
        · cases event
      · cases event
  | _ => cases event

end Server

/-- The disk answers the calls of every request. -/
def DeploymentAction.DiskWorks : DeploymentAction → Prop
  | .server (.receive _ _ disk) => disk = .succeed
  | _ => True

instance (action : DeploymentAction) : Decidable action.DiskWorks := by
  unfold DeploymentAction.DiskWorks
  split <;> infer_instance

namespace Deployment

variable {qsort : QSort} {sha256 : Sha256} {deployment next : Deployment}
  {initial : DataFile} {records : List ScoreRecord}
  {stored : List StoredScore} {response : LeaderboardResponse}

/-! ## The scores file -/

def StoredScore.record (stored : StoredScore) : ScoreRecord :=
  ⟨stored.user, stored.score⟩

/-- The disk has stored the score, under a name that is read back. -/
structure StoredScore.IsKept (stored : StoredScore) : Prop where
  writes : stored.writes = .succeed
  named : stored.user ≠ .empty
  clean : CleanName stored.user.bytes

/-- The file is made of record lines of clean names. -/
structure HoldsRecords (scores : DataFile) (records : List ScoreRecord) :
    Prop where
  lines : scores.getD [] = records.flatMap recordLine
  named : AllNamed records
  clean : ∀ record ∈ records, CleanName record.username.bytes

theorem HoldsRecords.loads
    {scores : DataFile} {records : List ScoreRecord}
    (holds : HoldsRecords scores records) (maxRecords : Nat) :
    loadAllScoresFromFile .succeed scores maxRecords =
      some (records.take maxRecords) := by
  cases scores with
  | none =>
      have nothing : records = [] := by
        cases records with
        | nil => rfl
        | cons record records =>
            have lines := holds.lines
            simp [recordLine] at lines
      rw [nothing, List.take_nil]
      rfl
  | some content =>
      have lines : content = records.flatMap recordLine := holds.lines
      rw [lines]
      exact loadAllScores_recordLines holds.clean maxRecords

/-- Kept scores add their records. -/
theorem HoldsRecords.store
    {scores : DataFile} {records : List ScoreRecord}
    (holds : HoldsRecords scores records)
    (kept : ∀ score ∈ stored, score.IsKept) :
    HoldsRecords (stored.foldl StoredScore.store scores)
      (records ++ stored.map StoredScore.record) := by
  induction stored using List.reverseRecOn with
  | nil => simpa using holds
  | append_singleton stored last induction =>
      have earlier := induction fun score member =>
        kept score (List.mem_append_left _ member)
      have isKept :=
        kept last (List.mem_append_right _ (List.mem_singleton_self _))
      have nonempty : last.user.toCString.strlen ≠ 0 :=
        Nat.ne_of_gt (CharArray.strlen_pos_iff.mpr isKept.named)
      rw [List.map_append, ← List.append_assoc, List.foldl_append]
      constructor
      case lines =>
          have before := earlier.lines
          simp only [List.foldl_cons, List.foldl_nil, StoredScore.store,
            submitScoreImpl, nonempty, ↓reduceIte, addScoreToFile,
            isKept.writes, List.flatMap_append, ← before]
          simp [appendLine, WriteCalls.succeed, StoredScore.record,
            recordLine]
      case named =>
          intro record member
          rcases List.mem_append.mp member with before | added
          · exact earlier.named record before
          · rw [List.mem_singleton.mp added]
            exact fun nobody =>
              isKept.named (CharArray.eq_of_bytes_eq nobody)
      case clean =>
          intro record member
          rcases List.mem_append.mp member with before | added
          · exact earlier.clean record before
          · rw [List.mem_singleton.mp added]
            exact isKept.clean

/-! ## The leaderboards -/

/-- Every entry is one of the records or the score of a finished game, under
its user. -/
def Genuine (deployment : Deployment) (records : List ScoreRecord)
    (response : LeaderboardResponse) : Prop :=
  ∃ entries, response = ⟨some entries⟩ ∧ ∀ entry ∈ entries,
    ⟨entry.username, entry.score⟩ ∈ records ∨
      ∃ id game, (entry.username, game) ∈ (deployment.clients id).games ∧
        game.score = entry.score

theorem Genuine.mono
    (genuine : deployment.Genuine records response)
    (games : ∀ id,
      (deployment.clients id).games <+: (next.clients id).games) :
    next.Genuine records response := by
  obtain ⟨entries, same, origin⟩ := genuine
  refine ⟨entries, same, ?_⟩
  intro entry member
  rcases origin entry member with recorded | ⟨id, game, isPlayed, score⟩
  · exact .inl recorded
  · exact .inr ⟨id, game, (games id).subset isPlayed, score⟩

theorem genuine_of_kept
    (holds : HoldsRecords initial records)
    (earned : deployment.Earned initial stored)
    (kept : ∀ score ∈ stored, score.IsKept) :
    deployment.Genuine records (getLeaderboardImpl qsort .succeed
      deployment.server.scores maxLeaderboardEntries) := by
  have holdsNow := holds.store kept
  rw [← earned.content] at holdsNow
  have named : AllNamed
      ((records ++ stored.map StoredScore.record).take maxTotalScores) :=
    fun record member => holdsNow.named record (List.mem_of_mem_take member)
  refine ⟨_, getLeaderboardImpl_of_loaded (holdsNow.loads maxTotalScores), ?_⟩
  intro entry member
  have best := ((mem_leaderboardOf_iff named).mp member).1
  rcases List.mem_append.mp (List.mem_of_mem_take best.scored) with
    recorded | added
  · exact .inl recorded
  · obtain ⟨score, isStored, same⟩ := List.mem_map.mp added
    obtain ⟨sameUser, sameScore⟩ := ScoreRecord.mk.inj same
    obtain ⟨game, found, earnedScore, _⟩ := earned.played score isStored
    refine .inr ⟨score.client, game, ?_, earnedScore.trans sameScore⟩
    rw [← sameUser]
    exact List.mem_of_getElem? found

/-! ## Whole runs -/

/-- What holds as long as the disk answers. -/
structure Honest (initial : DataFile) (records : List ScoreRecord)
    (deployment : Deployment) : Prop where
  linked : deployment.Linked
  clean : deployment.server.CleanUsers
  kept : ∃ stored, deployment.Ticketed initial stored ∧
    ∀ score ∈ stored, score.IsKept
  boards : ∀ response, deployment.Carries (.leaderboard response) →
    deployment.Genuine records response

theorem games_of_deployment_step
    {action : DeploymentAction}
    (stepped : step qsort sha256 deployment action = some next) (id : Nat) :
    (deployment.clients id).games <+: (next.clients id).games := by
  rcases clients_of_step stepped with
    same | ⟨own, socket, taken, client, _, clientStepped, changed, _⟩
  · rw [same]
  · rw [changed]
    by_cases here : id = own
    · subst here
      rw [Function.update_self]
      exact Client.games_prefix clientStepped
    · rw [Function.update_of_ne here]

theorem kept_of_step
    {action : DeploymentAction} (honest : deployment.Honest initial records)
    (works : action.DiskWorks)
    (stepped : step qsort sha256 deployment action = some next) :
    ∃ stored, next.Ticketed initial stored ∧
      ∀ score ∈ stored, score.IsKept := by
  obtain ⟨stored, ticketed, kept⟩ := honest.kept
  rcases ticketed_step honest.linked ticketed stepped with
    same | ⟨last, more, stores⟩
  · exact ⟨stored, same, kept⟩
  · refine ⟨_, more, ?_⟩
    intro score member
    rcases List.mem_append.mp member with before | added
    · exact kept score before
    · rw [List.mem_singleton.mp added]
      obtain ⟨⟨socket, request, disk, handler, rfl, writes, live, sameUser⟩,
        named⟩ := stores
      refine ⟨?_, named, ?_⟩
      · have answers : disk = .succeed := works
        rw [writes, answers]
        rfl
      · rw [sameUser] at named ⊢
        exact honest.clean socket _ (Server.sessions_connection live) named

theorem step_honest
    {action : DeploymentAction} (holds : HoldsRecords initial records)
    (honest : deployment.Honest initial records) (works : action.DiskWorks)
    (stepped : step qsort sha256 deployment action = some next) :
    next.Honest initial records where
  linked := step_linked honest.linked stepped
  clean := by
    rcases server_of_step stepped with same | ⟨taken, serverStepped, _⟩
    · rw [same]
      exact honest.clean
    · exact Server.step_cleanUsers honest.clean serverStepped
  kept := kept_of_step honest works stepped
  boards := by
    intro response carries
    have games := games_of_deployment_step stepped
    rcases carries_of_step stepped carries with
      before | ⟨taken, computed, origin⟩
    · exact (honest.boards response before).mono games
    · cases computed with
      | status status => cases status
      | leaderboard socket disk =>
          rcases origin with ⟨id, socket, connects, _, impossible⟩ | rfl
          · cases impossible
          · have answers : disk = .succeed := works
            obtain ⟨stored, ticketed, kept⟩ := honest.kept
            rw [answers]
            exact (genuine_of_kept holds ticketed.toEarned kept).mono games

theorem honest_start
    (users : DataFile) (wordlist : WordListResponse) :
    (start users initial wordlist).Honest initial records where
  linked := linked_start users initial wordlist
  clean := by
    intro socket connection live
    cases live
  kept := ⟨[], ticketed_start users initial wordlist, by simp⟩
  boards := by
    rintro response (⟨socket, handler, live, _⟩ | ⟨id, arrived⟩)
    · cases live
    · cases arrived

/-- Whatever the clients and the handlers do, a leaderboard that comes to a
client has no score in it that nobody has reached, except those that the file
began with. -/
theorem leaderboard_of_run
    {users : DataFile} {wordlist : WordListResponse}
    {actions : List DeploymentAction} (holds : HoldsRecords initial records)
    (works : ∀ action ∈ actions, action.DiskWorks)
    (ran : (step qsort sha256).run (start users initial wordlist) actions =
      some deployment)
    (carries : deployment.Carries (.leaderboard response)) :
    deployment.Genuine records response := by
  have honest : deployment.Honest initial records := by
    apply Machine.run_invariant (Honest initial records) _
      (honest_start users wordlist)
      (Machine.meets_of_forall (fun action member _ => works action member) _)
      ran
    intro state action next honest allowed stepped
    exact step_honest holds honest allowed stepped
  exact honest.boards response carries

/-- Behind its game `bob` asks for the leaderboard. -/
def bobLooks : List DeploymentAction :=
  bobPlays ++
    [.client 0 4 (.key 32), .client 0 4 .draw, .client 0 4 (.key 50),
      .client 0 4 (.call Client.leaderboardCall .succeed),
      .server (.receive 4 .leaderboard .succeed)]

/-- A record of an earlier run of the server. -/
def amysRecord : ScoreRecord :=
  ⟨.store maxIdLen (text "amy"), 5⟩

def amyAndBob : LeaderboardResponse :=
  ⟨some [⟨.store maxIdLen (text "amy"), 5⟩,
    ⟨.store maxIdLen (text "bob"), 1⟩]⟩

private theorem amysRecord_held :
    HoldsRecords (some (text "amy:5\n")) [amysRecord] where
  lines := by decide
  named := by decide
  clean := by
    intro record member
    rw [List.mem_singleton.mp member]
    exact ⟨by decide, by decide⟩

set_option maxRecDepth 40000 in
private theorem bobLooks_ran :
    ((step .insertion sha256OfPw).run
      (start twoAccounts (some (text "amy:5\n")) oneWord) bobLooks).map
        (fun deployment => deployment.server.handlers 4) =
      some (some ⟨.store maxIdLen (text "bob"),
        .sendingHeader (.leaderboard amyAndBob), true⟩) := by
  rfl

private theorem bobLooks_works :
    ∀ action ∈ bobLooks, action.DiskWorks := by
  decide

theorem leaderboard_of_bobLooks :
    ∃ deployment, (step .insertion sha256OfPw).run
        (start twoAccounts (some (text "amy:5\n")) oneWord) bobLooks =
          some deployment ∧
      deployment.Carries (.leaderboard amyAndBob) ∧
        deployment.Genuine [amysRecord] amyAndBob := by
  obtain ⟨deployment, ran, live⟩ := Option.map_eq_some_iff.mp bobLooks_ran
  have carries : deployment.Carries (.leaderboard amyAndBob) :=
    .inl ⟨4, _, live, .inl rfl⟩
  exact ⟨deployment, ran, carries,
    leaderboard_of_run amysRecord_held bobLooks_works ran carries⟩

end Deployment

end RainTyping
