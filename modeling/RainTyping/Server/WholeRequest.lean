import RainTyping.Server.HandleClient

/-!
# A request from its receipt to its response

When no other handler acts in between, the steps of one request make a single
function from the server that receives it to the server that is about to send
the response.
-/

namespace RainTyping

namespace Server

/-- The next critical section of a request that is not answered yet. -/
def continueRequest (server : Server) (socket : Nat) (disk : DiskCalls) :
    Server :=
  match server.handlers socket with
  | some handler =>
      match handler.stage with
      | .loginChecked request =>
          server.verifyPassword socket handler disk.reads request
      | .loginVerified accepted => server.addSession socket handler accepted
      | .registerSearched newUser =>
          server.addUser socket handler disk.writes newUser
      | _ => server
  | none => server

/-- A request has at most two critical sections after its first. -/
def handleRequest (qsort : QSort) (server : Server) (socket : Nat)
    (handler : Handler) (request : Request) (disk : DiskCalls) : Server :=
  ((server.receive qsort socket handler request disk).continueRequest socket
    disk).continueRequest socket disk

/-- The response a handler is about to send. -/
def response (server : Server) (socket : Nat) : Option Response :=
  match server.handlers socket with
  | some ⟨_, .sendingHeader response, _⟩ => some response
  | _ => none

variable {qsort : QSort} {server : Server} {socket : Nat} {handler : Handler}
  {disk : DiskCalls}

/-! ## The request as a run -/

theorem continueRequest_alive :
    (server.continueRequest socket disk).alive = server.alive := by
  unfold continueRequest
  split
  · split
    · rw [verifyPassword]
      split <;> rfl
    · simp only [addSession]
      split <;> rfl
    · rfl
    · rfl
  · rfl

private theorem continueRequest_run
    (qsort : QSort) (socket : Nat) (disk : DiskCalls)
    (alive : server.alive = true) :
    ∃ actions, (∀ action ∈ actions, action.socket = socket) ∧
      (step qsort).run server actions =
        some (server.continueRequest socket disk) := by
  unfold continueRequest
  split
  · rename_i handler live
    split
    · rename_i stage
      exact ⟨[.verifyPassword socket disk.reads], by simp [Action.socket],
        Machine.run_cons_eq_some_iff.mpr ⟨_, step_iff.mpr
          ⟨alive, .verifyPassword socket disk.reads live stage⟩, rfl⟩⟩
    · rename_i stage
      exact ⟨[.addSession socket], by simp [Action.socket],
        Machine.run_cons_eq_some_iff.mpr ⟨_, step_iff.mpr
          ⟨alive, .addSession socket live stage⟩, rfl⟩⟩
    · rename_i stage
      exact ⟨[.addUser socket disk.writes], by simp [Action.socket],
        Machine.run_cons_eq_some_iff.mpr ⟨_, step_iff.mpr
          ⟨alive, .addUser socket disk.writes live stage⟩, rfl⟩⟩
    · exact ⟨[], by simp, rfl⟩
  · exact ⟨[], by simp, rfl⟩

private theorem receive_alive
    (qsort : QSort) (server : Server) (socket : Nat) (handler : Handler)
    (disk : DiskCalls) (request : Request) :
    (server.receive qsort socket handler request disk).alive =
        server.alive ∨
      server.receive qsort socket handler request disk = server.crash := by
  cases request with
  | register body =>
      simp only [receive, receiveRegister]
      split <;> exact .inl rfl
  | login body =>
      cases body with
      | none =>
          simp only [receive, receiveLogin]
          split
          · exact .inr rfl
          · exact .inl rfl
      | some credentials =>
          simp only [receive, receiveLogin]
          split <;> exact .inl rfl
  | scoreSubmit body =>
      simp only [receive, receiveScoreSubmit]
      split
      · exact .inl rfl
      · split
        · exact .inr rfl
        · exact .inl rfl
  | leaderboard => exact .inl rfl
  | wordlist => exact .inl rfl
  | logout =>
      simp only [receive, receiveLogout]
      split <;> exact .inl rfl
  | unknown type => exact .inl rfl

theorem continueRequest_receiving
    (live : server.handlers socket = some handler)
    (stage : handler.stage = .receiving) :
    server.continueRequest socket disk = server := by
  simp only [continueRequest, live, stage]

theorem handleRequest_alive
    (qsort : QSort) (request : Request) (disk : DiskCalls)
    (live : server.handlers socket = some handler)
    (stage : handler.stage = .receiving) :
    (server.handleRequest qsort socket handler request disk).alive =
        server.alive ∨
      server.handleRequest qsort socket handler request disk =
        server.crash := by
  rcases receive_alive qsort server socket handler disk request with
    survives | crashes
  · exact .inl (continueRequest_alive.trans
      (continueRequest_alive.trans survives))
  · have stays : server.crash.continueRequest socket disk = server.crash :=
      continueRequest_receiving live stage
    rw [handleRequest, crashes, stays, stays]
    exact .inr rfl

theorem handleRequest_run
    (qsort : QSort) (request : Request) (disk : DiskCalls)
    (alive : server.alive = true)
    (live : server.handlers socket = some handler)
    (stage : handler.stage = .receiving) :
    ∃ actions, (∀ action ∈ actions, action.socket = socket) ∧
      (step qsort).run server actions =
        some (server.handleRequest qsort socket handler request disk) := by
  have received : step qsort server (.receive socket request disk) =
      some (server.receive qsort socket handler request disk) :=
    step_iff.mpr ⟨alive, .receive socket request disk live stage⟩
  have ownReceive : (Action.receive socket request disk).socket = socket :=
    rfl
  rcases receive_alive qsort server socket handler disk request with
    survives | crashes
  · rw [alive] at survives
    obtain ⟨second, ownSecond, ranSecond⟩ :=
      continueRequest_run qsort socket disk survives
    obtain ⟨third, ownThird, ranThird⟩ :=
      continueRequest_run qsort socket disk
        (continueRequest_alive.trans survives)
    refine ⟨.receive socket request disk :: (second ++ third), ?_, ?_⟩
    · simpa [ownReceive, or_imp, forall_and] using ⟨ownSecond, ownThird⟩
    · rw [Machine.run_cons_eq_some_iff]
      refine ⟨_, received, ?_⟩
      rw [Machine.run_append_eq_some_iff]
      exact ⟨_, ranSecond, ranThird⟩
  · refine ⟨[.receive socket request disk], by simp [ownReceive], ?_⟩
    rw [Machine.run_cons_eq_some_iff]
    refine ⟨_, received, ?_⟩
    have stays : server.crash.continueRequest socket disk = server.crash :=
      continueRequest_receiving live stage
    rw [handleRequest, crashes, stays, stays, Machine.run_nil]

/-! ## What becomes of a request -/

theorem continueRequest_respond {response : Response} :
    (server.respond socket handler response).continueRequest socket disk =
      server.respond socket handler response := by
  simp only [continueRequest, respond_self]

/-- A server about to send this response, with these data. -/
structure Answered (next : Server) (socket : Nat) (response : Response)
    (users scores : DataFile) (table : LoggedInUsers) : Prop where
  response : next.response socket = some response
  users : next.users = users
  scores : next.scores = scores
  table : next.loggedInUsers = table

private theorem answered_respond {response : Response} :
    (server.respond socket handler response).Answered socket response
      server.users server.scores server.loggedInUsers :=
  ⟨by simp only [Server.response, respond_self], rfl, rfl, rfl⟩

variable (qsort server socket handler disk)

/-- A whole REGISTER request is one call of `register_user_impl`. -/
theorem handleRequest_register (body : Option Credentials) :
    (server.handleRequest qsort socket handler (.register body) disk).Answered
      socket
      (.register (registerUserImpl disk.reads disk.writes server.users
        (body.map Credentials.username) (body.map Credentials.password)).1)
      (registerUserImpl disk.reads disk.writes server.users
        (body.map Credentials.username) (body.map Credentials.password)).2
      server.scores server.loggedInUsers := by
  cases searched : registerUserSearch disk.reads server.users
      (body.map Credentials.username) (body.map Credentials.password) with
  | refused message =>
      simp only [handleRequest, receive, receiveRegister, registerUserImpl,
        searched]
      rw [continueRequest_respond, continueRequest_respond]
      exact answered_respond
  | absent newUser =>
      have appended : (server.setHandler socket
          { handler with stage := .registerSearched newUser }).continueRequest
            socket disk = (server.setHandler socket
              { handler with stage := .registerSearched newUser }).addUser
                socket { handler with stage := .registerSearched newUser }
                  disk.writes newUser := by
        simp only [continueRequest, setHandler_self]
      simp only [handleRequest, receive, receiveRegister, registerUserImpl,
        searched]
      rw [appended, addUser, continueRequest_respond]
      exact answered_respond

theorem handleRequest_scoreSubmit_nobody
    (body : Option Int32) (nobody : handler.currentUser = .empty) :
    (server.handleRequest qsort socket handler (.scoreSubmit body)
      disk).Answered socket
        (.scoreSubmit ⟨false,
          message (text "Not logged in. Cannot submit score.")⟩)
        server.users server.scores server.loggedInUsers := by
  have unnamed : handler.currentUser.strlen = 0 := by
    rw [nobody]
    rfl
  simp only [handleRequest, receive, receiveScoreSubmit, unnamed, ↓reduceIte]
  rw [continueRequest_respond, continueRequest_respond]
  exact answered_respond

theorem handleRequest_login_active
    (credentials : Credentials)
    (active : isUserAlreadyLoggedIn server.loggedInUsers
      credentials.username ≠ none) :
    (server.handleRequest qsort socket handler (.login credentials)
      disk).Answered socket
        (.login ⟨false,
          message (text "이 ID는 이미 다른 세션에서 로그인 중입니다.")⟩)
        server.users server.scores server.loggedInUsers := by
  simp only [handleRequest, receive, receiveLogin, active, ↓reduceIte]
  rw [continueRequest_respond, continueRequest_respond]
  exact answered_respond

theorem continueRequest_checked
    {request : Option Credentials} {user : CharArray maxIdLen}
    {peerOpen : Bool}
    (live : server.handlers socket =
      some ⟨user, .loginChecked request, peerOpen⟩) :
    server.continueRequest socket disk =
      server.verifyPassword socket ⟨user, .loginChecked request, peerOpen⟩
        disk.reads request := by
  simp only [continueRequest, live]

theorem handleRequest_login_rejected
    (request : Option Credentials)
    (checked : server.receiveLogin socket handler request =
      server.setHandler socket { handler with stage := .loginChecked request })
    (rejected : (server.loginOutcome disk.reads request).response.success =
      false) :
    (server.handleRequest qsort socket handler (.login request)
      disk).Answered socket
        (.login (server.loginOutcome disk.reads request).response)
        server.users server.scores server.loggedInUsers := by
  have refused : ¬((server.setHandler socket
      { handler with stage := .loginChecked request }).loginOutcome
        disk.reads request).response.success = true := by
    rw [Bool.not_eq_true]
    exact rejected
  simp only [handleRequest, receive, checked]
  rw [continueRequest_checked _ _ _ setHandler_self, verifyPassword,
    if_neg refused, continueRequest_respond]
  exact answered_respond

theorem continueRequest_verified
    {verified : Message} {user : CharArray maxIdLen} {peerOpen : Bool}
    (live : server.handlers socket =
      some ⟨user, .loginVerified verified, peerOpen⟩) :
    server.continueRequest socket disk =
      server.addSession socket ⟨user, .loginVerified verified, peerOpen⟩
        verified := by
  simp only [continueRequest, live]

private theorem addSession_answered (verified : Message) :
    ∃ status,
      status.success = (addLoggedInUser server.loggedInUsers
          handler.currentUser socket).1 ∧
        (server.addSession socket handler verified).Answered socket
          (.login status) server.users server.scores
            (addLoggedInUser server.loggedInUsers handler.currentUser
              socket).2 := by
  cases added : (addLoggedInUser server.loggedInUsers handler.currentUser
      socket).1 with
  | true =>
      refine ⟨⟨true, verified⟩, rfl, ?_⟩
      simp only [addSession, added, ↓reduceIte]
      exact answered_respond
  | false =>
      refine ⟨⟨false, message
        (text "서버 로그인 제한에 도달했습니다. 나중에 다시 시도하세요.")⟩, rfl, ?_⟩
      simp only [addSession, added, Bool.false_eq_true, ↓reduceIte]
      rw [addLoggedInUser_of_failure added]
      exact answered_respond

theorem handleRequest_login_accepted
    (request : Option Credentials)
    (checked : server.receiveLogin socket handler request =
      server.setHandler socket { handler with stage := .loginChecked request })
    (accepted : (server.loginOutcome disk.reads request).response.success =
      true) :
    ∃ status,
      status.success = (addLoggedInUser server.loggedInUsers
          (server.loginOutcome disk.reads request).loggedInUser socket).1 ∧
        (server.handleRequest qsort socket handler (.login request)
          disk).Answered socket (.login status) server.users server.scores
            (addLoggedInUser server.loggedInUsers
              (server.loginOutcome disk.reads request).loggedInUser
                socket).2 := by
  let first := server.setHandler socket
    { handler with stage := .loginChecked request }
  let outcome := server.loginOutcome disk.reads request
  let verified : Handler :=
    ⟨outcome.loggedInUser, .loginVerified outcome.response.message,
      handler.peerOpen⟩
  have success : (first.loginOutcome disk.reads request).response.success =
      true :=
    accepted
  have answered := addSession_answered (first.setHandler socket verified)
    socket verified outcome.response.message
  simp only [handleRequest, receive, checked]
  rw [continueRequest_checked _ _ _ setHandler_self, verifyPassword,
    if_pos success, continueRequest_verified _ _ _ setHandler_self]
  exact answered

end Server

end RainTyping
