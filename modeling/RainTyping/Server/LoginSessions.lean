import RainTyping.Server.HandleClient

/-!
# The server's login sessions

The table of logged-in users and the `current_user` of every handler, seen as
the sessions of the abstract model: each step of the server is one of its
steps.
-/

namespace RainTyping

/-- Between the acceptance of the password and `add_logged_in_user`. -/
def Stage.verified : Stage → Bool
  | .loginVerified _ => true
  | _ => false

/-- What a handler's connection acts for. -/
def Handler.connection (handler : Handler) :
    Connection (CharArray maxIdLen) :=
  ⟨handler.currentUser, handler.stage.verified⟩

namespace Server

/-- The login sessions of a server. -/
def sessions (server : Server) : Sessions (CharArray maxIdLen) Nat where
  active := server.loggedInUsers.sessions
  connection := fun socket => (server.handlers socket).map Handler.connection

/-- What a step does to the login sessions. -/
def sessionEvent (server : Server) :
    Action → SessionEvent (CharArray maxIdLen) Nat
  | .accept socket => .connect socket
  | .receive socket .logout _ =>
      match server.handlers socket with
      | some handler =>
          if handler.currentUser.strlen > 0 then .logOut socket else .other
      | none => .other
  | .verifyPassword socket reads =>
      match server.handlers socket with
      | some ⟨_, .loginChecked request, _⟩ =>
          if (server.loginOutcome reads request).response.success then
            .verify socket (server.loginOutcome reads request).loggedInUser
          else .reject socket
      | _ => .other
  | .addSession socket =>
      match server.handlers socket with
      | some handler =>
          if (addLoggedInUser server.loggedInUsers handler.currentUser
              socket).1 then .grant socket
          else .refuse socket
      | none => .other
  | .cleanUp socket => .disconnect socket
  | _ => .other

/-! ## The sessions after a change of one handler -/

variable {server next : Server} {socket : Nat} {handler changed : Handler}

@[simp] theorem sessions_active :
    server.sessions.active = server.loggedInUsers.sessions :=
  rfl

theorem sessions_connection
    (live : server.handlers socket = some handler) :
    server.sessions.connection socket = some handler.connection := by
  simp [sessions, live]

theorem sessions_connection_eq_some_iff
    {connection : Connection (CharArray maxIdLen)} :
    server.sessions.connection socket = some connection ↔
      ∃ handler, server.handlers socket = some handler ∧
        handler.connection = connection := by
  simp [sessions]

@[simp] theorem sessions_setHandler :
    (server.setHandler socket changed).sessions =
      server.sessions.connect socket changed.currentUser
        changed.stage.verified := by
  simp only [sessions, setHandler, Sessions.connect, Sessions.mk.injEq,
    true_and]
  funext other
  by_cases same : other = socket
  · subst same
    simp [Handler.connection]
  · simp [same]

theorem connect_same
    (live : server.handlers socket = some handler) :
    server.sessions.connect socket handler.currentUser
        handler.stage.verified = server.sessions := by
  have unchanged : Function.update server.sessions.connection socket
      (some ⟨handler.currentUser, handler.stage.verified⟩) =
        server.sessions.connection := by
    apply Function.update_eq_self_iff.mpr
    exact (sessions_connection live).symm
  rw [Sessions.connect, unchanged]

/-- A change that leaves the user and does not verify is not seen. -/
theorem sessions_setHandler_same
    (live : server.handlers socket = some handler)
    (sameUser : changed.currentUser = handler.currentUser)
    (sameStage : changed.stage.verified = handler.stage.verified) :
    (server.setHandler socket changed).sessions = server.sessions := by
  rw [sessions_setHandler, sameUser, sameStage, connect_same live]

@[simp] theorem sessions_respond {response : Response} :
    (server.respond socket changed response).sessions =
      server.sessions.connect socket changed.currentUser false :=
  sessions_setHandler

theorem sessions_respond_same
    {response : Response}
    (live : server.handlers socket = some handler)
    (unverified : handler.stage.verified = false) :
    (server.respond socket handler response).sessions = server.sessions := by
  rw [sessions_respond, ← unverified, connect_same live]

@[simp] theorem sessions_crash : server.crash.sessions = server.sessions :=
  rfl

/-! ## Each step -/

private theorem sessions_receiveLogin
    {body : Option Credentials}
    (live : server.handlers socket = some handler)
    (unverified : handler.stage.verified = false) :
    (server.receiveLogin socket handler body).sessions = server.sessions := by
  cases body with
  | none =>
      simp only [receiveLogin]
      split
      · rfl
      · exact sessions_setHandler_same live rfl unverified.symm
  | some credentials =>
      simp only [receiveLogin]
      split
      · exact sessions_setHandler_same live rfl unverified.symm
      · exact sessions_respond_same live unverified

private theorem sessions_receive
    {qsort : QSort} {request : Request} {disk : DiskCalls}
    (live : server.handlers socket = some handler)
    (unverified : handler.stage.verified = false)
    (other : request ≠ .logout) :
    (server.receive qsort socket handler request disk).sessions =
      server.sessions := by
  cases request with
  | register body =>
      simp only [receive, receiveRegister]
      split
      · exact sessions_respond_same live unverified
      · exact sessions_setHandler_same live rfl unverified.symm
  | login body => exact sessions_receiveLogin live unverified
  | scoreSubmit body =>
      simp only [receive, receiveScoreSubmit]
      split
      · exact sessions_respond_same live unverified
      · split
        · rfl
        · exact sessions_respond_same live unverified
  | leaderboard => exact sessions_respond_same live unverified
  | wordlist => exact sessions_respond_same live unverified
  | logout => exact absurd rfl other
  | unknown type => exact sessions_respond_same live unverified

theorem sessionEvent_receive
    {request : Request} {disk : DiskCalls} (other : request ≠ .logout) :
    server.sessionEvent (.receive socket request disk) = .other := by
  cases request <;> first | rfl | exact absurd rfl other

private theorem sessions_sendAll
    {sent : Bool} {later : Stage}
    (live : server.handlers socket = some handler)
    (unverified : handler.stage.verified = false)
    (laterUnverified : later.verified = false) :
    (server.sendAll socket handler sent later).sessions = server.sessions := by
  unfold sendAll
  split
  · cases sent
    · exact sessions_setHandler_same live rfl unverified.symm
    · exact sessions_setHandler_same live rfl
        (laterUnverified.trans unverified.symm)
  · rfl

private theorem sessions_addUser
    {writes : WriteCalls} {newUser : UserData}
    (live : server.handlers socket = some handler)
    (unverified : handler.stage.verified = false) :
    (server.addUser socket handler writes newUser).sessions =
      server.sessions := by
  rw [addUser]
  exact sessions_respond_same live unverified

theorem sessionEvent_verifyPassword
    {reads : ReadCalls} {request : Option Credentials}
    (live : server.handlers socket = some handler)
    (stage : handler.stage = .loginChecked request) :
    server.sessionEvent (.verifyPassword socket reads) =
      if (server.loginOutcome reads request).response.success then
        .verify socket (server.loginOutcome reads request).loggedInUser
      else .reject socket := by
  cases handler
  subst stage
  simp only [sessionEvent, live]

private theorem verifyPassword_refines
    {reads : ReadCalls} {request : Option Credentials}
    (live : server.handlers socket = some handler)
    (stage : handler.stage = .loginChecked request) :
    Sessions.Step .empty server.sessions
      (server.sessionEvent (.verifyPassword socket reads))
      (server.verifyPassword socket handler reads request).sessions := by
  have acts : server.sessions.connection socket =
      some ⟨handler.currentUser, false⟩ := by
    rw [sessions_connection live, Handler.connection, stage]
    rfl
  rw [sessionEvent_verifyPassword live stage, verifyPassword]
  split
  · rw [sessions_setHandler]
    exact .verify _ acts
  · rw [sessions_respond]
    exact .reject acts

private theorem addSession_refines
    {verified : Message}
    (live : server.handlers socket = some handler)
    (stage : handler.stage = .loginVerified verified) :
    Sessions.Step .empty server.sessions
      (server.sessionEvent (.addSession socket))
      (server.addSession socket handler verified).sessions := by
  have pending : server.sessions.connection socket =
      some ⟨handler.currentUser, true⟩ := by
    rw [sessions_connection live, Handler.connection, stage]
    rfl
  simp only [sessionEvent, live, addSession]
  split
  · rename_i added
    rw [sessions_respond]
    have granted : Sessions.Step .empty server.sessions (.grant socket) _ :=
      .grant pending
    rw [sessions_active, ← addLoggedInUser_of_success added] at granted
    exact granted
  · rw [sessions_respond]
    exact .refuse pending

private theorem receiveLogout_refines
    {disk : DiskCalls}
    (live : server.handlers socket = some handler)
    (unverified : handler.stage.verified = false) :
    Sessions.Step .empty server.sessions
      (server.sessionEvent (.receive socket .logout disk))
      (server.receiveLogout socket handler).sessions := by
  have acts : server.sessions.connection socket =
      some ⟨handler.currentUser, false⟩ := by
    rw [sessions_connection live, Handler.connection, unverified]
  simp only [sessionEvent, live, receiveLogout]
  split
  · rename_i named
    rw [sessions_respond]
    exact .logOut acts (CharArray.strlen_pos_iff.mp named)
      removeLoggedInUser_removed
  · rw [sessions_respond_same live unverified]
    exact .other _

private theorem cleanUp_refines
    (live : server.handlers socket = some handler)
    (unverified : handler.stage.verified = false) :
    Sessions.Step .empty server.sessions (.disconnect socket)
      (server.cleanUp socket handler).sessions := by
  have acts : server.sessions.connection socket =
      some ⟨handler.currentUser, false⟩ := by
    rw [sessions_connection live, Handler.connection, unverified]
  have closed : (fun other =>
      (Function.update server.handlers socket none other).map
        Handler.connection) =
      Function.update server.sessions.connection socket none := by
    funext other
    by_cases same : other = socket
    · subst same
      simp
    · simp [same, sessions]
  have after : (server.cleanUp socket handler).sessions =
      ⟨(server.cleanUp socket handler).loggedInUsers.sessions,
        Function.update server.sessions.connection socket none⟩ := by
    rw [← closed]
    rfl
  rw [after]
  by_cases named : handler.currentUser.strlen > 0
  · simp only [cleanUp, if_pos named]
    exact .disconnect acts (CharArray.strlen_pos_iff.mp named)
      removeLoggedInUser_removed
  · have nobody : handler.currentUser = .empty := by
      by_contra other
      exact named (CharArray.strlen_pos_iff.mpr other)
    rw [nobody] at acts
    simp only [cleanUp, if_neg named]
    exact .disconnectNobody acts

/-- Every step of the server is a step of the abstract model. -/
theorem step_refines
    {qsort : QSort} {action : Action}
    (stepped : step qsort server action = some next) :
    Sessions.Step .empty server.sessions (server.sessionEvent action)
      next.sessions := by
  obtain ⟨_, cases⟩ := step_iff.mp stepped
  cases cases with
  | accept socket free =>
      rw [sessions_setHandler]
      exact .connect (by simp [sessions, free])
  | receive socket request disk live stage =>
      have unverified := congrArg Stage.verified stage
      by_cases isLogout : request = .logout
      · subst isLogout
        exact receiveLogout_refines live unverified
      · rw [sessions_receive live unverified isLogout,
          sessionEvent_receive isLogout]
        exact .other _
  | verifyPassword socket reads live stage =>
      exact verifyPassword_refines live stage
  | addSession socket live stage => exact addSession_refines live stage
  | addUser socket writes live stage =>
      rw [sessions_addUser live (congrArg Stage.verified stage)]
      exact .other _
  | sendHeader socket sent live stage =>
      rw [sessions_sendAll live (congrArg Stage.verified stage) rfl]
      exact .other _
  | sendBody socket sent live stage =>
      rw [sessions_sendAll live (congrArg Stage.verified stage) rfl]
      exact .other _
  | @hangUp handler socket live stage =>
      have unseen : (server.setHandler socket
          { handler with stage := .leaving }).sessions = server.sessions :=
        sessions_setHandler_same live rfl
          (congrArg Stage.verified stage).symm
      rw [unseen]
      exact .other _
  | cleanUp socket live stage =>
      exact cleanUp_refines live (congrArg Stage.verified stage)
  | @peerCloses handler socket live =>
      have unseen : (server.setHandler socket
          { handler with peerOpen := false }).sessions = server.sessions :=
        sessions_setHandler_same live rfl rfl
      rw [unseen]
      exact .other _

end Server

end RainTyping
