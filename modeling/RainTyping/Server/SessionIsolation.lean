import RainTyping.Server.Conversation
import RainTyping.Server.SessionOwner

/-!
# A connection never touches the session of another one

`remove_logged_in_user` removes the first active entry of a name, whichever
socket it belongs to.  One request at a time the active names are distinct,
stale entries included, and no two connections act for one name, so the entry
that is removed never belongs to another connection.
-/

namespace RainTyping

/-- The entry of a connection that is logged in. -/
def Handler.entry (handler : Handler) (socket : Nat) : LoggedInUser :=
  ⟨handler.currentUser, socket, true⟩

namespace Server

/-- What isolates the connections between the steps of a sequential run. -/
structure IsolatedState (server : Server) : Prop where
  unique : server.sessions.Unique .empty
  checked : server.NamesChecked

/-- The other handlers wait for their next requests. -/
def RestIdle (server : Server) (socket : Nat) : Prop :=
  ∀ other handler, other ≠ socket →
    server.handlers other = some handler → handler.stage = .receiving

/-- The entries of the other connections stay where they are. -/
def KeepsEntries (server : Server) (socket : Nat) (next : Server) : Prop :=
  ∀ other handler, other ≠ socket →
    server.handlers other = some handler → handler.currentUser ≠ .empty →
      ∀ index : Nat,
        server.loggedInUsers.entries[index]? = some (handler.entry other) →
          next.loggedInUsers.entries[index]? = some (handler.entry other)

variable {qsort : QSort} {server next : Server} {action : Action}

/-! ## One step -/

private theorem fresh_of_verify
    {socket : Nat} {user : CharArray maxIdLen}
    (checked : server.NamesChecked) (idle : server.OthersIdle action)
    (stepped : step qsort server action = some next)
    (event : server.sessionEvent action = .verify socket user) :
    server.sessions.Fresh user := by
  obtain ⟨_, cases⟩ := step_iff.mp stepped
  cases cases with
  | @verifyPassword handler request socket reads live stage =>
      rw [sessionEvent_verifyPassword live stage] at event
      split at event
      · rename_i success
        cases event
        cases request with
        | none => cases success
        | some credentials =>
            exact fresh_of_checked checked idle live stage success
      · cases event
  | receive socket request disk live stage =>
      by_cases isLogout : request = .logout
      · subst isLogout
        simp only [sessionEvent, live] at event
        split at event <;> cases event
      · rw [sessionEvent_receive isLogout] at event
        cases event
  | addSession socket live stage =>
      simp only [sessionEvent, live] at event
      split at event <;> cases event
  | _ => cases event

theorem step_isolated
    (isolated : server.IsolatedState) (idle : server.OthersIdle action)
    (stepped : step qsort server action = some next) :
    next.IsolatedState where
  unique := isolated.unique.step
    (fun _ _ event => fresh_of_verify isolated.checked idle stepped event)
    (step_refines stepped)
  checked := step_namesChecked isolated.checked idle stepped

/-- What a step can do to the table. -/
inductive TableChange (server : Server) (socket : Nat) :
    LoggedInUsers → Prop where
  | same : TableChange server socket server.loggedInUsers
  | added (user : CharArray maxIdLen) :
      TableChange server socket
        (addLoggedInUser server.loggedInUsers user socket).2
  | removed (live : server.handlers socket = some handler)
      (named : handler.currentUser ≠ .empty) :
      TableChange server socket
        (removeLoggedInUser server.loggedInUsers handler.currentUser)

private theorem receive_tableChange
    {socket : Nat} {handler : Handler} {request : Request} {disk : DiskCalls}
    (live : server.handlers socket = some handler) :
    server.TableChange socket
      (server.receive qsort socket handler request disk).loggedInUsers := by
  cases request with
  | register body =>
      simp only [receive, receiveRegister]
      split <;> exact .same
  | login body =>
      cases body with
      | none =>
          simp only [receive, receiveLogin]
          split <;> exact .same
      | some credentials =>
          simp only [receive, receiveLogin]
          split <;> exact .same
  | scoreSubmit body =>
      simp only [receive, receiveScoreSubmit]
      split
      · exact .same
      · split <;> exact .same
  | leaderboard => exact .same
  | wordlist => exact .same
  | logout =>
      simp only [receive, receiveLogout]
      split
      · rename_i named
        exact .removed live (CharArray.strlen_pos_iff.mp named)
      · exact .same
  | unknown type => exact .same

private theorem step_tableChange
    (stepped : step qsort server action = some next) :
    server.TableChange action.socket next.loggedInUsers := by
  obtain ⟨_, cases⟩ := step_iff.mp stepped
  cases cases with
  | accept socket free => exact .same
  | receive socket request disk live stage => exact receive_tableChange live
  | verifyPassword socket reads live stage =>
      rw [verifyPassword]
      split <;> exact .same
  | addSession socket live stage =>
      simp only [addSession]
      split
      · exact .added _
      · exact .same
  | addUser socket writes live stage => exact .same
  | sendHeader socket sent live stage =>
      unfold sendAll
      split
      · exact .same
      · exact .same
  | sendBody socket sent live stage =>
      unfold sendAll
      split
      · exact .same
      · exact .same
  | hangUp socket live stage => exact .same
  | cleanUp socket live stage =>
      simp only [cleanUp]
      split
      · rename_i named
        exact .removed live (CharArray.strlen_pos_iff.mp named)
      · exact .same
  | peerCloses socket live => exact .same

theorem step_keepsEntries
    (unique : server.sessions.Unique .empty)
    (stepped : step qsort server action = some next) :
    server.KeepsEntries action.socket next := by
  intro other handler apart live named index present
  have change := step_tableChange stepped
  generalize next.loggedInUsers = table at change ⊢
  cases change with
  | same => exact present
  | added user => exact addLoggedInUser_getElem? present rfl
  | @removed actor actorLive actorNamed =>
      apply removeLoggedInUser_getElem? present
      intro sameUser
      apply apart
      have actorConnection := sessions_connection actorLive
      rw [Handler.connection, ← sameUser] at actorConnection
      exact unique.connection_eq named (sessions_connection live)
        actorConnection

/-! ## A run of one handler -/

theorem run_isolated
    {socket : Nat} {actions : List Action}
    (isolated : server.IsolatedState) (idle : server.RestIdle socket)
    (own : ∀ action ∈ actions, action.socket = socket)
    (ran : (step qsort).run server actions = some next) :
    next.IsolatedState ∧ server.KeepsEntries socket next := by
  induction actions generalizing server with
  | nil =>
      cases ran
      exact ⟨isolated, fun _ _ _ _ _ _ present => present⟩
  | cons action actions induction =>
      obtain ⟨middle, stepped, rest⟩ := Machine.run_cons_eq_some_iff.mp ran
      have isOwn := own action List.mem_cons_self
      subst isOwn
      have others : ∀ {other}, other ≠ action.socket →
          middle.handlers other = server.handlers other :=
        fun apart => step_other stepped apart
      have middleIdle : middle.RestIdle action.socket := by
        intro other handler apart live
        rw [others apart] at live
        exact idle other handler apart live
      obtain ⟨nextIsolated, kept⟩ := induction
        (step_isolated isolated idle stepped) middleIdle
        (fun later member => own later (List.mem_cons_of_mem _ member)) rest
      refine ⟨nextIsolated, ?_⟩
      intro other handler apart live named index present
      apply kept other handler apart _ named index
      · exact step_keepsEntries isolated.unique stepped other handler apart
          live named index present
      · rw [others apart]
        exact live

theorem exists_entry
    (unique : server.sessions.Unique .empty) {socket : Nat}
    {handler : Handler} (live : server.handlers socket = some handler)
    (receiving : handler.stage = .receiving)
    (named : handler.currentUser ≠ .empty) :
    ∃ index : Nat, server.loggedInUsers.entries[index]? =
      some (handler.entry socket) := by
  have connection := sessions_connection live
  rw [Handler.connection, receiving] at connection
  obtain ⟨entry, member, active, same⟩ :=
    LoggedInUsers.mem_sessionsOf.mp (unique.held connection named)
  obtain ⟨index, present⟩ := List.mem_iff_getElem?.mp member
  refine ⟨index, ?_⟩
  rw [present]
  obtain ⟨name, clientSock, isActive⟩ := entry
  cases same
  cases active
  rfl

end Server

/-! ## Whole requests and disconnects -/

namespace Conversation

/-- What holds between the visits of a run. -/
structure VisitedState (state : Conversation) : Prop where
  alive : state.server.alive = true
  isolated : state.server.IsolatedState
  idle : ∀ socket handler, state.server.handlers socket = some handler →
    handler.stage = .receiving

variable {qsort : QSort} {state next : Conversation} {visit : Visit}

theorem visit_visited
    (visited : VisitedState state)
    (stepped : Conversation.visit qsort state visit = some next) :
    VisitedState next ∧
      state.server.KeepsEntries visit.socket next.server := by
  obtain ⟨alive, actions, own, ran⟩ := visit_run visited.alive stepped
  have restIdle : state.server.RestIdle visit.socket :=
    fun other handler _ live => visited.idle other handler live
  obtain ⟨isolated, kept⟩ :=
    Server.run_isolated visited.isolated restIdle own ran
  refine ⟨⟨alive, isolated, ?_⟩, kept⟩
  intro socket handler live
  by_cases apart : socket ≠ visit.socket
  · rw [visit_other visited.alive stepped apart] at live
    exact visited.idle socket handler live
  · have isOwn := not_not.mp apart
    subst isOwn
    cases visits_of_visit stepped with
    | connect socket free =>
        rw [Visit.socket, Server.setHandler_self] at live
        cases live
        rfl
    | request socket request disk before replied =>
        rw [Visit.socket, Server.setHandler_self] at live
        cases live
        rfl
    | disconnect socket before => simp [Visit.socket, Server.cleanUp] at live

theorem visited_start
    (users scores : DataFile) (wordlist : WordListResponse) :
    VisitedState (.start users scores wordlist) where
  alive := rfl
  isolated := by
    refine ⟨Server.unique_start, ?_⟩
    intro socket handler credentials live
    cases live
  idle := by
    intro socket handler live
    cases live

/-- After any whole requests and disconnects, a further one leaves every other
connection and its entry in the table as they are. -/
theorem sessions_isolated
    {users scores : DataFile} {wordlist : WordListResponse}
    {visits : List Visit}
    (ran : (Conversation.visit qsort).run (.start users scores wordlist)
      visits = some state)
    (stepped : Conversation.visit qsort state visit = some next)
    {other : Nat} (apart : other ≠ visit.socket) :
    next.server.handlers other = state.server.handlers other ∧
      ∀ handler, state.server.handlers other = some handler →
        handler.currentUser ≠ .empty →
          ∃ index : Nat,
            state.server.loggedInUsers.entries[index]? =
                some (handler.entry other) ∧
              next.server.loggedInUsers.entries[index]? =
                some (handler.entry other) := by
  have visited : VisitedState state := by
    apply Machine.run_preserves VisitedState _
      (visited_start users scores wordlist) ran
    intro before visit after holds stepped
    exact (visit_visited holds stepped).1
  refine ⟨visit_other visited.alive stepped apart, ?_⟩
  intro handler live named
  obtain ⟨index, present⟩ := Server.exists_entry visited.isolated.unique live
    (visited.idle other handler live) named
  exact ⟨index, present, (visit_visited visited stepped).2 other handler apart
    live named index present⟩

/-- Two users are logged in, and the second one leaves. -/
def twoLogins : List Visit :=
  [.connect 4, .connect 5,
    .request 4
      (.login (some ⟨.ofBuffer (text "a"), .ofBuffer (text "b")⟩)) .succeed,
    .request 5
      (.login (some ⟨.ofBuffer (text "c"), .ofBuffer (text "d")⟩)) .succeed]

theorem sessions_isolated_twoLogins :
    ∃ state next,
      (Conversation.visit .insertion).run
          (.start (some (text "a:b\nc:d\n")) none .empty) twoLogins =
            some state ∧
        Conversation.visit .insertion state (.disconnect 5) = some next ∧
          next.server.handlers 4 = state.server.handlers 4 ∧
            ∀ handler, state.server.handlers 4 = some handler →
              handler.currentUser ≠ .empty →
                ∃ index : Nat,
                  state.server.loggedInUsers.entries[index]? =
                      some (handler.entry 4) ∧
                    next.server.loggedInUsers.entries[index]? =
                      some (handler.entry 4) := by
  obtain ⟨state, ran⟩ : ∃ state, (Conversation.visit .insertion).run
      (.start (some (text "a:b\nc:d\n")) none .empty) twoLogins =
        some state :=
    ⟨_, rfl⟩
  obtain ⟨next, stepped⟩ : ∃ next,
      Conversation.visit .insertion state (.disconnect 5) = some next := by
    cases ran
    exact ⟨_, rfl⟩
  exact ⟨state, next, ran, stepped,
    sessions_isolated ran stepped (by decide)⟩

end Conversation

end RainTyping
