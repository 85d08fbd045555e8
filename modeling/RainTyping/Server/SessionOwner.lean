import RainTyping.Server.SingleLogin

/-!
# Every session has its owner

One request at a time, the entries of the table are those of the connections
that act for their names.  A LOGIN request changes `current_user` without
looking at what it held before, so this is lost when a connection that is
already logged in has another password checked, and when somebody logs in
under the empty name, which the cleanup takes for nobody.
-/

namespace RainTyping

namespace Server

/-- Each request is handled to its end before the next: a step is taken while
every other handler waits for a request. -/
def OthersIdle (server : Server) (action : Action) : Prop :=
  ∀ other handler, other ≠ action.socket →
    server.handlers other = some handler → handler.stage = .receiving

/-- A password is checked only on a connection that is not logged in, and is
not accepted for the empty name. -/
def LogsInOnce (server : Server) : Action → Prop
  | .verifyPassword socket reads =>
      ∀ handler request, server.handlers socket = some handler →
        handler.stage = .loginChecked request →
          handler.currentUser = .empty ∧
            ((server.loginOutcome reads request).response.success = true →
              (server.loginOutcome reads request).loggedInUser ≠ .empty)
  | _ => True

/-- The steps of a LOGIN request up to its response. -/
def loginSteps (socket : Nat) (credentials : Credentials) (disk : DiskCalls) :
    List Action :=
  [.receive socket (.login credentials) disk,
    .verifyPassword socket disk.reads, .addSession socket]

/-- No slot of the table is orphaned. -/
structure SessionsOwned (qsort : QSort) (server : Server) : Prop where
  owner : ∀ entry ∈ server.loggedInUsers.entries, entry.isActive = true →
    ∃ handler, server.handlers entry.clientSock = some handler ∧
      handler.currentUser = entry.username
  closed : (∀ socket, server.handlers socket = none) →
    ∀ entry ∈ server.loggedInUsers.entries, entry.isActive = false
  /-- A user for whom no connection acts can log in with its password, if the
  table has room. -/
  again : ∀ user, (∀ socket handler, server.handlers socket = some handler →
      handler.currentUser ≠ user) →
    ∀ socket handler (credentials : Credentials) disk,
      server.alive = true → server.handlers socket = some handler →
        handler.stage = .receiving →
          (server.loginOutcome disk.reads credentials).response.success =
              true →
            (server.loginOutcome disk.reads credentials).loggedInUser =
                user →
              (∃ entry ∈ server.loggedInUsers.entries,
                entry.isActive = false) →
                ∃ next after status,
                  (step qsort).run server
                      (loginSteps socket credentials disk) = some next ∧
                    next.handlers socket = some after ∧
                      after.currentUser = user ∧
                        after.stage = .sendingHeader (.login status) ∧
                          status.success = true

/-- What holds between the steps of a sequential run. -/
structure SequentialState (server : Server) : Prop where
  owned : server.sessions.Owned .empty
  checked : ∀ socket handler credentials,
    server.handlers socket = some handler →
      handler.stage = .loginChecked (some credentials) →
        isUserAlreadyLoggedIn server.loggedInUsers credentials.username = none

/-- A name past the check of the table is not in the table. -/
def NamesChecked (server : Server) : Prop :=
  ∀ socket handler credentials,
    server.handlers socket = some handler →
      handler.stage = .loginChecked (some credentials) →
        isUserAlreadyLoggedIn server.loggedInUsers credentials.username = none

variable {qsort : QSort} {server next : Server} {action : Action}

/-! ## One step -/

theorem fresh_of_checked
    {socket : Nat} {handler : Handler} {credentials : Credentials}
    {reads : ReadCalls}
    (checked : server.NamesChecked)
    (idle : server.OthersIdle (.verifyPassword socket reads))
    (live : server.handlers socket = some handler)
    (stage : handler.stage = .loginChecked (some credentials))
    (success : (server.loginOutcome reads credentials).response.success =
      true) :
    server.sessions.Fresh
      (server.loginOutcome reads credentials).loggedInUser := by
  obtain ⟨name, sameName, sameBytes, _⟩ := loginUserImpl_of_success success
  cases sameName
  constructor
  · intro other active
    have absent := isUserAlreadyLoggedIn_eq_none_iff.mp
      (checked socket handler credentials live stage)
    exact absent _ active sameBytes
  · intro other pending
    obtain ⟨rival, rivalLive, same⟩ :=
      sessions_connection_eq_some_iff.mp pending
    have verified : rival.stage.verified = true :=
      congrArg Connection.pending same
    by_cases own : other = socket
    · subst own
      rw [live] at rivalLive
      cases rivalLive
      rw [stage] at verified
      cases verified
    · rw [idle other rival own rivalLive] at verified
      cases verified

private theorem orderly_verifyPassword
    {socket : Nat} {handler : Handler} {request : Option Credentials}
    {reads : ReadCalls}
    (state : server.SequentialState)
    (idle : server.OthersIdle (.verifyPassword socket reads))
    (once : server.LogsInOnce (.verifyPassword socket reads))
    (live : server.handlers socket = some handler)
    (stage : handler.stage = .loginChecked request) :
    server.sessions.Orderly .empty
      (server.sessionEvent (.verifyPassword socket reads)) := by
  obtain ⟨nobody, named⟩ := once handler request live stage
  have acts : server.sessions.connection socket = some ⟨.empty, false⟩ := by
    rw [sessions_connection live, Handler.connection, nobody, stage]
    rfl
  rw [sessionEvent_verifyPassword live stage]
  split
  · rename_i success
    refine ⟨?_, named success, acts⟩
    cases request with
    | none => cases success
    | some credentials =>
        exact fresh_of_checked state.checked idle live stage success
  · exact acts

private theorem orderly_of_other
    (other : ∀ socket reads, action ≠ .verifyPassword socket reads) :
    server.sessions.Orderly .empty (server.sessionEvent action) := by
  cases action with
  | verifyPassword socket reads => exact absurd rfl (other socket reads)
  | receive socket request disk =>
      by_cases isLogout : request = .logout
      · subst isLogout
        simp only [sessionEvent]
        split
        · split <;> trivial
        · trivial
      · rw [sessionEvent_receive isLogout]
        trivial
  | addSession socket =>
      simp only [sessionEvent]
      split
      · split <;> trivial
      · trivial
  | _ => trivial

private theorem orderly_step
    (state : server.SequentialState) (idle : server.OthersIdle action)
    (once : server.LogsInOnce action)
    (stepped : step qsort server action = some next) :
    server.sessions.Orderly .empty (server.sessionEvent action) := by
  obtain ⟨_, cases⟩ := step_iff.mp stepped
  cases cases with
  | verifyPassword socket reads live stage =>
      exact orderly_verifyPassword state idle once live stage
  | _ => exact orderly_of_other fun _ _ => nofun

private theorem checked_receiveLogin
    {socket : Nat} {before handler : Handler} {body : Option Credentials}
    {credentials : Credentials}
    (live : (server.receiveLogin socket before body).handlers socket =
      some handler)
    (started : server.handlers socket = some before)
    (receiving : before.stage = .receiving)
    (stage : handler.stage = .loginChecked (some credentials)) :
    isUserAlreadyLoggedIn (server.receiveLogin socket before body).loggedInUsers
      credentials.username = none := by
  cases body with
  | none =>
      simp only [receiveLogin] at live
      split at live
      · rw [crash, started] at live
        cases live
        rw [receiving] at stage
        cases stage
      · rw [setHandler_self] at live
        cases live
        cases stage
  | some sentCredentials =>
      simp only [receiveLogin] at live ⊢
      split at live
      · rename_i absent
        rw [setHandler_self] at live
        cases live
        cases stage
        rw [if_pos absent]
        exact absent
      · rw [respond_self] at live
        cases live
        cases stage

private theorem not_checked_receive
    {socket : Nat} {before handler : Handler} {request : Request}
    {disk : DiskCalls} {checked : Option Credentials}
    (other : ∀ body, request ≠ .login body)
    (live : (server.receive qsort socket before request disk).handlers socket =
      some handler)
    (started : server.handlers socket = some before)
    (receiving : before.stage = .receiving) :
    handler.stage ≠ .loginChecked checked := by
  have responded : ∀ {changed : Server} {sender : Handler} {response},
      (changed.respond socket sender response).handlers socket = some handler →
        handler.stage ≠ .loginChecked checked := by
    intro changed sender response live
    rw [respond_self] at live
    cases live
    intro checking
    cases checking
  cases request with
  | login body => exact absurd rfl (other body)
  | register body =>
      simp only [receive, receiveRegister] at live
      split at live
      · exact responded live
      · rw [setHandler_self] at live
        cases live
        intro checking
        cases checking
  | scoreSubmit body =>
      simp only [receive, receiveScoreSubmit] at live
      split at live
      · exact responded live
      · split at live
        · rw [crash, started] at live
          cases live
          rw [receiving]
          intro checking
          cases checking
        · exact responded live
  | leaderboard => exact responded live
  | wordlist => exact responded live
  | logout =>
      simp only [receive, receiveLogout] at live
      split at live
      · exact responded live
      · exact responded live
  | unknown type => exact responded live

private theorem not_checked_sendAll
    {socket : Nat} {before handler : Handler} {sent : Bool} {later : Stage}
    {checked : Option Credentials}
    (live : (server.sendAll socket before sent later).handlers socket =
      some handler)
    (started : server.handlers socket = some before)
    (unchecked : before.stage ≠ .loginChecked checked)
    (laterUnchecked : later ≠ .loginChecked checked) :
    handler.stage ≠ .loginChecked checked := by
  unfold sendAll at live
  split at live
  · rw [setHandler_self] at live
    cases live
    cases sent
    · exact nofun
    · exact laterUnchecked
  · rw [serverSignals] at live
    simp only [started, Option.some.injEq] at live
    exact live ▸ unchecked

/-- A handler gets past the check of the table only while the name is not in
it. -/
private theorem checked_step
    (checked : server.NamesChecked)
    (stepped : step qsort server action = some next)
    {handler : Handler} {credentials : Credentials}
    (live : next.handlers action.socket = some handler)
    (stage : handler.stage = .loginChecked (some credentials)) :
    isUserAlreadyLoggedIn next.loggedInUsers credentials.username = none := by
  obtain ⟨_, cases⟩ := step_iff.mp stepped
  cases cases with
  | receive socket request disk before receiving =>
      by_cases isLogin : ∃ body, request = .login body
      · obtain ⟨body, rfl⟩ := isLogin
        exact checked_receiveLogin live before receiving stage
      · exact absurd stage (not_checked_receive (not_exists.mp isLogin) live
          before receiving)
  | peerCloses socket before =>
      rw [Action.socket, setHandler_self] at live
      cases live
      exact checked socket _ credentials before stage
  | accept socket free =>
      rw [Action.socket, setHandler_self] at live
      cases live
      cases stage
  | verifyPassword socket reads before checked =>
      rw [Action.socket, verifyPassword] at live
      split at live
      · rw [setHandler_self] at live
        cases live
        cases stage
      · rw [respond_self] at live
        cases live
        cases stage
  | addSession socket before verified =>
      simp only [Action.socket, addSession] at live
      split at live
      · rw [respond_self] at live
        cases live
        cases stage
      · rw [respond_self] at live
        cases live
        cases stage
  | addUser socket writes before searched =>
      rw [Action.socket, addUser, respond_self] at live
      cases live
      cases stage
  | sendHeader socket sent before sending =>
      apply absurd stage (not_checked_sendAll live before _ _)
      · rw [sending]
        intro checking
        cases checking
      · intro checking
        cases checking
  | sendBody socket sent before sending =>
      apply absurd stage (not_checked_sendAll live before _ _)
      · rw [sending]
        intro checking
        cases checking
      · intro checking
        cases checking
  | hangUp socket before receiving =>
      rw [Action.socket, setHandler_self] at live
      cases live
      cases stage
  | cleanUp socket before leaving =>
      simp [Action.socket, cleanUp] at live

/-- One request at a time, a name stays out of the table while its password is
verified. -/
theorem step_namesChecked
    (checked : server.NamesChecked) (idle : server.OthersIdle action)
    (stepped : step qsort server action = some next) :
    next.NamesChecked := by
  intro socket handler credentials live stage
  by_cases own : socket = action.socket
  · subst own
    exact checked_step checked stepped live stage
  · rw [step_other stepped own] at live
    rw [idle socket handler own live] at stage
    cases stage

theorem step_sequential
    (state : server.SequentialState) (idle : server.OthersIdle action)
    (once : server.LogsInOnce action)
    (stepped : step qsort server action = some next) :
    next.SequentialState where
  owned := state.owned.step (orderly_step state idle once stepped)
    (step_refines stepped)
  checked := step_namesChecked state.checked idle stepped

/-! ## Whole runs -/

theorem sequential_start
    {users scores : DataFile} {wordlist : WordListResponse} :
    (start users scores wordlist).SequentialState where
  owned := by
    refine { unique_start with owner := ?_, pending_named := ?_ }
    · intro socket user active
      rw [sessions_start] at active
      exact absurd active (Multiset.notMem_zero _)
    · intro socket user pending
      rw [sessions_start] at pending
      cases pending
  checked := by
    intro socket handler credentials live
    cases live

/-- The steps of a login nobody stands in the way of. -/
private theorem run_loginSteps
    {socket : Nat} {handler : Handler} {credentials : Credentials}
    {disk : DiskCalls} (alive : server.alive = true)
    (live : server.handlers socket = some handler)
    (receiving : handler.stage = .receiving)
    (absent : isUserAlreadyLoggedIn server.loggedInUsers credentials.username =
      none)
    (success : (server.loginOutcome disk.reads credentials).response.success =
      true)
    (room : ∃ entry ∈ server.loggedInUsers.entries, entry.isActive = false) :
    ∃ next after status,
      (step qsort).run server (loginSteps socket credentials disk) =
          some next ∧
        next.handlers socket = some after ∧
          after.currentUser =
              (server.loginOutcome disk.reads credentials).loggedInUser ∧
            after.stage = .sendingHeader (.login status) ∧
              status.success = true := by
  have added : (addLoggedInUser server.loggedInUsers
      (server.loginOutcome disk.reads credentials).loggedInUser
      socket).1 = true := by
    rw [← Bool.not_eq_false, addLoggedInUser_fails_iff]
    obtain ⟨entry, member, free⟩ := room
    intro full
    rw [full entry member] at free
    cases free
  let outcome := server.loginOutcome disk.reads credentials
  let first := server.setHandler socket
    { handler with stage := .loginChecked credentials }
  let second := first.setHandler socket
    ⟨outcome.loggedInUser, .loginVerified outcome.response.message,
      handler.peerOpen⟩
  have received : step qsort server
      (.receive socket (.login credentials) disk) = some first :=
    step_receive_login alive live receiving absent
  have accepted : step qsort first (.verifyPassword socket disk.reads) =
      some second :=
    step_verifyPassword alive setHandler_self success
  have granted : ∃ third, step qsort second (.addSession socket) = some third ∧
      third.handlers socket = some
        ⟨outcome.loggedInUser,
          .sendingHeader (.login ⟨true, outcome.response.message⟩),
          handler.peerOpen⟩ :=
    ⟨_, step_addSession alive setHandler_self added, setHandler_self⟩
  obtain ⟨third, granted, answered⟩ := granted
  refine ⟨third, _, _, ?_, answered, rfl, rfl, rfl⟩
  rw [loginSteps, Machine.run_cons_eq_some_iff]
  refine ⟨first, received, ?_⟩
  rw [Machine.run_cons_eq_some_iff]
  refine ⟨second, accepted, ?_⟩
  rw [Machine.run_cons_eq_some_iff]
  exact ⟨third, granted, rfl⟩

theorem sessionsOwned_of_sequential (state : server.SequentialState) :
    server.SessionsOwned qsort where
  owner := by
    intro entry member active
    have session : (entry.username, entry.clientSock) ∈
        server.sessions.active :=
      LoggedInUsers.mem_sessionsOf.mpr ⟨entry, member, active, rfl⟩
    obtain ⟨handler, live, same⟩ :=
      sessions_connection_eq_some_iff.mp (state.owned.owner session).1
    exact ⟨handler, live, congrArg Connection.user same⟩
  closed := by
    intro allClosed entry member
    by_contra active
    have session : (entry.username, entry.clientSock) ∈
        server.sessions.active :=
      LoggedInUsers.mem_sessionsOf.mpr
        ⟨entry, member, by simpa using active, rfl⟩
    obtain ⟨handler, live, _⟩ :=
      sessions_connection_eq_some_iff.mp (state.owned.owner session).1
    rw [allClosed] at live
    cases live
  again := by
    intro user absent socket handler credentials disk alive live receiving
      success sameUser room
    subst sameUser
    have absentName : isUserAlreadyLoggedIn server.loggedInUsers
        credentials.username = none := by
      obtain ⟨name, sameName, sameBytes, _⟩ :=
        loginUserImpl_of_success success
      cases sameName
      apply isUserAlreadyLoggedIn_eq_none_iff.mpr
      rintro ⟨name, owner⟩ session same
      obtain ⟨other, otherLive, acts⟩ := sessions_connection_eq_some_iff.mp
        (state.owned.owner session).1
      apply absent owner other otherLive
      apply CharArray.eq_of_bytes_eq
      have actsFor : other.currentUser = name := congrArg Connection.user acts
      rw [actsFor]
      exact same.trans sameBytes.symm
    exact run_loginSteps alive live receiving absentName success room

/-- In a sequential run in which every connection logs in only when it is not
logged in, every session has its owner. -/
theorem sessionsOwned_of_logsInOnce
    {users scores : DataFile} {wordlist : WordListResponse}
    {actions : List Action} {server : Server}
    (sequential : (step qsort).Meets OthersIdle
      (start users scores wordlist) actions)
    (once : (step qsort).Meets LogsInOnce (start users scores wordlist)
      actions)
    (ran : (step qsort).run (start users scores wordlist) actions =
      some server) :
    server.SessionsOwned qsort := by
  apply sessionsOwned_of_sequential
  apply Machine.run_invariant SequentialState _ sequential_start
    (sequential.and once) ran
  intro state action next holds guarded stepped
  exact step_sequential holds guarded.1 guarded.2 stepped

/-! ## Two connections -/

/-- The other ones of these sockets wait for a request. -/
def othersIdleOn (sockets : List Nat) (server : Server) (action : Action) :
    Bool :=
  sockets.all fun other =>
    match server.handlers other with
    | some handler => other = action.socket || handler.stage = .receiving
    | none => true

theorem othersIdle_of_othersIdleOn
    {sockets : List Nat} (only : server.OnlyOn sockets)
    (idle : server.othersIdleOn sockets action = true) :
    server.OthersIdle action := by
  intro other handler apart live
  by_cases ours : other ∈ sockets
  · have waits := List.all_eq_true.mp idle other ours
    rw [live] at waits
    simpa [apart] using waits
  · rw [only other ours] at live
    cases live

/-- `LogsInOnce` for the handler of the action. -/
def logsInOnce (server : Server) : Action → Bool
  | .verifyPassword socket reads =>
      match server.handlers socket with
      | some ⟨user, .loginChecked request, _⟩ =>
          user = .empty &&
            (!(server.loginOutcome reads request).response.success ||
              (server.loginOutcome reads request).loggedInUser ≠ .empty)
      | _ => true
  | _ => true

theorem logsInOnce_of_check (once : server.logsInOnce action = true) :
    server.LogsInOnce action := by
  cases action with
  | verifyPassword socket reads =>
      rintro ⟨user, stage, peerOpen⟩ request live rfl
      simp only [logsInOnce, live, Bool.and_eq_true, Bool.or_eq_true,
        decide_eq_true_eq] at once
      refine ⟨once.1, ?_⟩
      intro success
      simpa [success] using once.2
  | _ => trivial

/-- The second login of `a` is refused; it succeeds once the first connection
is closed. -/
def loginAfterClose : List Action :=
  loginRefused ++ [.peerCloses 4, .hangUp 4, .cleanUp 4] ++
    logsIn 5 loginRequest

private theorem accountFile_only (sockets : List Nat) :
    (start accountFile none .empty).OnlyOn sockets :=
  fun _ _ => rfl

private theorem loginAfterClose_sequential :
    (step .insertion).Meets OthersIdle (start accountFile none .empty)
      loginAfterClose := by
  apply meets_of_onlyOn (fun _ _ => othersIdle_of_othersIdleOn)
    (accountFile_only [4, 5])
  · decide
  · decide

private theorem loginAfterClose_once :
    (step .insertion).Meets LogsInOnce (start accountFile none .empty)
      loginAfterClose := by
  apply meets_of_onlyOn (fun _ _ _ => logsInOnce_of_check)
    (accountFile_only [4, 5])
  · decide
  · decide

theorem sessionsOwned_of_loginAfterClose :
    ∃ server, (step .insertion).run (start accountFile none .empty)
      loginAfterClose = some server ∧ server.SessionsOwned .insertion :=
  ⟨_, rfl, sessionsOwned_of_logsInOnce loginAfterClose_sequential
    loginAfterClose_once rfl⟩

/-- A second LOGIN request on the same connection, for a name nobody has. -/
def secondLogin : List Action :=
  [.accept 4] ++ logsIn 4 loginRequest ++
    [.receive 4 (.login (some ⟨.ofBuffer (text "x"), .ofBuffer (text "y")⟩))
        .succeed,
      .verifyPassword 4 .succeed, .sendHeader 4 true, .sendBody 4 true]

/-- The failed second login leaves the session of `a` without an owner. -/
theorem secondLogin_orphans :
    ¬ ∀ qsort users scores wordlist actions server,
      (step qsort).Meets OthersIdle (start users scores wordlist) actions →
        (step qsort).run (start users scores wordlist) actions =
            some server →
          server.SessionsOwned qsort := by
  intro owned
  have orphan : ((step .insertion).run (start accountFile none .empty)
      secondLogin).map (fun server =>
        (server.loggedInUsers.entries.head?,
          (server.handlers 4).map Handler.currentUser)) =
      some (some ⟨.store maxIdLen (text "a"), 4, true⟩, some .empty) := by
    decide
  cases ran : (step .insertion).run (start accountFile none .empty)
      secondLogin with
  | none =>
      rw [ran] at orphan
      cases orphan
  | some server =>
      have sequential : (step .insertion).Meets OthersIdle
          (start accountFile none .empty) secondLogin :=
        meets_of_onlyOn (fun _ _ => othersIdle_of_othersIdleOn)
          (accountFile_only [4]) (by decide) (by decide)
      have each := owned .insertion _ _ _ secondLogin server sequential ran
      rw [ran, Option.map_some, Option.some.injEq, Prod.mk.injEq,
        Option.map_eq_some_iff] at orphan
      obtain ⟨first, handler, live, nobody⟩ := orphan
      obtain ⟨owner, ownerLive, acts⟩ :=
        each.owner _ (List.mem_of_head? first) rfl
      rw [live] at ownerLive
      cases ownerLive
      rw [nobody] at acts
      exact absurd acts (by decide)

end Server

end RainTyping
