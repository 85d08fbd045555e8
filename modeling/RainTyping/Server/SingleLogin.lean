import RainTyping.Server.LoginSessions

/-!
# Single login

A LOGIN request checks the table, verifies the password and adds the session
in three separate steps.  Two handlers that pass the check before either has
added its session are both admitted, so an account is logged in at most once
only as long as no password is verified inside such a window.
-/

namespace RainTyping

namespace Server

/-- No account is logged in twice. -/
structure SingleLogin (server : Server) : Prop where
  entries : server.loggedInUsers.entries.Pairwise fun first second =>
    first.isActive = true → second.isActive = true →
      first.username ≠ second.username
  handlers : ∀ first second firstHandler secondHandler,
    server.handlers first = some firstHandler →
      server.handlers second = some secondHandler →
        firstHandler.currentUser = secondHandler.currentUser →
          firstHandler.currentUser ≠ .empty → first = second

/-- A password is accepted only while its user is still not in the table and
no other handler is about to add that user. -/
def NoLoginRace (server : Server) (action : Action) : Prop :=
  ∀ socket user, server.sessionEvent action = .verify socket user →
    isUserAlreadyLoggedIn server.loggedInUsers user.toCString = none ∧
      ∀ other rival verified, server.handlers other = some rival →
        rival.stage = .loginVerified verified → rival.currentUser ≠ user

variable {server next : Server} {action : Action}

theorem sessions_start
    {users scores : DataFile} {wordlist : WordListResponse} :
    (start users scores wordlist).sessions = ⟨0, fun _ => none⟩ := by
  simp [sessions, start]

theorem fresh_of_no_race
    {socket : Nat} {user : CharArray maxIdLen}
    (noRace : server.NoLoginRace action)
    (event : server.sessionEvent action = .verify socket user) :
    server.sessions.Fresh user := by
  obtain ⟨absent, noRival⟩ := noRace socket user event
  constructor
  · intro other active
    exact isUserAlreadyLoggedIn_eq_none_iff.mp absent _ active rfl
  · intro other pending
    obtain ⟨rival, live, same⟩ := sessions_connection_eq_some_iff.mp pending
    obtain ⟨sameUser, verified⟩ := Connection.mk.inj same
    cases stage : rival.stage with
    | loginVerified message =>
        exact noRival other rival message live stage sameUser
    | _ =>
        rw [stage] at verified
        cases verified

theorem step_unique
    {qsort : QSort} (unique : server.sessions.Unique .empty)
    (noRace : server.NoLoginRace action)
    (stepped : step qsort server action = some next) :
    next.sessions.Unique .empty :=
  unique.step (fun _ _ event => fresh_of_no_race noRace event)
    (step_refines stepped)

theorem unique_start
    {users scores : DataFile} {wordlist : WordListResponse} :
    (start users scores wordlist).sessions.Unique .empty := by
  rw [sessions_start]
  constructor
  · simp
  all_goals
    intros
    contradiction

theorem singleLogin_of_unique (unique : server.sessions.Unique .empty) :
    server.SingleLogin where
  entries := LoggedInUsers.nodup_sessions_iff.mp unique.names
  handlers := by
    intro first second firstHandler secondHandler firstLive secondLive same
      named
    have secondConnection := sessions_connection secondLive
    rw [Handler.connection, ← same] at secondConnection
    exact unique.connection_eq named (sessions_connection firstLive)
      secondConnection

/-- In a run without login races every account has a single login. -/
theorem singleLogin_of_no_race
    {qsort : QSort} {users scores : DataFile} {wordlist : WordListResponse}
    {actions : List Action} {server : Server}
    (noRace : (step qsort).Meets NoLoginRace (start users scores wordlist)
      actions)
    (ran : (step qsort).run (start users scores wordlist) actions =
      some server) :
    server.SingleLogin := by
  apply singleLogin_of_unique
  apply Machine.run_invariant (fun state => state.sessions.Unique .empty) _
    unique_start noRace ran
  intro state action next unique free stepped
  exact step_unique unique free stepped

theorem noLoginRace_of_quiet
    (quiet : ∀ socket user,
      server.sessionEvent action ≠ .verify socket user) :
    server.NoLoginRace action :=
  fun socket user event => absurd event (quiet socket user)

/-! ## Runs on a few sockets -/

/-- No other socket than these is in use. -/
def OnlyOn (sockets : List Nat) (server : Server) : Prop :=
  ∀ other ∉ sockets, server.handlers other = none

theorem step_onlyOn
    {qsort : QSort} {sockets : List Nat} (only : server.OnlyOn sockets)
    (within : action.socket ∈ sockets)
    (stepped : step qsort server action = some next) :
    next.OnlyOn sockets := by
  intro other outside
  rw [step_other stepped]
  · exact only other outside
  · rintro rfl
    exact outside within

/-- What a guard says of every handler is checked on the sockets in use. -/
theorem meets_of_onlyOn
    {qsort : QSort} {sockets : List Nat} {actions : List Action}
    {check guard : Server → Action → Prop}
    (lifts : ∀ server action, server.OnlyOn sockets → check server action →
      guard server action)
    (only : server.OnlyOn sockets)
    (within : ∀ action ∈ actions, action.socket ∈ sockets)
    (checked : (step qsort).Meets check server actions) :
    (step qsort).Meets guard server actions := by
  have inside : (step qsort).Meets (fun _ action => action.socket ∈ sockets)
      server actions :=
    Machine.meets_of_forall (fun action member _ => within action member) _
  apply Machine.Meets.strengthen (OnlyOn sockets) _ _ only
    (inside.and checked)
  · intro state action next only guarded stepped
    exact step_onlyOn only guarded.1 stepped
  · intro state action only guarded
    exact lifts state action only guarded.2

/-- A password is verified outside every login window of these sockets. -/
def raceFreeOn (sockets : List Nat) (server : Server) (action : Action) :
    Bool :=
  match server.sessionEvent action with
  | .verify _ user =>
      (isUserAlreadyLoggedIn server.loggedInUsers user.toCString).isNone &&
        sockets.all fun other =>
          match server.handlers other with
          | some rival => !rival.stage.verified || rival.currentUser ≠ user
          | none => true
  | _ => true

theorem noLoginRace_of_raceFreeOn
    {sockets : List Nat} (only : server.OnlyOn sockets)
    (free : server.raceFreeOn sockets action = true) :
    server.NoLoginRace action := by
  intro socket user event
  simp only [raceFreeOn, event, Bool.and_eq_true, Option.isNone_iff_eq_none,
    List.all_eq_true] at free
  obtain ⟨absent, alone⟩ := free
  refine ⟨absent, ?_⟩
  intro other rival verified live stage
  by_cases ours : other ∈ sockets
  · have apart := alone other ours
    rw [live] at apart
    simpa [stage, Stage.verified] using apart
  · rw [only other ours] at live
    cases live

/-! ## Two handlers in turn -/

/-- The users file with the one account `a`. -/
def accountFile : DataFile :=
  some (text "a:b\n")

def loginRequest : Request :=
  .login (some ⟨.ofBuffer (text "a"), .ofBuffer (text "b")⟩)

/-- A login over this socket, with its response. -/
def logsIn (socket : Nat) (request : Request) : List Action :=
  [.receive socket request .succeed, .verifyPassword socket .succeed,
    .addSession socket, .sendHeader socket true, .sendBody socket true]

/-- The second login of `a` is refused by the check of the table. -/
def loginRefused : List Action :=
  [.accept 4, .accept 5] ++ logsIn 4 loginRequest ++
    [.receive 5 loginRequest .succeed, .sendHeader 5 true, .sendBody 5 true]

private theorem loginRefused_noRace :
    (step .insertion).Meets NoLoginRace (start accountFile none .empty)
      loginRefused := by
  have only : (start accountFile none .empty).OnlyOn [4, 5] := fun _ _ => rfl
  apply meets_of_onlyOn (fun _ _ => noLoginRace_of_raceFreeOn) only
  · decide
  · decide

theorem singleLogin_of_loginRefused :
    ∃ server, (step .insertion).run (start accountFile none .empty)
      loginRefused = some server ∧ server.SingleLogin :=
  ⟨_, rfl, singleLogin_of_no_race loginRefused_noRace rfl⟩

/-! ## Two handlers at once -/

/-- Two handlers check the table before either adds its session. -/
def loginRace : List Action :=
  [.accept 4, .accept 5,
    .receive 4 loginRequest .succeed, .receive 5 loginRequest .succeed,
    .verifyPassword 4 .succeed, .verifyPassword 5 .succeed,
    .addSession 4, .addSession 5]

/-- The race ends with two handlers acting for `a`. -/
theorem loginRace_not_single :
    ¬ ∀ qsort users scores wordlist actions server,
      (step qsort).run (start users scores wordlist) actions = some server →
        server.SingleLogin := by
  intro single
  have users : ((step .insertion).run (start accountFile none .empty)
      loginRace).map (fun server =>
        ((server.handlers 4).map Handler.currentUser,
          (server.handlers 5).map Handler.currentUser)) =
      some (some (.store maxIdLen (text "a")),
        some (.store maxIdLen (text "a"))) := by
    decide
  cases ran : (step .insertion).run (start accountFile none .empty)
      loginRace with
  | none =>
      rw [ran] at users
      cases users
  | some server =>
      have both := single .insertion _ _ _ loginRace server ran
      rw [ran, Option.map_some, Option.some.injEq, Prod.mk.injEq,
        Option.map_eq_some_iff, Option.map_eq_some_iff] at users
      obtain ⟨⟨first, firstLive, firstUser⟩, second, secondLive,
        secondUser⟩ := users
      have same := both.handlers 4 5 first second firstLive secondLive
        (firstUser.trans secondUser.symm)
      rw [firstUser] at same
      exact absurd (same (by decide)) (by decide)

end Server

end RainTyping
