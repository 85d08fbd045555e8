import RainTyping.Server.HandleClient

/-!
# One registration for each name

`register_user_impl` searches the users file in one critical section and
appends the new record in another.  Between the two another handler may have
registered the same name.  Two other things make a name available again: a
record that is not written whole runs into the next one, and a blank line ends
every later search.
-/

namespace RainTyping

open LineReader

/-- All lines of the users file are closed and none is blank. -/
def ClosedLines (file : DataFile) : Prop :=
  Terminated newline (file.getD []) ∧
    Scannable newline userLineRoom (file.getD [])

/-- No name that the file can represent was accepted twice, and the record
found for it is the one that was written. -/
structure RegisteredOnce (users : DataFile) (accepted : List UserData) :
    Prop where
  once : accepted.Pairwise fun earlier later =>
    CleanName later.username.bytes → earlier.username ≠ later.username
  kept : ∀ user ∈ accepted, CleanName user.username.bytes →
    findUserInFile .succeed users user.username.toCString =
      .found ⟨user.username, .store maxPwLen (passwordHead user)⟩

namespace RegisteredOnce

variable {users changed : DataFile} {accepted : List UserData}
  {newUser : UserData}

/-- What is appended behind closed lines changes nothing that is found. -/
theorem append
    (registered : RegisteredOnce users accepted)
    (terminated : Terminated newline (users.getD []))
    {following : List UInt8}
    (appended : changed.getD [] = users.getD [] ++ following) :
    RegisteredOnce changed accepted where
  once := registered.once
  kept := by
    intro user member clean
    have found := registered.kept user member clean
    rw [findUserInFile_found_getD_iff] at found ⊢
    rw [appended]
    exact lookup_append_of_some terminated found following

/-- A new record is found when its name was absent. -/
theorem accept
    (registered : RegisteredOnce users accepted) (closed : ClosedLines users)
    (absent : ∀ user, findUserInFile .succeed users
      newUser.username.toCString ≠ .found user)
    (appended : changed.getD [] = users.getD [] ++ userLine newUser) :
    RegisteredOnce changed (accepted ++ [newUser]) where
  once := by
    rw [List.pairwise_append]
    refine ⟨registered.once, List.pairwise_singleton _ _, ?_⟩
    intro earlier member later single clean same
    rw [List.mem_singleton.mp single] at clean same
    have found := registered.kept earlier member (same ▸ clean)
    rw [same] at found
    exact absent _ found
  kept := by
    intro user member clean
    rcases List.mem_append.mp member with earlier | single
    · exact (registered.append closed.1 appended).kept user earlier clean
    · rw [List.mem_singleton.mp single] at clean ⊢
      have notFound : lookup (users.getD [])
          newUser.username.toCString = none := by
        cases found : lookup (users.getD [])
            newUser.username.toCString with
        | none => rfl
        | some other =>
            exact absurd (findUserInFile_found_getD_iff.mpr found)
              (absent other)
      rw [findUserInFile_found_getD_iff, appended,
        lookup_append closed.1 closed.2, notFound,
        lookup_userLine_self clean]
      rfl

end RegisteredOnce

theorem ClosedLines.append
    {users changed : DataFile} {newUser : UserData}
    (closed : ClosedLines users) (noBlank : [] ∉ recordPieces newUser)
    (appended : changed.getD [] = users.getD [] ++ userLine newUser) :
    ClosedLines changed := by
  rw [ClosedLines, appended, scannable_append_iff closed.1,
    scannable_userLine_iff]
  exact ⟨.append_record _, closed.2, noBlank⟩

namespace Server

/-- A record is either not stored at all, or it is stored whole, has no blank
line in it, and its name is still not in the file. -/
def StoresOnce (server : Server) : Action → Prop
  | .addUser socket writes =>
      ∀ handler newUser, server.handlers socket = some handler →
        handler.stage = .registerSearched newUser →
          writes.StoreNothing ∨
            writes.StoreAll (userLine newUser) ∧
              [] ∉ recordPieces newUser ∧
                ∀ user, findUserInFile .succeed server.users
                  newUser.username.toCString ≠ .found user
  | _ => True

variable {qsort : QSort} {server next : Server} {action : Action}
  {socket : Nat} {handler : Handler}

/-! ## Steps that leave the users file alone -/

private theorem receive_users
    {request : Request} {disk : DiskCalls} :
    (server.receive qsort socket handler request disk).users = server.users ∧
      (server.receive qsort socket handler request disk).accepted =
        server.accepted := by
  cases request with
  | register body =>
      simp only [receive, receiveRegister]
      split <;> exact ⟨rfl, rfl⟩
  | login body =>
      cases body <;> simp only [receive, receiveLogin] <;> split <;>
        exact ⟨rfl, rfl⟩
  | scoreSubmit body =>
      simp only [receive, receiveScoreSubmit]
      split
      · exact ⟨rfl, rfl⟩
      · split <;> exact ⟨rfl, rfl⟩
  | leaderboard => exact ⟨rfl, rfl⟩
  | wordlist => exact ⟨rfl, rfl⟩
  | logout =>
      simp only [receive, receiveLogout]
      split <;> exact ⟨rfl, rfl⟩
  | unknown type => exact ⟨rfl, rfl⟩

private theorem sendAll_users {sent : Bool} {later : Stage} :
    (server.sendAll socket handler sent later).users = server.users ∧
      (server.sendAll socket handler sent later).accepted =
        server.accepted := by
  unfold sendAll
  split <;> exact ⟨rfl, rfl⟩

theorem step_users
    (stepped : step qsort server action = some next)
    (other : ∀ socket writes, action ≠ .addUser socket writes) :
    next.users = server.users ∧ next.accepted = server.accepted := by
  obtain ⟨_, cases⟩ := step_iff.mp stepped
  cases cases with
  | accept socket free => exact ⟨rfl, rfl⟩
  | receive socket request disk live stage => exact receive_users
  | verifyPassword socket reads live stage =>
      rw [verifyPassword]
      split <;> exact ⟨rfl, rfl⟩
  | addSession socket live stage =>
      simp only [addSession]
      split <;> exact ⟨rfl, rfl⟩
  | addUser socket writes live stage => exact absurd rfl (other socket writes)
  | sendHeader socket sent live stage => exact sendAll_users
  | sendBody socket sent live stage => exact sendAll_users
  | hangUp socket live stage => exact ⟨rfl, rfl⟩
  | cleanUp socket live stage => exact ⟨rfl, rfl⟩
  | peerCloses socket live => exact ⟨rfl, rfl⟩

/-! ## Appending a record -/

theorem addUser_users {writes : WriteCalls} {newUser : UserData} :
    (server.addUser socket handler writes newUser).users =
      (appendLine writes server.users (userLine newUser)).2 :=
  registerUserAppend_users writes server.users newUser

theorem addUser_accepted {writes : WriteCalls} {newUser : UserData} :
    (server.addUser socket handler writes newUser).accepted =
      if (appendLine writes server.users (userLine newUser)).1 then
        server.accepted ++ [newUser]
      else server.accepted := by
  rw [← registerUserAppend_success]
  rfl

/-- The users file is well formed and every name is registered once. -/
structure RegisterState (server : Server) : Prop where
  closed : ClosedLines server.users
  registered : RegisteredOnce server.users server.accepted

theorem addUser_registerState
    {writes : WriteCalls} {newUser : UserData}
    (state : server.RegisterState)
    (stores : writes.StoreNothing ∨
      writes.StoreAll (userLine newUser) ∧ [] ∉ recordPieces newUser ∧
        ∀ user, findUserInFile .succeed server.users
          newUser.username.toCString ≠ .found user) :
    (server.addUser socket handler writes newUser).RegisterState := by
  have unchanged : ∀ {changed : DataFile},
      changed.getD [] = server.users.getD [] →
        ClosedLines changed ∧ RegisteredOnce changed server.accepted := by
    intro changed same
    have appended : changed.getD [] = server.users.getD [] ++ [] := by
      rw [same, List.append_nil]
    refine ⟨?_, state.registered.append state.closed.1 appended⟩
    rw [ClosedLines, same]
    exact state.closed
  rcases stores with nothing | ⟨all, noBlank, absent⟩
  · obtain ⟨failed, same⟩ : (appendLine writes server.users
        (userLine newUser)).1 = false ∧ _ :=
      appendLine_of_storeNothing nothing
    constructor
    · rw [addUser_users]
      exact (unchanged same).1
    · rw [addUser_users, addUser_accepted, failed]
      exact (unchanged same).2
  · cases added : (appendLine writes server.users (userLine newUser)).1 with
    | true =>
        have appended := congrArg (Option.getD · [])
          (appendLine_of_success added)
        constructor
        · rw [addUser_users]
          exact state.closed.append noBlank appended
        · rw [addUser_users, addUser_accepted, added]
          exact state.registered.accept state.closed absent appended
    | false =>
        rcases appendLine_of_storeAll all server.users with same | appended
        · constructor
          · rw [addUser_users]
            exact (unchanged same).1
          · rw [addUser_users, addUser_accepted, added]
            exact (unchanged same).2
        · constructor
          · rw [addUser_users]
            exact state.closed.append noBlank appended
          · rw [addUser_users, addUser_accepted, added]
            exact state.registered.append state.closed.1 appended

theorem step_registerState
    (state : server.RegisterState) (once : server.StoresOnce action)
    (stepped : step qsort server action = some next) :
    next.RegisterState := by
  obtain ⟨_, cases⟩ := step_iff.mp stepped
  cases cases with
  | @addUser handler newUser socket writes live stage =>
      exact addUser_registerState state (once handler newUser live stage)
  | _ =>
      obtain ⟨sameUsers, sameAccepted⟩ := step_users stepped fun _ _ => nofun
      constructor
      · rw [sameUsers]
        exact state.closed
      · rw [sameUsers, sameAccepted]
        exact state.registered

/-- In a run that starts with closed lines and stores every record as it
should, every name is registered once. -/
theorem registeredOnce_of_storesOnce
    {users scores : DataFile} {wordlist : WordListResponse}
    {actions : List Action} {server : Server}
    (closed : ClosedLines users)
    (once : (step qsort).Meets StoresOnce (start users scores wordlist)
      actions)
    (ran : (step qsort).run (start users scores wordlist) actions =
      some server) :
    RegisteredOnce server.users server.accepted := by
  have initial : (start users scores wordlist).RegisterState :=
    ⟨closed, List.Pairwise.nil, nofun⟩
  have final : server.RegisterState := by
    apply Machine.run_invariant RegisterState _ initial once ran
    intro state action next holds guarded stepped
    exact step_registerState holds guarded stepped
  exact final.registered

/-! ## Two registrations in turn, and two at once -/

def registerRequest (password : String) : Request :=
  .register (some ⟨.ofBuffer (text "a"), .ofBuffer (text password)⟩)

def newAccount (password : String) : UserData :=
  ⟨.store maxIdLen (text "a"), .store maxPwLen (text password)⟩

private theorem closedLines_empty : ClosedLines (some []) :=
  ⟨.nil, scannable_nil⟩

/-- The second registration of `a` is refused. -/
def registrationRefused : List Action :=
  [.accept 4, .accept 5, .receive 4 (registerRequest "b") .succeed,
    .addUser 4 .succeed, .sendHeader 4 true, .sendBody 4 true,
    .receive 5 (registerRequest "c") .succeed, .sendHeader 5 true,
    .sendBody 5 true]

/-- The server before the record of `registrationRefused` is appended. -/
def searchedServer : Server :=
  (((start (some []) none .empty).setHandler 4
    ⟨.empty, .receiving, true⟩).setHandler 5
      ⟨.empty, .receiving, true⟩).setHandler 4
        ⟨.empty, .registerSearched (newAccount "b"), true⟩

private theorem searchedServer_storesOnce :
    searchedServer.StoresOnce (.addUser 4 .succeed) := by
  intro handler newUser live stage
  cases live
  cases stage
  have absent : findUserInFile .succeed searchedServer.users
      (newAccount "b").username.toCString = .absent := by
    decide
  refine .inr ⟨nofun, by decide, ?_⟩
  intro user found
  rw [absent] at found
  cases found

private theorem registrationRefused_storesOnce :
    (step .insertion).Meets StoresOnce
      (start (some []) none .empty) registrationRefused := by
  refine And.intro trivial (And.intro trivial (And.intro trivial
    (And.intro searchedServer_storesOnce ?_)))
  exact And.intro trivial (And.intro trivial (And.intro trivial
    (And.intro trivial (And.intro trivial trivial))))

theorem registeredOnce_of_registrationRefused :
    ∃ server, (step .insertion).run
        (start (some []) none .empty) registrationRefused =
      some server ∧ RegisteredOnce server.users server.accepted :=
  ⟨_, rfl, registeredOnce_of_storesOnce closedLines_empty
    registrationRefused_storesOnce rfl⟩

/-- Both handlers search the users file before either appends to it. -/
def registerRace : List Action :=
  [.accept 4, .accept 5,
    .receive 4 (registerRequest "b") .succeed,
    .receive 5 (registerRequest "c") .succeed,
    .addUser 4 .succeed, .addUser 5 .succeed]

/-- Both registrations of the same name are answered with success. -/
theorem registerRace_accepts_both :
    ¬ ∀ qsort users scores wordlist actions server, ClosedLines users →
      (step qsort).run (start users scores wordlist) actions = some server →
        RegisteredOnce server.users server.accepted := by
  intro once
  have both : ((step .insertion).run
      (start (some []) none .empty) registerRace).map
        Server.accepted = some [newAccount "b", newAccount "c"] := by
    decide
  cases ran : (step .insertion).run
      (start (some []) none .empty) registerRace with
  | none =>
      rw [ran] at both
      cases both
  | some server =>
      have each := (once .insertion _ _ _ registerRace server
        closedLines_empty ran).once
      rw [ran, Option.map_some, Option.some.injEq] at both
      rw [both, List.pairwise_pair] at each
      exact each (by decide) rfl

end Server

end RainTyping
