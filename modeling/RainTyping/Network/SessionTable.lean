import RainTyping.Network.ServedUsers

/-!
# Who is in the table

A handler checks a password without looking at the user it acts for, so that
a second login over one connection leaves an entry behind.  The client program
never asks for a second login.  With it, and without login races, the entries
of the table are the logins of the live connections and no others.
-/

namespace RainTyping

namespace Sessions

variable {Name Socket : Type} [decidableSocket : DecidableEq Socket]
  {nobody : Name} {state next : Sessions Name Socket}
  {event : SessionEvent Name Socket} {socket : Socket} {user : Name}

/-- Every session with a name is of a connection that acts for it. -/
def Attended (nobody : Name) (state : Sessions Name Socket) : Prop :=
  ∀ user socket, (user, socket) ∈ state.active → user ≠ nobody →
    state.connection socket = some ⟨user, false⟩

/-- Passwords are only checked for connections that act for nobody. -/
def ChecksGuests (nobody : Name) (state : Sessions Name Socket) :
    SessionEvent Name Socket → Prop
  | .verify socket _ => state.connection socket = some ⟨nobody, false⟩
  | .reject socket => state.connection socket = some ⟨nobody, false⟩
  | _ => True

/-- A connection that is not admitted may change what it acts for. -/
theorem Attended.connect
    {pending : Bool} (attended : state.Attended nobody)
    (free : ∀ name, state.connection socket = some ⟨name, false⟩ →
      name = nobody) :
    (state.connect socket user pending).Attended nobody := by
  intro name other active named
  have before := attended name other active named
  refine connect_eq_some_iff.mpr (.inr ⟨?_, before⟩)
  rintro rfl
  exact named (free name before)

theorem Attended.close
    (attended : state.Attended nobody)
    (free : ∀ name, state.connection socket = some ⟨name, false⟩ →
      name = nobody) :
    (state.close socket).Attended nobody := by
  intro name other active named
  have before := attended name other active named
  refine close_eq_some_iff.mpr ⟨?_, before⟩
  rintro rfl
  exact named (free name before)

omit decidableSocket in
/-- The session of the connection is the last that it acts for. -/
theorem Attended.removed
    {remaining : Multiset (Name × Socket)} (attended : state.Attended nobody)
    (unique : state.Unique nobody)
    (live : state.connection socket = some ⟨user, false⟩)
    (named : user ≠ nobody) (removed : Removed user state.active remaining)
    {name : Name} {other : Socket} (kept : (name, other) ∈ remaining)
    (keptNamed : name ≠ nobody) :
    other ≠ socket ∧ state.connection other = some ⟨name, false⟩ := by
  obtain ⟨split, away⟩ := unique.removed live named removed
  have active : (name, other) ∈ state.active := by
    rw [split]
    exact Multiset.mem_cons_of_mem kept
  have acts := attended name other active keptNamed
  refine ⟨?_, acts⟩
  rintro rfl
  rw [live] at acts
  cases acts
  exact away other kept

theorem Attended.step
    (attended : state.Attended nobody) (unique : state.Unique nobody)
    (guests : state.ChecksGuests nobody event)
    (stepped : Step nobody state event next) : next.Attended nobody := by
  cases stepped with
  | other => exact attended
  | connect free =>
      apply attended.connect
      intro name live
      rw [free] at live
      cases live
  | verify user live =>
      apply attended.connect
      intro name acts
      have guest := acts.symm.trans guests
      cases guest
      rfl
  | reject live =>
      apply attended.connect
      intro name acts
      have guest := acts.symm.trans guests
      cases guest
      rfl
  | grant live =>
      intro name other active named
      rcases Multiset.mem_cons.mp active with same | before
      · cases same
        exact connect_eq_some_iff.mpr (.inl ⟨rfl, rfl⟩)
      · have acts := attended name other before named
        refine connect_eq_some_iff.mpr (.inr ⟨?_, acts⟩)
        rintro rfl
        rw [live] at acts
        cases acts
  | refuse live =>
      apply attended.connect
      intro name acts
      rw [live] at acts
      cases acts
  | logOut live userNamed removed =>
      intro name other active named
      obtain ⟨apart, acts⟩ :=
        attended.removed unique live userNamed removed active named
      exact connect_eq_some_iff.mpr (.inr ⟨apart, acts⟩)
  | disconnect live userNamed removed =>
      intro name other active named
      obtain ⟨apart, acts⟩ :=
        attended.removed unique live userNamed removed active named
      exact close_eq_some_iff.mpr ⟨apart, acts⟩
  | disconnectNobody live =>
      apply attended.close
      intro name acts
      rw [live] at acts
      cases acts
      rfl

end Sessions

namespace Server

variable {qsort : QSort} {server next : Server} {action : Action}

/-- A step keeps its handler, or is its first or its last. -/
theorem handlers_of_step
    {place : Nat} {handler : Handler}
    (stepped : step qsort server action = some next)
    (live : next.handlers place = some handler) :
    action ≠ .cleanUp place ∧
      ((∃ before, server.handlers place = some before) ∨
        action = .accept place) := by
  by_cases own : place = action.socket
  swap
  · rw [step_other stepped own] at live
    refine ⟨?_, .inl ⟨handler, live⟩⟩
    rintro rfl
    exact own rfl
  subst own
  obtain ⟨_, cases⟩ := step_iff.mp stepped
  cases cases with
  | accept socket free => exact ⟨by simp, .inr rfl⟩
  | receive socket request disk here stage => exact ⟨by simp, .inl ⟨_, here⟩⟩
  | verifyPassword socket reads here stage => exact ⟨by simp, .inl ⟨_, here⟩⟩
  | addSession socket here stage => exact ⟨by simp, .inl ⟨_, here⟩⟩
  | addUser socket writes here stage => exact ⟨by simp, .inl ⟨_, here⟩⟩
  | sendHeader socket sent here stage => exact ⟨by simp, .inl ⟨_, here⟩⟩
  | sendBody socket sent here stage => exact ⟨by simp, .inl ⟨_, here⟩⟩
  | hangUp socket here stage => exact ⟨by simp, .inl ⟨_, here⟩⟩
  | cleanUp socket here stage =>
      simp only [cleanUp, Action.socket, Function.update_self] at live
      cases live
  | peerCloses socket here => exact ⟨by simp, .inl ⟨_, here⟩⟩

/-- No password is being checked for a user that is logged in already. -/
def ChecksOnlyGuests (server : Server) : Prop :=
  ∀ socket handler request, server.handlers socket = some handler →
    handler.stage = .loginChecked request → handler.currentUser = .empty

theorem checksGuests_of_guests (guests : server.ChecksOnlyGuests) :
    server.sessions.ChecksGuests .empty (server.sessionEvent action) := by
  cases action with
  | receive socket request disk =>
      cases request with
      | logout =>
          simp only [sessionEvent]
          split
          · split
            · trivial
            · trivial
          · trivial
      | _ => trivial
  | verifyPassword socket reads =>
      simp only [sessionEvent]
      split
      · rename_i current request peerOpen live
        have guest : current = .empty := guests socket _ request live rfl
        have acts : server.sessions.connection socket =
            some ⟨.empty, false⟩ := by
          rw [sessions_connection live, Handler.connection, guest]
          rfl
        split
        · exact acts
        · exact acts
      · trivial
  | addSession socket =>
      simp only [sessionEvent]
      split
      · split
        · trivial
        · trivial
      · trivial
  | _ => trivial

end Server

namespace Deployment

variable {qsort : QSort} {sha256 : Sha256} {deployment next : Deployment}

/-- Every handler has a connection. -/
def Connected (deployment : Deployment) : Prop :=
  ∀ socket handler, deployment.server.handlers socket = some handler →
    ∃ link, deployment.links socket = some link

theorem links_setLink
    {socket place : Nat} {link : Link}
    (found : ∃ link, deployment.links place = some link) :
    ∃ found, (deployment.setLink socket link).links place = some found := by
  by_cases own : place = socket
  · subst own
    exact ⟨link, Function.update_self _ _ _⟩
  · obtain ⟨before, found⟩ := found
    exact ⟨before, (Function.update_of_ne own _ _).trans found⟩

theorem step_connected
    {action : DeploymentAction} (connected : deployment.Connected)
    (stepped : step qsort sha256 deployment action = some next) :
    next.Connected := by
  intro place handler live
  have before : ∀ {taken server},
      Server.step qsort deployment.server taken = some server →
        taken ≠ .accept place → server.handlers place = some handler →
          taken ≠ .cleanUp place ∧
            ∃ link, deployment.links place = some link := by
    intro taken server serverStepped notFirst live
    obtain ⟨notLast, ⟨handler, here⟩ | first⟩ :=
      Server.handlers_of_step serverStepped live
    · exact ⟨notLast, connected place handler here⟩
    · exact absurd first notFirst
  cases steps_of_step stepped with
  | accept id socket accepted taken joined accepts =>
      by_cases own : place = socket
      · subst own
        exact ⟨_, Function.update_self _ _ _⟩
      · have here := (Server.step_other accepts own).symm.trans live
        obtain ⟨link, found⟩ := connected place handler here
        exact ⟨link, (Function.update_of_ne own _ _).trans found⟩
  | refused id socket accepted taken unconnected =>
      exact connected place handler live
  | call id socket call load taken =>
      unfold send at live ⊢
      split at live
      · exact links_setLink (connected place handler live)
      · exact connected place handler live
  | «return» id socket outcome load taken delivers =>
      cases delivers with
      | answered awaits arrived sized read =>
          exact connected place handler live
      | interrupted failed signaled => exact connected place handler live
      | lost => exact connected place handler live
  | quiet id socket action quiet taken => exact connected place handler live
  | receive socket disk found underWay taken =>
      exact links_setLink (before taken (by simp) live).2
  | sendBody socket sent taken =>
      unfold serve at live ⊢
      split at live
      · exact links_setLink (before taken (by simp) live).2
      · exact (before taken (by simp) live).2
  | cleanUp socket taken =>
      obtain ⟨notLast, link, found⟩ := before taken (by simp) live
      refine ⟨link, (Function.update_of_ne ?_ _ _).trans found⟩
      rintro rfl
      exact notLast rfl
  | inner action inner taken =>
      refine (before taken ?_ live).2
      rintro rfl
      exact inner

/-! ## One login for each connection -/

/-- A password is checked for a client that asked for it as a guest. -/
theorem checksOnlyGuests_of_linked
    (linked : deployment.Linked) (connected : deployment.Connected) :
    deployment.server.ChecksOnlyGuests := by
  intro socket handler request live stage
  obtain ⟨link, found⟩ := connected socket handler live
  have busy : ¬deployment.Waits socket link.user := by
    rintro ⟨waiting, here, _, idle⟩
    rw [live] at here
    cases here
    rw [stage] at idle
    rcases idle with impossible | impossible
    · cases impossible
    · cases impossible
  have fits := linked.handlers socket link found
  unfold HandlerFits at fits
  split at fits
  · exact absurd fits busy
  · exact absurd fits.1 busy
  · obtain ⟨worker, here, works⟩ := fits
    rw [live] at here
    cases here
    rw [stage] at works
    generalize handler.currentUser = current at works
    cases works
    rfl

/-- Clients and handlers agree, and so do handlers and the table. -/
structure Tabled (deployment : Deployment) : Prop where
  linked : deployment.Linked
  connected : deployment.Connected
  unique : deployment.server.sessions.Unique .empty
  attended : deployment.server.sessions.Attended .empty

theorem step_tabled
    {action : DeploymentAction} (tabled : deployment.Tabled)
    (noRace : deployment.NoLoginRace action)
    (stepped : step qsort sha256 deployment action = some next) :
    next.Tabled := by
  constructor
  case linked => exact step_linked tabled.linked stepped
  case connected => exact step_connected tabled.connected stepped
  case unique => exact step_unique tabled.unique noRace stepped
  case attended =>
    rcases server_of_step stepped with same | ⟨taken, serverStepped, _⟩
    · rw [same]
      exact tabled.attended
    · apply tabled.attended.step tabled.unique _
        (Server.step_refines serverStepped)
      apply Server.checksGuests_of_guests
      exact checksOnlyGuests_of_linked tabled.linked tabled.connected

theorem tabled_start
    (users scores : DataFile) (wordlist : WordListResponse) :
    (start users scores wordlist).Tabled where
  linked := linked_start users scores wordlist
  connected := by
    intro socket handler live
    cases live
  unique := Server.unique_start
  attended := by
    intro user socket active
    simp [start, Server.start] at active

/-- Between the logins, the entries of the table are the connections with a
user. -/
theorem sessionTable_of_run
    {users scores : DataFile} {wordlist : WordListResponse}
    {actions : List DeploymentAction} {socket : Nat}
    {user : CharArray maxIdLen}
    (noRace : (step qsort sha256).Meets NoLoginRace
      (start users scores wordlist) actions)
    (ran : (step qsort sha256).run (start users scores wordlist) actions =
      some deployment)
    (named : user ≠ .empty) :
    (∃ entry ∈ deployment.server.loggedInUsers.entries,
        entry.isActive = true ∧ entry.username = user ∧
          entry.clientSock = socket) ↔
      ∃ handler, deployment.server.handlers socket = some handler ∧
        handler.currentUser = user ∧ handler.stage.verified = false := by
  have tabled : deployment.Tabled := by
    apply Machine.run_invariant Tabled _ (tabled_start users scores wordlist)
      noRace ran
    intro state action next tabled free stepped
    exact step_tabled tabled free stepped
  constructor
  · rintro ⟨entry, listed, active, rfl, rfl⟩
    have acts := tabled.attended entry.username entry.clientSock
      (LoggedInUsers.mem_sessionsOf.mpr ⟨entry, listed, active, rfl⟩) named
    obtain ⟨handler, live, same⟩ :=
      Server.sessions_connection_eq_some_iff.mp acts
    exact ⟨handler, live, congrArg Connection.user same,
      congrArg Connection.pending same⟩
  · rintro ⟨handler, live, rfl, unverified⟩
    have acts : deployment.server.sessions.connection socket =
        some ⟨handler.currentUser, false⟩ := by
      rw [Server.sessions_connection live, Handler.connection, unverified]
    obtain ⟨entry, listed, active, same⟩ :=
      LoggedInUsers.mem_sessionsOf.mp (tabled.unique.held acts named)
    exact ⟨entry, listed, active, congrArg Prod.fst same,
      congrArg Prod.snd same⟩

theorem sessionTable_of_bothEnter :
    ∃ deployment, (step .insertion sha256OfPw).run
        (start twoAccounts (some []) .empty) bothEnter = some deployment ∧
      ((∃ entry ∈ deployment.server.loggedInUsers.entries,
        entry.isActive = true ∧ entry.username = .store maxIdLen (text "amy") ∧
          entry.clientSock = 5) ↔
        ∃ handler, deployment.server.handlers 5 = some handler ∧
          handler.currentUser = .store maxIdLen (text "amy") ∧
            handler.stage.verified = false) := by
  obtain ⟨deployment, ran, _⟩ := Option.map_eq_some_iff.mp bothEnter_ran
  exact ⟨deployment, ran, sessionTable_of_run bothEnter_noRace ran (by decide)⟩

end Deployment

end RainTyping
