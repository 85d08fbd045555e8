import RainTyping.Network.Connections

/-!
# Whom the server serves

A client that is logged in, and has no request under way, is one to the server
under the same name.  As long as no two logins race for an account, no two
clients that the server serves are logged in under one name.
-/

namespace RainTyping

namespace Deployment

variable {qsort : QSort} {sha256 : Sha256} {deployment next : Deployment}
  {id other socket : Nat} {user : CharArray maxIdLen}

/-- The client has this user, has received no `SIGINT`, has no request under
way, and is still read from by the handler of the socket. -/
structure IsServed (deployment : Deployment) (id socket : Nat)
    (user : CharArray maxIdLen) : Prop where
  user : (deployment.clients id).userId = user
  quiet : (deployment.clients id).sigintReceived = false
  resting : ∀ function, ¬(deployment.clients id).Awaits function
  atEnd : ∃ link, deployment.AtEnd id socket link

/-! ## Client and handler -/

theorem Linked.waits_of_served
    (linked : deployment.Linked) (served : deployment.IsServed id socket user) :
    deployment.Waits socket user ∧ deployment.inboxes id = none := by
  obtain ⟨rfl, quiet, resting, link, atEnd⟩ := served
  have connected : (deployment.clients id).connected = true :=
    (linked.sockets id).mpr ⟨socket, atEnd.1⟩
  obtain ⟨inbox, ends⟩ := (linked.clients id connected quiet).atRest resting
  obtain ⟨idle, sameUser⟩ := ends socket link atEnd
  have fits := linked.handlers socket link atEnd.2.1
  simp only [HandlerFits, idle] at fits
  rw [← sameUser]
  exact ⟨fits, inbox⟩

/-- Whatever the clients and the handlers do, a handler whose client has no
request under way and no signal to follow waits for a request on behalf of that
client's user. -/
theorem waits_of_run
    {users scores : DataFile} {wordlist : WordListResponse}
    {actions : List DeploymentAction}
    (ran : (step qsort sha256).run (start users scores wordlist) actions =
      some deployment)
    (served : deployment.IsServed id socket user) :
    deployment.Waits socket user ∧ deployment.inboxes id = none :=
  (linked_of_run ran).waits_of_served served

/-! ## One client for each user -/

theorem server_of_step
    {action : DeploymentAction}
    (stepped : step qsort sha256 deployment action = some next) :
    next.server = deployment.server ∨
      ∃ taken, Server.step qsort deployment.server taken =
          some next.server ∧
        ((∃ id socket connects, action = .client id socket connects ∧
            taken = .accept socket) ∨ action = .server taken) := by
  cases steps_of_step stepped with
  | accept id socket accepted taken connected accepts =>
      exact .inr ⟨.accept socket, accepts, .inl ⟨id, socket, _, rfl, rfl⟩⟩
  | refused id socket accepted taken unconnected => exact .inl rfl
  | call id socket call load taken =>
      left
      unfold send
      split
      · rfl
      · rfl
  | «return» id socket outcome load taken delivers =>
      left
      cases delivers with
      | answered awaits arrived sized read => rfl
      | interrupted failed signaled => rfl
      | lost => rfl
  | quiet id socket action quiet taken => exact .inl rfl
  | receive socket disk found underWay taken =>
      exact .inr ⟨_, taken, .inr rfl⟩
  | sendBody socket sent taken =>
      refine .inr ⟨_, ?_, .inr rfl⟩
      unfold serve
      split
      · exact taken
      · exact taken
  | cleanUp socket taken => exact .inr ⟨_, taken, .inr rfl⟩
  | inner action inner taken => exact .inr ⟨_, taken, .inr rfl⟩

/-- No password is verified inside the login window of another handler. -/
def NoLoginRace (deployment : Deployment) : DeploymentAction → Prop
  | .client _ _ _ => True
  | .server action => deployment.server.NoLoginRace action

theorem step_unique
    {action : DeploymentAction}
    (unique : deployment.server.sessions.Unique .empty)
    (noRace : deployment.NoLoginRace action)
    (stepped : step qsort sha256 deployment action = some next) :
    next.server.sessions.Unique .empty := by
  rcases server_of_step stepped with
    same | ⟨taken, serverStepped, ⟨id, socket, connects, -, rfl⟩ | rfl⟩
  · rw [same]
    exact unique
  · apply Server.step_unique unique _ serverStepped
    apply Server.noLoginRace_of_quiet
    intro place user event
    cases event
  · exact Server.step_unique unique noRace serverStepped

/-- Clients that are served have different users. -/
theorem users_differ_of_run
    {users scores : DataFile} {wordlist : WordListResponse}
    {actions : List DeploymentAction} {place : Nat}
    {user' : CharArray maxIdLen}
    (noRace : (step qsort sha256).Meets NoLoginRace
      (start users scores wordlist) actions)
    (ran : (step qsort sha256).run (start users scores wordlist) actions =
      some deployment)
    (first : deployment.IsServed id socket user)
    (second : deployment.IsServed other place user')
    (named : user ≠ .empty) (apart : id ≠ other) :
    user ≠ user' := by
  rintro rfl
  have unique : deployment.server.sessions.Unique .empty := by
    apply Machine.run_invariant
      (fun state : Deployment => state.server.sessions.Unique .empty) _
      Server.unique_start noRace ran
    intro state action next unique free stepped
    exact step_unique unique free stepped
  obtain ⟨⟨handler, live, acts, _⟩, _⟩ := waits_of_run ran first
  obtain ⟨⟨rival, alsoLive, alsoActs, _⟩, _⟩ := waits_of_run ran second
  have samePlace : socket = place :=
    (Server.singleLogin_of_unique unique).handlers socket place handler rival
      live alsoLive (acts.trans alsoActs.symm) (by rw [acts]; exact named)
  subst samePlace
  obtain ⟨link, atEnd⟩ := first.atEnd
  obtain ⟨link', alsoAtEnd⟩ := second.atEnd
  exact apart (atEnd.client_eq alsoAtEnd)

/-! ## Two clients -/

/-- Only these sockets are in use, and a password is verified outside every
login window of theirs. -/
def raceFreeOn (sockets : List Nat) (deployment : Deployment) :
    DeploymentAction → Bool
  | .client _ socket _ => socket ∈ sockets
  | .server action =>
      action.socket ∈ sockets && deployment.server.raceFreeOn sockets action

theorem noLoginRace_of_raceFreeOn
    {sockets : List Nat} {actions : List DeploymentAction}
    (only : deployment.server.OnlyOn sockets)
    (free : (step qsort sha256).Meets
      (fun state action => raceFreeOn sockets state action = true)
      deployment actions) :
    (step qsort sha256).Meets NoLoginRace deployment actions := by
  apply Machine.Meets.strengthen
    (fun state : Deployment => state.server.OnlyOn sockets) _ _ only free
  · intro state action next only free stepped
    rcases server_of_step stepped with
      same | ⟨taken, serverStepped, ⟨id, socket, connects, rfl, rfl⟩ | rfl⟩
    · rw [same]
      exact only
    · have within : (Action.accept socket).socket ∈ sockets := by
        simpa [raceFreeOn, Action.socket] using free
      exact Server.step_onlyOn only within serverStepped
    · simp only [raceFreeOn, Bool.and_eq_true, decide_eq_true_eq] at free
      exact Server.step_onlyOn only free.1 serverStepped
  · intro state action only free
    cases action with
    | client id socket action => trivial
    | server action =>
        simp only [raceFreeOn, Bool.and_eq_true] at free
        exact Server.noLoginRace_of_raceFreeOn only free.2

/-- The hex digits of the hash of `pw`. -/
def pwHash : List UInt8 :=
  bytesToHex ((sha256OfPw (.ofBuffer (text "pw"))).elim [] Vector.toList)

def loginOf (name : String) : RequestFunction :=
  .sendLoginRequest (.ofBuffer (text name)) (.ofBuffer pwHash)

/-- The client logs in over the connection of this socket. -/
def enters (id socket : Nat) (name : String) : List DeploymentAction :=
  [.client id socket (.connect true),
    .client id socket (.authRound (.key 49 :: keysOf (text name) ++
      .key 10 :: (keysOf (text "pw") ++ [.key 10]))),
    .client id socket (.call (Client.statusCall (loginOf name) rfl) .succeed),
    .server (.receive socket (loginOf name).request .succeed),
    .server (.verifyPassword socket .succeed),
    .server (.addSession socket),
    .server (.sendHeader socket true),
    .server (.sendBody socket true),
    .client id socket (.return (.returns 0 (statusStruct ⟨true,
      messageFor "Login successful for '" (.ofBuffer (text name)) "'."⟩))
      .succeed),
    .client id socket (.key 32)]

def twoAccounts : DataFile :=
  some (text "bob:" ++ pwHash ++ text "\namy:" ++ pwHash ++ text "\n")

def bothEnter : List DeploymentAction :=
  enters 0 4 "bob" ++ enters 1 5 "amy"

/-- What can be seen of a client and its connection. -/
structure Standing where
  user : CharArray maxIdLen
  signaled : Bool
  point : ClientPoint
  socket : Option Nat
  link : Option Link
  deriving DecidableEq

def standing (deployment : Deployment) (id socket : Nat) : Standing where
  user := (deployment.clients id).userId
  signaled := (deployment.clients id).sigintReceived
  point := (deployment.clients id).point
  socket := deployment.sockets id
  link := deployment.links socket

/-- Behind a login, with nothing under way. -/
def Standing.inMenu (id socket : Nat) (user : CharArray maxIdLen) : Standing :=
  ⟨user, false, .menu, some socket, some ⟨id, user, 0, .idle⟩⟩

theorem isServed_of_inMenu
    (stands : deployment.standing id socket = .inMenu id socket user) :
    deployment.IsServed id socket user := by
  simp only [standing, Standing.inMenu, Standing.mk.injEq] at stands
  obtain ⟨sameUser, quiet, here, found, linked⟩ := stands
  refine ⟨sameUser, quiet, ?_, _, found, linked, rfl⟩
  intro function awaits
  rw [Client.Awaits, here] at awaits
  cases awaits

set_option maxRecDepth 40000 in
theorem bothEnter_ran :
    ((step .insertion sha256OfPw).run (start twoAccounts (some []) .empty)
      bothEnter).map (fun deployment =>
        (deployment.standing 0 4, deployment.standing 1 5)) =
      some (.inMenu 0 4 (.store maxIdLen (text "bob")),
        .inMenu 1 5 (.store maxIdLen (text "amy"))) := by
  rfl

set_option maxRecDepth 40000 in
private theorem bothEnter_raceFree :
    (step .insertion sha256OfPw).Meets
      (fun state action => raceFreeOn [4, 5] state action = true)
      (start twoAccounts (some []) .empty) bothEnter := by
  decide

theorem bothEnter_noRace :
    (step .insertion sha256OfPw).Meets NoLoginRace
      (start twoAccounts (some []) .empty) bothEnter :=
  noLoginRace_of_raceFreeOn (fun _ _ => rfl) bothEnter_raceFree

theorem waits_of_bothEnter :
    ∃ deployment, (step .insertion sha256OfPw).run
        (start twoAccounts (some []) .empty) bothEnter = some deployment ∧
      deployment.Waits 4 (.store maxIdLen (text "bob")) ∧
        deployment.inboxes 0 = none := by
  obtain ⟨deployment, ran, seen⟩ := Option.map_eq_some_iff.mp bothEnter_ran
  rw [Prod.mk.injEq] at seen
  exact ⟨deployment, ran, waits_of_run ran (isServed_of_inMenu seen.1)⟩

theorem users_differ_of_bothEnter :
    ∃ deployment, (step .insertion sha256OfPw).run
        (start twoAccounts (some []) .empty) bothEnter = some deployment ∧
      deployment.IsServed 0 4 (.store maxIdLen (text "bob")) ∧
        deployment.IsServed 1 5 (.store maxIdLen (text "amy")) ∧
          (CharArray.store maxIdLen (text "bob") : CharArray maxIdLen) ≠
            .store maxIdLen (text "amy") := by
  obtain ⟨deployment, ran, seen⟩ := Option.map_eq_some_iff.mp bothEnter_ran
  rw [Prod.mk.injEq] at seen
  have first := isServed_of_inMenu seen.1
  have second := isServed_of_inMenu seen.2
  exact ⟨deployment, ran, first, second,
    users_differ_of_run bothEnter_noRace ran first second (by decide) (by decide)⟩

end Deployment

end RainTyping
