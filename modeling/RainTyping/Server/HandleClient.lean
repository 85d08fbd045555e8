import RainTyping.Server.AuthManager
import RainTyping.Server.LoggedInUsers
import RainTyping.Server.ScoreManager
import RainTyping.Support.Runs

/-!
# The server as a machine

Each connection has a handler thread that runs `handle_client`.  A step takes
one handler to the end of its next critical section, or to the end of its next
`send`, and includes the code up to the following one, which touches nothing
but the handler's own variables.  A request that needs two critical sections
leaves its handler at a `Stage` in between, where any other handler may act.
What the disk and the sockets answer is part of the action.
-/

namespace RainTyping

/-! ## Requests and responses -/

/-- A request with the fields of its body; `none` when there is no body. -/
inductive Request where
  | register (body : Option Credentials)
  | login (body : Option Credentials)
  | scoreSubmit (body : Option Int32)
  | leaderboard
  | wordlist
  | logout
  | unknown (type : Int32)
  deriving DecidableEq

inductive Response where
  | register (status : StatusResponse)
  | login (status : StatusResponse)
  | scoreSubmit (status : StatusResponse)
  | leaderboard (response : LeaderboardResponse)
  | wordlist (response : WordListResponse)
  | logout (status : StatusResponse)
  | error (message : Message)
  deriving DecidableEq

/-- What the disk answers during one request. -/
structure DiskCalls where
  reads : ReadCalls
  writes : WriteCalls
  deriving DecidableEq

def DiskCalls.succeed : DiskCalls :=
  ⟨.succeed, .succeed⟩

/-! ## Signals -/

inductive Signal where
  | sigint
  | sigterm
  | sigpipe
  deriving DecidableEq

inductive Disposition where
  | default
  | handled
  | ignored
  deriving DecidableEq

/-- The dispositions after the signal setup of `main`. -/
def serverSignals : Signal → Disposition
  | .sigint => .handled
  | .sigterm => .handled
  | .sigpipe => .default

/-! ## The state -/

/-- Where a handler stands between two of its steps. -/
inductive Stage where
  /-- In `recv_all` for the next header. -/
  | receiving
  /-- `is_user_already_logged_in` has answered `-1`. -/
  | loginChecked (request : Option Credentials)
  /-- `login_user_impl` has accepted the password with this message. -/
  | loginVerified (message : Message)
  /-- `find_user_in_file` has not found the new user. -/
  | registerSearched (newUser : UserData)
  | sendingHeader (response : Response)
  | sendingBody (response : Response)
  /-- Out of the loop, before the cleanup. -/
  | leaving
  deriving DecidableEq

structure Handler where
  currentUser : CharArray maxIdLen
  stage : Stage
  /-- The peer has not closed its end. -/
  peerOpen : Bool
  deriving DecidableEq

structure Server where
  users : DataFile
  scores : DataFile
  wordlist : WordListResponse
  loggedInUsers : LoggedInUsers
  /-- The handler of each open client socket. -/
  handlers : Nat → Option Handler
  /-- The process has not been killed. -/
  alive : Bool
  /-- The registrations answered with success so far. -/
  accepted : List UserData

inductive Action where
  | accept (socket : Nat)
  | receive (socket : Nat) (request : Request) (disk : DiskCalls)
  | verifyPassword (socket : Nat) (reads : ReadCalls)
  | addSession (socket : Nat)
  | addUser (socket : Nat) (writes : WriteCalls)
  | sendHeader (socket : Nat) (sent : Bool)
  | sendBody (socket : Nat) (sent : Bool)
  /-- `recv_all` fails, the header is refused, or there is no memory. -/
  | hangUp (socket : Nat)
  | cleanUp (socket : Nat)
  | peerCloses (socket : Nat)
  deriving DecidableEq

def Action.socket : Action → Nat
  | .accept socket => socket
  | .receive socket _ _ => socket
  | .verifyPassword socket _ => socket
  | .addSession socket => socket
  | .addUser socket _ => socket
  | .sendHeader socket _ => socket
  | .sendBody socket _ => socket
  | .hangUp socket => socket
  | .cleanUp socket => socket
  | .peerCloses socket => socket

namespace Server

/-- The server when `main` enters its `accept` loop. -/
def start (users scores : DataFile) (wordlist : WordListResponse) : Server where
  users := users
  scores := scores
  wordlist := wordlist
  loggedInUsers := initLoggedInUsers
  handlers := fun _ => none
  alive := true
  accepted := []

def setHandler (server : Server) (socket : Nat) (handler : Handler) : Server :=
  { server with handlers := Function.update server.handlers socket handler }

/-- Continue with `send_response`. -/
def respond (server : Server) (socket : Nat) (handler : Handler)
    (response : Response) : Server :=
  server.setHandler socket { handler with stage := .sendingHeader response }

/-- A null pointer is dereferenced. -/
def crash (server : Server) : Server :=
  { server with alive := false }

/-! ## The steps of a handler -/

/-- Up to the end of `is_user_already_logged_in`.  Without a body the scan
compares a null pointer with the name of the first active entry. -/
def receiveLogin (server : Server) (socket : Nat) (handler : Handler) :
    Option Credentials → Server
  | none =>
      if server.loggedInUsers.entries.any LoggedInUser.isActive then
        server.crash
      else server.setHandler socket { handler with stage := .loginChecked none }
  | some credentials =>
      if isUserAlreadyLoggedIn server.loggedInUsers
          credentials.username = none then
        server.setHandler socket
          { handler with stage := .loginChecked credentials }
      else
        server.respond socket handler
          (.login ⟨false,
            message (text "이 ID는 이미 다른 세션에서 로그인 중입니다.")⟩)

def receiveRegister (server : Server) (socket : Nat) (handler : Handler)
    (reads : ReadCalls) (body : Option Credentials) : Server :=
  match registerUserSearch reads server.users
      (body.map Credentials.username) (body.map Credentials.password) with
  | .refused message =>
      server.respond socket handler (.register ⟨false, message⟩)
  | .absent newUser =>
      server.setHandler socket
        { handler with stage := .registerSearched newUser }

def receiveScoreSubmit (server : Server) (socket : Nat) (handler : Handler)
    (writes : WriteCalls) (body : Option Int32) : Server :=
  if handler.currentUser.strlen = 0 then
    server.respond socket handler
      (.scoreSubmit ⟨false,
        message (text "Not logged in. Cannot submit score.")⟩)
  else
    match body with
    | none => server.crash
    | some score =>
        let (response, scores) := submitScoreImpl writes server.scores
          handler.currentUser.toCString score
        { server with scores := scores }.respond socket handler
          (.scoreSubmit response)

def receiveLogout (server : Server) (socket : Nat) (handler : Handler) :
    Server :=
  if handler.currentUser.strlen > 0 then
    { server with
      loggedInUsers :=
        removeLoggedInUser server.loggedInUsers handler.currentUser }.respond
      socket { handler with currentUser := .empty }
      (.logout ⟨true, message (text "Logged out successfully.")⟩)
  else
    server.respond socket handler
      (.logout ⟨false, message (text "Not logged in, cannot log out.")⟩)

/-- From a received request to the end of its first critical section. -/
def receive (qsort : QSort) (server : Server) (socket : Nat)
    (handler : Handler) (request : Request) (disk : DiskCalls) : Server :=
  match request with
  | .register body => server.receiveRegister socket handler disk.reads body
  | .login body => server.receiveLogin socket handler body
  | .scoreSubmit body =>
      server.receiveScoreSubmit socket handler disk.writes body
  | .leaderboard =>
      server.respond socket handler
        (.leaderboard (getLeaderboardImpl qsort disk.reads server.scores
          maxLeaderboardEntries))
  | .wordlist => server.respond socket handler (.wordlist server.wordlist)
  | .logout => server.receiveLogout socket handler
  | .unknown type =>
      server.respond socket handler
        (.error (message (text "Unknown or unsupported message type: " ++
          Decimal.printInt type.toInt)))

/-- `login_user_impl` of a LOGIN request. -/
def loginOutcome (server : Server) (reads : ReadCalls)
    (request : Option Credentials) : LoginOutcome :=
  loginUserImpl reads server.users
    (request.map Credentials.username) (request.map Credentials.password)

def verifyPassword (server : Server) (socket : Nat) (handler : Handler)
    (reads : ReadCalls) (request : Option Credentials) : Server :=
  let outcome := server.loginOutcome reads request
  if outcome.response.success then
    server.setHandler socket
      { handler with
        currentUser := outcome.loggedInUser
        stage := .loginVerified outcome.response.message }
  else
    server.respond socket { handler with currentUser := .empty }
      (.login outcome.response)

def addSession (server : Server) (socket : Nat) (handler : Handler)
    (accepted : Message) : Server :=
  let (added, table) :=
    addLoggedInUser server.loggedInUsers handler.currentUser socket
  if added then
    { server with loggedInUsers := table }.respond socket handler
      (.login ⟨true, accepted⟩)
  else
    server.respond socket { handler with currentUser := .empty }
      (.login ⟨false, message
        (text "서버 로그인 제한에 도달했습니다. 나중에 다시 시도하세요.")⟩)

def addUser (server : Server) (socket : Nat) (handler : Handler)
    (writes : WriteCalls) (newUser : UserData) : Server :=
  let (response, users) := registerUserAppend writes server.users newUser
  { server with
    users := users
    accepted :=
      if response.success then server.accepted ++ [newUser]
      else server.accepted }.respond socket handler (.register response)

/-- `send_all`.  To a peer that is gone it raises `SIGPIPE`, which kills the
process unless the program has changed the disposition, and fails.  Here a peer
is gone as soon as it closes; TCP accepts one more `send` before that. -/
def sendAll (server : Server) (socket : Nat) (handler : Handler)
    (sent : Bool) (next : Stage) : Server :=
  if handler.peerOpen then
    server.setHandler socket
      { handler with stage := if sent then next else .leaving }
  else
    match serverSignals .sigpipe with
    | .default => { server with alive := false }
    | _ => server.setHandler socket { handler with stage := .leaving }

/-- The code behind the loop of `handle_client`. -/
def cleanUp (server : Server) (socket : Nat) (handler : Handler) : Server :=
  { server with
    loggedInUsers :=
      if handler.currentUser.strlen > 0 then
        removeLoggedInUser server.loggedInUsers handler.currentUser
      else server.loggedInUsers
    handlers := Function.update server.handlers socket none }

/-- The step a live handler takes for an action, if the action fits its
stage. -/
def stepHandler (qsort : QSort) (server : Server) (handler : Handler)
    (action : Action) : Option Server :=
  match action, handler.stage with
  | .receive socket request disk, .receiving =>
      some (server.receive qsort socket handler request disk)
  | .verifyPassword socket reads, .loginChecked request =>
      some (server.verifyPassword socket handler reads request)
  | .addSession socket, .loginVerified accepted =>
      some (server.addSession socket handler accepted)
  | .addUser socket writes, .registerSearched newUser =>
      some (server.addUser socket handler writes newUser)
  | .sendHeader socket sent, .sendingHeader response =>
      some (server.sendAll socket handler sent (.sendingBody response))
  | .sendBody socket sent, .sendingBody _ =>
      some (server.sendAll socket handler sent .receiving)
  | .hangUp socket, .receiving =>
      some (server.setHandler socket { handler with stage := .leaving })
  | .cleanUp socket, .leaving => some (server.cleanUp socket handler)
  | .peerCloses socket, _ =>
      some (server.setHandler socket { handler with peerOpen := false })
  | _, _ => none

def step (qsort : QSort) : Machine Server Action :=
  fun server action =>
    if server.alive then
      match action, server.handlers action.socket with
      | .accept socket, none =>
          some (server.setHandler socket ⟨.empty, .receiving, true⟩)
      | .accept _, some _ => none
      | action, some handler => server.stepHandler qsort handler action
      | _, none => none
    else none

section Equations

-- The equations of these functions are derived here, for all that unfold them.
attribute [local simp] step stepHandler receive receiveLogin receiveRegister
  receiveScoreSubmit receiveLogout verifyPassword addSession addUser sendAll
  cleanUp respond setHandler crash Action.socket loginOutcome

end Equations

/-! ## The steps case by case -/

/-- The steps of a running server as a relation. -/
inductive Steps (qsort : QSort) (server : Server) : Action → Server → Prop where
  | accept (socket) (free : server.handlers socket = none) :
      Steps qsort server (.accept socket)
        (server.setHandler socket ⟨.empty, .receiving, true⟩)
  | receive (socket request disk)
      (live : server.handlers socket = some handler)
      (stage : handler.stage = .receiving) :
      Steps qsort server (.receive socket request disk)
        (server.receive qsort socket handler request disk)
  | verifyPassword (socket reads)
      (live : server.handlers socket = some handler)
      (stage : handler.stage = .loginChecked request) :
      Steps qsort server (.verifyPassword socket reads)
        (server.verifyPassword socket handler reads request)
  | addSession (socket)
      (live : server.handlers socket = some handler)
      (stage : handler.stage = .loginVerified verified) :
      Steps qsort server (.addSession socket)
        (server.addSession socket handler verified)
  | addUser (socket writes)
      (live : server.handlers socket = some handler)
      (stage : handler.stage = .registerSearched newUser) :
      Steps qsort server (.addUser socket writes)
        (server.addUser socket handler writes newUser)
  | sendHeader (socket sent)
      (live : server.handlers socket = some handler)
      (stage : handler.stage = .sendingHeader response) :
      Steps qsort server (.sendHeader socket sent)
        (server.sendAll socket handler sent (.sendingBody response))
  | sendBody (socket sent)
      (live : server.handlers socket = some handler)
      (stage : handler.stage = .sendingBody response) :
      Steps qsort server (.sendBody socket sent)
        (server.sendAll socket handler sent .receiving)
  | hangUp (socket)
      (live : server.handlers socket = some handler)
      (stage : handler.stage = .receiving) :
      Steps qsort server (.hangUp socket)
        (server.setHandler socket { handler with stage := .leaving })
  | cleanUp (socket)
      (live : server.handlers socket = some handler)
      (stage : handler.stage = .leaving) :
      Steps qsort server (.cleanUp socket) (server.cleanUp socket handler)
  | peerCloses (socket)
      (live : server.handlers socket = some handler) :
      Steps qsort server (.peerCloses socket)
        (server.setHandler socket { handler with peerOpen := false })

variable {qsort : QSort} {server next : Server} {action : Action}

theorem step_iff :
    step qsort server action = some next ↔
      server.alive = true ∧ Steps qsort server action next := by
  constructor
  · intro stepped
    unfold step at stepped
    split at stepped
    · rename_i alive
      refine ⟨alive, ?_⟩
      split at stepped
      · rename_i socket free
        cases stepped
        exact .accept socket free
      · cases stepped
      · rename_i handler notAccept live
        clear notAccept
        unfold stepHandler at stepped
        split at stepped
        · rename_i stage
          cases stepped
          exact .receive _ _ _ live stage
        · rename_i stage
          cases stepped
          exact .verifyPassword _ _ live stage
        · rename_i stage
          cases stepped
          exact .addSession _ live stage
        · rename_i stage
          cases stepped
          exact .addUser _ _ live stage
        · rename_i stage
          cases stepped
          exact .sendHeader _ _ live stage
        · rename_i stage
          cases stepped
          exact .sendBody _ _ live stage
        · rename_i stage
          cases stepped
          exact .hangUp _ live stage
        · rename_i stage
          cases stepped
          exact .cleanUp _ live stage
        · cases stepped
          exact .peerCloses _ live
        · cases stepped
      · cases stepped
    · cases stepped
  · rintro ⟨alive, stepped⟩
    cases stepped with
    | accept socket free => simp [step, alive, Action.socket, free]
    | receive socket request disk live stage =>
        simp [step, alive, Action.socket, live, stepHandler, stage]
    | verifyPassword socket reads live stage =>
        simp [step, alive, Action.socket, live, stepHandler, stage]
    | addSession socket live stage =>
        simp [step, alive, Action.socket, live, stepHandler, stage]
    | addUser socket writes live stage =>
        simp [step, alive, Action.socket, live, stepHandler, stage]
    | sendHeader socket sent live stage =>
        simp [step, alive, Action.socket, live, stepHandler, stage]
    | sendBody socket sent live stage =>
        simp [step, alive, Action.socket, live, stepHandler, stage]
    | hangUp socket live stage =>
        simp [step, alive, Action.socket, live, stepHandler, stage]
    | cleanUp socket live stage =>
        simp [step, alive, Action.socket, live, stepHandler, stage]
    | peerCloses socket live =>
        simp [step, alive, Action.socket, live, stepHandler]

variable {socket other : Nat} {handler : Handler}

/-! ## The steps of an accepted login -/

theorem step_receive_login
    {credentials : Credentials} {disk : DiskCalls}
    (alive : server.alive = true)
    (live : server.handlers socket = some handler)
    (stage : handler.stage = .receiving)
    (absent : isUserAlreadyLoggedIn server.loggedInUsers
      credentials.username = none) :
    step qsort server (.receive socket (.login credentials) disk) =
      some (server.setHandler socket
        { handler with stage := .loginChecked credentials }) := by
  have stepped : Steps qsort server
      (.receive socket (.login credentials) disk) _ :=
    .receive socket _ disk live stage
  rw [step_iff.mpr ⟨alive, stepped⟩, receive, receiveLogin, if_pos absent]

theorem step_verifyPassword
    {request : Option Credentials} {reads : ReadCalls}
    {user : CharArray maxIdLen} {peerOpen : Bool}
    (alive : server.alive = true)
    (live : server.handlers socket =
      some ⟨user, .loginChecked request, peerOpen⟩)
    (success : (server.loginOutcome reads request).response.success = true) :
    step qsort server (.verifyPassword socket reads) =
      some (server.setHandler socket
        ⟨(server.loginOutcome reads request).loggedInUser,
          .loginVerified
            (server.loginOutcome reads request).response.message,
          peerOpen⟩) := by
  have stepped : Steps qsort server (.verifyPassword socket reads) _ :=
    .verifyPassword socket reads live rfl
  rw [step_iff.mpr ⟨alive, stepped⟩, verifyPassword, if_pos success]

theorem step_addSession
    {verified : Message} {user : CharArray maxIdLen} {peerOpen : Bool}
    (alive : server.alive = true)
    (live : server.handlers socket =
      some ⟨user, .loginVerified verified, peerOpen⟩)
    (added : (addLoggedInUser server.loggedInUsers user socket).1 = true) :
    step qsort server (.addSession socket) =
      some (setHandler
        { server with
          loggedInUsers := (addLoggedInUser server.loggedInUsers user
            socket).2 }
        socket ⟨user, .sendingHeader (.login ⟨true, verified⟩), peerOpen⟩) := by
  have stepped : Steps qsort server (.addSession socket) _ :=
    .addSession socket live rfl
  simp only [step_iff.mpr ⟨alive, stepped⟩, addSession, added, ↓reduceIte,
    respond]

/-! ## The two `send` calls of a response -/

theorem step_sendHeader
    {user : CharArray maxIdLen} {response : Response}
    (alive : server.alive = true)
    (live : server.handlers socket =
      some ⟨user, .sendingHeader response, true⟩) :
    step qsort server (.sendHeader socket true) =
      some (server.setHandler socket ⟨user, .sendingBody response, true⟩) :=
  step_iff.mpr ⟨alive, .sendHeader socket true live rfl⟩

theorem step_sendBody
    {user : CharArray maxIdLen} {response : Response}
    (alive : server.alive = true)
    (live : server.handlers socket =
      some ⟨user, .sendingBody response, true⟩) :
    step qsort server (.sendBody socket true) =
      some (server.setHandler socket ⟨user, .receiving, true⟩) :=
  step_iff.mpr ⟨alive, .sendBody socket true live rfl⟩

/-! ## What a step leaves alone -/

@[simp] theorem setHandler_self :
    (server.setHandler socket handler).handlers socket = some handler :=
  Function.update_self _ _ _

@[simp] theorem respond_self {response : Response} :
    (server.respond socket handler response).handlers socket =
      some { handler with stage := .sendingHeader response } :=
  setHandler_self

@[simp] theorem setHandler_setHandler {changed : Handler} :
    (server.setHandler socket handler).setHandler socket changed =
      server.setHandler socket changed := by
  simp [setHandler]

theorem setHandler_other (apart : other ≠ socket) :
    (server.setHandler socket handler).handlers other =
      server.handlers other := by
  simp [setHandler, apart]

theorem respond_other {response : Response} (apart : other ≠ socket) :
    (server.respond socket handler response).handlers other =
      server.handlers other :=
  setHandler_other apart

private theorem receive_other
    {request : Request} {disk : DiskCalls} (apart : other ≠ socket) :
    (server.receive qsort socket handler request disk).handlers other =
      server.handlers other := by
  cases request with
  | register body =>
      simp only [receive, receiveRegister]
      split
      · exact respond_other apart
      · exact setHandler_other apart
  | login body =>
      cases body with
      | none =>
          simp only [receive, receiveLogin]
          split
          · rfl
          · exact setHandler_other apart
      | some credentials =>
          simp only [receive, receiveLogin]
          split
          · exact setHandler_other apart
          · exact respond_other apart
  | scoreSubmit body =>
      simp only [receive, receiveScoreSubmit]
      split
      · exact respond_other apart
      · split
        · rfl
        · exact respond_other apart
  | leaderboard => exact respond_other apart
  | wordlist => exact respond_other apart
  | logout =>
      simp only [receive, receiveLogout]
      split
      · exact respond_other apart
      · exact respond_other apart
  | unknown type => exact respond_other apart

private theorem sendAll_other
    {sent : Bool} {later : Stage} (apart : other ≠ socket) :
    (server.sendAll socket handler sent later).handlers other =
      server.handlers other := by
  unfold sendAll
  split
  · exact setHandler_other apart
  · rfl

theorem step_other
    (stepped : step qsort server action = some next)
    (apart : other ≠ action.socket) :
    next.handlers other = server.handlers other := by
  obtain ⟨_, cases⟩ := step_iff.mp stepped
  cases cases with
  | accept socket free => exact setHandler_other apart
  | receive socket request disk live stage => exact receive_other apart
  | verifyPassword socket reads live stage =>
      rw [verifyPassword]
      split
      · exact setHandler_other apart
      · exact respond_other apart
  | addSession socket live stage =>
      simp only [addSession]
      split
      · exact respond_other apart
      · exact respond_other apart
  | addUser socket writes live stage => exact respond_other apart
  | sendHeader socket sent live stage => exact sendAll_other apart
  | sendBody socket sent live stage => exact sendAll_other apart
  | hangUp socket live stage => exact setHandler_other apart
  | cleanUp socket live stage =>
      exact Function.update_of_ne apart none server.handlers
  | peerCloses socket live => exact setHandler_other apart

theorem run_other
    {actions : List Action} (own : ∀ action ∈ actions, action.socket = socket)
    (ran : (step qsort).run server actions = some next)
    (apart : other ≠ socket) :
    next.handlers other = server.handlers other := by
  induction actions generalizing server with
  | nil =>
      cases ran
      rfl
  | cons action actions induction =>
      obtain ⟨middle, stepped, rest⟩ := Machine.run_cons_eq_some_iff.mp ran
      have isOwn := own action List.mem_cons_self
      have later := induction
        (fun action member => own action (List.mem_cons_of_mem _ member)) rest
      rw [later]
      exact step_other stepped (isOwn ▸ apart)

end Server

end RainTyping
