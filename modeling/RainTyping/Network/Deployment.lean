import RainTyping.Client.ClientSteps
import RainTyping.Server.HandleClient

/-!
# The server and its clients

Any number of client programs and the server, with a connection between a
client and a handler.  The client sends its requests over it one after
another; the handler takes a request when it has come, and its response waits
at the client until the request function returns.  The steps of the clients
and of all handlers are interleaved in any order, and a connection may be lost
at any time.
-/

namespace RainTyping

/-- Where a handler stands with the requests of its client. -/
inductive Traffic where
  | idle
  /-- The request is on its way. -/
  | requested (function : RequestFunction)
  | handling (function : RequestFunction)
  deriving DecidableEq

/-- What becomes of a connection, with the client at its other end. -/
structure Link where
  client : Nat
  /-- The user of the handler behind its last response. -/
  user : CharArray maxIdLen
  /-- The games the client had finished when it sent its last request. -/
  games : Nat
  traffic : Traffic
  deriving DecidableEq

structure Deployment where
  server : Server
  clients : Nat → Client
  /-- The server's socket for the connection of a client. -/
  sockets : Nat → Option Nat
  /-- The connection of each handler. -/
  links : Nat → Option Link
  /-- The response that has come to a client. -/
  inboxes : Nat → Option Response

inductive DeploymentAction where
  /-- `socket` is the server's number of the connection it accepts. -/
  | client (id socket : Nat) (action : ClientAction)
  | server (action : Action)

/-- The steps of the server that leave the connections alone. -/
def Action.IsInner : Action → Prop
  | .accept _ => False
  | .receive _ _ _ => False
  | .sendBody _ _ => False
  | .cleanUp _ => False
  | _ => True

namespace Deployment

def start (users scores : DataFile) (wordlist : WordListResponse) :
    Deployment where
  server := .start users scores wordlist
  clients := fun _ => .start
  sockets := fun _ => none
  links := fun _ => none
  inboxes := fun _ => none

/-- The handler of this connection reads from the client. -/
def AtEnd (deployment : Deployment) (id socket : Nat) (link : Link) : Prop :=
  deployment.sockets id = some socket ∧
    deployment.links socket = some link ∧ link.client = id

/-- The connection of a client, unless the server has closed it. -/
def connection (deployment : Deployment) (id : Nat) : Option (Nat × Link) :=
  (deployment.sockets id).bind fun socket =>
    (deployment.links socket).bind fun link =>
      if link.client = id then some (socket, link) else none

def setLink (deployment : Deployment) (socket : Nat) (link : Link) :
    Deployment :=
  { deployment with
    links := Function.update deployment.links socket (some link) }

/-- The client has taken a step; a closed socket is forgotten. -/
def setClient (deployment : Deployment) (id : Nat) (client : Client) :
    Deployment :=
  { deployment with
    clients := Function.update deployment.clients id client
    sockets :=
      if client.connected then deployment.sockets
      else Function.update deployment.sockets id none }

/-! ## The steps of a client -/

/-- The server accepts the connection. -/
def accept (deployment : Deployment) (id socket : Nat) (client : Client)
    (server : Server) : Deployment where
  server := server
  clients := Function.update deployment.clients id client
  sockets := Function.update deployment.sockets id (some socket)
  links := Function.update deployment.links socket
    (some ⟨id, .empty, 0, .idle⟩)
  inboxes := Function.update deployment.inboxes id none

/-- The request is on its way if the server has not closed the connection. -/
def send (deployment : Deployment) (id : Nat) (client : Client) :
    Deployment :=
  match client.point, deployment.connection id with
  | .awaiting function, some (socket, link) =>
      deployment.setLink socket
        { link with
          games := client.games.length
          traffic := .requested function }
  | _, _ => deployment

/-- What lets a request function return: the response that has come, a lost
connection, or `sigint_received`. -/
def deliver (deployment : Deployment) (id : Nat) (outcome : CallOutcome) :
    Option Deployment :=
  match (deployment.clients id).point, outcome with
  | .awaiting function, .returns code response =>
      if code = 0 then
        match deployment.inboxes id with
        | some arrived =>
            if response.length = function.responseBodyMaxLen ∧
                readResponse function.expectedRespType response =
                  some arrived then
              some { deployment with
                inboxes := Function.update deployment.inboxes id none }
            else none
        | none => none
      else if (deployment.clients id).sigintReceived then some deployment
      else none
  | _, .disconnects _ _ => some deployment
  | _, _ => none

def clientStep (qsort : QSort) (sha256 : Sha256) (deployment : Deployment)
    (id socket : Nat) (action : ClientAction) : Option Deployment :=
  (Client.step sha256 (deployment.clients id) action).bind fun client =>
    match action with
    | .connect _ =>
        if client.connected then
          (Server.step qsort deployment.server (.accept socket)).map
            fun server => deployment.accept id socket client server
        else some (deployment.setClient id client)
    | .call _ _ => some ((deployment.setClient id client).send id client)
    | .return outcome _ =>
        (deployment.deliver id outcome).map fun deployment =>
          deployment.setClient id client
    | _ => some (deployment.setClient id client)

/-! ## The steps of the server -/

/-- The handler takes a request that has come. -/
def receive (deployment : Deployment) (socket : Nat) (request : Request) :
    Option Deployment :=
  match deployment.links socket with
  | some link =>
      match link.traffic with
      | .requested function =>
          if function.request = request then
            some (deployment.setLink socket
              { link with traffic := .handling function })
          else none
      | _ => none
  | none => none

/-- The handler has sent its response to the end. -/
def respond (deployment : Deployment) (socket : Nat) (link : Link)
    (user : CharArray maxIdLen) (response : Response) : Deployment :=
  { deployment.setLink socket { link with user := user, traffic := .idle } with
    inboxes :=
      if deployment.sockets link.client = some socket then
        Function.update deployment.inboxes link.client (some response)
      else deployment.inboxes }

/-- What the step of the handler does to its connection. -/
def serve (before deployment : Deployment) (socket : Nat) : Deployment :=
  match before.server.handlers socket, deployment.server.handlers socket,
      deployment.links socket with
  | some ⟨_, .sendingBody response, _⟩, some ⟨user, .receiving, _⟩,
      some link =>
      deployment.respond socket link user response
  | _, _, _ => deployment

/-- The client has closed its end. -/
def IsGone (deployment : Deployment) (socket : Nat) : Prop :=
  ∀ link ∈ deployment.links socket, deployment.sockets link.client ≠ some socket

instance (deployment : Deployment) (socket : Nat) :
    Decidable (deployment.IsGone socket) := by
  unfold IsGone
  cases deployment.links socket with
  | none => exact isTrue (by simp)
  | some link =>
      exact decidable_of_iff (deployment.sockets link.client ≠ some socket)
        (by simp)

def serverStep (qsort : QSort) (deployment : Deployment) (action : Action) :
    Option Deployment :=
  (Server.step qsort deployment.server action).bind fun server =>
    let next := { deployment with server := server }
    match action with
    | .accept _ => none
    | .receive socket request _ => next.receive socket request
    | .sendBody socket _ => some (serve deployment next socket)
    | .peerCloses socket =>
        if deployment.IsGone socket then some next else none
    | .cleanUp socket =>
        some { next with
          links := Function.update deployment.links socket none }
    | _ => some next

def step (qsort : QSort) (sha256 : Sha256) :
    Machine Deployment DeploymentAction :=
  fun deployment action =>
    match action with
    | .client id socket action =>
        deployment.clientStep qsort sha256 id socket action
    | .server action => deployment.serverStep qsort action

/-! ## The steps case by case -/

/-- The response that has come is taken out of the inbox. -/
def takeInbox (deployment : Deployment) (id : Nat) : Deployment :=
  { deployment with
    inboxes := Function.update deployment.inboxes id none }

/-- What lets a request function return. -/
inductive Delivers (deployment : Deployment) (id : Nat) :
    CallOutcome → Deployment → Prop where
  | answered
      (awaits : (deployment.clients id).Awaits function)
      (arrived : deployment.inboxes id = some response)
      (sized : memory.length = function.responseBodyMaxLen)
      (read : readResponse function.expectedRespType memory = some response) :
      Delivers deployment id (.returns 0 memory) (deployment.takeInbox id)
  | interrupted (failed : code ≠ 0)
      (signaled : (deployment.clients id).sigintReceived = true) :
      Delivers deployment id (.returns code memory) deployment
  | lost : Delivers deployment id (.disconnects code memory) deployment

theorem delivers_of_deliver
    {deployment next : Deployment} {id : Nat} {outcome : CallOutcome}
    (delivered : deployment.deliver id outcome = some next) :
    deployment.Delivers id outcome next := by
  unfold deliver at delivered
  split at delivered
  · rename_i function code memory awaits
    split at delivered
    · rename_i success
      subst success
      split at delivered
      · rename_i response arrived
        split at delivered
        · rename_i read
          cases delivered
          exact .answered awaits arrived read.1 read.2
        · cases delivered
      · cases delivered
    · rename_i failed
      split at delivered
      · rename_i signaled
        cases delivered
        exact .interrupted failed signaled
      · cases delivered
  · cases delivered
    exact .lost
  · cases delivered

/-- The steps of a deployment as a relation. -/
inductive Steps (qsort : QSort) (sha256 : Sha256) (deployment : Deployment) :
    DeploymentAction → Deployment → Prop where
  | accept {client : Client} {later : Server} (id socket accepted)
      (taken : Client.step sha256 (deployment.clients id)
        (.connect accepted) = some client)
      (connected : client.connected = true)
      (accepts : Server.step qsort deployment.server (.accept socket) =
        some later) :
      Steps qsort sha256 deployment (.client id socket (.connect accepted))
        (deployment.accept id socket client later)
  | refused {client : Client} (id socket accepted)
      (taken : Client.step sha256 (deployment.clients id)
        (.connect accepted) = some client)
      (unconnected : ¬client.connected = true) :
      Steps qsort sha256 deployment (.client id socket (.connect accepted))
        (deployment.setClient id client)
  | call {client : Client} (id socket call load)
      (taken : Client.step sha256 (deployment.clients id) (.call call load) =
        some client) :
      Steps qsort sha256 deployment (.client id socket (.call call load))
        ((deployment.setClient id client).send id client)
  | return {client : Client} (id socket outcome load)
      (taken : Client.step sha256 (deployment.clients id)
        (.return outcome load) = some client)
      (delivers : deployment.Delivers id outcome between) :
      Steps qsort sha256 deployment (.client id socket (.return outcome load))
        (between.setClient id client)
  | quiet {client : Client} (id socket action)
      (quiet : ClientAction.IsQuiet action)
      (taken : Client.step sha256 (deployment.clients id) action =
        some client) :
      Steps qsort sha256 deployment (.client id socket action)
        (deployment.setClient id client)
  | receive {later : Server} (socket disk)
      (found : deployment.links socket = some link)
      (underWay : link.traffic = .requested function)
      (taken : Server.step qsort deployment.server
        (.receive socket function.request disk) = some later) :
      Steps qsort sha256 deployment
        (.server (.receive socket function.request disk))
        ({ deployment with server := later }.setLink socket
          { link with traffic := .handling function })
  | sendBody {later : Server} (socket sent)
      (taken : Server.step qsort deployment.server (.sendBody socket sent) =
        some later) :
      Steps qsort sha256 deployment (.server (.sendBody socket sent))
        (serve deployment { deployment with server := later } socket)
  | cleanUp {later : Server} (socket)
      (taken : Server.step qsort deployment.server (.cleanUp socket) =
        some later) :
      Steps qsort sha256 deployment (.server (.cleanUp socket))
        { deployment with
          server := later
          links := Function.update deployment.links socket none }
  | inner {later : Server} (action) (inner : Action.IsInner action)
      (taken : Server.step qsort deployment.server action = some later) :
      Steps qsort sha256 deployment (.server action)
        { deployment with server := later }

variable {qsort : QSort} {sha256 : Sha256} {deployment next : Deployment}

private theorem steps_of_clientStep
    {id socket : Nat} {action : ClientAction}
    (stepped : deployment.clientStep qsort sha256 id socket action =
      some next) :
    Steps qsort sha256 deployment (.client id socket action) next := by
  simp only [clientStep, Option.bind_eq_some_iff] at stepped
  obtain ⟨client, taken, rest⟩ := stepped
  cases action with
  | connect accepted =>
      simp only at rest
      split at rest
      · rename_i connected
        obtain ⟨server, accepts, same⟩ := Option.map_eq_some_iff.mp rest
        cases same
        exact .accept id socket accepted taken connected accepts
      · rename_i unconnected
        cases rest
        exact .refused id socket accepted taken unconnected
  | call call load =>
      cases rest
      exact .call id socket call load taken
  | «return» outcome load =>
      obtain ⟨between, delivered, same⟩ := Option.map_eq_some_iff.mp rest
      cases same
      exact .return id socket outcome load taken (delivers_of_deliver delivered)
  | _ =>
      cases rest
      refine .quiet id socket _ ?_ taken
      trivial

private theorem steps_of_serverStep
    {action : Action}
    (stepped : deployment.serverStep qsort action = some next) :
    Steps qsort sha256 deployment (.server action) next := by
  simp only [serverStep, Option.bind_eq_some_iff] at stepped
  obtain ⟨server, taken, rest⟩ := stepped
  cases action with
  | accept socket => cases rest
  | receive socket request disk =>
      simp only [receive] at rest
      split at rest
      · rename_i link found
        split at rest
        · rename_i function underWay
          split at rest
          · rename_i same
            cases rest
            subst same
            exact .receive socket disk found underWay taken
          · cases rest
        · cases rest
      · cases rest
  | sendBody socket sent =>
      cases rest
      exact .sendBody socket sent taken
  | cleanUp socket =>
      cases rest
      exact .cleanUp socket taken
  | peerCloses socket =>
      simp only at rest
      split at rest
      · cases rest
        exact .inner _ trivial taken
      · cases rest
  | _ =>
      cases rest
      refine .inner _ ?_ taken
      trivial

theorem steps_of_step
    {action : DeploymentAction}
    (stepped : step qsort sha256 deployment action = some next) :
    Steps qsort sha256 deployment action next := by
  cases action with
  | client id socket action => exact steps_of_clientStep stepped
  | server action => exact steps_of_serverStep stepped

end Deployment

end RainTyping
