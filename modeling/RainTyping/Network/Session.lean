import RainTyping.Client.ClientNetwork

/-!
# A client and its handler

One connection, from the client's request functions through the two byte
streams to the handler thread of the server.  The server is the machine of
`HandleClient`, with all its other connections; here the handler of this
connection gets its requests out of the stream and puts its responses into
it, with any number of `send` and `recv` for each.
-/

namespace RainTyping

/-- Where the handler stands between two calls of `send` or `recv`. -/
inductive HandlerPoint where
  | receivingHeader (received : List UInt8)
  | receivingBody (header : MessageHeader) (received : List UInt8)
  /-- In front of the `switch`. -/
  | handling (type : Int32) (body : List UInt8)
  /-- In the branch of this request, up to `send_response`. -/
  | answering (request : Request)
  | sendingHeader (unsent responseData : List UInt8)
  | sendingBody (unsent : List UInt8)
  /-- Behind the loop. -/
  | left
  deriving DecidableEq

/-- A request function has returned. -/
structure ReturnedCall where
  call : RequestCall
  code : Int
  response : List UInt8
  deriving DecidableEq

/-- The server has computed a response and filled its struct. -/
structure Served where
  request : Request
  response : Response
  responseData : List UInt8
  deriving DecidableEq

/-- The header that `send_response` fills. -/
def Served.header (served : Served) : MessageHeader where
  type := served.response.type
  length := .ofNat served.responseData.length

structure Session where
  server : Server
  handler : HandlerPoint
  wires : Wires
  /-- `client_sock` is not `-1`. -/
  connected : Bool
  /-- The calls that the client has yet to make. -/
  calls : List RequestCall
  current : Option (RequestCall × CallPoint)
  returned : List ReturnedCall
  served : List Served

inductive SessionAction where
  | call (sigint : Bool)
  | client (transfer : Transfer) (sigint : Bool)
  | handler (transfer : Transfer)
  /-- Up to the end of the first critical section of the request. -/
  | receive (disk : DiskCalls)
  /-- Fill the response struct and enter `send_response`. -/
  | respond (responseData : List UInt8)
  /-- Another step of the server. -/
  | server (action : Action)
  deriving DecidableEq

namespace Session

/-- The server has accepted the connection. -/
def start (server : Server) (socket : Nat) (calls : List RequestCall) :
    Session where
  server := server.setHandler socket ⟨.empty, .receiving, true⟩
  handler := .receivingHeader []
  wires := .empty
  connected := true
  calls := calls
  current := none
  returned := []
  served := []

variable (qsort : QSort) (socket : Nat)

/-! ## The client -/

/-- `disconnect_from_server`. -/
def disconnect (session : Session) : Session :=
  { session with
    connected := false
    server := (Server.step qsort session.server (.peerCloses socket)).getD
      session.server }

def conclude (session : Session) (call : RequestCall) : CallOutcome → Session
  | .continues point => { session with current := some (call, point) }
  | .returns code response =>
      { session with
        current := none
        returned := session.returned ++ [⟨call, code, response⟩] }
  | .disconnects code response =>
      { session.disconnect qsort socket with
        current := none
        returned := session.returned ++ [⟨call, code, response⟩] }

def callNext (session : Session) (sigint : Bool) : Option Session :=
  match session.current, session.calls with
  | none, call :: calls =>
      some ({ session with calls := calls }.conclude qsort socket call
        (call.start session.connected sigint))
  | _, _ => none

def clientTransfer (session : Session) (transfer : Transfer) (sigint : Bool) :
    Option Session :=
  match session.current with
  | some (call, point) =>
      (call.transfer session.wires point transfer sigint).map
        fun (outcome, wires) =>
          { session with wires := wires }.conclude qsort socket call outcome
  | none => none

/-! ## The handler -/

/-- The handler takes a step of the server. -/
def serverStep (session : Session) (action : Action) (point : HandlerPoint) :
    Option Session :=
  (Server.step qsort session.server action).map fun server =>
    { session with server := server, handler := point }

def afterHeader (session : Session) (header : MessageHeader) :
    Option Session :=
  if header.length.toNat > 0 then
    if header.length.toNat > maxBodyLen then
      session.serverStep qsort (.hangUp socket) .left
    else some { session with handler := .receivingBody header [] }
  else some { session with handler := .handling header.type [] }

/-- A `send` or `recv` of the handler that moves bytes. -/
def handlerMove (session : Session) (count : Nat) : Option Session :=
  match session.handler with
  | .receivingHeader received =>
      (receivePiece sizeofMessageHeader count received
        session.wires.toServer).bind fun (received, toServer) =>
          let session :=
            { session with wires := ⟨toServer, session.wires.toClient⟩ }
          if received.length = sizeofMessageHeader then
            session.afterHeader qsort socket (.ofBytes received)
          else some { session with handler := .receivingHeader received }
  | .receivingBody header received =>
      (receivePiece header.length.toNat count received
        session.wires.toServer).map fun (received, toServer) =>
          { session with
            wires := ⟨toServer, session.wires.toClient⟩
            handler :=
              if received.length = header.length.toNat then
                .handling header.type received
              else .receivingBody header received }
  | .sendingHeader unsent responseData =>
      (sendPiece count unsent session.wires.toClient).bind
        fun (unsent, toClient) =>
          let session :=
            { session with wires := ⟨session.wires.toServer, toClient⟩ }
          if unsent = [] then
            session.serverStep qsort (.sendHeader socket true)
              (.sendingBody responseData)
          else
            some { session with handler := .sendingHeader unsent responseData }
  | .sendingBody unsent =>
      (sendPiece count unsent session.wires.toClient).bind
        fun (unsent, toClient) =>
          let session :=
            { session with wires := ⟨session.wires.toServer, toClient⟩ }
          if unsent = [] then
            session.serverStep qsort (.sendBody socket true)
              (.receivingHeader [])
          else some { session with handler := .sendingBody unsent }
  | _ => none

/-- `send_all` or `recv_all` fails, or there is no memory for the body. -/
def handlerFail (session : Session) : Option Session :=
  match session.handler with
  | .receivingHeader _ => session.serverStep qsort (.hangUp socket) .left
  | .receivingBody _ _ => session.serverStep qsort (.hangUp socket) .left
  | .sendingHeader _ _ =>
      session.serverStep qsort (.sendHeader socket false) .left
  | .sendingBody _ => session.serverStep qsort (.sendBody socket false) .left
  | _ => none

def handlerTransfer (session : Session) (transfer : Transfer) :
    Option Session :=
  if session.server.alive then
    match transfer with
    | .moved count => session.handlerMove qsort socket count
    | .interrupted => some session
    | .failed => session.handlerFail qsort socket
  else none

/-- Enter the branch of the request.  A struct that leaves the received bytes
has no step. -/
def receive (session : Session) (disk : DiskCalls) : Option Session :=
  match session.handler with
  | .handling type body =>
      match readRequest type body with
      | .ok request =>
          session.serverStep qsort (.receive socket request disk)
            (.answering request)
      | .error _ => none
  | _ => none

def respond (session : Session) (responseData : List UInt8) :
    Option Session :=
  match session.handler, session.server.response socket with
  | .answering request, some response =>
      if session.server.alive ∧ response.FillsStruct responseData then
        let served : Served := ⟨request, response, responseData⟩
        some { session with
          handler := .sendingHeader served.header.bytes responseData
          served := session.served ++ [served] }
      else none
  | _, _ => none

/-- The steps of the handler that are not taken by the functions above: the
later critical sections of a branch, and the cleanup. -/
def ownStep : HandlerPoint → Action → Bool
  | .answering _, .verifyPassword _ _ => true
  | .answering _, .addSession _ => true
  | .answering _, .addUser _ _ => true
  | .left, .cleanUp _ => true
  | _, _ => false

/-- A step of another connection, or one of these. -/
def otherStep (session : Session) (action : Action) : Option Session :=
  if action.socket ≠ socket ∨ ownStep session.handler action then
    session.serverStep qsort action session.handler
  else none

/-! ## The machine -/

def step : Machine Session SessionAction :=
  fun session action =>
    match action with
    | .call sigint => session.callNext qsort socket sigint
    | .client transfer sigint =>
        session.clientTransfer qsort socket transfer sigint
    | .handler transfer => session.handlerTransfer qsort socket transfer
    | .receive disk => session.receive qsort socket disk
    | .respond responseData => session.respond socket responseData
    | .server action => session.otherStep qsort socket action

/-! ## The server of a session -/

variable {qsort : QSort} {socket : Nat} {session next : Session}

/-- The server stays as it is, or takes one of its steps. -/
def ServerSteps (qsort : QSort) (session next : Session) : Prop :=
  next.server = session.server ∨
    ∃ action, Server.step qsort session.server action = some next.server

theorem serverSteps_of_serverStep
    {action : Action} {point : HandlerPoint}
    (stepped : session.serverStep qsort action point = some next) :
    ServerSteps qsort session next := by
  obtain ⟨server, taken, rfl⟩ := Option.map_eq_some_iff.mp stepped
  exact .inr ⟨action, taken⟩

private theorem serverSteps_conclude
    (session : Session) (call : RequestCall) (outcome : CallOutcome) :
    ServerSteps qsort session (session.conclude qsort socket call outcome) := by
  cases outcome with
  | continues point => exact .inl rfl
  | returns code response => exact .inl rfl
  | disconnects code response =>
      cases closed : Server.step qsort session.server (.peerCloses socket) with
      | none =>
          left
          simp only [conclude, disconnect, closed, Option.getD_none]
      | some server =>
          right
          refine ⟨.peerCloses socket, ?_⟩
          simp only [conclude, disconnect, closed, Option.getD_some]

private theorem serverSteps_client
    {transfer : Transfer} {sigint : Bool}
    (stepped : session.clientTransfer qsort socket transfer sigint =
      some next) :
    ServerSteps qsort session next := by
  rw [clientTransfer] at stepped
  split at stepped
  · rename_i call point inCall
    obtain ⟨⟨outcome, wires⟩, _, rfl⟩ := Option.map_eq_some_iff.mp stepped
    exact serverSteps_conclude { session with wires := wires } call outcome
  · cases stepped

private theorem serverSteps_afterHeader
    {header : MessageHeader}
    (stepped : session.afterHeader qsort socket header = some next) :
    ServerSteps qsort session next := by
  rw [afterHeader] at stepped
  split at stepped
  · split at stepped
    · exact serverSteps_of_serverStep stepped
    · cases stepped
      exact .inl rfl
  · cases stepped
    exact .inl rfl

private theorem serverSteps_handlerMove
    {count : Nat}
    (stepped : session.handlerMove qsort socket count = some next) :
    ServerSteps qsort session next := by
  rw [handlerMove] at stepped
  split at stepped
  · obtain ⟨moved, _, stepped⟩ := Option.bind_eq_some_iff.mp stepped
    dsimp only at stepped
    split at stepped
    · have steps := serverSteps_afterHeader stepped
      exact steps
    · cases stepped
      exact .inl rfl
  · obtain ⟨moved, _, rfl⟩ := Option.map_eq_some_iff.mp stepped
    exact .inl rfl
  · obtain ⟨moved, _, stepped⟩ := Option.bind_eq_some_iff.mp stepped
    dsimp only at stepped
    split at stepped
    · have steps := serverSteps_of_serverStep stepped
      exact steps
    · cases stepped
      exact .inl rfl
  · obtain ⟨moved, _, stepped⟩ := Option.bind_eq_some_iff.mp stepped
    dsimp only at stepped
    split at stepped
    · have steps := serverSteps_of_serverStep stepped
      exact steps
    · cases stepped
      exact .inl rfl
  · cases stepped

private theorem serverSteps_handlerTransfer
    {transfer : Transfer}
    (stepped : session.handlerTransfer qsort socket transfer = some next) :
    ServerSteps qsort session next := by
  unfold handlerTransfer at stepped
  split at stepped
  · cases transfer with
    | moved count => exact serverSteps_handlerMove stepped
    | interrupted =>
        cases stepped
        exact .inl rfl
    | failed =>
        simp only [handlerFail] at stepped
        split at stepped
        · exact serverSteps_of_serverStep stepped
        · exact serverSteps_of_serverStep stepped
        · exact serverSteps_of_serverStep stepped
        · exact serverSteps_of_serverStep stepped
        · cases stepped
  · cases stepped

/-- A step of a session is one of its server, or none. -/
theorem serverSteps_of_step
    {action : SessionAction}
    (stepped : step qsort socket session action = some next) :
    ServerSteps qsort session next := by
  cases action with
  | call sigint =>
      simp only [step, callNext] at stepped
      split at stepped
      · rename_i call calls _ _
        cases stepped
        exact serverSteps_conclude { session with calls := calls } call _
      · cases stepped
  | client transfer sigint => exact serverSteps_client stepped
  | handler transfer => exact serverSteps_handlerTransfer stepped
  | receive disk =>
      simp only [step, receive] at stepped
      split at stepped
      · split at stepped
        · exact serverSteps_of_serverStep stepped
        · cases stepped
      · cases stepped
  | respond responseData =>
      simp only [step, respond] at stepped
      split at stepped
      · split at stepped
        · cases stepped
          exact .inl rfl
        · cases stepped
      · cases stepped
  | server action =>
      simp only [step, otherStep] at stepped
      split at stepped
      · exact serverSteps_of_serverStep stepped
      · cases stepped

end Session

end RainTyping
