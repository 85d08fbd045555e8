import RainTyping.Client.AuthForm
import RainTyping.Network.RequestLayout
import RainTyping.Network.ResponseLayout
import RainTyping.Support.ByteStream

/-!
# The request functions of the client

A call of one of the functions of `client_network.c` is at one of the loops
of `send_request_and_receive_response`.  Each `send` or `recv` of the loop
takes it to the next one, or to the return of the function.
-/

namespace RainTyping

/-- The request functions with their arguments. -/
inductive RequestFunction where
  | sendRegisterRequest (username password : CString)
  | sendLoginRequest (username password : CString)
  | sendScoreSubmitRequest (score : Int32)
  | sendLeaderboardRequest
  | sendLogoutRequest
  | sendWordlistRequest
  deriving DecidableEq

namespace RequestFunction

def requestType : RequestFunction → Int32
  | .sendRegisterRequest _ _ => msgTypeRegisterReq
  | .sendLoginRequest _ _ => msgTypeLoginReq
  | .sendScoreSubmitRequest _ => msgTypeScoreSubmitReq
  | .sendLeaderboardRequest => msgTypeLeaderboardReq
  | .sendLogoutRequest => msgTypeLogoutReq
  | .sendWordlistRequest => msgTypeWordlistReq

/-- The `RegisterRequest` that two `strncpy` fill. -/
def credentialsStruct (username password : CString) : List UInt8 :=
  (CharArray.store maxIdLen username.bytes).padded ++
    (CharArray.store maxPwLen password.bytes).padded

/-- The request struct; without one the body is a null pointer. -/
def requestBody : RequestFunction → List UInt8
  | .sendRegisterRequest username password =>
      credentialsStruct username password
  | .sendLoginRequest username password => credentialsStruct username password
  | .sendScoreSubmitRequest score => intBytes score
  | .sendLeaderboardRequest => []
  | .sendLogoutRequest => []
  | .sendWordlistRequest => []

def expectedRespType : RequestFunction → Int32
  | .sendRegisterRequest _ _ => msgTypeRegisterResp
  | .sendLoginRequest _ _ => msgTypeLoginResp
  | .sendScoreSubmitRequest _ => msgTypeScoreSubmitResp
  | .sendLeaderboardRequest => msgTypeLeaderboardResp
  | .sendLogoutRequest => msgTypeLogoutResp
  | .sendWordlistRequest => msgTypeWordlistResp

/-- The size of the struct that `response` points to. -/
def responseBodyMaxLen : RequestFunction → Nat
  | .sendRegisterRequest _ _ => sizeofStatusResponse
  | .sendLoginRequest _ _ => sizeofStatusResponse
  | .sendScoreSubmitRequest _ => sizeofStatusResponse
  | .sendLeaderboardRequest => sizeofLeaderboardResponse
  | .sendLogoutRequest => sizeofStatusResponse
  | .sendWordlistRequest => sizeofWordListResponse

/-- What the function asks of the server. -/
def request : RequestFunction → Request
  | .sendRegisterRequest username password =>
      .register (requestOf username password)
  | .sendLoginRequest username password =>
      .login (requestOf username password)
  | .sendScoreSubmitRequest score => .scoreSubmit score
  | .sendLeaderboardRequest => .leaderboard
  | .sendLogoutRequest => .logout
  | .sendWordlistRequest => .wordlist

end RequestFunction

/-! ## What the functions send and expect -/

/-- The type of the response to a request. -/
def Request.respType : Request → Int32
  | .register _ => msgTypeRegisterResp
  | .login _ => msgTypeLoginResp
  | .scoreSubmit _ => msgTypeScoreSubmitResp
  | .leaderboard => msgTypeLeaderboardResp
  | .wordlist => msgTypeWordlistResp
  | .logout => msgTypeLogoutResp
  | .unknown _ => msgTypeError

namespace RequestFunction

variable (function : RequestFunction)

private theorem readCredentials_credentialsStruct
    (username password : CString) :
    readCredentials (credentialsStruct username password) =
      .ok (some (requestOf username password)) := by
  let name := CharArray.store maxIdLen username.bytes
  let secret := CharArray.store maxPwLen password.bytes
  have dropped : (credentialsStruct username password).drop maxIdLen =
      secret.padded :=
    List.drop_left' name.length_padded
  apply readCredentials_eq_ok_some_iff.mpr
  refine ⟨?_, ?_, ?_, ?_⟩
  · intro empty
    have length := congrArg List.length empty
    simp [credentialsStruct] at length
  · exact List.mem_append_left _ name.nul_mem_padded
  · rw [dropped]
    exact secret.nul_mem_padded
  · have username_read : fieldAt (credentialsStruct username password) 0 =
        name.toCString :=
      name.ofBuffer_padded secret.padded
    have password_read : fieldAt (credentialsStruct username password)
        maxIdLen = secret.toCString := by
      rw [fieldAt, dropped]
      simpa using secret.ofBuffer_padded []
    rw [username_read, password_read]
    rfl

/-- The server reads the request that the function has written. -/
theorem readRequest_requestBody :
    readRequest function.requestType function.requestBody =
      .ok function.request := by
  cases function with
  | sendRegisterRequest username password =>
      exact congrArg (Except.map Request.register)
        (readCredentials_credentialsStruct username password)
  | sendLoginRequest username password =>
      exact congrArg (Except.map Request.login)
        (readCredentials_credentialsStruct username password)
  | sendScoreSubmitRequest score =>
      have read : readScore (intBytes score) = .ok (some score) := by
        have there : intBytes score ≠ [] := by
          simp [intBytes, littleEndian]
        have value := readInt_intBytes score []
        rw [List.append_nil] at value
        rw [readScore, if_neg there, value]
        rfl
      exact congrArg (Except.map Request.scoreSubmit) read
  | sendLeaderboardRequest => rfl
  | sendLogoutRequest => rfl
  | sendWordlistRequest => rfl

theorem respType_request :
    function.request.respType = function.expectedRespType := by
  cases function <;> rfl

theorem fullSize_request : Server.FullSize function.request := by
  cases function <;> simp [request, Server.FullSize]

theorem expectedRespType_ne_error :
    function.expectedRespType ≠ msgTypeError := by
  cases function <;> simp only [expectedRespType] <;> decide

theorem length_requestBody_le :
    function.requestBody.length ≤ sizeofRegisterRequest := by
  cases function with
  | sendRegisterRequest username password =>
      simp [requestBody, credentialsStruct]
  | sendLoginRequest username password =>
      simp [requestBody, credentialsStruct]
  | sendScoreSubmitRequest score =>
      rw [requestBody, length_intBytes]
      decide
  | sendLeaderboardRequest => exact Nat.zero_le _
  | sendLogoutRequest => exact Nat.zero_le _
  | sendWordlistRequest => exact Nat.zero_le _

theorem responseBodyMaxLen_pos : 0 < function.responseBodyMaxLen := by
  cases function <;> simp only [responseBodyMaxLen] <;> decide

theorem responseBodyMaxLen_le :
    function.responseBodyMaxLen ≤ sizeofWordListResponse := by
  cases function <;> simp only [responseBodyMaxLen] <;> decide

/-- A response of the expected type has the size of the response struct. -/
theorem sizeof_eq_responseBodyMaxLen
    {response : Response}
    (type : response.type = function.expectedRespType) :
    response.sizeof = function.responseBodyMaxLen := by
  cases function <;> cases response <;>
    first
      | rfl
      | simp only [Response.type, expectedRespType] at type
        exact absurd type (by decide)

end RequestFunction

/-! ## Calls -/

/-- A call of a request function, with what its response struct holds before
the call. -/
structure RequestCall where
  function : RequestFunction
  response : List UInt8
  sized : response.length = function.responseBodyMaxLen
  deriving DecidableEq

/-- The loop of `send_request_and_receive_response` that a call is in. -/
inductive CallPoint where
  | sendingHeader (unsent : List UInt8)
  | sendingBody (unsent : List UInt8)
  | receivingHeader (received : List UInt8)
  | receivingError (length : Nat) (received : List UInt8)
  /-- `discard_buffer` takes the body of an unexpected response. -/
  | discarding (remaining : Nat) (received : List UInt8)
  | receivingBody (length : Nat) (received : List UInt8)
  deriving DecidableEq

inductive CallOutcome where
  | continues (point : CallPoint)
  | returns (code : Int) (response : List UInt8)
  /-- Return after `disconnect_from_server`. -/
  | disconnects (code : Int) (response : List UInt8)
  deriving DecidableEq

/-- What one `send` or `recv` comes to.  It fails when the other end is gone;
so does its loop when the test of `sigint_received` in front of it does. -/
inductive Transfer where
  | moved (count : Nat)
  /-- `EINTR`. -/
  | interrupted
  | failed
  deriving DecidableEq

/-- The bytes in flight in the two directions of a connection. -/
structure Wires where
  toServer : List UInt8
  toClient : List UInt8
  deriving DecidableEq

def Wires.empty : Wires :=
  ⟨[], []⟩

namespace RequestCall

def header (call : RequestCall) : MessageHeader where
  type := call.function.requestType
  length := .ofNat call.function.requestBody.length

/-- Up to the first `send`; `sigint` is what the test of `sigint_received`
finds. -/
def start (call : RequestCall) (connected sigint : Bool) : CallOutcome :=
  if connected then
    if sigint then .returns (-10) call.response
    else .continues (.sendingHeader call.header.bytes)
  else .returns (-1) call.response

def afterRequestHeader (call : RequestCall) : CallPoint :=
  if call.function.requestBody.length > 0 then
    .sendingBody call.function.requestBody
  else .receivingHeader []

def afterResponseHeader (call : RequestCall) (header : MessageHeader) :
    CallOutcome :=
  if header.type = msgTypeError then
    if header.length.toNat > 0 ∧
        header.length.toNat ≤ sizeofErrorResponse then
      .continues (.receivingError header.length.toNat [])
    else .returns (-4) call.response
  else if header.type ≠ call.function.expectedRespType then
    if header.length.toNat > 0 then
      .continues (.discarding header.length.toNat [])
    else .returns (-5) call.response
  else if header.length.toNat > call.function.responseBodyMaxLen then
    .returns (-6) call.response
  else if header.length.toNat > 0 then
    .continues (.receivingBody header.length.toNat [])
  else .returns 0 call.response

/-- The message of an `ErrorResponse` goes to the `message` of the response
struct, whose `success` becomes zero. -/
def storeError (call : RequestCall) (received : List UInt8) : List UInt8 :=
  if call.function.responseBodyMaxLen ≥ sizeofErrorResponse then
    let message := CharArray.store maxMsgLen received
    let stored := overwrite call.response sizeofInt (message.bytes ++ [0])
    let closed := overwrite stored (sizeofInt + maxMsgLen - 1) [0]
    overwrite closed 0 (intBytes 0)
  else call.response

abbrev discardBufferSize : Nat := 1024

/-- `send_all` or `recv_all` does not return zero.  A client that `SIGPIPE`
kills in `send_all` returns from nothing. -/
def fail (call : RequestCall) : CallPoint → CallOutcome
  | .sendingHeader _ => .disconnects (-2) call.response
  | .sendingBody _ => .disconnects (-2) call.response
  | .receivingHeader _ => .disconnects (-3) call.response
  | .receivingError _ _ => .returns (-4) call.response
  | .discarding _ _ => .disconnects (-5) call.response
  | .receivingBody _ received =>
      .disconnects (-3) (overwrite call.response 0 received)

/-- Back at the head of the loop, where `sigint_received` is tested. -/
def loopHead (call : RequestCall) (sigint : Bool) (point : CallPoint) :
    CallOutcome :=
  if sigint then call.fail point else .continues point

/-- Behind a loop, where `sigint_received` is tested again. -/
def behindLoop (call : RequestCall) (sigint : Bool) (next : CallOutcome) :
    CallOutcome :=
  if sigint then .returns (-10) call.response else next

/-- A `send` or `recv` that moves bytes. -/
def move (call : RequestCall) (count : Nat) (sigint : Bool) (wires : Wires) :
    CallPoint → Option (CallOutcome × Wires)
  | .sendingHeader unsent =>
      (sendPiece count unsent wires.toServer).map fun (unsent, toServer) =>
        (if unsent = [] then
            call.behindLoop sigint (.continues call.afterRequestHeader)
          else call.loopHead sigint (.sendingHeader unsent),
          { wires with toServer })
  | .sendingBody unsent =>
      (sendPiece count unsent wires.toServer).map fun (unsent, toServer) =>
        (if unsent = [] then
            call.behindLoop sigint (.continues (.receivingHeader []))
          else call.loopHead sigint (.sendingBody unsent),
          { wires with toServer })
  | .receivingHeader received =>
      (receivePiece sizeofMessageHeader count received wires.toClient).map
        fun (received, toClient) =>
          (if received.length = sizeofMessageHeader then
              call.behindLoop sigint
                (call.afterResponseHeader (.ofBytes received))
            else call.loopHead sigint (.receivingHeader received),
            { wires with toClient })
  | .receivingError length received =>
      (receivePiece length count received wires.toClient).map
        fun (received, toClient) =>
          (if received.length = length then
              .returns (-4) (call.storeError received)
            else call.loopHead sigint (.receivingError length received),
            { wires with toClient })
  | .discarding remaining received =>
      (receivePiece (min remaining discardBufferSize) count received
        wires.toClient).map fun (received, toClient) =>
          (if received.length = remaining then .returns (-5) call.response
            else if received.length = discardBufferSize then
              call.loopHead sigint
                (.discarding (remaining - discardBufferSize) [])
            else call.loopHead sigint (.discarding remaining received),
            { wires with toClient })
  | .receivingBody length received =>
      (receivePiece length count received wires.toClient).map
        fun (received, toClient) =>
          (if received.length = length then
              .returns 0 (overwrite call.response 0 received)
            else call.loopHead sigint (.receivingBody length received),
            { wires with toClient })

/-- One `send` or `recv` of a call, up to the next one. -/
def transfer (call : RequestCall) (wires : Wires) (point : CallPoint)
    (transfer : Transfer) (sigint : Bool) : Option (CallOutcome × Wires) :=
  match transfer with
  | .moved count => call.move count sigint wires point
  | .interrupted => some (call.loopHead sigint point, wires)
  | .failed => some (call.fail point, wires)

end RequestCall

end RainTyping
