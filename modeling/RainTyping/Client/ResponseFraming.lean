import RainTyping.Client.ClientNetwork
import RainTyping.Support.Runs

/-!
# The frame boundaries of a client

A call of a request function that returns with `client_sock` open should have
taken one whole response from the connection, whatever the peer sends and
however `recv` cuts it into pieces.  It has, unless the response is an error
that is too long for an `ErrorResponse` or cut off, or a response that is too
long for the struct of the caller.
-/

namespace RainTyping

def CallOutcome.Returned : CallOutcome → Prop
  | .continues _ => False
  | .returns _ _ => True
  | .disconnects _ _ => True

instance : DecidablePred CallOutcome.Returned
  | .continues _ => isFalse id
  | .returns _ _ => isTrue trivial
  | .disconnects _ _ => isTrue trivial

def CallOutcome.keepsSocket : CallOutcome → Bool
  | .disconnects _ _ => false
  | _ => true

def CallPoint.receives : CallPoint → Bool
  | .sendingHeader _ => false
  | .sendingBody _ => false
  | _ => true

/-- A call on a socket that is open or `-1`, without a `SIGINT`. -/
structure CallState where
  connected : Bool
  wires : Wires
  outcome : CallOutcome

/-- One whole response lies between the stream and what is left of it. -/
def ResponseTaken (stream left : List UInt8) : Prop :=
  ∃ (header : MessageHeader) (body : List UInt8),
    body.length = header.length.toNat ∧
      stream = header.bytes ++ (body ++ left)

namespace CallState

/-- The peer sends this stream, now or later. -/
def start (call : RequestCall) (connected : Bool) (stream : List UInt8) :
    CallState where
  connected := connected
  wires := ⟨[], stream⟩
  outcome := call.start connected false

/-- One `send` or `recv`.  Only a `recv` behind the last byte fails. -/
def step (call : RequestCall) : Machine CallState Transfer :=
  fun state transfer =>
    match state.outcome with
    | .continues point =>
        if transfer = .failed → point.receives = true →
            state.wires.toClient = [] then
          (call.transfer state.wires point transfer false).map
            fun (outcome, wires) =>
              ⟨state.connected && outcome.keepsSocket, wires, outcome⟩
        else none
    | _ => none

/-- Either the socket is closed and `-1`, or one whole response was taken. -/
def AtBoundary (state : CallState) (stream : List UInt8) : Prop :=
  state.connected = true → ResponseTaken stream state.wires.toClient

end CallState

namespace RequestCall

/-- Every return of the call leaves the connection at a frame boundary. -/
def KeepsFraming (call : RequestCall) (connected : Bool)
    (stream : List UInt8) : Prop :=
  ∀ (transfers : List Transfer) (final : CallState),
    (CallState.step call).run (.start call connected stream) transfers =
        some final →
      final.outcome.Returned → final.AtBoundary stream

end RequestCall

/-- The response in the stream can be taken as a whole: an error fits its
struct and is not cut off, an expected response fits the struct of the
caller. -/
structure RequestFunction.ResponseFits (function : RequestFunction)
    (stream : List UInt8) : Prop where
  error : ∀ (header : MessageHeader) (rest : List UInt8),
    stream = header.bytes ++ rest → header.type = msgTypeError →
      header.length.toNat ≤ sizeofErrorResponse ∧
        header.length.toNat ≤ rest.length
  expected : ∀ (header : MessageHeader) (rest : List UInt8),
    stream = header.bytes ++ rest →
      header.type = function.expectedRespType →
        header.length.toNat ≤ function.responseBodyMaxLen

/-! ## How much of a response is taken -/

/-- A response that the call accepts: its body is in the struct. -/
def RequestCall.Accepted (call : RequestCall)
    (stream left response : List UInt8) : Prop :=
  ∃ (header : MessageHeader) (body : List UInt8),
    header.type = call.function.expectedRespType ∧
      body.length = header.length.toNat ∧
        body.length ≤ call.function.responseBodyMaxLen ∧
          stream = header.bytes ++ (body ++ left) ∧
            response = overwrite call.response 0 body

/-- What holds of a return on an open socket. -/
structure RequestCall.TakesResponse (call : RequestCall)
    (stream left : List UInt8) (code : Int) (response : List UInt8) :
    Prop where
  whole : call.function.ResponseFits stream → ResponseTaken stream left
  accepted : code = 0 → call.Accepted stream left response

/-- Where a call is in the stream, and what it has left of it. -/
inductive Taking (call : RequestCall) (stream : List UInt8) :
    CallPoint → List UInt8 → Prop where
  | sendingHeader : Taking call stream (.sendingHeader unsent) stream
  | sendingBody : Taking call stream (.sendingBody unsent) stream
  | header (taken : stream = received ++ left) :
      Taking call stream (.receivingHeader received) left
  | error {header : MessageHeader}
      (taken : stream = header.bytes ++ (received ++ left))
      (type : header.type = msgTypeError)
      (short : received.length < header.length.toNat) :
      Taking call stream (.receivingError header.length.toNat received) left
  | discarding {header : MessageHeader}
      (taken : stream = header.bytes ++ (discarded ++ received ++ left))
      (sized : discarded.length + remaining = header.length.toNat) :
      Taking call stream (.discarding remaining received) left
  | body {header : MessageHeader}
      (taken : stream = header.bytes ++ (received ++ left))
      (type : header.type = call.function.expectedRespType)
      (fits : header.length.toNat ≤ call.function.responseBodyMaxLen) :
      Taking call stream (.receivingBody header.length.toNat received) left

/-- What is true of an outcome with the socket open. -/
def CallOutcome.Takes (call : RequestCall) (stream left : List UInt8) :
    CallOutcome → Prop
  | .continues point => Taking call stream point left
  | .returns code response => call.TakesResponse stream left code response
  | .disconnects _ _ => True

namespace RequestCall

variable {call : RequestCall} {stream : List UInt8} {wires next : Wires}
  {point : CallPoint} {outcome : CallOutcome}

private theorem takes_of_whole
    {left body response : List UInt8} {header : MessageHeader} {code : Int}
    (failed : code ≠ 0) (whole : body.length = header.length.toNat)
    (taken : stream = header.bytes ++ (body ++ left)) :
    call.TakesResponse stream left code response :=
  ⟨fun _ => ⟨header, body, whole, taken⟩, fun zero => absurd zero failed⟩

private theorem takes_afterResponseHeader
    {header : MessageHeader} {left : List UInt8}
    (taken : stream = header.bytes ++ left) :
    (call.afterResponseHeader header).Takes call stream left := by
  have empty : ¬header.length.toNat > 0 →
      ([] : List UInt8).length = header.length.toNat :=
    fun zero => (Nat.eq_zero_of_not_pos zero).symm
  simp only [afterResponseHeader]
  split
  · rename_i type
    split
    · rename_i bounds
      exact .error taken type bounds.1
    · rename_i outside
      refine ⟨fun fits => ?_, nofun⟩
      have bound := (fits.error header left taken type).1
      exact ⟨header, [], empty fun positive => outside ⟨positive, bound⟩,
        taken⟩
  · split
    · split
      · have all : ([] : List UInt8).length + header.length.toNat =
            header.length.toNat :=
          Nat.zero_add _
        exact .discarding taken all
      · rename_i zero
        exact takes_of_whole (by decide) (empty zero) taken
    · rename_i other
      have type := not_not.mp other
      split
      · rename_i long
        refine ⟨fun fits => ?_, nofun⟩
        exact absurd long
          (Nat.not_lt.mpr (fits.expected header left taken type))
      · rename_i bound
        split
        · exact .body taken type (Nat.not_lt.mp bound)
        · rename_i zero
          refine ⟨fun _ => ⟨header, [], empty zero, taken⟩, fun _ =>
            ⟨header, [], type, empty zero, Nat.zero_le _, taken, ?_⟩⟩
          rw [overwrite]
          exact (List.nil_append _).symm

theorem takes_of_move
    {count : Nat} (taking : Taking call stream point wires.toClient)
    (moved : call.move count false wires point = some (outcome, next)) :
    outcome.Takes call stream next.toClient := by
  cases taking with
  | sendingHeader =>
      obtain ⟨⟨rest, toServer⟩, sent, same⟩ := Option.map_eq_some_iff.mp moved
      cases same
      dsimp only
      split
      · have next : Taking call wires.toClient call.afterRequestHeader
            wires.toClient := by
          rw [afterRequestHeader]
          split
          · exact .sendingBody
          · exact .header rfl
        exact next
      · exact .sendingHeader
  | sendingBody =>
      obtain ⟨⟨rest, toServer⟩, sent, same⟩ := Option.map_eq_some_iff.mp moved
      cases same
      dsimp only
      split
      · exact .header rfl
      · exact .sendingBody
  | header taken =>
      obtain ⟨piece, _, arrived, _, same⟩ := piece_of_receive moved
      cases same
      rw [arrived, ← List.append_assoc] at taken
      dsimp only
      split
      · rename_i whole
        apply takes_afterResponseHeader
        rw [MessageHeader.bytes_ofBytes whole]
        exact taken
      · exact .header taken
  | @error received _ header taken type short =>
      obtain ⟨piece, _, arrived, bound, same⟩ := piece_of_receive moved
      cases same
      rw [arrived, ← List.append_assoc received] at taken
      dsimp only
      split
      · rename_i whole
        exact takes_of_whole (by decide) whole taken
      · rename_i part
        exact .error taken type (Nat.lt_of_le_of_ne bound part)
  | @discarding discarded received _ remaining header taken sized =>
      obtain ⟨piece, _, arrived, bound, same⟩ := piece_of_receive moved
      cases same
      rw [arrived, ← List.append_assoc (discarded ++ received),
        List.append_assoc discarded] at taken
      dsimp only
      split
      · rename_i whole
        refine takes_of_whole (by decide) ?_ taken
        rw [List.length_append, whole, sized]
      · split
        · rename_i whole
          have longer : (discarded ++ (received ++ piece)).length +
              (remaining - discardBufferSize) = header.length.toNat := by
            rw [List.length_append, whole, Nat.add_assoc, ← sized]
            omega
          refine .discarding ?_ longer
          rw [List.append_nil]
          exact taken
        · exact .discarding taken sized
  | @body received _ header taken type fits =>
      obtain ⟨piece, _, arrived, bound, same⟩ := piece_of_receive moved
      cases same
      rw [arrived, ← List.append_assoc received] at taken
      dsimp only
      split
      · rename_i whole
        exact ⟨fun _ => ⟨header, _, whole, taken⟩, fun _ =>
          ⟨header, _, type, whole, Nat.le_trans bound fits, taken, rfl⟩⟩
      · exact .body taken type fits

/-- Only a cut error leaves its socket open when a `recv` fails. -/
theorem takes_of_fail
    {left : List UInt8} (taking : Taking call stream point left)
    (exhausted : point.receives = true → left = []) :
    (call.fail point).Takes call stream left := by
  cases taking with
  | error taken type short =>
      cases exhausted rfl
      rw [List.append_nil] at taken
      refine ⟨fun fits => ?_, nofun⟩
      have whole := (fits.error _ _ taken type).2
      exact absurd short (Nat.not_lt.mpr whole)
  | sendingHeader => trivial
  | sendingBody => trivial
  | header taken => trivial
  | discarding taken sized => trivial
  | body taken type fits => trivial

end RequestCall

namespace CallState

variable {call : RequestCall} {stream : List UInt8}

/-- What a call on an open socket has taken of the stream. -/
structure Takes (call : RequestCall) (state : CallState)
    (stream : List UInt8) : Prop where
  connected : state.connected = state.outcome.keepsSocket
  outcome : state.outcome.Takes call stream state.wires.toClient

theorem takes_start : Takes call (start call true stream) stream :=
  ⟨rfl, .sendingHeader⟩

theorem Takes.step
    {state next : CallState} {transfer : Transfer}
    (takes : Takes call state stream)
    (stepped : CallState.step call state transfer = some next) :
    Takes call next stream := by
  obtain ⟨connected, wires, outcome⟩ := state
  cases outcome with
  | returns code response => cases stepped
  | disconnects code response => cases stepped
  | continues point =>
      obtain ⟨there, taking⟩ := takes
      cases there
      simp only [CallState.step] at stepped
      split at stepped
      · rename_i allowed
        obtain ⟨⟨outcome, wires'⟩, transferred, rfl⟩ :=
          Option.map_eq_some_iff.mp stepped
        refine ⟨Bool.true_and _, ?_⟩
        cases transfer with
        | moved count => exact RequestCall.takes_of_move taking transferred
        | interrupted =>
            cases transferred
            exact taking
        | failed =>
            cases transferred
            exact RequestCall.takes_of_fail taking (allowed rfl)
      · cases stepped

theorem takes_of_run
    {final : CallState} {transfers : List Transfer}
    (ran : (CallState.step call).run (start call true stream) transfers =
      some final) :
    Takes call final stream := by
  have preserved : ∀ (state : CallState) (transfer : Transfer)
      (next : CallState), Takes call state stream →
        CallState.step call state transfer = some next →
          Takes call next stream :=
    fun _ _ _ takes stepped => takes.step stepped
  exact Machine.run_preserves _ preserved takes_start ran

theorem Takes.atBoundary
    {state : CallState} (takes : Takes call state stream)
    (fits : call.function.ResponseFits stream)
    (returned : state.outcome.Returned) : state.AtBoundary stream := by
  obtain ⟨connected, wires, outcome⟩ := state
  obtain ⟨there, taken⟩ := takes
  intro isOpen
  cases outcome with
  | continues point => cases returned
  | returns code response => exact taken.whole fits
  | disconnects code response => cases there.symm.trans isOpen

theorem run_of_not_connected
    {final : CallState} {transfers : List Transfer}
    (ran : (CallState.step call).run (start call false stream) transfers =
      some final) :
    final = start call false stream := by
  cases transfers with
  | nil => exact (Option.some.inj ran).symm
  | cons transfer transfers =>
      obtain ⟨next, stepped, _⟩ := Machine.run_cons_eq_some_iff.mp ran
      cases stepped

/-- A call that returns zero has a whole response in its struct. -/
theorem accepted_of_run
    {final : CallState} {transfers : List Transfer} {connected : Bool}
    {response : List UInt8}
    (ran : (CallState.step call).run (start call connected stream)
      transfers = some final)
    (returned : final.outcome = .returns 0 response) :
    call.Accepted stream final.wires.toClient response := by
  cases connected with
  | true =>
      have taken := (takes_of_run ran).outcome
      rw [returned] at taken
      exact taken.accepted rfl
  | false =>
      rw [run_of_not_connected ran] at returned
      cases returned

/-! ## The responses that are not taken as a whole -/

theorem step_of_move
    {wires next : Wires} {point : CallPoint} {outcome : CallOutcome}
    {count : Nat}
    (moved : call.move count false wires point = some (outcome, next)) :
    CallState.step call ⟨true, wires, .continues point⟩ (.moved count) =
      some ⟨outcome.keepsSocket, next, outcome⟩ := by
  have noFailure : Transfer.moved count = .failed → point.receives = true →
      wires.toClient = [] :=
    nofun
  simp only [CallState.step, if_pos noFailure, RequestCall.transfer, moved,
    Option.map_some, Bool.true_and]

/-- The request is sent in two pieces, or in one if it has no body. -/
private theorem exists_run_request
    (call : RequestCall) (stream : List UInt8) :
    ∃ transfers toServer,
      (CallState.step call).run (start call true stream) transfers =
        some ⟨true, ⟨toServer, stream⟩, .continues (.receivingHeader [])⟩ := by
  have headerSent : call.move call.header.bytes.length false ⟨[], stream⟩
      (.sendingHeader call.header.bytes) =
        some (.continues call.afterRequestHeader,
          ⟨[] ++ call.header.bytes, stream⟩) := by
    simp only [RequestCall.move, sendPiece_all call.header.bytes_ne_nil,
      Option.map_some, ↓reduceIte]
    rfl
  by_cases body : call.function.requestBody.length > 0
  · have pending : call.function.requestBody ≠ [] :=
      List.ne_nil_of_length_pos body
    have bodySent : call.move call.function.requestBody.length false
        ⟨[] ++ call.header.bytes, stream⟩ call.afterRequestHeader =
          some (.continues (.receivingHeader []),
            ⟨[] ++ call.header.bytes ++ call.function.requestBody,
              stream⟩) := by
      simp only [RequestCall.afterRequestHeader, if_pos body,
        RequestCall.move, sendPiece_all pending, Option.map_some, ↓reduceIte]
      rfl
    exact ⟨[.moved _, .moved _], _, Machine.run_cons_eq_some_iff.mpr
      ⟨_, step_of_move headerSent, Machine.run_cons_eq_some_iff.mpr
        ⟨_, step_of_move bodySent, rfl⟩⟩⟩
  · rw [RequestCall.afterRequestHeader, if_neg body] at headerSent
    exact ⟨[.moved _], _, Machine.run_cons_eq_some_iff.mpr
      ⟨_, step_of_move headerSent, rfl⟩⟩

theorem exists_run_header
    (call : RequestCall) (header : MessageHeader) (rest : List UInt8) :
    ∃ transfers toServer,
      (CallState.step call).run (start call true (header.bytes ++ rest))
          transfers =
        some ⟨(call.afterResponseHeader header).keepsSocket,
          ⟨toServer, rest⟩, call.afterResponseHeader header⟩ := by
  obtain ⟨sends, toServer, sent⟩ :=
    exists_run_request call (header.bytes ++ rest)
  have got : call.move header.bytes.length false
      ⟨toServer, header.bytes ++ rest⟩ (.receivingHeader []) =
        some (call.afterResponseHeader header, ⟨toServer, rest⟩) := by
    have wanted : ([] : List UInt8).length + header.bytes.length ≤
        sizeofMessageHeader := by
      rw [header.length_bytes]
      exact Nat.le_refl _
    have received := receivePiece_all header.bytes_ne_nil wanted rest
    rw [List.nil_append] at received
    simp only [RequestCall.move, received, Option.map_some,
      MessageHeader.ofBytes_bytes]
    rw [if_pos header.length_bytes]
    rfl
  exact ⟨sends ++ [.moved _], toServer, Machine.run_append_eq_some_iff.mpr
    ⟨_, sent, Machine.run_cons_eq_some_iff.mpr
      ⟨_, step_of_move got, rfl⟩⟩⟩

private theorem length_of_responseTaken
    {header : MessageHeader} {body left : List UInt8}
    (taken : ResponseTaken (header.bytes ++ (body ++ left)) left) :
    body.length = header.length.toNat := by
  obtain ⟨other, otherBody, whole, same⟩ := taken
  obtain ⟨sameHeader, sameRest⟩ := List.append_inj same (by simp)
  have read := congrArg MessageHeader.ofBytes sameHeader
  simp only [MessageHeader.ofBytes_bytes] at read
  rw [read, List.append_cancel_right sameRest]
  exact whole

/-- A call that returns behind the header of a response with a body, on an
open socket, is out of step. -/
private theorem not_keepsFraming_of_header
    {header : MessageHeader} {rest : List UInt8} {code : Int}
    {response : List UInt8}
    (outcome : call.afterResponseHeader header = .returns code response)
    (there : 0 < header.length.toNat) :
    ¬call.KeepsFraming true (header.bytes ++ rest) := by
  intro keeps
  obtain ⟨transfers, toServer, ran⟩ := exists_run_header call header rest
  rw [outcome] at ran
  have taken : ResponseTaken (header.bytes ++ ([] ++ rest)) rest :=
    keeps transfers _ ran trivial rfl
  have empty := length_of_responseTaken taken
  exact Nat.ne_of_lt there empty

private theorem exists_run_cutError
    (call : RequestCall) {header : MessageHeader} {rest : List UInt8}
    (type : header.type = msgTypeError)
    (fits : header.length.toNat ≤ sizeofErrorResponse)
    (cut : rest.length < header.length.toNat) :
    ∃ transfers toServer,
      (CallState.step call).run (start call true (header.bytes ++ rest))
          transfers =
        some ⟨true, ⟨toServer, []⟩, .returns (-4) call.response⟩ := by
  have enters : call.afterResponseHeader header =
      .continues (.receivingError header.length.toNat []) := by
    rw [RequestCall.afterResponseHeader, if_pos type, if_pos ⟨by omega, fits⟩]
  obtain ⟨transfers, toServer, ran⟩ := exists_run_header call header rest
  rw [enters] at ran
  obtain ⟨receives, received⟩ : ∃ receives,
      (CallState.step call).run ⟨true, ⟨toServer, rest⟩,
          .continues (.receivingError header.length.toNat [])⟩ receives =
        some ⟨true, ⟨toServer, []⟩,
          .continues (.receivingError header.length.toNat rest)⟩ := by
    by_cases nothing : rest = []
    · rw [nothing]
      exact ⟨[], rfl⟩
    · have wanted : ([] : List UInt8).length + rest.length ≤
          header.length.toNat := by
        rw [List.length_nil, Nat.zero_add]
        exact Nat.le_of_lt cut
      have got := receivePiece_all nothing wanted []
      rw [List.append_nil] at got
      have moved : call.move rest.length false ⟨toServer, rest⟩
          (.receivingError header.length.toNat []) =
            some (.continues (.receivingError header.length.toNat rest),
              ⟨toServer, []⟩) := by
        simp only [RequestCall.move, got, Option.map_some, List.nil_append,
          if_neg (Nat.ne_of_lt cut)]
        rfl
      exact ⟨[.moved _], Machine.run_cons_eq_some_iff.mpr
        ⟨_, step_of_move moved, rfl⟩⟩
  have ends : (CallState.step call).run ⟨true, ⟨toServer, []⟩,
      .continues (.receivingError header.length.toNat rest)⟩ [.failed] =
        some ⟨true, ⟨toServer, []⟩, .returns (-4) call.response⟩ :=
    rfl
  exact ⟨_, toServer, Machine.run_append_eq_some_iff.mpr ⟨_,
    Machine.run_append_eq_some_iff.mpr ⟨_, ran, received⟩, ends⟩⟩

private theorem not_keepsFraming_of_cut
    {header : MessageHeader} {rest : List UInt8}
    (type : header.type = msgTypeError)
    (fits : header.length.toNat ≤ sizeofErrorResponse)
    (cut : rest.length < header.length.toNat) :
    ¬call.KeepsFraming true (header.bytes ++ rest) := by
  intro keeps
  obtain ⟨transfers, toServer, ran⟩ := exists_run_cutError call type fits cut
  have taken := keeps transfers _ ran trivial rfl
  have whole : ResponseTaken (header.bytes ++ (rest ++ [])) [] := by
    rw [List.append_nil]
    exact taken
  exact Nat.ne_of_lt cut (length_of_responseTaken whole)

end CallState

/-! ## When a call keeps the framing -/

namespace RequestCall

/-- On an open socket, every return of a call is at a frame boundary exactly
if its response fits. -/
theorem keepsFraming_iff
    (call : RequestCall) (connected : Bool) (stream : List UInt8) :
    call.KeepsFraming connected stream ↔
      (connected = true → call.function.ResponseFits stream) := by
  constructor
  · rintro keeps rfl
    refine ⟨?_, ?_⟩
    · rintro header rest rfl type
      have fits : header.length.toNat ≤ sizeofErrorResponse := by
        by_contra long
        have outcome : call.afterResponseHeader header =
            .returns (-4) call.response := by
          rw [afterResponseHeader, if_pos type, if_neg (by omega)]
        exact CallState.not_keepsFraming_of_header outcome (by omega) keeps
      refine ⟨fits, ?_⟩
      by_contra cut
      exact CallState.not_keepsFraming_of_cut type fits
        (Nat.not_le.mp cut) keeps
    · rintro header rest rfl type
      by_contra long
      have noError : header.type ≠ msgTypeError :=
        fun error => call.function.expectedRespType_ne_error
          (type.symm.trans error)
      have outcome : call.afterResponseHeader header =
          .returns (-6) call.response := by
        rw [afterResponseHeader, if_neg noError, if_neg (not_not.mpr type),
          if_pos (Nat.not_le.mp long)]
      exact CallState.not_keepsFraming_of_header outcome (by omega) keeps
  · intro fits transfers final ran returned
    cases connected with
    | true => exact (CallState.takes_of_run ran).atBoundary (fits rfl) returned
    | false =>
        rw [CallState.run_of_not_connected ran]
        exact nofun

/-- An error whose length is over that of an `ErrorResponse` stays in the
connection. -/
theorem longError_breaksFraming :
    ¬(⟨.sendLogoutRequest, List.replicate sizeofStatusResponse 0,
        List.length_replicate⟩ : RequestCall).KeepsFraming true
      ((MessageHeader.mk msgTypeError 200).bytes ++
        List.replicate 200 65) := by
  have outcome : (⟨.sendLogoutRequest, List.replicate sizeofStatusResponse 0,
      List.length_replicate⟩ : RequestCall).afterResponseHeader
        (MessageHeader.mk msgTypeError 200) =
      .returns (-4) (List.replicate sizeofStatusResponse 0) :=
    rfl
  exact CallState.not_keepsFraming_of_header outcome (by decide)

end RequestCall

end RainTyping
