import RainTyping.Network.Session

/-!
# The phases of a call

A connection is either between two calls, with nothing unread, or in one
call: the request is on its way, or the server works on it, or the response
is on its way.  Each phase knows how much work it leaves.
-/

namespace RainTyping

/-! ## The phases of a call -/

/-- What is unsent of a request. -/
inductive RequestUnsent (call : RequestCall) :
    CallPoint → List UInt8 → Prop where
  | header (pending : unsent ≠ []) :
      RequestUnsent call (.sendingHeader unsent)
        (unsent ++ call.function.requestBody)
  | body (pending : unsent ≠ []) :
      RequestUnsent call (.sendingBody unsent) unsent
  | nothing : RequestUnsent call (.receivingHeader []) []

/-- What the handler has of a request that it has not received in full. -/
inductive RequestReceived : HandlerPoint → List UInt8 → Prop where
  | header (short : received.length < sizeofMessageHeader) :
      RequestReceived (.receivingHeader received) received
  | body (short : received.length < header.length.toNat) :
      RequestReceived (.receivingBody header received)
        (header.bytes ++ received)

/-- What is unsent of a response. -/
inductive ResponseUnsent : HandlerPoint → Stage → List UInt8 → Prop where
  | header (pending : unsent ≠ []) (later : responseData ≠ []) :
      ResponseUnsent (.sendingHeader unsent responseData)
        (.sendingHeader response) (unsent ++ responseData)
  | body (pending : unsent ≠ []) :
      ResponseUnsent (.sendingBody unsent) (.sendingBody response) unsent
  | nothing : ResponseUnsent (.receivingHeader []) .receiving []

/-- What the client has of a response that it has not received in full. -/
inductive ResponseReceived (served : Served) :
    CallPoint → List UInt8 → Prop where
  | header (short : received.length < sizeofMessageHeader) :
      ResponseReceived served (.receivingHeader received) received
  | body (short : received.length < served.responseData.length) :
      ResponseReceived served
        (.receivingBody served.responseData.length received)
        (served.header.bytes ++ received)

def RequestCall.message (call : RequestCall) : List UInt8 :=
  call.header.bytes ++ call.function.requestBody

def Served.message (served : Served) : List UInt8 :=
  served.header.bytes ++ served.responseData

/-- How far the handler is in the branch of a request, with the steps that
are left up to the filled response struct. -/
inductive Answering : Request → Stage → Nat → Prop where
  | loginChecked : Answering (.login body) (.loginChecked body) 3
  | loginVerified : Answering (.login body) (.loginVerified verified) 2
  | registerSearched :
      Answering (.register body) (.registerSearched newUser) 2
  | answered (type : response.type = request.respType)
      (fits : response.Fits) :
      Answering request (.sendingHeader response) 1

/-- What the server has computed is the answer to this call. -/
structure Served.Answers (served : Served) (call : RequestCall) : Prop where
  request : served.request = call.function.request
  type : served.response.type = call.function.expectedRespType
  struct : served.response.FillsStruct served.responseData

theorem Served.length_header
    (served : Served)
    (struct : served.response.FillsStruct served.responseData) :
    served.header.length.toNat = served.responseData.length := by
  have bound := served.response.sizeof_le
  rw [← struct.1] at bound
  have small : served.responseData.length < 2 ^ 16 :=
    Nat.lt_of_le_of_lt bound (by decide)
  exact UInt16.toNat_ofNat_of_lt' small

/-- The work of receiving the longest response. -/
abbrev responseWork : Nat :=
  2 * (sizeofMessageHeader + sizeofWordListResponse)

/-- The phases of a connection, with the answer to the call if there is one
already, and with the work that is left of the call. -/
inductive InStep : Option (RequestCall × CallPoint) → HandlerPoint → Stage →
    Wires → Option Served → Nat → Prop where
  | between : InStep none (.receivingHeader []) .receiving .empty none 0
  | requesting
      (unsent : RequestUnsent call point rest)
      (received : RequestReceived handler got)
      (message : OnItsWay got toServer rest call.message) :
      InStep (some (call, point)) handler .receiving ⟨toServer, []⟩ none
        (transferWork rest toServer + 4 + responseWork)
  | handling :
      InStep (some (call, .receivingHeader []))
        (.handling call.function.requestType call.function.requestBody)
        .receiving .empty none (4 + responseWork)
  | answering
      (answering : Answering call.function.request stage steps) :
      InStep (some (call, .receivingHeader []))
        (.answering call.function.request) stage .empty none
        (steps + responseWork)
  | responding
      (answers : served.Answers call)
      (unsent : ResponseUnsent handler stage rest)
      (received : ResponseReceived served point got)
      (message : OnItsWay got toClient rest served.message) :
      InStep (some (call, point)) handler stage ⟨[], toClient⟩ (some served)
        (transferWork rest toClient)

namespace InStep

variable {current : Option (RequestCall × CallPoint)} {stage : Stage}
  {wires : Wires} {pending : Option Served} {work : Nat}

theorem of_handling
    {type : Int32} {body : List UInt8}
    (inStep : InStep current (.handling type body) stage wires pending work) :
    ∃ call : RequestCall, current = some (call, .receivingHeader []) ∧
      type = call.function.requestType ∧ body = call.function.requestBody ∧
        stage = .receiving ∧ wires = .empty ∧ pending = none ∧
          work = 4 + responseWork := by
  cases inStep with
  | handling => exact ⟨_, rfl, rfl, rfl, rfl, rfl, rfl, rfl⟩
  | requesting unsent received message => cases received
  | responding answers unsent received message => cases unsent

theorem of_answering
    {request : Request}
    (inStep : InStep current (.answering request) stage wires pending work) :
    ∃ (call : RequestCall) (steps : Nat),
      current = some (call, .receivingHeader []) ∧
        request = call.function.request ∧ Answering request stage steps ∧
          wires = .empty ∧ pending = none ∧ work = steps + responseWork := by
  cases inStep with
  | answering answering => exact ⟨_, _, rfl, rfl, answering, rfl, rfl, rfl⟩
  | requesting unsent received message => cases received
  | responding answers unsent received message => cases unsent

theorem not_left
    (inStep : InStep current .left stage wires pending work) : False := by
  cases inStep with
  | requesting unsent received message => cases received
  | responding answers unsent received message => cases unsent

end InStep

/-! ## A `send` or `recv` of the client -/

section Client

variable {call : RequestCall} {point : CallPoint} {handler : HandlerPoint}
  {stage : Stage} {wires : Wires} {pending : Option Served} {work : Nat}

namespace Served.Answers

variable {served : Served} (answers : served.Answers call)

include answers

theorem length_responseData :
    served.responseData.length = call.function.responseBodyMaxLen :=
  answers.struct.1.trans
    (call.function.sizeof_eq_responseBodyMaxLen answers.type)

theorem header_length :
    served.header.length.toNat = served.responseData.length :=
  served.length_header answers.struct

theorem afterResponseHeader :
    call.afterResponseHeader served.header =
      .continues (.receivingBody served.responseData.length []) := by
  have expected : served.header.type = call.function.expectedRespType :=
    answers.type
  have noError := call.function.expectedRespType_ne_error
  have there := call.function.responseBodyMaxLen_pos
  rw [← answers.length_responseData] at there
  rw [RequestCall.afterResponseHeader, expected, if_neg noError,
    if_neg (not_not.mpr rfl), answers.header_length,
    answers.length_responseData, if_neg (Nat.lt_irrefl _),
    ← answers.length_responseData, if_pos there]

end Served.Answers

theorem requestUnsent_afterRequestHeader (call : RequestCall) :
    RequestUnsent call call.afterRequestHeader call.function.requestBody := by
  rw [RequestCall.afterRequestHeader]
  split
  · rename_i there
    exact .body (List.ne_nil_of_length_pos there)
  · rename_i empty
    rw [List.eq_nil_of_length_eq_zero (Nat.eq_zero_of_not_pos empty)]
    exact .nothing

private theorem client_sends
    {got rest toServer : List UInt8} {count : Nat} {outcome : CallOutcome}
    {wires : Wires} (unsent : RequestUnsent call point rest)
    (message : OnItsWay got toServer rest call.message)
    (moved : call.move count false ⟨toServer, []⟩ point =
      some (outcome, wires)) :
    ∃ point' rest' toServer',
      outcome = .continues point' ∧ wires = ⟨toServer', []⟩ ∧
        RequestUnsent call point' rest' ∧
          OnItsWay got toServer' rest' call.message ∧
            transferWork rest' toServer' < transferWork rest toServer := by
  cases unsent with
  | @header unsent there =>
      simp only [RequestCall.move, Option.map_eq_some_iff] at moved
      obtain ⟨⟨later, toServer'⟩, sent, same⟩ := moved
      have onItsWay := message.send _ sent
      have less := transferWork_send call.function.requestBody sent
      by_cases done : later = []
      · simp only [done, ↓reduceIte, RequestCall.behindLoop,
          Bool.false_eq_true] at same
        cases same
        rw [done, List.nil_append] at onItsWay less
        exact ⟨_, _, toServer', rfl, rfl,
          requestUnsent_afterRequestHeader call, onItsWay, less⟩
      · simp only [done, ↓reduceIte, RequestCall.loopHead,
          Bool.false_eq_true] at same
        cases same
        exact ⟨_, _, toServer', rfl, rfl, .header done, onItsWay, less⟩
  | body there =>
      simp only [RequestCall.move, Option.map_eq_some_iff] at moved
      obtain ⟨⟨later, toServer'⟩, sent, same⟩ := moved
      have onItsWay : OnItsWay got toServer' later call.message := by
        have whole := OnItsWay.send [] (by rwa [List.append_nil]) sent
        rwa [List.append_nil] at whole
      have less : transferWork later toServer' <
          transferWork rest toServer := by
        simpa using transferWork_send [] sent
      by_cases done : later = []
      · simp only [done, ↓reduceIte, RequestCall.behindLoop,
          Bool.false_eq_true] at same
        cases same
        rw [done] at onItsWay less
        exact ⟨_, _, toServer', rfl, rfl, .nothing, onItsWay, less⟩
      · simp only [done, ↓reduceIte, RequestCall.loopHead,
          Bool.false_eq_true] at same
        cases same
        exact ⟨_, _, toServer', rfl, rfl, .body done, onItsWay, less⟩
  | nothing =>
      simp only [RequestCall.move, receivePiece_nil, Option.map_none] at moved
      cases moved

private theorem client_receives
    {got rest toClient : List UInt8} {count : Nat} {outcome : CallOutcome}
    {served : Served} {wires : Wires} (answers : served.Answers call)
    (received : ResponseReceived served point got)
    (message : OnItsWay got toClient rest served.message)
    (moved : call.move count false ⟨[], toClient⟩ point =
      some (outcome, wires)) :
    ∃ toClient', wires = ⟨[], toClient'⟩ ∧
      transferWork rest toClient' < transferWork rest toClient ∧
        ((∃ point' got', outcome = .continues point' ∧
            ResponseReceived served point' got' ∧
              OnItsWay got' toClient' rest served.message) ∨
          outcome = .returns 0 served.responseData ∧ toClient' = [] ∧
            rest = []) := by
  cases received with
  | @header received short =>
      simp only [RequestCall.move, Option.map_eq_some_iff] at moved
      obtain ⟨⟨received', toClient'⟩, taken, same⟩ := moved
      have less := transferWork_receive rest taken
      have onItsWay : OnItsWay received' toClient' rest served.message :=
        OnItsWay.receive [] message taken
      have within := receivePiece_within taken
      by_cases done : received'.length = sizeofMessageHeader
      · obtain ⟨rfl, _⟩ := onItsWay.part_received
          (done.trans served.header.length_bytes.symm)
        simp only [done, ↓reduceIte, RequestCall.behindLoop,
          Bool.false_eq_true, MessageHeader.ofBytes_bytes,
          answers.afterResponseHeader] at same
        cases same
        have there := call.function.responseBodyMaxLen_pos
        rw [← answers.length_responseData] at there
        refine ⟨toClient', rfl, less, .inl ⟨_, _, rfl, .body there, ?_⟩⟩
        rw [List.append_nil]
        exact onItsWay
      · simp only [done, ↓reduceIte, RequestCall.loopHead,
          Bool.false_eq_true] at same
        cases same
        exact ⟨toClient', rfl, less, .inl ⟨_, _, rfl,
          .header (Nat.lt_of_le_of_ne within done), onItsWay⟩⟩
  | @body received short =>
      simp only [RequestCall.move, Option.map_eq_some_iff] at moved
      obtain ⟨⟨received', toClient'⟩, taken, same⟩ := moved
      have less := transferWork_receive rest taken
      have onItsWay : OnItsWay (served.header.bytes ++ received') toClient'
          rest served.message :=
        message.receive _ taken
      have within := receivePiece_within taken
      by_cases done : received'.length = served.responseData.length
      · have complete : (served.header.bytes ++ received').length =
            served.message.length := by
          rw [Served.message, List.length_append, List.length_append, done]
        obtain ⟨whole, rfl, rfl⟩ := onItsWay.all_received complete
        have received_eq := List.append_cancel_left whole
        have stored : overwrite call.response 0 received' =
            served.responseData := by
          rw [overwrite_whole, received_eq]
          exact done.trans (answers.length_responseData.trans call.sized.symm)
        simp only [done, ↓reduceIte, stored] at same
        cases same
        exact ⟨[], rfl, less, .inr ⟨rfl, rfl, rfl⟩⟩
      · simp only [done, ↓reduceIte, RequestCall.loopHead,
          Bool.false_eq_true] at same
        cases same
        exact ⟨toClient', rfl, less, .inl ⟨_, _, rfl,
          .body (Nat.lt_of_le_of_ne within done), onItsWay⟩⟩

/-- A handler that has sent everything waits for the next request. -/
theorem ResponseUnsent.of_nothing
    {rest : List UInt8} (unsent : ResponseUnsent handler stage rest)
    (nothing : rest = []) :
    handler = .receivingHeader [] ∧ stage = .receiving := by
  cases unsent with
  | header pending later =>
      exact absurd (List.append_eq_nil_iff.mp nothing).1 pending
  | body pending => exact absurd nothing pending
  | nothing => exact ⟨rfl, rfl⟩

/-- A `send` or `recv` of the client takes its call further in its phase, or
to its return with the answer. -/
theorem InStep.client_moves
    {count : Nat} {outcome : CallOutcome} {wires' : Wires}
    (inStep : InStep (some (call, point)) handler stage wires pending work)
    (moved : call.move count false wires point = some (outcome, wires')) :
    (∃ point' work', outcome = .continues point' ∧ work' < work ∧
        InStep (some (call, point')) handler stage wires' pending work') ∨
      ∃ served, outcome = .returns 0 served.responseData ∧ 0 < work ∧
        pending = some served ∧ served.Answers call ∧
          InStep none handler stage wires' none 0 := by
  cases inStep with
  | requesting unsent received message =>
      obtain ⟨point', rest', toServer', continues, rfl, unsent', message',
        less⟩ := client_sends unsent message moved
      refine .inl ⟨point', _, continues, ?_,
        .requesting unsent' received message'⟩
      omega
  | handling =>
      simp only [RequestCall.move, Wires.empty, receivePiece_nil,
        Option.map_none] at moved
      cases moved
  | answering answering =>
      simp only [RequestCall.move, Wires.empty, receivePiece_nil,
        Option.map_none] at moved
      cases moved
  | responding answers unsent received message =>
      obtain ⟨toClient', rfl, less, ongoing | returned⟩ :=
        client_receives answers received message moved
      · obtain ⟨point', got', continues, received', message'⟩ := ongoing
        exact .inl ⟨point', _, continues, less,
          .responding answers unsent received' message'⟩
      · obtain ⟨returns, rfl, rfl⟩ := returned
        obtain ⟨rfl, rfl⟩ := unsent.of_nothing rfl
        exact .inr ⟨_, returns, Nat.zero_lt_of_lt less, rfl, answers,
          .between⟩

end Client

/-! ## A `recv` of the handler -/

section Handler

variable {call : RequestCall} {point : CallPoint} {handler : HandlerPoint}
  {got toServer rest : List UInt8}

namespace RequestCall

theorem length_header (call : RequestCall) :
    call.header.length.toNat = call.function.requestBody.length := by
  have small : call.function.requestBody.length < 2 ^ 16 :=
    Nat.lt_of_le_of_lt call.function.length_requestBody_le (by decide)
  exact UInt16.toNat_ofNat_of_lt' small

/-- The header that a message begins with is the header of its call. -/
theorem header_of_onItsWay
    {header : MessageHeader} {received : List UInt8}
    (message : OnItsWay (header.bytes ++ received) toServer rest
      call.message) :
    header = call.header := by
  rw [OnItsWay, RequestCall.message, List.append_assoc] at message
  have sized : header.bytes.length = call.header.bytes.length := by
    rw [MessageHeader.length_bytes, MessageHeader.length_bytes]
  have same := (List.append_inj message sized).1
  rw [← header.ofBytes_bytes, same, MessageHeader.ofBytes_bytes]

end RequestCall

/-- A client that has sent everything waits for the response. -/
theorem RequestUnsent.of_nothing
    (unsent : RequestUnsent call point rest) (nothing : rest = []) :
    point = .receivingHeader [] := by
  cases unsent with
  | header pending =>
      exact absurd (List.append_eq_nil_iff.mp nothing).1 pending
  | body pending => exact absurd nothing pending
  | nothing => rfl

end Handler

end RainTyping
