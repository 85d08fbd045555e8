import RainTyping.Network.CallPhases

/-!
# The handler in a call

What the handler of a connection does to the phase it is in: receive more of
the request, take a critical section of its branch, send more of the
response.
-/

namespace RainTyping

/-! ## The request in the server -/

namespace Server

variable {qsort : QSort} {server : Server} {socket : Nat} {handler : Handler}
  {disk : DiskCalls}

/-- The handler of a socket is in the branch of a request. -/
def InBranch (server : Server) (socket : Nat) (peerOpen : Bool)
    (request : Request) (steps : Nat) : Prop :=
  ∃ user stage left, server.handlers socket = some ⟨user, stage, peerOpen⟩ ∧
    Answering request stage left ∧ left ≤ steps

private theorem inBranch_respond
    {request : Request} {response : Response} {steps : Nat}
    (type : response.type = request.respType) (fits : response.Fits)
    (last : 1 ≤ steps) :
    (server.respond socket handler response).InBranch socket handler.peerOpen
      request steps :=
  ⟨_, _, 1, respond_self, .answered type fits, last⟩

/-- A received request with its struct has entered its branch. -/
theorem inBranch_receive
    {request : Request} (full : FullSize request) :
    (server.receive qsort socket handler request disk).InBranch socket
      handler.peerOpen request 3 := by
  cases request with
  | register body =>
      simp only [receive, receiveRegister]
      split
      · exact inBranch_respond rfl (by trivial) (by decide)
      · exact ⟨_, _, 2, setHandler_self, .registerSearched, by decide⟩
  | login body =>
      cases body with
      | none => exact absurd rfl full
      | some credentials =>
          simp only [receive, receiveLogin]
          split
          · exact ⟨_, _, 3, setHandler_self, .loginChecked, Nat.le_refl 3⟩
          · exact inBranch_respond rfl (by trivial) (by decide)
  | scoreSubmit body =>
      cases body with
      | none => exact absurd rfl full
      | some score =>
          simp only [receive, receiveScoreSubmit]
          split
          · exact inBranch_respond rfl (by trivial) (by decide)
          · exact inBranch_respond rfl (by trivial) (by decide)
  | leaderboard =>
      exact inBranch_respond rfl (getLeaderboardImpl_fits _ _ _) (by decide)
  | wordlist => exact inBranch_respond rfl (by trivial) (by decide)
  | logout =>
      simp only [receive, receiveLogout]
      split
      · exact inBranch_respond rfl (by trivial) (by decide)
      · exact inBranch_respond rfl (by trivial) (by decide)
  | unknown type => exact inBranch_respond rfl (by trivial) (by decide)

/-- A received request that does not crash the server has entered its
branch, with or without its struct. -/
theorem inBranch_of_alive
    {request : Request}
    (alive : (server.receive qsort socket handler request disk).alive =
      true) :
    (server.receive qsort socket handler request disk).InBranch socket
      handler.peerOpen request 3 := by
  by_cases full : FullSize request
  · exact inBranch_receive full
  cases request with
  | register body =>
      obtain rfl := not_not.mp full
      exact inBranch_respond rfl (by trivial) (by decide)
  | login body =>
      obtain rfl := not_not.mp full
      simp only [receive, receiveLogin] at alive ⊢
      split
      · rename_i active
        rw [if_pos active] at alive
        cases alive
      · exact ⟨_, _, 3, setHandler_self, .loginChecked, Nat.le_refl 3⟩
  | scoreSubmit body =>
      obtain rfl := not_not.mp full
      simp only [receive, receiveScoreSubmit] at alive ⊢
      split
      · exact inBranch_respond rfl (by trivial) (by decide)
      · rename_i named
        rw [if_neg named] at alive
        cases alive
  | leaderboard => exact absurd trivial full
  | wordlist => exact absurd trivial full
  | logout => exact absurd trivial full
  | unknown type => exact absurd trivial full

theorem inBranch_verifyPassword
    {reads : ReadCalls} {body : Option Credentials} :
    (server.verifyPassword socket handler reads body).InBranch socket
      handler.peerOpen (.login body) 2 := by
  simp only [verifyPassword]
  split
  · exact ⟨_, _, 2, setHandler_self, .loginVerified, Nat.le_refl 2⟩
  · exact inBranch_respond rfl (by trivial) (by decide)

theorem inBranch_addSession
    {verified : Message} {body : Option Credentials} :
    (server.addSession socket handler verified).InBranch socket
      handler.peerOpen (.login body) 1 := by
  simp only [addSession]
  split
  · exact inBranch_respond rfl (by trivial) (Nat.le_refl 1)
  · exact inBranch_respond rfl (by trivial) (Nat.le_refl 1)

theorem inBranch_addUser
    {writes : WriteCalls} {newUser : UserData} {body : Option Credentials} :
    (server.addUser socket handler writes newUser).InBranch socket
      handler.peerOpen (.register body) 1 :=
  inBranch_respond rfl (by trivial) (Nat.le_refl 1)

private theorem verifyPassword_alive
    {reads : ReadCalls} {body : Option Credentials} :
    (server.verifyPassword socket handler reads body).alive =
      server.alive := by
  simp only [verifyPassword]
  split
  · rfl
  · rfl

private theorem addSession_alive {verified : Message} :
    (server.addSession socket handler verified).alive = server.alive := by
  simp only [addSession]
  split
  · rfl
  · rfl

/-- A later critical section of a branch takes it further. -/
theorem inBranch_ownStep
    {request : Request} {user : CharArray maxIdLen} {stage : Stage}
    {peerOpen : Bool} {steps : Nat} {action : Action} {next : Server}
    (live : server.handlers socket = some ⟨user, stage, peerOpen⟩)
    (answering : Answering request stage steps)
    (own : Session.ownStep (.answering request) action = true)
    (addressed : action.socket = socket)
    (stepped : step qsort server action = some next) :
    ∃ fewer, fewer + 1 = steps ∧ next.alive = server.alive ∧
      next.InBranch socket peerOpen request fewer := by
  obtain ⟨_, taken⟩ := step_iff.mp stepped
  subst addressed
  cases taken with
  | verifyPassword socket reads there atStage =>
      cases there.symm.trans live
      cases atStage
      cases answering
      exact ⟨2, rfl, verifyPassword_alive, inBranch_verifyPassword⟩
  | addSession socket there atStage =>
      cases there.symm.trans live
      cases atStage
      cases answering
      exact ⟨1, rfl, addSession_alive, inBranch_addSession⟩
  | addUser socket writes there atStage =>
      cases there.symm.trans live
      cases atStage
      cases answering
      exact ⟨1, rfl, rfl, inBranch_addUser⟩
  | _ => cases own

end Server

/-! ## A `send` or `recv` of the handler -/

namespace Session

section Handler

variable {qsort : QSort} {socket : Nat} {session next : Session}
  {call : RequestCall} {point : CallPoint} {handler : HandlerPoint}
  {count : Nat}

private theorem afterHeader_requesting
    {toServer rest : List UInt8}
    (unsent : RequestUnsent call point rest)
    (message : toServer ++ rest = call.function.requestBody)
    (moved : session.afterHeader qsort socket call.header = some next) :
    ∃ handler' left,
      next = { session with handler := handler' } ∧
        left ≤ transferWork rest toServer + 4 + responseWork ∧
          InStep (some (call, point)) handler' .receiving ⟨toServer, []⟩ none
            left := by
  have bound : call.function.requestBody.length ≤ maxBodyLen :=
    Nat.le_trans call.function.length_requestBody_le (by decide)
  rw [afterHeader, call.length_header] at moved
  by_cases there : call.function.requestBody.length > 0
  · rw [if_pos there, if_neg (Nat.not_lt.mpr bound)] at moved
    cases moved
    have short : ([] : List UInt8).length < call.header.length.toNat := by
      rw [call.length_header]
      exact there
    refine ⟨_, _, rfl, Nat.le_refl _, .requesting unsent (.body short) ?_⟩
    rw [OnItsWay, message, List.append_nil, RequestCall.message]
  · rw [if_neg there] at moved
    cases moved
    have empty : call.function.requestBody = [] :=
      List.eq_nil_of_length_eq_zero (Nat.eq_zero_of_not_pos there)
    obtain ⟨rfl, rfl⟩ := List.append_eq_nil_iff.mp (message.trans empty)
    cases unsent.of_nothing rfl
    have handling : InStep (some (call, .receivingHeader []))
        (.handling call.header.type call.function.requestBody) .receiving
          .empty none (4 + responseWork) :=
      .handling
    rw [empty] at handling
    exact ⟨_, _, rfl, Nat.le_refl _, handling⟩

theorem handler_receives
    {got toServer rest : List UInt8}
    (atPoint : session.handler = handler)
    (inFlight : session.wires = ⟨toServer, []⟩)
    (unsent : RequestUnsent call point rest)
    (received : RequestReceived handler got)
    (message : OnItsWay got toServer rest call.message)
    (moved : session.handlerMove qsort socket count = some next) :
    ∃ handler' toServer' left,
      next = { session with
        handler := handler'
        wires := ⟨toServer', []⟩ } ∧
        left < transferWork rest toServer + 4 + responseWork ∧
          InStep (some (call, point)) handler' .receiving ⟨toServer', []⟩ none
            left := by
  cases received with
  | @header received short =>
      simp only [handlerMove, atPoint, inFlight,
        Option.bind_eq_some_iff] at moved
      obtain ⟨⟨received', toServer'⟩, taken, moved⟩ := moved
      have less := transferWork_receive rest taken
      have onItsWay : OnItsWay received' toServer' rest call.message :=
        OnItsWay.receive [] message taken
      have within := receivePiece_within taken
      by_cases done : received'.length = sizeofMessageHeader
      · obtain ⟨rfl, body⟩ := onItsWay.part_received
          (done.trans call.header.length_bytes.symm)
        simp only [done, ↓reduceIte, MessageHeader.ofBytes_bytes] at moved
        obtain ⟨handler', left, rfl, le, inStep⟩ :=
          afterHeader_requesting unsent body moved
        exact ⟨handler', toServer', left, rfl, by omega, inStep⟩
      · simp only [done, ↓reduceIte] at moved
        cases moved
        exact ⟨_, toServer', _, rfl, by omega, .requesting unsent
          (.header (Nat.lt_of_le_of_ne within done)) onItsWay⟩
  | @body header received short =>
      cases RequestCall.header_of_onItsWay message
      simp only [handlerMove, atPoint, inFlight,
        Option.map_eq_some_iff] at moved
      obtain ⟨⟨received', toServer'⟩, taken, same⟩ := moved
      have less := transferWork_receive rest taken
      have onItsWay : OnItsWay (call.header.bytes ++ received') toServer' rest
          call.message :=
        message.receive _ taken
      have within := receivePiece_within taken
      by_cases done : received'.length = call.header.length.toNat
      · have complete : (call.header.bytes ++ received').length =
            call.message.length := by
          rw [RequestCall.message, List.length_append, List.length_append,
            done, call.length_header]
        obtain ⟨whole, rfl, rfl⟩ := onItsWay.all_received complete
        cases unsent.of_nothing rfl
        cases List.append_cancel_left whole
        simp only [done, ↓reduceIte] at same
        exact ⟨_, [], _, same.symm, by omega, .handling⟩
      · simp only [done, ↓reduceIte] at same
        exact ⟨_, toServer', _, same.symm, by omega, .requesting unsent
          (.body (Nat.lt_of_le_of_ne within done)) onItsWay⟩

theorem handler_sends
    {user : CharArray maxIdLen} {stage : Stage}
    {got toServer toClient rest message : List UInt8}
    (alive : session.server.alive = true)
    (live : session.server.handlers socket = some ⟨user, stage, true⟩)
    (atPoint : session.handler = handler)
    (inFlight : session.wires = ⟨toServer, toClient⟩)
    (idle : rest = [] → toServer = [])
    (unsent : ResponseUnsent handler stage rest)
    (onItsWay : OnItsWay got toClient rest message)
    (moved : session.handlerMove qsort socket count = some next) :
    ∃ server handler' stage' toClient' rest',
      next = { session with
        server := server
        handler := handler'
        wires := ⟨toServer, toClient'⟩ } ∧
        server.alive = true ∧
          server.handlers socket = some ⟨user, stage', true⟩ ∧
            transferWork rest' toClient' < transferWork rest toClient ∧
              ResponseUnsent handler' stage' rest' ∧
                OnItsWay got toClient' rest' message := by
  cases unsent with
  | @header unsent responseData response there later =>
      simp only [handlerMove, atPoint, inFlight,
        Option.bind_eq_some_iff] at moved
      obtain ⟨⟨unsent', toClient'⟩, sent, moved⟩ := moved
      have onItsWay' := onItsWay.send _ sent
      have less := transferWork_send responseData sent
      by_cases done : unsent' = []
      · simp only [done, ↓reduceIte] at moved
        rw [serverStep, Server.step_sendHeader alive live] at moved
        cases moved
        rw [done, List.nil_append] at onItsWay' less
        exact ⟨_, _, _, toClient', _, rfl, alive, Server.setHandler_self, less,
          .body later, onItsWay'⟩
      · simp only [done, ↓reduceIte] at moved
        cases moved
        exact ⟨_, _, _, toClient', _, rfl, alive, live, less,
          .header done later, onItsWay'⟩
  | @body unsent response there =>
      simp only [handlerMove, atPoint, inFlight,
        Option.bind_eq_some_iff] at moved
      obtain ⟨⟨unsent', toClient'⟩, sent, moved⟩ := moved
      have onItsWay' : OnItsWay got toClient' unsent' message := by
        have whole := OnItsWay.send [] (by rwa [List.append_nil]) sent
        rwa [List.append_nil] at whole
      have less : transferWork unsent' toClient' <
          transferWork rest toClient := by
        simpa using transferWork_send [] sent
      by_cases done : unsent' = []
      · simp only [done, ↓reduceIte] at moved
        rw [serverStep, Server.step_sendBody alive live] at moved
        cases moved
        rw [done] at onItsWay' less
        exact ⟨_, _, _, toClient', _, rfl, alive, Server.setHandler_self, less,
          .nothing, onItsWay'⟩
      · simp only [done, ↓reduceIte] at moved
        cases moved
        exact ⟨_, _, _, toClient', _, rfl, alive, live, less, .body done,
          onItsWay'⟩
  | nothing =>
      simp only [handlerMove, atPoint, inFlight, idle rfl, receivePiece_nil,
        Option.bind_none] at moved
      cases moved

end Handler

end Session

end RainTyping
