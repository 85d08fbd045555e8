import RainTyping.Network.Lockstep

/-!
# Every call returns

In every phase of a call the connection can take a step of its own, and it
takes at most so many of them.  A step that sends is needed only when there
is nothing to receive.
-/

namespace RainTyping

namespace Session

variable {qsort : QSort} {socket : Nat} {session : Session}
  {matched : List Served} {user : CharArray maxIdLen} {stage : Stage}
  {pending : Option Served} {work : Nat}

/-! ## Steps that can be taken -/

/-- The connection can take a step of its own. -/
def Enabled (session : Session) (qsort : QSort) (socket : Nat) : Prop :=
  ∃ action : SessionAction, action.Productive socket ∧ action.Smooth ∧
    ∃ next, Session.step qsort socket session action = some next

theorem enabled_of_handlerMove
    (alive : session.server.alive = true)
    (moves : ∃ next, session.handlerMove qsort socket 1 = some next) :
    session.Enabled qsort socket := by
  obtain ⟨next, moved⟩ := moves
  refine ⟨.handler (.moved 1), by simp [SessionAction.Productive],
    by simp [SessionAction.Smooth], next, ?_⟩
  simp only [Session.step, handlerTransfer, alive, ↓reduceIte, moved]

theorem enabled_of_move
    {call : RequestCall} {point : CallPoint}
    (inCall : session.current = some (call, point))
    (moves : ∃ outcome, call.move 1 false session.wires point = some outcome) :
    session.Enabled qsort socket := by
  obtain ⟨outcome, moved⟩ := moves
  refine ⟨.client (.moved 1) false, by simp [SessionAction.Productive],
    by simp [SessionAction.Smooth], ?_⟩
  simp only [Session.step, clientTransfer, inCall, RequestCall.transfer, moved]
  exact ⟨_, rfl⟩

theorem enabled_of_ownStep
    {action : Action} {server : Server}
    (addressed : action.socket = socket)
    (own : ownStep session.handler action = true)
    (stepped : Server.step qsort session.server action = some server) :
    session.Enabled qsort socket := by
  refine ⟨.server action, addressed, trivial, ?_⟩
  simp only [Session.step, otherStep, own, or_true, ↓reduceIte, serverStep,
    stepped]
  exact ⟨_, rfl⟩

/-! ## The phases -/

theorem serverStep_some
    {action : Action} {server : Server} {point : HandlerPoint}
    (stepped : Server.step qsort session.server action = some server) :
    ∃ next, session.serverStep qsort action point = some next := by
  rw [serverStep, stepped]
  exact ⟨_, rfl⟩

theorem afterHeader_some
    (header : MessageHeader) (alive : session.server.alive = true)
    (live : session.server.handlers socket = some ⟨user, .receiving, true⟩) :
    ∃ next, session.afterHeader qsort socket header = some next := by
  rw [afterHeader]
  split
  · split
    · exact serverStep_some
        (Server.step_iff.mpr ⟨alive, .hangUp socket live rfl⟩)
    · exact ⟨_, rfl⟩
  · exact ⟨_, rfl⟩

theorem handlerMove_receives
    {got : List UInt8}
    (alive : session.server.alive = true)
    (live : session.server.handlers socket = some ⟨user, .receiving, true⟩)
    (received : RequestReceived session.handler got)
    (arrived : session.wires.toServer ≠ []) :
    ∃ next, session.handlerMove qsort socket 1 = some next := by
  generalize atPoint : session.handler = handler at received
  cases received with
  | header short =>
      obtain ⟨received', rest, taken⟩ := receivePiece_one arrived short
      simp only [handlerMove, atPoint, taken, Option.bind_some]
      split
      · exact afterHeader_some _ alive live
      · exact ⟨_, rfl⟩
  | body short =>
      obtain ⟨received', rest, taken⟩ := receivePiece_one arrived short
      simp only [handlerMove, atPoint, taken, Option.map_some]
      exact ⟨_, rfl⟩

theorem handlerMove_sends
    {rest : List UInt8}
    (alive : session.server.alive = true)
    (live : session.server.handlers socket = some ⟨user, stage, true⟩)
    (unsent : ResponseUnsent session.handler stage rest)
    (there : rest ≠ []) :
    ∃ next, session.handlerMove qsort socket 1 = some next := by
  generalize atPoint : session.handler = handler at unsent
  cases unsent with
  | header pending later =>
      obtain ⟨rest', stream, sent⟩ :=
        sendPiece_one pending session.wires.toClient
      simp only [handlerMove, atPoint, sent, Option.bind_some]
      split
      · exact serverStep_some
          (Server.step_sendHeader alive live)
      · exact ⟨_, rfl⟩
  | body pending =>
      obtain ⟨rest', stream, sent⟩ :=
        sendPiece_one pending session.wires.toClient
      simp only [handlerMove, atPoint, sent, Option.bind_some]
      split
      · exact serverStep_some
          (Server.step_sendBody alive live)
      · exact ⟨_, rfl⟩
  | nothing => exact absurd rfl there

theorem move_sends
    {call : RequestCall} {point : CallPoint} {rest : List UInt8}
    (wires : Wires) (unsent : RequestUnsent call point rest)
    (there : rest ≠ []) :
    ∃ outcome, call.move 1 false wires point = some outcome := by
  cases unsent with
  | header pending =>
      obtain ⟨rest', stream, sent⟩ := sendPiece_one pending wires.toServer
      simp only [RequestCall.move, sent, Option.map_some]
      exact ⟨_, rfl⟩
  | body pending =>
      obtain ⟨rest', stream, sent⟩ := sendPiece_one pending wires.toServer
      simp only [RequestCall.move, sent, Option.map_some]
      exact ⟨_, rfl⟩
  | nothing => exact absurd rfl there

theorem move_receives
    {served : Served} {wires : Wires} {point : CallPoint} {got : List UInt8}
    (call : RequestCall) (received : ResponseReceived served point got)
    (arrived : wires.toClient ≠ []) :
    ∃ outcome, call.move 1 false wires point = some outcome := by
  cases received with
  | header short =>
      obtain ⟨received', rest, taken⟩ := receivePiece_one arrived short
      simp only [RequestCall.move, taken, Option.map_some]
      exact ⟨_, rfl⟩
  | body short =>
      obtain ⟨received', rest, taken⟩ := receivePiece_one arrived short
      simp only [RequestCall.move, taken, Option.map_some]
      exact ⟨_, rfl⟩

/-- A request that is not received in full lacks bytes of its message. -/
theorem length_received_request_lt
    {call : RequestCall} {handler : HandlerPoint}
    {got toServer rest : List UInt8} (received : RequestReceived handler got)
    (message : OnItsWay got toServer rest call.message) :
    got.length < call.message.length := by
  cases received with
  | header short =>
      rw [RequestCall.message, List.length_append, MessageHeader.length_bytes]
      exact Nat.lt_of_lt_of_le short (Nat.le_add_right _ _)
  | body short =>
      cases RequestCall.header_of_onItsWay message
      rw [call.length_header] at short
      rw [RequestCall.message, List.length_append, List.length_append]
      exact Nat.add_lt_add_left short _

theorem length_received_response_lt
    {served : Served} {point : CallPoint} {got : List UInt8}
    (received : ResponseReceived served point got) :
    got.length < served.message.length := by
  cases received with
  | header short =>
      rw [Served.message, List.length_append, MessageHeader.length_bytes]
      exact Nat.lt_of_lt_of_le short (Nat.le_add_right _ _)
  | body short =>
      rw [Served.message, List.length_append, List.length_append]
      exact Nat.add_lt_add_left short _

variable (qsort) in
/-- In the branch of a request, the handler can take a critical section or
begin to send the response. -/
theorem branch_goesOn
    {request : Request} {steps : Nat}
    (alive : session.server.alive = true)
    (live : session.server.handlers socket = some ⟨user, stage, true⟩)
    (atPoint : session.handler = .answering request)
    (answering : Answering request stage steps) :
    (∃ action server, action.socket = socket ∧
        ownStep session.handler action = true ∧
          Server.step qsort session.server action = some server) ∨
      ∃ responseData next,
        session.respond socket responseData = some next := by
  rw [atPoint]
  cases answering with
  | loginChecked =>
      exact .inl ⟨.verifyPassword socket .succeed, _, rfl, rfl,
        Server.step_iff.mpr
          ⟨alive, .verifyPassword socket .succeed live rfl⟩⟩
  | loginVerified =>
      exact .inl ⟨.addSession socket, _, rfl, rfl,
        Server.step_iff.mpr ⟨alive, .addSession socket live rfl⟩⟩
  | registerSearched =>
      exact .inl ⟨.addUser socket .succeed, _, rfl, rfl,
        Server.step_iff.mpr ⟨alive, .addUser socket .succeed live rfl⟩⟩
  | @answered _ response type fits =>
      have responds : session.server.response socket = some response := by
        rw [Server.response, live]
      have filled := Response.fillsStruct_struct fits
      refine .inr ⟨response.struct, ?_⟩
      simp only [respond, atPoint, responds, alive, filled, and_self,
        ↓reduceIte]
      exact ⟨_, rfl⟩

theorem enabled_of_answering
    {request : Request} {steps : Nat}
    (alive : session.server.alive = true)
    (live : session.server.handlers socket = some ⟨user, stage, true⟩)
    (atPoint : session.handler = .answering request)
    (answering : Answering request stage steps) :
    session.Enabled qsort socket := by
  rcases branch_goesOn qsort alive live atPoint answering with
    ⟨action, server, addressed, own, stepped⟩ | ⟨responseData, responded⟩
  · exact enabled_of_ownStep addressed own stepped
  · exact ⟨.respond responseData, trivial, trivial, responded⟩

/-- While a call is to be made or to return, the connection can go on. -/
theorem InPhase.enabled
    (inPhase : session.InPhase socket matched user stage pending work)
    (alive : session.server.alive = true) :
    session.current = none ∧ session.calls = [] ∨
      session.Enabled qsort socket := by
  obtain ⟨server, handler, wires, connected, calls, current, returned,
    history⟩ := session
  obtain ⟨rfl, live, inStep, served, agree⟩ := inPhase
  cases inStep with
  | between =>
      cases calls with
      | nil => exact .inl ⟨rfl, rfl⟩
      | cons call calls =>
          refine .inr ⟨.call false, trivial, rfl, ?_⟩
          rw [Session.step, callNext_eq rfl rfl rfl]
          exact ⟨_, rfl⟩
  | @requesting _ _ _ _ _ toServer unsent received message =>
      right
      by_cases arrived : toServer = []
      · rcases message.pending (length_received_request_lt received message)
          with some | there
        · exact absurd arrived some
        · exact enabled_of_move rfl (move_sends _ unsent there)
      · exact enabled_of_handlerMove alive
          (handlerMove_receives alive live received arrived)
  | @handling call =>
      right
      refine ⟨.receive .succeed, trivial, trivial, ?_⟩
      simp only [Session.step, receive, call.function.readRequest_requestBody]
      exact serverStep_some (Server.step_iff.mpr
        ⟨alive, .receive socket _ .succeed live rfl⟩)
  | answering answering =>
      exact .inr (enabled_of_answering alive live rfl answering)
  | @responding _ _ _ _ _ _ toClient _ answers unsent received message =>
      right
      by_cases arrived : toClient = []
      · rcases message.pending (length_received_response_lt received)
          with some | there
        · exact absurd arrived some
        · exact enabled_of_handlerMove alive
            (handlerMove_sends alive live unsent there)
      · exact enabled_of_move rfl (move_receives _ received arrived)

/-! ## Runs -/

/-- All calls are made and have returned. -/
def Finished (session : Session) : Prop :=
  session.current = none ∧ session.calls = []

variable {calls : List RequestCall}

theorem Finished.length_returned
    (finished : session.Finished) (same : session.allCalls = calls) :
    session.returned.length = calls.length := by
  rw [← same, allCalls, finished.1, finished.2]
  simp

/-- What holds of a connection at any time: the call that returned as the
`k`-th has the answer to the `k`-th request; between two calls nothing is
unread; and unless the server process ends, the connection can go on with its
calls, up to the return of the last one. -/
structure KeepsLockstep (session : Session) (qsort : QSort) (socket : Nat)
    (calls : List RequestCall) : Prop where
  answered : ∀ (k : Nat) (returned : ReturnedCall),
    session.returned[k]? = some returned →
      calls[k]? = some returned.call ∧
        ∃ served, session.served[k]? = some served ∧ returned.Agrees served
  nothingUnread : session.current = none →
    session.wires = .empty ∧ session.handler = .receivingHeader [] ∧
      session.served.length = session.returned.length
  goesOn : session.server.alive = true →
    session.returned.length = calls.length ∨ session.Enabled qsort socket
  completes : session.server.alive = true →
    ∃ actions final, (∀ action ∈ actions, action.Smooth) ∧
      (Session.step qsort socket).run session actions = some final ∧
        final.returned.map ReturnedCall.call = calls

theorem InPhase.answered
    (inPhase : session.InPhase socket matched user stage pending work)
    (same : session.allCalls = calls)
    {k : Nat} {returned : ReturnedCall}
    (kth : session.returned[k]? = some returned) :
    calls[k]? = some returned.call ∧
      ∃ served, session.served[k]? = some served ∧ returned.Agrees served := by
  obtain ⟨within, rfl⟩ := List.getElem?_eq_some_iff.mp kth
  obtain ⟨sized, agree⟩ := List.forall₂_iff_get.mp inPhase.agree
  have withinMatched : k < matched.length :=
    sized ▸ within
  refine ⟨?_, matched[k], ?_, agree k within withinMatched⟩
  · have called : (session.returned.map ReturnedCall.call)[k]? =
        some session.returned[k].call := by
      rw [List.getElem?_map, kth]
      rfl
    rw [← same, allCalls, List.append_assoc,
      List.getElem?_append_left (by rwa [List.length_map]), called]
  · rw [inPhase.served, List.getElem?_append_left withinMatched]
    exact List.getElem?_eq_getElem withinMatched

theorem InPhase.nothingUnread
    (inPhase : session.InPhase socket matched user stage pending work)
    (idle : session.current = none) :
    session.wires = .empty ∧ session.handler = .receivingHeader [] ∧
      session.served.length = session.returned.length := by
  obtain ⟨server, handler, wires, connected, calls, current, returned,
    history⟩ := session
  obtain ⟨rfl, live, inStep, served, agree⟩ := inPhase
  cases idle
  cases inStep with
  | between =>
      refine ⟨rfl, rfl, ?_⟩
      have counted := congrArg List.length served
      rw [List.length_append] at counted
      exact counted.trans agree.length_eq.symm

/-- The calls of a connection with a live server can be brought to their
end. -/
theorem Lockstep.completes
    (qsort : QSort) (lockstep : session.Lockstep socket work)
    (same : session.allCalls = calls)
    (alive : session.server.alive = true) :
    ∃ actions final, (∀ action ∈ actions, action.Smooth) ∧
      (Session.step qsort socket).run session actions = some final ∧
        final.returned.map ReturnedCall.call = calls := by
  have progress : ∀ (state : Session) (work : Nat),
      state.Lockstep socket work ∧ state.allCalls = calls ∧
          state.server.alive = true →
        state.Finished ∨ ∃ (action : SessionAction) (next : Session)
          (left : Nat), action.Smooth ∧
            Session.step qsort socket state action = some next ∧
              (next.Lockstep socket left ∧ next.allCalls = calls ∧
                next.server.alive = true) ∧ left < work := by
    intro state work ⟨holds, same, alive⟩
    have phase := holds
    obtain ⟨_, _, _, _, _, inPhase, _⟩ := phase
    rcases inPhase.enabled alive with finished | enabled
    · exact .inl finished
    · obtain ⟨action, productive, smooth, next, stepped⟩ := enabled
      have advances := holds.step smooth stepped
      rw [if_pos productive] at advances
      obtain ⟨kept, survives, left, later, spent⟩ := advances
      exact .inr ⟨action, next, left, smooth, stepped,
        ⟨later, kept.trans same, survives Nat.one_pos alive⟩, spent⟩
  obtain ⟨actions, final, left, smooth, ran, holds, finished⟩ :=
    Machine.exists_run_done progress ⟨lockstep, same, alive⟩
  refine ⟨actions, final, smooth, ran, ?_⟩
  rw [← holds.2.1, allCalls, finished.1, finished.2]
  simp

/-- Client and server stay in lockstep in every run in which the connection is
not lost and no `SIGINT` arrives. -/
theorem keepsLockstep_of_run
    {qsort : QSort} {server : Server} {socket : Nat}
    {calls : List RequestCall} {actions : List SessionAction}
    {session : Session} (smooth : ∀ action ∈ actions, action.Smooth)
    (ran : (Session.step qsort socket).run (start server socket calls)
      actions = some session) :
    session.KeepsLockstep qsort socket calls ∧
      actions.countP (fun action => action.Productive socket) ≤
        calls.length * callWork := by
  obtain ⟨left, ⟨lockstep, same⟩, spent⟩ := lockstep_of_run smooth ran
  have completes := lockstep.completes qsort same
  obtain ⟨_, _, _, _, _, inPhase, _⟩ := lockstep
  refine ⟨⟨fun k returned => inPhase.answered same, inPhase.nothingUnread, ?_,
    completes⟩, Nat.le_trans (Nat.le_add_left _ left) spent⟩
  intro alive
  rcases inPhase.enabled alive with finished | enabled
  · exact .inl (Finished.length_returned finished same)
  · exact .inr enabled

/-- A login call and a logout call with empty response structs. -/
def inAndOut : List RequestCall :=
  [⟨.sendLoginRequest (.ofBuffer (text "a")) (.ofBuffer (text "b")),
      List.replicate sizeofStatusResponse 0, List.length_replicate⟩,
    ⟨.sendLogoutRequest, List.replicate sizeofStatusResponse 0,
      List.length_replicate⟩]

/-- The user `a` logs in and out; the messages go in pieces. -/
def inAndOutActions : List SessionAction :=
  [.call false, .client (.moved 2) false, .handler (.moved 1),
    .handler .interrupted, .client (.moved 4) false, .handler (.moved 5),
    .client (.moved 50) false, .handler (.moved 30),
    .client (.moved 54) false, .handler (.moved 74), .receive .succeed,
    .server (.verifyPassword 4 .succeed), .server (.addSession 4),
    .respond (Response.struct (.login
      ⟨true, messageFor "Login successful for '" (.ofBuffer (text "a")) "'."⟩)),
    .handler (.moved 6), .client (.moved 6) false, .handler (.moved 100),
    .client .interrupted false, .client (.moved 70) false,
    .handler (.moved 32), .client (.moved 62) false,
    .call false, .client (.moved 6) false, .handler (.moved 6),
    .receive .succeed,
    .respond (Response.struct
      (.logout ⟨true, message (text "Logged out successfully.")⟩)),
    .handler (.moved 6), .client (.moved 6) false, .handler (.moved 132),
    .client (.moved 132) false]

theorem keepsLockstep_of_inAndOut :
    ∃ session, (Session.step .insertion 4).run
        (start (.start (some (text "a:b\n")) none .empty) 4 inAndOut)
          inAndOutActions = some session ∧
      session.returned.map ReturnedCall.code = [0, 0] ∧
        session.KeepsLockstep .insertion 4 inAndOut ∧
          inAndOutActions.countP (fun action => action.Productive 4) ≤
            inAndOut.length * callWork := by
  have returns : ((Session.step .insertion 4).run
      (start (.start (some (text "a:b\n")) none .empty) 4 inAndOut)
        inAndOutActions).map
          (fun session => session.returned.map ReturnedCall.code) =
        some [0, 0] := by
    decide +kernel
  obtain ⟨session, ran, returned⟩ := Option.map_eq_some_iff.mp returns
  exact ⟨session, ran, returned, keepsLockstep_of_run (by decide) ran⟩

end Session

end RainTyping
