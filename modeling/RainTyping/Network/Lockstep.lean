import RainTyping.Network.HandlerPhases

/-!
# Client and server in lockstep

While neither the connection nor `SIGINT` gets in the way, every step keeps a
connection in one of the phases of its calls, and the steps that are not
interrupted leave less work.  So every call returns, with the response that
the server has computed for it.
-/

namespace RainTyping

namespace SessionAction

/-- Neither end loses the connection, and no `SIGINT` has arrived. -/
def Smooth : SessionAction → Prop
  | .call sigint => sigint = false
  | .client transfer sigint => transfer ≠ .failed ∧ sigint = false
  | .handler transfer => transfer ≠ .failed
  | _ => True

instance : DecidablePred Smooth
  | .call sigint => inferInstanceAs (Decidable (sigint = false))
  | .client transfer sigint =>
      inferInstanceAs (Decidable (transfer ≠ .failed ∧ sigint = false))
  | .handler transfer => inferInstanceAs (Decidable (transfer ≠ .failed))
  | .receive _ => isTrue trivial
  | .respond _ => isTrue trivial
  | .server _ => isTrue trivial

/-- A step of this connection that is not an interrupted `send` or `recv`. -/
def Productive (socket : Nat) : SessionAction → Prop
  | .client transfer _ => transfer ≠ .interrupted
  | .handler transfer => transfer ≠ .interrupted
  | .server action => action.socket = socket
  | _ => True

instance (socket : Nat) : DecidablePred (Productive socket)
  | .client transfer _ => inferInstanceAs (Decidable (transfer ≠ .interrupted))
  | .handler transfer => inferInstanceAs (Decidable (transfer ≠ .interrupted))
  | .server action => inferInstanceAs (Decidable (action.socket = socket))
  | .call _ => isTrue trivial
  | .receive _ => isTrue trivial
  | .respond _ => isTrue trivial

end SessionAction

/-! ## The invariant -/

/-- A call has returned what the server has computed for its request. -/
structure ReturnedCall.Agrees (returned : ReturnedCall) (served : Served) :
    Prop where
  code : returned.code = 0
  request : served.request = returned.call.function.request
  responseData : returned.response = served.responseData
  response : readResponse returned.call.function.expectedRespType
    returned.response = some served.response

theorem Served.Answers.agrees
    {served : Served} {call : RequestCall} (answers : served.Answers call) :
    ReturnedCall.Agrees ⟨call, 0, served.responseData⟩ served where
  code := rfl
  request := answers.request
  responseData := rfl
  response := by
    rw [← answers.type]
    exact answers.struct.2

/-- The work of a call, at most. -/
abbrev callWork : Nat :=
  2 * (sizeofMessageHeader + sizeofRegisterRequest) + 5 + responseWork

namespace Session

/-- The connection is in a phase of its calls. -/
structure InPhase (session : Session) (socket : Nat) (matched : List Served)
    (user : CharArray maxIdLen) (stage : Stage) (pending : Option Served)
    (work : Nat) : Prop where
  connected : session.connected = true
  live : session.server.handlers socket = some ⟨user, stage, true⟩
  inStep : InStep session.current session.handler stage session.wires pending
    work
  served : session.served = matched ++ pending.toList
  agree : List.Forall₂ ReturnedCall.Agrees session.returned matched

/-- All calls of the client, made or not. -/
def allCalls (session : Session) : List RequestCall :=
  session.returned.map ReturnedCall.call ++
    (session.current.map Prod.fst).toList ++ session.calls

/-- The invariant, with the work that is left of all calls. -/
def Lockstep (session : Session) (socket : Nat) (work : Nat) : Prop :=
  ∃ matched user stage pending left,
    session.InPhase socket matched user stage pending left ∧
      work = left + session.calls.length * callWork

/-- The next state keeps the invariant and its calls, at some cost; what has
a cost does not crash the server. -/
structure Advances (session next : Session) (socket work cost : Nat) :
    Prop where
  calls : next.allCalls = session.allCalls
  alive : 0 < cost → session.server.alive = true → next.server.alive = true
  lockstep : ∃ left, next.Lockstep socket left ∧ left + cost ≤ work

variable {qsort : QSort} {socket : Nat} {session next : Session}
  {matched : List Served} {user : CharArray maxIdLen} {stage : Stage}
  {pending : Option Served} {work : Nat}

theorem lockstep_start (server : Server) (calls : List RequestCall) :
    (start server socket calls).Lockstep socket (calls.length * callWork) :=
  ⟨[], _, _, none, 0,
    ⟨rfl, Server.setHandler_self, .between, rfl, .nil⟩,
    (Nat.zero_add _).symm⟩

/-- A step within a call. -/
theorem InPhase.advances
    {matched' : List Served} {user' : CharArray maxIdLen} {stage' : Stage}
    {pending' : Option Served} {left cost : Nat}
    (inPhase : next.InPhase socket matched' user' stage' pending' left)
    (calls : next.calls = session.calls)
    (made : next.allCalls = session.allCalls)
    (alive : 0 < cost → session.server.alive = true →
      next.server.alive = true)
    (cheaper : left + cost ≤ work) :
    session.Advances next socket (work + session.calls.length * callWork)
      cost := by
  refine ⟨made, alive, _,
    ⟨matched', user', stage', pending', left, inPhase, rfl⟩, ?_⟩
  rw [calls]
  omega

/-! ## The client -/

theorem requestWork_le (call : RequestCall) :
    transferWork (call.header.bytes ++ call.function.requestBody) [] + 4 +
      responseWork + 1 ≤ callWork := by
  have bound := call.function.length_requestBody_le
  simp only [transferWork, List.length_append, List.length_nil,
    MessageHeader.length_bytes, callWork]
  omega

theorem callNext_eq
    {call : RequestCall} {calls : List RequestCall}
    (idle : session.current = none) (connected : session.connected = true)
    (first : session.calls = call :: calls) :
    session.callNext qsort socket false =
      some { session with
        calls := calls
        current := some (call, .sendingHeader call.header.bytes) } := by
  simp only [Session.callNext, idle, first, connected, RequestCall.start,
    conclude, ↓reduceIte, Bool.false_eq_true]

theorem InPhase.callNext
    (inPhase : session.InPhase socket matched user stage pending work)
    (called : session.callNext qsort socket false = some next) :
    session.Advances next socket
      (work + session.calls.length * callWork) 1 := by
  obtain ⟨server, handler, wires, connected, calls, current, returned,
    history⟩ := session
  obtain ⟨rfl, live, inStep, served, agree⟩ := inPhase
  cases inStep with
  | between =>
      cases calls with
      | nil => cases called
      | cons call calls =>
          rw [callNext_eq rfl rfl rfl] at called
          cases called
          have inStep : InStep
              (some (call, .sendingHeader call.header.bytes)) _ .receiving
              .empty none _ :=
            .requesting (.header call.header.bytes_ne_nil)
              (.header nothing_short) rfl
          have cost := requestWork_le call
          refine ⟨?_, fun _ alive => alive, _,
            ⟨_, _, _, _, _, ⟨rfl, live, inStep, served, agree⟩, rfl⟩, ?_⟩
          · simp [allCalls]
          · simp only [List.length_cons, Nat.succ_mul calls.length]
            omega
  | _ => cases called

theorem InPhase.clientMoved
    {count : Nat}
    (inPhase : session.InPhase socket matched user stage pending work)
    (moved : session.clientTransfer qsort socket (.moved count) false =
      some next) :
    session.Advances next socket
      (work + session.calls.length * callWork) 1 := by
  obtain ⟨server, handler, wires, connected, calls, current, returned,
    history⟩ := session
  obtain ⟨rfl, live, inStep, served, agree⟩ := inPhase
  cases current with
  | none => cases moved
  | some inCall =>
      obtain ⟨call, point⟩ := inCall
      simp only [clientTransfer, Option.map_eq_some_iff] at moved
      obtain ⟨⟨outcome, wires'⟩, transferred, rfl⟩ := moved
      rcases inStep.client_moves transferred with
        ⟨point', left, rfl, less, inStep'⟩ |
          ⟨answer, rfl, positive, rfl, answers, inStep'⟩
      · exact InPhase.advances ⟨rfl, live, inStep', served, agree⟩ rfl rfl
          (fun _ alive => alive) less
      · have agree' : List.Forall₂ ReturnedCall.Agrees
            (returned ++ [⟨call, 0, answer.responseData⟩])
            (matched ++ [answer]) :=
          List.rel_append agree (.cons answers.agrees .nil)
        have served' : history = matched ++ [answer] ++ [] :=
          (served : history = matched ++ [answer]).trans
            (List.append_nil _).symm
        exact InPhase.advances ⟨rfl, live, inStep', served', agree'⟩ rfl
          (by simp [allCalls, conclude]) (fun _ alive => alive) positive

/-! ## The handler -/

theorem InPhase.handlerMoved
    {count : Nat}
    (inPhase : session.InPhase socket matched user stage pending work)
    (alive : session.server.alive = true)
    (moved : session.handlerMove qsort socket count = some next) :
    session.Advances next socket
      (work + session.calls.length * callWork) 1 := by
  obtain ⟨server, handler, wires, connected, calls, current, returned,
    history⟩ := session
  obtain ⟨rfl, live, inStep, served, agree⟩ := inPhase
  cases inStep with
  | between =>
      simp only [handlerMove, receivePiece_nil, Option.bind_none] at moved
      cases moved
  | requesting unsent received message =>
      obtain ⟨handler', toServer', left, rfl, less, inStep'⟩ :=
        handler_receives rfl rfl unsent received message moved
      exact InPhase.advances ⟨rfl, live, inStep', served, agree⟩ rfl rfl
        (fun _ alive => alive) less
  | handling => cases moved
  | answering answering => cases moved
  | responding answers unsent received message =>
      obtain ⟨server', handler', stage', toClient', rest', rfl, alive', live',
        less, unsent', message'⟩ :=
        handler_sends alive live rfl rfl (fun _ => rfl) unsent message moved
      exact InPhase.advances
        ⟨rfl, live', .responding answers unsent' received message', served,
          agree⟩ rfl rfl (fun _ _ => alive') less

theorem handling_of_receive
    {disk : DiskCalls}
    (received : session.receive qsort socket disk = some next) :
    ∃ type body, session.handler = .handling type body := by
  unfold receive at received
  split at received
  · exact ⟨_, _, ‹_›⟩
  · cases received

theorem InPhase.received
    {disk : DiskCalls}
    (inPhase : session.InPhase socket matched user stage pending work)
    (received : session.receive qsort socket disk = some next) :
    session.Advances next socket
      (work + session.calls.length * callWork) 1 := by
  obtain ⟨type, body, atPoint⟩ := handling_of_receive received
  obtain ⟨server, handler, wires, connected, calls, current, returned,
    history⟩ := session
  obtain ⟨rfl, live, inStep, served, agree⟩ := inPhase
  cases atPoint
  obtain ⟨call, rfl, rfl, rfl, rfl, rfl, rfl, rfl⟩ := inStep.of_handling
  simp only [receive, call.function.readRequest_requestBody, serverStep,
    Option.map_eq_some_iff] at received
  obtain ⟨server', stepped, rfl⟩ := received
  obtain ⟨_, taken⟩ := Server.step_iff.mp stepped
  cases taken with
  | receive _ _ _ there atStage =>
      cases there.symm.trans live
      have inBranch : (server.receive qsort socket ⟨user, .receiving, true⟩
          call.function.request disk).InBranch socket true
            call.function.request 3 :=
        Server.inBranch_receive call.function.fullSize_request
      obtain ⟨user', stage', steps, live', answering, within⟩ := inBranch
      exact InPhase.advances
        ⟨rfl, live', .answering answering, served, agree⟩ rfl rfl
        (fun _ alive =>
          (Server.receive_fullSize call.function.fullSize_request).trans
            alive)
        (by omega)

theorem answered_of_answering
    {request : Request} {response : Response} {steps : Nat}
    (answering : Answering request (.sendingHeader response) steps) :
    response.type = request.respType ∧ response.Fits ∧ steps = 1 := by
  cases answering with
  | answered type fits => exact ⟨type, fits, rfl⟩

theorem stage_of_response
    {server : Server} {response : Response}
    (live : server.handlers socket = some ⟨user, stage, true⟩)
    (responds : server.response socket = some response) :
    stage = .sendingHeader response := by
  rw [Server.response, live] at responds
  cases stage with
  | sendingHeader other =>
      cases responds
      rfl
  | _ => cases responds

theorem answering_of_respond
    {responseData : List UInt8}
    (responded : session.respond socket responseData = some next) :
    ∃ request response, session.handler = .answering request ∧
      session.server.response socket = some response ∧
        response.FillsStruct responseData ∧
          next = { session with
            handler := .sendingHeader
              (Served.header ⟨request, response, responseData⟩).bytes
              responseData
            served := session.served ++
              [⟨request, response, responseData⟩] } := by
  unfold respond at responded
  split at responded
  · rename_i request response atPoint responds
    split at responded
    · rename_i filled
      cases responded
      exact ⟨request, response, atPoint, responds, filled.2, rfl⟩
    · cases responded
  · cases responded

theorem InPhase.responded
    {responseData : List UInt8}
    (inPhase : session.InPhase socket matched user stage pending work)
    (responded : session.respond socket responseData = some next) :
    session.Advances next socket
      (work + session.calls.length * callWork) 1 := by
  obtain ⟨request, response, atPoint, responds, filled, rfl⟩ :=
    answering_of_respond responded
  obtain ⟨server, handler, wires, connected, calls, current, returned,
    history⟩ := session
  obtain ⟨rfl, live, inStep, served, agree⟩ := inPhase
  cases atPoint
  obtain ⟨call, steps, rfl, rfl, answering, rfl, rfl, rfl⟩ :=
    inStep.of_answering
  obtain rfl := stage_of_response live responds
  obtain ⟨type, _, rfl⟩ := answered_of_answering answering
  have answers : Served.Answers
      ⟨call.function.request, response, responseData⟩ call :=
    ⟨rfl, type.trans call.function.respType_request, filled⟩
  have length : responseData.length = call.function.responseBodyMaxLen :=
    answers.length_responseData
  have bound := call.function.responseBodyMaxLen_le
  have there : responseData ≠ [] := by
    apply List.ne_nil_of_length_pos
    rw [length]
    exact call.function.responseBodyMaxLen_pos
  have served' : history ++ [⟨call.function.request, response,
      responseData⟩] = matched ++ [⟨call.function.request, response,
        responseData⟩] :=
    congrArg (· ++ _) (served.trans (List.append_nil matched))
  refine InPhase.advances
    ⟨rfl, live, .responding answers
      (.header (MessageHeader.bytes_ne_nil _) there)
      (.header nothing_short) rfl, served', agree⟩ rfl rfl
    (fun _ alive => alive) ?_
  simp only [transferWork, List.length_append, List.length_nil,
    MessageHeader.length_bytes, responseWork]
  omega

theorem point_of_ownStep
    {handler : HandlerPoint} {action : Action}
    (own : ownStep handler action = true) :
    (∃ request, handler = .answering request) ∨ handler = .left := by
  unfold ownStep at own
  split at own
  · exact .inl ⟨_, rfl⟩
  · exact .inl ⟨_, rfl⟩
  · exact .inl ⟨_, rfl⟩
  · exact .inr rfl
  · cases own

theorem InPhase.ownStepped
    {action : Action}
    (inPhase : session.InPhase socket matched user stage pending work)
    (addressed : action.socket = socket)
    (stepped : session.otherStep qsort socket action = some next) :
    session.Advances next socket
      (work + session.calls.length * callWork) 1 := by
  obtain ⟨server, handler, wires, connected, calls, current, returned,
    history⟩ := session
  obtain ⟨rfl, live, inStep, served, agree⟩ := inPhase
  rw [otherStep] at stepped
  split at stepped
  swap
  · cases stepped
  rename_i allowed
  have own := allowed.resolve_left (not_not.mpr addressed)
  simp only [serverStep, Option.map_eq_some_iff] at stepped
  obtain ⟨server', taken, rfl⟩ := stepped
  rcases point_of_ownStep own with ⟨request, rfl⟩ | rfl
  · obtain ⟨call, steps, rfl, rfl, answering, rfl, rfl, rfl⟩ :=
      inStep.of_answering
    obtain ⟨fewer, less, sameAlive, inBranch⟩ :=
      Server.inBranch_ownStep live answering own addressed taken
    obtain ⟨user', stage', left, live', answering', within⟩ := inBranch
    exact InPhase.advances
      ⟨rfl, live', .answering answering', served, agree⟩ rfl rfl
      (fun _ alive => sameAlive.trans alive) (by omega)
  · exact inStep.not_left.elim

theorem InPhase.otherStepped
    {action : Action}
    (inPhase : session.InPhase socket matched user stage pending work)
    (apart : action.socket ≠ socket)
    (stepped : session.otherStep qsort socket action = some next) :
    session.Advances next socket
      (work + session.calls.length * callWork) 0 := by
  rw [otherStep, if_pos (.inl apart)] at stepped
  simp only [serverStep, Option.map_eq_some_iff] at stepped
  obtain ⟨server', taken, rfl⟩ := stepped
  have live' : server'.handlers socket = some ⟨user, stage, true⟩ :=
    (Server.step_other taken apart.symm).trans inPhase.live
  exact InPhase.advances
    ⟨inPhase.connected, live', inPhase.inStep, inPhase.served, inPhase.agree⟩
    rfl rfl (fun costly => absurd costly (Nat.lt_irrefl 0)) (Nat.le_refl work)

/-! ## Steps and runs -/

theorem InPhase.stays
    (inPhase : session.InPhase socket matched user stage pending work) :
    session.Advances session socket
      (work + session.calls.length * callWork) 0 :=
  inPhase.advances rfl rfl (fun _ alive => alive) (Nat.le_refl work)

theorem eq_of_interrupted
    (interrupted : session.clientTransfer qsort socket .interrupted false =
      some next) :
    next = session := by
  obtain ⟨server, handler, wires, connected, calls, current, returned,
    served⟩ := session
  cases current with
  | none => cases interrupted
  | some inCall =>
      cases interrupted
      rfl

/-- Every smooth step keeps the connection in lockstep, and a productive one
leaves less work. -/
theorem Lockstep.step
    {action : SessionAction}
    (lockstep : session.Lockstep socket work) (smooth : action.Smooth)
    (stepped : Session.step qsort socket session action = some next) :
    session.Advances next socket work
      (if action.Productive socket then 1 else 0) := by
  obtain ⟨matched, user, stage, pending, left, inPhase, rfl⟩ := lockstep
  cases action with
  | call sigint =>
      cases smooth
      exact inPhase.callNext stepped
  | client transfer sigint =>
      obtain ⟨intact, rfl⟩ := smooth
      cases transfer with
      | moved count => exact inPhase.clientMoved stepped
      | interrupted =>
          rw [eq_of_interrupted stepped]
          exact inPhase.stays
      | failed => exact absurd rfl intact
  | handler transfer =>
      simp only [Session.step, handlerTransfer] at stepped
      split at stepped
      · rename_i alive
        cases transfer with
        | moved count => exact inPhase.handlerMoved alive stepped
        | interrupted =>
            cases stepped
            exact inPhase.stays
        | failed => exact absurd rfl smooth
      · cases stepped
  | receive disk => exact inPhase.received stepped
  | respond responseData => exact inPhase.responded stepped
  | server action =>
      by_cases addressed : action.socket = socket
      · have productive : (SessionAction.server action).Productive socket :=
          addressed
        rw [if_pos productive]
        exact inPhase.ownStepped addressed stepped
      · have idle : ¬(SessionAction.server action).Productive socket :=
          addressed
        rw [if_neg idle]
        exact inPhase.otherStepped addressed stepped

/-- A smooth run keeps the connection in lockstep and the calls as they
are, and takes no more productive steps than its calls need. -/
theorem lockstep_of_run
    {server : Server} {calls : List RequestCall}
    {actions : List SessionAction}
    (smooth : ∀ action ∈ actions, action.Smooth)
    (ran : (Session.step qsort socket).run (start server socket calls)
      actions = some session) :
    ∃ left, (session.Lockstep socket left ∧ session.allCalls = calls) ∧
      left + actions.countP (fun action => action.Productive socket) ≤
        calls.length * callWork := by
  have preserved : ∀ (state : Session) (action : SessionAction)
      (next : Session) (work : Nat),
      state.Lockstep socket work ∧ state.allCalls = calls →
        action.Smooth → Session.step qsort socket state action = some next →
          ∃ left, (next.Lockstep socket left ∧ next.allCalls = calls) ∧
            left + (if action.Productive socket then 1 else 0) ≤ work := by
    intro state action next work holds smooth stepped
    obtain ⟨same, _, left, lockstep, spent⟩ := holds.1.step smooth stepped
    exact ⟨left, ⟨lockstep, same.trans holds.2⟩, spent⟩
  exact Machine.run_work _ preserved ⟨lockstep_start server calls, rfl⟩
    smooth ran

end Session

end RainTyping
