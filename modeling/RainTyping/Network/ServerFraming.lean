import RainTyping.Network.Intake

/-!
# The messages a handler dispatches

However `recv` cuts the stream of a peer into pieces, `handle_client`
dispatches the messages of its greedy parse, sends one response for each and
ends with the cleanup of its user's session.
-/

namespace RainTyping

/-- The bytes of a user's session are given back to the table. -/
def Released (user : CharArray maxIdLen) (before after : LoggedInUsers) :
    Prop :=
  if user.strlen > 0 then
    Removed user before.sessions after.sessions ∧
      ((before.sessions.map Prod.fst).Nodup →
        ∀ session ∈ after.sessions, session.1 ≠ user)
  else after = before

/-- The message that carries a response. -/
def Served.frame (served : Served) : Frame :=
  (served.response.type, served.responseData)

namespace Intake

/-- `handle_client` has returned. -/
def Ended (intake : Intake) (socket : Nat) : Prop :=
  intake.session.handler = .left ∧
    intake.session.server.handlers socket = none

/-- The handler can take a step that is not an interrupted one. -/
def GoesOn (intake : Intake) (qsort : QSort) (socket : Nat) : Prop :=
  ∃ action : IntakeAction, action.Productive socket ∧
    ∃ next, Intake.step qsort socket intake action = some next

/-- What holds of a connection at any time: the messages dispatched so far are
the first ones of the stream, and all of them once the loop is left; each has
its response, the last one perhaps not yet; while the handler receives, the
responses sent are whole messages, one for each; the handler can go on until
it returns; and when it returns, the session of its user is released. -/
structure ServesMessages (intake : Intake) (qsort : QSort) (socket : Nat)
    (stream : List UInt8) : Prop where
  dispatched : intake.dispatched <+: messages stream
  all : intake.session.handler = .left →
    intake.dispatched = messages stream
  answered : ∃ done waiting, intake.dispatched = done ++ waiting ∧
    waiting.length ≤ 1 ∧
      List.Forall₂ Served.AnswersFrame done intake.session.served
  sent : intake.session.wires.toClient <+:
    intake.session.served.flatMap Served.message
  settled : intake.session.handler.receives = true ∨
      intake.session.handler = .left →
    List.Forall₂ Served.AnswersFrame intake.dispatched
        intake.session.served ∧
      messages intake.session.wires.toClient =
        intake.session.served.map Served.frame
  goesOn : intake.Ended socket ∨ intake.GoesOn qsort socket
  released : ∀ action next handler,
    Intake.step qsort socket intake action = some next →
      intake.session.server.handlers socket = some handler →
        next.session.server.handlers socket = none →
          intake.session.handler = .left ∧
            Released handler.currentUser intake.session.server.loggedInUsers
              next.session.server.loggedInUsers

end Intake

/-! ## The responses -/

theorem Served.AnswersFrame.messages_message
    {frame : Frame} {served : Served} (answers : served.AnswersFrame frame)
    (rest : List UInt8) :
    messages (served.message ++ rest) = served.frame :: messages rest := by
  have length := served.length_header answers.struct
  have fits : served.header.length.toNat ≤ maxBodyLen := by
    rw [length, answers.struct.1]
    exact Nat.le_trans served.response.sizeof_le (by decide)
  rw [Served.message, List.append_assoc]
  exact RainTyping.messages_message fits length.symm rest

/-- The responses of a handler are a stream of messages themselves. -/
theorem messages_responses
    {dispatched : List Frame} {served : List Served}
    (answered : List.Forall₂ Served.AnswersFrame dispatched served) :
    messages (served.flatMap Served.message) = served.map Served.frame := by
  induction answered with
  | nil => exact messages_received (.header nothing_short)
  | cons answers answered induction =>
      rw [List.flatMap_cons, answers.messages_message, induction,
        List.map_cons]

/-! ## The end of the thread -/

namespace Server

variable {qsort : QSort} {server next : Server} {socket : Nat}
  {handler : Handler}

private theorem receive_live
    (live : server.handlers socket = some handler) (request : Request)
    (disk : DiskCalls) :
    ∃ handler', (server.receive qsort socket handler request disk).handlers
      socket = some handler' := by
  by_cases full : FullSize request
  · obtain ⟨_, _, _, live', _⟩ := inBranch_receive full
    exact ⟨_, live'⟩
  cases request with
  | register body =>
      obtain rfl := not_not.mp full
      exact ⟨_, respond_self⟩
  | login body =>
      obtain rfl := not_not.mp full
      simp only [receive, receiveLogin]
      split
      · exact ⟨_, live⟩
      · exact ⟨_, setHandler_self⟩
  | scoreSubmit body =>
      obtain rfl := not_not.mp full
      simp only [receive, receiveScoreSubmit]
      split
      · exact ⟨_, respond_self⟩
      · exact ⟨_, live⟩
  | leaderboard => exact absurd trivial full
  | wordlist => exact absurd trivial full
  | logout => exact absurd trivial full
  | unknown type => exact absurd trivial full

private theorem sendAll_live
    (live : server.handlers socket = some handler) (sent : Bool)
    (stage : Stage) :
    ∃ handler', (server.sendAll socket handler sent stage).handlers socket =
      some handler' := by
  rw [sendAll]
  split
  · exact ⟨_, setHandler_self⟩
  · exact ⟨_, live⟩

/-- Only the cleanup ends the thread of a handler. -/
theorem cleanUp_of_gone
    {action : Action}
    (stepped : step qsort server action = some next)
    (live : server.handlers socket = some handler)
    (gone : next.handlers socket = none) :
    next = server.cleanUp socket handler ∧ handler.stage = .leaving := by
  by_cases addressed : action.socket = socket
  swap
  · rw [step_other stepped (Ne.symm addressed), live] at gone
    cases gone
  obtain ⟨_, steps⟩ := step_iff.mp stepped
  subst addressed
  cases steps with
  | cleanUp socket there stage =>
      cases there.symm.trans live
      exact ⟨rfl, stage⟩
  | accept socket free => cases free.symm.trans live
  | receive socket request disk there stage =>
      obtain ⟨_, live'⟩ := receive_live there request disk
      cases live'.symm.trans gone
  | verifyPassword socket reads there stage =>
      obtain ⟨_, _, _, live', _⟩ := inBranch_verifyPassword
      cases live'.symm.trans gone
  | addSession socket there stage =>
      obtain ⟨_, _, _, live', _⟩ : (server.addSession socket _ _).InBranch
          socket _ (.login none) 1 :=
        inBranch_addSession
      cases live'.symm.trans gone
  | addUser socket writes there stage =>
      obtain ⟨_, _, _, live', _⟩ : (server.addUser socket _ writes
          _).InBranch socket _ (.register none) 1 :=
        inBranch_addUser
      cases live'.symm.trans gone
  | sendHeader socket sent there stage =>
      obtain ⟨_, live'⟩ := sendAll_live there sent _
      cases live'.symm.trans gone
  | sendBody socket sent there stage =>
      obtain ⟨_, live'⟩ := sendAll_live there sent _
      cases live'.symm.trans gone
  | hangUp socket there stage => cases setHandler_self.symm.trans gone
  | peerCloses socket there => cases setHandler_self.symm.trans gone

theorem released_cleanUp :
    Released handler.currentUser server.loggedInUsers
      (server.cleanUp socket handler).loggedInUsers := by
  simp only [Released, cleanUp]
  split
  · have removed : Removed handler.currentUser server.loggedInUsers.sessions
        (removeLoggedInUser server.loggedInUsers
          handler.currentUser).sessions :=
      removeLoggedInUser_removed
    refine ⟨removed, fun unique session member same => ?_⟩
    rcases removed with ⟨other, before⟩ | ⟨absent, unchanged⟩
    · rw [before, Multiset.map_cons, Multiset.nodup_cons] at unique
      have listed := Multiset.mem_map_of_mem Prod.fst member
      rw [same] at listed
      exact unique.1 listed
    · rw [unchanged] at member
      exact absent session member same
  · rfl

end Server

/-! ## What the phases say -/

theorem exists_takenFor (frame : Frame) :
    ∃ request, TakenFor frame request := by
  obtain ⟨type, body⟩ := frame
  cases read : readRequest type body with
  | ok request => exact ⟨request, by simp only [TakenFor, read]⟩
  | error fault =>
      simp only [TakenFor, read]
      unfold readRequest at read
      split at read
      · exact ⟨.register (some ⟨.empty, .empty⟩), by assumption⟩
      split at read
      · exact ⟨.login (some ⟨.empty, .empty⟩), by assumption⟩
      split at read
      · exact ⟨.scoreSubmit (some 0), by assumption⟩
      split at read
      · cases read
      split at read
      · cases read
      split at read
      · cases read
      · cases read

theorem IntakePhase.point_of_leaving
    {stream : List UInt8} {handler : HandlerPoint} {wires : Wires}
    {dispatched : List Frame} {served : List Served} {work : Nat}
    (phase : IntakePhase stream handler (some .leaving) wires dispatched
      served work) :
    handler = .left := by
  cases phase with
  | leaving parsed answered sent => rfl
  | answering parsed answered sent taken branch => cases branch
  | responding parsed answered unsent pending sent => cases unsent

namespace Intake

variable {qsort : QSort} {socket : Nat} {stream : List UInt8}
  {intake next : Intake} {work : Nat}

theorem serverSteps_of_step
    {action : IntakeAction}
    (stepped : Intake.step qsort socket intake action = some next) :
    Session.ServerSteps qsort intake.session next.session := by
  cases action with
  | handler transfer =>
      simp only [Intake.step, Intake.transfer] at stepped
      split at stepped
      · obtain ⟨session, transferred, rfl⟩ :=
          Option.map_eq_some_iff.mp stepped
        have taken : Session.step qsort socket intake.session
            (.handler transfer) = some session :=
          transferred
        exact Session.serverSteps_of_step taken
      · cases stepped
  | dispatch request disk =>
      simp only [Intake.step, dispatch] at stepped
      split at stepped
      · split at stepped
        · obtain ⟨session, received, rfl⟩ :=
            Option.map_eq_some_iff.mp stepped
          exact Session.serverSteps_of_serverStep received
        · cases stepped
      · cases stepped
  | respond responseData =>
      obtain ⟨session, responded, rfl⟩ := Option.map_eq_some_iff.mp stepped
      have taken : Session.step qsort socket intake.session
          (.respond responseData) = some session :=
        responded
      exact Session.serverSteps_of_step taken
  | server action =>
      obtain ⟨session, other, rfl⟩ := Option.map_eq_some_iff.mp stepped
      have taken : Session.step qsort socket intake.session
          (.server action) = some session :=
        other
      exact Session.serverSteps_of_step taken

theorem Framed.released
    {action : IntakeAction} {handler : Handler}
    (framed : intake.Framed socket stream work)
    (stepped : Intake.step qsort socket intake action = some next)
    (live : intake.session.server.handlers socket = some handler)
    (gone : next.session.server.handlers socket = none) :
    intake.session.handler = .left ∧
      Released handler.currentUser intake.session.server.loggedInUsers
        next.session.server.loggedInUsers := by
  rcases serverSteps_of_step stepped with same | ⟨serverAction, taken⟩
  · rw [same, live] at gone
    cases gone
  obtain ⟨cleaned, leaving⟩ := Server.cleanUp_of_gone taken live gone
  rw [cleaned]
  refine ⟨?_, Server.released_cleanUp⟩
  obtain ⟨user, stage, live', phase⟩ := framed
  cases stage with
  | none => cases live.symm.trans live'
  | some stage =>
      cases live.symm.trans live'
      cases leaving
      exact phase.point_of_leaving

private theorem goesOn_of_moves
    (alive : intake.session.server.alive = true)
    (moves : ∃ next, intake.session.handlerMove qsort socket 1 = some next) :
    intake.GoesOn qsort socket := by
  obtain ⟨next, moved⟩ := moves
  refine ⟨.handler (.moved 1), by simp [IntakeAction.Productive], ?_⟩
  have noFailure : Transfer.moved 1 = .failed →
      intake.session.wires.toServer = [] ∧
        intake.session.handler.receives = true :=
    fun failed => nomatch failed
  simp only [Intake.step, Intake.transfer, if_pos noFailure,
    Session.handlerTransfer, alive, ↓reduceIte, moved]
  exact ⟨_, rfl⟩

private theorem goesOn_of_ownStep
    {action : Action} {server : Server} (addressed : action.socket = socket)
    (own : Session.ownStep intake.session.handler action = true)
    (stepped : Server.step qsort intake.session.server action = some server) :
    intake.GoesOn qsort socket := by
  refine ⟨.server action, addressed, ?_⟩
  simp only [Intake.step, Session.otherStep, own, or_true, ↓reduceIte,
    Session.serverStep, stepped]
  exact ⟨_, rfl⟩

private theorem goesOn_of_receiving
    {user : CharArray maxIdLen} {got : List UInt8}
    (alive : intake.session.server.alive = true)
    (live : intake.session.server.handlers socket =
      some ⟨user, .receiving, true⟩)
    (received : RequestReceived intake.session.handler got) :
    intake.GoesOn qsort socket := by
  by_cases arrived : intake.session.wires.toServer = []
  swap
  · exact goesOn_of_moves alive
      (Session.handlerMove_receives alive live received arrived)
  have receives := received.receives
  have hangsUp :=
    Session.handlerFail_of_receives qsort socket receives
  obtain ⟨next, left⟩ : ∃ next, intake.session.serverStep qsort
      (.hangUp socket) .left = some next :=
    Session.serverStep_some
      (Server.step_iff.mpr ⟨alive, .hangUp socket live rfl⟩)
  refine ⟨.handler .failed, by simp [IntakeAction.Productive], ?_⟩
  simp only [Intake.step, Intake.transfer, arrived, receives, and_self,
    implies_true, ↓reduceIte, Session.handlerTransfer, alive, hangsUp, left]
  exact ⟨_, rfl⟩

theorem Framed.goesOn
    (qsort : QSort) (framed : intake.Framed socket stream work)
    (alive : intake.session.server.alive = true) :
    intake.Ended socket ∨ intake.GoesOn qsort socket := by
  obtain ⟨user, stage, live, phase⟩ := framed
  obtain ⟨⟨server, handler, wires, connected, calls, current, returned,
    history⟩, dispatched⟩ := intake
  cases phase with
  | receiving received fits parsed answered sent =>
      exact .inr (goesOn_of_receiving alive live received)
  | @handling _ type body toServer _ _ parsed answered sent =>
      obtain ⟨request, taken⟩ := exists_takenFor (type, body)
      refine .inr ⟨.dispatch request .succeed, trivial, ?_⟩
      have received : Server.step qsort server
          (.receive socket request .succeed) = some _ :=
        Server.step_iff.mpr ⟨alive, .receive socket request .succeed live rfl⟩
      simp only [Intake.step, dispatch, if_pos taken, Session.serverStep,
        received]
      exact ⟨_, rfl⟩
  | answering parsed answered sent taken branch =>
      right
      rcases Session.branch_goesOn qsort alive live rfl branch with
        ⟨action, server', addressed, own, stepped⟩ |
          ⟨responseData, next, responded⟩
      · exact goesOn_of_ownStep addressed own stepped
      · refine ⟨.respond responseData, trivial, ?_⟩
        simp only [Intake.step, responded]
        exact ⟨_, rfl⟩
  | responding parsed answered unsent pending sent =>
      exact .inr (goesOn_of_moves alive
        (Session.handlerMove_sends alive live unsent pending))
  | leaving parsed answered sent =>
      have taken : Server.step qsort server (.cleanUp socket) =
          some (server.cleanUp socket ⟨user, .leaving, true⟩) :=
        Server.step_iff.mpr ⟨alive, .cleanUp socket live rfl⟩
      exact .inr (goesOn_of_ownStep rfl rfl taken)
  | ended parsed answered sent => exact .inl ⟨rfl, live⟩

/-- What the invariant says of a connection. -/
theorem Framed.servesMessages
    (qsort : QSort) (framed : intake.Framed socket stream work)
    (alive : intake.session.server.alive = true) :
    intake.ServesMessages qsort socket stream := by
  have goesOn := framed.goesOn qsort alive
  have released : ∀ action next handler,
      Intake.step qsort socket intake action = some next →
        intake.session.server.handlers socket = some handler →
          next.session.server.handlers socket = none →
            intake.session.handler = .left ∧
              Released handler.currentUser
                intake.session.server.loggedInUsers
                next.session.server.loggedInUsers :=
    fun _ _ _ => framed.released
  obtain ⟨user, stage, live, phase⟩ := framed
  obtain ⟨⟨server, handler, wires, connected, calls, current, returned,
    history⟩, dispatched⟩ := intake
  cases phase with
  | receiving received fits parsed answered sent =>
      refine ⟨⟨_, parsed.symm⟩, ?_, ⟨dispatched, [], by simp, by simp,
        answered⟩, sent ▸ List.prefix_rfl, ?_, goesOn, released⟩
      · rintro rfl
        cases received
      · intro _
        exact ⟨answered, sent ▸ messages_responses answered⟩
  | handling parsed answered sent =>
      refine ⟨⟨_, parsed.symm⟩, ?_, ⟨dispatched, [], by simp, by simp,
        answered⟩, sent ▸ List.prefix_rfl, ?_, goesOn, released⟩
      · intro left
        cases left
      · rintro (receives | left)
        · cases receives
        · cases left
  | @answering _ frame _ _ _ request _ _ parsed answered sent taken branch =>
      rw [← List.singleton_append, ← List.append_assoc] at parsed
      refine ⟨⟨_, parsed.symm⟩, ?_, ⟨_, [frame], rfl, Nat.le_refl 1,
        answered⟩, sent ▸ List.prefix_rfl, ?_, goesOn,
        released⟩
      · intro left
        cases left
      · rintro (receives | left)
        · cases receives
        · cases left
  | responding parsed answered unsent pending sent =>
      refine ⟨⟨_, parsed.symm⟩, ?_, ⟨dispatched, [], by simp, by simp,
        answered⟩, ⟨_, sent⟩, ?_, goesOn, released⟩
      · rintro rfl
        cases unsent
      · rintro (receives | rfl)
        · cases unsent with
          | header there later => cases receives
          | body there => cases receives
          | nothing => exact absurd rfl pending
        · cases unsent
  | leaving parsed answered sent =>
      exact ⟨parsed ▸ List.prefix_rfl, fun _ => parsed, ⟨dispatched, [],
        by simp, by simp, answered⟩, sent ▸ List.prefix_rfl,
        fun _ => ⟨answered, sent ▸ messages_responses answered⟩, goesOn,
        released⟩
  | ended parsed answered sent =>
      exact ⟨parsed ▸ List.prefix_rfl, fun _ => parsed, ⟨dispatched, [],
        by simp, by simp, answered⟩, sent ▸ List.prefix_rfl,
        fun _ => ⟨answered, sent ▸ messages_responses answered⟩, goesOn,
        released⟩

theorem framed_start (server : Server) :
    (start server socket stream).Framed socket stream
      (stream.length * byteWork + 2) := by
  refine .of_stage Server.setHandler_self
    (.receiving (.header nothing_short) ?_ rfl .nil rfl)
  intro header bytes same
  cases same

theorem alive_of_step
    {action : IntakeAction}
    (stepped : Intake.step qsort socket intake action = some next) :
    intake.session.server.alive = true := by
  have of_serverStep : ∀ {session : Session} {action point},
      intake.session.serverStep qsort action point = some session →
        intake.session.server.alive = true := by
    intro session action point stepped
    obtain ⟨server, taken, _⟩ := Option.map_eq_some_iff.mp stepped
    exact (Server.step_iff.mp taken).1
  cases action with
  | handler transfer =>
      simp only [Intake.step, Intake.transfer] at stepped
      split at stepped
      · obtain ⟨session, transferred, _⟩ := Option.map_eq_some_iff.mp stepped
        simp only [Session.handlerTransfer] at transferred
        split at transferred
        · assumption
        · cases transferred
      · cases stepped
  | dispatch request disk =>
      simp only [Intake.step, dispatch] at stepped
      split at stepped
      · split at stepped
        · obtain ⟨session, received, _⟩ := Option.map_eq_some_iff.mp stepped
          exact of_serverStep received
        · cases stepped
      · cases stepped
  | respond responseData =>
      obtain ⟨session, responded, _⟩ := Option.map_eq_some_iff.mp stepped
      simp only [Session.respond] at responded
      split at responded
      · split at responded
        · rename_i allowed
          exact allowed.1
        · cases responded
      · cases responded
  | server action =>
      obtain ⟨session, other, _⟩ := Option.map_eq_some_iff.mp stepped
      simp only [Session.otherStep] at other
      split at other
      · exact of_serverStep other
      · cases other

/-- At any time of any run that has not crashed the server, the handler serves
the messages of its stream; it takes a bounded number of steps. -/
theorem servesMessages_of_run
    {server : Server} {actions : List IntakeAction}
    (ran : (Intake.step qsort socket).run (start server socket stream)
      actions = some intake)
    (alive : intake.session.server.alive = true) :
    intake.ServesMessages qsort socket stream ∧
      actions.countP (fun action => action.Productive socket) ≤
        stream.length * byteWork + 2 := by
  have preserved : ∀ (state : Intake) (action : IntakeAction) (next : Intake)
      (work : Nat),
      (state.session.server.alive = true →
          state.Framed socket stream work) →
        True → Intake.step qsort socket state action = some next →
          ∃ left, (next.session.server.alive = true →
              next.Framed socket stream left) ∧
            left + (if action.Productive socket then 1 else 0) ≤ work := by
    intro state action next work framed _ stepped
    exact (framed (alive_of_step stepped)).step stepped
  obtain ⟨left, framed, spent⟩ := Machine.run_work _ preserved
    (fun _ => framed_start server) (fun _ _ => trivial) ran
  exact ⟨(framed alive).servesMessages qsort alive,
    Nat.le_trans (Nat.le_add_left _ left) spent⟩

def requestMessage (function : RequestFunction) : List UInt8 :=
  (MessageHeader.mk function.requestType
    (.ofNat function.requestBody.length)).bytes ++ function.requestBody

/-- A login and a submission, a message of an unknown type with a body, and two
bytes of another header. -/
def cutStream : List UInt8 :=
  requestMessage (.sendLoginRequest (.ofBuffer (text "a"))
      (.ofBuffer (text "b"))) ++
    requestMessage (.sendScoreSubmitRequest 7) ++
      (MessageHeader.mk 99 3).bytes ++ [1, 2, 3] ++ [1, 2]

def cutActions : List IntakeAction :=
  [.handler (.moved 4), .handler .interrupted, .handler (.moved 2),
    .handler (.moved 100), .handler (.moved 4),
    .dispatch (.login (some ⟨.ofBuffer (text "a"), .ofBuffer (text "b")⟩))
      .succeed,
    .server (.verifyPassword 4 .succeed), .server (.addSession 4),
    .respond (Response.struct (.login
      ⟨true, messageFor "Login successful for '" (.ofBuffer (text "a")) "'."⟩)),
    .handler (.moved 6), .handler (.moved 100), .handler (.moved 32),
    .handler (.moved 6), .handler (.moved 4),
    .dispatch (.scoreSubmit (some 7)) .succeed,
    .respond (Response.struct (.scoreSubmit ⟨true,
      message (text "Score 7 submitted successfully for 'a'.")⟩)),
    .handler (.moved 6), .handler (.moved 132),
    .handler (.moved 6), .handler (.moved 3),
    .dispatch (.unknown 99) .succeed,
    .respond (Response.struct
      (.error (message (text "Unknown or unsupported message type: 99")))),
    .handler (.moved 6), .handler (.moved 100), .handler (.moved 28),
    .handler (.moved 2), .handler .failed, .server (.cleanUp 4)]

theorem servesMessages_of_cutStream :
    ∃ intake, (Intake.step .insertion 4).run
        (start (.start (some (text "a:b\n")) none .empty) 4 cutStream)
          cutActions = some intake ∧
      intake.dispatched.map Prod.fst =
          [msgTypeLoginReq, msgTypeScoreSubmitReq, 99] ∧
        intake.ServesMessages .insertion 4 cutStream ∧
          cutActions.countP (fun action => action.Productive 4) ≤
            cutStream.length * byteWork + 2 := by
  have returns : ((Intake.step .insertion 4).run
      (start (.start (some (text "a:b\n")) none .empty) 4 cutStream)
        cutActions).map (fun intake =>
          (intake.dispatched.map Prod.fst, intake.session.server.alive)) =
        some ([msgTypeLoginReq, msgTypeScoreSubmitReq, 99], true) := by
    decide +kernel
  obtain ⟨intake, ran, state⟩ := Option.map_eq_some_iff.mp returns
  obtain ⟨dispatched, alive⟩ := Prod.mk.inj state
  exact ⟨intake, ran, dispatched, servesMessages_of_run ran alive⟩

end Intake

end RainTyping
