import RainTyping.Network.Completion
import RainTyping.Support.Frames

/-!
# A handler and any byte stream

`handle_client` gets its messages out of whatever bytes the peer has sent, in
the pieces that `recv` hands over.  The peer takes the responses, and its
stream ends where it was cut off.  A body that is too short for its struct is
dispatched like any other; what the struct has behind the received bytes is
not known.
-/

namespace RainTyping

/-- The type and the body of a message. -/
abbrev Frame := Int32 × List UInt8

def decodeHeader (memory : List UInt8) : Int32 × Nat :=
  ((MessageHeader.ofBytes memory).type,
    (MessageHeader.ofBytes memory).length.toNat)

/-- The messages that a byte stream holds. -/
def messages (stream : List UInt8) : List Frame :=
  frames sizeofMessageHeader decodeHeader maxBodyLen stream

/-- The request has a body and this message type. -/
def Request.HasBody (type : Int32) : Request → Prop
  | .register (some _) => type = msgTypeRegisterReq
  | .login (some _) => type = msgTypeLoginReq
  | .scoreSubmit (some _) => type = msgTypeScoreSubmitReq
  | _ => False

instance (type : Int32) : DecidablePred (Request.HasBody type)
  | .register (some _) => inferInstanceAs (Decidable (_ = _))
  | .register none => isFalse id
  | .login (some _) => inferInstanceAs (Decidable (_ = _))
  | .login none => isFalse id
  | .scoreSubmit (some _) => inferInstanceAs (Decidable (_ = _))
  | .scoreSubmit none => isFalse id
  | .leaderboard => isFalse id
  | .wordlist => isFalse id
  | .logout => isFalse id
  | .unknown _ => isFalse id

/-- The request that a message is taken for; the fields of a struct that
leaves the received bytes may hold anything. -/
def TakenFor (frame : Frame) (request : Request) : Prop :=
  match readRequest frame.1 frame.2 with
  | .ok read => request = read
  | .error _ => request.HasBody frame.1

instance (frame : Frame) (request : Request) :
    Decidable (TakenFor frame request) := by
  unfold TakenFor
  split <;> infer_instance

/-- A connection, and the messages that were dispatched on it so far. -/
structure Intake where
  session : Session
  dispatched : List Frame

inductive IntakeAction where
  | handler (transfer : Transfer)
  | dispatch (request : Request) (disk : DiskCalls)
  | respond (responseData : List UInt8)
  /-- Another step of the server. -/
  | server (action : Action)
  deriving DecidableEq

def HandlerPoint.receives : HandlerPoint → Bool
  | .receivingHeader _ => true
  | .receivingBody _ _ => true
  | _ => false

namespace Intake

/-- The server has accepted the connection, on which this stream arrives. -/
def start (server : Server) (socket : Nat) (stream : List UInt8) : Intake where
  session := { Session.start server socket [] with wires := ⟨stream, []⟩ }
  dispatched := []

variable (qsort : QSort) (socket : Nat)

/-- Only a `recv` behind the last byte fails: every `send` succeeds, and no peer
closes while it is answered. -/
def transfer (intake : Intake) (transfer : Transfer) : Option Intake :=
  if transfer = .failed →
      intake.session.wires.toServer = [] ∧
        intake.session.handler.receives = true then
    (intake.session.handlerTransfer qsort socket transfer).map fun session =>
      { intake with session := session }
  else none

/-- Enter the branch of a message. -/
def dispatch (intake : Intake) (request : Request) (disk : DiskCalls) :
    Option Intake :=
  match intake.session.handler with
  | .handling type body =>
      if TakenFor (type, body) request then
        (intake.session.serverStep qsort (.receive socket request disk)
          (.answering request)).map fun session =>
            ⟨session, intake.dispatched ++ [(type, body)]⟩
      else none
  | _ => none

def step : Machine Intake IntakeAction :=
  fun intake action =>
    match action with
    | .handler transfer => intake.transfer qsort socket transfer
    | .dispatch request disk => intake.dispatch qsort socket request disk
    | .respond responseData =>
        (intake.session.respond socket responseData).map fun session =>
          { intake with session := session }
    | .server action =>
        (intake.session.otherStep qsort socket action).map fun session =>
          { intake with session := session }

end Intake

namespace IntakeAction

/-- A step of this connection that is not an interrupted `send` or `recv`. -/
def Productive (socket : Nat) : IntakeAction → Prop
  | .handler transfer => transfer ≠ .interrupted
  | .server action => action.socket = socket
  | _ => True

instance (socket : Nat) : DecidablePred (Productive socket)
  | .handler transfer => inferInstanceAs (Decidable (transfer ≠ .interrupted))
  | .server action => inferInstanceAs (Decidable (action.socket = socket))
  | .dispatch _ _ => isTrue trivial
  | .respond _ => isTrue trivial

end IntakeAction

/-! ## The phases of a handler -/

/-- The response was computed for this message. -/
structure Served.AnswersFrame (frame : Frame) (served : Served) : Prop where
  request : TakenFor frame served.request
  type : served.response.type = served.request.respType
  struct : served.response.FillsStruct served.responseData

/-- The work of sending the longest response. -/
def answerWork : Nat :=
  sizeofMessageHeader + sizeofWordListResponse + 2

/-- The work that a received byte leads to, at most. -/
def byteWork : Nat :=
  answerWork + 3

/-- Where the handler is in the stream and in its responses, at which stage
the server has it (none when the thread has ended), and with the work that is
left. -/
inductive IntakePhase (stream : List UInt8) : HandlerPoint → Option Stage →
    Wires → List Frame → List Served → Nat → Prop where
  | receiving
      (received : RequestReceived handler got)
      (fits : ∀ header bytes, handler = .receivingBody header bytes →
        header.length.toNat ≤ maxBodyLen)
      (parsed : messages stream = dispatched ++ messages (got ++ toServer))
      (answered : List.Forall₂ Served.AnswersFrame dispatched served)
      (sent : toClient = served.flatMap Served.message) :
      IntakePhase stream handler (some .receiving) ⟨toServer, toClient⟩
        dispatched served (toServer.length * byteWork + 2)
  | handling
      (parsed : messages stream =
        dispatched ++ (type, body) :: messages toServer)
      (answered : List.Forall₂ Served.AnswersFrame dispatched served)
      (sent : toClient = served.flatMap Served.message) :
      IntakePhase stream (.handling type body) (some .receiving)
        ⟨toServer, toClient⟩ dispatched served
        (toServer.length * byteWork + byteWork + 1)
  | answering
      (parsed : messages stream = earlier ++ frame :: messages toServer)
      (answered : List.Forall₂ Served.AnswersFrame earlier served)
      (sent : toClient = served.flatMap Served.message)
      (taken : TakenFor frame request)
      (branch : Answering request stage steps) :
      IntakePhase stream (.answering request) (some stage)
        ⟨toServer, toClient⟩ (earlier ++ [frame]) served
        (toServer.length * byteWork + answerWork + steps)
  | responding
      (parsed : messages stream = dispatched ++ messages toServer)
      (answered : List.Forall₂ Served.AnswersFrame dispatched served)
      (unsent : ResponseUnsent handler stage rest)
      (pending : rest ≠ [])
      (sent : toClient ++ rest = served.flatMap Served.message) :
      IntakePhase stream handler (some stage) ⟨toServer, toClient⟩ dispatched
        served (toServer.length * byteWork + 2 + rest.length)
  | leaving
      (parsed : dispatched = messages stream)
      (answered : List.Forall₂ Served.AnswersFrame dispatched served)
      (sent : toClient = served.flatMap Served.message) :
      IntakePhase stream .left (some .leaving) ⟨toServer, toClient⟩ dispatched
        served 1
  | ended
      (parsed : dispatched = messages stream)
      (answered : List.Forall₂ Served.AnswersFrame dispatched served)
      (sent : toClient = served.flatMap Served.message) :
      IntakePhase stream .left none ⟨toServer, toClient⟩ dispatched served 0

/-! ## The messages of a stream -/

private theorem decodeHeader_bytes (header : MessageHeader) :
    decodeHeader header.bytes = (header.type, header.length.toNat) := by
  rw [decodeHeader, MessageHeader.ofBytes_bytes]

theorem messages_message
    {header : MessageHeader} {body : List UInt8}
    (fits : header.length.toNat ≤ maxBodyLen)
    (whole : body.length = header.length.toNat) (rest : List UInt8) :
    messages (header.bytes ++ (body ++ rest)) =
      (header.type, body) :: messages rest := by
  have decoded := decodeHeader_bytes header
  have message : messages (header.bytes ++ (body ++ rest)) =
      ((decodeHeader header.bytes).1, body) :: messages rest :=
    frames_message (by decide) header.length_bytes
      (by rw [decoded]; exact fits) (by rw [decoded]; exact whole) rest
  rw [decoded] at message
  exact message

theorem messages_tooLong
    {header : MessageHeader} (long : maxBodyLen < header.length.toNat)
    (rest : List UInt8) : messages (header.bytes ++ rest) = [] := by
  apply frames_tooLong (by decide) header.length_bytes
  rw [decodeHeader_bytes]
  exact long

theorem messages_cut
    {header : MessageHeader} {rest : List UInt8}
    (short : rest.length < header.length.toNat) :
    messages (header.bytes ++ rest) = [] := by
  apply frames_cut (by decide) header.length_bytes
  rw [decodeHeader_bytes]
  exact short

/-- A message that is not received in full when the stream ends is none. -/
theorem messages_received
    {handler : HandlerPoint} {got : List UInt8}
    (received : RequestReceived handler got) : messages got = [] := by
  cases received with
  | header short => exact frames_short short
  | body short => exact messages_cut short

theorem RequestReceived.receives
    {handler : HandlerPoint} {got : List UInt8}
    (received : RequestReceived handler got) : handler.receives = true := by
  cases received with
  | header short => rfl
  | body short => rfl

theorem Session.handlerFail_of_receives
    (qsort : QSort) (socket : Nat) {session : Session}
    (receives : session.handler.receives = true) :
    session.handlerFail qsort socket =
      session.serverStep qsort (.hangUp socket) .left := by
  rw [handlerFail]
  generalize session.handler = handler at receives
  cases handler with
  | receivingHeader received => rfl
  | receivingBody header received => rfl
  | _ => cases receives

/-! ## The steps of the handler -/

namespace Intake

/-- The invariant, with the work that is left. -/
def Framed (intake : Intake) (socket : Nat) (stream : List UInt8)
    (work : Nat) : Prop :=
  ∃ user stage,
    intake.session.server.handlers socket =
        stage.map (fun stage => ⟨user, stage, true⟩) ∧
      IntakePhase stream intake.session.handler stage intake.session.wires
        intake.dispatched intake.session.served work

theorem Framed.of_stage
    {intake : Intake} {socket : Nat} {stream : List UInt8} {work : Nat}
    {user : CharArray maxIdLen} {stage : Stage}
    (live : intake.session.server.handlers socket = some ⟨user, stage, true⟩)
    (phase : IntakePhase stream intake.session.handler (some stage)
      intake.session.wires intake.dispatched intake.session.served work) :
    intake.Framed socket stream work :=
  ⟨user, some stage, live, phase⟩

/-- The next state keeps the invariant at some cost, or the server has
crashed. -/
def Continues (next : Intake) (socket : Nat) (stream : List UInt8)
    (work cost : Nat) : Prop :=
  ∃ left, (next.session.server.alive = true →
    next.Framed socket stream left) ∧ left + cost ≤ work

variable {qsort : QSort} {socket : Nat} {stream : List UInt8}
  {session next : Session} {dispatched : List Frame}
  {user : CharArray maxIdLen}

private theorem byteWork_pos : 0 < byteWork :=
  Nat.succ_pos _

private theorem work_less {fewer length : Nat} (less : fewer < length) :
    fewer * byteWork + byteWork ≤ length * byteWork := by
  rw [← Nat.succ_mul]
  exact Nat.mul_le_mul_right _ less

private theorem afterHeader_continues
    {header : MessageHeader} {toServer toClient : List UInt8}
    (moved : session.afterHeader qsort socket header = some next)
    (alive : session.server.alive = true)
    (live : session.server.handlers socket = some ⟨user, .receiving, true⟩)
    (inFlight : session.wires = ⟨toServer, toClient⟩)
    (parsed : messages stream =
      dispatched ++ messages (header.bytes ++ toServer))
    (answered : List.Forall₂ Served.AnswersFrame dispatched session.served)
    (sent : toClient = session.served.flatMap Served.message) :
    Continues ⟨next, dispatched⟩ socket stream
      (toServer.length * byteWork + byteWork + 1) 0 := by
  rw [Session.afterHeader] at moved
  by_cases there : header.length.toNat > 0
  · rw [if_pos there] at moved
    by_cases long : header.length.toNat > maxBodyLen
    · rw [if_pos long] at moved
      have left : Server.step qsort session.server (.hangUp socket) =
          some (session.server.setHandler socket ⟨user, .leaving, true⟩) :=
        Server.step_iff.mpr ⟨alive, .hangUp socket live rfl⟩
      rw [Session.serverStep, left] at moved
      cases moved
      rw [messages_tooLong long, List.append_nil] at parsed
      refine ⟨1, fun _ => .of_stage Server.setHandler_self ?_, by omega⟩
      simp only [inFlight]
      exact .leaving parsed.symm answered sent
    · rw [if_neg long] at moved
      cases moved
      refine ⟨toServer.length * byteWork + 2, fun _ => .of_stage live ?_, ?_⟩
      · simp only [inFlight]
        refine .receiving (.body there) ?_ ?_ answered sent
        · intro other bytes same
          cases same
          exact Nat.not_lt.mp long
        · rw [List.append_nil]
          exact parsed
      · have enough := byteWork_pos
        omega
  · rw [if_neg there] at moved
    cases moved
    have empty : ([] : List UInt8).length = header.length.toNat :=
      (Nat.eq_zero_of_not_pos there).symm
    have message := messages_message
      (Nat.le_trans (Nat.le_of_not_lt there) (Nat.zero_le _)) empty toServer
    rw [List.nil_append] at message
    refine ⟨_, fun _ => .of_stage live ?_, Nat.le_refl _⟩
    simp only [inFlight]
    exact .handling (parsed.trans (congrArg _ message)) answered sent

/-- A piece that the handler takes pays for what its bytes lead to. -/
private theorem work_of_piece
    {piece : List UInt8} (there : 0 < piece.length) (rest : List UInt8) :
    rest.length * byteWork + byteWork ≤
      (piece ++ rest).length * byteWork := by
  apply work_less
  rw [List.length_append]
  omega

/-- The handler has more of a message, but not all of it. -/
private theorem stillReceiving_continues
    {handler : HandlerPoint} {got piece rest toClient : List UInt8}
    (live : session.server.handlers socket = some ⟨user, .receiving, true⟩)
    (there : 0 < piece.length)
    (received : RequestReceived handler got)
    (fits : ∀ header bytes, handler = .receivingBody header bytes →
      header.length.toNat ≤ maxBodyLen)
    (parsed : messages stream = dispatched ++ messages (got ++ rest))
    (answered : List.Forall₂ Served.AnswersFrame dispatched session.served)
    (sent : toClient = session.served.flatMap Served.message) :
    Continues ⟨{ session with handler, wires := ⟨rest, toClient⟩ },
        dispatched⟩ socket stream
      ((piece ++ rest).length * byteWork + 2) 1 := by
  refine ⟨rest.length * byteWork + 2, fun _ => .of_stage live
    (.receiving received fits parsed answered sent), ?_⟩
  have spent := work_of_piece there rest
  have enough := byteWork_pos
  omega

/-- A `recv` of the handler gets more of a message, or all of it. -/
private theorem receiving_continues
    {handler : HandlerPoint} {got toServer toClient : List UInt8}
    {count : Nat}
    (alive : session.server.alive = true)
    (live : session.server.handlers socket = some ⟨user, .receiving, true⟩)
    (atPoint : session.handler = handler)
    (inFlight : session.wires = ⟨toServer, toClient⟩)
    (received : RequestReceived handler got)
    (fits : ∀ header bytes, handler = .receivingBody header bytes →
      header.length.toNat ≤ maxBodyLen)
    (parsed : messages stream = dispatched ++ messages (got ++ toServer))
    (answered : List.Forall₂ Served.AnswersFrame dispatched session.served)
    (sent : toClient = session.served.flatMap Served.message)
    (moved : session.handlerMove qsort socket count = some next) :
    Continues ⟨next, dispatched⟩ socket stream
      (toServer.length * byteWork + 2) 1 := by
  cases received with
  | header short =>
      simp only [Session.handlerMove, atPoint, inFlight,
        Option.bind_eq_some_iff] at moved
      obtain ⟨⟨received, rest⟩, taken, moved⟩ := moved
      obtain ⟨there, piece, rfl, rfl, rfl, within⟩ :=
        receivePiece_eq_some_iff.mp taken
      rw [← List.append_assoc] at parsed
      by_cases done : (got ++ piece).length = sizeofMessageHeader
      · simp only [done, ↓reduceIte] at moved
        rw [← MessageHeader.bytes_ofBytes done] at parsed
        obtain ⟨left, framed, spent⟩ : Continues ⟨next, dispatched⟩ socket
            stream (rest.length * byteWork + byteWork + 1) 0 :=
          afterHeader_continues moved alive live rfl parsed answered sent
        have bound := work_of_piece there rest
        exact ⟨left, framed, by omega⟩
      · simp only [done, ↓reduceIte] at moved
        cases moved
        apply stillReceiving_continues live there
          (.header (Nat.lt_of_le_of_ne within done)) _ parsed answered sent
        intro header bytes same
        cases same
  | @body header received short =>
      simp only [Session.handlerMove, atPoint, inFlight,
        Option.map_eq_some_iff] at moved
      obtain ⟨⟨received', rest⟩, taken, same⟩ := moved
      obtain ⟨there, piece, rfl, rfl, rfl, within⟩ :=
        receivePiece_eq_some_iff.mp taken
      have allowed := fits header received rfl
      rw [List.append_assoc, ← List.append_assoc received] at parsed
      by_cases done : (received ++ piece).length = header.length.toNat
      · simp only [done, ↓reduceIte] at same
        cases same
        rw [messages_message allowed done] at parsed
        have bound := work_of_piece there rest
        exact ⟨rest.length * byteWork + byteWork + 1,
          fun _ => .of_stage live (.handling parsed answered sent),
          by omega⟩
      · simp only [done, ↓reduceIte] at same
        cases same
        rw [← List.append_assoc] at parsed
        apply stillReceiving_continues live there
          (.body (Nat.lt_of_le_of_ne within done)) _ parsed answered sent
        intro other bytes same
        cases same
        exact allowed

/-- The `recv` behind the last byte ends the loop. -/
private theorem failed_continues
    {handler : HandlerPoint} {got toClient : List UInt8}
    (alive : session.server.alive = true)
    (live : session.server.handlers socket = some ⟨user, .receiving, true⟩)
    (atPoint : session.handler = handler)
    (inFlight : session.wires = ⟨[], toClient⟩)
    (received : RequestReceived handler got)
    (parsed : messages stream = dispatched ++ messages got)
    (answered : List.Forall₂ Served.AnswersFrame dispatched session.served)
    (sent : toClient = session.served.flatMap Served.message)
    (failed : session.handlerFail qsort socket = some next) :
    Continues ⟨next, dispatched⟩ socket stream 2 1 := by
  have left : Server.step qsort session.server (.hangUp socket) =
      some (session.server.setHandler socket ⟨user, .leaving, true⟩) :=
    Server.step_iff.mpr ⟨alive, .hangUp socket live rfl⟩
  have receives : session.handler.receives = true :=
    atPoint ▸ received.receives
  rw [Session.handlerFail_of_receives _ _ receives, Session.serverStep,
    left] at failed
  cases failed
  rw [messages_received received, List.append_nil] at parsed
  refine ⟨1, fun _ => .of_stage Server.setHandler_self ?_, Nat.le_refl _⟩
  simp only [inFlight]
  exact .leaving parsed.symm answered sent

private theorem responding_continues
    {handler : HandlerPoint} {stage : Stage}
    {toServer toClient rest : List UInt8} {count : Nat}
    (alive : session.server.alive = true)
    (live : session.server.handlers socket = some ⟨user, stage, true⟩)
    (atPoint : session.handler = handler)
    (inFlight : session.wires = ⟨toServer, toClient⟩)
    (parsed : messages stream = dispatched ++ messages toServer)
    (answered : List.Forall₂ Served.AnswersFrame dispatched session.served)
    (unsent : ResponseUnsent handler stage rest) (pending : rest ≠ [])
    (sent : toClient ++ rest = session.served.flatMap Served.message)
    (moved : session.handlerMove qsort socket count = some next) :
    Continues ⟨next, dispatched⟩ socket stream
      (toServer.length * byteWork + 2 + rest.length) 1 := by
  have onItsWay : OnItsWay [] toClient rest
      (session.served.flatMap Served.message) :=
    sent
  obtain ⟨server, handler', stage', toClient', rest', rfl, _, live', less,
    unsent', sent'⟩ :=
    Session.handler_sends alive live atPoint inFlight
      (fun nothing => absurd nothing pending) unsent onItsWay moved
  have lengths := congrArg List.length (onItsWay.trans sent'.symm)
  simp only [List.nil_append, List.length_append] at lengths
  simp only [transferWork] at less
  by_cases nothing : rest' = []
  · obtain ⟨rfl, rfl⟩ := unsent'.of_nothing nothing
    subst nothing
    refine ⟨toServer.length * byteWork + 2, fun _ => .of_stage live'
      (.receiving (.header nothing_short) ?_ parsed answered ?_), ?_⟩
    · intro header bytes same
      cases same
    · rw [← sent', List.append_nil]
      rfl
    · have some := List.length_pos_iff.mpr pending
      omega
  · refine ⟨toServer.length * byteWork + 2 + rest'.length,
      fun _ => .of_stage live'
        (.responding parsed answered unsent' nothing sent'), ?_⟩
    omega

private theorem respond_continues
    {earlier : List Frame} {frame : Frame} {request : Request}
    {stage : Stage} {steps : Nat} {toServer toClient : List UInt8}
    {responseData : List UInt8}
    (live : session.server.handlers socket = some ⟨user, stage, true⟩)
    (atPoint : session.handler = .answering request)
    (inFlight : session.wires = ⟨toServer, toClient⟩)
    (parsed : messages stream = earlier ++ frame :: messages toServer)
    (answered : List.Forall₂ Served.AnswersFrame earlier session.served)
    (sent : toClient = session.served.flatMap Served.message)
    (taken : TakenFor frame request)
    (branch : Answering request stage steps)
    (responded : session.respond socket responseData = some next) :
    Continues ⟨next, earlier ++ [frame]⟩ socket stream
      (toServer.length * byteWork + answerWork + steps) 1 := by
  obtain ⟨request', response, atPoint', responds, filled, rfl⟩ :=
    Session.answering_of_respond responded
  cases atPoint'.symm.trans atPoint
  obtain rfl := Session.stage_of_response live responds
  obtain ⟨type, _, rfl⟩ := Session.answered_of_answering branch
  have bound := response.sizeof_le
  have length := filled.1
  have later : responseData ≠ [] :=
    List.ne_nil_of_length_pos (length ▸ response.sizeof_pos)
  have answers : Served.AnswersFrame frame
      ⟨request, response, responseData⟩ :=
    ⟨taken, type, filled⟩
  have whole : toClient ++
      ((Served.header ⟨request, response, responseData⟩).bytes ++
        responseData) =
      (session.served ++
        [(⟨request, response, responseData⟩ : Served)]).flatMap
          Served.message := by
    rw [sent, List.flatMap_append, List.flatMap_singleton, Served.message]
  have sized : ((Served.header ⟨request, response, responseData⟩).bytes ++
      responseData).length = sizeofMessageHeader + response.sizeof := by
    rw [List.length_append, MessageHeader.length_bytes, length]
  refine ⟨toServer.length * byteWork + 2 +
    (sizeofMessageHeader + response.sizeof), fun _ => .of_stage live ?_, ?_⟩
  · simp only [inFlight, ← sized]
    refine .responding ?_ (List.rel_append answered (.cons answers .nil))
      (.header (MessageHeader.bytes_ne_nil _) later)
      (List.append_ne_nil_of_right_ne_nil _ later) whole
    rw [parsed, List.append_assoc, List.singleton_append]
  · rw [answerWork]
    omega

/-- A message that does not crash the server enters its branch. -/
private theorem dispatch_continues
    {toServer toClient body : List UInt8} {type : Int32} {request : Request}
    {disk : DiskCalls}
    (live : session.server.handlers socket = some ⟨user, .receiving, true⟩)
    (inFlight : session.wires = ⟨toServer, toClient⟩)
    (parsed : messages stream =
      dispatched ++ (type, body) :: messages toServer)
    (answered : List.Forall₂ Served.AnswersFrame dispatched session.served)
    (sent : toClient = session.served.flatMap Served.message)
    (taken : TakenFor (type, body) request)
    (stepped : session.serverStep qsort (.receive socket request disk)
      (.answering request) = some next) :
    Continues ⟨next, dispatched ++ [(type, body)]⟩ socket stream
      (toServer.length * byteWork + byteWork + 1) 1 := by
  obtain ⟨server, received, rfl⟩ := Option.map_eq_some_iff.mp stepped
  obtain ⟨_, steps⟩ := Server.step_iff.mp received
  cases steps with
  | receive socket request disk there stage =>
      cases there.symm.trans live
      by_cases alive : (session.server.receive qsort socket
          ⟨user, .receiving, true⟩ request disk).alive = true
      · obtain ⟨user', stage', left, live', branch, within⟩ :=
          Server.inBranch_of_alive alive
        refine ⟨toServer.length * byteWork + answerWork + left,
          fun _ => .of_stage live' ?_, by rw [byteWork]; omega⟩
        simp only [inFlight]
        exact .answering parsed answered sent taken branch
      · exact ⟨0, fun survives => absurd survives alive, by omega⟩

private theorem ownStep_continues
    {stage : Option Stage} {action : Action} {server : Server} {work : Nat}
    (live : session.server.handlers socket =
      stage.map (fun stage => ⟨user, stage, true⟩))
    (phase : IntakePhase stream session.handler stage session.wires
      dispatched session.served work)
    (own : Session.ownStep session.handler action = true)
    (addressed : action.socket = socket)
    (taken : Server.step qsort session.server action = some server) :
    Continues ⟨{ session with server := server }, dispatched⟩ socket stream
      work 1 := by
  obtain ⟨before, handler, wires, connected, calls, current, returned,
    history⟩ := session
  rcases Session.point_of_ownStep own with ⟨request, rfl⟩ | rfl
  · cases phase with
    | answering parsed answered sent takenFor branch =>
        obtain ⟨fewer, less, _, inBranch⟩ :=
          Server.inBranch_ownStep live branch own addressed taken
        obtain ⟨user', stage', left, live', branch', within⟩ := inBranch
        exact ⟨_, fun _ => .of_stage live'
          (.answering parsed answered sent takenFor branch'), by omega⟩
    | receiving received fits parsed answered sent => cases received
    | responding parsed answered unsent pending sent => cases unsent
  · cases action with
    | cleanUp other =>
        obtain ⟨_, steps⟩ := Server.step_iff.mp taken
        cases steps with
        | cleanUp other there atStage =>
            cases phase with
            | leaving parsed answered sent =>
                cases addressed
                exact ⟨0, fun _ => ⟨user, none, Function.update_self _ _ _,
                  .ended parsed answered sent⟩, Nat.le_refl 1⟩
            | ended parsed answered sent =>
                cases addressed
                cases there.symm.trans live
            | receiving received fits parsed answered sent => cases received
            | responding parsed answered unsent pending sent => cases unsent
    | _ => cases own

variable {intake final : Intake} {work : Nat}

private theorem Framed.moved
    {count : Nat} (framed : intake.Framed socket stream work)
    (alive : intake.session.server.alive = true)
    (moved : intake.session.handlerMove qsort socket count = some next) :
    Continues ⟨next, intake.dispatched⟩ socket stream work 1 := by
  obtain ⟨user, stage, live, phase⟩ := framed
  obtain ⟨⟨server, handler, wires, connected, calls, current, returned,
    history⟩, dispatched⟩ := intake
  cases phase with
  | receiving received fits parsed answered sent =>
      exact receiving_continues alive live rfl rfl received fits parsed
        answered sent moved
  | responding parsed answered unsent pending sent =>
      exact responding_continues alive live rfl rfl parsed answered unsent
        pending sent moved
  | handling parsed answered sent => cases moved
  | answering parsed answered sent taken branch => cases moved
  | leaving parsed answered sent => cases moved
  | ended parsed answered sent => cases moved

private theorem Framed.failed
    (framed : intake.Framed socket stream work)
    (alive : intake.session.server.alive = true)
    (exhausted : intake.session.wires.toServer = [])
    (receives : intake.session.handler.receives = true)
    (failed : intake.session.handlerFail qsort socket = some next) :
    Continues ⟨next, intake.dispatched⟩ socket stream work 1 := by
  obtain ⟨user, stage, live, phase⟩ := framed
  obtain ⟨⟨server, handler, wires, connected, calls, current, returned,
    history⟩, dispatched⟩ := intake
  cases phase with
  | receiving received fits parsed answered sent =>
      cases exhausted
      rw [List.append_nil] at parsed
      have goesOn := failed_continues alive live rfl rfl received parsed
        answered sent failed
      rwa [List.length_nil, Nat.zero_mul, Nat.zero_add]
  | responding parsed answered unsent pending sent =>
      cases unsent with
      | header there later => cases receives
      | body there => cases receives
      | nothing => exact absurd rfl pending
  | handling parsed answered sent => cases receives
  | answering parsed answered sent taken branch => cases receives
  | leaving parsed answered sent => cases receives
  | ended parsed answered sent => cases receives

private theorem Framed.stays (framed : intake.Framed socket stream work) :
    intake.Continues socket stream work 0 :=
  ⟨work, fun _ => framed, Nat.le_refl work⟩

private theorem Framed.otherStepped
    {action : Action} {server : Server}
    (framed : intake.Framed socket stream work)
    (apart : action.socket ≠ socket)
    (taken : Server.step qsort intake.session.server action = some server) :
    Continues ⟨{ intake.session with server := server }, intake.dispatched⟩
      socket stream work 0 := by
  obtain ⟨user, stage, live, phase⟩ := framed
  have live' : server.handlers socket =
      stage.map (fun stage => ⟨user, stage, true⟩) :=
    (Server.step_other taken apart.symm).trans live
  exact ⟨work, fun _ => ⟨user, stage, live', phase⟩, Nat.le_refl work⟩

private theorem Framed.dispatches
    {request : Request} {disk : DiskCalls}
    (framed : intake.Framed socket stream work)
    (stepped : intake.dispatch qsort socket request disk = some final) :
    final.Continues socket stream work 1 := by
  obtain ⟨user, stage, live, phase⟩ := framed
  obtain ⟨⟨server, handler, wires, connected, calls, current, returned,
    history⟩, dispatched⟩ := intake
  cases phase with
  | handling parsed answered sent =>
      simp only [dispatch] at stepped
      split at stepped
      · rename_i taken
        obtain ⟨next, received, rfl⟩ := Option.map_eq_some_iff.mp stepped
        exact dispatch_continues live rfl parsed answered sent taken received
      · cases stepped
  | receiving received fits parsed answered sent =>
      cases received with
      | header short => cases stepped
      | body short => cases stepped
  | responding parsed answered unsent pending sent =>
      cases unsent with
      | header there later => cases stepped
      | body there => cases stepped
      | nothing => cases stepped
  | answering parsed answered sent taken branch => cases stepped
  | leaving parsed answered sent => cases stepped
  | ended parsed answered sent => cases stepped

private theorem Framed.responded
    {responseData : List UInt8}
    (framed : intake.Framed socket stream work)
    (responded : intake.session.respond socket responseData = some next) :
    Continues ⟨next, intake.dispatched⟩ socket stream work 1 := by
  obtain ⟨request, response, atPoint, _⟩ :=
    Session.answering_of_respond responded
  obtain ⟨user, stage, live, phase⟩ := framed
  obtain ⟨⟨server, handler, wires, connected, calls, current, returned,
    history⟩, dispatched⟩ := intake
  cases atPoint
  cases phase with
  | answering parsed answered sent taken branch =>
      exact respond_continues live rfl rfl parsed answered sent taken branch
        responded
  | receiving received fits parsed answered sent => cases received
  | responding parsed answered unsent pending sent => cases unsent

/-- Every step keeps the invariant, and a productive one leaves less work. -/
theorem Framed.step
    {action : IntakeAction} (framed : intake.Framed socket stream work)
    (stepped : Intake.step qsort socket intake action = some final) :
    final.Continues socket stream work
      (if action.Productive socket then 1 else 0) := by
  cases action with
  | handler transfer =>
      simp only [Intake.step, Intake.transfer] at stepped
      split at stepped
      · rename_i allowed
        obtain ⟨next, transferred, rfl⟩ := Option.map_eq_some_iff.mp stepped
        simp only [Session.handlerTransfer] at transferred
        split at transferred
        · rename_i alive
          cases transfer with
          | moved count => exact framed.moved alive transferred
          | interrupted =>
              cases transferred
              exact framed.stays
          | failed =>
              obtain ⟨exhausted, receives⟩ := allowed rfl
              exact framed.failed alive exhausted receives transferred
        · cases transferred
      · cases stepped
  | dispatch request disk => exact framed.dispatches stepped
  | respond responseData =>
      obtain ⟨next, responded, rfl⟩ := Option.map_eq_some_iff.mp stepped
      exact framed.responded responded
  | server action =>
      obtain ⟨next, other, rfl⟩ := Option.map_eq_some_iff.mp stepped
      rw [Session.otherStep] at other
      split at other
      · rename_i allowed
        obtain ⟨server, taken, rfl⟩ := Option.map_eq_some_iff.mp other
        by_cases addressed : action.socket = socket
        · have productive : (IntakeAction.server action).Productive socket :=
            addressed
          rw [if_pos productive]
          obtain ⟨user, stage, live, phase⟩ := framed
          exact ownStep_continues live phase
            (allowed.resolve_left (not_not.mpr addressed)) addressed taken
        · have idle : ¬(IntakeAction.server action).Productive socket :=
            addressed
          rw [if_neg idle]
          exact framed.otherStepped addressed taken
      · cases other

end Intake

end RainTyping
