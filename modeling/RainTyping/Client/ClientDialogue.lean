import RainTyping.Client.ClientMain

/-!
# What a client asks of the server

`dialogue` says in which order a client may use its connections: it logs in
once on each of them, submits the score of the game it has just finished and
of no other, and asks for nothing after a logout.  Every run of the client
program keeps to it, whatever the server answers.
-/

namespace RainTyping

namespace RequestFunction

/-- The requests of `auth_ui_main`. -/
def asksToEnter : RequestFunction → Bool
  | .sendRegisterRequest _ _ => true
  | .sendLoginRequest _ _ => true
  | _ => false

/-- The score that the function submits. -/
def submits : RequestFunction → Option Int32
  | .sendScoreSubmitRequest score => some score
  | _ => none

end RequestFunction

/-! ## The dialogue -/

/-- How far a client has come on its connection. -/
inductive DialoguePhase where
  | offline
  /-- Connected, with the last request. -/
  | guest (asked : Option RequestFunction)
  /-- Logged in, with the last request and the score that comes next. -/
  | member (user : CharArray maxIdLen) (asked : Option RequestFunction)
      (owed : Option Int32)
  /-- About to close the connection. -/
  | parted
  /-- The connection is lost, and there will be no other. -/
  | cutOff (user : CharArray maxIdLen)
  deriving DecidableEq

/-- A game whose score is not negative is owed to the server. -/
def owedFor (game : FinishedGame) : Option Int32 :=
  if game.score < 0 then none else some game.score

def dialogue : Machine DialoguePhase ClientEvent
  | .offline, .connected => some (.guest none)
  | .guest _, .sent function =>
      if function.asksToEnter then some (.guest (some function)) else none
  | .guest (some (.sendLoginRequest username _)), .loggedIn user =>
      if user = .store maxIdLen username.bytes then
        some (if user = .empty then .parted else .member user none none)
      else none
  | .guest _, .closed => some (.cutOff .empty)
  | .member user _ owed, .sent function =>
      if function.asksToEnter = false ∧ function.submits = owed then
        some (.member user (some function) none)
      else none
  | .member user asked none, .finished player game =>
      if player = user then some (.member user asked (owedFor game)) else none
  | .member _ (some .sendLogoutRequest) none, .loggedOut => some .parted
  | .member user _ _, .closed => some (.cutOff user)
  | .parted, .closed => some .offline
  | .cutOff user, .finished player _ =>
      if player = user then some (.cutOff user) else none
  | _, _ => none

namespace Client

/-! ## Where the program stands in its dialogue -/

/-- In `auth_ui_main`. -/
def Greets (client : Client) (phase : DialoguePhase) : Prop :=
  client.userId = .empty ∧
    if client.connected then ∃ asked, phase = .guest asked
    else phase = .cutOff .empty

/-- In the menu, with the score that is to be submitted next. -/
def Serves (client : Client) (owed : Option Int32) (phase : DialoguePhase) :
    Prop :=
  client.userId ≠ .empty ∧
    if client.connected then ∃ asked, phase = .member client.userId asked owed
    else phase = .cutOff client.userId

/-- In a call of the request function. -/
def Asks (client : Client) (function : RequestFunction)
    (phase : DialoguePhase) : Prop :=
  client.connected = true ∧
    if function.asksToEnter then
      client.userId = .empty ∧ phase = .guest (some function)
    else
      client.userId ≠ .empty ∧
        phase = .member client.userId (some function) none

def Fits (client : Client) (phase : DialoguePhase) : Prop :=
  match client.point with
  | .top => client.connected = false ∧ phase = .offline
  | .connectFailed => client.connected = false ∧ phase = .offline
  | .authMenu => client.Greets phase
  | .authPause => client.Greets phase
  | .loginPause =>
      client.connected = true ∧
        if client.userId = .empty then phase = .parted
        else client.Serves none phase
  | .calling function =>
      if function.asksToEnter then client.Greets phase
      else client.Serves function.submits phase
  | .awaiting function => client.Asks function phase
  | .logoutPause true => client.connected = true ∧ phase = .parted
  | .exited _ => client.connected = false
  | _ => client.Serves none phase

/-- The history of the client is a dialogue that has led to this phase. -/
def Holds (client : Client) (phase : DialoguePhase) : Prop :=
  dialogue.run .offline client.history = some phase

/-- The history of the client is a dialogue in which it stands here. -/
def Conforms (client : Client) : Prop :=
  ∃ phase, client.Holds phase ∧ client.Fits phase

variable {sha256 : Sha256} {client next : Client} {phase after : DialoguePhase}
  {event : ClientEvent} {function : RequestFunction} {point : ClientPoint}
  {owed : Option Int32}

/-! ## One event more -/

theorem Holds.snoc
    (holds : client.Holds phase) (goesOn : dialogue phase event = some after) :
    (client.record event).Holds after := by
  apply Machine.run_append_eq_some_iff.mpr
  refine ⟨phase, holds, ?_⟩
  rw [Machine.run_cons_eq_some_iff]
  exact ⟨after, goesOn, rfl⟩

/-- If the client is connected, it can close its connection now. -/
def CanClose (client : Client) (phase : DialoguePhase) : Prop :=
  client.connected = true → ∃ after, dialogue phase .closed = some after

theorem Holds.disconnect
    (holds : client.Holds phase) (connected : client.connected = true)
    (closes : dialogue phase .closed = some after) :
    client.disconnectFromServer.Holds after := by
  rw [disconnectFromServer, if_pos connected]
  exact holds.snoc closes

theorem Greets.canClose (greets : client.Greets phase) :
    client.CanClose phase := by
  intro connected
  obtain ⟨_, place⟩ := greets
  rw [if_pos connected] at place
  obtain ⟨asked, rfl⟩ := place
  cases asked with
  | none => exact ⟨_, rfl⟩
  | some function => cases function <;> exact ⟨_, rfl⟩

theorem Serves.canClose (serves : client.Serves owed phase) :
    client.CanClose phase := by
  intro connected
  obtain ⟨_, place⟩ := serves
  rw [if_pos connected] at place
  obtain ⟨asked, rfl⟩ := place
  refine ⟨.cutOff client.userId, ?_⟩
  cases asked <;> cases owed <;> rfl

theorem Asks.canClose (asks : client.Asks function phase) :
    client.CanClose phase := by
  intro connected
  obtain ⟨_, place⟩ := asks
  split at place
  · obtain ⟨_, rfl⟩ := place
    cases function <;> exact ⟨_, rfl⟩
  · obtain ⟨_, rfl⟩ := place
    cases function <;> exact ⟨_, rfl⟩

theorem Asks.cutOff (asks : client.Asks function phase) :
    dialogue phase .closed = some (.cutOff client.userId) := by
  obtain ⟨_, place⟩ := asks
  split at place
  · obtain ⟨nobody, rfl⟩ := place
    rw [nobody]
    cases function <;> rfl
  · obtain ⟨_, rfl⟩ := place
    cases function <;> rfl

theorem Fits.canClose (fits : client.Fits phase) : client.CanClose phase := by
  unfold Fits at fits
  split at fits
  case h_1 => exact fun connected => absurd connected (by simp [fits.1])
  case h_2 => exact fun connected => absurd connected (by simp [fits.1])
  case h_3 => exact fits.canClose
  case h_4 => exact fits.canClose
  case h_5 =>
      obtain ⟨_, place⟩ := fits
      split at place
      · rw [place]
        exact fun _ => ⟨_, rfl⟩
      · exact place.canClose
  case h_6 =>
      split at fits
      · exact fits.canClose
      · exact fits.canClose
  case h_7 => exact fits.canClose
  case h_8 =>
      rw [fits.2]
      exact fun _ => ⟨_, rfl⟩
  case h_9 => exact fun connected => absurd connected (by simp [fits])
  case h_10 => exact fits.canClose

/-! ## The ways on -/

theorem conforms_exit
    (success : Bool) (holds : client.Holds phase)
    (canClose : client.CanClose phase) :
    (client.performCleanupAndExit success).Conforms := by
  unfold performCleanupAndExit disconnectFromServer
  split
  · rename_i connected
    obtain ⟨after, closes⟩ := canClose connected
    exact ⟨after, holds.snoc closes, rfl⟩
  · rename_i unconnected
    rw [Bool.not_eq_true] at unconnected
    exact ⟨phase, holds, unconnected⟩

theorem conforms_unlessSigint
    (holds : client.Holds phase) (canClose : client.CanClose phase)
    (otherwise : client.sigintReceived = false → next.Conforms) :
    (client.unlessSigint next).Conforms := by
  unfold unlessSigint
  split
  · exact conforms_exit true holds canClose
  · rename_i quiet
    exact otherwise (Bool.not_eq_true _ ▸ quiet)

theorem conforms_pause
    (code : Int) (before : client.Conforms) (later : next.Conforms) :
    (client.pause code next).Conforms := by
  unfold pause
  split
  · exact later
  · exact before

theorem conforms_afterLogin
    {username : CString} {success : Bool}
    (holds : client.Holds phase) (greets : client.Greets phase)
    (asked : success = true → client.connected = true ∧
      ∃ password, phase = .guest (some (.sendLoginRequest username password))) :
    (client.afterLogin username success).Conforms := by
  unfold afterLogin
  split
  · rename_i accepted
    obtain ⟨connected, password, rfl⟩ := asked accepted
    let user : CharArray maxIdLen := .store maxIdLen username.bytes
    by_cases nobody : user = .empty
    · refine ⟨.parted, holds.snoc ?_, connected, ?_⟩
      · simp only [dialogue, ↓reduceIte]
        exact congrArg some (if_pos nobody)
      · exact (if_pos nobody).mpr rfl
    · have serves : Serves
          { client with userId := user, point := .loginPause } none
            (.member user none none) :=
        ⟨nobody, (if_pos connected).mpr ⟨none, rfl⟩⟩
      refine ⟨.member user none none, holds.snoc ?_, connected, ?_⟩
      · simp only [dialogue, ↓reduceIte]
        exact congrArg some (if_neg nobody)
      · exact (if_neg nobody).mpr serves
  · exact ⟨phase, holds, greets⟩

theorem conforms_afterLogout
    {success : Bool}
    (holds : client.Holds phase) (serves : client.Serves none phase)
    (asked : success = true → client.connected = true ∧
      phase = .member client.userId (some .sendLogoutRequest) none) :
    (client.afterLogout success).Conforms := by
  unfold afterLogout
  split
  · rename_i accepted
    obtain ⟨connected, rfl⟩ := asked accepted
    exact ⟨.parted, holds.snoc rfl, connected, rfl⟩
  · exact ⟨phase, holds, serves⟩

theorem conforms_enterMenu
    (connected : client.connected = true) (holds : client.Holds phase)
    (entered : if client.userId = .empty then phase = .parted
      else client.Serves none phase) :
    client.enterMenu.Conforms := by
  unfold enterMenu
  split
  · rename_i named
    rw [if_neg (CharArray.strlen_pos_iff.mp named)] at entered
    exact ⟨phase, holds, entered⟩
  · rename_i unnamed
    have nobody : client.userId = .empty := by
      by_contra named
      exact unnamed (CharArray.strlen_pos_iff.mpr named)
    rw [if_pos nobody] at entered
    subst entered
    rw [disconnectFromServer, if_pos connected]
    exact ⟨.offline, holds.snoc rfl, rfl, rfl⟩

/-! ## The returns of the request functions -/

/-- What is known of a client behind the return of a request function. -/
structure Returned (client : Client) (function : RequestFunction)
    (success : Bool) (phase : DialoguePhase) : Prop where
  holds : client.Holds phase
  canClose : client.CanClose phase
  greets : function.asksToEnter = true → client.Greets phase
  serves : function.asksToEnter = false →
    client.sigintReceived = false ∨ function.submits = none →
      client.Serves none phase
  asks : success = true → client.Asks function phase

theorem Returned.conforms
    {code : Int} {response : List UInt8} (load : LoadMemory)
    (returned : client.Returned function (succeeded code response) phase) :
    (client.resume load code response function).Conforms := by
  obtain ⟨holds, canClose, greets, serves, asks⟩ := returned
  cases function with
  | sendRegisterRequest username password =>
      apply conforms_unlessSigint holds canClose
      intro _
      exact ⟨phase, holds, greets rfl⟩
  | sendLoginRequest username password =>
      apply conforms_unlessSigint holds canClose
      intro _
      apply conforms_afterLogin holds (greets rfl)
      intro success
      exact ⟨(asks success).1, password, (asks success).2.2⟩
  | sendWordlistRequest =>
      simp only [resume, afterLoad]
      have inMenu := serves rfl (.inr rfl)
      split
      · exact ⟨phase, holds, inMenu⟩
      · exact ⟨phase, holds, inMenu⟩
  | sendScoreSubmitRequest score =>
      apply conforms_unlessSigint holds canClose
      intro quiet
      exact ⟨phase, holds, serves rfl (.inl quiet)⟩
  | sendLeaderboardRequest => exact ⟨phase, holds, serves rfl (.inr rfl)⟩
  | sendLogoutRequest =>
      apply conforms_unlessSigint holds canClose
      intro quiet
      apply conforms_afterLogout holds (serves rfl (.inr rfl))
      intro success
      exact ⟨(asks success).1, (asks success).2.2⟩

theorem returned_of_asks
    (success : Bool) (holds : client.Holds phase)
    (asks : client.Asks function phase) :
    client.Returned function success phase where
  holds := holds
  canClose := asks.canClose
  greets := by
    intro enters
    obtain ⟨connected, place⟩ := asks
    rw [if_pos enters] at place
    refine ⟨place.1, ?_⟩
    rw [if_pos connected]
    exact ⟨_, place.2⟩
  serves := by
    intro serves _
    obtain ⟨connected, place⟩ := asks
    rw [if_neg (by simp [serves])] at place
    refine ⟨place.1, ?_⟩
    rw [if_pos connected]
    exact ⟨_, place.2⟩
  asks := fun _ => asks

theorem returned_of_disconnect
    (holds : client.Holds phase) (asks : client.Asks function phase) :
    client.disconnectFromServer.Returned function false
      (.cutOff client.userId) where
  holds := holds.disconnect asks.1 asks.cutOff
  canClose := by
    intro stillConnected
    rw [disconnectFromServer, if_pos asks.1] at stillConnected
    cases stillConnected
  greets := by
    intro enters
    obtain ⟨connected, place⟩ := asks
    rw [if_pos enters] at place
    rw [disconnectFromServer, if_pos connected, place.1]
    exact ⟨rfl, rfl⟩
  serves := by
    intro serves _
    obtain ⟨connected, place⟩ := asks
    rw [if_neg (by simp [serves])] at place
    rw [disconnectFromServer, if_pos connected]
    exact ⟨place.1, rfl⟩
  asks := fun impossible => absurd impossible (by simp)

theorem returned_of_unsent
    (holds : client.Holds phase)
    (fits : (client.goto (.calling function)).Fits phase)
    (unsent : client.connected = false ∨ client.sigintReceived = true) :
    client.Returned function false phase where
  holds := holds
  canClose := fits.canClose
  greets := by
    intro enters
    simp only [Fits, goto, enters, ↓reduceIte] at fits
    exact fits
  serves := by
    intro serves silent
    simp only [Fits, goto, serves] at fits
    rcases silent with quiet | nothing
    · have unconnected : client.connected = false :=
        unsent.resolve_right (by simp [quiet])
      obtain ⟨named, place⟩ := fits
      refine ⟨named, ?_⟩
      simpa [unconnected] using place
    · rw [nothing] at fits
      exact fits
  asks := fun impossible => absurd impossible (by simp)

/-! ## One step -/

theorem conforms_call
    (call : RequestCall) (load : LoadMemory)
    (holds : client.Holds phase)
    (fits : (client.goto (.calling call.function)).Fits phase) :
    (client.conclude call.function load
      (call.start client.connected client.sigintReceived)).Conforms := by
  have unsent : client.connected = false ∨ client.sigintReceived = true →
      ∀ code response, code ≠ 0 →
        (client.conclude call.function load
          (.returns code response)).Conforms := by
    intro silent code response failed
    have failure : succeeded code response = false := by
      simp [succeeded, failed]
    exact Returned.conforms load
      (failure ▸ returned_of_unsent holds fits silent)
  unfold RequestCall.start
  split
  · rename_i connected
    split
    · rename_i signaled
      exact unsent (.inr signaled) _ _ (by decide)
    · simp only [Fits, goto] at fits
      simp only [conclude]
      by_cases enters : call.function.asksToEnter = true
      · rw [if_pos enters] at fits
        obtain ⟨nobody, place⟩ := fits
        rw [if_pos connected] at place
        obtain ⟨asked, rfl⟩ := place
        refine ⟨.guest (some call.function), holds.snoc ?_, connected, ?_⟩
        · simp [dialogue, enters]
        · rw [if_pos enters]
          exact ⟨nobody, rfl⟩
      · rw [if_neg enters] at fits
        obtain ⟨named, place⟩ := fits
        rw [if_pos connected] at place
        obtain ⟨asked, rfl⟩ := place
        refine ⟨.member client.userId (some call.function) none,
          holds.snoc ?_, connected, ?_⟩
        · simp [dialogue, enters]
        · rw [if_neg enters]
          exact ⟨named, rfl⟩
  · rename_i unconnected
    rw [Bool.not_eq_true] at unconnected
    exact unsent (.inl unconnected) _ _ (by decide)

theorem conforms_return
    {outcome : CallOutcome} (load : LoadMemory) (ends : outcome.Ends)
    (holds : client.Holds phase) (asks : client.Asks function phase) :
    (client.conclude function load outcome).Conforms := by
  cases outcome with
  | continues point => cases ends
  | returns code response =>
      exact Returned.conforms load (returned_of_asks _ holds asks)
  | disconnects code response =>
      have failure : succeeded code response = false := by
        simp only [CallOutcome.Ends] at ends
        simp [succeeded, ends]
      exact Returned.conforms load
        (failure ▸ returned_of_disconnect holds asks)

theorem conforms_reportScore
    (finalScore : Int32) (holds : client.Holds phase)
    (serves : client.Serves (if finalScore < 0 then none else some finalScore)
      phase) :
    (client.reportScore finalScore).Conforms := by
  apply conforms_unlessSigint holds serves.canClose
  intro _
  split
  · rename_i negative
    rw [if_pos negative] at serves
    exact ⟨phase, holds, serves⟩
  · rename_i counts
    rw [if_neg counts] at serves
    exact ⟨phase, holds, serves⟩

theorem conforms_afterGame
    (game : FinishedGame) (holds : client.Holds phase)
    (serves : client.Serves none phase) :
    ∃ after, (client.afterGame game).Holds after ∧
      (client.afterGame game).Serves (owedFor game) after := by
  obtain ⟨named, place⟩ := serves
  by_cases connected : client.connected = true
  · rw [if_pos connected] at place
    obtain ⟨asked, rfl⟩ := place
    refine ⟨_, holds.snoc (if_pos rfl), named, ?_⟩
    rw [afterGame, record, leaveGame, if_pos connected]
    exact ⟨asked, rfl⟩
  · rw [if_neg connected] at place
    subst place
    refine ⟨_, holds.snoc (if_pos rfl), named, ?_⟩
    rw [afterGame, record, leaveGame, if_neg connected]

theorem conforms_play
    {outcome : GameOutcome}
    (holds : client.Holds phase) (serves : client.Serves none phase)
    (plays : client.play outcome = some next) : next.Conforms := by
  cases outcome with
  | refused screenTooSmall =>
      cases plays
      have negative : (GameOutcome.refused screenTooSmall).finalScore < 0 := by
        cases screenTooSmall <;> decide
      apply conforms_reportScore
      · exact holds
      · rw [if_pos negative]
        exact serves
  | finished game =>
      simp only [play] at plays
      split at plays
      · cases plays
        obtain ⟨after, holdsAfter, servesAfter⟩ :=
          conforms_afterGame game holds serves
        exact conforms_reportScore game.score holdsAfter servesAfter
      · cases plays

theorem conforms_authRound
    {events : List TermEvent}
    (holds : client.Holds phase) (greets : client.Greets phase)
    (round : client.authRound sha256 events = some next) :
    next.Conforms := by
  unfold authRound at round
  split at round
  · cases round
    exact conforms_exit true holds greets.canClose
  · split at round
    · cases round
    · cases round
      exact conforms_exit true holds greets.canClose
    · cases round
      exact conforms_exit true holds greets.canClose
    all_goals
      cases round
      exact ⟨phase, holds, greets⟩

theorem conforms_connect
    (accepted : Bool) (holds : client.Holds phase)
    (unconnected : client.connected = false) (offline : phase = .offline) :
    (client.connectToServer accepted).Conforms := by
  subst offline
  apply conforms_unlessSigint holds
  · intro connected
    rw [unconnected] at connected
    cases connected
  · intro _
    simp only [unconnected, Bool.false_eq_true, ↓reduceIte]
    split
    · refine ⟨.guest none, holds.snoc rfl, rfl, ?_⟩
      exact ⟨none, rfl⟩
    · exact ⟨.offline, holds, rfl, rfl⟩

theorem conforms_choose
    (code : Int) (holds : client.Holds phase)
    (serves : client.Serves none phase) : (client.choose code).Conforms := by
  unfold choose
  split
  · split
    · exact ⟨phase, holds, serves⟩
    · exact ⟨phase, holds, serves⟩
  · split_ifs <;> exact ⟨phase, holds, serves⟩

theorem step_conforms
    {action : ClientAction} (conforms : client.Conforms)
    (stepped : step sha256 client action = some next) : next.Conforms := by
  obtain ⟨phase, holds, fits⟩ := conforms
  have stays : client.Conforms := ⟨phase, holds, fits⟩
  have canClose := fits.canClose
  cases steps_of_step stepped with
  | sigint runs =>
      unfold handleSigint
      split
      · exact ⟨phase, holds, fits⟩
      · exact ⟨phase, holds, fits⟩
  | connect accepted here =>
      simp only [Fits, here] at fits
      exact conforms_connect accepted holds fits.1 fits.2
  | connectFailed code here => exact conforms_exit false holds canClose
  | authRound events here round =>
      simp only [Fits, here] at fits
      exact conforms_authRound holds fits round
  | authPause code here =>
      simp only [Fits, here] at fits
      apply conforms_pause code stays
      apply conforms_unlessSigint holds canClose
      intro _
      exact ⟨phase, holds, fits⟩
  | loginPause code here =>
      simp only [Fits, here] at fits
      apply conforms_pause code stays
      apply conforms_unlessSigint holds canClose
      intro _
      exact conforms_enterMenu fits.1 holds fits.2
  | call call load here =>
      apply conforms_call call load holds
      simp only [Fits, here] at fits
      exact fits
  | «return» outcome load here ends =>
      simp only [Fits, here] at fits
      exact conforms_return load ends holds fits
  | draw here =>
      simp only [Fits, here] at fits
      apply conforms_unlessSigint holds canClose
      intro _
      exact ⟨phase, holds, fits⟩
  | choose code here =>
      simp only [Fits, here] at fits
      exact conforms_choose code holds fits
  | loadPause code here =>
      simp only [Fits, here] at fits
      exact conforms_pause code stays ⟨phase, holds, fits⟩
  | play outcome here plays =>
      simp only [Fits, here] at fits
      exact conforms_play holds fits plays
  | menuPause code here =>
      simp only [Fits, here] at fits
      exact conforms_pause code stays ⟨phase, holds, fits⟩
  | firstPage code here =>
      simp only [Fits, here] at fits
      apply conforms_pause code stays
      split
      · exact ⟨phase, holds, fits⟩
      · exact ⟨phase, holds, fits⟩
  | lastPage code here =>
      simp only [Fits, here] at fits
      exact conforms_pause code stays ⟨phase, holds, fits⟩
  | @logoutPause loggedOut code here =>
      apply conforms_pause code stays
      apply conforms_unlessSigint holds canClose
      intro _
      cases loggedOut with
      | true =>
          simp only [Fits, here] at fits
          obtain ⟨connected, rfl⟩ := fits
          simp only [↓reduceIte, disconnectFromServer, connected]
          exact ⟨.offline, holds.snoc rfl, rfl, rfl⟩
      | false =>
          simp only [Fits, here] at fits
          exact ⟨phase, holds, fits⟩
  | confirming code here =>
      simp only [Fits, here] at fits
      split
      · exact conforms_exit true holds canClose
      · exact ⟨phase, holds, fits⟩

theorem conforms_start : start.Conforms :=
  ⟨.offline, rfl, rfl, rfl⟩

/-- Whatever the user types, the server answers and the games come to, the
client keeps to the dialogue. -/
theorem dialogue_of_run
    {actions : List ClientAction}
    (ran : (step sha256).run start actions = some client) :
    client.Conforms :=
  Machine.run_preserves Conforms
    (fun _ _ _ conforms stepped => step_conforms conforms stepped)
    conforms_start ran

/-! ## A visit -/

/-- A `LoginResponse` that grants the login, or any other of its size. -/
def grantedStruct : List UInt8 :=
  statusStruct ⟨true, .empty⟩

/-- The call of a function whose struct was granted before. -/
def statusCall (function : RequestFunction)
    (sized : function.responseBodyMaxLen = sizeofStatusResponse) :
    RequestCall where
  function := function
  response := grantedStruct
  sized := by rw [sized, grantedStruct, length_statusStruct]

/-- What `bob` sends with the password `pw`. -/
def bobLogin : RequestFunction :=
  .sendLoginRequest (.ofBuffer (text "bob"))
    (.ofBuffer (bytesToHex ((sha256OfPw (.ofBuffer (text "pw"))).elim []
      Vector.toList)))

/-- A login as `bob`, and a logout. -/
def bobVisits : List ClientAction :=
  [.connect true,
    .authRound (.key 49 :: keysOf (text "bob") ++
      .key 10 :: (keysOf (text "pw") ++ [.key 10])),
    .call (statusCall bobLogin rfl) .succeed,
    .return (.returns 0 grantedStruct) .succeed,
    .key 32, .draw, .key 52,
    .call (statusCall .sendLogoutRequest rfl) .succeed,
    .return (.returns 0 grantedStruct) .succeed,
    .key 32]

private theorem bobVisits_ran :
    ((step sha256OfPw).run start bobVisits).map
      (fun client => (client.point, client.connected,
        client.history.length)) = some (.top, false, 6) := by
  rfl

theorem dialogue_of_bobVisits :
    ∃ client, (step sha256OfPw).run start bobVisits = some client ∧
      client.history.length = 6 ∧ client.Conforms := by
  obtain ⟨client, ran, shape⟩ := Option.map_eq_some_iff.mp bobVisits_ran
  simp only [Prod.mk.injEq] at shape
  exact ⟨client, ran, shape.2.2, dialogue_of_run ran⟩

end Client

end RainTyping
