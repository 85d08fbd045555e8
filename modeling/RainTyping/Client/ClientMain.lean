import RainTyping.Client.GameLogic
import RainTyping.Client.WordListDecoding

/-!
# The client program

`main` of `client_main.c` with `auth_ui_main` and the screens of the menu.
Each step goes from one place where the program waits to the next: for a key,
for the fields of a form, for a request function or for a game.
`handle_sigint` runs between any two steps.  What the user, the terminal, the
network and the memory answer is part of the action.
-/

namespace RainTyping

/-! ## Games -/

/-- A call of `run_rain_typing_game` that played a game, from the head of its
loop to its return. -/
structure FinishedGame where
  wordList : List CString
  area : GameArea
  input : InputLine
  actions : List GameAction
  final : Game
  score : Int32
  ran : Game.step.run (.start wordList area input) actions = some final
  returned : final.main = .returned score

/-- What `run_rain_typing_game` comes to. -/
inductive GameOutcome where
  /-- The screen is too small, or a mutex cannot be had. -/
  | refused (screenTooSmall : Bool)
  | finished (game : FinishedGame)

/-- The result of `run_rain_typing_game`. -/
def GameOutcome.finalScore : GameOutcome → Int32
  | .refused true => -1
  | .refused false => -2
  | .finished game => game.score

/-! ## The state -/

/-- Where the program waits. -/
inductive ClientPoint where
  /-- At the head of the loop of `main`. -/
  | top
  /-- At the key behind `Failed to connect to server.` -/
  | connectFailed
  /-- At the head of the loop of `auth_ui_main`. -/
  | authMenu
  /-- In a `wait_for_key_or_signal` behind which that loop goes on. -/
  | authPause
  /-- Behind `Login Success!` -/
  | loginPause
  /-- In front of this call. -/
  | calling (function : RequestFunction)
  /-- In this call, behind its first tests. -/
  | awaiting (function : RequestFunction)
  /-- At the head of the loop of the menu. -/
  | menu
  /-- In the `getch` of the menu. -/
  | choosing
  /-- Behind `Failed to load word list from server.` -/
  | loadPause
  /-- In front of `run_rain_typing_game`. -/
  | playing
  /-- In a `wait_for_key_or_signal` behind which the menu comes again. -/
  | menuPause
  | howToPlay (lastPage : Bool)
  | logoutPause (loggedOut : Bool)
  /-- Behind `Are you sure you want to exit?` -/
  | confirming
  | exited (success : Bool)
  deriving DecidableEq

/-- What the program has done so far. -/
inductive ClientEvent where
  | connected
  /-- A request function has begun to send. -/
  | sent (function : RequestFunction)
  | loggedIn (user : CharArray maxIdLen)
  | finished (user : CharArray maxIdLen) (game : FinishedGame)
  | loggedOut
  /-- `disconnect_from_server` has closed the socket. -/
  | closed

/-- The games in a history, with who played them. -/
def finishedGames (history : List ClientEvent) :
    List (CharArray maxIdLen × FinishedGame) :=
  history.filterMap fun event =>
    match event with
    | .finished user game => some (user, game)
    | _ => none

structure Client where
  sigintReceived : Bool
  sigintGameExitRequested : Bool
  isGameRunning : Bool
  /-- `client_sock` is not `-1`. -/
  connected : Bool
  wordManager : WordManager
  userId : CharArray maxIdLen
  point : ClientPoint
  history : List ClientEvent

/-- What memory answers when words are loaded. -/
structure LoadMemory where
  allocations : LoadAllocations
  stray : Nat → CString

/-- No allocation fails. -/
def LoadMemory.succeed : LoadMemory where
  allocations := ⟨true, true, true, true, fun _ => true⟩
  stray := fun _ => .empty

inductive ClientAction where
  | sigint
  | connect (accepted : Bool)
  /-- One round of the loop of `auth_ui_main`. -/
  | authRound (events : List TermEvent)
  | key (code : Int)
  /-- Enter the request function, with its response struct. -/
  | call (call : RequestCall) (load : LoadMemory)
  /-- The request function is done. -/
  | return (outcome : CallOutcome) (load : LoadMemory)
  | draw
  | play (outcome : GameOutcome)

/-! ## What a request function comes to -/

/-- The function is done.  It disconnects only where it fails. -/
def CallOutcome.Ends : CallOutcome → Prop
  | .continues _ => False
  | .returns _ _ => True
  | .disconnects code _ => code ≠ 0

instance : DecidablePred CallOutcome.Ends
  | .continues _ => inferInstanceAs (Decidable False)
  | .returns _ _ => inferInstanceAs (Decidable True)
  | .disconnects code _ => inferInstanceAs (Decidable (code ≠ 0))

namespace RequestCall

variable {call : RequestCall} {outcome : CallOutcome} {sigint : Bool}

private theorem ends_of_fail (point : CallPoint) : (call.fail point).Ends := by
  cases point <;> simp [fail, CallOutcome.Ends]

private theorem ends_of_loopHead
    (point : CallPoint) (goesOn : ∀ next, call.loopHead sigint point ≠
      .continues next) : (call.loopHead sigint point).Ends := by
  unfold loopHead at goesOn ⊢
  split
  · exact ends_of_fail point
  · rename_i quiet
    exact absurd (if_neg quiet) (goesOn point)

private theorem ends_of_behindLoop
    {next : CallOutcome}
    (ends : (∀ point, next ≠ .continues point) → next.Ends)
    (goesOn : ∀ point, call.behindLoop sigint next ≠ .continues point) :
    (call.behindLoop sigint next).Ends := by
  unfold behindLoop at goesOn ⊢
  split
  · trivial
  · rename_i quiet
    rw [if_neg quiet] at goesOn
    exact ends goesOn

private theorem ends_of_afterResponseHeader
    {header : MessageHeader}
    (goesOn : ∀ point, call.afterResponseHeader header ≠ .continues point) :
    (call.afterResponseHeader header).Ends := by
  unfold afterResponseHeader at goesOn ⊢
  split_ifs at goesOn ⊢ <;> first | trivial | exact absurd rfl (goesOn _)

/-- However a `send` or `recv` ends the function, it ends like this. -/
theorem ends_of_transfer
    {wires after : Wires} {point : CallPoint} {transfer : Transfer}
    (moved : call.transfer wires point transfer sigint = some (outcome, after))
    (goesOn : ∀ next, outcome ≠ .continues next) : outcome.Ends := by
  cases transfer with
  | failed =>
      cases moved
      exact ends_of_fail point
  | interrupted =>
      cases moved
      exact ends_of_loopHead point goesOn
  | moved count =>
      simp only [RequestCall.transfer] at moved
      cases point with
      | receivingHeader received =>
          simp only [move, Option.map_eq_some_iff] at moved
          obtain ⟨_, _, same⟩ := moved
          cases same
          split at goesOn
          · rename_i full
            rw [if_pos full]
            exact ends_of_behindLoop ends_of_afterResponseHeader goesOn
          · rename_i more
            rw [if_neg more]
            exact ends_of_loopHead _ goesOn
      | sendingHeader unsent =>
          simp only [move, Option.map_eq_some_iff] at moved
          obtain ⟨_, _, same⟩ := moved
          cases same
          split at goesOn
          · rename_i full
            rw [if_pos full]
            exact ends_of_behindLoop (fun stuck => absurd rfl (stuck _)) goesOn
          · rename_i more
            rw [if_neg more]
            exact ends_of_loopHead _ goesOn
      | sendingBody unsent =>
          simp only [move, Option.map_eq_some_iff] at moved
          obtain ⟨_, _, same⟩ := moved
          cases same
          split at goesOn
          · rename_i full
            rw [if_pos full]
            exact ends_of_behindLoop (fun stuck => absurd rfl (stuck _)) goesOn
          · rename_i more
            rw [if_neg more]
            exact ends_of_loopHead _ goesOn
      | receivingError length received =>
          simp only [move, Option.map_eq_some_iff] at moved
          obtain ⟨_, _, same⟩ := moved
          cases same
          split at goesOn
          · rename_i full
            rw [if_pos full]
            trivial
          · rename_i more
            rw [if_neg more]
            exact ends_of_loopHead _ goesOn
      | receivingBody length received =>
          simp only [move, Option.map_eq_some_iff] at moved
          obtain ⟨_, _, same⟩ := moved
          cases same
          split at goesOn
          · rename_i full
            rw [if_pos full]
            trivial
          · rename_i more
            rw [if_neg more]
            exact ends_of_loopHead _ goesOn
      | discarding remaining received =>
          simp only [move, Option.map_eq_some_iff] at moved
          obtain ⟨_, _, same⟩ := moved
          cases same
          split at goesOn
          · rename_i full
            rw [if_pos full]
            trivial
          · rename_i more
            rw [if_neg more]
            split at goesOn
            · rename_i chunk
              rw [if_pos chunk]
              exact ends_of_loopHead _ goesOn
            · rename_i less
              rw [if_neg less]
              exact ends_of_loopHead _ goesOn

end RequestCall

namespace Client

/-- Behind the initializations of `main`. -/
def start : Client where
  sigintReceived := false
  sigintGameExitRequested := false
  isGameRunning := false
  connected := false
  wordManager := ⟨[], initialCapacity, true⟩
  userId := .empty
  point := .top
  history := []

/-- The games of the client so far. -/
def games (client : Client) : List (CharArray maxIdLen × FinishedGame) :=
  finishedGames client.history

def goto (client : Client) (point : ClientPoint) : Client :=
  { client with point := point }

def record (client : Client) (event : ClientEvent) : Client :=
  { client with history := client.history ++ [event] }

def disconnectFromServer (client : Client) : Client :=
  if client.connected then
    { client with connected := false }.record .closed
  else client

/-- `perform_cleanup_and_exit`. -/
def performCleanupAndExit (client : Client) (success : Bool) : Client :=
  { client.disconnectFromServer with
    isGameRunning := false
    wordManager := cleanupWordManager client.wordManager
    point := .exited success }

def handleSigint (client : Client) : Client :=
  if client.isGameRunning then { client with sigintGameExitRequested := true }
  else { client with sigintReceived := true }

/-- `wait_for_key_or_signal` returns with this answer of `getch`. -/
def wakes (client : Client) (key : Int) : Bool :=
  client.sigintGameExitRequested || client.sigintReceived || key ≠ errKey

/-- A test of `sigint_received` that leads to the exit of the program. -/
def unlessSigint (client next : Client) : Client :=
  if client.sigintReceived then client.performCleanupAndExit true else next

/-! ## The loop of `main` -/

/-- Up to the loop of `auth_ui_main`. -/
def connectToServer (client : Client) (accepted : Bool) : Client :=
  client.unlessSigint
    (let client := { client with sigintGameExitRequested := false }
    if client.connected then
      { client with userId := .empty }.goto .authMenu
    else if accepted then
      ({ client with connected := true, userId := .empty }.record
        .connected).goto .authMenu
    else client.goto .connectFailed)

/-! ## `auth_ui_main` -/

/-- The option and the form of one round, if all their keys have come. -/
def authRound (sha256 : Sha256) (client : Client) (events : List TermEvent) :
    Option Client :=
  if client.sigintReceived then some (client.performCleanupAndExit true)
  else
    match RainTyping.authRound sha256 events with
    | .waiting => none
    | .exitNormal => some (client.performCleanupAndExit true)
    | .exitSignal => some
        ({ client with sigintReceived := true }.performCleanupAndExit true)
    | .noChoice _ => some (client.goto .authMenu)
    | .invalidOption _ => some (client.goto .authPause)
    | .hashFailed _ => some (client.goto .authPause)
    | .login request _ => some (client.goto
        (.calling (.sendLoginRequest request.username request.password)))
    | .register request _ => some (client.goto
        (.calling (.sendRegisterRequest request.username request.password)))

/-- `ret == 0 && res.success`. -/
def succeeded (code : Int) (response : List UInt8) : Bool :=
  code = 0 && match readInt response with
    | .ok success => success ≠ 0
    | .error _ => false

def afterLogin (client : Client) (username : CString) (success : Bool) :
    Client :=
  if success then
    let user := CharArray.store maxIdLen username.bytes
    ({ client with userId := user }.record (.loggedIn user)).goto .loginPause
  else client.goto .authPause

/-- Behind the return of `auth_ui_main` with `AUTH_UI_LOGIN_SUCCESS`. -/
def enterMenu (client : Client) : Client :=
  if client.userId.strlen > 0 then client.goto .menu
  else client.disconnectFromServer.goto .top

/-! ## The menu -/

/-- The `switch` on the option. -/
def choose (client : Client) (code : Int) : Client :=
  if code = 49 then
    { client with isGameRunning := true }.goto
      (if client.wordManager.isInitialized = false ∨
          client.wordManager.words = [] then .calling .sendWordlistRequest
        else .playing)
  else if code = 50 then client.goto (.calling .sendLeaderboardRequest)
  else if code = 51 then client.goto (.howToPlay false)
  else if code = 52 then client.goto (.calling .sendLogoutRequest)
  else if code = 53 then client.goto .confirming
  else client.goto .menuPause

def afterLoad (client : Client) (load : LoadMemory) (code : Int)
    (response : List UInt8) : Client :=
  let loading := loadWordsFromServer client.wordManager load.allocations code
    response load.stray
  { client with wordManager := loading.manager }.goto
    (if loading.result then .playing else .loadPause)

/-- The signals that have come before the game. -/
def signals (client : Client) : List GameAction :=
  (if client.sigintReceived then [.sigint false] else []) ++
    if client.sigintGameExitRequested then [.sigint true] else []

/-- The game is one of this client, and its later signals come while
`is_game_running` is set. -/
def Plays (client : Client) (game : FinishedGame) : Prop :=
  game.wordList = client.wordManager.words ∧
    game.actions.take client.signals.length = client.signals ∧
      GameAction.sigint false ∉ game.actions.drop client.signals.length

instance (client : Client) (game : FinishedGame) :
    Decidable (client.Plays game) :=
  inferInstanceAs (Decidable (_ ∧ _ ∧ _))

def leaveGame (client : Client) : Client :=
  { client with isGameRunning := false }

/-- What a finished game leaves behind. -/
def afterGame (client : Client) (game : FinishedGame) : Client :=
  { client.leaveGame with
    sigintGameExitRequested := game.final.sigintGameExitRequested
    wordManager := cleanupWordManager client.wordManager }.record
      (.finished client.userId game)

/-- From the result of `run_rain_typing_game` to the call that submits it. -/
def reportScore (client : Client) (finalScore : Int32) : Client :=
  client.unlessSigint
    (if finalScore < 0 then client.goto .menuPause
    else client.goto (.calling (.sendScoreSubmitRequest finalScore)))

def play (client : Client) : GameOutcome → Option Client
  | .refused screenTooSmall => some (client.leaveGame.reportScore
      (GameOutcome.refused screenTooSmall).finalScore)
  | .finished game =>
      if client.Plays game then
        some ((client.afterGame game).reportScore game.score)
      else none

def afterLogout (client : Client) (success : Bool) : Client :=
  if success then
    ({ client with userId := .empty }.record .loggedOut).goto
      (.logoutPause true)
  else client.goto (.logoutPause false)

/-! ## Requests -/

/-- Behind the return of a request function. -/
def resume (client : Client) (load : LoadMemory) (code : Int)
    (response : List UInt8) : RequestFunction → Client
  | .sendRegisterRequest _ _ => client.unlessSigint (client.goto .authPause)
  | .sendLoginRequest username _ =>
      client.unlessSigint
        (client.afterLogin username (succeeded code response))
  | .sendWordlistRequest => client.afterLoad load code response
  | .sendScoreSubmitRequest _ => client.unlessSigint (client.goto .menuPause)
  | .sendLeaderboardRequest => client.goto .menuPause
  | .sendLogoutRequest =>
      client.unlessSigint (client.afterLogout (succeeded code response))

def conclude (client : Client) (function : RequestFunction)
    (load : LoadMemory) : CallOutcome → Client
  | .continues _ =>
      (client.record (.sent function)).goto (.awaiting function)
  | .returns code response => client.resume load code response function
  | .disconnects code response =>
      client.disconnectFromServer.resume load code response function

/-! ## Steps -/

/-- The key behind a screen, once `wait_for_key_or_signal` takes it. -/
def pause (client : Client) (code : Int) (next : Client) : Client :=
  if client.wakes code then next else client

def step (sha256 : Sha256) : Machine Client ClientAction :=
  fun client action =>
    match client.point, action with
    | .exited _, _ => none
    | _, .sigint => some client.handleSigint
    | .top, .connect accepted => some (client.connectToServer accepted)
    | .connectFailed, .key _ => some (client.performCleanupAndExit false)
    | .authMenu, .authRound events => client.authRound sha256 events
    | .authPause, .key code =>
        some (client.pause code (client.unlessSigint (client.goto .authMenu)))
    | .loginPause, .key code =>
        some (client.pause code (client.unlessSigint client.enterMenu))
    | .calling function, .call call load =>
        if call.function = function then
          some (client.conclude function load
            (call.start client.connected client.sigintReceived))
        else none
    | .awaiting function, .return outcome load =>
        if outcome.Ends then some (client.conclude function load outcome)
        else none
    | .menu, .draw =>
        some (client.unlessSigint
          ({ client with sigintGameExitRequested := false }.goto .choosing))
    | .choosing, .key code => some (client.choose code)
    | .loadPause, .key code =>
        some (client.pause code
          ({ client with isGameRunning := false }.goto .menu))
    | .playing, .play outcome => client.play outcome
    | .menuPause, .key code =>
        some (client.pause code (client.goto .menu))
    | .howToPlay false, .key code =>
        some (client.pause code (client.goto
          (if client.sigintReceived then .menu else .howToPlay true)))
    | .howToPlay true, .key code =>
        some (client.pause code (client.goto .menu))
    | .logoutPause loggedOut, .key code =>
        some (client.pause code (client.unlessSigint
          (if loggedOut then client.disconnectFromServer.goto .top
          else client.goto .menu)))
    | .confirming, .key code =>
        some (if code = 121 ∨ code = 89 then client.performCleanupAndExit true
          else client.goto .menu)
    | _, _ => none

/-! ## The steps case by case -/

/-- The steps of the program as a relation. -/
inductive Steps (sha256 : Sha256) (client : Client) :
    ClientAction → Client → Prop where
  | sigint (runs : ∀ success, client.point ≠ .exited success) :
      Steps sha256 client .sigint client.handleSigint
  | connect (accepted) (here : client.point = .top) :
      Steps sha256 client (.connect accepted) (client.connectToServer accepted)
  | connectFailed (code) (here : client.point = .connectFailed) :
      Steps sha256 client (.key code) (client.performCleanupAndExit false)
  | authRound (events) (here : client.point = .authMenu)
      (round : client.authRound sha256 events = some next) :
      Steps sha256 client (.authRound events) next
  | authPause (code) (here : client.point = .authPause) :
      Steps sha256 client (.key code)
        (client.pause code (client.unlessSigint (client.goto .authMenu)))
  | loginPause (code) (here : client.point = .loginPause) :
      Steps sha256 client (.key code)
        (client.pause code (client.unlessSigint client.enterMenu))
  | call (call load) (here : client.point = .calling call.function) :
      Steps sha256 client (.call call load)
        (client.conclude call.function load
          (call.start client.connected client.sigintReceived))
  | return (outcome load) (here : client.point = .awaiting function)
      (ends : outcome.Ends) :
      Steps sha256 client (.return outcome load)
        (client.conclude function load outcome)
  | draw (here : client.point = .menu) :
      Steps sha256 client .draw
        (client.unlessSigint
          ({ client with sigintGameExitRequested := false }.goto .choosing))
  | choose (code) (here : client.point = .choosing) :
      Steps sha256 client (.key code) (client.choose code)
  | loadPause (code) (here : client.point = .loadPause) :
      Steps sha256 client (.key code)
        (client.pause code
          ({ client with isGameRunning := false }.goto .menu))
  | play (outcome) (here : client.point = .playing)
      (plays : client.play outcome = some next) :
      Steps sha256 client (.play outcome) next
  | menuPause (code) (here : client.point = .menuPause) :
      Steps sha256 client (.key code) (client.pause code (client.goto .menu))
  | firstPage (code) (here : client.point = .howToPlay false) :
      Steps sha256 client (.key code)
        (client.pause code (client.goto
          (if client.sigintReceived then .menu else .howToPlay true)))
  | lastPage (code) (here : client.point = .howToPlay true) :
      Steps sha256 client (.key code) (client.pause code (client.goto .menu))
  | logoutPause (code) (here : client.point = .logoutPause loggedOut) :
      Steps sha256 client (.key code)
        (client.pause code (client.unlessSigint
          (if loggedOut then client.disconnectFromServer.goto .top
          else client.goto .menu)))
  | confirming (code) (here : client.point = .confirming) :
      Steps sha256 client (.key code)
        (if code = 121 ∨ code = 89 then client.performCleanupAndExit true
          else client.goto .menu)

theorem steps_of_step
    {sha256 : Sha256} {client next : Client} {action : ClientAction}
    (stepped : step sha256 client action = some next) :
    Steps sha256 client action next := by
  unfold step at stepped
  split at stepped
  · cases stepped
  · rename_i running
    cases stepped
    exact .sigint running
  · cases stepped
    exact .connect _ ‹_›
  · cases stepped
    exact .connectFailed _ ‹_›
  · exact .authRound _ ‹_› stepped
  · cases stepped
    exact .authPause _ ‹_›
  · cases stepped
    exact .loginPause _ ‹_›
  · split at stepped
    · rename_i same
      cases stepped
      subst same
      exact .call _ _ ‹_›
    · cases stepped
  · split at stepped
    · rename_i ends
      cases stepped
      exact .return _ _ ‹_› ends
    · cases stepped
  · cases stepped
    exact .draw ‹_›
  · cases stepped
    exact .choose _ ‹_›
  · cases stepped
    exact .loadPause _ ‹_›
  · exact .play _ ‹_› stepped
  · cases stepped
    exact .menuPause _ ‹_›
  · cases stepped
    exact .firstPage _ ‹_›
  · cases stepped
    exact .lastPage _ ‹_›
  · cases stepped
    exact .logoutPause _ ‹_›
  · cases stepped
    exact .confirming _ ‹_›
  · cases stepped

end Client

end RainTyping
