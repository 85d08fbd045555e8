import RainTyping.Client.ClientMain

/-!
# What a step of a client does

The steps of a client fall into four kinds: those that connect, those that
send a request, those in which a request function returns, and the quiet ones,
which have nothing to do with the network.
-/

namespace RainTyping

/-- The actions of the client that have nothing to do with the network. -/
def ClientAction.IsQuiet : ClientAction → Prop
  | .connect _ => False
  | .call _ _ => False
  | .return _ _ => False
  | _ => True

namespace Client

/-- The client is in a request function. -/
def Awaits (client : Client) (function : RequestFunction) : Prop :=
  client.point = .awaiting function

/-- What every step keeps: the user, and a socket is not opened again. -/
structure Keeps (client next : Client) : Prop where
  userId : next.userId = client.userId
  connected : next.connected = true → client.connected = true
  signaled : client.sigintReceived = true → next.sigintReceived = true

variable {sha256 : Sha256} {client next : Client} {action : ClientAction}
  {function : RequestFunction}

theorem keeps_goto (point : ClientPoint) : client.Keeps (client.goto point) :=
  ⟨rfl, id, id⟩

theorem keeps_disconnect : client.Keeps client.disconnectFromServer := by
  unfold disconnectFromServer
  split
  · exact ⟨rfl, nofun, id⟩
  · exact ⟨rfl, id, id⟩

theorem keeps_exit (success : Bool) :
    client.Keeps (client.performCleanupAndExit success) :=
  ⟨(@keeps_disconnect client).userId, (@keeps_disconnect client).connected,
    (@keeps_disconnect client).signaled⟩

theorem connected_disconnect :
    client.disconnectFromServer.connected = false := by
  unfold disconnectFromServer
  split
  · rfl
  · rename_i unconnected
    rw [Bool.not_eq_true] at unconnected
    exact unconnected

theorem connected_exit (success : Bool) :
    (client.performCleanupAndExit success).connected = false :=
  connected_disconnect

theorem Keeps.trans
    {later : Client} (first : client.Keeps next) (second : next.Keeps later) :
    client.Keeps later where
  userId := second.userId.trans first.userId
  connected := first.connected ∘ second.connected
  signaled := second.signaled ∘ first.signaled

/-- A step to a point outside the request functions. -/
structure Rests (client next : Client) : Prop extends Keeps client next where
  outside : ∀ function, ¬next.Awaits function

theorem rests_goto
    {point : ClientPoint} (outside : ∀ function, point ≠ .awaiting function) :
    client.Rests (client.goto point) :=
  ⟨keeps_goto point, outside⟩

theorem rests_exit (success : Bool) :
    client.Rests (client.performCleanupAndExit success) :=
  ⟨keeps_exit success, by simp [Awaits, performCleanupAndExit]⟩

theorem rests_unlessSigint (rests : client.Rests next) :
    client.Rests (client.unlessSigint next) := by
  unfold unlessSigint
  split
  · exact rests_exit true
  · exact rests

/-! ## Quiet steps -/

/-- A quiet step of the program stays outside the request functions. -/
structure Quiet (client next : Client) : Prop extends Rests client next where
  before : ∀ function, ¬client.Awaits function

theorem quiet_pause
    (code : Int) (rests : client.Rests next)
    (before : ∀ function, ¬client.Awaits function) :
    client.Quiet (client.pause code next) := by
  unfold pause
  split
  · exact ⟨rests, before⟩
  · exact ⟨⟨⟨rfl, id, id⟩, before⟩, before⟩

theorem rests_authRound
    {events : List TermEvent}
    (round : client.authRound sha256 events = some next) :
    client.Rests next := by
  unfold authRound at round
  split at round
  · cases round
    exact rests_exit true
  · split at round
    · cases round
    · cases round
      exact rests_exit true
    · cases round
      obtain ⟨⟨userId, connected, _⟩, outside⟩ :=
        @rests_exit { client with sigintReceived := true } true
      refine ⟨⟨userId, connected, ?_⟩, outside⟩
      intro _
      exact (@keeps_exit { client with sigintReceived := true } true).signaled
        rfl
    all_goals
      cases round
      exact rests_goto (by simp)

theorem rests_enterMenu : client.Rests client.enterMenu := by
  unfold enterMenu
  split
  · exact rests_goto (by simp)
  · exact ⟨⟨keeps_disconnect.userId, keeps_disconnect.connected,
      keeps_disconnect.signaled⟩, by simp [Awaits, goto]⟩

theorem rests_choose (code : Int) : client.Rests (client.choose code) := by
  unfold choose
  split
  · split
    · exact ⟨⟨rfl, id, id⟩, by simp [Awaits, goto]⟩
    · exact ⟨⟨rfl, id, id⟩, by simp [Awaits, goto]⟩
  · split_ifs <;> exact rests_goto (by simp)

theorem rests_play
    {outcome : GameOutcome} (plays : client.play outcome = some next) :
    client.Rests next := by
  have reported : ∀ (left : Client) finalScore, client.Keeps left →
      client.Rests (left.reportScore finalScore) := by
    intro left finalScore keeps
    have rests : left.Rests (left.reportScore finalScore) := by
      apply rests_unlessSigint
      split
      · exact rests_goto (by simp)
      · exact rests_goto (by simp)
    exact ⟨keeps.trans rests.toKeeps, rests.outside⟩
  cases outcome with
  | refused screenTooSmall =>
      cases plays
      exact reported _ _ ⟨rfl, id, id⟩
  | finished game =>
      simp only [play] at plays
      split at plays
      · cases plays
        exact reported _ _ ⟨rfl, id, id⟩
      · cases plays

theorem quiet_of_step
    (quiet : action.IsQuiet) (program : action ≠ .sigint)
    (stepped : step sha256 client action = some next) :
    client.Quiet next := by
  have outside : ∀ {point}, client.point = point →
      (∀ function, point ≠ .awaiting function) →
        ∀ function, ¬client.Awaits function := by
    rintro point rfl outside
    exact outside
  cases steps_of_step stepped with
  | sigint runs => exact absurd rfl program
  | connect accepted here => cases quiet
  | call call load here => cases quiet
  | «return» outcome load here ends => cases quiet
  | connectFailed code here =>
      exact ⟨rests_exit false, outside here (by simp)⟩
  | authRound events here round =>
      exact ⟨rests_authRound round, outside here (by simp)⟩
  | authPause code here =>
      exact quiet_pause code (rests_unlessSigint (rests_goto (by simp)))
        (outside here (by simp))
  | loginPause code here =>
      exact quiet_pause code (rests_unlessSigint rests_enterMenu)
        (outside here (by simp))
  | draw here =>
      refine ⟨rests_unlessSigint ?_, outside here (by simp)⟩
      exact ⟨⟨rfl, id, id⟩, by simp [Awaits, goto]⟩
  | choose code here => exact ⟨rests_choose code, outside here (by simp)⟩
  | loadPause code here =>
      refine quiet_pause code ?_ (outside here (by simp))
      exact ⟨⟨rfl, id, id⟩, by simp [Awaits, goto]⟩
  | play outcome here plays =>
      exact ⟨rests_play plays, outside here (by simp)⟩
  | menuPause code here =>
      exact quiet_pause code (rests_goto (by simp)) (outside here (by simp))
  | firstPage code here =>
      refine quiet_pause code (rests_goto ?_) (outside here (by simp))
      split <;> simp
  | lastPage code here =>
      exact quiet_pause code (rests_goto (by simp)) (outside here (by simp))
  | @logoutPause loggedOut code here =>
      refine quiet_pause code (rests_unlessSigint ?_) (outside here (by simp))
      split
      · exact ⟨⟨keeps_disconnect.userId, keeps_disconnect.connected,
          keeps_disconnect.signaled⟩, by simp [Awaits, goto]⟩
      · exact rests_goto (by simp)
  | confirming code here =>
      refine ⟨?_, outside here (by simp)⟩
      split
      · exact rests_exit true
      · exact rests_goto (by simp)

/-! ## Connecting -/

theorem step_connect
    {accepted : Bool} (unconnected : client.connected = false)
    (stepped : step sha256 client (.connect accepted) = some next) :
    (∀ function, ¬next.Awaits function) ∧
      (next.connected = true →
        next.userId = .empty ∧ next.sigintReceived = false) := by
  cases steps_of_step stepped with
  | connect accepted here =>
      unfold connectToServer unlessSigint
      split
      · refine ⟨by simp [Awaits, performCleanupAndExit], ?_⟩
        intro connected
        rw [connected_exit] at connected
        cases connected
      · rename_i quiet
        rw [Bool.not_eq_true] at quiet
        simp only [unconnected, Bool.false_eq_true, ↓reduceIte]
        split
        · exact ⟨by simp [Awaits, goto], fun _ => ⟨rfl, quiet⟩⟩
        · refine ⟨by simp [Awaits, goto], ?_⟩
          intro connected
          exact absurd (connected : false = true) Bool.false_ne_true

/-! ## Requests -/

/-- A return with another code than zero changes no user. -/
theorem rests_failed
    (load : LoadMemory) {code : Int} (response : List UInt8)
    (failed : code ≠ 0) :
    client.Rests (client.resume load code response function) := by
  have failure : succeeded code response = false := by
    simp [succeeded, failed]
  cases function with
  | sendRegisterRequest username password =>
      exact rests_unlessSigint (rests_goto (by simp))
  | sendLoginRequest username password =>
      simp only [resume, failure, afterLogin]
      exact rests_unlessSigint (rests_goto (by simp))
  | sendWordlistRequest =>
      simp only [resume, afterLoad]
      exact ⟨⟨rfl, id, id⟩, by simp only [Awaits, goto]; split <;> simp⟩
  | sendScoreSubmitRequest score =>
      exact rests_unlessSigint (rests_goto (by simp))
  | sendLeaderboardRequest => exact rests_goto (by simp)
  | sendLogoutRequest =>
      simp only [resume, failure, afterLogout]
      exact rests_unlessSigint (rests_goto (by simp))

/-- A call sends its request, or nothing at all. -/
theorem step_call
    {call : RequestCall} {load : LoadMemory}
    (stepped : step sha256 client (.call call load) = some next) :
    client.point = .calling call.function ∧
      ((client.connected = true ∧ client.sigintReceived = false ∧
          next = (client.record (.sent call.function)).goto
            (.awaiting call.function)) ∨
        (client.connected = false ∨ client.sigintReceived = true) ∧
          client.Rests next) := by
  cases steps_of_step stepped with
  | call call load here =>
      refine ⟨here, ?_⟩
      unfold RequestCall.start
      split
      · rename_i connected
        split
        · rename_i signaled
          exact .inr ⟨.inr signaled, rests_failed load _ (by decide)⟩
        · rename_i quiet
          rw [Bool.not_eq_true] at quiet
          exact .inl ⟨connected, quiet, rfl⟩
      · rename_i unconnected
        rw [Bool.not_eq_true] at unconnected
        exact .inr ⟨.inl unconnected, rests_failed load _ (by decide)⟩

/-- A request function that loses its connection changes no user. -/
theorem step_disconnects
    {code : Int} {response : List UInt8} {load : LoadMemory}
    (stepped : step sha256 client
      (.return (.disconnects code response) load) = some next) :
    client.Rests next ∧ next.connected = false := by
  cases steps_of_step stepped with
  | @«return» function outcome load here ends =>
      have rests : client.disconnectFromServer.Rests
          (client.disconnectFromServer.resume load code response function) :=
        rests_failed load response ends
      refine ⟨⟨keeps_disconnect.trans rests.toKeeps, rests.outside⟩, ?_⟩
      rw [← Bool.not_eq_true]
      intro connected
      have before := rests.connected connected
      rw [connected_disconnect] at before
      cases before

theorem step_returns
    {code : Int} {response : List UInt8} {load : LoadMemory}
    (stepped : step sha256 client (.return (.returns code response) load) =
      some next) :
    ∃ function, client.point = .awaiting function ∧
      next = client.resume load code response function := by
  cases steps_of_step stepped with
  | «return» outcome load here ends => exact ⟨_, here, rfl⟩

/-- The user behind an answered request function, without a signal. -/
def userAfter (user : CharArray maxIdLen) (success : Bool) :
    RequestFunction → CharArray maxIdLen
  | .sendLoginRequest username _ =>
      if success then .store maxIdLen username.bytes else user
  | .sendLogoutRequest => if success then .empty else user
  | _ => user

theorem resume_quiet
    (load : LoadMemory) (code : Int) (response : List UInt8)
    (quiet : client.sigintReceived = false) :
    let next := client.resume load code response function
    next.userId = userAfter client.userId (succeeded code response) function ∧
      next.connected = client.connected ∧ next.sigintReceived = false ∧
        ∀ function, ¬next.Awaits function := by
  have tested : ∀ next, client.unlessSigint next = next := by
    intro next
    rw [unlessSigint, if_neg (by simp [quiet])]
  cases function with
  | sendRegisterRequest username password =>
      simp only [resume, tested]
      exact ⟨rfl, rfl, quiet, by simp [Awaits, goto]⟩
  | sendLoginRequest username password =>
      simp only [resume, tested, afterLogin, userAfter]
      split
      · exact ⟨rfl, rfl, quiet, by simp [Awaits, goto]⟩
      · exact ⟨rfl, rfl, quiet, by simp [Awaits, goto]⟩
  | sendWordlistRequest =>
      simp only [resume, afterLoad]
      exact ⟨rfl, rfl, quiet, by simp only [Awaits, goto]; split <;> simp⟩
  | sendScoreSubmitRequest score =>
      simp only [resume, tested]
      exact ⟨rfl, rfl, quiet, by simp [Awaits, goto]⟩
  | sendLeaderboardRequest =>
      exact ⟨rfl, rfl, quiet, by simp [Awaits, goto, resume]⟩
  | sendLogoutRequest =>
      simp only [resume, tested, afterLogout, userAfter]
      split
      · exact ⟨rfl, rfl, quiet, by simp [Awaits, goto]⟩
      · exact ⟨rfl, rfl, quiet, by simp [Awaits, goto]⟩

/-- Nothing gets a client back that has been told to exit. -/
theorem resume_signaled
    (load : LoadMemory) (code : Int) (response : List UInt8)
    (signaled : client.sigintReceived = true) :
    let next := client.resume load code response function
    next.sigintReceived = true ∧
      (next.connected = true → client.connected = true) := by
  have tested : ∀ next, client.unlessSigint next =
      client.performCleanupAndExit true := by
    intro next
    rw [unlessSigint, if_pos signaled]
  have exits : (client.performCleanupAndExit true).sigintReceived = true ∧
      ((client.performCleanupAndExit true).connected = true →
        client.connected = true) :=
    ⟨(keeps_exit true).signaled signaled, (keeps_exit true).connected⟩
  cases function <;> simp only [resume, tested] <;>
    first | exact exits | exact ⟨signaled, id⟩

end Client

end RainTyping
