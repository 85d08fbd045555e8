import RainTyping.Client.ClientMain

/-!
# Ctrl+C outside a game

Once `sigint_received` is set, every way of the program leads to its exit, past
at most four waits, and no request is sent on it.
-/

namespace RainTyping

/-- The waits of a client up to its exit once `sigint_received` is set. -/
def ClientPoint.waitsLeft : ClientPoint → Nat
  | .choosing => 4
  | .calling .sendWordlistRequest => 3
  | .calling .sendLeaderboardRequest => 3
  | .awaiting .sendWordlistRequest => 3
  | .awaiting .sendLeaderboardRequest => 3
  | .loadPause => 2
  | .menuPause => 2
  | .howToPlay _ => 2
  | .confirming => 2
  | .exited _ => 0
  | _ => 1

theorem ClientPoint.waitsLeft_le (point : ClientPoint) :
    point.waitsLeft ≤ 4 := by
  cases point with
  | calling function => cases function <;> simp [waitsLeft]
  | awaiting function => cases function <;> simp [waitsLeft]
  | _ => simp [waitsLeft]

theorem ClientPoint.waitsLeft_pos
    {point : ClientPoint} (runs : ∀ success, point ≠ .exited success) :
    0 < point.waitsLeft := by
  cases point with
  | calling function => cases function <;> simp [waitsLeft]
  | awaiting function => cases function <;> simp [waitsLeft]
  | exited success => exact absurd rfl (runs success)
  | _ => simp [waitsLeft]

/-- What a client still does on its way out. -/
def ClientEvent.WindsUp : ClientEvent → Prop
  | .closed => True
  | .finished _ _ => True
  | _ => False

/-- The signal handler does not count. -/
def ClientAction.IsProgramStep : ClientAction → Prop
  | .sigint => False
  | _ => True

instance : DecidablePred ClientAction.IsProgramStep := by
  intro action
  cases action <;> unfold ClientAction.IsProgramStep <;> infer_instance

namespace Client

/-- The next state is nearer to the exit, and nothing was sent. -/
structure LeavesFor (client next : Client) : Prop where
  signaled : next.sigintReceived = true
  history : ∃ later, next.history = client.history ++ later ∧
    ∀ event ∈ later, event.WindsUp
  nearer : next.point.waitsLeft + 1 ≤ client.point.waitsLeft

variable {sha256 : Sha256} {client next : Client} {action : ClientAction}
  {function : RequestFunction}

theorem history_disconnect (client : Client) :
    ∃ later, client.disconnectFromServer.history = client.history ++ later ∧
      ∀ event ∈ later, event.WindsUp := by
  unfold disconnectFromServer
  split
  · refine ⟨[.closed], rfl, ?_⟩
    intro event member
    rw [List.mem_singleton.mp member]
    trivial
  · refine ⟨[], (List.append_nil _).symm, ?_⟩
    intro event member
    cases member

theorem signaled_disconnect (signaled : client.sigintReceived = true) :
    client.disconnectFromServer.sigintReceived = true := by
  unfold disconnectFromServer
  split
  · exact signaled
  · exact signaled

theorem leavesFor_exit
    (success : Bool) (signaled : client.sigintReceived = true)
    (runs : 0 < client.point.waitsLeft) :
    client.LeavesFor (client.performCleanupAndExit success) where
  signaled := signaled_disconnect signaled
  history := history_disconnect client
  nearer := runs

theorem leavesFor_unlessSigint
    (signaled : client.sigintReceived = true)
    (runs : 0 < client.point.waitsLeft) (next : Client) :
    client.LeavesFor (client.unlessSigint next) := by
  rw [unlessSigint, if_pos signaled]
  exact leavesFor_exit true signaled runs

theorem leavesFor_goto
    {here point : ClientPoint} (signaled : client.sigintReceived = true)
    (stands : client.point = here)
    (nearer : point.waitsLeft + 1 ≤ here.waitsLeft) :
    client.LeavesFor (client.goto point) where
  signaled := signaled
  history := ⟨[], (List.append_nil _).symm, by simp⟩
  nearer := stands ▸ nearer

theorem leavesFor_loaded
    {here point : ClientPoint} {isGameRunning : Bool}
    (wordManager : WordManager) (signaled : client.sigintReceived = true)
    (stands : client.point = here)
    (nearer : point.waitsLeft + 1 ≤ here.waitsLeft) :
    client.LeavesFor ({ client with
      isGameRunning := isGameRunning
      wordManager := wordManager }.goto point) where
  signaled := signaled
  history := ⟨[], (List.append_nil _).symm, by simp⟩
  nearer := stands ▸ nearer

theorem pause_of_signaled
    (signaled : client.sigintReceived = true) (code : Int) (next : Client) :
    client.pause code next = next := by
  rw [pause, if_pos]
  simp [wakes, signaled]

/-- The history up to the loss of the connection counts too. -/
theorem LeavesFor.after_disconnect
    (leaves : client.disconnectFromServer.LeavesFor next) :
    client.LeavesFor next := by
  obtain ⟨signaled, ⟨later, same, windsUp⟩, nearer⟩ := leaves
  obtain ⟨closing, closed, closes⟩ := history_disconnect client
  refine ⟨signaled, ⟨closing ++ later, ?_, ?_⟩, ?_⟩
  · rw [same, closed, List.append_assoc]
  · intro event member
    rcases List.mem_append.mp member with early | late
    · exact closes event early
    · exact windsUp event late
  · have samePoint : client.disconnectFromServer.point = client.point := by
      unfold disconnectFromServer
      split
      · rfl
      · rfl
    rw [← samePoint]
    exact nearer

theorem leavesFor_resume
    (load : LoadMemory) (code : Int) (response : List UInt8)
    (signaled : client.sigintReceived = true)
    (here : client.point = .calling function ∨
      client.point = .awaiting function) :
    client.LeavesFor (client.resume load code response function) := by
  have runs : 0 < client.point.waitsLeft := by
    apply ClientPoint.waitsLeft_pos
    intro success exited
    rw [exited] at here
    rcases here with here | here
    · cases here
    · cases here
  cases function with
  | sendWordlistRequest =>
      simp only [resume, afterLoad]
      rcases here with here | here
      · split
        · exact leavesFor_loaded _ signaled here (by decide)
        · exact leavesFor_loaded _ signaled here (by decide)
      · split
        · exact leavesFor_loaded _ signaled here (by decide)
        · exact leavesFor_loaded _ signaled here (by decide)
  | sendLeaderboardRequest =>
      rcases here with here | here
      · exact leavesFor_goto signaled here (by decide)
      · exact leavesFor_goto signaled here (by decide)
  | sendRegisterRequest username password =>
      exact leavesFor_unlessSigint signaled runs _
  | sendLoginRequest username password =>
      exact leavesFor_unlessSigint signaled runs _
  | sendScoreSubmitRequest score =>
      exact leavesFor_unlessSigint signaled runs _
  | sendLogoutRequest => exact leavesFor_unlessSigint signaled runs _

theorem leavesFor_conclude
    {outcome : CallOutcome} (load : LoadMemory) (ends : outcome.Ends)
    (signaled : client.sigintReceived = true)
    (here : client.point = .calling function ∨
      client.point = .awaiting function) :
    client.LeavesFor (client.conclude function load outcome) := by
  cases outcome with
  | continues point => cases ends
  | returns code response =>
      exact leavesFor_resume load code response signaled here
  | disconnects code response =>
      apply LeavesFor.after_disconnect
      apply leavesFor_resume load code response (signaled_disconnect signaled)
      unfold disconnectFromServer
      split
      · exact here
      · exact here

/-- Nothing is sent once the signal has come. -/
theorem ends_of_start
    (call : RequestCall) (connected : Bool) :
    (call.start connected true).Ends := by
  cases connected <;> trivial

theorem leavesFor_play
    {outcome : GameOutcome} (signaled : client.sigintReceived = true)
    (here : client.point = .playing)
    (plays : client.play outcome = some next) : client.LeavesFor next := by
  have runs : 0 < client.point.waitsLeft := by
    rw [here]
    exact Nat.one_pos
  cases outcome with
  | refused screenTooSmall =>
      cases plays
      obtain ⟨stillSignaled, history, nearer⟩ :=
        @leavesFor_unlessSigint client.leaveGame signaled runs
          (if (GameOutcome.refused screenTooSmall).finalScore < 0 then
            client.leaveGame.goto .menuPause
          else client.leaveGame.goto (.calling (.sendScoreSubmitRequest
            (GameOutcome.refused screenTooSmall).finalScore)))
      exact ⟨stillSignaled, history, nearer⟩
  | finished game =>
      simp only [play] at plays
      split at plays
      · cases plays
        obtain ⟨stillSignaled, ⟨later, same, windsUp⟩, nearer⟩ :=
          @leavesFor_unlessSigint (client.afterGame game) signaled runs
            (if game.score < 0 then (client.afterGame game).goto .menuPause
            else (client.afterGame game).goto
              (.calling (.sendScoreSubmitRequest game.score)))
        refine ⟨stillSignaled,
          ⟨.finished client.userId game :: later, ?_, ?_⟩, nearer⟩
        · rw [reportScore, same]
          simp [afterGame, leaveGame, record]
        · intro event member
          rcases List.mem_cons.mp member with rfl | member
          · trivial
          · exact windsUp event member
      · cases plays

theorem step_leavesFor
    (signaled : client.sigintReceived = true)
    (program : action.IsProgramStep)
    (stepped : step sha256 client action = some next) :
    client.LeavesFor next := by
  have runs : ∀ {point}, client.point = point →
      (∀ success, point ≠ .exited success) → 0 < client.point.waitsLeft := by
    rintro point rfl runs
    exact ClientPoint.waitsLeft_pos runs
  cases steps_of_step stepped with
  | sigint runs => cases program
  | connect accepted here =>
      exact leavesFor_unlessSigint signaled (runs here (by simp)) _
  | connectFailed code here =>
      exact leavesFor_exit false signaled (runs here (by simp))
  | authRound events here round =>
      rw [authRound, if_pos signaled] at round
      cases round
      exact leavesFor_exit true signaled (runs here (by simp))
  | authPause code here =>
      rw [pause_of_signaled signaled]
      exact leavesFor_unlessSigint signaled (runs here (by simp)) _
  | loginPause code here =>
      rw [pause_of_signaled signaled]
      exact leavesFor_unlessSigint signaled (runs here (by simp)) _
  | call call load here =>
      apply leavesFor_conclude load _ signaled (.inl here)
      rw [signaled]
      exact ends_of_start call client.connected
  | «return» outcome load here ends =>
      exact leavesFor_conclude load ends signaled (.inr here)
  | draw here =>
      exact leavesFor_unlessSigint signaled (runs here (by simp)) _
  | choose code here =>
      unfold choose
      split
      · split <;>
          exact leavesFor_loaded _ signaled here (by decide)
      · split_ifs <;>
          exact leavesFor_goto signaled here (by decide)
  | loadPause code here =>
      rw [pause_of_signaled signaled]
      exact leavesFor_loaded _ signaled here (by decide)
  | play outcome here plays => exact leavesFor_play signaled here plays
  | menuPause code here =>
      rw [pause_of_signaled signaled]
      exact leavesFor_goto signaled here (by decide)
  | firstPage code here =>
      rw [pause_of_signaled signaled, if_pos signaled]
      exact leavesFor_goto signaled here (by decide)
  | lastPage code here =>
      rw [pause_of_signaled signaled]
      exact leavesFor_goto signaled here (by decide)
  | @logoutPause loggedOut code here =>
      rw [pause_of_signaled signaled]
      exact leavesFor_unlessSigint signaled (runs here (by simp)) _
  | confirming code here =>
      split
      · exact leavesFor_exit true signaled (runs here (by simp))
      · exact leavesFor_goto signaled here (by decide)

/-- A client that has not exited can go on when what it waits for comes: a key,
or the end of a `send` or `recv`. -/
theorem exists_step
    (signaled : client.sigintReceived = true)
    (runs : ∀ success, client.point ≠ .exited success) :
    ∃ action, action.IsProgramStep ∧
      (step sha256 client action).isSome = true := by
  cases here : client.point with
  | exited success => exact absurd here (runs success)
  | top => exact ⟨.connect true, trivial, by simp [step, here]⟩
  | authMenu =>
      exact ⟨.authRound [], trivial, by simp [step, here, authRound, signaled]⟩
  | calling function =>
      let call : RequestCall :=
        ⟨function, .replicate function.responseBodyMaxLen 0,
          List.length_replicate⟩
      exact ⟨.call call .succeed, trivial, by simp [step, here, call]⟩
  | awaiting function =>
      exact ⟨.return (.returns 0 []) .succeed, trivial,
        by simp [step, here, CallOutcome.Ends]⟩
  | menu => exact ⟨.draw, trivial, by simp [step, here]⟩
  | playing =>
      exact ⟨.play (.refused true), trivial, by simp [step, here, play]⟩
  | howToPlay lastPage =>
      cases lastPage <;> exact ⟨.key 32, trivial, by simp [step, here]⟩
  | _ => exact ⟨.key 32, trivial, by simp [step, here]⟩

/-! ## Whole runs -/

/-- After `SIGINT` outside a game, a client sends nothing any more and exits
after at most four waits. -/
theorem exits_of_sigint
    (signaled : client.sigintReceived = true)
    {actions : List ClientAction} {final : Client}
    (ran : (step sha256).run client actions = some final) :
    (∃ later, final.history = client.history ++ later ∧
        ∀ event ∈ later, event.WindsUp) ∧
      final.point.waitsLeft +
          actions.countP (fun action => action.IsProgramStep) ≤ 4 ∧
        ((∃ success, final.point = .exited success) ∨
          ∃ action, action.IsProgramStep ∧
            (step sha256 final action).isSome = true) := by
  have stillSignaled : ∀ state next : Client, ∀ action,
      state.sigintReceived = true →
        step sha256 state action = some next →
          next.sigintReceived = true ∧
            (∃ later, next.history = state.history ++ later ∧
              ∀ event ∈ later, event.WindsUp) ∧
              next.point.waitsLeft +
                (if action.IsProgramStep then 1 else 0) ≤
                  state.point.waitsLeft := by
    intro state next action signaled stepped
    by_cases program : action.IsProgramStep
    · rw [if_pos program]
      obtain ⟨later, history, nearer⟩ :=
        step_leavesFor signaled program stepped
      exact ⟨later, history, nearer⟩
    · rw [if_neg program]
      cases action with
      | sigint =>
          cases steps_of_step stepped with
          | sigint runs =>
              unfold handleSigint
              split
              · exact ⟨signaled, ⟨[], (List.append_nil _).symm, by simp⟩,
                  Nat.le_refl _⟩
              · exact ⟨rfl, ⟨[], (List.append_nil _).symm, by simp⟩,
                  Nat.le_refl _⟩
      | _ => exact absurd trivial program
  obtain ⟨finalSignaled, windsUp⟩ := Machine.run_preserves
    (fun state : Client => state.sigintReceived = true ∧
      ∃ later, state.history = client.history ++ later ∧
        ∀ event ∈ later, event.WindsUp)
    (by
      rintro state action next ⟨signaled, early, history, windsUp⟩ stepped
      obtain ⟨still, ⟨late, longer, closes⟩, _⟩ :=
        stillSignaled state next action signaled stepped
      refine ⟨still, early ++ late, ?_, ?_⟩
      · rw [longer, history, List.append_assoc]
      · intro event member
        rcases List.mem_append.mp member with before | behind
        · exact windsUp event before
        · exact closes event behind)
    ⟨signaled, [], (List.append_nil _).symm, by simp⟩ ran
  refine ⟨windsUp, ?_, ?_⟩
  · obtain ⟨left, ⟨_, last⟩, spent⟩ := @Machine.run_work Client ClientAction
      (step sha256)
      (fun state work => state.sigintReceived = true ∧
        state.point.waitsLeft = work)
      (fun _ => True) ClientAction.IsProgramStep _
      (by
        rintro state action next work ⟨signaled, rfl⟩ _ stepped
        obtain ⟨still, _, nearer⟩ :=
          stillSignaled state next action signaled stepped
        exact ⟨_, ⟨still, rfl⟩, nearer⟩)
      client final actions _ ⟨signaled, rfl⟩ (fun _ _ => trivial) ran
    have few := client.point.waitsLeft_le
    omega
  · by_cases exited : ∃ success, final.point = .exited success
    · exact .inl exited
    · exact .inr (exists_step finalSignaled (not_exists.mp exited))

/-- In the `getch` of the menu when the signal comes. -/
def signaledInMenu : Client :=
  { start with
    sigintReceived := true
    connected := true
    userId := .store maxIdLen (text "bob")
    point := .choosing }

def leaderboardCall : RequestCall where
  function := .sendLeaderboardRequest
  response := .replicate sizeofLeaderboardResponse 0
  sized := List.length_replicate

/-- The user still asks for the leaderboard. -/
def asksOnce : List ClientAction :=
  [.key 50, .call leaderboardCall .succeed, .key 32, .draw]

theorem exits_of_asksOnce :
    ∃ final, (step sha256OfPw).run signaledInMenu asksOnce = some final ∧
      final.point.waitsLeft +
          asksOnce.countP (fun action => action.IsProgramStep) ≤ 4 := by
  obtain ⟨final, ran⟩ : ∃ final,
      (step sha256OfPw).run signaledInMenu asksOnce = some final :=
    ⟨_, rfl⟩
  exact ⟨final, ran, (exits_of_sigint rfl ran).2.1⟩

end Client

end RainTyping
