import RainTyping.Client.ClientDialogue
import RainTyping.Client.ClientSteps

/-!
# The games of a client

A client plays one game after another and submits each score at most once,
right behind its game.  `settled` counts the games for which this is over.
-/

namespace RainTyping

/-- Here the client neither plays, nor is about to, nor submits a score. -/
def ClientPoint.IsIdle : ClientPoint → Prop
  | .calling function =>
      function ≠ .sendWordlistRequest ∧ function.submits = none
  | .awaiting function => function ≠ .sendWordlistRequest
  | .playing => False
  | _ => True

namespace Client

/-- The client is about to submit a score. -/
def Reports (client : Client) (score : Int32) : Prop :=
  client.point = .calling (.sendScoreSubmitRequest score)

/-- The games whose score will not be submitted any more. -/
def settled (client : Client) : Nat :=
  match client.point with
  | .calling (.sendScoreSubmitRequest _) => client.games.length - 1
  | _ => client.games.length

variable {sha256 : Sha256} {client next : Client} {action : ClientAction}
  {function : RequestFunction} {score : Int32}

theorem settled_of_reports (reports : client.Reports score) :
    client.settled = client.games.length - 1 := by
  rw [Reports] at reports
  rw [settled, reports]

theorem settled_of_not_reports (silent : ∀ score, ¬client.Reports score) :
    client.settled = client.games.length := by
  unfold settled
  split
  · rename_i score here
    exact absurd here (silent score)
  · rfl

theorem settled_le : client.settled ≤ client.games.length := by
  unfold settled
  split
  · exact Nat.sub_le _ _
  · exact Nat.le_refl _

/-! ## One step -/

/-- A step that has nothing to do with words, games and scores. -/
structure Passes (client next : Client) : Prop where
  games : next.games = client.games
  words : next.wordManager = client.wordManager ∨
    next.wordManager = cleanupWordManager client.wordManager
  idle : next.point.IsIdle

theorem passes_goto
    {point : ClientPoint} (idle : point.IsIdle) :
    client.Passes (client.goto point) :=
  ⟨rfl, .inl rfl, idle⟩

theorem games_disconnect :
    client.disconnectFromServer.games = client.games := by
  unfold disconnectFromServer
  split
  · simp [games, finishedGames, record]
  · rfl

theorem words_disconnect :
    client.disconnectFromServer.wordManager = client.wordManager := by
  unfold disconnectFromServer
  split
  · rfl
  · rfl

theorem passes_exit (success : Bool) :
    client.Passes (client.performCleanupAndExit success) :=
  ⟨games_disconnect, .inr rfl, trivial⟩

theorem passes_unlessSigint (passes : client.Passes next) :
    client.Passes (client.unlessSigint next) := by
  unfold unlessSigint
  split
  · exact passes_exit true
  · exact passes

theorem passes_pause
    (code : Int) (passes : client.Passes next) (idle : client.point.IsIdle) :
    client.Passes (client.pause code next) := by
  unfold pause
  split
  · exact passes
  · exact ⟨rfl, .inl rfl, idle⟩

theorem passes_disconnect
    (passes : client.disconnectFromServer.Passes next) :
    client.Passes next where
  games := passes.games.trans games_disconnect
  words := by
    rw [← @words_disconnect client]
    exact passes.words
  idle := passes.idle

theorem passes_connect (accepted : Bool) :
    client.Passes (client.connectToServer accepted) := by
  apply passes_unlessSigint
  dsimp only
  split_ifs
  · exact ⟨rfl, .inl rfl, trivial⟩
  · exact ⟨by simp [games, finishedGames, record, goto], .inl rfl, trivial⟩
  · exact ⟨rfl, .inl rfl, trivial⟩

theorem passes_authRound
    {events : List TermEvent}
    (round : client.authRound sha256 events = some next) :
    client.Passes next := by
  unfold authRound at round
  split at round
  · cases round
    exact passes_exit true
  · split at round
    · cases round
    · cases round
      exact passes_exit true
    · cases round
      obtain ⟨games, words, idle⟩ :=
        @passes_exit { client with sigintReceived := true } true
      exact ⟨games, words, idle⟩
    · cases round
      exact passes_goto trivial
    · cases round
      exact passes_goto trivial
    · cases round
      exact passes_goto trivial
    all_goals
      cases round
      exact passes_goto ⟨nofun, rfl⟩

theorem passes_enterMenu : client.Passes client.enterMenu := by
  unfold enterMenu
  split
  · exact passes_goto trivial
  · exact passes_disconnect (passes_goto trivial)

theorem passes_resume
    (load : LoadMemory) (code : Int) (response : List UInt8)
    (other : function ≠ .sendWordlistRequest) :
    client.Passes (client.resume load code response function) := by
  cases function with
  | sendRegisterRequest username password =>
      exact passes_unlessSigint (passes_goto trivial)
  | sendLoginRequest username password =>
      apply passes_unlessSigint
      unfold afterLogin
      split
      · exact ⟨by simp [games, finishedGames, record, goto], .inl rfl, trivial⟩
      · exact passes_goto trivial
  | sendWordlistRequest => exact absurd rfl other
  | sendScoreSubmitRequest score =>
      exact passes_unlessSigint (passes_goto trivial)
  | sendLeaderboardRequest => exact passes_goto trivial
  | sendLogoutRequest =>
      apply passes_unlessSigint
      unfold afterLogout
      split
      · exact ⟨by simp [games, finishedGames, record, goto], .inl rfl, trivial⟩
      · exact passes_goto trivial

theorem passes_conclude
    (load : LoadMemory) (outcome : CallOutcome)
    (other : function ≠ .sendWordlistRequest) :
    client.Passes (client.conclude function load outcome) := by
  cases outcome with
  | continues point =>
      exact ⟨by simp [conclude, games, finishedGames, record, goto], .inl rfl,
        other⟩
  | returns code response => exact passes_resume load code response other
  | disconnects code response =>
      exact passes_disconnect (passes_resume load code response other)

/-- The steps that do not merely pass. -/
inductive Moves (client : Client) : ClientAction → Client → Prop where
  | passes {later : Client} (action : ClientAction)
      (passes : client.Passes later) : Moves client action later
  | sigint : Moves client .sigint client.handleSigint
  | choose (code) : Moves client (.key code) (client.choose code)
  | asksWords (call : RequestCall) (load)
      (here : client.point = .calling .sendWordlistRequest) :
      Moves client (.call call load)
        (client.conclude .sendWordlistRequest load
          (call.start client.connected client.sigintReceived))
  | loadsWords (outcome load)
      (here : client.point = .awaiting .sendWordlistRequest)
      (ends : outcome.Ends) :
      Moves client (.return outcome load)
        (client.conclude .sendWordlistRequest load outcome)
  | plays (game) (here : client.point = .playing)
      (plays : client.Plays game) :
      Moves client (.play (.finished game))
        ((client.afterGame game).reportScore game.score)

theorem moves_of_step
    (stepped : step sha256 client action = some next) :
    client.Moves action next := by
  have idle : ∀ {point}, client.point = point → point.IsIdle →
      client.point.IsIdle := by
    rintro point rfl idle
    exact idle
  cases steps_of_step stepped with
  | sigint runs => exact .sigint
  | connect accepted here => exact .passes _ (passes_connect accepted)
  | connectFailed code here => exact .passes _ (passes_exit false)
  | authRound events here round => exact .passes _ (passes_authRound round)
  | authPause code here =>
      exact .passes _ (passes_pause code
        (passes_unlessSigint (passes_goto trivial)) (idle here trivial))
  | loginPause code here =>
      exact .passes _ (passes_pause code
        (passes_unlessSigint passes_enterMenu) (idle here trivial))
  | call call load here =>
      by_cases words : call.function = .sendWordlistRequest
      · rw [words] at here ⊢
        exact .asksWords call load here
      · exact .passes _ (passes_conclude load _ words)
  | @«return» function outcome load here ends =>
      by_cases words : function = .sendWordlistRequest
      · subst words
        exact .loadsWords outcome load here ends
      · exact .passes _ (passes_conclude load _ words)
  | draw here =>
      refine .passes _ (passes_unlessSigint ?_)
      exact ⟨rfl, .inl rfl, trivial⟩
  | choose code here => exact .choose code
  | loadPause code here =>
      refine .passes _ (passes_pause code ?_ (idle here trivial))
      exact ⟨rfl, .inl rfl, trivial⟩
  | play outcome here plays =>
      cases outcome with
      | refused screenTooSmall =>
          cases plays
          have negative :
              (GameOutcome.refused screenTooSmall).finalScore < 0 := by
            cases screenTooSmall <;> decide
          obtain ⟨games, words, quiet⟩ :=
            @passes_unlessSigint client.leaveGame _
              (@passes_goto client.leaveGame .menuPause trivial)
          rw [reportScore, if_pos negative]
          exact .passes _ ⟨games, words, quiet⟩
      | finished game =>
          simp only [play] at plays
          split at plays
          · rename_i played
            cases plays
            exact .plays game here played
          · cases plays
  | menuPause code here =>
      exact .passes _ (passes_pause code (passes_goto trivial)
        (idle here trivial))
  | firstPage code here =>
      refine .passes _ (passes_pause code (passes_goto ?_)
        (idle here trivial))
      split
      · trivial
      · trivial
  | lastPage code here =>
      exact .passes _ (passes_pause code (passes_goto trivial)
        (idle here trivial))
  | logoutPause code here =>
      refine .passes _ (passes_pause code (passes_unlessSigint ?_)
        (idle here trivial))
      split
      · exact passes_disconnect (passes_goto trivial)
      · exact passes_goto trivial
  | confirming code here =>
      apply Moves.passes
      split
      · exact passes_exit true
      · exact passes_goto trivial

/-! ## Games and scores -/

theorem games_reportScore (finalScore : Int32) :
    (client.reportScore finalScore).games = client.games := by
  unfold reportScore unlessSigint
  split_ifs
  · exact games_disconnect
  · rfl
  · rfl

theorem games_afterGame (game : FinishedGame) :
    (client.afterGame game).games = client.games ++ [(client.userId, game)] := by
  simp [games, finishedGames, afterGame, record, leaveGame]

theorem afterLoad_quiet
    (load : LoadMemory) (code : Int) (response : List UInt8) :
    (client.afterLoad load code response).games = client.games ∧
      ∀ score, ¬(client.afterLoad load code response).Reports score := by
  refine ⟨rfl, ?_⟩
  simp only [afterLoad, Reports, goto]
  split <;> simp

/-- A step plays a game, or the client does not come to report a score. -/
theorem games_of_step
    (stepped : step sha256 client action = some next) :
    (next.games = client.games ∧
        ((∀ score, ¬next.Reports score) ∨ next.point = client.point)) ∨
      ∃ game, next.games = client.games ++ [(client.userId, game)] := by
  cases moves_of_step stepped with
  | passes action passes =>
      refine .inl ⟨passes.games, .inl ?_⟩
      intro score reports
      have idle := passes.idle
      rw [reports] at idle
      cases idle.2
  | sigint =>
      left
      unfold handleSigint
      split <;> exact ⟨rfl, .inr rfl⟩
  | choose code =>
      left
      unfold choose
      split
      · refine ⟨rfl, .inl ?_⟩
        simp only [Reports, goto]
        split <;> simp
      · split_ifs <;> exact ⟨rfl, .inl (by simp [Reports, goto])⟩
  | asksWords call load here =>
      left
      unfold RequestCall.start
      split_ifs
      · obtain ⟨games, silent⟩ := @afterLoad_quiet client load _ _
        exact ⟨games, .inl silent⟩
      · exact ⟨by simp [conclude, games, finishedGames, record, goto],
          .inl (by simp [Reports, conclude, goto])⟩
      · obtain ⟨games, silent⟩ := @afterLoad_quiet client load _ _
        exact ⟨games, .inl silent⟩
  | loadsWords outcome load here ends =>
      left
      cases outcome with
      | continues point => cases ends
      | returns code response =>
          obtain ⟨games, silent⟩ :=
            @afterLoad_quiet client load code response
          exact ⟨games, .inl silent⟩
      | disconnects code response =>
          obtain ⟨games, silent⟩ :=
            @afterLoad_quiet client.disconnectFromServer load code response
          exact ⟨games.trans games_disconnect, .inl silent⟩
  | plays game here plays =>
      refine .inr ⟨game, ?_⟩
      rw [games_reportScore, games_afterGame]

theorem games_prefix
    (stepped : step sha256 client action = some next) :
    client.games <+: next.games := by
  rcases games_of_step stepped with ⟨same, _⟩ | ⟨game, longer⟩
  · rw [same]
  · rw [longer]
    exact List.prefix_append _ _

/-- A score that will not be submitted any more never is. -/
theorem settled_mono
    (stepped : step sha256 client action = some next) :
    client.settled ≤ next.settled := by
  rcases games_of_step stepped with
    ⟨same, silent | point⟩ | ⟨game, longer⟩
  · rw [settled_of_not_reports silent, same]
    exact settled_le
  · have unchanged : next.settled = client.settled := by
      rw [settled, settled, same, point]
    exact Nat.le_of_eq unchanged.symm
  · have counted : next.games.length = client.games.length + 1 := by
      rw [longer, List.length_append, List.length_singleton]
    have enough : next.games.length - 1 ≤ next.settled := by
      unfold settled
      split
      · exact Nat.le_refl _
      · exact Nat.sub_le _ _
    have before := @settled_le client
    omega

/-! ## What is submitted -/

theorem finished_of_owes
    {phase : DialoguePhase} {event : ClientEvent} {user : CharArray maxIdLen}
    {asked : Option RequestFunction}
    (owes : dialogue phase event = some (.member user asked (some score))) :
    ∃ game, event = .finished user game ∧ owedFor game = some score := by
  unfold dialogue at owes
  split at owes
  case h_2 =>
      split at owes
      · cases owes
      · cases owes
  case h_3 =>
      split at owes
      · split at owes
        · cases owes
        · cases owes
      · cases owes
  case h_5 =>
      split at owes
      · cases owes
      · cases owes
  case h_6 asked' player game =>
      split at owes
      · rename_i same
        subst same
        simp only [Option.some.injEq, DialoguePhase.member.injEq] at owes
        obtain ⟨rfl, _, owed⟩ := owes
        exact ⟨game, rfl, owed⟩
      · cases owes
  case h_10 =>
      split at owes
      · cases owes
      · cases owes
  all_goals cases owes

theorem finished_of_owed
    {history : List ClientEvent} {user : CharArray maxIdLen}
    {asked : Option RequestFunction}
    (spoken : dialogue.run .offline history =
      some (.member user asked (some score))) :
    ∃ earlier game, history = earlier ++ [.finished user game] ∧
      owedFor game = some score := by
  rcases List.eq_nil_or_concat history with rfl | ⟨earlier, event, rfl⟩
  · cases spoken
  · rw [List.concat_eq_append] at spoken ⊢
    obtain ⟨phase, _, last⟩ := Machine.run_append_eq_some_iff.mp spoken
    obtain ⟨after, owes, same⟩ := Machine.run_cons_eq_some_iff.mp last
    cases same
    obtain ⟨game, rfl, owed⟩ := finished_of_owes owes
    exact ⟨earlier, game, rfl, owed⟩

theorem last_game_of_reports
    (conforms : client.Conforms) (reports : client.Reports score)
    (connected : client.connected = true) :
    ∃ earlier game, client.games = earlier ++ [(client.userId, game)] ∧
      game.score = score ∧ 0 ≤ score := by
  obtain ⟨phase, holds, fits⟩ := conforms
  rw [Reports] at reports
  simp only [Fits, reports, RequestFunction.asksToEnter, Bool.false_eq_true,
    ↓reduceIte, RequestFunction.submits] at fits
  obtain ⟨named, place⟩ := fits
  rw [if_pos connected] at place
  obtain ⟨asked, rfl⟩ := place
  obtain ⟨earlier, game, history, owed⟩ := finished_of_owed holds
  refine ⟨finishedGames earlier, game, ?_, ?_⟩
  · rw [games, history]
    simp [finishedGames]
  · unfold owedFor at owed
    split at owed
    · cases owed
    · rename_i counts
      cases owed
      exact ⟨rfl, Int32.not_lt.mp counts⟩

end Client

end RainTyping
