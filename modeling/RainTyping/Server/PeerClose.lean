import RainTyping.Server.SingleLogin

/-!
# A peer that closes its connection

`send_all` handles a failing `send`, but `main` leaves `SIGPIPE` at its default
disposition, so sending to a peer that is gone kills the process before the
error can be handled.  Over TCP that is the second `send` behind the close, as
a response has two.  A peer ends only its own session when it closes while its
handler waits in `recv` and has no request left to answer.
-/

namespace RainTyping

/-- The steps that remain for a handler whose peer is gone. -/
def Handler.leavingSteps (handler : Handler) (socket : Nat) : List Action :=
  if handler.stage = .leaving then [.cleanUp socket]
  else [.hangUp socket, .cleanUp socket]

namespace Server

/-- A closed connection ends by itself: the process runs, and the handler goes
through its cleanup without touching anybody else. -/
structure EndsOwnSession (qsort : QSort) (server : Server) : Prop where
  alive : server.alive = true
  waits : ∀ socket handler, server.handlers socket = some handler →
    handler.peerOpen = false →
      handler.stage = .receiving ∨ handler.stage = .leaving
  ends : ∀ socket handler, server.handlers socket = some handler →
    handler.peerOpen = false →
      ∃ next,
        (step qsort).run server (handler.leavingSteps socket) = some next ∧
          next.handlers socket = none ∧
          (∀ other, other ≠ socket →
            next.handlers other = server.handlers other) ∧
          ∀ session : CharArray maxIdLen × Nat, session.2 ≠ socket →
            (session ∈ next.loggedInUsers.sessions ↔
              session ∈ server.loggedInUsers.sessions)

/-- A request that lacks a body is handled without looking at it. -/
def BodyUnused (server : Server) (handler : Handler) : Request → Prop
  | .login none =>
      ∀ entry ∈ server.loggedInUsers.entries, entry.isActive = false
  | .scoreSubmit none => handler.currentUser = .empty
  | _ => True

/-- A peer closes only while its handler waits or leaves, and no request is
taken from a peer that is gone. -/
def PeerWaits (server : Server) : Action → Prop
  | .peerCloses socket =>
      ∀ handler, server.handlers socket = some handler →
        handler.stage = .receiving ∨ handler.stage = .leaving
  | .receive socket request _ =>
      ∀ handler, server.handlers socket = some handler →
        handler.peerOpen = true ∧ server.BodyUnused handler request
  | _ => True

/-- What holds between the steps of such a run. -/
structure PeerState (server : Server) : Prop where
  alive : server.alive = true
  unique : server.sessions.Unique .empty
  waits : ∀ socket handler, server.handlers socket = some handler →
    handler.peerOpen = false →
      handler.stage = .receiving ∨ handler.stage = .leaving

variable {qsort : QSort} {server next : Server} {action : Action}
  {socket : Nat} {handler : Handler}

/-! ## One step -/

theorem PeerState.open_of_busy
    (state : server.PeerState)
    (live : server.handlers socket = some handler)
    (busy : handler.stage ≠ .receiving ∧ handler.stage ≠ .leaving) :
    handler.peerOpen = true := by
  by_contra closed
  rcases state.waits socket handler live (by simpa using closed) with
    receiving | leaving
  · exact busy.1 receiving
  · exact busy.2 leaving

variable (qsort) in
private theorem receive_survives
    {request : Request} (disk : DiskCalls) (alive : server.alive = true)
    (unused : server.BodyUnused handler request) :
    (server.receive qsort socket handler request disk).alive = true ∧
      ∃ user stage,
        (server.receive qsort socket handler request disk).handlers socket =
          some ⟨user, stage, handler.peerOpen⟩ := by
  have responded : ∀ {changed : Server} {sender : Handler}
      {response : Response}, changed.alive = true →
      sender.peerOpen = handler.peerOpen →
        (changed.respond socket sender response).alive = true ∧
          ∃ user stage, (changed.respond socket sender response).handlers
            socket = some ⟨user, stage, handler.peerOpen⟩ := by
    intro changed sender response running same
    refine ⟨running, sender.currentUser, .sendingHeader response, ?_⟩
    rw [respond_self, ← same]
  cases request with
  | register body =>
      simp only [receive, receiveRegister]
      split
      · exact responded alive rfl
      · exact ⟨alive, _, _, setHandler_self⟩
  | login body =>
      cases body with
      | none =>
          have noActive : ∀ entry ∈ server.loggedInUsers.entries,
              entry.isActive = false :=
            unused
          have idle : ¬server.loggedInUsers.entries.any
              LoggedInUser.isActive = true := by
            simpa using noActive
          rw [receive, receiveLogin, if_neg idle]
          exact ⟨alive, _, _, setHandler_self⟩
      | some credentials =>
          simp only [receive, receiveLogin]
          split
          · exact ⟨alive, _, _, setHandler_self⟩
          · exact responded alive rfl
  | scoreSubmit body =>
      cases body with
      | none =>
          have nobody : handler.currentUser.strlen = 0 := by
            rw [show handler.currentUser = .empty from unused]
            rfl
          simp only [receive, receiveScoreSubmit, nobody, ↓reduceIte]
          exact responded alive rfl
      | some score =>
          simp only [receive, receiveScoreSubmit]
          split
          · exact responded alive rfl
          · exact responded alive rfl
  | leaderboard => exact responded alive rfl
  | wordlist => exact responded alive rfl
  | logout =>
      simp only [receive, receiveLogout]
      split
      · exact responded alive rfl
      · exact responded alive rfl
  | unknown type => exact responded alive rfl

private theorem receive_peerState
    {request : Request} {disk : DiskCalls} (alive : server.alive = true)
    (live : server.handlers socket = some handler)
    (waits : server.PeerWaits (.receive socket request disk)) :
    (server.receive qsort socket handler request disk).alive = true ∧
      ∀ after, (server.receive qsort socket handler request disk).handlers
        socket = some after → after.peerOpen = true := by
  obtain ⟨isOpen, unused⟩ := waits handler live
  obtain ⟨survives, user, stage, changed⟩ :=
    receive_survives qsort disk alive unused
  refine ⟨survives, ?_⟩
  intro after afterLive
  rw [changed] at afterLive
  cases afterLive
  exact isOpen

private theorem sendAll_open
    {sent : Bool} {later : Stage} (alive : server.alive = true)
    (isOpen : handler.peerOpen = true) :
    (server.sendAll socket handler sent later).alive = true ∧
      ∀ after, (server.sendAll socket handler sent later).handlers socket =
        some after → after.peerOpen = true := by
  rw [sendAll, if_pos isOpen]
  refine ⟨alive, ?_⟩
  intro after live
  rw [setHandler_self] at live
  cases live
  exact isOpen

/-- A step keeps the process alive, and its handler's peer is open afterwards
or the handler waits or leaves. -/
private theorem step_waits
    (state : server.PeerState) (waits : server.PeerWaits action)
    (stepped : step qsort server action = some next) :
    next.alive = true ∧
      ∀ after, next.handlers action.socket = some after →
        after.peerOpen = true ∨ after.stage = .receiving ∨
          after.stage = .leaving := by
  obtain ⟨_, cases⟩ := step_iff.mp stepped
  have settled : ∀ {base : Server} {socket : Nat} {changed : Handler},
      base.alive = true →
      (changed.peerOpen = true ∨ changed.stage = .receiving ∨
        changed.stage = .leaving) →
      (base.setHandler socket changed).alive = true ∧
        ∀ after, (base.setHandler socket changed).handlers socket =
          some after → after.peerOpen = true ∨ after.stage = .receiving ∨
            after.stage = .leaving := by
    intro base socket changed alive fine
    refine ⟨alive, ?_⟩
    intro after live
    rw [setHandler_self] at live
    cases live
    exact fine
  cases cases with
  | accept socket free => exact settled state.alive (.inl rfl)
  | receive socket request disk live stage =>
      obtain ⟨alive, isOpen⟩ := receive_peerState state.alive live waits
      exact ⟨alive, fun after afterLive => .inl (isOpen after afterLive)⟩
  | verifyPassword socket reads live stage =>
      have isOpen := state.open_of_busy live (by simp [stage])
      rw [verifyPassword]
      split
      · exact settled state.alive (.inl isOpen)
      · exact settled state.alive (.inl isOpen)
  | addSession socket live stage =>
      have isOpen := state.open_of_busy live (by simp [stage])
      simp only [addSession]
      split
      · exact settled state.alive (.inl isOpen)
      · exact settled state.alive (.inl isOpen)
  | addUser socket writes live stage =>
      have isOpen := state.open_of_busy live (by simp [stage])
      exact settled state.alive (.inl isOpen)
  | sendHeader socket sent live stage =>
      obtain ⟨alive, isOpen⟩ := sendAll_open state.alive
        (state.open_of_busy live (by simp [stage]))
      exact ⟨alive, fun after afterLive => .inl (isOpen after afterLive)⟩
  | sendBody socket sent live stage =>
      obtain ⟨alive, isOpen⟩ := sendAll_open state.alive
        (state.open_of_busy live (by simp [stage]))
      exact ⟨alive, fun after afterLive => .inl (isOpen after afterLive)⟩
  | hangUp socket live stage => exact settled state.alive (.inr (.inr rfl))
  | cleanUp socket live stage =>
      refine ⟨state.alive, ?_⟩
      intro after afterLive
      simp [Action.socket, cleanUp] at afterLive
  | @peerCloses handler socket live =>
      exact settled state.alive (.inr (waits handler live))

theorem step_peerState
    (state : server.PeerState) (noRace : server.NoLoginRace action)
    (waits : server.PeerWaits action)
    (stepped : step qsort server action = some next) :
    next.PeerState := by
  obtain ⟨alive, own⟩ := step_waits state waits stepped
  refine ⟨alive, step_unique state.unique noRace stepped, ?_⟩
  intro socket handler live closed
  by_cases isOwn : socket = action.socket
  · subst isOwn
    rcases own handler live with isOpen | waiting
    · rw [isOpen] at closed
      cases closed
    · exact waiting
  · rw [step_other stepped isOwn] at live
    exact state.waits socket handler live closed

/-! ## The end of a connection -/

variable (qsort) in
private theorem cleanUp_ends
    (unique : server.sessions.Unique .empty)
    (alive : server.alive = true)
    (live : server.handlers socket = some handler)
    (leaving : handler.stage = .leaving) :
    ∃ next, step qsort server (.cleanUp socket) = some next ∧
      next.handlers socket = none ∧
        (∀ other, other ≠ socket →
          next.handlers other = server.handlers other) ∧
        ∀ session : CharArray maxIdLen × Nat, session.2 ≠ socket →
          (session ∈ next.loggedInUsers.sessions ↔
            session ∈ server.loggedInUsers.sessions) := by
  have stepped : step qsort server (.cleanUp socket) =
      some (server.cleanUp socket handler) :=
    step_iff.mpr ⟨alive, .cleanUp socket live leaving⟩
  refine ⟨_, stepped, Function.update_self _ _ _, ?_, ?_⟩
  · intro other apart
    exact step_other stepped apart
  · intro session apart
    exact unique.disconnect_other (step_refines stepped) apart

variable (qsort) in
private theorem hangUp_leaves
    (alive : server.alive = true)
    (live : server.handlers socket = some handler)
    (receiving : handler.stage = .receiving) :
    step qsort server (.hangUp socket) =
      some (server.setHandler socket { handler with stage := .leaving }) :=
  step_iff.mpr ⟨alive, .hangUp socket live receiving⟩

theorem endsOwnSession_of_peerState (state : server.PeerState) :
    server.EndsOwnSession qsort where
  alive := state.alive
  waits := state.waits
  ends := by
    intro socket handler live closed
    rcases state.waits socket handler live closed with receiving | leaving
    · have left := hangUp_leaves qsort state.alive live receiving
      have unseen : (server.setHandler socket
          { handler with stage := .leaving }).sessions = server.sessions :=
        sessions_setHandler_same live rfl
          (congrArg Stage.verified receiving).symm
      have unique : (server.setHandler socket
          { handler with stage := .leaving }).sessions.Unique .empty := by
        rw [unseen]
        exact state.unique
      obtain ⟨next, cleaned, gone, others, sessions⟩ :=
        cleanUp_ends qsort unique state.alive setHandler_self rfl
      refine ⟨next, ?_, gone, ?_, sessions⟩
      · have steps : handler.leavingSteps socket =
            [.hangUp socket, .cleanUp socket] := by
          simp [Handler.leavingSteps, receiving]
        rw [steps, Machine.run_cons_eq_some_iff]
        refine ⟨_, left, ?_⟩
        rw [Machine.run_cons_eq_some_iff]
        exact ⟨next, cleaned, rfl⟩
      · intro other apart
        rw [others other apart, setHandler_other apart]
    · obtain ⟨next, cleaned, ended⟩ :=
        cleanUp_ends qsort state.unique state.alive live leaving
      refine ⟨next, ?_, ended⟩
      rw [Handler.leavingSteps, if_pos leaving, Machine.run_cons_eq_some_iff]
      exact ⟨next, cleaned, rfl⟩

/-- When peers close only while their handlers wait, and no login races, a
closing peer ends only its own session. -/
theorem endsOwnSession_of_peerWaits
    {users scores : DataFile} {wordlist : WordListResponse}
    {actions : List Action} {server : Server}
    (waits : (step qsort).Meets PeerWaits (start users scores wordlist)
      actions)
    (noRace : (step qsort).Meets NoLoginRace (start users scores wordlist)
      actions)
    (ran : (step qsort).run (start users scores wordlist) actions =
      some server) :
    server.EndsOwnSession qsort := by
  apply endsOwnSession_of_peerState
  apply Machine.run_invariant PeerState _
    ⟨rfl, unique_start, fun _ _ => nofun⟩ (waits.and noRace) ran
  intro state action next holds guarded stepped
  exact step_peerState holds guarded.2 guarded.1 stepped

/-! ## A peer that closes in time, and one that does not -/

/-- The users file with the accounts `a` and `c`. -/
def bothAccounts : DataFile :=
  some (text "a:b\nc:d\n")

/-- Two users are logged in, and the peer of the first one closes. -/
def closesInTime : List Action :=
  [.accept 4, .accept 5] ++ logsIn 4 loginRequest ++
    logsIn 5 (.login (some ⟨.ofBuffer (text "c"), .ofBuffer (text "d")⟩)) ++
      [.peerCloses 4]

/-- `PeerWaits` for the handler of an action that carries its body. -/
def peerWaits (server : Server) : Action → Bool
  | .peerCloses socket =>
      match server.handlers socket with
      | some handler => handler.stage = .receiving || handler.stage = .leaving
      | none => true
  | .receive socket (.login (some _)) _ =>
      match server.handlers socket with
      | some handler => handler.peerOpen
      | none => true
  | .receive _ _ _ => false
  | _ => true

theorem peerWaits_of_check (waits : server.peerWaits action = true) :
    server.PeerWaits action := by
  unfold peerWaits at waits
  split at waits
  · intro handler live
    simpa [live] using waits
  · intro handler live
    exact ⟨by simpa [live] using waits, trivial⟩
  · cases waits
  · rename_i notCloses _ notReceive
    cases action with
    | peerCloses socket => exact absurd rfl (notCloses socket)
    | receive socket request disk =>
        exact absurd rfl (notReceive socket request disk)
    | _ => trivial

private theorem bothAccounts_only :
    (start bothAccounts none .empty).OnlyOn [4, 5] :=
  fun _ _ => rfl

private theorem closesInTime_waits :
    (step .insertion).Meets PeerWaits (start bothAccounts none .empty)
      closesInTime := by
  apply meets_of_onlyOn (fun _ _ _ => peerWaits_of_check) bothAccounts_only
  · decide
  · decide

private theorem closesInTime_noRace :
    (step .insertion).Meets NoLoginRace (start bothAccounts none .empty)
      closesInTime := by
  apply meets_of_onlyOn (fun _ _ => noLoginRace_of_raceFreeOn)
    bothAccounts_only
  · decide
  · decide

theorem endsOwnSession_of_closesInTime :
    ∃ server, (step .insertion).run (start bothAccounts none .empty)
      closesInTime = some server ∧ server.EndsOwnSession .insertion :=
  ⟨_, rfl, endsOwnSession_of_peerWaits closesInTime_waits
    closesInTime_noRace rfl⟩

/-- The peer closes before the server sends its response. -/
def closesEarly : List Action :=
  [.accept 4, .receive 4 .wordlist .succeed, .peerCloses 4,
    .sendHeader 4 false]

/-- The server is killed by the signal of its own `send`. -/
theorem closesEarly_kills :
    ¬ ∀ qsort users scores wordlist actions server,
      (step qsort).run (start users scores wordlist) actions = some server →
        server.EndsOwnSession qsort := by
  intro ends
  have killed : ((step .insertion).run (start none none .empty)
      closesEarly).map Server.alive = some false := by
    decide
  cases ran : (step .insertion).run (start none none .empty) closesEarly with
  | none =>
      rw [ran] at killed
      cases killed
  | some server =>
      have alive := (ends .insertion _ _ _ closesEarly server ran).alive
      rw [ran, Option.map_some, Option.some.injEq, alive] at killed
      cases killed

end Server

end RainTyping
