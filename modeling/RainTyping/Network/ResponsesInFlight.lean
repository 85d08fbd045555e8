import RainTyping.Network.ServedUsers

/-!
# Responses in flight

From its computation to the return of the request function a response is in
the hands of its handler, or has come to its client.  A response in flight was
in flight before the step, or the step has computed it.
-/

namespace RainTyping

/-- The responses without a list in them. -/
def Response.IsStatus : Response → Prop
  | .leaderboard _ => False
  | .wordlist _ => False
  | _ => True

/-- A handler at this stage has the response to send. -/
def Stage.Sends (stage : Stage) (response : Response) : Prop :=
  stage = .sendingHeader response ∨ stage = .sendingBody response

namespace Server

def Sends (server : Server) (response : Response) : Prop :=
  ∃ socket handler, server.handlers socket = some handler ∧
    handler.stage.Sends response

/-- The responses that a step may compute. -/
inductive Computes (qsort : QSort) (server : Server) :
    Action → Response → Prop where
  | status {computed : Response} (status : computed.IsStatus) :
      Computes qsort server action computed
  | wordlist : Computes qsort server action (.wordlist server.wordlist)
  | leaderboard (socket disk) :
      Computes qsort server (.receive socket .leaderboard disk)
        (.leaderboard (getLeaderboardImpl qsort disk.reads server.scores
          maxLeaderboardEntries))

variable {qsort : QSort} {server next : Server} {socket : Nat}
  {handler after : Handler} {response computed : Response} {action : Action}

theorem sends_respond
    (live : (server.respond socket handler computed).handlers socket =
      some after)
    (sends : after.stage.Sends response) : response = computed := by
  rw [respond_self] at live
  cases live
  rcases sends with header | body
  · cases header
    rfl
  · cases body

theorem stage_setHandler
    {changed : Handler}
    (live : (server.setHandler socket changed).handlers socket = some after) :
    after.stage = changed.stage := by
  rw [setHandler_self] at live
  cases live
  rfl

theorem computes_receive
    {request : Request} {disk : DiskCalls}
    (before : server.handlers socket = some handler)
    (stage : handler.stage = .receiving)
    (live : (server.receive qsort socket handler request disk).handlers
      socket = some after)
    (sends : after.stage.Sends response) :
    Computes qsort server (.receive socket request disk) response := by
  have quiet : ∀ {stage : Stage}, after.stage = stage →
      (∀ response, ¬stage.Sends response) →
        Computes qsort server (.receive socket request disk) response := by
    rintro stage rfl silent
    exact absurd sends (silent response)
  have crashed : server.crash.handlers socket = some after →
      Computes qsort server (.receive socket request disk) response := by
    intro same
    rw [crash, before] at same
    cases same
    exact quiet stage (by simp [Stage.Sends])
  cases request with
  | register body =>
      simp only [receive, receiveRegister] at live
      split at live
      · cases sends_respond live sends
        exact .status trivial
      · exact quiet (stage_setHandler live) (by simp [Stage.Sends])
  | login body =>
      cases body with
      | none =>
          simp only [receive, receiveLogin] at live
          split at live
          · exact crashed live
          · exact quiet (stage_setHandler live) (by simp [Stage.Sends])
      | some credentials =>
          simp only [receive, receiveLogin] at live
          split at live
          · exact quiet (stage_setHandler live) (by simp [Stage.Sends])
          · cases sends_respond live sends
            exact .status trivial
  | scoreSubmit body =>
      simp only [receive, receiveScoreSubmit] at live
      split at live
      · cases sends_respond live sends
        exact .status trivial
      · cases body with
        | none => exact crashed live
        | some score =>
            cases sends_respond live sends
            exact .status trivial
  | leaderboard =>
      cases sends_respond live sends
      exact .leaderboard socket disk
  | wordlist =>
      cases sends_respond live sends
      exact .wordlist
  | logout =>
      simp only [receive, receiveLogout] at live
      split at live
      · cases sends_respond live sends
        exact .status trivial
      · cases sends_respond live sends
        exact .status trivial
  | unknown type =>
      cases sends_respond live sends
      exact .status trivial

theorem sends_sendAll
    {sent : Bool} {later : Stage}
    (before : server.handlers socket = some handler)
    (live : (server.sendAll socket handler sent later).handlers socket =
      some after)
    (sends : after.stage.Sends response) :
    handler.stage.Sends response ∨ later.Sends response := by
  unfold sendAll at live
  split at live
  · have stage := stage_setHandler live
    rw [stage] at sends
    cases sent with
    | true => exact .inr sends
    | false => exact absurd sends (by simp [Stage.Sends])
  · simp only [serverSignals, before] at live
    cases live
    exact .inl sends

/-- A response that is to be sent was so before, or is a new one. -/
theorem sends_of_step
    (stepped : step qsort server action = some next)
    (sends : next.Sends response) :
    server.Sends response ∨ Computes qsort server action response := by
  obtain ⟨socket, after, live, sends⟩ := sends
  by_cases own : socket = action.socket
  swap
  · rw [step_other stepped own] at live
    exact .inl ⟨socket, after, live, sends⟩
  subst own
  have quiet : ∀ {stage : Stage}, after.stage = stage →
      (∀ response, ¬stage.Sends response) → False := by
    rintro stage rfl silent
    exact silent response sends
  obtain ⟨_, cases⟩ := step_iff.mp stepped
  cases cases with
  | accept socket free =>
      exact (quiet (stage_setHandler live) (by simp [Stage.Sends])).elim
  | receive socket request disk here stage =>
      exact .inr (computes_receive here stage live sends)
  | verifyPassword socket reads here stage =>
      rw [verifyPassword] at live
      split at live
      · exact (quiet (stage_setHandler live) (by simp [Stage.Sends])).elim
      · cases sends_respond live sends
        exact .inr (.status trivial)
  | addSession socket here stage =>
      simp only [addSession] at live
      split at live
      · cases sends_respond live sends
        exact .inr (.status trivial)
      · cases sends_respond live sends
        exact .inr (.status trivial)
  | addUser socket writes here stage =>
      cases sends_respond live sends
      exact .inr (.status trivial)
  | sendHeader socket sent here stage =>
      left
      rcases sends_sendAll here live sends with still | later
      · exact ⟨socket, _, here, still⟩
      · refine ⟨socket, _, here, ?_⟩
        rcases later with header | body
        · cases header
        · cases body
          exact .inl stage
  | sendBody socket sent here stage =>
      left
      rcases sends_sendAll here live sends with still | later
      · exact ⟨socket, _, here, still⟩
      · exact absurd later (by simp [Stage.Sends])
  | hangUp socket here stage =>
      exact (quiet (stage_setHandler live) (by simp [Stage.Sends])).elim
  | cleanUp socket here stage =>
      simp only [cleanUp, Action.socket, Function.update_self] at live
      cases live
  | peerCloses socket here =>
      rw [stage_setHandler live] at sends
      exact .inl ⟨socket, _, here, sends⟩

end Server

namespace Deployment

variable {qsort : QSort} {sha256 : Sha256} {deployment next : Deployment}
  {response : Response}

/-- The response is in flight. -/
def Carries (deployment : Deployment) (response : Response) : Prop :=
  deployment.server.Sends response ∨
    ∃ id, deployment.inboxes id = some response

theorem clients_of_step
    {action : DeploymentAction}
    (stepped : step qsort sha256 deployment action = some next) :
    next.clients = deployment.clients ∨
      ∃ id socket taken client, action = .client id socket taken ∧
        Client.step sha256 (deployment.clients id) taken = some client ∧
          next.clients = Function.update deployment.clients id client ∧
            ∀ outcome load, taken = .return outcome load →
              ∃ between, deployment.Delivers id outcome between := by
  cases steps_of_step stepped with
  | accept id socket accepted taken connected accepts =>
      exact .inr ⟨id, socket, _, _, rfl, taken, rfl, nofun⟩
  | refused id socket accepted taken unconnected =>
      exact .inr ⟨id, socket, _, _, rfl, taken, rfl, nofun⟩
  | call id socket call load taken =>
      refine .inr ⟨id, socket, _, _, rfl, taken, ?_, nofun⟩
      unfold send
      split
      · rfl
      · rfl
  | @«return» between _ id socket outcome load taken delivers =>
      refine .inr ⟨id, socket, _, _, rfl, taken, ?_, ?_⟩
      · cases delivers with
        | answered awaits arrived sized read => rfl
        | interrupted failed signaled => rfl
        | lost => rfl
      · rintro outcome load ⟨⟩
        exact ⟨between, delivers⟩
  | quiet id socket action quiet taken =>
      refine .inr ⟨id, socket, _, _, rfl, taken, rfl, ?_⟩
      rintro outcome load rfl
      cases quiet
  | receive socket disk found underWay taken => exact .inl rfl
  | sendBody socket sent taken =>
      left
      unfold serve
      split
      · rfl
      · rfl
  | cleanUp socket taken => exact .inl rfl
  | inner action inner taken => exact .inl rfl

/-- A response that comes to a client has been sent by its handler. -/
theorem inbox_of_step
    {action : DeploymentAction} {id : Nat}
    (stepped : step qsort sha256 deployment action = some next)
    (arrived : next.inboxes id = some response) :
    deployment.Carries response := by
  have stays : next.inboxes = deployment.inboxes →
      deployment.Carries response := by
    intro same
    rw [same] at arrived
    exact .inr ⟨id, arrived⟩
  have emptied : ∀ {other}, next.inboxes =
      Function.update deployment.inboxes other none →
        deployment.Carries response := by
    intro other same
    rw [same] at arrived
    by_cases own : id = other
    · rw [own, Function.update_self] at arrived
      cases arrived
    · rw [Function.update_of_ne own] at arrived
      exact .inr ⟨id, arrived⟩
  cases steps_of_step stepped with
  | accept other socket accepted taken connected accepts => exact emptied rfl
  | refused other socket accepted taken unconnected => exact stays rfl
  | call other socket call load taken =>
      apply stays
      unfold send
      split
      · rfl
      · rfl
  | «return» other socket outcome load taken delivers =>
      cases delivers with
      | answered awaits arrived sized read => exact emptied rfl
      | interrupted failed signaled => exact stays rfl
      | lost => exact stays rfl
  | quiet other socket action quiet taken => exact stays rfl
  | receive socket disk found underWay taken => exact stays rfl
  | sendBody socket sent taken =>
      unfold serve at arrived
      split at arrived
      · rename_i link sending _ _
        simp only [respond, setLink] at arrived
        split at arrived
        · by_cases own : id = link.client
          · subst own
            rw [Function.update_self] at arrived
            cases arrived
            exact .inl ⟨socket, _, sending, .inr rfl⟩
          · rw [Function.update_of_ne own] at arrived
            exact .inr ⟨id, arrived⟩
        · exact .inr ⟨id, arrived⟩
      · exact .inr ⟨id, arrived⟩
  | cleanUp socket taken => exact stays rfl
  | inner action inner taken => exact stays rfl

/-- A response in flight was so before, or the step has computed it. -/
theorem carries_of_step
    {action : DeploymentAction}
    (stepped : step qsort sha256 deployment action = some next)
    (carries : next.Carries response) :
    deployment.Carries response ∨
      ∃ taken, Server.Computes qsort deployment.server taken response ∧
        ((∃ id socket connects, action = .client id socket connects ∧
            taken = .accept socket) ∨ action = .server taken) := by
  rcases carries with sends | ⟨id, arrived⟩
  · rcases server_of_step stepped with same | ⟨taken, serverStepped, origin⟩
    · rw [same] at sends
      exact .inl (.inl sends)
    · rcases Server.sends_of_step serverStepped sends with before | computed
      · exact .inl (.inl before)
      · exact .inr ⟨taken, computed, origin⟩
  · exact .inl (inbox_of_step stepped arrived)

end Deployment

end RainTyping
