import RainTyping.Client.ClientDialogue
import RainTyping.Server.SingleLogin

/-!
# A handler at work on a request

What a handler has done at each stage of a request that a client program can
send, whom it acts for there, and with which responses it can end.
-/

namespace RainTyping

/-- The responses of a handler that acts for the user, and whom it acts for
afterwards. -/
inductive RepliesTo (wordlist : WordListResponse) (user : CharArray maxIdLen) :
    RequestFunction → Response → CharArray maxIdLen → Prop where
  | registered :
      RepliesTo wordlist user (.sendRegisterRequest username password)
        (.register status) user
  | loggedIn (success : status.success = true) :
      RepliesTo wordlist user (.sendLoginRequest username password)
        (.login status) (.store maxIdLen username.bytes)
  | notLoggedIn (failure : status.success = false) :
      RepliesTo wordlist user (.sendLoginRequest username password)
        (.login status) .empty
  | submitted :
      RepliesTo wordlist user (.sendScoreSubmitRequest score)
        (.scoreSubmit status) user
  | leaderboard :
      RepliesTo wordlist user .sendLeaderboardRequest (.leaderboard response)
        user
  | wordlist :
      RepliesTo wordlist user .sendWordlistRequest (.wordlist wordlist) user
  | loggedOut (success : user ≠ .empty → status.success = true) :
      RepliesTo wordlist user .sendLogoutRequest (.logout status) .empty

/-- How far a handler is with a request, and whom it acts for there. -/
inductive Works (wordlist : WordListResponse) (user : CharArray maxIdLen) :
    RequestFunction → CharArray maxIdLen → Stage → Prop where
  | loginChecked :
      Works wordlist user (.sendLoginRequest username password) .empty
        (.loginChecked (some (requestOf username password)))
  | loginVerified :
      Works wordlist user (.sendLoginRequest username password)
        (.store maxIdLen username.bytes) (.loginVerified verified)
  | registerSearched :
      Works wordlist user (.sendRegisterRequest username password) user
        (.registerSearched newUser)
  | sendingHeader (replies : RepliesTo wordlist user function response after) :
      Works wordlist user function after (.sendingHeader response)
  | sendingBody (replies : RepliesTo wordlist user function response after) :
      Works wordlist user function after (.sendingBody response)
  | left : Works wordlist user function after .leaving

namespace Server

variable {qsort : QSort} {server next : Server} {socket : Nat}
  {handler : Handler} {disk : DiskCalls} {function : RequestFunction}
  {wordlist : WordListResponse} {user : CharArray maxIdLen}

/-- The handler of the socket works on the request. -/
def WorksOn (server : Server) (socket : Nat) (user : CharArray maxIdLen)
    (function : RequestFunction) : Prop :=
  ∃ handler, server.handlers socket = some handler ∧
    Works server.wordlist user function handler.currentUser handler.stage

theorem worksOn_respond
    {response : Response}
    (replies : RepliesTo server.wordlist user function response
      handler.currentUser) :
    (server.respond socket handler response).WorksOn socket user function :=
  ⟨_, respond_self, .sendingHeader replies⟩

theorem worksOn_receive
    (guest : function.asksToEnter = true → handler.currentUser = .empty) :
    (server.receive qsort socket handler function.request disk).WorksOn socket
      handler.currentUser function := by
  cases function with
  | sendRegisterRequest username password =>
      simp only [RequestFunction.request, receive, receiveRegister]
      split
      · exact worksOn_respond .registered
      · exact ⟨_, setHandler_self, .registerSearched⟩
  | sendLoginRequest username password =>
      have nobody := guest rfl
      simp only [RequestFunction.request, receive, receiveLogin]
      split
      · refine ⟨_, setHandler_self, ?_⟩
        rw [nobody]
        exact .loginChecked
      · apply worksOn_respond
        rw [nobody]
        exact .notLoggedIn rfl
  | sendScoreSubmitRequest score =>
      simp only [RequestFunction.request, receive, receiveScoreSubmit]
      split
      · exact worksOn_respond .submitted
      · exact worksOn_respond .submitted
  | sendLeaderboardRequest => exact worksOn_respond .leaderboard
  | sendLogoutRequest =>
      simp only [RequestFunction.request, receive, receiveLogout]
      split
      · exact worksOn_respond (.loggedOut fun _ => rfl)
      · rename_i unnamed
        have nobody : handler.currentUser = .empty := by
          by_contra named
          exact unnamed (CharArray.strlen_pos_iff.mpr named)
        have replies : RepliesTo server.wordlist handler.currentUser
            .sendLogoutRequest
            (.logout ⟨false, message (text "Not logged in, cannot log out.")⟩)
            .empty :=
          .loggedOut fun named => absurd nobody named
        rw [← nobody] at replies
        exact worksOn_respond (nobody ▸ replies)
  | sendWordlistRequest => exact worksOn_respond .wordlist

theorem step_wordlist
    {action : Action} (stepped : step qsort server action = some next) :
    next.wordlist = server.wordlist := by
  have kept : ∀ {socket handler sent later},
      (server.sendAll socket handler sent later).wordlist =
        server.wordlist := by
    intro socket handler sent later
    unfold sendAll
    split
    · rfl
    · split <;> rfl
  obtain ⟨_, cases⟩ := step_iff.mp stepped
  cases cases with
  | receive socket request disk live stage =>
      cases request with
      | register body =>
          simp only [receive, receiveRegister]
          split <;> rfl
      | login body =>
          cases body with
          | none =>
              simp only [receive, receiveLogin]
              split <;> rfl
          | some credentials =>
              simp only [receive, receiveLogin]
              split <;> rfl
      | scoreSubmit body =>
          simp only [receive, receiveScoreSubmit]
          split
          · rfl
          · split <;> rfl
      | logout =>
          simp only [receive, receiveLogout]
          split <;> rfl
      | _ => rfl
  | verifyPassword socket reads live stage =>
      rw [verifyPassword]
      split <;> rfl
  | addSession socket live stage =>
      simp only [addSession]
      split <;> rfl
  | sendHeader socket sent live stage => exact kept
  | sendBody socket sent live stage => exact kept
  | _ => rfl

/-- The response has gone to the client. -/
def Responded (server next : Server) (socket : Nat)
    (user : CharArray maxIdLen) (function : RequestFunction) : Prop :=
  ∃ response before after peerOpen,
    RepliesTo server.wordlist user function response after ∧
      server.handlers socket =
          some ⟨before, .sendingBody response, peerOpen⟩ ∧
        next.handlers socket = some ⟨after, .receiving, peerOpen⟩

private theorem worksOn_verifyPassword
    {reads : ReadCalls} {request : Option Credentials}
    (works : Works server.wordlist user function handler.currentUser
      (.loginChecked request)) :
    (server.verifyPassword socket handler reads request).WorksOn socket user
      function := by
  generalize handler.currentUser = current at works
  cases works with
  | @loginChecked username password =>
      rw [verifyPassword]
      split
      · rename_i success
        obtain ⟨name, sameName, sameBytes, _⟩ :=
          loginUserImpl_of_success success
        cases sameName
        refine ⟨_, setHandler_self, ?_⟩
        have same : (server.loginOutcome reads
            (some (requestOf username password))).loggedInUser =
              .store maxIdLen username.bytes :=
          CharArray.eq_of_bytes_eq sameBytes
        rw [same]
        exact .loginVerified
      · rename_i failure
        exact worksOn_respond
          (.notLoggedIn (Bool.not_eq_true _ ▸ failure))

private theorem worksOn_addSession
    {verified : Message}
    (works : Works server.wordlist user function handler.currentUser
      (.loginVerified verified)) :
    (server.addSession socket handler verified).WorksOn socket user
      function := by
  generalize acts : handler.currentUser = current at works
  cases works with
  | loginVerified =>
      simp only [addSession]
      split
      · apply worksOn_respond
        rw [acts]
        exact .loggedIn rfl
      · exact worksOn_respond (.notLoggedIn rfl)

private theorem worksOn_addUser
    {writes : WriteCalls} {newUser : UserData}
    (works : Works server.wordlist user function handler.currentUser
      (.registerSearched newUser)) :
    (server.addUser socket handler writes newUser).WorksOn socket user
      function := by
  generalize acts : handler.currentUser = current at works
  cases works with
  | registerSearched =>
      simp only [addUser]
      apply worksOn_respond
      rw [acts]
      exact .registered

/-- A handler at work goes on with it, gives its response, or is gone. -/
theorem worksOn_step
    {action : Action} (works : server.WorksOn socket user function)
    (own : action.socket = socket)
    (stepped : step qsort server action = some next) :
    next.WorksOn socket user function ∨
      ((∃ sent, action = .sendBody socket sent) ∧
        server.Responded next socket user function) ∨
          action = .cleanUp socket := by
  obtain ⟨handler, live, works⟩ := works
  obtain ⟨_, cases⟩ := step_iff.mp stepped
  cases cases with
  | accept other free =>
      subst own
      rw [Action.socket, free] at live
      cases live
  | receive other request disk here stage =>
      subst own
      rw [Action.socket, here] at live
      cases live
      rw [stage] at works
      generalize handler.currentUser = current at works
      cases works
  | verifyPassword other reads here stage =>
      subst own
      rw [Action.socket, here] at live
      cases live
      rw [stage] at works
      exact .inl (worksOn_verifyPassword works)
  | addSession other here stage =>
      subst own
      rw [Action.socket, here] at live
      cases live
      rw [stage] at works
      exact .inl (worksOn_addSession works)
  | addUser other writes here stage =>
      subst own
      rw [Action.socket, here] at live
      cases live
      rw [stage] at works
      exact .inl (worksOn_addUser works)
  | sendHeader other sent here stage =>
      subst own
      rw [Action.socket, here] at live
      cases live
      rw [stage] at works
      generalize acts : handler.currentUser = current at works
      cases works with
      | sendingHeader replies =>
          subst acts
          unfold sendAll
          split
          · refine .inl ⟨_, setHandler_self, ?_⟩
            cases sent
            · exact .left
            · exact .sendingBody replies
          · refine .inl ⟨handler, here, ?_⟩
            rw [stage]
            exact .sendingHeader replies
  | sendBody other sent here stage =>
      subst own
      rw [Action.socket, here] at live
      cases live
      rw [stage] at works
      generalize acts : handler.currentUser = current at works
      cases works with
      | sendingBody replies =>
          subst acts
          unfold sendAll
          split
          · cases sent
            · exact .inl ⟨_, setHandler_self, .left⟩
            · refine .inr (.inl ⟨⟨true, rfl⟩, _, handler.currentUser,
                handler.currentUser, handler.peerOpen, replies, ?_,
                setHandler_self⟩)
              rw [Action.socket, here, ← stage]
          · refine .inl ⟨handler, here, ?_⟩
            rw [stage]
            exact .sendingBody replies
  | hangUp other here stage =>
      subst own
      rw [Action.socket, here] at live
      cases live
      rw [stage] at works
      generalize handler.currentUser = current at works
      cases works
  | cleanUp other here stage =>
      subst own
      exact .inr (.inr rfl)
  | peerCloses other here =>
      subst own
      rw [Action.socket, here] at live
      cases live
      exact .inl ⟨_, setHandler_self, works⟩

end Server

end RainTyping
