import RainTyping.Server.WholeRequest

/-!
# Conversations of whole requests

Clients connect, have requests handled to their end one after another, and
disconnect.  `Answers` says what one request can be answered and what becomes
of the handler's user and of the scores file; a `Conversation` is the server
together with all that was asked and answered so far.
-/

namespace RainTyping

/-- The responses to a request of a handler that acts for the user, with the
user and the scores file afterwards. -/
inductive Answers (user : CharArray maxIdLen) (scores : DataFile)
    (disk : DiskCalls) :
    Request → Response → CharArray maxIdLen → DataFile → Prop where
  | registered (body status) :
      Answers user scores disk (.register body) (.register status) user scores
  | loggedIn (success : status.success = true)
      (same : name.bytes = credentials.username.bytes)
      (clean : CleanName name.bytes) :
      Answers user scores disk (.login (some credentials)) (.login status)
        name scores
  | notLoggedIn (body) (failure : status.success = false)
      (kept : after = user ∨ after = .empty) :
      Answers user scores disk (.login body) (.login status) after scores
  | submitted (score) (named : user ≠ .empty) :
      Answers user scores disk (.scoreSubmit (some score))
        (.scoreSubmit
          (submitScoreImpl disk.writes scores user.toCString score).1)
        user (submitScoreImpl disk.writes scores user.toCString score).2
  | notSubmitted (body) (failure : status.success = false) :
      Answers user scores disk (.scoreSubmit body) (.scoreSubmit status) user
        scores
  | leaderboard (response) :
      Answers user scores disk .leaderboard (.leaderboard response) user scores
  | wordlist (response) :
      Answers user scores disk .wordlist (.wordlist response) user scores
  | loggedOut (status) :
      Answers user scores disk .logout (.logout status) .empty scores
  | unknown (type message) :
      Answers user scores disk (.unknown type) (.error message) user scores

namespace Server

/-- The handler is about to send a response to its request. -/
def Replies (next : Server) (socket : Nat) (peerOpen : Bool)
    (user : CharArray maxIdLen) (scores : DataFile) (disk : DiskCalls)
    (request : Request) : Prop :=
  ∃ response after,
    next.handlers socket = some ⟨after, .sendingHeader response, peerOpen⟩ ∧
      Answers user scores disk request response after next.scores

variable {qsort : QSort} {server : Server} {socket : Nat}
  {user : CharArray maxIdLen} {stage : Stage} {peerOpen : Bool}
  {disk : DiskCalls}

private theorem replies_respond
    {scores : DataFile} {request : Request} {response : Response}
    {before after : CharArray maxIdLen}
    (answers : Answers before scores disk request response after
      server.scores) :
    (server.respond socket ⟨after, stage, peerOpen⟩ response).Replies socket
      peerOpen before scores disk request :=
  ⟨response, after, respond_self, answers⟩

private theorem replies_register
    (body : Option Credentials) :
    (server.handleRequest qsort socket ⟨user, stage, peerOpen⟩
      (.register body) disk).Replies socket peerOpen user server.scores disk
        (.register body) := by
  simp only [handleRequest, receive, receiveRegister]
  split
  · rw [continueRequest_respond, continueRequest_respond]
    exact replies_respond (.registered body _)
  · rename_i newUser searched
    have appended : (server.setHandler socket
        ⟨user, .registerSearched newUser, peerOpen⟩).continueRequest socket
          disk = (server.setHandler socket
            ⟨user, .registerSearched newUser, peerOpen⟩).addUser socket
              ⟨user, .registerSearched newUser, peerOpen⟩ disk.writes
                newUser := by
      simp only [continueRequest, setHandler_self]
    rw [appended, addUser, continueRequest_respond]
    exact replies_respond (.registered body _)

private theorem replies_addSession
    {credentials : Credentials} {verified : Message}
    (same : user.bytes = credentials.username.bytes)
    (clean : CleanName user.bytes) (before : CharArray maxIdLen) :
    (server.addSession socket ⟨user, stage, peerOpen⟩ verified).Replies socket
      peerOpen before server.scores disk (.login (some credentials)) := by
  simp only [addSession]
  split
  · exact replies_respond (.loggedIn rfl same clean)
  · exact replies_respond (.notLoggedIn _ rfl (.inr rfl))

/-- The steps of a login after the check of the table. -/
private theorem replies_checked
    (body : Option Credentials) (before : CharArray maxIdLen) :
    (((server.setHandler socket
      ⟨user, .loginChecked body, peerOpen⟩).continueRequest socket
        disk).continueRequest socket disk).Replies socket peerOpen before
          server.scores disk (.login body) := by
  rw [continueRequest_checked _ _ _ setHandler_self, verifyPassword]
  split
  · rename_i success
    obtain ⟨name, sameName, sameBytes, clean⟩ :=
      loginUserImpl_of_success success
    cases body with
    | none => cases sameName
    | some credentials =>
        cases sameName
        rw [continueRequest_verified _ _ _ setHandler_self]
        exact replies_addSession sameBytes (sameBytes ▸ clean) before
  · rename_i failure
    rw [continueRequest_respond]
    exact replies_respond
      (.notLoggedIn body (Bool.not_eq_true _ ▸ failure) (.inr rfl))

private theorem replies_login
    (body : Option Credentials)
    (survives : (server.handleRequest qsort socket ⟨user, stage, peerOpen⟩
      (.login body) disk).alive = true)
    (receiving : stage = .receiving)
    (live : server.handlers socket = some ⟨user, stage, peerOpen⟩) :
    (server.handleRequest qsort socket ⟨user, stage, peerOpen⟩
      (.login body) disk).Replies socket peerOpen user server.scores disk
        (.login body) := by
  simp only [handleRequest, receive] at survives ⊢
  cases body with
  | none =>
      simp only [receiveLogin] at survives ⊢
      split
      · rename_i active
        have stays : server.crash.continueRequest socket disk = server.crash :=
          continueRequest_receiving live receiving
        rw [if_pos active, stays, stays] at survives
        cases survives
      · exact replies_checked none user
  | some credentials =>
      simp only [receiveLogin]
      split
      · exact replies_checked (some credentials) user
      · rw [continueRequest_respond, continueRequest_respond]
        exact replies_respond (.notLoggedIn _ rfl (.inl rfl))

private theorem replies_scoreSubmit
    (body : Option Int32)
    (survives : (server.handleRequest qsort socket ⟨user, stage, peerOpen⟩
      (.scoreSubmit body) disk).alive = true)
    (receiving : stage = .receiving)
    (live : server.handlers socket = some ⟨user, stage, peerOpen⟩) :
    (server.handleRequest qsort socket ⟨user, stage, peerOpen⟩
      (.scoreSubmit body) disk).Replies socket peerOpen user server.scores disk
        (.scoreSubmit body) := by
  simp only [handleRequest, receive, receiveScoreSubmit] at survives ⊢
  split
  · rw [continueRequest_respond, continueRequest_respond]
    exact replies_respond (.notSubmitted body rfl)
  · rename_i filled
    have named : user ≠ .empty :=
      CharArray.strlen_pos_iff.mp (Nat.pos_of_ne_zero filled)
    cases body with
    | none =>
        have stays : server.crash.continueRequest socket disk = server.crash :=
          continueRequest_receiving live receiving
        rw [if_neg filled] at survives
        simp only [stays] at survives
        cases survives
    | some score =>
        simp only
        rw [continueRequest_respond, continueRequest_respond]
        exact replies_respond (.submitted score named)

theorem handleRequest_replies
    (request : Request)
    (live : server.handlers socket = some ⟨user, .receiving, peerOpen⟩)
    (survives : (server.handleRequest qsort socket
      ⟨user, .receiving, peerOpen⟩ request disk).alive = true) :
    (server.handleRequest qsort socket ⟨user, .receiving, peerOpen⟩ request
      disk).Replies socket peerOpen user server.scores disk request := by
  cases request with
  | register body => exact replies_register body
  | login body => exact replies_login body survives rfl live
  | scoreSubmit body => exact replies_scoreSubmit body survives rfl live
  | leaderboard =>
      simp only [handleRequest, receive]
      rw [continueRequest_respond, continueRequest_respond]
      exact replies_respond (.leaderboard _)
  | wordlist =>
      simp only [handleRequest, receive]
      rw [continueRequest_respond, continueRequest_respond]
      exact replies_respond (.wordlist _)
  | logout =>
      simp only [handleRequest, receive, receiveLogout]
      split
      · rw [continueRequest_respond, continueRequest_respond]
        exact replies_respond (.loggedOut _)
      · rename_i unnamed
        have nobody : user = .empty := by
          by_contra named
          exact unnamed (CharArray.strlen_pos_iff.mpr named)
        subst nobody
        rw [continueRequest_respond, continueRequest_respond]
        exact replies_respond (.loggedOut _)
  | unknown type =>
      simp only [handleRequest, receive]
      rw [continueRequest_respond, continueRequest_respond]
      exact replies_respond (.unknown type _)

/-- The body of the request is there if it has one. -/
def FullSize : Request → Prop
  | .register body => body ≠ none
  | .login body => body ≠ none
  | .scoreSubmit body => body ≠ none
  | _ => True

theorem receive_fullSize
    {handler : Handler} {request : Request} (fullSize : FullSize request) :
    (server.receive qsort socket handler request disk).alive =
      server.alive := by
  cases request with
  | register body =>
      simp only [receive, receiveRegister]
      split <;> rfl
  | login body =>
      cases body with
      | none => exact absurd rfl fullSize
      | some credentials =>
          simp only [receive, receiveLogin]
          split <;> rfl
  | scoreSubmit body =>
      cases body with
      | none => exact absurd rfl fullSize
      | some score =>
          simp only [receive, receiveScoreSubmit]
          split <;> rfl
  | leaderboard => rfl
  | wordlist => rfl
  | logout =>
      simp only [receive, receiveLogout]
      split <;> rfl
  | unknown type => rfl

/-- A full-size request never crashes the server. -/
theorem handleRequest_fullSize
    {handler : Handler} {request : Request} (fullSize : FullSize request) :
    (server.handleRequest qsort socket handler request disk).alive =
      server.alive := by
  rw [handleRequest, continueRequest_alive, continueRequest_alive]
  exact receive_fullSize fullSize

end Server

/-! ## Conversations -/

/-- What a client does with a connection, up to the end of one request. -/
inductive Visit where
  | connect (socket : Nat)
  | request (socket : Nat) (request : Request) (disk : DiskCalls)
  | disconnect (socket : Nat)
  deriving DecidableEq

def Visit.socket : Visit → Nat
  | .connect socket => socket
  | .request socket _ _ => socket
  | .disconnect socket => socket

/-- What was heard of a connection. -/
inductive Exchange where
  | connected (socket : Nat)
  | answered (socket : Nat) (request : Request) (response : Response)
  | disconnected (socket : Nat)
  deriving DecidableEq

structure Conversation where
  server : Server
  transcript : List Exchange

namespace Conversation

def start (users scores : DataFile) (wordlist : WordListResponse) :
    Conversation :=
  ⟨.start users scores wordlist, []⟩

/-- A whole request ends when its response is sent. -/
def answer (state : Conversation) (socket : Nat) (request : Request)
    (next : Server) : Option Conversation :=
  match next.handlers socket with
  | some ⟨user, .sendingHeader response, true⟩ =>
      some ⟨next.setHandler socket ⟨user, .receiving, true⟩,
        state.transcript ++ [.answered socket request response]⟩
  | _ => none

/-- One visit after another; a request that crashes the server is refused. -/
def visit (qsort : QSort) : Machine Conversation Visit :=
  fun state visit =>
    match visit, state.server.handlers visit.socket with
    | .connect socket, none =>
        some ⟨state.server.setHandler socket ⟨.empty, .receiving, true⟩,
          state.transcript ++ [.connected socket]⟩
    | .request socket request disk, some ⟨user, .receiving, true⟩ =>
        state.answer socket request (state.server.handleRequest qsort socket
          ⟨user, .receiving, true⟩ request disk)
    | .disconnect socket, some ⟨user, .receiving, true⟩ =>
        some ⟨state.server.cleanUp socket ⟨user, .leaving, true⟩,
          state.transcript ++ [.disconnected socket]⟩
    | _, _ => none

variable {qsort : QSort} {state next : Conversation} {visit : Visit}

/-- What a visit does, case by case. -/
inductive Visits (qsort : QSort) (state : Conversation) :
    Visit → Conversation → Prop where
  | connect (socket) (free : state.server.handlers socket = none) :
      Visits qsort state (.connect socket)
        ⟨state.server.setHandler socket ⟨.empty, .receiving, true⟩,
          state.transcript ++ [.connected socket]⟩
  | request (socket request disk)
      (live : state.server.handlers socket = some ⟨user, .receiving, true⟩)
      (replied : (state.server.handleRequest qsort socket
        ⟨user, .receiving, true⟩ request disk).handlers socket =
          some ⟨after, .sendingHeader response, true⟩) :
      Visits qsort state (.request socket request disk)
        ⟨(state.server.handleRequest qsort socket ⟨user, .receiving, true⟩
            request disk).setHandler socket ⟨after, .receiving, true⟩,
          state.transcript ++ [.answered socket request response]⟩
  | disconnect (socket)
      (live : state.server.handlers socket = some ⟨user, .receiving, true⟩) :
      Visits qsort state (.disconnect socket)
        ⟨state.server.cleanUp socket ⟨user, .leaving, true⟩,
          state.transcript ++ [.disconnected socket]⟩

theorem visits_of_visit
    (visited : Conversation.visit qsort state visit = some next) :
    Visits qsort state visit next := by
  unfold Conversation.visit at visited
  split at visited
  · rename_i socket free
    cases visited
    exact .connect socket free
  · rename_i socket request disk user live
    unfold answer at visited
    split at visited
    · rename_i after response replied
      cases visited
      exact .request socket request disk live replied
    · cases visited
  · rename_i socket user live
    cases visited
    exact .disconnect socket live
  · cases visited

private theorem run_sends
    {server : Server} {socket : Nat} {user : CharArray maxIdLen}
    {response : Response} (alive : server.alive = true)
    (replied : server.handlers socket =
      some ⟨user, .sendingHeader response, true⟩) :
    (Server.step qsort).run server
        [.sendHeader socket true, .sendBody socket true] =
      some (server.setHandler socket ⟨user, .receiving, true⟩) := by
  let halfway := server.setHandler socket ⟨user, .sendingBody response, true⟩
  have headerSent :
      Server.step qsort server (.sendHeader socket true) = some halfway :=
    Server.step_sendHeader alive replied
  have bodySent : Server.step qsort halfway (.sendBody socket true) =
      some (halfway.setHandler socket ⟨user, .receiving, true⟩) :=
    Server.step_sendBody alive Server.setHandler_self
  rw [Machine.run_cons_eq_some_iff]
  refine ⟨halfway, headerSent, ?_⟩
  rw [Machine.run_cons_eq_some_iff]
  refine ⟨_, bodySent, ?_⟩
  rw [Server.setHandler_setHandler, Machine.run_nil]

private theorem run_leaves
    {server : Server} {socket : Nat} {user : CharArray maxIdLen}
    (alive : server.alive = true)
    (live : server.handlers socket = some ⟨user, .receiving, true⟩) :
    (Server.step qsort).run server [.hangUp socket, .cleanUp socket] =
      some (server.cleanUp socket ⟨user, .leaving, true⟩) := by
  let left := server.setHandler socket ⟨user, .leaving, true⟩
  have hungUp : Server.step qsort server (.hangUp socket) = some left :=
    Server.step_iff.mpr ⟨alive, .hangUp socket live rfl⟩
  have cleaned : Server.step qsort left (.cleanUp socket) =
      some (left.cleanUp socket ⟨user, .leaving, true⟩) :=
    Server.step_iff.mpr ⟨alive, .cleanUp socket Server.setHandler_self rfl⟩
  rw [Machine.run_cons_eq_some_iff]
  refine ⟨left, hungUp, ?_⟩
  rw [Machine.run_cons_eq_some_iff]
  refine ⟨_, cleaned, ?_⟩
  simp [left, Server.cleanUp, Server.setHandler]

private theorem survives_of_replied
    {server : Server} {socket : Nat} {user after : CharArray maxIdLen}
    {request : Request} {disk : DiskCalls} {response : Response}
    (live : server.handlers socket = some ⟨user, .receiving, true⟩)
    (replied : (server.handleRequest qsort socket ⟨user, .receiving, true⟩
      request disk).handlers socket =
        some ⟨after, .sendingHeader response, true⟩) :
    (server.handleRequest qsort socket ⟨user, .receiving, true⟩ request
      disk).alive = server.alive := by
  rcases Server.handleRequest_alive qsort request disk live rfl with
    survives | crashes
  · exact survives
  · rw [crashes, Server.crash, live] at replied
    cases replied

theorem answers_of_replied
    {server : Server} {socket : Nat} {user after : CharArray maxIdLen}
    {request : Request} {disk : DiskCalls} {response : Response}
    (alive : server.alive = true)
    (live : server.handlers socket = some ⟨user, .receiving, true⟩)
    (replied : (server.handleRequest qsort socket ⟨user, .receiving, true⟩
      request disk).handlers socket =
        some ⟨after, .sendingHeader response, true⟩) :
    Answers user server.scores disk request response after
      (server.handleRequest qsort socket ⟨user, .receiving, true⟩ request
        disk).scores := by
  obtain ⟨response', after', replied', answers⟩ :=
    Server.handleRequest_replies request live
      ((survives_of_replied live replied).trans alive)
  rw [replied] at replied'
  cases replied'
  exact answers

theorem visit_run
    (alive : state.server.alive = true)
    (visited : Conversation.visit qsort state visit = some next) :
    next.server.alive = true ∧
      ∃ actions, (∀ action ∈ actions, action.socket = visit.socket) ∧
        (Server.step qsort).run state.server actions = some next.server := by
  cases visits_of_visit visited with
  | connect socket free =>
      refine ⟨alive, [.accept socket],
        by simp [Action.socket, Visit.socket], ?_⟩
      rw [Machine.run_cons_eq_some_iff]
      exact ⟨_, Server.step_iff.mpr ⟨alive, .accept socket free⟩, rfl⟩
  | @request user after response socket request disk live replied =>
      have survives : (state.server.handleRequest qsort socket
          ⟨user, .receiving, true⟩ request disk).alive = true :=
        (survives_of_replied live replied).trans alive
      obtain ⟨actions, own, ran⟩ :=
        Server.handleRequest_run qsort request disk alive live rfl
      refine ⟨survives,
        actions ++ [.sendHeader socket true, .sendBody socket true], ?_, ?_⟩
      · intro action member
        rcases List.mem_append.mp member with handled | sent
        · exact own action handled
        · simp only [List.mem_cons, List.not_mem_nil, or_false] at sent
          rcases sent with rfl | rfl
          · rfl
          · rfl
      · rw [Machine.run_append_eq_some_iff]
        exact ⟨_, ran, run_sends survives replied⟩
  | disconnect socket live =>
      refine ⟨alive, [.hangUp socket, .cleanUp socket],
        by simp [Action.socket, Visit.socket], run_leaves alive live⟩

theorem visit_other
    (alive : state.server.alive = true)
    (visited : Conversation.visit qsort state visit = some next)
    {other : Nat} (apart : other ≠ visit.socket) :
    next.server.handlers other = state.server.handlers other := by
  obtain ⟨_, actions, own, ran⟩ := visit_run alive visited
  exact Server.run_other own ran apart

/-- Every full-size request of a waiting handler is answered. -/
theorem visit_request_answered
    {socket : Nat} {user : CharArray maxIdLen} {request : Request}
    (disk : DiskCalls) (alive : state.server.alive = true)
    (live : state.server.handlers socket = some ⟨user, .receiving, true⟩)
    (fullSize : Server.FullSize request) :
    ∃ next response,
      Conversation.visit qsort state (.request socket request disk) =
          some next ∧
        next.transcript =
          state.transcript ++ [.answered socket request response] := by
  have survives : (state.server.handleRequest qsort socket
      ⟨user, .receiving, true⟩ request disk).alive = true :=
    (Server.handleRequest_fullSize fullSize).trans alive
  obtain ⟨response, after, replied, _⟩ :=
    Server.handleRequest_replies request live survives
  have visited : Conversation.visit qsort state
      (.request socket request disk) =
        some ⟨(state.server.handleRequest qsort socket
            ⟨user, .receiving, true⟩ request disk).setHandler socket
              ⟨after, .receiving, true⟩,
          state.transcript ++ [.answered socket request response]⟩ := by
    simp only [Conversation.visit, Visit.socket, live, answer, replied]
  exact ⟨_, response, visited, rfl⟩

end Conversation

end RainTyping
