import RainTyping.Network.MessageLayout
import RainTyping.Server.Conversation

/-!
# The request structs

`readRequest` reads a whole request struct out of the body of a message.  The
handler reads only the fields it comes to, which makes no difference where
the whole struct can be read.
-/

namespace RainTyping

/-- The fields of a `RegisterRequest`. -/
def readCredentials (body : List UInt8) : Except Fault (Option Credentials) :=
  if body = [] then .ok none
  else do
    let username ← readField body 0
    let password ← readField body maxIdLen
    return some ⟨username, password⟩

def readScore (body : List UInt8) : Except Fault (Option Int32) :=
  if body = [] then .ok none else (readInt body).map some

/-- The struct that `handle_client` casts the body of a message to. -/
def readRequest (type : Int32) (body : List UInt8) : Except Fault Request :=
  if type = msgTypeRegisterReq then (readCredentials body).map .register
  else if type = msgTypeLoginReq then (readCredentials body).map .login
  else if type = msgTypeScoreSubmitReq then (readScore body).map .scoreSubmit
  else if type = msgTypeLeaderboardReq then .ok .leaderboard
  else if type = msgTypeWordlistReq then .ok .wordlist
  else if type = msgTypeLogoutReq then .ok .logout
  else .ok (.unknown type)

/-! ## Whole structs and the fields that are read -/

variable {body : List UInt8}

/-- A struct is read when both of its strings are terminated. -/
theorem readCredentials_eq_ok_some_iff {credentials : Credentials} :
    readCredentials body = .ok (some credentials) ↔
      body ≠ [] ∧ 0 ∈ body ∧ 0 ∈ body.drop maxIdLen ∧
        credentials = ⟨fieldAt body 0, fieldAt body maxIdLen⟩ := by
  by_cases empty : body = []
  · simp [readCredentials, empty]
  by_cases named : 0 ∈ body
  swap
  · simp [readCredentials, empty, readField, named, bind, Except.bind]
  by_cases closed : 0 ∈ body.drop maxIdLen
  · simp [readCredentials, empty, readField, named, closed, bind, Except.bind,
      pure, Except.pure, eq_comm]
  · simp [readCredentials, empty, readField, named, closed, bind, Except.bind]

namespace Server

variable {qsort : QSort} {server : Server} {socket : Nat} {handler : Handler}
  {disk : DiskCalls}

/-- The password of a registration without a name is not looked at. -/
private theorem handleRequest_register_unnamed
    {username : CString} (unnamed : username.strlen = 0)
    (password : CString) :
    server.handleRequest qsort socket handler
        (.register (some ⟨username, .empty⟩)) disk =
      server.handleRequest qsort socket handler
        (.register (some ⟨username, password⟩)) disk := by
  simp only [handleRequest, receive, receiveRegister, Option.map_some,
    registerUserSearch, unnamed, true_or, if_true]

private theorem handleMessage_register
    {credentials : Credentials} (fits : body.length ≤ maxBodyLen)
    (read : readCredentials body = .ok (some credentials)) :
    server.handleMessage qsort socket handler
        ⟨msgTypeRegisterReq, body, fits⟩ disk =
      .ok (server.handleRequest qsort socket handler
        (.register (some credentials)) disk) := by
  obtain ⟨there, named, closed, rfl⟩ := readCredentials_eq_ok_some_iff.mp read
  by_cases unnamed : (fieldAt body 0).strlen = 0
  · rw [← handleRequest_register_unnamed unnamed]
    simp [handleMessage, decode, decodeRegister, there, readField, named,
      unnamed, Except.map, bind, Except.bind, pure, Except.pure]
  · simp [handleMessage, decode, decodeRegister, there, readField, named,
      unnamed, closed, Except.map, bind, Except.bind, pure, Except.pure]

/-- The password of a login for an active name is not looked at. -/
private theorem handleRequest_login_active_eq
    {username : CString}
    (active : isUserAlreadyLoggedIn server.loggedInUsers username ≠ none)
    (password : CString) :
    server.handleRequest qsort socket handler
        (.login (some ⟨username, .empty⟩)) disk =
      server.handleRequest qsort socket handler
        (.login (some ⟨username, password⟩)) disk := by
  simp only [handleRequest, receive, receiveLogin, active, ↓reduceIte]

/-- A rejected login leaves its handler with nobody logged in. -/
private theorem handleRequest_login_rejected_eq
    {credentials : Credentials}
    (absent : isUserAlreadyLoggedIn server.loggedInUsers credentials.username =
      none)
    (rejected : (server.loginOutcome disk.reads
      credentials).response.success = false) :
    server.handleRequest qsort socket handler (.login credentials) disk =
      server.setHandler socket
        ⟨.empty, .sendingHeader
          (.login (server.loginOutcome disk.reads credentials).response),
          handler.peerOpen⟩ := by
  have checked : server.receiveLogin socket handler (some credentials) =
      server.setHandler socket
        { handler with stage := .loginChecked credentials } := by
    rw [receiveLogin, if_pos absent]
  have refused : ¬((server.setHandler socket
      { handler with stage := .loginChecked credentials }).loginOutcome
        disk.reads credentials).response.success = true := by
    rw [Bool.not_eq_true]
    exact rejected
  simp only [handleRequest, receive, checked]
  rw [continueRequest_checked _ _ _ setHandler_self, verifyPassword,
    if_neg refused, continueRequest_respond, respond, setHandler_setHandler]
  rfl

/-- Nor is that of a login for a user who is not found. -/
private theorem handleRequest_login_unfound
    {username : CString}
    (unfound : ∀ user,
      findUserInFile disk.reads server.users username ≠ .found user)
    (password : CString) :
    server.handleRequest qsort socket handler
        (.login (some ⟨username, .empty⟩)) disk =
      server.handleRequest qsort socket handler
        (.login (some ⟨username, password⟩)) disk := by
  by_cases absent : isUserAlreadyLoggedIn server.loggedInUsers username = none
  swap
  · exact handleRequest_login_active_eq absent password
  have rejected (secret : CString) : (server.loginOutcome disk.reads
      (some ⟨username, secret⟩)).response.success = false := by
    rw [← Bool.not_eq_true]
    intro accepted
    obtain ⟨user, found, _⟩ := loginUserImpl_success_iff.mp accepted
    exact unfound user found
  have same : server.loginOutcome disk.reads (some ⟨username, .empty⟩) =
      server.loginOutcome disk.reads (some ⟨username, password⟩) := by
    simp only [loginOutcome, Option.map_some, loginUserImpl]
    cases searched : findUserInFile disk.reads server.users username with
    | found user => exact absurd searched (unfound user)
    | absent => rfl
    | error => rfl
  rw [handleRequest_login_rejected_eq absent (rejected .empty),
    handleRequest_login_rejected_eq absent (rejected password), same]

private theorem handleMessage_login
    {credentials : Credentials} (fits : body.length ≤ maxBodyLen)
    (read : readCredentials body = .ok (some credentials)) :
    server.handleMessage qsort socket handler
        ⟨msgTypeLoginReq, body, fits⟩ disk =
      .ok (server.handleRequest qsort socket handler
        (.login (some credentials)) disk) := by
  obtain ⟨there, named, closed, rfl⟩ := readCredentials_eq_ok_some_iff.mp read
  have otherType : msgTypeLoginReq ≠ msgTypeRegisterReq := by
    decide
  by_cases absent : isUserAlreadyLoggedIn server.loggedInUsers
      (fieldAt body 0) = none
  swap
  · rw [← handleRequest_login_active_eq absent]
    simp [handleMessage, decode, otherType, decodeLogin, there, readField,
      named, absent, Except.map, bind, Except.bind, pure, Except.pure]
  cases searched : findUserInFile disk.reads server.users
      (fieldAt body 0) with
  | found user =>
      simp [handleMessage, decode, otherType, decodeLogin, there, readField,
        named, absent, searched, closed, Except.map, bind, Except.bind, pure,
        Except.pure]
  | absent =>
      have unfound : ∀ user, findUserInFile disk.reads server.users
          (fieldAt body 0) ≠ .found user := by
        simp [searched]
      rw [← handleRequest_login_unfound unfound]
      simp [handleMessage, decode, otherType, decodeLogin, there, readField,
        named, absent, searched, Except.map, bind, Except.bind, pure,
        Except.pure]
  | error =>
      have unfound : ∀ user, findUserInFile disk.reads server.users
          (fieldAt body 0) ≠ .found user := by
        simp [searched]
      rw [← handleRequest_login_unfound unfound]
      simp [handleMessage, decode, otherType, decodeLogin, there, readField,
        named, absent, searched, Except.map, bind, Except.bind, pure,
        Except.pure]

private theorem handleMessage_scoreSubmit
    {score : Int32} (fits : body.length ≤ maxBodyLen)
    (read : readScore body = .ok (some score)) :
    server.handleMessage qsort socket handler
        ⟨msgTypeScoreSubmitReq, body, fits⟩ disk =
      .ok (server.handleRequest qsort socket handler
        (.scoreSubmit (some score)) disk) := by
  have otherType : msgTypeScoreSubmitReq ≠ msgTypeRegisterReq ∧
      msgTypeScoreSubmitReq ≠ msgTypeLoginReq := by
    decide
  by_cases unnamed : handler.currentUser.strlen = 0
  · simp [handleMessage, decode, otherType, decodeScoreSubmit, unnamed,
      handleRequest, receive, receiveScoreSubmit, Except.map]
  · rw [readScore] at read
    split at read
    · cases read
    · simp only [handleMessage, decode, otherType, decodeScoreSubmit, unnamed,
        read, ↓reduceIte]
      rfl

/-- A handler that reads the fields it comes to handles a request struct as
one that reads the whole struct. -/
theorem handleMessage_of_readRequest
    {type : Int32} {request : Request} (fits : body.length ≤ maxBodyLen)
    (read : readRequest type body = .ok request) (full : FullSize request) :
    server.handleMessage qsort socket handler ⟨type, body, fits⟩ disk =
      .ok (server.handleRequest qsort socket handler request disk) := by
  by_cases isRegister : type = msgTypeRegisterReq
  · subst isRegister
    cases fields : readCredentials body with
    | error fault =>
        rw [readRequest, if_pos rfl, fields] at read
        cases read
    | ok credentials =>
        rw [readRequest, if_pos rfl, fields] at read
        cases read
        obtain ⟨credentials, rfl⟩ := Option.ne_none_iff_exists'.mp full
        exact handleMessage_register fits fields
  by_cases isLogin : type = msgTypeLoginReq
  · subst isLogin
    cases fields : readCredentials body with
    | error fault =>
        rw [readRequest, if_neg isRegister, if_pos rfl, fields] at read
        cases read
    | ok credentials =>
        rw [readRequest, if_neg isRegister, if_pos rfl, fields] at read
        cases read
        obtain ⟨credentials, rfl⟩ := Option.ne_none_iff_exists'.mp full
        exact handleMessage_login fits fields
  by_cases isScore : type = msgTypeScoreSubmitReq
  · subst isScore
    cases fields : readScore body with
    | error fault =>
        rw [readRequest, if_neg isRegister, if_neg isLogin, if_pos rfl,
          fields] at read
        cases read
    | ok score =>
        rw [readRequest, if_neg isRegister, if_neg isLogin, if_pos rfl,
          fields] at read
        cases read
        obtain ⟨score, rfl⟩ := Option.ne_none_iff_exists'.mp full
        exact handleMessage_scoreSubmit fits fields
  · simp only [readRequest, isRegister, isLogin, isScore, ↓reduceIte] at read
    simp only [handleMessage, decode, isRegister, isLogin, isScore,
      ↓reduceIte, read]
    rfl

end Server

end RainTyping
