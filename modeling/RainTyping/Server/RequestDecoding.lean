import RainTyping.Server.WholeRequest

/-!
# Reading a request out of its body

The peer chooses the type and the length of a message independently, and
`handle_client` casts the body to the struct of the type without comparing the
two.  `decode` makes the reads of the handler and its callees in their order
and stops at one that leaves the received bytes: a string field is read up to
its terminator, wherever that is.
-/

namespace RainTyping

abbrev maxBodyLen : Nat := 10240

abbrev msgTypeRegisterReq : Int32 := 0x01
abbrev msgTypeLoginReq : Int32 := 0x03
abbrev msgTypeScoreSubmitReq : Int32 := 0x05
abbrev msgTypeLeaderboardReq : Int32 := 0x07
abbrev msgTypeLogoutReq : Int32 := 0x09
abbrev msgTypeWordlistReq : Int32 := 0x20

/-- `sizeof(RegisterRequest)`, which is also that of a login request. -/
abbrev sizeofRegisterRequest : Nat := maxIdLen + maxPwLen

abbrev sizeofScoreSubmitRequest : Nat := 4

/-- A message that passes the check of its header.  Without bytes in its body
`message_body` is a null pointer. -/
structure RawMessage where
  type : Int32
  body : List UInt8
  fits : body.length ≤ maxBodyLen
  deriving DecidableEq

/-- A read outside the received bytes. -/
inductive Fault where
  | nullPointer
  | outOfBounds
  deriving DecidableEq

/-- The string field at an offset of the body. -/
def fieldAt (body : List UInt8) (offset : Nat) : CString :=
  .ofBuffer (body.drop offset)

/-- Read a string field up to its terminator. -/
def readField (body : List UInt8) (offset : Nat) : Except Fault CString :=
  if 0 ∈ body.drop offset then .ok (fieldAt body offset)
  else .error .outOfBounds

/-- Read an `int` at the start of the body, in little-endian order. -/
def readInt : List UInt8 → Except Fault Int32
  | [] => .error .nullPointer
  | first :: second :: third :: fourth :: _ =>
      .ok (Int32.ofNat (first.toNat + 256 * (second.toNat +
        256 * (third.toNat + 256 * fourth.toNat))))
  | _ => .error .outOfBounds

/-- The reads of `register_user_impl`: the password is not looked at behind an
empty name. -/
def decodeRegister (body : List UInt8) :
    Except Fault (Option Credentials) :=
  if body = [] then .ok none
  else do
    let username ← readField body 0
    if username.strlen = 0 then return some ⟨username, .empty⟩
    else
      let password ← readField body maxIdLen
      return some ⟨username, password⟩

namespace Server

/-- The reads of a LOGIN request.  The scan of the table compares the name with
every active entry; `login_user_impl` puts it into every message, and compares
the password once the user is found. -/
def decodeLogin (server : Server) (reads : ReadCalls) (body : List UInt8) :
    Except Fault (Option Credentials) :=
  if body = [] then
    if server.loggedInUsers.entries.any LoggedInUser.isActive then
      .error .nullPointer
    else .ok none
  else do
    let username ← readField body 0
    if isUserAlreadyLoggedIn server.loggedInUsers username = none then
      match findUserInFile reads server.users username with
      | .found _ =>
          let password ← readField body maxIdLen
          return some ⟨username, password⟩
      | _ => return some ⟨username, .empty⟩
    else return some ⟨username, .empty⟩

/-- The score is read when somebody is logged in. -/
def decodeScoreSubmit (handler : Handler) (body : List UInt8) :
    Except Fault (Option Int32) :=
  if handler.currentUser.strlen = 0 then .ok none
  else (readInt body).map some

/-- The request with the fields that are read; the others are left empty. -/
def decode (server : Server) (handler : Handler) (reads : ReadCalls)
    (message : RawMessage) : Except Fault Request :=
  if message.type = msgTypeRegisterReq then
    (decodeRegister message.body).map .register
  else if message.type = msgTypeLoginReq then
    (server.decodeLogin reads message.body).map .login
  else if message.type = msgTypeScoreSubmitReq then
    (decodeScoreSubmit handler message.body).map .scoreSubmit
  else if message.type = msgTypeLeaderboardReq then .ok .leaderboard
  else if message.type = msgTypeWordlistReq then .ok .wordlist
  else if message.type = msgTypeLogoutReq then .ok .logout
  else .ok (.unknown message.type)

/-- Handle a received message to its response. -/
def handleMessage (qsort : QSort) (server : Server) (socket : Nat)
    (handler : Handler) (message : RawMessage) (disk : DiskCalls) :
    Except Fault Server :=
  (server.decode handler disk.reads message).map fun request =>
    server.handleRequest qsort socket handler request disk

end Server

/-- A credential or score request with a body shorter than its struct. -/
def RawMessage.Short (message : RawMessage) : Prop :=
  (message.type = msgTypeRegisterReq ∨ message.type = msgTypeLoginReq) ∧
      message.body.length < sizeofRegisterRequest ∨
    message.type = msgTypeScoreSubmitReq ∧
      message.body.length < sizeofScoreSubmitRequest

/-- The response tells that the request has failed. -/
def Response.Refuses : Response → Prop
  | .register status => status.success = false
  | .login status => status.success = false
  | .scoreSubmit status => status.success = false
  | _ => False

namespace Server

/-- The response tells a failure; the table and the files are as they were. -/
def RefusedBy (server next : Server) (socket : Nat) : Prop :=
  ∃ response : Response, response.Refuses ∧
    next.Answered socket response server.users server.scores
      server.loggedInUsers

/-- All reads stay inside the body, and a short request is refused without
effect. -/
structure DecodesInside (qsort : QSort) (server : Server) (socket : Nat)
    (handler : Handler) (message : RawMessage) (disk : DiskCalls) : Prop where
  inside : ∃ next,
    server.handleMessage qsort socket handler message disk = .ok next
  shortRefused : message.Short → ∀ next,
    server.handleMessage qsort socket handler message disk = .ok next →
      server.RefusedBy next socket

/-- A REGISTER body is empty, or its name is terminated and empty, or both
fields are terminated; and when a short one names a new user with a password,
the disk leaves the users file as it is. -/
def RegisterFits (server : Server) (disk : DiskCalls) (body : List UInt8) :
    Prop :=
  body = [] ∨
    0 ∈ body ∧
      ((fieldAt body 0).strlen = 0 ∨
        0 ∈ body.drop maxIdLen ∧
          (body.length < sizeofRegisterRequest →
            (fieldAt body 0).strlen < maxIdLen →
              (fieldAt body maxIdLen).strlen ≠ 0 →
                findUserInFile disk.reads server.users (fieldAt body 0) =
                  .absent →
                  disk.writes.LeaveFile server.users))

/-- A LOGIN body is empty while nobody is logged in, or its name is
terminated, and so is its password when the user is found; and the password of
a short one is wrong, unless the table is full. -/
def LoginFits (server : Server) (disk : DiskCalls) (body : List UInt8) :
    Prop :=
  if body = [] then
    ∀ entry ∈ server.loggedInUsers.entries, entry.isActive = false
  else
    0 ∈ body ∧
      (isUserAlreadyLoggedIn server.loggedInUsers (fieldAt body 0) = none →
        ∀ user, findUserInFile disk.reads server.users (fieldAt body 0) =
            .found user →
          0 ∈ body.drop maxIdLen ∧
            (body.length < sizeofRegisterRequest →
              user.password.bytes = (fieldAt body maxIdLen).bytes →
                ∀ entry ∈ server.loggedInUsers.entries,
                  entry.isActive = true))

/-- A SCORE_SUBMIT body holds an `int`, or nobody is logged in. -/
def ScoreFits (handler : Handler) (body : List UInt8) : Prop :=
  handler.currentUser = .empty ∨ sizeofScoreSubmitRequest ≤ body.length

/-- The length of a message fits its type. -/
def MessageFits (server : Server) (handler : Handler) (disk : DiskCalls)
    (message : RawMessage) : Prop :=
  (message.type = msgTypeRegisterReq →
      server.RegisterFits disk message.body) ∧
    (message.type = msgTypeLoginReq → server.LoginFits disk message.body) ∧
      (message.type = msgTypeScoreSubmitReq →
        ScoreFits handler message.body)

variable {qsort : QSort} {server : Server} {socket : Nat} {handler : Handler}
  {disk : DiskCalls} {message : RawMessage} {body : List UInt8}

/-! ## Decided reads -/

private theorem not_decodesInside
    {fault : Fault}
    (decoded : server.decode handler disk.reads message = .error fault) :
    ¬server.DecodesInside qsort socket handler message disk := by
  rintro ⟨⟨next, handled⟩, _⟩
  rw [handleMessage, decoded] at handled
  cases handled

private theorem decodesInside_iff
    {request : Request}
    (decoded : server.decode handler disk.reads message = .ok request) :
    server.DecodesInside qsort socket handler message disk ↔
      (message.Short → server.RefusedBy
        (server.handleRequest qsort socket handler request disk) socket) := by
  have handled : server.handleMessage qsort socket handler message disk =
      .ok (server.handleRequest qsort socket handler request disk) := by
    rw [handleMessage, decoded]
    rfl
  constructor
  · intro decodes short
    exact decodes.shortRefused short _ handled
  · intro refused
    refine ⟨⟨_, handled⟩, ?_⟩
    intro short next same
    rw [handled] at same
    cases same
    exact refused short

/-- A request is refused when its one response and its data say so. -/
private theorem refusedBy_iff
    {next : Server} {response : Response} {users scores : DataFile}
    {table : LoggedInUsers}
    (answered : next.Answered socket response users scores table) :
    server.RefusedBy next socket ↔
      response.Refuses ∧ users = server.users ∧ scores = server.scores ∧
        table = server.loggedInUsers := by
  constructor
  · rintro ⟨other, refuses, same⟩
    have sameResponse := answered.response.symm.trans same.response
    cases sameResponse
    exact ⟨refuses, answered.users.symm.trans same.users,
      answered.scores.symm.trans same.scores,
      answered.table.symm.trans same.table⟩
  · rintro ⟨refuses, rfl, rfl, rfl⟩
    exact ⟨response, refuses, answered⟩

private theorem readField_closed
    {offset : Nat} (closed : 0 ∈ body.drop offset) :
    readField body offset = .ok (fieldAt body offset) :=
  if_pos closed

private theorem readField_open
    {offset : Nat} (unclosed : 0 ∉ body.drop offset) :
    readField body offset = .error .outOfBounds :=
  if_neg unclosed

private theorem readName_closed (terminated : 0 ∈ body) :
    readField body 0 = .ok (fieldAt body 0) :=
  readField_closed terminated

private theorem readName_open (unclosed : 0 ∉ body) :
    readField body 0 = .error .outOfBounds :=
  readField_open unclosed

/-! ## Registration -/

private theorem strlen_password_lt
    (short : body.length < sizeofRegisterRequest) :
    (fieldAt body maxIdLen).strlen < maxPwLen := by
  have inside : (fieldAt body maxIdLen).strlen ≤
      (body.drop maxIdLen).length :=
    (List.takeWhile_sublist _).length_le
  simp only [List.length_drop, sizeofRegisterRequest, maxIdLen,
    maxPwLen] at inside short ⊢
  omega

private theorem register_stopped_refusedBy
    {credentials : Option Credentials} {reason : Message}
    (stopped : registerUserSearch disk.reads server.users
      (credentials.map Credentials.username)
      (credentials.map Credentials.password) = .refused reason) :
    server.RefusedBy (server.handleRequest qsort socket handler
      (.register credentials) disk) socket := by
  apply (refusedBy_iff (handleRequest_register qsort server socket handler
    disk credentials)).mpr
  rw [registerUserImpl, stopped]
  exact ⟨rfl, rfl, rfl, rfl⟩

/-- A registration is without effect when the search stops it or the disk
leaves the file. -/
private theorem register_refusedBy_iff
    {username password : CString} (named : username.strlen ≠ 0)
    (short : password.strlen < maxPwLen) :
    server.RefusedBy (server.handleRequest qsort socket handler
        (.register (some ⟨username, password⟩)) disk) socket ↔
      (username.strlen < maxIdLen → password.strlen ≠ 0 →
        findUserInFile disk.reads server.users username = .absent →
          disk.writes.LeaveFile server.users) := by
  cases searched : registerUserSearch disk.reads server.users (some username)
      (some password) with
  | refused reason =>
      refine iff_of_true (register_stopped_refusedBy searched) ?_
      intro nameShort secret absent
      have continues : registerUserSearch disk.reads server.users
          (some username) (some password) = .absent
            ⟨.store maxIdLen username.bytes,
              .store maxPwLen password.bytes⟩ :=
        registerUserSearch_absent_iff.mpr
          ⟨⟨named, secret⟩, absent, CharArray.store_of_fits nameShort,
            CharArray.store_of_fits short⟩
      rw [searched] at continues
      cases continues
  | absent newUser =>
      obtain ⟨⟨_, secret⟩, absent, sameName, _⟩ :=
        registerUserSearch_absent_iff.mp searched
      have nameShort : username.strlen < maxIdLen := by
        rw [CString.strlen, ← sameName]
        exact newUser.username.fits
      have success := registerUserAppend_success disk.writes server.users
        newUser
      have users := registerUserAppend_users disk.writes server.users newUser
      have written : userLine newUser ≠ [] := by
        simp [userLine]
      rw [refusedBy_iff (handleRequest_register qsort server socket handler
        disk (some ⟨username, password⟩)), registerUserImpl, Option.map_some,
        Option.map_some, searched, ← appendLine_unchanged_iff written,
        Prod.ext_iff]
      simp [Response.Refuses, success, users, nameShort, secret, absent]

private theorem decode_register
    (isRegister : message.type = msgTypeRegisterReq) :
    server.decode handler disk.reads message =
      (decodeRegister message.body).map .register := by
  rw [decode, if_pos isRegister]

private theorem decodeRegister_named
    (nonempty : body ≠ []) (terminated : 0 ∈ body)
    (named : (fieldAt body 0).strlen ≠ 0) :
    decodeRegister body =
      (readField body maxIdLen).map fun password =>
        some ⟨fieldAt body 0, password⟩ := by
  rw [decodeRegister, if_neg nonempty, readName_closed terminated]
  simp only [bind, Except.bind, if_neg named]
  cases readField body maxIdLen <;> rfl

private theorem decodesInside_register
    (isRegister : message.type = msgTypeRegisterReq) :
    server.DecodesInside qsort socket handler message disk ↔
      server.RegisterFits disk message.body := by
  have otherType : msgTypeRegisterReq ≠ msgTypeScoreSubmitReq := by
    decide
  have short : message.Short ↔
      message.body.length < sizeofRegisterRequest := by
    simp [RawMessage.Short, isRegister, otherType]
  by_cases empty : message.body = []
  · have decoded : server.decode handler disk.reads message =
        .ok (.register none) := by
      rw [decode_register isRegister, decodeRegister, if_pos empty]
      rfl
    refine iff_of_true ((decodesInside_iff decoded).mpr ?_) (.inl empty)
    intro _
    exact register_stopped_refusedBy rfl
  by_cases terminated : 0 ∈ message.body
  swap
  · have decoded : server.decode handler disk.reads message =
        .error .outOfBounds := by
      rw [decode_register isRegister, decodeRegister, if_neg empty,
        readName_open terminated]
      rfl
    exact iff_of_false (not_decodesInside decoded)
      (by simp [RegisterFits, empty, terminated])
  by_cases unnamed : (fieldAt message.body 0).strlen = 0
  · have decoded : server.decode handler disk.reads message =
        .ok (.register (some ⟨fieldAt message.body 0, .empty⟩)) := by
      rw [decode_register isRegister, decodeRegister, if_neg empty,
        readName_closed terminated]
      simp only [bind, Except.bind, if_pos unnamed]
      rfl
    refine iff_of_true ((decodesInside_iff decoded).mpr ?_)
      (.inr ⟨terminated, .inl unnamed⟩)
    intro _
    apply register_stopped_refusedBy
    simp only [Option.map_some, registerUserSearch, unnamed, true_or, if_true]
    rfl
  have decodes := decodeRegister_named empty terminated unnamed
  by_cases closed : 0 ∈ message.body.drop maxIdLen
  swap
  · have decoded : server.decode handler disk.reads message =
        .error .outOfBounds := by
      rw [decode_register isRegister, decodes, readField_open closed]
      rfl
    exact iff_of_false (not_decodesInside decoded)
      (by simp [RegisterFits, empty, unnamed, closed])
  · have decoded : server.decode handler disk.reads message =
        .ok (.register (some
          ⟨fieldAt message.body 0, fieldAt message.body maxIdLen⟩)) := by
      rw [decode_register isRegister, decodes, readField_closed closed]
      rfl
    rw [decodesInside_iff decoded, short]
    simp only [RegisterFits, empty, terminated, unnamed, closed, true_and,
      false_or]
    apply forall_congr'
    intro isShort
    exact register_refusedBy_iff unnamed (strlen_password_lt isShort)

/-! ## Login -/

private theorem login_rejected_refusedBy
    {request : Option Credentials}
    (checked : server.receiveLogin socket handler request =
      server.setHandler socket { handler with stage := .loginChecked request })
    (rejected : (server.loginOutcome disk.reads request).response.success =
      false) :
    server.RefusedBy (server.handleRequest qsort socket handler
      (.login request) disk) socket :=
  (refusedBy_iff (handleRequest_login_rejected qsort server socket handler
    disk request checked rejected)).mpr ⟨rejected, rfl, rfl, rfl⟩

/-- A login with a found user is without effect when the password is wrong or
the table is full. -/
private theorem login_found_refusedBy_iff
    (credentials : Credentials) {user : UserData}
    (absent : isUserAlreadyLoggedIn server.loggedInUsers credentials.username =
      none)
    (found : findUserInFile disk.reads server.users credentials.username =
      .found user) :
    server.RefusedBy (server.handleRequest qsort socket handler
        (.login credentials) disk) socket ↔
      (user.password.bytes = credentials.password.bytes →
        ∀ entry ∈ server.loggedInUsers.entries, entry.isActive = true) := by
  have checked : server.receiveLogin socket handler (some credentials) =
      server.setHandler socket
        { handler with stage := .loginChecked credentials } := by
    rw [receiveLogin, if_pos absent]
  have success : (server.loginOutcome disk.reads credentials).response.success =
      true ↔ user.password.bytes = credentials.password.bytes :=
    loginUserImpl_success_iff.trans (by simp [found])
  by_cases same : user.password.bytes = credentials.password.bytes
  · obtain ⟨status, added, answered⟩ := handleRequest_login_accepted qsort
      server socket handler disk credentials checked (success.mpr same)
    rw [refusedBy_iff answered]
    constructor
    · rintro ⟨refuses, _⟩ _
      exact addLoggedInUser_fails_iff.mp (added.symm.trans refuses)
    · intro full
      have fails : (addLoggedInUser server.loggedInUsers
          (server.loginOutcome disk.reads credentials).loggedInUser
            socket).1 = false :=
        addLoggedInUser_fails_iff.mpr (full same)
      exact ⟨added.trans fails, rfl, rfl, addLoggedInUser_of_failure fails⟩
  · have rejected : (server.loginOutcome disk.reads
        credentials).response.success = false := by
      rw [← Bool.not_eq_true]
      exact fun accepted => same (success.mp accepted)
    exact iff_of_true (login_rejected_refusedBy checked rejected)
      fun equal => absurd equal same

private theorem decode_login (isLogin : message.type = msgTypeLoginReq) :
    server.decode handler disk.reads message =
      (server.decodeLogin disk.reads message.body).map .login := by
  have otherType : msgTypeLoginReq ≠ msgTypeRegisterReq := by
    decide
  rw [decode, isLogin, if_neg otherType, if_pos rfl]

private theorem decodeLogin_found
    {user : UserData} (nonempty : body ≠ []) (terminated : 0 ∈ body)
    (absent : isUserAlreadyLoggedIn server.loggedInUsers (fieldAt body 0) =
      none)
    (found : findUserInFile disk.reads server.users (fieldAt body 0) =
      .found user) :
    server.decodeLogin disk.reads body =
      (readField body maxIdLen).map fun password =>
        some ⟨fieldAt body 0, password⟩ := by
  rw [decodeLogin, if_neg nonempty, readName_closed terminated]
  simp only [bind, Except.bind, if_pos absent, found]
  cases readField body maxIdLen <;> rfl

/-- The name of a LOGIN body has no user to compare a password with. -/
private def Unmatched (server : Server) (disk : DiskCalls)
    (username : CString) : Prop :=
  isUserAlreadyLoggedIn server.loggedInUsers username = none →
    ∀ user, findUserInFile disk.reads server.users username ≠ .found user

private theorem decodeLogin_unmatched
    (nonempty : body ≠ []) (terminated : 0 ∈ body)
    (unmatched : server.Unmatched disk (fieldAt body 0)) :
    server.decodeLogin disk.reads body =
      .ok (some ⟨fieldAt body 0, .empty⟩) := by
  rw [decodeLogin, if_neg nonempty, readName_closed terminated]
  simp only [bind, Except.bind]
  by_cases absent : isUserAlreadyLoggedIn server.loggedInUsers
      (fieldAt body 0) = none
  · rw [if_pos absent]
    cases searched : findUserInFile disk.reads server.users
        (fieldAt body 0) with
    | found user => exact absurd searched (unmatched absent user)
    | _ => rfl
  · rw [if_neg absent]
    rfl

private theorem login_unmatched_refusedBy
    {username : CString} (unmatched : server.Unmatched disk username) :
    server.RefusedBy (server.handleRequest qsort socket handler
      (.login (some ⟨username, .empty⟩)) disk) socket := by
  by_cases absent :
      isUserAlreadyLoggedIn server.loggedInUsers username = none
  · have rejected : (server.loginOutcome disk.reads
        (some ⟨username, .empty⟩)).response.success = false := by
      rw [← Bool.not_eq_true]
      intro accepted
      obtain ⟨user, known, _⟩ := loginUserImpl_success_iff.mp accepted
      exact unmatched absent user known
    exact login_rejected_refusedBy (by rw [receiveLogin, if_pos absent])
      rejected
  · have answered := handleRequest_login_active qsort server socket handler
      disk ⟨username, .empty⟩ absent
    exact (refusedBy_iff answered).mpr ⟨rfl, rfl, rfl, rfl⟩

private theorem decodesInside_login_empty
    (isLogin : message.type = msgTypeLoginReq) (empty : message.body = []) :
    server.DecodesInside qsort socket handler message disk ↔
      ∀ entry ∈ server.loggedInUsers.entries, entry.isActive = false := by
  by_cases active : server.loggedInUsers.entries.any LoggedInUser.isActive
  · have decoded : server.decode handler disk.reads message =
        .error .nullPointer := by
      rw [decode_login isLogin, decodeLogin, if_pos empty, if_pos active]
      rfl
    exact iff_of_false (not_decodesInside decoded) (by simpa using active)
  · have decoded : server.decode handler disk.reads message =
        .ok (.login none) := by
      rw [decode_login isLogin, decodeLogin, if_pos empty, if_neg active]
      rfl
    refine iff_of_true ((decodesInside_iff decoded).mpr ?_)
      (by simpa using active)
    intro _
    exact login_rejected_refusedBy (by rw [receiveLogin, if_neg active]) rfl

private theorem decodesInside_login
    (isLogin : message.type = msgTypeLoginReq) :
    server.DecodesInside qsort socket handler message disk ↔
      server.LoginFits disk message.body := by
  have otherType : msgTypeLoginReq ≠ msgTypeScoreSubmitReq := by
    decide
  have short : message.Short ↔
      message.body.length < sizeofRegisterRequest := by
    simp [RawMessage.Short, isLogin, otherType]
  by_cases empty : message.body = []
  · rw [decodesInside_login_empty isLogin empty, LoginFits, if_pos empty]
  rw [LoginFits, if_neg empty]
  by_cases terminated : 0 ∈ message.body
  swap
  · have decoded : server.decode handler disk.reads message =
        .error .outOfBounds := by
      rw [decode_login isLogin, decodeLogin, if_neg empty,
        readName_open terminated]
      rfl
    exact iff_of_false (not_decodesInside decoded)
      fun fits => terminated fits.1
  by_cases unmatched : server.Unmatched disk (fieldAt message.body 0)
  · have decoded : server.decode handler disk.reads message =
        .ok (.login (some ⟨fieldAt message.body 0, .empty⟩)) := by
      rw [decode_login isLogin,
        decodeLogin_unmatched empty terminated unmatched]
      rfl
    refine iff_of_true ((decodesInside_iff decoded).mpr ?_)
      ⟨terminated, ?_⟩
    · intro _
      exact login_unmatched_refusedBy unmatched
    · intro absent user found
      exact absurd found (unmatched absent user)
  obtain ⟨absent, user, found⟩ : _ ∧ ∃ user, _ = _ := by
    simpa [Unmatched] using unmatched
  have decodes := decodeLogin_found empty terminated absent found
  by_cases closed : 0 ∈ message.body.drop maxIdLen
  · have decoded : server.decode handler disk.reads message =
        .ok (.login (some
          ⟨fieldAt message.body 0, fieldAt message.body maxIdLen⟩)) := by
      rw [decode_login isLogin, decodes, readField_closed closed]
      rfl
    rw [decodesInside_iff decoded, short, login_found_refusedBy_iff
      ⟨fieldAt message.body 0, fieldAt message.body maxIdLen⟩ absent found]
    simp [terminated, absent, found, closed]
  · have decoded : server.decode handler disk.reads message =
        .error .outOfBounds := by
      rw [decode_login isLogin, decodes, readField_open closed]
      rfl
    exact iff_of_false (not_decodesInside decoded)
      (by simp [absent, found, closed])

/-! ## Scores and the other types -/

private theorem readInt_short (short : body.length < sizeofScoreSubmitRequest) :
    ∃ fault, readInt body = .error fault := by
  match body, short with
  | [], _ => exact ⟨_, rfl⟩
  | [_], _ => exact ⟨_, rfl⟩
  | [_, _], _ => exact ⟨_, rfl⟩
  | [_, _, _], _ => exact ⟨_, rfl⟩
  | _ :: _ :: _ :: _ :: rest, short =>
      simp only [List.length_cons, sizeofScoreSubmitRequest] at short
      omega

private theorem readInt_whole
    (whole : sizeofScoreSubmitRequest ≤ body.length) :
    ∃ score, readInt body = .ok score := by
  match body, whole with
  | _ :: _ :: _ :: _ :: _, _ => exact ⟨_, rfl⟩

private theorem decodesInside_scoreSubmit
    (isScore : message.type = msgTypeScoreSubmitReq) :
    server.DecodesInside qsort socket handler message disk ↔
      ScoreFits handler message.body := by
  have otherType : msgTypeScoreSubmitReq ≠ msgTypeRegisterReq ∧
      msgTypeScoreSubmitReq ≠ msgTypeLoginReq := by
    decide
  have short : message.Short ↔
      message.body.length < sizeofScoreSubmitRequest := by
    simp [RawMessage.Short, isScore, otherType]
  have decodes : server.decode handler disk.reads message =
      (decodeScoreSubmit handler message.body).map .scoreSubmit := by
    simp [decode, isScore, otherType]
  by_cases nobody : handler.currentUser = .empty
  · have decoded : server.decode handler disk.reads message =
        .ok (.scoreSubmit none) := by
      rw [decodes, decodeScoreSubmit, nobody]
      rfl
    have answered := handleRequest_scoreSubmit_nobody qsort server socket
      handler disk none nobody
    refine iff_of_true ((decodesInside_iff decoded).mpr ?_) (.inl nobody)
    intro _
    exact (refusedBy_iff answered).mpr ⟨rfl, rfl, rfl, rfl⟩
  have named : handler.currentUser.strlen ≠ 0 :=
    Nat.pos_iff_ne_zero.mp (CharArray.strlen_pos_iff.mpr nobody)
  by_cases whole : sizeofScoreSubmitRequest ≤ message.body.length
  · obtain ⟨score, read⟩ := readInt_whole whole
    have decoded : server.decode handler disk.reads message =
        .ok (.scoreSubmit (some score)) := by
      rw [decodes, decodeScoreSubmit, if_neg named, read]
      rfl
    refine iff_of_true ((decodesInside_iff decoded).mpr ?_) (.inr whole)
    intro isShort
    exact absurd (short.mp isShort) (Nat.not_lt.mpr whole)
  · obtain ⟨fault, read⟩ := readInt_short (Nat.lt_of_not_le whole)
    have decoded : server.decode handler disk.reads message =
        .error fault := by
      rw [decodes, decodeScoreSubmit, if_neg named, read]
      rfl
    exact iff_of_false (not_decodesInside decoded)
      (by simp only [ScoreFits, nobody, whole, or_self, not_false_eq_true])

/-- A message is read inside its body, and refused when it is short, exactly
when its length fits its type. -/
theorem decodesInside_iff_messageFits
    (qsort : QSort) (server : Server) (socket : Nat) (handler : Handler)
    (message : RawMessage) (disk : DiskCalls) :
    server.DecodesInside qsort socket handler message disk ↔
      server.MessageFits handler disk message := by
  by_cases isRegister : message.type = msgTypeRegisterReq
  · rw [decodesInside_register isRegister]
    simp [MessageFits, isRegister, msgTypeRegisterReq, msgTypeLoginReq,
      msgTypeScoreSubmitReq]
  by_cases isLogin : message.type = msgTypeLoginReq
  · rw [decodesInside_login isLogin]
    simp [MessageFits, isLogin, msgTypeRegisterReq, msgTypeLoginReq,
      msgTypeScoreSubmitReq]
  by_cases isScore : message.type = msgTypeScoreSubmitReq
  · rw [decodesInside_scoreSubmit isScore]
    simp [MessageFits, isScore, msgTypeRegisterReq, msgTypeLoginReq,
      msgTypeScoreSubmitReq]
  · refine iff_of_true ?_ ⟨fun same => absurd same isRegister,
      fun same => absurd same isLogin, fun same => absurd same isScore⟩
    obtain ⟨request, decoded⟩ : ∃ request,
        server.decode handler disk.reads message = .ok request := by
      simp only [decode, isRegister, isLogin, isScore, if_false]
      split_ifs <;> exact ⟨_, rfl⟩
    apply (decodesInside_iff decoded).mpr
    rintro (⟨isRegister' | isLogin', _⟩ | ⟨isScore', _⟩)
    · exact absurd isRegister' isRegister
    · exact absurd isLogin' isLogin
    · exact absurd isScore' isScore

/-- A name of one byte that nothing terminates. -/
def oneByteRegister : RawMessage where
  type := msgTypeRegisterReq
  body := [97]
  fits := by decide

/-- The length of the name is taken beyond the received byte. -/
theorem oneByteRegister_leaves_body :
    ¬ ∀ qsort users scores wordlist actions server socket handler message disk,
      (step qsort).run (start users scores wordlist) actions = some server →
        server.handlers socket = some handler → handler.stage = .receiving →
          server.DecodesInside qsort socket handler message disk := by
  intro decodes
  have decoded := decodes .insertion none none .empty [.accept 4] _ 4
    ⟨.empty, .receiving, true⟩ oneByteRegister .succeed rfl rfl rfl
  obtain ⟨next, handled⟩ := decoded.inside
  cases handled

end Server

end RainTyping
