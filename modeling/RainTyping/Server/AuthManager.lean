import RainTyping.Server.UserLookup

/-!
# Registration and password check

`register_user_impl` searches the users file and appends to it in two separate
critical sections.  `registerUserSearch` is the part up to the end of the
search and `registerUserAppend` the rest, so that other handlers can act in
between; `registerUserImpl` is both in a row.  `login_user_impl` has a single
critical section.
-/

namespace RainTyping

/-- `snprintf` of the given bytes into a response message. -/
def message (bytes : List UInt8) : Message :=
  .store maxMsgLen bytes

/-- A message that names the user between two literals. -/
def messageFor (before : String) (username : CString) (after : String) :
    Message :=
  message (text before ++ username.bytes ++ text after)

/-- `register_user_impl` up to the end of the search in the users file. -/
inductive RegisterSearch where
  | refused (message : Message)
  | absent (newUser : UserData)
  deriving DecidableEq

/-- The null pointers of a request without a body are `none`. -/
def registerUserSearch (calls : ReadCalls) (users : DataFile) :
    (username hashedPassword : Option CString) → RegisterSearch
  | some username, some hashedPassword =>
      if username.strlen = 0 ∨ hashedPassword.strlen = 0 then
        .refused (message (text "Username and password cannot be empty."))
      else if maxIdLen ≤ username.strlen ∨
          maxPwLen ≤ hashedPassword.strlen then
        .refused (message (text "Username or password too long."))
      else
        match findUserInFile calls users username with
        | .found _ =>
            .refused (messageFor "User '" username "' already exists.")
        | .error =>
            .refused (message (text "Error checking user existence (DB)."))
        | .absent =>
            .absent
              ⟨.store maxIdLen username.bytes,
                .store maxPwLen hashedPassword.bytes⟩
  | _, _ =>
      .refused (message (text "Username and password cannot be empty."))

/-- `register_user_impl` from `add_user_to_file` on. -/
def registerUserAppend (calls : WriteCalls) (users : DataFile)
    (newUser : UserData) : StatusResponse × DataFile :=
  let (added, users) := addUserToFile calls users newUser
  if added then
    (⟨true, messageFor "User '" newUser.username.toCString
      "' registered successfully."⟩, users)
  else
    (⟨false, messageFor "Failed to save new user '" newUser.username.toCString
      "' (DB)."⟩, users)

def registerUserImpl (reads : ReadCalls) (writes : WriteCalls)
    (users : DataFile) (username hashedPassword : Option CString) :
    StatusResponse × DataFile :=
  match registerUserSearch reads users username hashedPassword with
  | .refused message => (⟨false, message⟩, users)
  | .absent newUser => registerUserAppend writes users newUser

/-- The response of `login_user_impl` and its `logged_in_user` buffer. -/
structure LoginOutcome where
  response : StatusResponse
  loggedInUser : CharArray maxIdLen
  deriving DecidableEq

def loginUserImpl (calls : ReadCalls) (users : DataFile) :
    (username hashedPassword : Option CString) → LoginOutcome
  | some username, some hashedPassword =>
      match findUserInFile calls users username with
      | .absent =>
          ⟨⟨false, messageFor "User '" username "' not found."⟩, .empty⟩
      | .error =>
          ⟨⟨false, messageFor "Error finding user '" username "' (DB)."⟩,
            .empty⟩
      | .found userFromDb =>
          if userFromDb.password.bytes = hashedPassword.bytes then
            ⟨⟨true, messageFor "Login successful for '" username "'."⟩,
              .store maxIdLen username.bytes⟩
          else
            ⟨⟨false, messageFor "Invalid password for user '" username "'."⟩,
              .empty⟩
  | _, _ =>
      ⟨⟨false, message (text "Username or password cannot be null.")⟩, .empty⟩

/-- A name that `login_user_impl` has left in the `current_user` of a handler;
the empty one counts as nobody. -/
def LoggedIn (user : CharArray maxIdLen) : Prop :=
  user.bytes ≠ [] ∧
    ∃ calls users username password,
      (loginUserImpl calls users username password).response.success = true ∧
        (loginUserImpl calls users username password).loggedInUser = user

/-! ## What the functions do -/

/-- What a search that lets a registration continue has checked. -/
theorem registerUserSearch_absent_iff
    {calls : ReadCalls} {users : DataFile} {username password : CString}
    {newUser : UserData} :
    registerUserSearch calls users (some username) (some password) =
        .absent newUser ↔
      (username.strlen ≠ 0 ∧ password.strlen ≠ 0) ∧
        findUserInFile calls users username = .absent ∧
        newUser.username.bytes = username.bytes ∧
        newUser.password.bytes = password.bytes := by
  simp only [registerUserSearch]
  split
  · rename_i emptyField
    constructor
    · intro refused
      cases refused
    · rintro ⟨⟨nameNonempty, passwordNonempty⟩, _⟩
      rcases emptyField with noName | noPassword
      · exact absurd noName nameNonempty
      · exact absurd noPassword passwordNonempty
  · rename_i filled
    split
    · rename_i tooLong
      constructor
      · intro refused
        cases refused
      · rintro ⟨_, _, sameName, samePassword⟩
        have nameFits := newUser.username.fits
        have passwordFits := newUser.password.fits
        rw [sameName] at nameFits
        rw [samePassword] at passwordFits
        rcases tooLong with nameLong | passwordLong
        · exact absurd nameFits (Nat.not_lt.mpr nameLong)
        · exact absurd passwordFits (Nat.not_lt.mpr passwordLong)
    · rename_i shortFields
      have nameShort : username.bytes.length < maxIdLen :=
        Nat.lt_of_not_le fun tooLong => shortFields (.inl tooLong)
      have passwordShort : password.bytes.length < maxPwLen :=
        Nat.lt_of_not_le fun tooLong => shortFields (.inr tooLong)
      have nameStored := CharArray.store_of_fits nameShort
      have passwordStored := CharArray.store_of_fits passwordShort
      cases result : findUserInFile calls users username with
      | found user => simp
      | error => simp
      | absent =>
          constructor
          · intro stored
            simp only [RegisterSearch.absent.injEq] at stored
            subst newUser
            exact ⟨not_or.mp filled, rfl, nameStored, passwordStored⟩
          · rintro ⟨_, _, sameName, samePassword⟩
            have sameUser :
                (⟨.store maxIdLen username.bytes,
                  .store maxPwLen password.bytes⟩ : UserData) = newUser := by
              cases newUser
              simp only [UserData.mk.injEq]
              exact ⟨CharArray.eq_of_bytes_eq (nameStored.trans sameName.symm),
                CharArray.eq_of_bytes_eq
                  (passwordStored.trans samePassword.symm)⟩
            simp [sameUser]

theorem registerUserAppend_users
    (calls : WriteCalls) (users : DataFile) (newUser : UserData) :
    (registerUserAppend calls users newUser).2 =
      (appendLine calls users (userLine newUser)).2 := by
  unfold registerUserAppend
  cases added : (addUserToFile calls users newUser).1 <;>
    simp only [added, Bool.false_eq_true, ↓reduceIte] <;> rfl

theorem registerUserAppend_success
    (calls : WriteCalls) (users : DataFile) (newUser : UserData) :
    (registerUserAppend calls users newUser).1.success =
      (appendLine calls users (userLine newUser)).1 := by
  have sameCall : (appendLine calls users (userLine newUser)).1 =
      (addUserToFile calls users newUser).1 :=
    rfl
  unfold registerUserAppend
  cases added : (addUserToFile calls users newUser).1 <;>
    simp only [sameCall, added, Bool.false_eq_true, ↓reduceIte]

/-- A password check succeeds exactly on the stored record of the name. -/
theorem loginUserImpl_success_iff
    {calls : ReadCalls} {users : DataFile} {username password : CString} :
    (loginUserImpl calls users (some username) (some password)).response.success
        = true ↔
      ∃ user, findUserInFile calls users username = .found user ∧
        user.password.bytes = password.bytes := by
  simp only [loginUserImpl]
  cases findUserInFile calls users username with
  | absent => simp
  | error => simp
  | found user =>
      by_cases same : user.password.bytes = password.bytes
      · simp [same]
      · simp [same]

/-- An accepted login leaves the requested name, which the data files can
represent. -/
theorem loginUserImpl_of_success
    {calls : ReadCalls} {users : DataFile} {username password : Option CString}
    (success : (loginUserImpl calls users username password).response.success
      = true) :
    ∃ name, username = some name ∧
      (loginUserImpl calls users username password).loggedInUser.bytes =
        name.bytes ∧
      CleanName name.bytes := by
  cases username with
  | none => simp [loginUserImpl] at success
  | some name =>
      cases password with
      | none => simp [loginUserImpl] at success
      | some password =>
          obtain ⟨user, found, same⟩ := loginUserImpl_success_iff.mp success
          obtain ⟨sameName, clean⟩ := clean_of_findUserInFile found
          have short : name.bytes.length < maxIdLen := by
            rw [← sameName]
            exact user.username.fits
          refine ⟨name, rfl, ?_, clean⟩
          simp only [loginUserImpl, found, same, ↓reduceIte]
          exact CharArray.store_of_fits short

theorem LoggedIn.clean
    {user : CharArray maxIdLen} (loggedIn : LoggedIn user) :
    CleanName user.bytes := by
  obtain ⟨_, calls, users, username, password, success, rfl⟩ := loggedIn
  obtain ⟨name, _, same, clean⟩ := loginUserImpl_of_success success
  exact same ▸ clean

end RainTyping
