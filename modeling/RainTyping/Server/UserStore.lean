import RainTyping.Server.AuthManager

/-!
# The users file as a finite map

A sequence of `register_user_impl` calls is meant to build a map from names to
passwords.  `UserStore` runs the calls on the bytes of the file and remembers
which of them were answered with success; `RefinesMap` compares the file with
the map these make.  The file is that map exactly as long as no stored field
can be mistaken for a delimiter of the line format.
-/

namespace RainTyping

open LineReader

/-- The fields of a call that passes the checks of `register_user_impl`. -/
structure Registration where
  username : CString
  password : CString
  usernameNonempty : username.strlen ≠ 0
  passwordNonempty : password.strlen ≠ 0
  usernameShort : username.bytes.length < maxIdLen
  passwordShort : password.bytes.length < maxPwLen
  deriving DecidableEq

/-- The record written for an accepted call. -/
def Registration.userData (call : Registration) : UserData :=
  ⟨⟨call.username, call.usernameShort⟩, ⟨call.password, call.passwordShort⟩⟩

/-- The users file and the calls answered with success so far. -/
structure UserStore where
  users : DataFile
  accepted : List Registration
  deriving DecidableEq

namespace UserStore

def empty : UserStore :=
  ⟨some [], []⟩

/-- One call whose reads and writes succeed. -/
def register (store : UserStore) (call : Registration) : UserStore :=
  let (response, users) := registerUserImpl .succeed .succeed store.users
    (some call.username) (some call.password)
  ⟨users,
    if response.success then store.accepted ++ [call] else store.accepted⟩

/-- The given calls, one after another, on an empty users file. -/
def registerAll (calls : List Registration) : UserStore :=
  calls.foldl register empty

def find (store : UserStore) (username : CString) : FindResult :=
  findUserInFile .succeed store.users username

def login (store : UserStore) (username password : CString) : Bool :=
  (loginUserImpl .succeed store.users
    (some username) (some password)).response.success

end UserStore

open UserStore

/-- The calls build the map from the accepted names to their passwords. -/
structure RefinesMap (calls : List Registration) : Prop where
  accepted_found : ∀ call ∈ (registerAll calls).accepted,
    ∃ user, (registerAll calls).find call.username = .found user ∧
      user.password.bytes = call.password.bytes
  other_absent : ∀ username,
    (∀ call ∈ (registerAll calls).accepted, call.username ≠ username) →
      (registerAll calls).find username = .absent
  accepted_login : ∀ call ∈ (registerAll calls).accepted, ∀ password,
    (registerAll calls).login call.username password = true ↔
      password = call.password
  others_unchanged : ∀ before call after, calls = before ++ call :: after →
    ∀ username, username ≠ call.username →
      (registerAll (before ++ [call])).find username =
        (registerAll before).find username

/-- No name has a colon or a newline, and no password of a name that is
registered for the first time has a newline. -/
def Storable (calls : List Registration) : Prop :=
  ∀ before call after, calls = before ++ call :: after →
    CleanName call.username.bytes ∧
      (newline ∉ call.password.bytes ∨
        ∃ earlier ∈ before, earlier.username = call.username)

/-! ## One call -/

theorem registerAll_snoc (calls : List Registration) (call : Registration) :
    registerAll (calls ++ [call]) = (registerAll calls).register call := by
  simp [registerAll]

theorem register_of_found
    {content : List UInt8} {accepted : List Registration}
    {call : Registration} {user : UserData}
    (found : lookup content call.username = some user) :
    register ⟨some content, accepted⟩ call = ⟨some content, accepted⟩ := by
  have result := findUserInFile_found_iff.mpr found
  have filled : ¬(call.username.strlen = 0 ∨ call.password.strlen = 0) := by
    simp [call.usernameNonempty, call.passwordNonempty]
  have short : ¬(maxIdLen ≤ call.username.strlen ∨
      maxPwLen ≤ call.password.strlen) := by
    rw [not_or]
    exact ⟨Nat.not_le.mpr call.usernameShort,
      Nat.not_le.mpr call.passwordShort⟩
  simp [register, registerUserImpl, registerUserSearch, filled, short, result]

theorem register_of_absent
    {content : List UInt8} {accepted : List Registration}
    {call : Registration}
    (absent : lookup content call.username = none) :
    register ⟨some content, accepted⟩ call =
      ⟨some (content ++ userLine call.userData), accepted ++ [call]⟩ := by
  have result := findUserInFile_absent_iff.mpr absent
  have searched : registerUserSearch .succeed (some content)
      (some call.username) (some call.password) = .absent call.userData :=
    registerUserSearch_absent_iff.mpr
      ⟨⟨call.usernameNonempty, call.passwordNonempty⟩, result, rfl, rfl⟩
  simp only [register, registerUserImpl, searched, registerUserAppend,
    addUserToFile, appendLine_succeed, ↓reduceIte]
  rfl

theorem registerAll_terminated (calls : List Registration) :
    ∃ content, (registerAll calls).users = some content ∧
      Terminated newline content := by
  induction calls using List.reverseRecOn with
  | nil => exact ⟨[], rfl, .nil⟩
  | append_singleton calls call induction =>
      obtain ⟨content, users, terminated⟩ := induction
      rw [registerAll_snoc]
      cases state : registerAll calls with
      | mk file accepted =>
          rw [state] at users
          cases users
          cases found : lookup content call.username with
          | some user =>
              rw [register_of_found found]
              exact ⟨content, rfl, terminated⟩
          | none =>
              rw [register_of_absent found]
              exact ⟨_, rfl, .append_record _⟩

/-! ## Calls that can be stored -/

/-- The file holds exactly the records of the accepted calls, and every
requested name is among them. -/
structure HoldsAccepted (calls : List Registration) (content : List UInt8)
    (accepted : List Registration) : Prop where
  terminated : Terminated newline content
  scannable : Scannable newline userLineRoom content
  records : userRecords content = accepted.map Registration.userData
  distinct : accepted.Pairwise fun first second =>
    first.username ≠ second.username
  requested : ∀ call ∈ calls,
    ∃ holder ∈ accepted, holder.username = call.username

private theorem lookup_eq_find?
    {content : List UInt8} {accepted : List Registration}
    (records : userRecords content = accepted.map Registration.userData)
    (username : CString) :
    lookup content username =
      (accepted.find? fun call => call.username = username).map
        Registration.userData := by
  rw [lookup, records, List.find?_map]
  have sameTest : (fun call : Registration =>
        decide (call.username = username)) =
      (fun user : UserData => decide (user.username.bytes = username.bytes)) ∘
        Registration.userData := by
    funext call
    exact decide_eq_decide.mpr CString.ext_iff
  rw [sameTest]

private theorem find?_distinct
    {accepted : List Registration}
    (distinct : accepted.Pairwise fun first second =>
      first.username ≠ second.username)
    {call : Registration} (member : call ∈ accepted) :
    accepted.find? (fun other => other.username = call.username) =
      some call := by
  induction accepted with
  | nil => cases member
  | cons first accepted induction =>
      obtain ⟨apart, distinct⟩ := List.pairwise_cons.mp distinct
      rcases List.mem_cons.mp member with rfl | later
      · simp
      · have different := apart call later
        rw [List.find?_cons_of_neg (by simpa using different)]
        exact induction distinct later

theorem HoldsAccepted.lookup_of_mem
    {calls : List Registration} {content : List UInt8}
    {accepted : List Registration}
    (holds : HoldsAccepted calls content accepted)
    {call : Registration} (member : call ∈ accepted) :
    lookup content call.username = some call.userData := by
  rw [lookup_eq_find? holds.records, find?_distinct holds.distinct member]
  rfl

theorem HoldsAccepted.lookup_of_not_mem
    {calls : List Registration} {content : List UInt8}
    {accepted : List Registration}
    (holds : HoldsAccepted calls content accepted) {username : CString}
    (unknown : ∀ call ∈ accepted, call.username ≠ username) :
    lookup content username = none := by
  rw [lookup_eq_find? holds.records, Option.map_eq_none_iff,
    List.find?_eq_none]
  intro call member
  simpa using unknown call member

private theorem Storable.of_append
    {first second : List Registration} (storable : Storable (first ++ second)) :
    Storable first := by
  intro before call after equality
  apply storable before call (after ++ second)
  simp [equality]

/-- What one more storable call does to a file that holds the accepted
records. -/
theorem HoldsAccepted.register
    {calls : List Registration} {content : List UInt8}
    {accepted : List Registration} {call : Registration}
    (holds : HoldsAccepted calls content accepted)
    (clean : CleanName call.username.bytes)
    (passwordClean : newline ∉ call.password.bytes ∨
      ∃ earlier ∈ calls, earlier.username = call.username) :
    ∃ content' accepted',
      UserStore.register ⟨some content, accepted⟩ call =
          ⟨some content', accepted'⟩ ∧
        HoldsAccepted (calls ++ [call]) content' accepted' ∧
        ∀ username, username ≠ call.username →
          lookup content' username = lookup content username := by
  cases found : lookup content call.username with
  | some user =>
      refine ⟨content, accepted, register_of_found found, ?_, fun _ _ => rfl⟩
      refine ⟨holds.terminated, holds.scannable, holds.records,
        holds.distinct, ?_⟩
      intro requested member
      rcases List.mem_append.mp member with earlier | last
      · exact holds.requested requested earlier
      · simp only [List.mem_singleton] at last
        subst requested
        by_contra missing
        have unknown : ∀ holder ∈ accepted,
            holder.username ≠ call.username := by
          intro holder holderMember same
          exact missing ⟨holder, holderMember, same⟩
        rw [holds.lookup_of_not_mem unknown] at found
        cases found
  | none =>
      have unknown : ∀ holder ∈ accepted,
          holder.username ≠ call.username := by
        intro holder member same
        have present := holds.lookup_of_mem member
        rw [same, found] at present
        cases present
      have inside : newline ∉ call.password.bytes := by
        rcases passwordClean with inside | ⟨earlier, member, same⟩
        · exact inside
        · obtain ⟨holder, holderMember, holderSame⟩ :=
            holds.requested earlier member
          exact absurd (holderSame.trans same) (unknown holder holderMember)
      have lineRecords : userRecords (userLine call.userData) =
          [call.userData] :=
        userRecords_userLine clean inside
      refine ⟨_, _, register_of_absent found, ?_, ?_⟩
      · constructor
        · exact .append_record _
        · exact (scannable_append_iff holds.terminated).mpr
            ⟨holds.scannable, scannable_userLine clean inside⟩
        · rw [userRecords_append holds.terminated holds.scannable,
            holds.records, lineRecords, List.map_append]
          rfl
        · refine List.pairwise_append.mpr
            ⟨holds.distinct, List.pairwise_singleton _ _, ?_⟩
          intro holder member last lastMember
          simp only [List.mem_singleton] at lastMember
          subst last
          exact unknown holder member
        · intro requested member
          rcases List.mem_append.mp member with earlier | last
          · obtain ⟨holder, holderMember, same⟩ :=
              holds.requested requested earlier
            exact ⟨holder, List.mem_append_left _ holderMember, same⟩
          · simp only [List.mem_singleton] at last
            subst requested
            exact ⟨call, by simp, rfl⟩
      · intro username different
        have notInLine : lookup (userLine call.userData) username = none := by
          rw [lookup, lineRecords]
          simpa [Registration.userData, CString.ext_iff] using
            fun same => different (CString.ext same.symm)
        rw [lookup_append holds.terminated holds.scannable, notInLine]
        simp

theorem registerAll_holdsAccepted
    {calls : List Registration} (storable : Storable calls) :
    ∃ content accepted,
      registerAll calls = ⟨some content, accepted⟩ ∧
        HoldsAccepted calls content accepted := by
  induction calls using List.reverseRecOn with
  | nil =>
      refine ⟨[], [], rfl, .nil, scannable_nil, ?_, List.Pairwise.nil, ?_⟩
      · simp [userRecords]
      · intro call member
        cases member
  | append_singleton calls call induction =>
      obtain ⟨content, accepted, state, holds⟩ :=
        induction storable.of_append
      obtain ⟨clean, passwordClean⟩ := storable calls call [] rfl
      obtain ⟨content', accepted', registered, holds', _⟩ :=
        holds.register clean passwordClean
      rw [registerAll_snoc, state]
      exact ⟨content', accepted', registered, holds'⟩

private theorem refinesMap_of_storable
    {calls : List Registration} (storable : Storable calls) :
    RefinesMap calls := by
  obtain ⟨content, accepted, state, holds⟩ :=
    registerAll_holdsAccepted storable
  constructor
  · intro call member
    rw [state] at member ⊢
    exact ⟨call.userData,
      findUserInFile_found_iff.mpr (holds.lookup_of_mem member), rfl⟩
  · intro username unknown
    rw [state] at unknown ⊢
    exact findUserInFile_absent_iff.mpr (holds.lookup_of_not_mem unknown)
  · intro call member password
    rw [state] at member ⊢
    have found := findUserInFile_found_iff.mpr (holds.lookup_of_mem member)
    rw [login, loginUserImpl_success_iff]
    constructor
    · rintro ⟨user, foundUser, same⟩
      rw [found] at foundUser
      cases foundUser
      exact CString.ext same.symm
    · intro same
      exact ⟨call.userData, found, by rw [same]; rfl⟩
  · intro before call after equality username different
    have storableBefore : Storable before := by
      rw [equality] at storable
      exact storable.of_append
    obtain ⟨clean, passwordClean⟩ := storable before call after equality
    obtain ⟨content, accepted, state, holds⟩ :=
      registerAll_holdsAccepted storableBefore
    obtain ⟨content', accepted', registered, _, unchanged⟩ :=
      holds.register clean passwordClean
    rw [registerAll_snoc, state, registered]
    simp only [find, findUserInFile_succeed, unchanged username different]

/-! ## Calls that cannot be stored -/

/-- Later calls keep the accepted calls and the found names, and accept no
call of a found name. -/
theorem registerAll_later
    (before after : List Registration) {content : List UInt8}
    (users : (registerAll before).users = some content)
    (terminated : Terminated newline content) :
    ∃ content', (registerAll (before ++ after)).users = some content' ∧
      Terminated newline content' ∧
      (registerAll before).accepted ⊆
        (registerAll (before ++ after)).accepted ∧
      ∀ username user, lookup content username = some user →
        lookup content' username = some user ∧
          ∀ call ∈ (registerAll (before ++ after)).accepted,
            call.username = username →
              call ∈ (registerAll before).accepted := by
  induction after using List.reverseRecOn with
  | nil =>
      rw [List.append_nil]
      exact ⟨content, users, terminated, fun _ member => member,
        fun _ _ found => ⟨found, fun _ member _ => member⟩⟩
  | append_singleton after call induction =>
      obtain ⟨content', users', terminated', kept, stable⟩ := induction
      rw [← List.append_assoc, registerAll_snoc]
      cases state : registerAll (before ++ after) with
      | mk file accepted =>
          rw [state] at users' kept stable
          cases users'
          cases searched : lookup content' call.username with
          | some holder =>
              rw [register_of_found searched]
              exact ⟨content', rfl, terminated', kept, stable⟩
          | none =>
              rw [register_of_absent searched]
              refine ⟨_, rfl, .append_record _, ?_, ?_⟩
              · intro earlier member
                exact List.mem_append_left _ (kept member)
              · intro username user found
                obtain ⟨stillFound, noneNew⟩ := stable username user found
                refine ⟨lookup_append_of_some terminated' stillFound _, ?_⟩
                intro other member same
                rcases List.mem_append.mp member with earlier | last
                · exact noneNew other earlier same
                · simp only [List.mem_singleton] at last
                  subst other
                  rw [same, stillFound] at searched
                  cases searched

theorem accepted_subset (calls : List Registration) :
    (registerAll calls).accepted ⊆ calls := by
  induction calls using List.reverseRecOn with
  | nil => exact fun _ member => member
  | append_singleton calls call induction =>
      intro accepted member
      rw [registerAll_snoc, register] at member
      simp only at member
      split at member
      · rcases List.mem_append.mp member with earlier | last
        · exact List.mem_append_left _ (induction earlier)
        · exact List.mem_append_right _ last
      · exact List.mem_append_left _ (induction member)

private theorem storable_of_refinesMap
    {calls : List Registration} (refines : RefinesMap calls) :
    Storable calls := by
  intro before call after equality
  obtain ⟨content, users, terminated⟩ := registerAll_terminated before
  have splitCalls : calls = (before ++ [call]) ++ after := by
    simp [equality]
  -- an accepted call leaves a record that the parser returned unchanged
  have acceptedClean : lookup content call.username = none →
      CleanName call.username.bytes ∧ newline ∉ call.password.bytes := by
    intro absent
    obtain ⟨content', users', terminated'⟩ :=
      registerAll_terminated (before ++ [call])
    obtain ⟨final, usersFinal, _, kept, _⟩ :=
      registerAll_later (before ++ [call]) after users' terminated'
    have accepted : call ∈ (registerAll (before ++ [call])).accepted := by
      rw [registerAll_snoc]
      cases state : registerAll before with
      | mk file previous =>
          rw [state] at users
          cases users
          rw [register_of_absent absent]
          simp
    rw [← splitCalls] at usersFinal kept
    obtain ⟨user, found, same⟩ := refines.accepted_found call (kept accepted)
    rw [find, usersFinal, findUserInFile_found_iff] at found
    rw [← same]
    exact clean_of_lookup found
  cases found : lookup content call.username with
  | none => exact ⟨(acceptedClean found).1, .inl (acceptedClean found).2⟩
  | some user =>
      refine ⟨(clean_of_lookup found).1, ?_⟩
      by_contra unclean
      rw [not_or] at unclean
      -- an injected record would be found although no call of the name was
      -- accepted
      obtain ⟨final, usersFinal, _, _, stable⟩ :=
        registerAll_later before (call :: after) users terminated
      rw [← equality] at usersFinal stable
      obtain ⟨stillFound, noneNew⟩ := stable call.username user found
      have unknown : ∀ other ∈ (registerAll calls).accepted,
          other.username ≠ call.username := by
        intro other member same
        exact unclean.2
          ⟨other, accepted_subset before (noneNew other member same), same⟩
      have absent := refines.other_absent call.username unknown
      rw [find, usersFinal, findUserInFile_absent_iff, stillFound] at absent
      cases absent

/-- The users file is the map of the accepted registrations exactly for the
sequences whose names and first passwords fit the line format. -/
theorem userStore_refines_map_iff (calls : List Registration) :
    RefinesMap calls ↔ Storable calls :=
  ⟨storable_of_refinesMap, refinesMap_of_storable⟩

/-- The name `a:b` with the password `p`. -/
def colonRegistration : Registration where
  username := ⟨[97, colon, 98], by decide⟩
  password := ⟨[112], by decide⟩
  usernameNonempty := by decide
  passwordNonempty := by decide
  usernameShort := by decide
  passwordShort := by decide

/-- The registration of `a:b` is answered with success, but the name is not
found afterwards. -/
theorem colon_name_not_found : ¬ ∀ calls, RefinesMap calls := by
  intro refines
  have accepted :
      colonRegistration ∈ (registerAll [colonRegistration]).accepted := by
    decide
  have absent : (registerAll [colonRegistration]).find
      colonRegistration.username = .absent := by
    decide
  obtain ⟨user, found, _⟩ :=
    (refines [colonRegistration]).accepted_found colonRegistration accepted
  rw [absent] at found
  cases found

end RainTyping
