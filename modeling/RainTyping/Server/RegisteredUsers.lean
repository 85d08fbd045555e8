import RainTyping.Server.AuthManager

/-!
# Registered users stay registered

A REGISTER request may carry any bytes in its two fields, delimiters included.
It can add lines to `users.txt` but never changes one, and every file such
requests build has closed lines, so a record that is found once is found by
every later search.
-/

namespace RainTyping

open LineReader

/-- A call of `register_user_impl` with what its system calls answer. -/
structure RegisterCall where
  username : Option CString
  hashedPassword : Option CString
  reads : ReadCalls
  writes : WriteCalls
  deriving DecidableEq

/-- The users file after one call. -/
def RegisterCall.usersAfter (call : RegisterCall) (users : DataFile) :
    DataFile :=
  (registerUserImpl call.reads call.writes users call.username
    call.hashedPassword).2

/-- The users file after some calls, one after another. -/
def usersAfter (users : DataFile) (calls : List RegisterCall) : DataFile :=
  calls.foldl (fun users call => call.usersAfter users) users

theorem usersAfter_append
    (users : DataFile) (first second : List RegisterCall) :
    usersAfter users (first ++ second) =
      usersAfter (usersAfter users first) second :=
  List.foldl_append

/-! ## One call -/

theorem RegisterCall.usersAfter_getD
    {call : RegisterCall} (inFull : call.writes.InFull) (users : DataFile) :
    (call.usersAfter users).getD [] = users.getD [] ∨
      ∃ newUser, (call.usersAfter users).getD [] =
        users.getD [] ++ userLine newUser := by
  rw [usersAfter, registerUserImpl]
  cases registerUserSearch call.reads users call.username
      call.hashedPassword with
  | refused message => exact .inl rfl
  | absent newUser =>
      rw [registerUserAppend_users]
      rcases appendLine_of_inFull inFull users with unchanged | appended
      · exact .inl unchanged
      · exact .inr ⟨newUser, appended⟩

theorem RegisterCall.usersAfter_stable
    {call : RegisterCall} (inFull : call.writes.InFull) {users : DataFile}
    (terminated : Terminated newline (users.getD [])) :
    Terminated newline ((call.usersAfter users).getD []) ∧
      ∀ username user, lookup (users.getD []) username = some user →
        lookup ((call.usersAfter users).getD []) username = some user := by
  rcases usersAfter_getD inFull users with unchanged | ⟨newUser, appended⟩
  · rw [unchanged]
    exact ⟨terminated, fun _ _ found => found⟩
  · rw [appended]
    refine ⟨.append_record _, ?_⟩
    intro username user found
    exact lookup_append_of_some terminated found _

/-! ## All calls -/

theorem usersAfter_stable
    {calls : List RegisterCall}
    (inFull : ∀ call ∈ calls, call.writes.InFull) {users : DataFile}
    (terminated : Terminated newline (users.getD [])) :
    Terminated newline ((usersAfter users calls).getD []) ∧
      ∀ username user, lookup (users.getD []) username = some user →
        lookup ((usersAfter users calls).getD []) username = some user := by
  induction calls generalizing users with
  | nil => exact ⟨terminated, fun _ _ found => found⟩
  | cons call calls induction =>
      obtain ⟨closed, kept⟩ :=
        RegisterCall.usersAfter_stable (inFull call List.mem_cons_self)
          terminated
      obtain ⟨closedLater, keptLater⟩ :=
        induction (fun later member =>
          inFull later (List.mem_cons_of_mem _ member)) closed
      refine ⟨closedLater, ?_⟩
      intro username user found
      exact keptLater username user (kept username user found)

/-- The record found for a name is found again after any further calls. -/
theorem findUserInFile_usersAfter
    {calls later : List RegisterCall}
    (inFull : ∀ call ∈ calls ++ later, call.writes.InFull)
    {reads : ReadCalls} {username : CString} {user : UserData}
    (found : findUserInFile reads (usersAfter (some []) calls) username =
      .found user) :
    findUserInFile .succeed (usersAfter (some []) (calls ++ later)) username =
      .found user := by
  have empty : Terminated newline ((some []).getD ([] : List UInt8)) := .nil
  obtain ⟨closed, _⟩ := usersAfter_stable
    (fun call member => inFull call (List.mem_append_left _ member)) empty
  obtain ⟨_, kept⟩ := usersAfter_stable
    (fun call member => inFull call (List.mem_append_right _ member)) closed
  rw [usersAfter_append]
  apply findUserInFile_found_getD_iff.mpr
  exact kept username user (lookup_of_findUserInFile found)

/-- A call whose reads and writes succeed. -/
def registerCall (username hashedPassword : String) : RegisterCall :=
  ⟨some (.ofBuffer (text username)), some (.ofBuffer (text hashedPassword)),
    .succeed, .succeed⟩

/-- The record of `a` survives a name that injects a second line for it. -/
theorem findUserInFile_usersAfter_injection :
    findUserInFile .succeed
        (usersAfter (some [])
          ([registerCall "a" "b"] ++ [registerCall "x\na" "c\n"]))
        (.ofBuffer (text "a")) =
      .found ⟨.store maxIdLen (text "a"), .store maxPwLen (text "b")⟩ := by
  have found : findUserInFile .succeed
      (usersAfter (some []) [registerCall "a" "b"]) (.ofBuffer (text "a")) =
        .found ⟨.store maxIdLen (text "a"), .store maxPwLen (text "b")⟩ := by
    decide
  apply findUserInFile_usersAfter _ found
  intro call member
  simp only [List.singleton_append, List.mem_cons, List.not_mem_nil,
    or_false] at member
  rcases member with rfl | rfl
  · exact .inr rfl
  · exact .inr rfl

end RainTyping
