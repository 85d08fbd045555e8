import RainTyping.Protocol
import RainTyping.Server.SessionModel
import RainTyping.Support.Slots
import Mathlib.Data.Multiset.AddSub

/-!
# The table of logged-in users

`server_network.c` keeps one fixed table of sessions behind a mutex.  Each of
the three functions below is one critical section.  What the rest of the
server can observe of the table are its active entries, `sessions`; the order
of the slots matters only for the removal, which takes the first match.
-/

namespace RainTyping

abbrev maxLoggedInUsers : Nat := 100

structure LoggedInUser where
  username : CharArray maxIdLen
  clientSock : Nat
  isActive : Bool
  deriving DecidableEq

/-- `logged_in_users`. -/
structure LoggedInUsers where
  entries : List LoggedInUser
  size : entries.length = maxLoggedInUsers
  deriving DecidableEq

/-- An active entry of the given name. -/
def LoggedInUser.holds (username : List UInt8) (entry : LoggedInUser) :
    Bool :=
  entry.isActive && entry.username.bytes == username

/-- `init_logged_in_users`. -/
def initLoggedInUsers : LoggedInUsers where
  entries := List.replicate maxLoggedInUsers ⟨.empty, 0, false⟩
  size := List.length_replicate

/-- The index of the first active entry of the name; `none` stands for `-1`. -/
def isUserAlreadyLoggedIn (table : LoggedInUsers) (username : CString) :
    Option Nat :=
  table.entries.findIdx? (LoggedInUser.holds username.bytes)

def addLoggedInUser (table : LoggedInUsers) (username : CharArray maxIdLen)
    (clientSock : Nat) : Bool × LoggedInUsers :=
  match added : updateFirst (fun entry => !entry.isActive)
      (fun _ => ⟨username, clientSock, true⟩) table.entries with
  | none => (false, table)
  | some entries =>
      (true, ⟨entries, (length_of_updateFirst added).trans table.size⟩)

def removeLoggedInUser (table : LoggedInUsers)
    (username : CharArray maxIdLen) : LoggedInUsers :=
  match removed : updateFirst (LoggedInUser.holds username.bytes)
      (fun entry => { entry with username := .empty, isActive := false })
      table.entries with
  | none => table
  | some entries => ⟨entries, (length_of_updateFirst removed).trans table.size⟩

namespace LoggedInUsers

def sessionsOf (entries : List LoggedInUser) :
    Multiset (CharArray maxIdLen × Nat) :=
  (entries.filter LoggedInUser.isActive).map fun entry =>
    (entry.username, entry.clientSock)

/-- The name and socket of every active entry. -/
def sessions (table : LoggedInUsers) : Multiset (CharArray maxIdLen × Nat) :=
  sessionsOf table.entries

theorem mem_sessionsOf
    {entries : List LoggedInUser} {session : CharArray maxIdLen × Nat} :
    session ∈ sessionsOf entries ↔
      ∃ entry ∈ entries, entry.isActive = true ∧
        (entry.username, entry.clientSock) = session := by
  simp [sessionsOf, and_assoc]

private theorem sessionsOf_split (before after : List LoggedInUser)
    (entry : LoggedInUser) :
    sessionsOf (before ++ entry :: after) =
      sessionsOf [entry] + sessionsOf (before ++ after) := by
  simp only [sessionsOf, Multiset.coe_add, Multiset.coe_eq_coe,
    ← List.map_append, ← List.filter_append]
  exact (List.perm_middle.filter _).map _

private theorem sessionsOf_active
    {entry : LoggedInUser} (active : entry.isActive = true) :
    sessionsOf [entry] = {(entry.username, entry.clientSock)} := by
  simp [sessionsOf, active]

private theorem sessionsOf_inactive
    {entry : LoggedInUser} (inactive : entry.isActive = false) :
    sessionsOf [entry] = 0 := by
  simp [sessionsOf, inactive]

@[simp] theorem sessions_init : initLoggedInUsers.sessions = 0 := by
  simp [sessions, sessionsOf, initLoggedInUsers]

/-- The sessions have different names when any two active entries have. -/
theorem nodup_sessions_iff {table : LoggedInUsers} :
    (table.sessions.map Prod.fst).Nodup ↔
      table.entries.Pairwise fun first second =>
        first.isActive = true → second.isActive = true →
          first.username ≠ second.username := by
  rw [sessions, sessionsOf, Multiset.map_coe, Multiset.coe_nodup,
    List.map_map, List.Nodup, List.pairwise_map, List.pairwise_filter]
  rfl

end LoggedInUsers

open LoggedInUsers

variable {table : LoggedInUsers} {username : CharArray maxIdLen}
  {clientSock : Nat}

theorem isUserAlreadyLoggedIn_eq_none_iff {name : CString} :
    isUserAlreadyLoggedIn table name = none ↔
      ∀ session ∈ table.sessions, session.1.bytes ≠ name.bytes := by
  rw [isUserAlreadyLoggedIn, List.findIdx?_eq_none_iff]
  constructor
  · intro unused session member
    obtain ⟨entry, entryMember, active, rfl⟩ := mem_sessionsOf.mp member
    have other := unused entry entryMember
    simpa [LoggedInUser.holds, active] using other
  · intro unused entry member
    cases active : entry.isActive with
    | false => simp [LoggedInUser.holds, active]
    | true =>
        have different := unused (entry.username, entry.clientSock)
          (mem_sessionsOf.mpr ⟨entry, member, active, rfl⟩)
        simpa [LoggedInUser.holds, active] using different

theorem addLoggedInUser_of_success
    (added : (addLoggedInUser table username clientSock).1 = true) :
    (addLoggedInUser table username clientSock).2.sessions =
      (username, clientSock) ::ₘ table.sessions := by
  unfold addLoggedInUser at added ⊢
  split
  · rename_i full
    split at added
    · cases added
    · rename_i found
      rw [full] at found
      cases found
  · rename_i entries found
    obtain ⟨before, entry, after, split, rfl, _, free⟩ :=
      updateFirst_eq_some found
    have inactive : entry.isActive = false := by simpa using free
    simp only [sessions, split]
    rw [sessionsOf_split, sessionsOf_split, sessionsOf_inactive inactive,
      sessionsOf_active rfl]
    simp

theorem addLoggedInUser_of_failure
    (full : (addLoggedInUser table username clientSock).1 = false) :
    (addLoggedInUser table username clientSock).2 = table := by
  unfold addLoggedInUser at full ⊢
  split
  · rfl
  · rename_i entries found
    split at full
    · rename_i missing
      rw [missing] at found
      cases found
    · cases full

theorem addLoggedInUser_fails_iff :
    (addLoggedInUser table username clientSock).1 = false ↔
      ∀ entry ∈ table.entries, entry.isActive = true := by
  unfold addLoggedInUser
  split
  · rename_i full
    have taken := updateFirst_eq_none_iff.mp full
    simpa using taken
  · rename_i entries found
    obtain ⟨before, entry, after, split, _, _, free⟩ :=
      updateFirst_eq_some found
    have inactive : entry.isActive = false := by simpa using free
    constructor
    · intro impossible
      cases impossible
    · intro taken
      rw [taken entry (by simp [split])] at inactive
      cases inactive

/-- An insertion takes no active entry. -/
theorem addLoggedInUser_getElem?
    {entry : LoggedInUser} {index : Nat}
    (present : table.entries[index]? = some entry)
    (active : entry.isActive = true) :
    (addLoggedInUser table username clientSock).2.entries[index]? =
      some entry := by
  unfold addLoggedInUser
  split
  · exact present
  · rename_i entries found
    exact getElem?_of_updateFirst found present (by simp [active])

/-- A removal takes no entry of another name. -/
theorem removeLoggedInUser_getElem?
    {entry : LoggedInUser} {index : Nat}
    (present : table.entries[index]? = some entry)
    (different : entry.username ≠ username) :
    (removeLoggedInUser table username).entries[index]? = some entry := by
  unfold removeLoggedInUser
  split
  · exact present
  · rename_i entries found
    apply getElem?_of_updateFirst found present
    have otherName : entry.username.bytes ≠ username.bytes :=
      fun same => different (CharArray.eq_of_bytes_eq same)
    simp [LoggedInUser.holds, otherName]

theorem removeLoggedInUser_removed :
    Removed username table.sessions
      (removeLoggedInUser table username).sessions := by
  unfold removeLoggedInUser
  split
  · rename_i missing
    refine .inr ⟨?_, rfl⟩
    rintro session member rfl
    obtain ⟨entry, entryMember, active, rfl⟩ := mem_sessionsOf.mp member
    have other := updateFirst_eq_none_iff.mp missing entry entryMember
    simp [LoggedInUser.holds, active] at other
  · rename_i entries found
    obtain ⟨before, entry, after, split, rfl, _, holds⟩ :=
      updateFirst_eq_some found
    have active : entry.isActive = true := by
      simp only [LoggedInUser.holds, Bool.and_eq_true] at holds
      exact holds.1
    have same : entry.username = username := by
      simp only [LoggedInUser.holds, Bool.and_eq_true, beq_iff_eq] at holds
      exact CharArray.eq_of_bytes_eq holds.2
    refine .inl ⟨entry.clientSock, ?_⟩
    simp only [sessions, split]
    rw [sessionsOf_split, sessionsOf_split, sessionsOf_active active,
      sessionsOf_inactive rfl, same]
    simp

end RainTyping
