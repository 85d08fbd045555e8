import RainTyping.Server.UserStore
import RainTyping.Support.LinePieces

/-!
# Lines that are no records

Both parsing loops skip a line of a wrong format, but they see the lines
through `read_line`, which returns `0` for an empty line as for the end of the
file and takes a line that is longer than its buffer apart.  So a file is read
as it is meant exactly when no wanted record stands behind a line that ends the
loop and no piece of a long line is taken for one.  A password can bring empty
lines into `users.txt`.
-/

namespace RainTyping

open LineReader

/-- Whoever registers after the record was appended is found. -/
def KeepsLaterVisible (user : UserData) : Prop :=
  ∀ content, Terminated newline content →
    Scannable newline userLineRoom content →
      ∀ later : Registration, CleanName later.username.bytes →
        newline ∉ later.password.bytes →
          (UserStore.register ⟨some (content ++ userLine user), []⟩
              later).accepted = [later] →
            (UserStore.register ⟨some (content ++ userLine user), []⟩
              later).find later.username = .found later.userData

/-! ## Searching and loading -/

section Files

variable {content : List UInt8} {username : CString}

end Files

/-! ## Passwords -/

section Passwords

variable {user : UserData}

/-- Empty lines come from the newlines of the password. -/
theorem nil_mem_recordPieces_iff
    (clean : CleanName user.username.bytes) :
    [] ∈ recordPieces user ↔
      [] ∈ (user.password.bytes.splitOn newline).tail := by
  have inside : ∀ {rest : List UInt8}, newline ∉ rest →
      newline ∉ user.username.bytes ++ colon :: rest := by
    intro rest absent
    simp [clean.noNewline, absent]
  rcases text_cases newline user.password.bytes with
    empty | ⟨absent, _⟩ | ⟨first, rest, absent, split⟩
  · have pieces : recordPieces user = [userRecord user] := by
      apply List.splitOn_eq_singleton
      rw [userRecord, empty]
      exact inside List.not_mem_nil
    rw [pieces, empty]
    simp [userRecord]
  · have pieces : recordPieces user = [userRecord user] :=
      List.splitOn_eq_singleton (inside absent)
    rw [pieces, List.splitOn_eq_singleton absent]
    simp [userRecord]
  · have record : userRecord user =
        (user.username.bytes ++ colon :: first) ++ newline :: rest := by
      simp [userRecord, split]
    rw [recordPieces, record,
      List.splitOn_append_cons_self_of_not_mem (inside absent), split,
      List.splitOn_append_cons_self_of_not_mem absent]
    simp

/-- Some byte is not among fewer than 256. -/
private theorem exists_byte_notMem
    {bytes : List UInt8} (short : bytes.length < 256) :
    ∃ byte, byte ∉ bytes := by
  by_contra none
  have all : ∀ byte, byte ∈ bytes := by
    simpa using none
  have covered : List.range 256 ⊆ bytes.map UInt8.toNat := by
    intro number member
    rw [List.mem_range] at member
    refine List.mem_map.mpr ⟨UInt8.ofNat number, all _, ?_⟩
    exact UInt8.toNat_ofNat_of_lt' member
  have length := (List.nodup_range.subperm covered).length_le
  rw [List.length_range, List.length_map] at length
  omega

/-- Somebody whose name has nothing in common with the record. -/
private theorem exists_registration_apart (user : UserData) :
    ∃ later : Registration, CleanName later.username.bytes ∧
      newline ∉ later.password.bytes ∧
        lookup (userLine user) later.username = none := by
  have fits := length_userRecord_lt user
  have short : (0 :: colon :: userLine user).length < 256 := by
    simp only [userLine, List.length_cons, List.length_append,
      List.length_nil, userLineRoom, maxIdLen, maxPwLen] at fits ⊢
    omega
  obtain ⟨byte, fresh⟩ := exists_byte_notMem short
  simp only [List.mem_cons, not_or] at fresh
  obtain ⟨nonzero, noColon, apart⟩ := fresh
  have noNewline : byte ≠ newline := by
    rintro rfl
    exact apart (List.mem_append_right _ List.mem_cons_self)
  let later : Registration :=
    { username := ⟨[byte], by simpa using Ne.symm nonzero⟩
      password := ⟨[112], by decide⟩
      usernameNonempty := by simp [CString.strlen]
      passwordNonempty := by decide
      usernameShort := by simp
      passwordShort := by decide }
  refine ⟨later, ⟨?_, ?_⟩, ?_, ?_⟩
  · simpa [later] using Ne.symm noColon
  · simpa [later] using Ne.symm noNewline
  · have password : newline ∉ [(112 : UInt8)] := by decide
    exact password
  · cases found : lookup (userLine user) later.username with
    | none => rfl
    | some other =>
        obtain ⟨member, same⟩ := lookup_some found
        obtain ⟨line, lineMember, parsed⟩ := List.mem_filterMap.mp member
        have own : byte ∈ other.username.bytes := by
          rw [same]
          exact List.mem_cons_self
        exact absurd (subset_of_mem_lines lineMember
          ((parseUserLine_parts parsed).2.1 own)) apart

/-- Users that register later are hidden exactly by a record with an empty
line in it. -/
theorem keepsLaterVisible_iff :
    KeepsLaterVisible user ↔ [] ∉ recordPieces user := by
  rw [← scannable_userLine_iff]
  constructor
  · intro visible
    by_contra hidden
    obtain ⟨later, laterClean, inside, absent⟩ :=
      exists_registration_apart user
    have found := visible [] .nil scannable_nil later laterClean inside
    rw [List.nil_append, register_of_absent absent] at found
    have seen := findUserInFile_found_iff.mp (found rfl)
    have closed : Terminated newline (userLine user) :=
      .inr ⟨userRecord user, rfl⟩
    have stops : ∀ following,
        (readLines newline false userLineRoom
          (userLine user ++ following)).lines =
            (readLines newline false userLineRoom (userLine user)).lines := by
      intro following
      rw [readLines_append closed, Reading.andThen]
      cases ending : (readLines newline false userLineRoom
          (userLine user)).ending with
      | endOfInput => exact absurd ending hidden
      | emptyLine => rfl
      | failure => rfl
    rw [lookup, userRecords, stops] at seen
    rw [lookup, userRecords, seen] at absent
    cases absent
  · intro scannable content terminated contentScannable later laterClean
      inside accepted
    have terminatedAll : Terminated newline (content ++ userLine user) :=
      .append_record _
    have scannableAll :
        Scannable newline userLineRoom (content ++ userLine user) :=
      (scannable_append_iff terminated).mpr ⟨contentScannable, scannable⟩
    cases searched : lookup (content ++ userLine user) later.username with
    | some other =>
        rw [register_of_found searched] at accepted
        cases accepted
    | none =>
        rw [register_of_absent searched]
        apply findUserInFile_found_iff.mpr
        rw [lookup_append terminatedAll scannableAll, searched, lookup,
          userRecords_userLine laterClean inside]
        simp [Registration.userData]

/-- Of a name that fits the line format, only the password decides. -/
theorem keepsLaterVisible_iff_password
    (clean : CleanName user.username.bytes) :
    KeepsLaterVisible user ↔
      [] ∉ (user.password.bytes.splitOn newline).tail := by
  rw [keepsLaterVisible_iff, nil_mem_recordPieces_iff clean]

end Passwords

/-! ## Every file, name and password -/

end RainTyping
