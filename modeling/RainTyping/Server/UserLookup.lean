import RainTyping.Server.DbHandler

/-!
# First-match lookup in the users file

The reading loop of `find_user_in_file` turns the bytes of `users.txt` into a
list of records, and the function answers with the first record of the
requested name.  Appending to a file whose lines are closed keeps every record
that was already seen, so a found record is found forever.  A name that comes
back from the parser has neither a colon nor a newline in it.
-/

namespace RainTyping

open LineReader

/-- A name that the line format of the data files can represent. -/
structure CleanName (name : List UInt8) : Prop where
  noColon : colon ∉ name
  noNewline : newline ∉ name

instance (name : List UInt8) : Decidable (CleanName name) :=
  decidable_of_iff (colon ∉ name ∧ newline ∉ name)
    ⟨fun clean => ⟨clean.1, clean.2⟩,
      fun clean => ⟨clean.noColon, clean.noNewline⟩⟩

/-- The records the loop of `find_user_in_file` goes through. -/
def userRecords (content : List UInt8) : List UserData :=
  (readLines newline false userLineRoom content).lines.filterMap parseUserLine

/-- The first record of a name. -/
def lookup (content : List UInt8) (username : CString) : Option UserData :=
  (userRecords content).find? fun user => user.username.bytes = username.bytes

/-- The loop over the lines stops at the first record of the name. -/
theorem findSome?_matchUserLine
    (username : CString) (lines : List (List UInt8)) :
    lines.findSome? (matchUserLine username) =
      (lines.filterMap parseUserLine).find? fun user =>
        user.username.bytes = username.bytes := by
  induction lines with
  | nil => rfl
  | cons line lines induction =>
      cases parsed : parseUserLine line with
      | none => simp [matchUserLine, parsed, induction]
      | some user =>
          by_cases same : user.username.bytes = username.bytes
          · simp [matchUserLine, parsed, same]
          · simp [matchUserLine, parsed, same, induction]

theorem findUserInFile_succeed
    (content : List UInt8) (username : CString) :
    findUserInFile .succeed (some content) username =
      match lookup content username with
      | some user => .found user
      | none => .absent := by
  simp only [findUserInFile, ReadCalls.succeed, Bool.false_eq_true,
    ↓reduceIte, linesRead, findSome?_matchUserLine]
  rfl

theorem findUserInFile_found_iff
    {content : List UInt8} {username : CString} {user : UserData} :
    findUserInFile .succeed (some content) username = .found user ↔
      lookup content username = some user := by
  rw [findUserInFile_succeed]
  cases lookup content username <;> simp

theorem findUserInFile_absent_iff
    {content : List UInt8} {username : CString} :
    findUserInFile .succeed (some content) username = .absent ↔
      lookup content username = none := by
  rw [findUserInFile_succeed]
  cases lookup content username <;> simp

/-- An absent file is searched like an empty one. -/
theorem findUserInFile_found_getD_iff
    {file : DataFile} {username : CString} {user : UserData} :
    findUserInFile .succeed file username = .found user ↔
      lookup (file.getD []) username = some user := by
  cases file with
  | none => simp [findUserInFile, ReadCalls.succeed, lookup, userRecords]
  | some content => exact findUserInFile_found_iff

/-- A search whose reading fails finds nothing that a complete search does
not find. -/
theorem lookup_of_findUserInFile
    {calls : ReadCalls} {file : DataFile} {username : CString}
    {user : UserData}
    (found : findUserInFile calls file username = .found user) :
    lookup (file.getD []) username = some user := by
  unfold findUserInFile at found
  split at found
  · cases found
  · split at found
    · cases found
    · rename_i content
      split at found
      · cases found
      · rw [findSome?_matchUserLine] at found
        split at found
        · rename_i matched
          cases found
          obtain ⟨later, equality⟩ : (linesRead calls userLineRoom
              content).filterMap parseUserLine <+: userRecords content := by
            apply List.IsPrefix.filterMap
            unfold linesRead
            split
            · exact List.prefix_refl _
            · rename_i count _
              have whole := List.take_append_drop count content
              conv => rhs; rw [← whole]
              exact lines_prefix_of_failing _ _
          rw [lookup, Option.getD_some, ← equality, List.find?_append,
            matched]
          rfl
        · cases found

/-! ## What the parser can return -/

private theorem ofBuffer_subset
    {line : List UInt8} {byte : UInt8}
    (member : byte ∈ (CString.ofBuffer line).bytes) : byte ∈ line :=
  (List.takeWhile_sublist _).subset member

private theorem store_subset
    {capacity : Nat} [NeZero capacity] {buffer : List UInt8} {byte : UInt8}
    (member : byte ∈ (CharArray.store capacity buffer).bytes) :
    byte ∈ buffer :=
  ofBuffer_subset (List.mem_of_mem_take member)

theorem splitAtColon_parts
    {line namePart passwordPart : List UInt8}
    (split : splitAtColon line = some (namePart, passwordPart)) :
    colon ∉ namePart ∧ namePart ⊆ line ∧ passwordPart ⊆ line := by
  unfold splitAtColon at split
  split at split
  · simp only [Option.some.injEq, Prod.mk.injEq] at split
    obtain ⟨rfl, rfl⟩ := split
    refine ⟨?_, (List.takeWhile_sublist _).subset, ?_⟩
    · intro member
      have different := List.mem_takeWhile_imp member
      simp at different
    · exact ((List.tail_sublist _).trans (List.dropWhile_sublist _)).subset
  · cases split

/-- The fields of a parsed record hold bytes of the line only, and its name
has no colon. -/
theorem parseUserLine_parts
    {line : List UInt8} {user : UserData}
    (parsed : parseUserLine line = some user) :
    colon ∉ user.username.bytes ∧ user.username.bytes ⊆ line ∧
      user.password.bytes ⊆ line := by
  unfold parseUserLine at parsed
  cases split : splitAtColon (CString.ofBuffer line).bytes with
  | none => simp [split] at parsed
  | some parts =>
      obtain ⟨namePart, passwordPart⟩ := parts
      obtain ⟨noColon, nameSubset, passwordSubset⟩ := splitAtColon_parts split
      simp only [split, Option.ite_none_right_eq_some,
        Option.some.injEq] at parsed
      obtain ⟨_, rfl⟩ := parsed
      refine ⟨fun member => noColon (store_subset member), ?_, ?_⟩
      · intro byte member
        exact ofBuffer_subset (nameSubset (store_subset member))
      · intro byte member
        exact ofBuffer_subset (passwordSubset (store_subset member))

theorem parseUserLine_clean
    {line : List UInt8} {user : UserData} (inside : newline ∉ line)
    (parsed : parseUserLine line = some user) :
    CleanName user.username.bytes ∧ newline ∉ user.password.bytes := by
  obtain ⟨noColon, nameSubset, passwordSubset⟩ := parseUserLine_parts parsed
  exact ⟨⟨noColon, fun member => inside (nameSubset member)⟩,
    fun member => inside (passwordSubset member)⟩

theorem clean_of_mem_userRecords
    {content : List UInt8} {user : UserData}
    (member : user ∈ userRecords content) :
    CleanName user.username.bytes ∧ newline ∉ user.password.bytes := by
  obtain ⟨line, lineMember, parsed⟩ := List.mem_filterMap.mp member
  exact parseUserLine_clean (delimiter_notMem_of_mem_lines lineMember) parsed

theorem lookup_some
    {content : List UInt8} {username : CString} {user : UserData}
    (found : lookup content username = some user) :
    user ∈ userRecords content ∧ user.username.bytes = username.bytes := by
  refine ⟨List.mem_of_find?_eq_some found, ?_⟩
  simpa using List.find?_some found

theorem clean_of_lookup
    {content : List UInt8} {username : CString} {user : UserData}
    (found : lookup content username = some user) :
    CleanName username.bytes ∧ newline ∉ user.password.bytes := by
  obtain ⟨member, same⟩ := lookup_some found
  rw [← same]
  exact clean_of_mem_userRecords member

/-- Whatever the calls answer, a name that is found is a clean, short one. -/
theorem clean_of_findUserInFile
    {calls : ReadCalls} {file : DataFile} {username : CString}
    {user : UserData}
    (found : findUserInFile calls file username = .found user) :
    user.username.bytes = username.bytes ∧ CleanName username.bytes := by
  have known := lookup_of_findUserInFile found
  exact ⟨(lookup_some known).2, (clean_of_lookup known).1⟩

/-! ## Appending a record -/

theorem userRecords_append
    {content : List UInt8} (terminated : Terminated newline content)
    (scannable : Scannable newline userLineRoom content)
    (following : List UInt8) :
    userRecords (content ++ following) =
      userRecords content ++ userRecords following := by
  rw [userRecords, lines_append_of_scannable terminated scannable,
    List.filterMap_append]
  rfl

/-- What is found in a file with closed lines stays found, whatever is
appended. -/
theorem lookup_append_of_some
    {content : List UInt8} {username : CString} {user : UserData}
    (terminated : Terminated newline content)
    (found : lookup content username = some user)
    (following : List UInt8) :
    lookup (content ++ following) username = some user := by
  obtain ⟨later, equality⟩ : userRecords content <+:
      userRecords (content ++ following) :=
    (lines_prefix_append terminated following).filterMap parseUserLine
  rw [lookup] at found ⊢
  rw [← equality, List.find?_append, found]
  rfl

theorem lookup_append
    {content : List UInt8} (terminated : Terminated newline content)
    (scannable : Scannable newline userLineRoom content)
    (following : List UInt8) (username : CString) :
    lookup (content ++ following) username =
      (lookup content username).or (lookup following username) := by
  rw [lookup, userRecords_append terminated scannable, List.find?_append]
  rfl

/-- The line `add_user_to_file` writes. -/
def userLine (user : UserData) : List UInt8 :=
  userRecord user ++ [newline]

/-- The pieces of a record between its newlines; `read_line` sees each of them
as a line of its own. -/
def recordPieces (user : UserData) : List (List UInt8) :=
  (userRecord user).splitOn newline

theorem readLines_userLine (user : UserData) :
    readLines newline false userLineRoom (userLine user) =
      ⟨(recordPieces user).takeWhile (· ≠ []),
        if [] ∈ recordPieces user then .emptyLine else .endOfInput⟩ :=
  readLines_split (length_userRecord_lt user)

theorem scannable_userLine_iff (user : UserData) :
    Scannable newline userLineRoom (userLine user) ↔
      [] ∉ recordPieces user := by
  rw [Scannable, readLines_userLine]
  split <;> simp_all

/-- The part of a password in front of its first newline. -/
def passwordHead (user : UserData) : List UInt8 :=
  user.password.bytes.takeWhile (· ≠ newline)

theorem recordPieces_of_clean
    {user : UserData} (clean : newline ∉ user.username.bytes) :
    ∃ later, recordPieces user =
      (user.username.bytes ++ colon :: passwordHead user) :: later := by
  by_cases inside : newline ∈ user.password.bytes
  · obtain ⟨before, after, equality, absent⟩ :=
      List.eq_append_cons_of_mem inside
    have head : passwordHead user = before := by
      have kept : ∀ byte ∈ before, decide (byte ≠ newline) = true := by
        intro byte member
        have different : byte ≠ newline := fun same => absent (same ▸ member)
        simpa using different
      rw [passwordHead, equality, List.takeWhile_append_of_pos kept]
      simp
    have split : userRecord user =
        (user.username.bytes ++ colon :: before) ++ newline :: after := by
      simp [userRecord, equality]
    have absentBefore :
        newline ∉ user.username.bytes ++ colon :: before := by
      simp [clean, absent]
    refine ⟨after.splitOn newline, ?_⟩
    rw [recordPieces, split, head,
      List.splitOn_append_cons_self_of_not_mem absentBefore]
  · have head : passwordHead user = user.password.bytes := by
      apply List.takeWhile_eq_self_iff.mpr
      intro byte member
      have different : byte ≠ newline := fun same => inside (same ▸ member)
      simpa using different
    have absent : newline ∉ userRecord user := by
      simp [userRecord, clean, inside]
    refine ⟨[], ?_⟩
    rw [recordPieces, List.splitOn_eq_singleton absent, head]
    rfl

private theorem passwordHead_subset (user : UserData) :
    passwordHead user ⊆ user.password.bytes :=
  (List.takeWhile_sublist _).subset

/-- The first line a written record of a clean name is read back as. -/
theorem parseUserLine_head
    {user : UserData} (clean : CleanName user.username.bytes) :
    parseUserLine (user.username.bytes ++ colon :: passwordHead user) =
      some ⟨user.username, .store maxPwLen (passwordHead user)⟩ := by
  have noNul : (0 : UInt8) ∉ passwordHead user :=
    fun member => user.password.noNul (passwordHead_subset user member)
  have short : (passwordHead user).length < maxPwLen :=
    Nat.lt_of_le_of_lt (List.takeWhile_sublist _).length_le user.password.fits
  rw [parseUserLine_record user.username.noNul noNul clean.noColon
    user.username.fits short, CharArray.store_bytes]

/-- The first record read back from the line of a clean name is its own. -/
theorem lookup_userLine_self
    {user : UserData} (clean : CleanName user.username.bytes) :
    lookup (userLine user) user.username.toCString =
      some ⟨user.username, .store maxPwLen (passwordHead user)⟩ := by
  obtain ⟨later, pieces⟩ := recordPieces_of_clean clean.noNewline
  rw [lookup, userRecords, readLines_userLine, pieces]
  simp [parseUserLine_head clean]

/-- A record without newlines is read back as it was written. -/
theorem userRecords_userLine
    {user : UserData} (clean : CleanName user.username.bytes)
    (inside : newline ∉ user.password.bytes) :
    userRecords (userLine user) = [user] := by
  have head : passwordHead user = user.password.bytes := by
    apply List.takeWhile_eq_self_iff.mpr
    intro byte member
    have different : byte ≠ newline := fun same => inside (same ▸ member)
    simpa using different
  have absent : newline ∉ userRecord user := by
    simp [userRecord, clean.noNewline, inside]
  have pieces : recordPieces user = [userRecord user] :=
    List.splitOn_eq_singleton absent
  have nonempty : userRecord user ≠ [] := by
    simp [userRecord]
  have parsed : parseUserLine (userRecord user) = some user := by
    have headParsed := parseUserLine_head clean
    rw [head, CharArray.store_bytes] at headParsed
    exact headParsed
  rw [userRecords, readLines_userLine, pieces]
  simp [nonempty, parsed]

theorem scannable_userLine
    {user : UserData} (clean : CleanName user.username.bytes)
    (inside : newline ∉ user.password.bytes) :
    Scannable newline userLineRoom (userLine user) := by
  have absent : newline ∉ userRecord user := by
    simp [userRecord, clean.noNewline, inside]
  rw [scannable_userLine_iff, recordPieces, List.splitOn_eq_singleton absent]
  simp [userRecord]

end RainTyping
