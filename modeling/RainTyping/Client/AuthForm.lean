import RainTyping.Protocol

/-!
# The login form

`auth_ui.c` reads the ID and the password with two prompts from one stream of
keys, hashes the password and fills the request.
-/

namespace RainTyping

/-- What `getch` meets next in the terminal. -/
inductive TermEvent where
  | key (code : Int)
  /-- `getch` answers `ERR`. -/
  | timeout
  | sigint
  deriving DecidableEq

/-- Enter, from the line discipline or the keypad. -/
def IsEnter (code : Int) : Prop :=
  code = 10 ∨ code = 343

instance : DecidablePred IsEnter :=
  fun _ => inferInstanceAs (Decidable (_ ∨ _))

/-- The three codes of the backspace key. -/
def IsBackspace (code : Int) : Prop :=
  code = 263 ∨ code = 127 ∨ code = 8

instance : DecidablePred IsBackspace :=
  fun _ => inferInstanceAs (Decidable (_ ∨ _ ∨ _))

/-- `isprint`, which knows no other single byte in a UTF-8 locale. -/
def IsPrint (code : Int) : Prop :=
  32 ≤ code ∧ code ≤ 126

instance : DecidablePred IsPrint :=
  fun _ => inferInstanceAs (Decidable (_ ∧ _))

/-- The line after a key that does not end it. -/
def editLine (line : List UInt8) (code : Int) : List UInt8 :=
  if IsBackspace code then line.dropLast
  else if IsPrint code then line ++ [.ofNat code.toNat]
  else line

inductive Prompt where
  | entered (line : List UInt8) (rest : List TermEvent)
  | interrupted (rest : List TermEvent)
  /-- All events are taken, and the loop still waits for a key. -/
  | waiting
  deriving DecidableEq

/-- The loop of `custom_get_string` with `buffer[0..i)`; what it leaves is
there for the next `getch`. -/
def getString (maxLen : Nat) (line : List UInt8) : List TermEvent → Prompt
  | [] => if line.length < maxLen - 1 then .waiting else .entered line []
  | event :: rest =>
      if line.length < maxLen - 1 then
        match event with
        | .sigint => .interrupted rest
        | .timeout => getString maxLen line rest
        | .key code =>
            if IsEnter code then .entered line rest
            else getString maxLen (editLine line code) rest
      else .entered line (event :: rest)

def customGetString (maxLen : Nat) (events : List TermEvent) : Prompt :=
  getString maxLen [] events

/-- The size of `pw_plain`. -/
abbrev pwPlainSize : Nat := 64

/-! ## Hashing -/

def hexDigit (digit : Nat) : UInt8 :=
  if digit < 10 then .ofNat (48 + digit) else .ofNat (87 + digit)

def bytesToHex (bytes : List UInt8) : List UInt8 :=
  bytes.flatMap fun byte =>
    [hexDigit (byte.toNat / 16), hexDigit (byte.toNat % 16)]

abbrev sha256DigestLength : Nat := 32

/-- The digest functions of the library, unless one of their calls fails. -/
abbrev Sha256 := CString → Option (Vector UInt8 sha256DigestLength)

def hashPasswordSha256 (sha256 : Sha256) (password : CString) :
    Option CString :=
  (sha256 password).map fun digest => .ofBuffer (bytesToHex digest.toList)

/-! ## The form -/

/-- What `send_login_request` and `send_register_request` put into their
request. -/
def requestOf (username password : CString) : Credentials where
  username := (CharArray.store maxIdLen username.bytes).toCString
  password := (CharArray.store maxPwLen password.bytes).toCString

inductive Form where
  | filled (id password : CString) (rest : List TermEvent)
  | interrupted
  | waiting
  deriving DecidableEq

/-- The two prompts of `auth_ui_main`. -/
def readForm (events : List TermEvent) : Form :=
  match customGetString maxIdLen events with
  | .waiting => .waiting
  | .interrupted _ => .interrupted
  | .entered id rest =>
      match customGetString pwPlainSize rest with
      | .waiting => .waiting
      | .interrupted _ => .interrupted
      | .entered password rest =>
          .filled (.ofBuffer id) (.ofBuffer password) rest

/-- One round of `auth_ui_main`, up to the request it sends. -/
inductive AuthRound where
  | login (request : Credentials) (rest : List TermEvent)
  | register (request : Credentials) (rest : List TermEvent)
  | hashFailed (rest : List TermEvent)
  | invalidOption (rest : List TermEvent)
  | noChoice (rest : List TermEvent)
  | exitNormal
  | exitSignal
  | waiting
  deriving DecidableEq

/-- The form of a chosen option. -/
def authForm (sha256 : Sha256)
    (send : Credentials → List TermEvent → AuthRound)
    (events : List TermEvent) : AuthRound :=
  match readForm events with
  | .waiting => .waiting
  | .interrupted => .exitSignal
  | .filled id password rest =>
      match hashPasswordSha256 sha256 password with
      | some hashed => send (requestOf id hashed) rest
      | none => .hashFailed rest

/-- The keys of the menu are `1`, `2` and `3`. -/
def authRound (sha256 : Sha256) : List TermEvent → AuthRound
  | [] => .waiting
  | .sigint :: _ => .exitSignal
  | .timeout :: rest => .noChoice rest
  | .key code :: rest =>
      if code = 51 then .exitNormal
      else if code = 49 then authForm sha256 .login rest
      else if code = 50 then authForm sha256 .register rest
      else .invalidOption rest

/-! ## Typed lines -/

/-- The user types and does not end the line. -/
def TermEvent.Types : TermEvent → Prop
  | .key code => ¬IsEnter code
  | .timeout => True
  | .sigint => False

instance : DecidablePred TermEvent.Types
  | .key code => inferInstanceAs (Decidable ¬IsEnter code)
  | .timeout => isTrue trivial
  | .sigint => isFalse id

def TermEvent.edit (line : List UInt8) : TermEvent → List UInt8
  | .key code => editLine line code
  | .timeout => line
  | .sigint => line

/-- The line a user sees who types the events from the given line on. -/
def typedFrom (line : List UInt8) (events : List TermEvent) : List UInt8 :=
  events.foldl TermEvent.edit line

/-- The line is always shorter than that while the events are typed. -/
def StaysBelow (room : Nat) (line : List UInt8) (events : List TermEvent) :
    Prop :=
  ∀ typed, typed <+: events → (typedFrom line typed).length < room

variable {maxLen room : Nat} {line stopped : List UInt8} {event : TermEvent}
  {events following rest : List TermEvent} {enter : Int}

theorem staysBelow_nil : StaysBelow room line [] ↔ line.length < room := by
  constructor
  · intro below
    exact below [] (List.prefix_refl _)
  · intro below typed start
    rw [List.prefix_nil.mp start]
    exact below

theorem staysBelow_cons :
    StaysBelow room line (event :: events) ↔
      line.length < room ∧ StaysBelow room (event.edit line) events := by
  constructor
  · intro below
    refine ⟨below [] List.nil_prefix, ?_⟩
    intro typed start
    exact below (event :: typed) (List.cons_prefix_cons.mpr ⟨rfl, start⟩)
  · rintro ⟨here, later⟩ typed start
    rcases List.prefix_cons_iff.mp start with rfl | ⟨tail, rfl, tailStart⟩
    · exact here
    · exact later tail tailStart

theorem getString_cons :
    getString maxLen line (event :: rest) =
      if line.length < maxLen - 1 then
        match event with
        | .sigint => .interrupted rest
        | .timeout => getString maxLen line rest
        | .key code =>
            if IsEnter code then .entered line rest
            else getString maxLen (editLine line code) rest
      else .entered line (event :: rest) := by
  cases event <;> rfl

theorem length_edit_le :
    (event.edit line).length ≤ line.length + 1 := by
  cases event with
  | key code =>
      simp only [TermEvent.edit, editLine]
      split_ifs
      · rw [List.length_dropLast]
        omega
      · simp
      · exact Nat.le_succ _
  | timeout => exact Nat.le_succ _
  | sigint => exact Nat.le_succ _

/-- Few keys do not fill the line. -/
theorem staysBelow_of_length
    (few : line.length + events.length < room) :
    StaysBelow room line events := by
  induction events generalizing line with
  | nil => exact staysBelow_nil.mpr few
  | cons event events induction =>
      rw [List.length_cons] at few
      refine staysBelow_cons.mpr ⟨by omega, ?_⟩
      apply induction
      have longer := @length_edit_le line event
      omega

theorem getString_full (full : ¬line.length < maxLen - 1) :
    getString maxLen line events = .entered line events := by
  cases events with
  | nil => rw [getString, if_neg full]
  | cons event events => rw [getString_cons, if_neg full]

theorem getString_types
    (types : event.Types) (room : line.length < maxLen - 1) :
    getString maxLen line (event :: events) =
      getString maxLen (event.edit line) events := by
  rw [getString_cons, if_pos room]
  cases event with
  | key code => exact if_neg types
  | timeout => rfl
  | sigint => cases types

/-- A line with room to the end is returned whole, and its Enter is taken. -/
theorem getString_entered
    (types : ∀ event ∈ events, event.Types)
    (below : StaysBelow (maxLen - 1) line events) (enters : IsEnter enter) :
    getString maxLen line (events ++ .key enter :: following) =
      .entered (typedFrom line events) following := by
  induction events generalizing line with
  | nil =>
      rw [List.nil_append, getString_cons,
        if_pos (staysBelow_nil.mp below)]
      exact if_pos enters
  | cons event events induction =>
      obtain ⟨room, later⟩ := staysBelow_cons.mp below
      rw [List.cons_append,
        getString_types (types event List.mem_cons_self) room]
      exact induction
        (fun other member => types other (List.mem_cons_of_mem _ member)) later

/-- A line that fills the buffer is returned at once, and the events behind
are left. -/
theorem getString_stops
    (types : ∀ event ∈ events, event.Types)
    (fills : ¬StaysBelow (maxLen - 1) line events)
    (following : List TermEvent) :
    ∃ stopped later, getString maxLen line (events ++ following) =
      .entered stopped (later ++ following) := by
  induction events generalizing line with
  | nil =>
      rw [staysBelow_nil] at fills
      exact ⟨line, [], getString_full fills⟩
  | cons event events induction =>
      by_cases room : line.length < maxLen - 1
      · rw [List.cons_append,
          getString_types (types event List.mem_cons_self) room]
        apply induction
        · exact fun other member => types other (List.mem_cons_of_mem _ member)
        · exact fun below => fills (staysBelow_cons.mpr ⟨room, below⟩)
      · exact ⟨line, event :: events, getString_full room⟩

/-- No prompt reads past an Enter. -/
theorem length_le_of_entered
    (enters : IsEnter enter)
    (entered : getString maxLen line (events ++ .key enter :: following) =
      .entered stopped rest) :
    following.length ≤ rest.length := by
  induction events generalizing line with
  | nil =>
      rw [List.nil_append] at entered
      by_cases room : line.length < maxLen - 1
      · rw [getString_cons, if_pos room] at entered
        simp only [if_pos enters] at entered
        cases entered
        exact Nat.le_refl _
      · rw [getString_full room] at entered
        cases entered
        exact Nat.le_succ _
  | cons event events induction =>
      rw [List.cons_append] at entered
      by_cases room : line.length < maxLen - 1
      · rw [getString_cons, if_pos room] at entered
        cases event with
        | sigint => cases entered
        | timeout => exact induction entered
        | key code =>
            simp only at entered
            split at entered
            · cases entered
              rw [List.length_append, List.length_cons]
              omega
            · exact induction entered
      · rw [getString_full room] at entered
        cases entered
        rw [List.length_cons, List.length_append, List.length_cons]
        omega

/-! ## The request -/

theorem length_ofBuffer_le (buffer : List UInt8) :
    (CString.ofBuffer buffer).bytes.length ≤ buffer.length :=
  (List.takeWhile_sublist _).length_le

theorem length_bytesToHex (bytes : List UInt8) :
    (bytesToHex bytes).length = 2 * bytes.length := by
  induction bytes with
  | nil => rfl
  | cons byte bytes induction =>
      rw [bytesToHex, List.flatMap_cons, List.length_append, List.length_cons,
        ← bytesToHex, induction]
      simp only [List.length_cons, List.length_nil]
      omega

/-- Nothing is cut off an ID that fits its field, nor off a hash. -/
theorem requestOf_hash
    {id : CString} (fits : id.bytes.length < maxIdLen)
    (digest : Vector UInt8 sha256DigestLength) :
    requestOf id (.ofBuffer (bytesToHex digest.toList)) =
      ⟨id, .ofBuffer (bytesToHex digest.toList)⟩ := by
  have short : (CString.ofBuffer (bytesToHex digest.toList)).bytes.length <
      maxPwLen := by
    have length := length_ofBuffer_le (bytesToHex digest.toList)
    rw [length_bytesToHex, Vector.length_toList] at length
    exact Nat.lt_of_le_of_lt length (by decide)
  have sameId : (CharArray.store maxIdLen id.bytes).toCString = id :=
    CString.ext (CharArray.store_of_fits fits)
  have sameHash : (CharArray.store maxPwLen
      (CString.ofBuffer (bytesToHex digest.toList)).bytes).toCString =
        .ofBuffer (bytesToHex digest.toList) :=
    CString.ext (CharArray.store_of_fits short)
  rw [requestOf, sameId, sameHash]

/-- The prompts return the two lines and leave what follows them, and the
request of either option carries the ID and the hash of the password. -/
structure TakesForm (sha256 : Sha256) (events following : List TermEvent)
    (id password : CString) : Prop where
  prompts : readForm events = .filled id password following
  login : ∀ digest, sha256 password = some digest →
    authRound sha256 (.key 49 :: events) =
      .login ⟨id, .ofBuffer (bytesToHex digest.toList)⟩ following
  register : ∀ digest, sha256 password = some digest →
    authRound sha256 (.key 50 :: events) =
      .register ⟨id, .ofBuffer (bytesToHex digest.toList)⟩ following

section Form

variable {sha256 : Sha256} {idEvents pwEvents : List TermEvent}
  {idEnter pwEnter : Int} {id password : CString}

theorem authForm_of_filled
    (filled : readForm events = .filled id password following)
    (fits : id.bytes.length < maxIdLen)
    {digest : Vector UInt8 sha256DigestLength}
    (hashes : sha256 password = some digest)
    (send : Credentials → List TermEvent → AuthRound) :
    authForm sha256 send events =
      send ⟨id, .ofBuffer (bytesToHex digest.toList)⟩ following := by
  simp only [authForm, filled, hashPasswordSha256, hashes, Option.map_some,
    requestOf_hash fits]

theorem takesForm_of_filled
    (filled : readForm events = .filled id password following)
    (fits : id.bytes.length < maxIdLen) :
    TakesForm sha256 events following id password := by
  constructor
  case prompts => exact filled
  case login =>
      intro digest hashes
      exact authForm_of_filled filled fits hashes .login
  case register =>
      intro digest hashes
      exact authForm_of_filled filled fits hashes .register

theorem readForm_of_below
    (idTypes : ∀ event ∈ idEvents, event.Types) (idEnters : IsEnter idEnter)
    (pwTypes : ∀ event ∈ pwEvents, event.Types) (pwEnters : IsEnter pwEnter)
    (idTyped : id.bytes = typedFrom [] idEvents)
    (pwTyped : password.bytes = typedFrom [] pwEvents)
    (idBelow : StaysBelow (maxIdLen - 1) [] idEvents)
    (pwBelow : StaysBelow (pwPlainSize - 1) [] pwEvents) :
    readForm (idEvents ++ .key idEnter ::
      (pwEvents ++ .key pwEnter :: following)) =
        .filled id password following := by
  simp only [readForm, customGetString,
    getString_entered idTypes idBelow idEnters,
    getString_entered pwTypes pwBelow pwEnters, ← idTyped, ← pwTyped,
    CString.ofBuffer_bytes]

/-- When the ID fills its buffer, its Enter ends the password at the latest,
so the keys of the password are left. -/
theorem readForm_of_fills
    (idTypes : ∀ event ∈ idEvents, event.Types) (idEnters : IsEnter idEnter)
    (fills : ¬StaysBelow (maxIdLen - 1) [] idEvents) :
    readForm (idEvents ++ .key idEnter ::
      (pwEvents ++ .key pwEnter :: following)) ≠
        .filled id password following := by
  intro filled
  obtain ⟨stopped, later, entered⟩ := getString_stops idTypes fills
    (.key idEnter :: (pwEvents ++ .key pwEnter :: following))
  simp only [readForm, customGetString, entered] at filled
  split at filled
  · cases filled
  · cases filled
  · rename_i line rest secondEntered
    cases filled
    have left := length_le_of_entered idEnters secondEntered
    rw [List.length_append, List.length_cons] at left
    omega

/-- The prompts take the form as typed when the ID never fills its buffer. -/
theorem takesForm_iff
    (idTypes : ∀ event ∈ idEvents, event.Types) (idEnters : IsEnter idEnter)
    (pwTypes : ∀ event ∈ pwEvents, event.Types) (pwEnters : IsEnter pwEnter)
    (idTyped : id.bytes = typedFrom [] idEvents)
    (pwTyped : password.bytes = typedFrom [] pwEvents)
    (pwBelow : StaysBelow (pwPlainSize - 1) [] pwEvents) :
    TakesForm sha256
        (idEvents ++ .key idEnter :: (pwEvents ++ .key pwEnter :: following))
        following id password ↔
      StaysBelow (maxIdLen - 1) [] idEvents := by
  constructor
  · intro taken
    by_contra fills
    exact readForm_of_fills idTypes idEnters fills taken.prompts
  · intro idBelow
    apply takesForm_of_filled
    · exact readForm_of_below idTypes idEnters pwTypes pwEnters idTyped
        pwTyped idBelow pwBelow
    · rw [idTyped]
      exact Nat.lt_succ_of_lt (idBelow idEvents (List.prefix_refl _))

end Form

/-- The keys of an ASCII text. -/
def keysOf (bytes : List UInt8) : List TermEvent :=
  bytes.map fun byte => .key byte.toNat

/-- SHA-256 of the password `pw`. -/
def sha256OfPw : Sha256 := fun password =>
  if password.bytes = text "pw" then
    some #v[
        48, 201, 82, 250, 177, 34, 195, 249, 117, 159, 2, 166, 217, 92, 55,
        88, 178, 70, 180, 254, 226, 57, 149, 123, 45, 79, 238, 70, 226, 97,
        112, 196]
  else none

theorem takesForm_bob :
    TakesForm sha256OfPw
      (keysOf (text "bob") ++ .key 10 :: (keysOf (text "pw") ++ [.key 10])) []
      (.ofBuffer (text "bob")) (.ofBuffer (text "pw")) := by
  have below : StaysBelow (maxIdLen - 1) [] (keysOf (text "bob")) :=
    staysBelow_of_length (by decide)
  exact (takesForm_iff (by decide) (by decide) (by decide) (by decide)
    (by decide) (by decide) (staysBelow_of_length (by decide))).mpr below

/-- The Enter of an ID of 31 letters ends the password prompt. -/
theorem longId_ends_password :
    ¬ ∀ (sha256 : Sha256) idEvents idEnter pwEvents pwEnter following
        (id password : CString),
      (∀ event ∈ idEvents, event.Types) → IsEnter idEnter →
        (∀ event ∈ pwEvents, event.Types) → IsEnter pwEnter →
        id.bytes = typedFrom [] idEvents → id.bytes ≠ [] →
        password.bytes = typedFrom [] pwEvents →
        StaysBelow maxIdLen [] idEvents →
        StaysBelow (pwPlainSize - 1) [] pwEvents →
          TakesForm sha256
            (idEvents ++ .key idEnter ::
              (pwEvents ++ .key pwEnter :: following))
            following id password := by
  intro taken
  let letters : List UInt8 := List.replicate 31 97
  have fills : ¬StaysBelow (maxIdLen - 1) [] (keysOf letters) := by
    intro below
    have short := below (keysOf letters) (List.prefix_refl _)
    exact absurd short (by decide)
  have form := taken (fun _ => none) (keysOf letters) 10 (keysOf (text "pw"))
    10 [] (.ofBuffer letters) (.ofBuffer (text "pw")) (by decide) (by decide)
    (by decide) (by decide) (by decide) (by decide) (by decide)
    (staysBelow_of_length (by decide)) (staysBelow_of_length (by decide))
  exact readForm_of_fills (by decide) (by decide) fills form.prompts

end RainTyping
