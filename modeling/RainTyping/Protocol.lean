import Mathlib.Algebra.GroupWithZero.Nat
import Mathlib.Data.List.TakeWhile

/-!
# Protocol data shared by client and server

Limits, message types, request and response structures of `protocol.h`.  A C
string is its bytes before the terminator.  A `char` array of the protocol
always holds a terminated string, so it is a string shorter than the array.
-/

namespace RainTyping

abbrev maxIdLen : Nat := 32
abbrev maxPwLen : Nat := 72
abbrev maxMsgLen : Nat := 128
abbrev maxLeaderboardEntries : Nat := 10
abbrev maxWordlistWords : Nat := 256
abbrev maxWordStrLen : Nat := 32

instance : NeZero maxIdLen := ⟨by decide⟩
instance : NeZero maxPwLen := ⟨by decide⟩
instance : NeZero maxMsgLen := ⟨by decide⟩

/-- The bytes of a C string in front of its terminator. -/
@[ext] structure CString where
  bytes : List UInt8
  noNul : 0 ∉ bytes
  deriving DecidableEq

namespace CString

private theorem nul_notMem_takeWhile (buffer : List UInt8) :
    (0 : UInt8) ∉ buffer.takeWhile (· ≠ 0) := by
  intro member
  have nonzero := List.mem_takeWhile_imp member
  simp at nonzero

/-- The string that starts at the head of a buffer. -/
def ofBuffer (buffer : List UInt8) : CString :=
  ⟨buffer.takeWhile (· ≠ 0), nul_notMem_takeWhile buffer⟩

def empty : CString :=
  ⟨[], by simp⟩

/-- `strlen`. -/
def strlen (string : CString) : Nat :=
  string.bytes.length

@[simp] theorem ofBuffer_bytes (string : CString) :
    ofBuffer string.bytes = string := by
  apply CString.ext
  apply List.takeWhile_eq_self_iff.mpr
  intro byte member
  have nonzero : byte ≠ 0 := fun zero => string.noNul (zero ▸ member)
  simpa using nonzero

@[simp] theorem empty_bytes : empty.bytes = [] :=
  rfl

end CString

/-- A `char` array of the given size that holds a terminated string. -/
@[ext] structure CharArray (capacity : Nat) extends CString where
  fits : bytes.length < capacity
  deriving DecidableEq

namespace CharArray

variable {capacity : Nat} [positive : NeZero capacity]

/-- `snprintf` into the array, or `strncpy` of all but its last byte followed
by a terminator: the string that starts `buffer`, cut to the array. -/
def store (capacity : Nat) [positive : NeZero capacity]
    (buffer : List UInt8) : CharArray capacity where
  bytes := (CString.ofBuffer buffer).bytes.take (capacity - 1)
  noNul := fun member =>
    (CString.ofBuffer buffer).noNul (List.mem_of_mem_take member)
  fits := by
    have := Nat.pos_of_ne_zero positive.out
    rw [List.length_take]
    omega

def empty : CharArray capacity :=
  ⟨CString.empty, Nat.pos_of_ne_zero positive.out⟩

@[simp] theorem empty_bytes : (empty : CharArray capacity).bytes = [] :=
  rfl

omit positive in
theorem eq_of_bytes_eq
    {left right : CharArray capacity} (same : left.bytes = right.bytes) :
    left = right :=
  CharArray.ext (by simpa using same)

theorem strlen_pos_iff {array : CharArray capacity} :
    array.strlen > 0 ↔ array ≠ .empty := by
  constructor
  · rintro named rfl
    exact absurd named (Nat.lt_irrefl 0)
  · intro named
    apply Nat.pos_of_ne_zero
    intro zero
    exact named (eq_of_bytes_eq (List.length_eq_zero_iff.mp zero))

theorem store_of_fits
    {string : CString} (short : string.bytes.length < capacity) :
    (store capacity string.bytes).bytes = string.bytes := by
  simp only [store, CString.ofBuffer_bytes]
  exact List.take_of_length_le (by omega)

@[simp] theorem store_bytes (array : CharArray capacity) :
    store capacity array.bytes = array :=
  eq_of_bytes_eq (store_of_fits array.fits)

end CharArray

/-- The bytes of a string literal of the source, which is UTF-8. -/
def text (literal : String) : List UInt8 :=
  literal.toUTF8.data.toList

abbrev newline : UInt8 := 10
abbrev colon : UInt8 := 58

@[simp] theorem nul_ne_colon : (0 : UInt8) ≠ colon := by
  decide

@[simp] theorem newline_ne_colon : newline ≠ colon := by
  decide

/-- `RegisterRequest`, and `LoginRequest` with it, as its fields are read. -/
structure Credentials where
  username : CString
  password : CString
  deriving DecidableEq

structure ScoreRecord where
  username : CharArray maxIdLen
  score : Int32
  deriving DecidableEq

/-- `LeaderboardEntry` has the fields of a score record. -/
abbrev LeaderboardEntry := ScoreRecord

abbrev Message := CharArray maxMsgLen

/-- `RegisterResponse`; the login, score and logout responses share it. -/
structure StatusResponse where
  success : Bool
  message : Message
  deriving DecidableEq

/-- The part of `LeaderboardResponse` that is filled in; `none` stands for the
count `-1`. -/
structure LeaderboardResponse where
  entries : Option (List LeaderboardEntry)
  deriving DecidableEq

/-- `WordListResponse` up to its count. -/
structure WordListResponse where
  words : List (CharArray maxWordStrLen)
  fits : words.length ≤ maxWordlistWords
  deriving DecidableEq

def WordListResponse.empty : WordListResponse :=
  ⟨[], Nat.zero_le _⟩

end RainTyping
