import RainTyping.Server.RequestDecoding
import RainTyping.Support.StructLayout

/-!
# Messages as bytes

The header of every message, the request structs that the client fills, and
the response structs that the server fills and the client reads.  A response
struct may hold anything behind the terminators and behind its last element.
-/

namespace RainTyping

abbrev msgTypeError : Int32 := 0x00
abbrev msgTypeRegisterResp : Int32 := 0x02
abbrev msgTypeLoginResp : Int32 := 0x04
abbrev msgTypeScoreSubmitResp : Int32 := 0x06
abbrev msgTypeLeaderboardResp : Int32 := 0x08
abbrev msgTypeLogoutResp : Int32 := 0x0A
abbrev msgTypeWordlistResp : Int32 := 0x21

abbrev sizeofInt : Nat := 4
abbrev sizeofMessageHeader : Nat := 6

/-- `sizeof(RegisterResponse)`, and of the other responses with a status. -/
abbrev sizeofStatusResponse : Nat := sizeofInt + maxMsgLen

abbrev sizeofLeaderboardEntry : Nat := maxIdLen + sizeofInt

abbrev sizeofLeaderboardResponse : Nat :=
  sizeofInt + maxLeaderboardEntries * sizeofLeaderboardEntry + maxMsgLen

abbrev sizeofWordListResponse : Nat :=
  sizeofInt + maxWordlistWords * maxWordStrLen

abbrev sizeofErrorResponse : Nat := maxMsgLen

/-! ## Integers and strings -/

def intBytes (value : Int32) : List UInt8 :=
  littleEndian sizeofInt value.toUInt32.toNat

@[simp] theorem length_intBytes (value : Int32) :
    (intBytes value).length = sizeofInt :=
  length_littleEndian _ _

private theorem ofNat_toUInt32 (value : Int32) :
    Int32.ofNat value.toUInt32.toNat = value := by
  rw [← Int32.toNat_toBitVec, Int32.ofNat_bitVecToNat,
    Int32.ofBitVec_toBitVec]

private theorem readInt_four (first second third fourth : UInt8)
    (rest : List UInt8) :
    readInt (first :: second :: third :: fourth :: rest) =
      .ok (Int32.ofNat (ofLittleEndian [first, second, third, fourth])) := by
  have nothing : ofLittleEndian [] = 0 :=
    rfl
  simp only [readInt, ofLittleEndian_cons, nothing, Nat.mul_zero, Nat.add_zero]

theorem readInt_intBytes (value : Int32) (rest : List UInt8) :
    readInt (intBytes value ++ rest) = .ok value := by
  have fits : value.toUInt32.toNat < 256 ^ sizeofInt :=
    value.toUInt32.toNat_lt
  have readBack := ofLittleEndian_littleEndian fits
  simp only [littleEndian] at readBack
  simp only [intBytes, littleEndian, List.cons_append, List.nil_append]
  rw [readInt_four, readBack, ofNat_toUInt32]

namespace CharArray

variable {capacity : Nat}

/-- The array with zeros behind its string, as `strncpy` leaves it. -/
def padded (array : CharArray capacity) : List UInt8 :=
  padTo capacity array.bytes

@[simp] theorem length_padded (array : CharArray capacity) :
    array.padded.length = capacity :=
  length_padTo (Nat.le_of_lt array.fits)

/-- The string of an array in memory, if it is terminated in there. -/
def read (capacity : Nat) (memory : List UInt8) :
    Option (CharArray capacity) :=
  let string := CString.ofBuffer (memory.take capacity)
  if fits : string.bytes.length < capacity then some ⟨string, fits⟩ else none

private theorem padded_eq_cons (array : CharArray capacity) :
    ∃ zeros, array.padded = array.bytes ++ 0 :: zeros := by
  have room : 0 < capacity - array.bytes.length :=
    Nat.sub_pos_of_lt array.fits
  obtain ⟨count, counted⟩ := Nat.exists_eq_succ_of_ne_zero
    (Nat.pos_iff_ne_zero.mp room)
  refine ⟨List.replicate count 0, ?_⟩
  rw [padded, padTo, counted, List.replicate_succ]

theorem ofBuffer_append_nul
    (string : CString) (rest : List UInt8) :
    CString.ofBuffer (string.bytes ++ 0 :: rest) = string := by
  apply CString.ext
  simp only [CString.ofBuffer]
  rw [List.takeWhile_append_of_pos, List.takeWhile_cons_of_neg,
    List.append_nil]
  · simp
  · intro byte member
    have nonzero : byte ≠ 0 := fun zero => string.noNul (zero ▸ member)
    simpa using nonzero

theorem ofBuffer_padded (array : CharArray capacity) (rest : List UInt8) :
    CString.ofBuffer (array.padded ++ rest) = array.toCString := by
  obtain ⟨zeros, padded⟩ := padded_eq_cons array
  rw [padded, List.append_assoc]
  exact ofBuffer_append_nul array.toCString (zeros ++ rest)

theorem nul_mem_padded (array : CharArray capacity) : 0 ∈ array.padded := by
  obtain ⟨zeros, padded⟩ := padded_eq_cons array
  rw [padded]
  exact List.mem_append_right _ List.mem_cons_self

theorem read_padded (array : CharArray capacity) (rest : List UInt8) :
    read capacity (array.padded ++ rest) = some array := by
  have cut : (array.padded ++ rest).take capacity = array.padded :=
    List.take_left' array.length_padded
  have same : CString.ofBuffer array.padded = array.toCString := by
    simpa using ofBuffer_padded array []
  simp only [read, cut, same]
  rw [dif_pos array.fits]

end CharArray

/-! ## The header -/

theorem nothing_short : ([] : List UInt8).length < sizeofMessageHeader := by
  decide

structure MessageHeader where
  type : Int32
  length : UInt16
  deriving DecidableEq

namespace MessageHeader

/-- The packed struct. -/
def bytes (header : MessageHeader) : List UInt8 :=
  intBytes header.type ++ littleEndian 2 header.length.toNat

def ofBytes (memory : List UInt8) : MessageHeader where
  type := .ofNat (ofLittleEndian (memory.take sizeofInt))
  length := .ofNat (ofLittleEndian (memory.drop sizeofInt))

@[simp] theorem length_bytes (header : MessageHeader) :
    header.bytes.length = sizeofMessageHeader := by
  simp [bytes]

theorem bytes_ne_nil (header : MessageHeader) : header.bytes ≠ [] := by
  apply List.ne_nil_of_length_pos
  rw [length_bytes]
  decide

@[simp] theorem ofBytes_bytes (header : MessageHeader) :
    ofBytes header.bytes = header := by
  have typeFits : header.type.toUInt32.toNat < 256 ^ sizeofInt :=
    header.type.toUInt32.toNat_lt
  have lengthFits : header.length.toNat < 256 ^ 2 :=
    header.length.toNat_lt
  have typePart : header.bytes.take sizeofInt = intBytes header.type :=
    List.take_left' (length_intBytes _)
  have lengthPart : header.bytes.drop sizeofInt =
      littleEndian 2 header.length.toNat :=
    List.drop_left' (length_intBytes _)
  rw [ofBytes, typePart, lengthPart, intBytes,
    ofLittleEndian_littleEndian typeFits,
    ofLittleEndian_littleEndian lengthFits, ofNat_toUInt32,
    UInt16.ofNat_toNat]

/-- A header that was read is made of the bytes it was read from. -/
theorem bytes_ofBytes
    {memory : List UInt8} (sized : memory.length = sizeofMessageHeader) :
    (ofBytes memory).bytes = memory := by
  have typeSized : (memory.take sizeofInt).length = sizeofInt :=
    List.length_take_of_le (by rw [sized]; decide)
  have lengthSized : (memory.drop sizeofInt).length = 2 := by
    rw [List.length_drop, sized]
    rfl
  have typeFits := ofLittleEndian_lt (memory.take sizeofInt)
  have lengthFits := ofLittleEndian_lt (memory.drop sizeofInt)
  rw [typeSized] at typeFits
  rw [lengthSized] at lengthFits
  have type : (Int32.ofNat (ofLittleEndian (memory.take
      sizeofInt))).toUInt32.toNat = ofLittleEndian (memory.take sizeofInt) :=
    UInt32.toNat_ofNat_of_lt' typeFits
  have length : (UInt16.ofNat (ofLittleEndian (memory.drop
      sizeofInt))).toNat = ofLittleEndian (memory.drop sizeofInt) :=
    UInt16.toNat_ofNat_of_lt' lengthFits
  have typeBytes := littleEndian_ofLittleEndian (memory.take sizeofInt)
  have lengthBytes := littleEndian_ofLittleEndian (memory.drop sizeofInt)
  rw [typeSized] at typeBytes
  rw [lengthSized] at lengthBytes
  rw [bytes, intBytes, ofBytes, type, length, typeBytes, lengthBytes,
    List.take_append_drop]

end MessageHeader

end RainTyping
