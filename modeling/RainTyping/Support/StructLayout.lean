import Mathlib.Data.Nat.Digits.Defs

/-!
# Numbers and arrays in memory

Numbers of a fixed width in little-endian order, and arrays whose elements
have one size.
-/

namespace RainTyping

/-- A number in so many bytes, the lowest byte first. -/
def littleEndian : Nat → Nat → List UInt8
  | 0, _ => []
  | width + 1, value => .ofNat value :: littleEndian width (value / 256)

def ofLittleEndian (bytes : List UInt8) : Nat :=
  Nat.ofDigits 256 (bytes.map UInt8.toNat)

@[simp] theorem length_littleEndian (width value : Nat) :
    (littleEndian width value).length = width := by
  induction width generalizing value with
  | zero => rfl
  | succ width induction => simp [littleEndian, induction]

theorem ofLittleEndian_cons (byte : UInt8) (bytes : List UInt8) :
    ofLittleEndian (byte :: bytes) =
      byte.toNat + 256 * ofLittleEndian bytes := by
  simp [ofLittleEndian, Nat.ofDigits_cons]

theorem ofLittleEndian_littleEndian
    {width value : Nat} (fits : value < 256 ^ width) :
    ofLittleEndian (littleEndian width value) = value := by
  induction width generalizing value with
  | zero =>
      have zero : value = 0 := by
        simpa using fits
      rw [zero]
      rfl
  | succ width induction =>
      have higher : value / 256 < 256 ^ width := by
        apply Nat.div_lt_of_lt_mul
        rwa [Nat.pow_succ, Nat.mul_comm] at fits
      have lowest : (UInt8.ofNat value).toNat = value % 256 := by
        simp
      rw [littleEndian, ofLittleEndian_cons, induction higher, lowest]
      exact Nat.mod_add_div value 256

theorem ofLittleEndian_lt (bytes : List UInt8) :
    ofLittleEndian bytes < 256 ^ bytes.length := by
  induction bytes with
  | nil => exact Nat.one_pos
  | cons byte bytes induction =>
      have bound := byte.toNat_lt
      rw [ofLittleEndian_cons, List.length_cons, Nat.pow_succ]
      omega

/-- The bytes of a number that was read are the bytes it was read from. -/
theorem littleEndian_ofLittleEndian (bytes : List UInt8) :
    littleEndian bytes.length (ofLittleEndian bytes) = bytes := by
  induction bytes with
  | nil => rfl
  | cons byte bytes induction =>
      have bound := byte.toNat_lt
      have lowest : UInt8.ofNat (byte.toNat + 256 * ofLittleEndian bytes) =
          byte := by
        apply UInt8.toNat_inj.mp
        rw [UInt8.toNat_ofNat']
        omega
      have higher : (byte.toNat + 256 * ofLittleEndian bytes) / 256 =
          ofLittleEndian bytes := by
        omega
      rw [ofLittleEndian_cons, List.length_cons, littleEndian, lowest, higher,
        induction]

/-- Fill up with zeros. -/
def padTo (size : Nat) (memory : List UInt8) : List UInt8 :=
  memory ++ List.replicate (size - memory.length) 0

theorem length_padTo
    {size : Nat} {memory : List UInt8} (fits : memory.length ≤ size) :
    (padTo size memory).length = size := by
  rw [padTo, List.length_append, List.length_replicate]
  exact Nat.add_sub_cancel' fits

/-- Write to memory from an offset on. -/
def overwrite (memory : List UInt8) (offset : Nat) (written : List UInt8) :
    List UInt8 :=
  memory.take offset ++ written ++ memory.drop (offset + written.length)

theorem overwrite_whole
    {memory written : List UInt8} (whole : written.length = memory.length) :
    overwrite memory 0 written = written := by
  rw [overwrite, Nat.zero_add, whole, List.drop_length, List.append_nil,
    List.take_zero, List.nil_append]

section Elements

variable {Byte : Type u} {α : Type v} {size : Nat}

/-- Read so many elements, one after another. -/
def readElements (size : Nat) (read : List Byte → Option α) :
    Nat → List Byte → Option (List α)
  | 0, _ => some []
  | count + 1, memory =>
      (read memory).bind fun element =>
        (readElements size read count (memory.drop size)).map (element :: ·)

/-- Elements that are read back one by one are read back as an array. -/
theorem readElements_flatMap
    {read : List Byte → Option α} {write : α → List Byte} {elements : List α}
    (tail : List Byte)
    (sized : ∀ element ∈ elements, (write element).length = size)
    (reads : ∀ element ∈ elements, ∀ rest,
      read (write element ++ rest) = some element) :
    readElements size read elements.length
      (elements.flatMap write ++ tail) = some elements := by
  induction elements with
  | nil => rfl
  | cons element elements induction =>
      have first := reads element List.mem_cons_self
        (elements.flatMap write ++ tail)
      have skipped : (write element ++ (elements.flatMap write ++ tail)).drop
          size = elements.flatMap write ++ tail :=
        List.drop_left' (sized element List.mem_cons_self)
      have later := induction
        (fun element member => sized element (List.mem_cons_of_mem _ member))
        (fun element member => reads element (List.mem_cons_of_mem _ member))
      rw [List.flatMap_cons, List.append_assoc, List.length_cons,
        readElements, first, skipped, later]
      rfl

/-- The elements of an array are what is read at their places. -/
theorem readElements_eq_some
    {read : List Byte → Option α} {count : Nat} {memory : List Byte}
    {elements : List α}
    (whole : readElements size read count memory = some elements) :
    elements.length = count ∧
      ∀ index element, elements[index]? = some element →
        read (memory.drop (index * size)) = some element := by
  induction count generalizing memory elements with
  | zero =>
      cases whole
      exact ⟨rfl, by simp⟩
  | succ count induction =>
      simp only [readElements, Option.bind_eq_some_iff,
        Option.map_eq_some_iff] at whole
      obtain ⟨first, here, later, rest, rfl⟩ := whole
      obtain ⟨counted, places⟩ := induction rest
      refine ⟨by rw [List.length_cons, counted], ?_⟩
      intro index element found
      cases index with
      | zero =>
          cases found
          rw [Nat.zero_mul, List.drop_zero]
          exact here
      | succ index =>
          have place := places index element found
          rw [List.drop_drop] at place
          rw [Nat.succ_mul, Nat.add_comm]
          exact place

theorem length_flatMap_of_sized
    {write : α → List Byte} {elements : List α}
    (sized : ∀ element ∈ elements, (write element).length = size) :
    (elements.flatMap write).length = elements.length * size := by
  rw [List.length_flatMap, List.map_congr_left sized, List.map_const',
    List.sum_replicate_nat]

end Elements

end RainTyping
