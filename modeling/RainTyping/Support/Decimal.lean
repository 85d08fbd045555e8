import Mathlib.Data.Nat.Digits.Lemmas
import Mathlib.Data.List.TakeWhile

/-!
# Decimal integers as bytes

`printInt` is the `%d` conversion of `printf` and `strtol` the base-ten
conversion of the C library, with its leading white space, optional sign,
longest digit run and saturation at the bounds of `long`.
-/

namespace RainTyping

namespace Decimal

def digitByte (digit : Nat) : UInt8 :=
  UInt8.ofNat (48 + digit)

def isDigit (byte : UInt8) : Bool :=
  48 ≤ byte ∧ byte ≤ 57

def digitValue (byte : UInt8) : Nat :=
  byte.toNat - 48

/-- `isspace` in the C locale. -/
def isSpace (byte : UInt8) : Bool :=
  byte = 32 ∨ (9 ≤ byte ∧ byte ≤ 13)

def printNat (number : Nat) : List UInt8 :=
  if number = 0 then [digitByte 0]
  else (Nat.digits 10 number).reverse.map digitByte

/-- The `%d` conversion. -/
def printInt (number : Int) : List UInt8 :=
  if number < 0 then 45 :: printNat number.natAbs
  else printNat number.natAbs

def readNat (digits : List UInt8) : Nat :=
  digits.foldl (fun number byte => 10 * number + digitValue byte) 0

def longMin : Int := -2 ^ 63
def longMax : Int := 2 ^ 63 - 1

/-- The sign in front of a number and what follows it. -/
def takeSign : List UInt8 → Int × List UInt8
  | 45 :: rest => (-1, rest)
  | 43 :: rest => (1, rest)
  | rest => (1, rest)

/-- `strtol(text, &endptr, 10)`: the value and the text from `endptr` on, or
`none` when no digit was converted and `endptr` is `text`. -/
def strtol (text : List UInt8) : Option (Int × List UInt8) :=
  let signed := takeSign (text.dropWhile isSpace)
  let digits := signed.2.takeWhile isDigit
  if digits = [] then none
  else
    some (max longMin (min longMax (signed.1 * readNat digits)),
      signed.2.dropWhile isDigit)

theorem isDigit_digitByte {digit : Nat} (small : digit < 10) :
    isDigit (digitByte digit) = true := by
  interval_cases digit <;> decide

theorem digitValue_digitByte {digit : Nat} (small : digit < 10) :
    digitValue (digitByte digit) = digit := by
  interval_cases digit <;> decide

theorem printNat_ne_nil (number : Nat) : printNat number ≠ [] := by
  unfold printNat
  split
  · simp
  · rename_i nonzero
    simpa using Nat.digits_ne_nil_iff_ne_zero.mpr nonzero

theorem isDigit_of_mem_printNat
    {number : Nat} {byte : UInt8} (member : byte ∈ printNat number) :
    isDigit byte = true := by
  unfold printNat at member
  split at member
  · simp only [List.mem_singleton] at member
    subst byte
    exact isDigit_digitByte (by decide)
  · obtain ⟨digit, digitMember, rfl⟩ := List.mem_map.mp member
    exact isDigit_digitByte
      (Nat.digits_lt_base (by decide) (List.mem_reverse.mp digitMember))

private theorem readNat_reverse_map
    {digits : List Nat} (small : ∀ digit ∈ digits, digit < 10) :
    readNat (digits.reverse.map digitByte) = Nat.ofDigits 10 digits := by
  rw [readNat, List.foldl_map, List.foldl_reverse]
  induction digits with
  | nil => rfl
  | cons digit digits induction =>
      have tail := induction fun digit member =>
        small digit (List.mem_cons_of_mem _ member)
      rw [List.foldr_cons, tail, Nat.ofDigits_cons,
        digitValue_digitByte (small digit List.mem_cons_self)]
      exact Nat.add_comm _ _

theorem readNat_printNat (number : Nat) :
    readNat (printNat number) = number := by
  unfold printNat
  split
  · rename_i zero
    subst zero
    decide
  · rw [readNat_reverse_map fun digit member =>
      Nat.digits_lt_base (by decide) member, Nat.ofDigits_digits]

private theorem printNat_head
    (number : Nat) :
    ∃ first rest, printNat number = first :: rest ∧
      isDigit first = true := by
  cases printed : printNat number with
  | nil => exact absurd printed (printNat_ne_nil number)
  | cons first rest =>
      have member : first ∈ printNat number := by
        simp [printed]
      exact ⟨first, rest, rfl, isDigit_of_mem_printNat member⟩

theorem takeSign_of_isDigit
    {first : UInt8} {rest : List UInt8} (digit : isDigit first = true) :
    takeSign (first :: rest) = (1, first :: rest) := by
  unfold takeSign
  split
  · rename_i equality
    cases equality
    cases digit
  · rename_i equality
    cases equality
    cases digit
  · rfl

theorem isSpace_of_isDigit
    {byte : UInt8} (digit : isDigit byte = true) : isSpace byte = false := by
  simp only [isDigit, isSpace, Bool.decide_and, Bool.and_eq_true,
    decide_eq_true_eq, UInt8.le_iff_toNat_le, UInt8.reduceToNat,
    Bool.decide_or, Bool.or_eq_false_iff, Bool.and_eq_false_iff,
    decide_eq_false_iff_not] at digit ⊢
  refine ⟨fun equality => ?_, .inr (by omega)⟩
  subst equality
  exact absurd digit.1 (by decide)

/-- Reading back what `%d` printed gives the number, for every number in the
range of `long`. -/
theorem strtol_printInt
    {number : Int} (lower : longMin ≤ number) (upper : number ≤ longMax) :
    strtol (printInt number) = some (number, []) := by
  obtain ⟨first, rest, printed, firstDigit⟩ := printNat_head number.natAbs
  have allDigits : (printNat number.natAbs).takeWhile isDigit =
      printNat number.natAbs :=
    List.takeWhile_eq_self_iff.mpr fun _ => isDigit_of_mem_printNat
  have noneLeft : (printNat number.natAbs).dropWhile isDigit = [] :=
    List.dropWhile_eq_nil_iff.mpr fun _ => isDigit_of_mem_printNat
  have nonempty := printNat_ne_nil number.natAbs
  have value := readNat_printNat number.natAbs
  have clamped : max longMin (min longMax number) = number := by omega
  by_cases negative : number < 0
  · have signed : takeSign ((printInt number).dropWhile isSpace) =
        (-1, printNat number.natAbs) := by
      rw [printInt, if_pos negative, List.dropWhile_cons_of_neg (by decide)]
      rfl
    have restored : -1 * (number.natAbs : Int) = number := by omega
    simp only [strtol, signed, allDigits, noneLeft, nonempty, value, restored,
      clamped, ↓reduceIte]
  · have signed : takeSign ((printInt number).dropWhile isSpace) =
        (1, printNat number.natAbs) := by
      rw [printInt, if_neg negative, printed,
        List.dropWhile_cons_of_neg (by simp [isSpace_of_isDigit firstDigit])]
      exact takeSign_of_isDigit firstDigit
    have restored : 1 * (number.natAbs : Int) = number := by omega
    simp only [strtol, signed, allDigits, noneLeft, nonempty, value, restored,
      clamped, ↓reduceIte]

theorem length_printInt_le
    {number : Int} {width : Nat}
    (positive : 0 < width) (small : number.natAbs < 10 ^ width) :
    (printInt number).length ≤ width + 1 := by
  have magnitude : (printNat number.natAbs).length ≤ width := by
    unfold printNat
    split
    · simpa using Nat.succ_le_of_lt positive
    · simpa using (Nat.digits_length_le_iff (by decide) _).mpr small
  unfold printInt
  split
  · simpa using magnitude
  · omega

theorem mem_printInt
    {number : Int} {byte : UInt8} (member : byte ∈ printInt number) :
    byte = 45 ∨ isDigit byte = true := by
  unfold printInt at member
  split at member
  · rcases List.mem_cons.mp member with sign | digit
    · exact .inl sign
    · exact .inr (isDigit_of_mem_printNat digit)
  · exact .inr (isDigit_of_mem_printNat member)

end Decimal

end RainTyping
