import RainTyping.Support.LineReader
import Mathlib.Tactic.ByContra

/-!
# The lines of a text and the lines a reader sees

A text is meant as its lines, each of which is a record or is not.  A bounded
reader reads a long line in pieces, and a reading that fails loses the piece it
has begun.
-/

namespace RainTyping

namespace LineReader

variable {α : Type u} {β : Type v} [DecidableEq α]

/-- The lines of a text; an unclosed last line counts when it is nonempty. -/
def linesOf (delimiter : α) (text : List α) : List (List α) :=
  if (text.splitOn delimiter).getLast? = some [] then
    (text.splitOn delimiter).dropLast
  else text.splitOn delimiter

/-- The record of a line that fits the buffer. -/
def wellFormed (parse : List α → Option β) (room : Nat) (line : List α) :
    Option β :=
  if line.length < room then parse line else none

variable {delimiter : α} {room : Nat} {line : List α} {failing : Bool}

/-! ## Texts line by line -/

@[simp] theorem linesOf_nil : linesOf delimiter [] = [] := by
  simp [linesOf]

theorem linesOf_unclosed (inside : delimiter ∉ line) (nonempty : line ≠ []) :
    linesOf delimiter line = [line] := by
  simp [linesOf, List.splitOn_eq_singleton inside, nonempty]

theorem linesOf_closed (inside : delimiter ∉ line) (rest : List α) :
    linesOf delimiter (line ++ delimiter :: rest) =
      line :: linesOf delimiter rest := by
  have pieces := List.splitOn_ne_nil delimiter rest
  rw [linesOf, List.splitOn_append_cons_self_of_not_mem inside, linesOf]
  cases split : rest.splitOn delimiter with
  | nil => exact absurd split pieces
  | cons first others =>
      rw [List.getLast?_cons_cons, List.dropLast_cons_cons]
      split <;> rfl

theorem text_cases (delimiter : α) (text : List α) :
    text = [] ∨ (delimiter ∉ text ∧ text ≠ []) ∨
      ∃ line rest, delimiter ∉ line ∧ text = line ++ delimiter :: rest := by
  by_cases inside : delimiter ∈ text
  · obtain ⟨line, rest, split, absent⟩ := List.eq_append_cons_of_mem inside
    exact .inr (.inr ⟨line, rest, absent, split⟩)
  · by_cases empty : text = []
    · exact .inl empty
    · exact .inr (.inl ⟨inside, empty⟩)

/-- Induction over the lines of a text. -/
@[elab_as_elim]
theorem text_induction (delimiter : α) {motive : List α → Prop}
    (empty : motive [])
    (unclosed : ∀ text, delimiter ∉ text → text ≠ [] → motive text)
    (closed : ∀ line rest, delimiter ∉ line → motive rest →
      motive (line ++ delimiter :: rest))
    (text : List α) : motive text := by
  generalize size : text.length = length
  induction length using Nat.strongRecOn generalizing text with
  | _ length induction =>
      rcases text_cases delimiter text with
        rfl | ⟨inside, nonempty⟩ | ⟨line, rest, inside, rfl⟩
      · exact empty
      · exact unclosed text inside nonempty
      · exact closed line rest inside
          (induction rest.length (by simp at size; omega) rest rfl)

omit [DecidableEq α] in
/-- Induction over a line that a buffer takes in pieces. -/
@[elab_as_elim]
theorem piece_induction (roomy : 0 < room) {motive : List α → Prop}
    (short : ∀ line, line.length < room → motive line)
    (long : ∀ line, room ≤ line.length → motive (line.drop room) →
      motive line)
    (line : List α) : motive line := by
  generalize size : line.length = length
  induction length using Nat.strongRecOn generalizing line with
  | _ length induction =>
      by_cases fits : line.length < room
      · exact short line fits
      · have shorter : (line.drop room).length < length := by
          rw [List.length_drop]
          omega
        exact long line (Nat.not_lt.mp fits) (induction _ shorter _ rfl)

/-! ## One line of a text -/

private theorem readLine_long
    (inside : delimiter ∉ line) (long : room ≤ line.length)
    (rest : List α) :
    readLine delimiter failing room (line ++ rest) =
      some (line.take room, line.drop room ++ rest) := by
  induction room generalizing line with
  | zero => rfl
  | succ room induction =>
      cases line with
      | nil => exact absurd long (Nat.not_succ_le_zero room)
      | cons first line =>
          simp only [List.mem_cons, not_or] at inside
          have tail := induction inside.2 (Nat.le_of_succ_le_succ long)
          simp [readLine, Ne.symm inside.1, tail]

/-- A reader takes a long line apart. -/
theorem readLines_long
    (roomy : 0 < room) (inside : delimiter ∉ line)
    (long : room ≤ line.length) (rest : List α) :
    readLines delimiter failing room (line ++ rest) =
      (readLines delimiter failing room (line.drop room ++ rest)).prependLine
        (line.take room) := by
  rw [readLines_eq, readLine_long inside long]
  cases piece : line.take room with
  | nil =>
      have noPiece := congrArg List.length piece
      simp only [List.length_take, List.length_nil] at noPiece
      omega
  | cons element piece => rfl

theorem readLines_unclosed
    (inside : delimiter ∉ line) (nonempty : line ≠ [])
    (fits : line.length < room) :
    readLines delimiter false room line = ⟨[line], .endOfInput⟩ := by
  have read : ∀ (room : Nat) (line : List α), delimiter ∉ line →
      line.length < room →
        readLine delimiter false room line = some (line, []) := by
    intro room
    induction room with
    | zero =>
        intro line _ fits
        exact absurd fits (Nat.not_lt_zero _)
    | succ room induction =>
        intro line inside fits
        cases line with
        | nil => rfl
        | cons first line =>
            simp only [List.mem_cons, not_or] at inside
            have tail := induction line inside.2 (Nat.lt_of_succ_lt_succ fits)
            simp [readLine, Ne.symm inside.1, tail]
  rw [readLines_eq, read room line inside fits]
  cases line with
  | nil => exact absurd rfl nonempty
  | cons first line => simp [Reading.prependLine]

/-- A reading that fails loses the piece it has begun. -/
theorem readLine_fails
    (inside : delimiter ∉ line) (fits : line.length < room) :
    readLine delimiter true room line = none := by
  induction line generalizing room with
  | nil =>
      obtain ⟨room, rfl⟩ := Nat.exists_eq_succ_of_ne_zero
        (Nat.ne_of_gt fits)
      rfl
  | cons first line induction =>
      simp only [List.mem_cons, not_or] at inside
      obtain ⟨room, rfl⟩ := Nat.exists_eq_succ_of_ne_zero
        (Nat.ne_of_gt (Nat.zero_lt_of_lt fits))
      have tail := induction inside.2 (Nat.lt_of_succ_lt_succ fits)
      simp [readLine, Ne.symm inside.1, tail]

end LineReader

end RainTyping
