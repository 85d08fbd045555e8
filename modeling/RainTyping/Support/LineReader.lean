/-!
# Reading delimited lines through a bounded buffer

A reader copies input elements into a buffer until it meets the delimiter, the
end of the input or the end of the buffer.  A reading loop repeats this while
the returned line is nonempty: an empty line stops the loop exactly like the
end of the input.  Input whose every line is closed by a delimiter composes
under append, which is what files grown by appending records rely on.
-/

namespace RainTyping

namespace LineReader

variable {α : Type u} [DecidableEq α]

/-- Copy at most `room` elements up to the next delimiter, which is consumed
but not copied.  `failing` says whether reading past the last element reports
a failure; otherwise it reports the end of the input. -/
def readLine (delimiter : α) (failing : Bool) :
    (room : Nat) → List α → Option (List α × List α)
  | 0, rest => some ([], rest)
  | _ + 1, [] => if failing then none else some ([], [])
  | room + 1, element :: rest =>
      if element = delimiter then
        some ([], rest)
      else
        (readLine delimiter failing room rest).map fun outcome =>
          (element :: outcome.1, outcome.2)

/-- Why a reading loop stopped. -/
inductive Ending where
  | endOfInput
  | emptyLine
  | failure
  deriving DecidableEq, Repr

/-- The lines a reading loop has seen and why it stopped. -/
structure Reading (α : Type u) where
  lines : List (List α)
  ending : Ending

namespace Reading

/-- A first reading continues with a second one when it met the end of its
input. -/
def andThen (first second : Reading α) : Reading α :=
  match first.ending with
  | .endOfInput => ⟨first.lines ++ second.lines, second.ending⟩
  | _ => first

def prependLine (line : List α) (reading : Reading α) : Reading α :=
  ⟨line :: reading.lines, reading.ending⟩

omit [DecidableEq α] in
@[simp] theorem prependLine_andThen
    (line : List α) (first second : Reading α) :
    (first.prependLine line).andThen second =
      (first.andThen second).prependLine line := by
  cases first with
  | mk lines ending => cases ending <;> rfl

end Reading

private def readLinesWithin (delimiter : α) (failing : Bool) (room : Nat) :
    (fuel : Nat) → List α → Reading α
  | 0, _ => ⟨[], .endOfInput⟩
  | fuel + 1, input =>
      match readLine delimiter failing room input with
      | none => ⟨[], .failure⟩
      | some ([], _) =>
          ⟨[], if input.isEmpty then .endOfInput else .emptyLine⟩
      | some (element :: line, rest) =>
          (readLinesWithin delimiter failing room fuel rest).prependLine
            (element :: line)

/-- Read lines while they are nonempty.  Every nonempty line consumes input,
so the input length bounds the number of rounds. -/
def readLines (delimiter : α) (failing : Bool) (room : Nat)
    (input : List α) : Reading α :=
  readLinesWithin delimiter failing room (input.length + 1) input

variable {delimiter : α} {failing : Bool} {room : Nat}

theorem readLine_consumes
    {input rest line : List α} {element : α}
    (read : readLine delimiter failing room input =
      some (element :: line, rest)) :
    rest.length < input.length := by
  have shrinks : ∀ (room : Nat) (input line rest : List α),
      readLine delimiter failing room input = some (line, rest) →
        rest.length ≤ input.length := by
    intro room
    induction room with
    | zero =>
        intro input line rest read
        simp only [readLine, Option.some.injEq, Prod.mk.injEq] at read
        simp [read.2]
    | succ room induction =>
        intro input line rest read
        cases input with
        | nil =>
            cases failing <;> simp [readLine] at read
            simp [read.2]
        | cons first input =>
            by_cases closes : first = delimiter
            · simp only [readLine, closes, ↓reduceIte, Option.some.injEq,
                Prod.mk.injEq] at read
              simp [read.2]
            · simp only [readLine, closes, ↓reduceIte, Option.map_eq_some_iff,
                Prod.exists, Prod.mk.injEq] at read
              obtain ⟨copied, remaining, read, _, rfl⟩ := read
              exact Nat.le_succ_of_le (induction _ _ _ read)
  cases room with
  | zero => simp [readLine] at read
  | succ room =>
      cases input with
      | nil => cases failing <;> simp [readLine] at read
      | cons first input =>
          by_cases closes : first = delimiter
          · simp [readLine, closes] at read
          · simp only [readLine, closes, ↓reduceIte, Option.map_eq_some_iff,
              Prod.exists, Prod.mk.injEq] at read
            obtain ⟨copied, remaining, read, _, rfl⟩ := read
            exact Nat.lt_succ_of_le (shrinks _ _ _ _ read)

private theorem readLinesWithin_eq
    {first second : Nat} {input : List α}
    (enoughFirst : input.length < first)
    (enoughSecond : input.length < second) :
    readLinesWithin delimiter failing room first input =
      readLinesWithin delimiter failing room second input := by
  induction first generalizing second input with
  | zero => exact absurd enoughFirst (Nat.not_lt_zero _)
  | succ first induction =>
      cases second with
      | zero => exact absurd enoughSecond (Nat.not_lt_zero _)
      | succ second =>
          simp only [readLinesWithin]
          cases outcome : readLine delimiter failing room input with
          | none => rfl
          | some result =>
              obtain ⟨line, rest⟩ := result
              cases line with
              | nil => rfl
              | cons element line =>
                  have consumed := readLine_consumes outcome
                  have sameTail :
                      readLinesWithin delimiter failing room first rest =
                        readLinesWithin delimiter failing room second rest :=
                    induction (by omega) (by omega)
                  simp only [sameTail]

theorem readLines_eq (input : List α) :
    readLines delimiter failing room input =
      match readLine delimiter failing room input with
      | none => ⟨[], .failure⟩
      | some ([], _) =>
          ⟨[], if input.isEmpty then .endOfInput else .emptyLine⟩
      | some (element :: line, rest) =>
          (readLines delimiter failing room rest).prependLine
            (element :: line) := by
  rw [readLines, readLinesWithin]
  cases outcome : readLine delimiter failing room input with
  | none => rfl
  | some result =>
      obtain ⟨line, rest⟩ := result
      cases line with
      | nil => rfl
      | cons element line =>
          have consumed := readLine_consumes outcome
          have sameTail :
              readLinesWithin delimiter failing room input.length rest =
                readLines delimiter failing room rest :=
            readLinesWithin_eq consumed (Nat.lt_succ_self _)
          simp only [sameTail]

private theorem delimiter_notMem_readLine
    {input line rest : List α}
    (read : readLine delimiter failing room input = some (line, rest)) :
    delimiter ∉ line := by
  induction room generalizing input line with
  | zero =>
      simp only [readLine, Option.some.injEq, Prod.mk.injEq] at read
      simp [← read.1]
  | succ room induction =>
      cases input with
      | nil =>
          cases failing <;> simp [readLine] at read
          simp [read.1]
      | cons first input =>
          by_cases closes : first = delimiter
          · simp only [readLine, closes, ↓reduceIte, Option.some.injEq,
              Prod.mk.injEq] at read
            simp [← read.1]
          · simp only [readLine, closes, ↓reduceIte, Option.map_eq_some_iff,
              Prod.exists, Prod.mk.injEq] at read
            obtain ⟨copied, remaining, read, rfl, rfl⟩ := read
            simp [Ne.symm closes, induction read]

private theorem readLine_subset
    {input line rest : List α}
    (read : readLine delimiter failing room input = some (line, rest)) :
    line ⊆ input ∧ rest ⊆ input := by
  induction room generalizing input line with
  | zero =>
      simp only [readLine, Option.some.injEq, Prod.mk.injEq] at read
      simp [← read.1, read.2]
  | succ room induction =>
      cases input with
      | nil =>
          cases failing <;> simp [readLine] at read
          simp [read.1, read.2]
      | cons first input =>
          by_cases closes : first = delimiter
          · simp only [readLine, closes, ↓reduceIte, Option.some.injEq,
              Prod.mk.injEq] at read
            simp [← read.1, read.2]
          · simp only [readLine, closes, ↓reduceIte, Option.map_eq_some_iff,
              Prod.exists, Prod.mk.injEq] at read
            obtain ⟨copied, remaining, read, rfl, rfl⟩ := read
            obtain ⟨copiedSubset, restSubset⟩ := induction read
            exact ⟨List.cons_subset_cons first copiedSubset,
              List.subset_cons_of_subset first restSubset⟩

/-- Every line the loop sees is read from a part of the input. -/
theorem exists_readLine_of_mem_lines
    {input line : List α}
    (member : line ∈ (readLines delimiter failing room input).lines) :
    ∃ part rest, part ⊆ input ∧
      readLine delimiter failing room part = some (line, rest) := by
  generalize size : input.length = length
  induction length using Nat.strongRecOn generalizing input with
  | _ length induction =>
      rw [readLines_eq] at member
      cases outcome : readLine delimiter failing room input with
      | none => simp [outcome] at member
      | some result =>
          obtain ⟨first, rest⟩ := result
          cases first with
          | nil => simp [outcome] at member
          | cons element first =>
              have consumed := readLine_consumes outcome
              simp only [outcome, Reading.prependLine, List.mem_cons] at member
              rcases member with rfl | later
              · exact ⟨input, rest, List.Subset.refl input, outcome⟩
              · obtain ⟨part, behind, inside, read⟩ :=
                  induction rest.length (by omega) later rfl
                exact ⟨part, behind,
                  List.Subset.trans inside (readLine_subset outcome).2, read⟩

theorem delimiter_notMem_of_mem_lines
    {input line : List α}
    (member : line ∈ (readLines delimiter failing room input).lines) :
    delimiter ∉ line := by
  obtain ⟨_, _, _, read⟩ := exists_readLine_of_mem_lines member
  exact delimiter_notMem_readLine read

theorem subset_of_mem_lines
    {input line : List α}
    (member : line ∈ (readLines delimiter failing room input).lines) :
    line ⊆ input := by
  obtain ⟨_, _, inside, read⟩ := exists_readLine_of_mem_lines member
  exact List.Subset.trans (readLine_subset read).1 inside

@[simp] theorem readLines_nil :
    readLines delimiter false room [] = ⟨[], .endOfInput⟩ := by
  rw [readLines_eq]
  cases room <;> simp [readLine]

/-! ## A reading that fails -/

/-- A line read without a failure does not depend on what follows. -/
private theorem readLine_of_failing
    {input line rest : List α}
    (read : readLine delimiter true room input = some (line, rest))
    (failing : Bool) (following : List α) :
    readLine delimiter failing room (input ++ following) =
      some (line, rest ++ following) := by
  induction room generalizing input line with
  | zero =>
      simp only [readLine, Option.some.injEq, Prod.mk.injEq] at read
      simp [readLine, ← read.1, ← read.2]
  | succ room induction =>
      cases input with
      | nil => simp [readLine] at read
      | cons first input =>
          by_cases closes : first = delimiter
          · simp only [readLine, closes, ↓reduceIte, Option.some.injEq,
              Prod.mk.injEq] at read
            simp [readLine, closes, ← read.1, ← read.2]
          · simp only [readLine, closes, ↓reduceIte, Option.map_eq_some_iff,
              Prod.exists, Prod.mk.injEq] at read
            obtain ⟨copied, remaining, read, rfl, rfl⟩ := read
            simp [readLine, closes, induction read]

/-- What a loop sees before its reading fails, it sees of any longer input. -/
theorem lines_prefix_of_failing (input following : List α) :
    (readLines delimiter true room input).lines <+:
      (readLines delimiter failing room (input ++ following)).lines := by
  generalize size : input.length = length
  induction length using Nat.strongRecOn generalizing input with
  | _ length induction =>
      rw [readLines_eq input]
      cases outcome : readLine delimiter true room input with
      | none => exact List.nil_prefix
      | some result =>
          obtain ⟨line, rest⟩ := result
          cases line with
          | nil => exact List.nil_prefix
          | cons element line =>
              have consumed := readLine_consumes outcome
              rw [readLines_eq, readLine_of_failing outcome]
              exact List.cons_prefix_cons.mpr
                ⟨rfl, induction rest.length (by omega) rest rfl⟩

/-! ## Input whose lines are all closed -/

/-- Every line of the text is closed by a delimiter. -/
def Terminated (delimiter : α) (text : List α) : Prop :=
  text = [] ∨ ∃ body, text = body ++ [delimiter]

omit [DecidableEq α] in
theorem Terminated.nil : Terminated delimiter ([] : List α) :=
  .inl rfl

omit [DecidableEq α] in
theorem Terminated.append_record
    {text : List α} (record : List α) :
    Terminated delimiter (text ++ (record ++ [delimiter])) :=
  .inr ⟨text ++ record, by simp⟩

omit [DecidableEq α] in
theorem Terminated.tail
    {element : α} {text : List α}
    (terminated : Terminated delimiter (element :: text)) :
    Terminated delimiter text := by
  rcases terminated with empty | ⟨body, equality⟩
  · cases empty
  · cases body with
    | nil =>
        simp only [List.nil_append, List.cons.injEq] at equality
        exact .inl equality.2
    | cons first body =>
        simp only [List.cons_append, List.cons.injEq] at equality
        exact .inr ⟨body, equality.2⟩

/-- Reading a line of a nonempty terminated text never depends on what follows
the text. -/
theorem readLine_append
    (room : Nat) {text : List α} (nonempty : text ≠ [])
    (terminated : Terminated delimiter text) :
    ∃ line rest, Terminated delimiter rest ∧
      (∀ failing following,
        readLine delimiter failing room (text ++ following) =
          some (line, rest ++ following)) := by
  induction room generalizing text with
  | zero => exact ⟨[], text, terminated, fun _ _ => rfl⟩
  | succ room induction =>
      cases text with
      | nil => exact absurd rfl nonempty
      | cons element text =>
          by_cases closes : element = delimiter
          · refine ⟨[], text, terminated.tail, ?_⟩
            intro failing following
            simp [readLine, closes]
          · have tailNonempty : text ≠ [] := by
              rintro rfl
              rcases terminated with empty | ⟨body, equality⟩
              · cases empty
              · cases body with
                | nil => exact closes (by simpa using equality)
                | cons first body => simp at equality
            obtain ⟨line, rest, restTerminated, read⟩ :=
              induction tailNonempty terminated.tail
            refine ⟨element :: line, rest, restTerminated, ?_⟩
            intro failing following
            simp [readLine, closes, read]

/-- Reading a terminated text followed by more input reads the text first. -/
theorem readLines_append
    {text : List α} (terminated : Terminated delimiter text)
    (following : List α) :
    readLines delimiter failing room (text ++ following) =
      (readLines delimiter false room text).andThen
        (readLines delimiter failing room following) := by
  generalize size : text.length = length
  induction length using Nat.strongRecOn generalizing text with
  | _ length induction =>
      by_cases empty : text = []
      · subst empty
        simp [Reading.andThen]
      · obtain ⟨line, rest, restTerminated, read⟩ :=
          readLine_append room empty terminated
        have readAlone :
            readLine delimiter false room text = some (line, rest) := by
          simpa using read false []
        rw [readLines_eq, read, readLines_eq text, readAlone]
        cases line with
        | nil => simp [empty, Reading.andThen]
        | cons element line =>
            have consumed := readLine_consumes readAlone
            have tail := induction rest.length (by omega) restTerminated rfl
            simp [tail]

/-- The reading loop sees the whole text. -/
def Scannable (delimiter : α) (room : Nat) (text : List α) : Prop :=
  (readLines delimiter false room text).ending = .endOfInput

instance (delimiter : α) (room : Nat) (text : List α) :
    Decidable (Scannable delimiter room text) :=
  inferInstanceAs (Decidable (_ = Ending.endOfInput))

theorem scannable_nil : Scannable delimiter room [] := by
  simp [Scannable]

theorem lines_append_of_scannable
    {text : List α} (terminated : Terminated delimiter text)
    (scannable : Scannable delimiter room text) (following : List α) :
    (readLines delimiter failing room (text ++ following)).lines =
      (readLines delimiter false room text).lines ++
        (readLines delimiter failing room following).lines := by
  rw [readLines_append terminated, Reading.andThen, scannable]

/-- The lines of a terminated text are read again before anything appended
to it, whether or not the text is read to its end. -/
theorem lines_prefix_append
    {text : List α} (terminated : Terminated delimiter text)
    (following : List α) :
    (readLines delimiter false room text).lines <+:
      (readLines delimiter failing room (text ++ following)).lines := by
  rw [readLines_append terminated, Reading.andThen]
  cases (readLines delimiter false room text).ending with
  | endOfInput => exact List.prefix_append _ _
  | emptyLine => exact List.prefix_refl _
  | failure => exact List.prefix_refl _

theorem scannable_append_iff
    {text following : List α} (terminated : Terminated delimiter text) :
    Scannable delimiter room (text ++ following) ↔
      Scannable delimiter room text ∧
        Scannable delimiter room following := by
  unfold Scannable
  rw [readLines_append terminated, Reading.andThen]
  cases ending : (readLines delimiter false room text).ending <;>
    simp [ending]

/-! ## Records that fit the buffer -/

theorem readLine_record
    {record rest : List α} (inside : delimiter ∉ record)
    (fits : record.length < room) :
    readLine delimiter failing room (record ++ delimiter :: rest) =
      some (record, rest) := by
  induction record generalizing room with
  | nil =>
      cases room with
      | zero => exact absurd fits (Nat.not_lt_zero _)
      | succ room => simp [readLine]
  | cons element record induction =>
      cases room with
      | zero => exact absurd fits (Nat.not_lt_zero _)
      | succ room =>
          simp only [List.mem_cons, not_or] at inside
          have shorter : record.length < room := by
            simpa using fits
          simp [readLine, Ne.symm inside.1, induction inside.2 shorter]

theorem readLines_record
    {record rest : List α} (nonempty : record ≠ [])
    (inside : delimiter ∉ record) (fits : record.length < room) :
    readLines delimiter failing room (record ++ delimiter :: rest) =
      (readLines delimiter failing room rest).prependLine record := by
  rw [readLines_eq, readLine_record inside fits]
  cases record with
  | nil => exact absurd rfl nonempty
  | cons element record => rfl

/-- Records written one to a line are read back. -/
theorem readLines_records
    {records : List (List α)}
    (wellFormed : ∀ record ∈ records,
      record ≠ [] ∧ delimiter ∉ record ∧ record.length < room) :
    readLines delimiter false room
        (records.flatMap fun record => record ++ [delimiter]) =
      ⟨records, .endOfInput⟩ := by
  induction records with
  | nil => simp
  | cons record records induction =>
      obtain ⟨nonempty, inside, fits⟩ := wellFormed record List.mem_cons_self
      have rest := induction fun other member =>
        wellFormed other (List.mem_cons_of_mem _ member)
      rw [List.flatMap_cons, List.append_assoc, List.singleton_append,
        readLines_record nonempty inside fits, rest, Reading.prependLine]

theorem readLines_emptyLine
    (roomy : 0 < room) (rest : List α) :
    readLines delimiter failing room (delimiter :: rest) =
      ⟨[], .emptyLine⟩ := by
  rw [readLines_eq]
  cases room with
  | zero => exact absurd roomy (Nat.lt_irrefl 0)
  | succ room => simp [readLine]

/-- A delimiter inside a record splits it: the loop sees the pieces before the
first empty one. -/
theorem readLines_split
    {record : List α} (fits : record.length < room) :
    readLines delimiter false room (record ++ [delimiter]) =
      ⟨(record.splitOn delimiter).takeWhile (· ≠ []),
        if [] ∈ record.splitOn delimiter then .emptyLine
        else .endOfInput⟩ := by
  generalize size : record.length = length
  induction length using Nat.strongRecOn generalizing record with
  | _ length induction =>
      by_cases inside : delimiter ∈ record
      · obtain ⟨before, after, rfl, absent⟩ := List.eq_append_cons_of_mem inside
        rw [List.splitOn_append_cons_self_of_not_mem absent]
        simp only [List.length_append, List.length_cons] at fits size
        have tail := induction after.length (by omega) (by omega) rfl
        by_cases empty : before = []
        · subst empty
          simp [readLines_emptyLine (show 0 < room by omega)]
        · have first :
              readLines delimiter false room
                  (before ++ delimiter :: (after ++ [delimiter])) =
                (readLines delimiter false room
                  (after ++ [delimiter])).prependLine before :=
            readLines_record empty absent (by omega)
          simp [first, tail, Reading.prependLine, empty, Ne.symm empty]
      · rw [List.splitOn_eq_singleton inside]
        by_cases empty : record = []
        · subst empty
          simp [readLines_emptyLine (show 0 < room by omega)]
        · rw [readLines_record empty inside fits]
          simp [empty, Reading.prependLine, Ne.symm empty]

end LineReader

end RainTyping
