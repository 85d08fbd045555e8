import RainTyping.Support.LineSplitting
import Mathlib.Data.List.Induction

/-!
# Lines in pieces

A bounded reader takes a line in pieces of its buffer's size.  A reading loop
sees the pieces of one line after another, up to the first line whose last
piece is empty.  A loop whose reading fails at the end of the text has lost
the piece that it was reading.
-/

namespace RainTyping

namespace LineReader

variable {α : Type u} {β : Type v} [DecidableEq α]

omit [DecidableEq α] in
private def piecesWithin (room : Nat) : (fuel : Nat) → List α → List (List α)
  | 0, _ => []
  | _ + 1, [] => []
  | fuel + 1, first :: rest =>
      (first :: rest).take room ::
        piecesWithin room fuel ((first :: rest).drop room)

/-- The nonempty pieces of a line. -/
def pieces (room : Nat) (line : List α) : List (List α) :=
  piecesWithin room line.length line

/-- The lines of a text that a delimiter closes. -/
def closedLines (delimiter : α) (text : List α) : List (List α) :=
  (text.splitOn delimiter).dropLast

/-- What a text has behind its last delimiter. -/
def openLine (delimiter : α) (text : List α) : List α :=
  ((text.splitOn delimiter).getLast?).getD []

/-- The pieces of the open line; a failure loses the last one. -/
def openPieces (failing : Bool) (room : Nat) (line : List α) :
    List (List α) :=
  if failing then (pieces room line).filter fun piece => piece.length = room
  else pieces room line

/-- The pieces of the lines, up to the first line that ends a loop. -/
def piecesSeen (room : Nat) : List (List α) → List (List α)
  | [] => []
  | line :: rest =>
      pieces room line ++
        if line.length % room = 0 then [] else piecesSeen room rest

/-- None of the lines ends a loop. -/
def NoneStops (room : Nat) (lines : List (List α)) : Prop :=
  ∀ line ∈ lines, line.length % room ≠ 0

instance (room : Nat) (lines : List (List α)) :
    Decidable (NoneStops room lines) :=
  inferInstanceAs (Decidable (∀ line ∈ lines, _))

variable {delimiter : α} {failing : Bool} {room : Nat} {line : List α}
  {lines : List (List α)} {text : List α}

/-! ## Pieces -/

omit [DecidableEq α] in
@[simp] theorem pieces_nil : pieces room ([] : List α) = [] :=
  rfl

omit [DecidableEq α] in
private theorem piecesWithin_eq
    (roomy : 0 < room) {first second : Nat}
    (enoughFirst : line.length ≤ first) (enoughSecond : line.length ≤ second) :
    piecesWithin room first line = piecesWithin room second line := by
  induction first generalizing second line with
  | zero =>
      have empty : line = [] :=
        List.eq_nil_of_length_eq_zero (Nat.le_zero.mp enoughFirst)
      subst empty
      cases second <;> rfl
  | succ first induction =>
      cases line with
      | nil => cases second <;> rfl
      | cons element line =>
          cases second with
          | zero => exact absurd enoughSecond (Nat.not_succ_le_zero _)
          | succ second =>
              simp only [piecesWithin]
              rw [induction]
              · simp only [List.length_drop, List.length_cons] at *
                omega
              · simp only [List.length_drop, List.length_cons] at *
                omega

omit [DecidableEq α] in
theorem pieces_eq (roomy : 0 < room) (nonempty : line ≠ []) :
    pieces room line = line.take room :: pieces room (line.drop room) := by
  cases line with
  | nil => exact absurd rfl nonempty
  | cons element line =>
      simp only [pieces, List.length_cons, piecesWithin]
      rw [piecesWithin_eq roomy _ (Nat.le_refl _)]
      simp only [List.length_drop, List.length_cons]
      omega

omit [DecidableEq α] in
private theorem pieces_eq_of_long
    (roomy : 0 < room) (long : room ≤ line.length) :
    pieces room line = line.take room :: pieces room (line.drop room) := by
  apply pieces_eq roomy
  exact List.length_pos_iff.mp (Nat.lt_of_lt_of_le roomy long)

omit [DecidableEq α] in
theorem pieces_of_fits
    (nonempty : line ≠ []) (fits : line.length ≤ room) :
    pieces room line = [line] := by
  have positive := List.length_pos_iff.mpr nonempty
  rw [pieces_eq (Nat.lt_of_lt_of_le positive fits) nonempty,
    List.take_of_length_le fits, List.drop_of_length_le fits, pieces_nil]

/-! ## Closed lines and the open one -/

@[simp] theorem closedLines_nil :
    closedLines delimiter ([] : List α) = [] := by
  simp [closedLines]

theorem closedLines_unclosed (inside : delimiter ∉ text) :
    closedLines delimiter text = [] := by
  simp [closedLines, List.splitOn_eq_singleton inside]

theorem closedLines_closed (inside : delimiter ∉ line) (rest : List α) :
    closedLines delimiter (line ++ delimiter :: rest) =
      line :: closedLines delimiter rest := by
  rw [closedLines, List.splitOn_append_cons_self_of_not_mem inside,
    List.dropLast_cons_of_ne_nil (List.splitOn_ne_nil delimiter rest),
    closedLines]

theorem openLine_unclosed (inside : delimiter ∉ text) :
    openLine delimiter text = text := by
  simp [openLine, List.splitOn_eq_singleton inside]

theorem openLine_closed (inside : delimiter ∉ line) (rest : List α) :
    openLine delimiter (line ++ delimiter :: rest) =
      openLine delimiter rest := by
  rw [openLine, List.splitOn_append_cons_self_of_not_mem inside, openLine]
  cases split : rest.splitOn delimiter with
  | nil => exact absurd split (List.splitOn_ne_nil delimiter rest)
  | cons first others => rw [List.getLast?_cons_cons]

/-- The lines of a text are the closed ones and the open one, if there is
something in it. -/
theorem linesOf_eq (delimiter : α) (text : List α) :
    linesOf delimiter text =
      closedLines delimiter text ++
        if openLine delimiter text = [] then []
        else [openLine delimiter text] := by
  have pieces := List.splitOn_ne_nil delimiter text
  have last := List.getLast?_eq_some_getLast pieces
  have whole := List.dropLast_concat_getLast pieces
  rw [linesOf, openLine, closedLines, last, Option.getD_some]
  by_cases empty : (text.splitOn delimiter).getLast pieces = []
  · rw [empty, if_pos rfl, if_pos rfl, List.append_nil]
  · rw [if_neg, if_neg empty, whole]
    exact fun same => empty (Option.some.inj same)

/-! ## What a loop sees -/

omit [DecidableEq α] in
theorem noneStops_nil : NoneStops room ([] : List (List α)) :=
  fun _ member => nomatch member

omit [DecidableEq α] in
theorem piecesSeen_of_noneStops (none : NoneStops room lines) :
    piecesSeen room lines = lines.flatMap (pieces room) := by
  induction lines with
  | nil => rfl
  | cons line lines induction =>
      obtain ⟨first, later⟩ := List.forall_mem_cons.mp none
      rw [piecesSeen, if_neg first, induction later, List.flatMap_cons]

omit [DecidableEq α] in
theorem piecesSeen_append (first second : List (List α)) :
    piecesSeen room (first ++ second) =
      piecesSeen room first ++
        if NoneStops room first then piecesSeen room second else [] := by
  induction first with
  | nil =>
      rw [if_pos noneStops_nil]
      rfl
  | cons line first induction =>
      rw [List.cons_append, piecesSeen, piecesSeen]
      by_cases stops : line.length % room = 0
      · have stopped : ¬NoneStops room (line :: first) :=
          fun none => none line List.mem_cons_self stops
        rw [if_pos stops, if_pos stops, if_neg stopped, List.append_nil,
          List.append_nil]
      · have sameStop :
            NoneStops room (line :: first) ↔ NoneStops room first :=
          List.forall_mem_cons.trans (and_iff_right stops)
        rw [if_neg stops, if_neg stops, induction, List.append_assoc]
        simp only [sameStop]

private theorem readLines_open
    (roomy : 0 < room) (inside : delimiter ∉ line) :
    readLines delimiter failing room line =
      ⟨openPieces failing room line,
        if failing then .failure else .endOfInput⟩ := by
  induction line using piece_induction roomy with
  | short line fits =>
      by_cases empty : line = []
      · subst empty
        rw [readLines_eq]
        obtain ⟨room, rfl⟩ := Nat.exists_eq_succ_of_ne_zero
          (Nat.pos_iff_ne_zero.mp roomy)
        cases failing <;> simp [readLine, openPieces]
      · have alone := pieces_of_fits empty (Nat.le_of_lt fits)
        cases failing with
        | false =>
            rw [readLines_unclosed inside empty fits]
            simp [openPieces, alone]
        | true =>
            rw [readLines_eq, readLine_fails inside fits]
            simp [openPieces, alone, Nat.ne_of_lt fits]
  | long line long induction =>
      have tail := induction
        fun member => inside (List.mem_of_mem_drop member)
      have step : readLines delimiter failing room (line ++ []) = _ :=
        readLines_long roomy inside long []
      rw [List.append_nil, List.append_nil] at step
      rw [step, tail, Reading.prependLine, openPieces, openPieces,
        pieces_eq_of_long roomy long]
      cases failing with
      | false => rfl
      | true => simp [List.length_take_of_le long]

private theorem readLines_closed
    (roomy : 0 < room) (inside : delimiter ∉ line) (rest : List α) :
    readLines delimiter failing room (line ++ delimiter :: rest) =
      if line.length % room = 0 then ⟨pieces room line, .emptyLine⟩
      else
        ⟨pieces room line ++ (readLines delimiter failing room rest).lines,
          (readLines delimiter failing room rest).ending⟩ := by
  induction line using piece_induction roomy with
  | short line fits =>
      by_cases empty : line = []
      · subst empty
        rw [List.length_nil, Nat.zero_mod, if_pos rfl]
        exact readLines_emptyLine roomy rest
      · have some : line.length % room ≠ 0 := by
          rw [Nat.mod_eq_of_lt fits]
          exact fun zero => empty (List.eq_nil_of_length_eq_zero zero)
        rw [readLines_record empty inside fits, if_neg some,
          pieces_of_fits empty (Nat.le_of_lt fits)]
        rfl
  | long line long induction =>
      have tail := induction
        fun member => inside (List.mem_of_mem_drop member)
      have sameEnd :
          (line.drop room).length % room = line.length % room := by
        rw [List.length_drop, ← Nat.mod_eq_sub_mod long]
      rw [readLines_long roomy inside long, tail,
        pieces_eq_of_long roomy long, sameEnd]
      split <;> rfl

private theorem readLines_pieces_open
    (roomy : 0 < room) (inside : delimiter ∉ text) :
    readLines delimiter failing room text =
      if NoneStops room (closedLines delimiter text) then
        ⟨(closedLines delimiter text).flatMap (pieces room) ++
            openPieces failing room (openLine delimiter text),
          if failing then .failure else .endOfInput⟩
      else
        ⟨piecesSeen room (closedLines delimiter text), .emptyLine⟩ := by
  rw [closedLines_unclosed inside, openLine_unclosed inside,
    readLines_open roomy inside, if_pos noneStops_nil]
  rfl

/-- The lines a reading loop sees, and why it ends. -/
theorem readLines_pieces (roomy : 0 < room) (text : List α) :
    readLines delimiter failing room text =
      if NoneStops room (closedLines delimiter text) then
        ⟨(closedLines delimiter text).flatMap (pieces room) ++
            openPieces failing room (openLine delimiter text),
          if failing then .failure else .endOfInput⟩
      else
        ⟨piecesSeen room (closedLines delimiter text), .emptyLine⟩ := by
  induction text using text_induction delimiter with
  | empty => exact readLines_pieces_open roomy List.not_mem_nil
  | unclosed text inside _ => exact readLines_pieces_open roomy inside
  | closed line rest absent tail =>
      rw [readLines_closed roomy absent, tail,
        closedLines_closed absent rest, openLine_closed absent rest]
      by_cases stops : line.length % room = 0
      · have stopped :
            ¬NoneStops room (line :: closedLines delimiter rest) :=
          fun none => none line List.mem_cons_self stops
        rw [if_pos stops, if_neg stopped, piecesSeen, if_pos stops,
          List.append_nil]
      · have sameStop :
            NoneStops room (line :: closedLines delimiter rest) ↔
              NoneStops room (closedLines delimiter rest) :=
          List.forall_mem_cons.trans (and_iff_right stops)
        rw [if_neg stops, piecesSeen, if_neg stops]
        by_cases none : NoneStops room (closedLines delimiter rest)
        · rw [if_pos none, if_pos (sameStop.mpr none), List.flatMap_cons,
            List.append_assoc]
        · rw [if_neg none, if_neg fun all => none (sameStop.mp all)]

/-- Without a failure the open line is read as the closed ones are. -/
theorem lines_eq_piecesSeen (roomy : 0 < room) (text : List α) :
    (readLines delimiter false room text).lines =
      piecesSeen room (linesOf delimiter text) := by
  rw [readLines_pieces roomy, linesOf_eq, piecesSeen_append]
  by_cases none : NoneStops room (closedLines delimiter text)
  · rw [if_pos none, if_pos none, piecesSeen_of_noneStops none]
    by_cases empty : openLine delimiter text = []
    · simp [empty, piecesSeen, openPieces]
    · simp [empty, piecesSeen, openPieces]
  · rw [if_neg none, if_neg none, List.append_nil]

omit [DecidableEq α] in
/-- A loop sees the pieces of a line when no line before it ends the loop. -/
theorem mem_piecesSeen_iff {piece : List α} :
    piece ∈ piecesSeen room lines ↔
      ∃ before line after, lines = before ++ line :: after ∧
        NoneStops room before ∧ piece ∈ pieces room line := by
  constructor
  · intro member
    induction lines with
    | nil => cases member
    | cons first lines induction =>
        rcases List.mem_append.mp member with here | later
        · exact ⟨[], first, lines, rfl, noneStops_nil, here⟩
        · by_cases stops : first.length % room = 0
          · rw [if_pos stops] at later
            cases later
          · rw [if_neg stops] at later
            obtain ⟨before, line, after, rfl, none, seen⟩ := induction later
            exact ⟨first :: before, line, after, rfl,
              List.forall_mem_cons.mpr ⟨stops, none⟩, seen⟩
  · rintro ⟨before, line, after, rfl, none, seen⟩
    rw [piecesSeen_append, if_pos none]
    exact List.mem_append_right _ (List.mem_append_left _ seen)

theorem lines_readLines (roomy : 0 < room) (text : List α) :
    (readLines delimiter failing room text).lines =
      piecesSeen room (closedLines delimiter text) ++
        if NoneStops room (closedLines delimiter text) then
          openPieces failing room (openLine delimiter text)
        else [] := by
  rw [readLines_pieces roomy]
  by_cases none : NoneStops room (closedLines delimiter text)
  · rw [if_pos none, if_pos none, piecesSeen_of_noneStops none]
  · rw [if_neg none, if_neg none, List.append_nil]

/-- The loop gets to a piece of a text. -/
def Reached (delimiter : α) (failing : Bool) (room : Nat)
    (text piece : List α) : Prop :=
  (∃ before line after,
    closedLines delimiter text = before ++ line :: after ∧
      NoneStops room before ∧ piece ∈ pieces room line) ∨
  NoneStops room (closedLines delimiter text) ∧
    piece ∈ openPieces failing room (openLine delimiter text)

theorem mem_lines_iff
    (roomy : 0 < room) {piece : List α} :
    piece ∈ (readLines delimiter failing room text).lines ↔
      Reached delimiter failing room text piece := by
  rw [lines_readLines roomy, List.mem_append, mem_piecesSeen_iff, Reached]
  apply or_congr_right
  split
  · rename_i none
    exact (and_iff_right none).symm
  · rename_i stopped
    exact iff_of_false List.not_mem_nil fun both => stopped both.1

/-! ## Beginnings of a text -/

/-- A text up to the end of one of its lines. -/
def Beginning (delimiter : α) (part text : List α) : Prop :=
  part <+: text ∧ (part = text ∨ Terminated delimiter part)

omit [DecidableEq α] in
theorem Beginning.whole (text : List α) : Beginning delimiter text text :=
  ⟨List.prefix_rfl, .inl rfl⟩

theorem linesOf_append
    {part : List α} (terminated : Terminated delimiter part)
    (rest : List α) :
    linesOf delimiter (part ++ rest) =
      linesOf delimiter part ++ linesOf delimiter rest := by
  rcases terminated with rfl | ⟨body, rfl⟩
  · rw [List.nil_append, linesOf_nil, List.nil_append]
  · rw [List.append_assoc, List.singleton_append]
    induction body using text_induction delimiter with
    | empty =>
        rw [linesOf_closed List.not_mem_nil, linesOf_closed List.not_mem_nil,
          linesOf_nil, List.singleton_append]
    | unclosed body inside _ =>
        rw [linesOf_closed inside, linesOf_closed inside, linesOf_nil,
          List.singleton_append]
    | closed line later absent tail =>
        simp only [List.append_assoc, List.cons_append]
        rw [linesOf_closed absent, linesOf_closed absent, tail,
          List.cons_append]

theorem Beginning.linesOf
    {part : List α} (beginning : Beginning delimiter part text) :
    linesOf delimiter part <+: linesOf delimiter text := by
  obtain ⟨⟨rest, rfl⟩, same | terminated⟩ := beginning
  · exact same ▸ List.prefix_rfl
  · rw [linesOf_append terminated]
    exact List.prefix_append _ _

/-- The first lines of a text are the lines of one of its beginnings. -/
theorem exists_beginning (started : lines <+: linesOf delimiter text) :
    ∃ part, Beginning delimiter part text ∧
      linesOf delimiter part = lines := by
  have nothing (text : List α) : Beginning delimiter [] text :=
    ⟨List.nil_prefix, .inr .nil⟩
  induction text using text_induction delimiter generalizing lines with
  | empty =>
      rw [linesOf_nil, List.prefix_nil] at started
      exact ⟨[], nothing _, started ▸ linesOf_nil⟩
  | unclosed text inside nonempty =>
      have whole := linesOf_unclosed inside nonempty
      rw [whole] at started
      rcases List.prefix_cons_iff.mp started with rfl | ⟨more, rfl, none⟩
      · exact ⟨[], nothing _, linesOf_nil⟩
      · rw [List.prefix_nil.mp none]
        exact ⟨text, .whole text, whole⟩
  | closed line rest inside induction =>
      rw [linesOf_closed inside] at started
      rcases List.prefix_cons_iff.mp started with rfl | ⟨more, rfl, tail⟩
      · exact ⟨[], nothing _, linesOf_nil⟩
      · obtain ⟨part, ⟨⟨others, rfl⟩, ends⟩, rfl⟩ := induction tail
        refine ⟨line ++ delimiter :: part, ⟨⟨others, by simp⟩, ?_⟩,
          linesOf_closed inside part⟩
        rcases ends with same | rfl | ⟨body, rfl⟩
        · exact .inl (by rw [← same])
        · exact .inr (.inr ⟨line, rfl⟩)
        · exact .inr (.inr ⟨line ++ delimiter :: body, by simp⟩)

section Meant

omit [DecidableEq α]

/-- The records a loop makes of the lines, until its list is full. -/
def recordsLoaded (room limit : Nat) (read : List α → Option β)
    (lines : List (List α)) : List β :=
  ((piecesSeen room lines).filterMap read).take limit

/-- The records the lines stand for, as many as the list holds. -/
def recordsMeant (limit : Nat) (meant : List α → Option β)
    (lines : List (List α)) : List β :=
  (lines.filterMap meant).take limit

/-- While the list is not full, the pieces of a line make exactly its record,
and a line behind one that ends the loop has none. -/
def ReadsAsMeant (room limit : Nat) (read meant : List α → Option β)
    (lines : List (List α)) : Prop :=
  ∀ before line after, lines = before ++ line :: after →
    (before.filterMap meant).length < limit →
      if NoneStops room before then
        ((pieces room line).filterMap read).take
            (limit - (before.filterMap meant).length) =
          (meant line).toList
      else meant line = none

variable {limit : Nat} {read meant : List α → Option β}
  {before : List (List α)}

/-- What one more line adds to the records. -/
private theorem filterMap_piecesSeen_concat :
    (piecesSeen room (before ++ [line])).filterMap read =
      (piecesSeen room before).filterMap read ++
        if NoneStops room before then (pieces room line).filterMap read
        else [] := by
  have alone : piecesSeen room [line] = pieces room line := by
    simp [piecesSeen]
  rw [piecesSeen_append, alone, List.filterMap_append]
  split <;> rfl

private theorem filterMap_concat :
    (before ++ [line]).filterMap meant =
      before.filterMap meant ++ (meant line).toList := by
  rw [List.filterMap_append]
  cases parsed : meant line <;> simp [parsed]

private theorem take_append_eq_iff
    {first second more last : List β}
    (same : first.take limit = second.take limit)
    (single : last.length ≤ 1) :
    (first ++ more).take limit = (second ++ last).take limit ↔
      (second.length < limit →
        more.take (limit - second.length) = last) := by
  have lengths := congrArg List.length same
  rw [List.length_take, List.length_take] at lengths
  by_cases full : limit ≤ second.length
  · have long : limit ≤ first.length := by
      omega
    rw [List.take_append_of_le_length long,
      List.take_append_of_le_length full]
    exact iff_of_true same fun room => absurd full (Nat.not_le.mpr room)
  · have room : second.length < limit := Nat.not_le.mp full
    have equal : first = second := by
      rw [List.take_of_length_le (by omega),
        List.take_of_length_le (Nat.le_of_lt room)] at same
      exact same
    subst equal
    have fits : last.take (limit - first.length) = last :=
      List.take_of_length_le (by omega)
    rw [List.take_append, List.take_append, fits]
    constructor
    · intro whole _
      exact List.append_cancel_left whole
    · intro rest
      rw [rest room]

private theorem recordsLoaded_concat_iff
    (same : recordsLoaded room limit read before =
      recordsMeant limit meant before) :
    recordsLoaded room limit read (before ++ [line]) =
        recordsMeant limit meant (before ++ [line]) ↔
      ((before.filterMap meant).length < limit →
        if NoneStops room before then
          ((pieces room line).filterMap read).take
              (limit - (before.filterMap meant).length) =
            (meant line).toList
        else meant line = none) := by
  have single : (meant line).toList.length ≤ 1 := by
    cases meant line <;> simp
  rw [recordsLoaded, recordsMeant, filterMap_piecesSeen_concat,
    filterMap_concat, take_append_eq_iff same single]
  apply imp_congr_right
  intro _
  split
  · exact Iff.rfl
  · rw [List.take_nil]
    cases meant line <;> simp

/-- The beginnings of the lines are all loaded as they are meant exactly when
each line is read as it is meant. -/
theorem recordsLoaded_eq_iff :
    (∀ part, part <+: lines →
      recordsLoaded room limit read part = recordsMeant limit meant part) ↔
      ReadsAsMeant room limit read meant lines := by
  constructor
  · intro same before line after split notFull
    have first : before <+: lines := split ▸ List.prefix_append _ _
    have next : before ++ [line] <+: lines := by
      refine ⟨after, ?_⟩
      rw [split, List.append_assoc, List.singleton_append]
    exact (recordsLoaded_concat_iff (same _ first)).mp (same _ next) notFull
  · intro reads part
    induction part using List.reverseRecOn with
    | nil =>
        intro _
        simp [recordsLoaded, recordsMeant, piecesSeen]
    | append_singleton before line induction =>
        rintro ⟨after, split⟩
        rw [List.append_assoc, List.singleton_append] at split
        have earlier : before <+: lines := ⟨line :: after, split⟩
        exact (recordsLoaded_concat_iff (induction earlier)).mpr
          (reads before line after split.symm)

variable {parse : List α → Option β}

end Meant

end LineReader

end RainTyping
