import Mathlib.Data.List.Basic

/-!
# A reliable stream

A stream hands its items over in the order in which they entered it.  A
writer moves its buffer into the stream in pieces, a reader fills its buffer
from the stream in pieces, and the length of each piece is not theirs to
choose.
-/

namespace RainTyping

variable {α : Type u} {count length : Nat}
  {unsent stream received head tail : List α}

/-- A piece of what is unsent enters the stream. -/
def sendPiece (count : Nat) (unsent stream : List α) :
    Option (List α × List α) :=
  if 0 < count ∧ count ≤ unsent.length then
    some (unsent.drop count, stream ++ unsent.take count)
  else none

/-- A piece of the stream is added to what is received of so many items. -/
def receivePiece (length count : Nat) (received stream : List α) :
    Option (List α × List α) :=
  if 0 < count ∧ count ≤ stream.length ∧ received.length + count ≤ length then
    some (received ++ stream.take count, stream.drop count)
  else none

/-! ## What a piece is -/

theorem sendPiece_eq_some_iff {rest stream' : List α} :
    sendPiece count unsent stream = some (rest, stream') ↔
      0 < count ∧ ∃ piece, piece.length = count ∧ unsent = piece ++ rest ∧
        stream' = stream ++ piece := by
  unfold sendPiece
  constructor
  · intro sent
    split at sent
    · rename_i allowed
      cases sent
      refine ⟨allowed.1, unsent.take count, ?_, ?_, rfl⟩
      · exact List.length_take_of_le allowed.2
      · exact (List.take_append_drop count unsent).symm
    · cases sent
  · intro sent
    obtain ⟨positive, piece, rfl, rfl, rfl⟩ := sent
    rw [if_pos ⟨positive, by simp⟩, List.drop_left, List.take_left]

theorem receivePiece_eq_some_iff {received' rest : List α} :
    receivePiece length count received stream = some (received', rest) ↔
      0 < count ∧ ∃ piece, piece.length = count ∧ stream = piece ++ rest ∧
        received' = received ++ piece ∧ received'.length ≤ length := by
  unfold receivePiece
  constructor
  · intro taken
    split at taken
    · rename_i allowed
      obtain ⟨positive, there, wanted⟩ := allowed
      have sized := List.length_take_of_le there
      cases taken
      refine ⟨positive, stream.take count, sized, ?_, rfl, ?_⟩
      · exact (List.take_append_drop count stream).symm
      · rw [List.length_append, sized]
        exact wanted
    · cases taken
  · intro taken
    obtain ⟨positive, piece, rfl, rfl, rfl, wanted⟩ := taken
    rw [List.length_append] at wanted
    rw [if_pos ⟨positive, by simp, wanted⟩, List.drop_left, List.take_left]

theorem receivePiece_within
    {received' rest : List α}
    (taken : receivePiece length count received stream =
      some (received', rest)) :
    received'.length ≤ length := by
  obtain ⟨_, _, _, _, _, within⟩ := receivePiece_eq_some_iff.mp taken
  exact within

theorem piece_of_receive
    {β : Type v} {finish : List α × List α → β} {result : β}
    (taken : (receivePiece length count received stream).map finish =
      some result) :
    ∃ piece rest, stream = piece ++ rest ∧
      (received ++ piece).length ≤ length ∧
        result = finish (received ++ piece, rest) := by
  obtain ⟨⟨received', rest⟩, got, same⟩ := Option.map_eq_some_iff.mp taken
  obtain ⟨_, piece, _, arrived, rfl, bound⟩ :=
    receivePiece_eq_some_iff.mp got
  exact ⟨piece, rest, arrived, bound, same.symm⟩

theorem sendPiece_one (pending : unsent ≠ []) (stream : List α) :
    ∃ rest stream', sendPiece 1 unsent stream = some (rest, stream') := by
  cases unsent with
  | nil => exact absurd rfl pending
  | cons item rest =>
      exact ⟨rest, stream ++ [item], sendPiece_eq_some_iff.mpr
        ⟨Nat.one_pos, [item], rfl, rfl, rfl⟩⟩

theorem receivePiece_one
    (arrived : stream ≠ []) (short : received.length < length) :
    ∃ received' rest,
      receivePiece length 1 received stream = some (received', rest) := by
  cases stream with
  | nil => exact absurd rfl arrived
  | cons item rest =>
      refine ⟨received ++ [item], rest, receivePiece_eq_some_iff.mpr
        ⟨Nat.one_pos, [item], rfl, rfl, rfl, ?_⟩⟩
      rw [List.length_append]
      exact short

theorem receivePiece_nil : receivePiece length count received [] = none := by
  rw [receivePiece, if_neg]
  intro allowed
  exact absurd (Nat.lt_of_lt_of_le allowed.1 allowed.2.1)
    (Nat.lt_irrefl 0)

theorem sendPiece_all (pending : unsent ≠ []) (stream : List α) :
    sendPiece unsent.length unsent stream = some ([], stream ++ unsent) :=
  sendPiece_eq_some_iff.mpr ⟨List.length_pos_of_ne_nil pending, unsent, rfl,
    (List.append_nil unsent).symm, rfl⟩

theorem receivePiece_all
    {piece : List α} (there : piece ≠ [])
    (wanted : received.length + piece.length ≤ length) (rest : List α) :
    receivePiece length piece.length received (piece ++ rest) =
      some (received ++ piece, rest) :=
  receivePiece_eq_some_iff.mpr ⟨List.length_pos_of_ne_nil there, piece, rfl,
    rfl, rfl, by rwa [List.length_append]⟩

/-! ## What is on its way -/

/-- A message is received, in the stream and unsent, in this order. -/
def OnItsWay (received stream unsent message : List α) : Prop :=
  received ++ (stream ++ unsent) = message

variable {message : List α}

theorem OnItsWay.send
    {rest stream' : List α} (later : List α)
    (onItsWay : OnItsWay received stream (unsent ++ later) message)
    (sent : sendPiece count unsent stream = some (rest, stream')) :
    OnItsWay received stream' (rest ++ later) message := by
  obtain ⟨_, piece, _, rfl, rfl⟩ := sendPiece_eq_some_iff.mp sent
  rw [← onItsWay]
  simp only [OnItsWay, List.append_assoc]

theorem OnItsWay.receive
    {received' rest : List α} (earlier : List α)
    (onItsWay : OnItsWay (earlier ++ received) stream unsent message)
    (taken : receivePiece length count received stream =
      some (received', rest)) :
    OnItsWay (earlier ++ received') rest unsent message := by
  obtain ⟨_, piece, _, rfl, rfl, _⟩ := receivePiece_eq_some_iff.mp taken
  rw [← onItsWay]
  simp only [OnItsWay, List.append_assoc]

/-- A reader that has as many items as a part of the message has this part. -/
theorem OnItsWay.part_received
    (onItsWay : OnItsWay received stream unsent (head ++ tail))
    (complete : received.length = head.length) :
    received = head ∧ stream ++ unsent = tail :=
  List.append_inj onItsWay complete

/-- A reader that has as many items as the message has left none behind. -/
theorem OnItsWay.all_received
    (onItsWay : OnItsWay received stream unsent message)
    (complete : received.length = message.length) :
    received = message ∧ stream = [] ∧ unsent = [] := by
  have whole : OnItsWay received stream unsent (message ++ []) := by
    rwa [List.append_nil]
  obtain ⟨same, nothing⟩ := whole.part_received complete
  exact ⟨same, List.append_eq_nil_iff.mp nothing⟩

/-- A reader that lacks items of the message has them coming. -/
theorem OnItsWay.pending
    (onItsWay : OnItsWay received stream unsent message)
    (short : received.length < message.length) :
    stream ≠ [] ∨ unsent ≠ [] := by
  by_contra nothing
  rw [not_or, not_not, not_not] at nothing
  obtain ⟨rfl, rfl⟩ := nothing
  have all : received = message := by
    simpa [OnItsWay] using onItsWay
  rw [all] at short
  exact Nat.lt_irrefl _ short

/-! ## How much is still to be done -/

/-- Every unsent item has yet to be sent and to be received. -/
def transferWork (unsent stream : List α) : Nat :=
  2 * unsent.length + stream.length

theorem transferWork_send
    {rest stream' : List α} (later : List α)
    (sent : sendPiece count unsent stream = some (rest, stream')) :
    transferWork (rest ++ later) stream' <
      transferWork (unsent ++ later) stream := by
  obtain ⟨positive, piece, rfl, rfl, rfl⟩ := sendPiece_eq_some_iff.mp sent
  simp only [transferWork, List.length_append]
  omega

theorem transferWork_receive
    {received' rest : List α} (unsent : List α)
    (taken : receivePiece length count received stream =
      some (received', rest)) :
    transferWork unsent rest < transferWork unsent stream := by
  obtain ⟨positive, piece, rfl, rfl, rfl, _⟩ :=
    receivePiece_eq_some_iff.mp taken
  simp only [transferWork, List.length_append]
  omega

end RainTyping
