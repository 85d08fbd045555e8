import Mathlib.Data.List.Basic

/-!
# Frames

A frame is a header of a fixed size, which says what kind of frame it is and
how long its body is, and the body.  A stream is parsed greedily, up to a
header whose length is over the limit or to a frame that is cut off.
-/

namespace RainTyping

variable {α : Type u} {Kind : Type v} (size : Nat)
  (decode : List α → Kind × Nat) (limit : Nat)

private def framesWithin : (fuel : Nat) → List α → List (Kind × List α)
  | 0, _ => []
  | fuel + 1, stream =>
      if stream.length < size then []
      else
        let header := decode (stream.take size)
        let rest := stream.drop size
        if limit < header.2 ∨ rest.length < header.2 then []
        else
          (header.1, rest.take header.2) ::
            framesWithin fuel (rest.drop header.2)

/-- The kinds and bodies of the frames of a stream. -/
def frames (stream : List α) : List (Kind × List α) :=
  framesWithin size decode limit stream.length stream

variable {size : Nat} {decode : List α → Kind × Nat} {limit : Nat}
  {stream header body rest : List α}

private theorem framesWithin_eq
    (positive : 0 < size) {first second : Nat}
    (enoughFirst : stream.length ≤ first)
    (enoughSecond : stream.length ≤ second) :
    framesWithin size decode limit first stream =
      framesWithin size decode limit second stream := by
  have nothing : ∀ fuel, framesWithin size decode limit fuel [] = [] := by
    intro fuel
    cases fuel with
    | zero => rfl
    | succ fuel => exact if_pos positive
  induction first generalizing second stream with
  | zero =>
      have empty : stream = [] :=
        List.eq_nil_of_length_eq_zero (Nat.le_zero.mp enoughFirst)
      rw [empty, nothing, nothing]
  | succ first induction =>
      cases second with
      | zero =>
          have empty : stream = [] :=
            List.eq_nil_of_length_eq_zero (Nat.le_zero.mp enoughSecond)
          rw [empty, nothing, nothing]
      | succ second =>
          simp only [framesWithin]
          split
          · rfl
          · rename_i long
            split
            · rfl
            · rw [induction]
              · simp only [List.length_drop]
                omega
              · simp only [List.length_drop]
                omega

theorem frames_short (short : stream.length < size) :
    frames size decode limit stream = [] := by
  rw [frames]
  cases stream with
  | nil => rfl
  | cons item stream => exact if_pos short

private theorem frames_header
    (positive : 0 < size) (sized : header.length = size)
    (rest : List α) :
    frames size decode limit (header ++ rest) =
      if limit < (decode header).2 ∨ rest.length < (decode header).2 then []
      else
        ((decode header).1, rest.take (decode header).2) ::
          frames size decode limit (rest.drop (decode header).2) := by
  obtain ⟨fuel, enough⟩ : ∃ fuel, (header ++ rest).length = fuel + 1 :=
    Nat.exists_eq_succ_of_ne_zero (by rw [List.length_append]; omega)
  have long : ¬(header ++ rest).length < size := by
    rw [List.length_append]
    omega
  rw [frames, enough, framesWithin, if_neg long]
  simp only [List.take_left' sized, List.drop_left' sized]
  split
  · rfl
  · rw [frames, framesWithin_eq positive _ (Nat.le_refl _)]
    rw [List.length_append] at enough
    rw [List.length_drop]
    omega

theorem frames_tooLong
    (positive : 0 < size) (sized : header.length = size)
    (long : limit < (decode header).2) (rest : List α) :
    frames size decode limit (header ++ rest) = [] := by
  rw [frames_header positive sized, if_pos (.inl long)]

theorem frames_cut
    (positive : 0 < size) (sized : header.length = size)
    (short : rest.length < (decode header).2) :
    frames size decode limit (header ++ rest) = [] := by
  rw [frames_header positive sized, if_pos (.inr short)]

theorem frames_message
    (positive : 0 < size) (sized : header.length = size)
    (fits : (decode header).2 ≤ limit)
    (whole : body.length = (decode header).2) (rest : List α) :
    frames size decode limit (header ++ (body ++ rest)) =
      ((decode header).1, body) :: frames size decode limit rest := by
  have complete : ¬(limit < (decode header).2 ∨
      (body ++ rest).length < (decode header).2) := by
    rw [List.length_append]
    omega
  rw [frames_header positive sized, if_neg complete, List.take_left' whole,
    List.drop_left' whole]

end RainTyping
