/-
This file says what the current text comes to. Where the mark stands before the position and both
lie in the text, it is the part of the text between them, and as long as that. Elsewhere it still is
a part of the text, but of another length than the way from the mark to the position: a mark before
the text is taken for its beginning, a position behind the text for its end, and a position before
the text counts from its end. Only where such a position follows a mark on the first offset that can
be read, counted in the same way, is the length right again.

A run keeps both offsets in the text as long as it marks no offset before the text and moves back
neither by a negative count nor before the text. This is so even if a mark is asked for behind the
position or the range, and whatever way the operations end.
-/

import Lexing.Proofs.Rounds

namespace Lexing

variable {Caller : Type}

namespace Cursor

/-! ### The length of the current text -/

/-- The current text is as long as the way from the mark to the position, if that leads forward, just
if both are in the text, or if both count from its end and the mark is at its beginning. -/
theorem length_current_iff (cursor : Cursor) :
    (cursor.current.length : Int) = max (cursor.position - cursor.start) 0 ↔
      cursor.position ≤ cursor.start ∨
        (0 ≤ cursor.start ∧ cursor.position ≤ cursor.text.length) ∨
        (cursor.position < 0 ∧ cursor.start = -cursor.text.length) := by
  unfold current
  split
  case isTrue behind =>
    rw [List.length_nil, Int.max_eq_right (by omega)]
    exact ⟨fun _ => .inl behind, fun _ => rfl⟩
  case isFalse before =>
    have ordered : 0 ≤ cursor.position - cursor.start := by omega
    have early : ¬ max cursor.start 0 < 0 := by omega
    rw [Text.length_slice_some, Int.max_eq_left ordered, Text.bound, Text.bound, if_neg early]
    split <;> omega

/-! ### Offsets in the text -/

/-- The range lies in the text, and so do the position and the mark, neither of them behind the
range. Both may be before it. -/
structure Anchored (cursor : Cursor) : Prop extends Bounded cursor where
  position_nonneg : 0 ≤ cursor.position
  position_le_stop : cursor.position ≤ cursor.stop
  start_nonneg : 0 ≤ cursor.start
  start_le_stop : cursor.start ≤ cursor.stop

section Kept

variable {cursor after : Cursor} {operation : Operation Caller}

theorem Settled.anchored (settled : cursor.Settled) : cursor.Anchored :=
  ⟨settled.toBounded, settled.nonneg, settled.position_le_stop,
    Int.le_trans settled.lower_nonneg settled.lower_le_start, settled.start_le_stop⟩

/-- Steps that move back by no negative count, nor before the text, and mark nothing before it, keep
the position and the mark in the text. -/
theorem Anchored.of_moves (anchored : cursor.Anchored) (moves : cursor.Moves operation after)
    (backward : ∀ count, operation = .backUp count → 0 ≤ count ∧ count ≤ cursor.position)
    (marks : ∀ offset, operation = .save (some offset) → 0 ≤ offset) : after.Anchored := by
  have same := moves.sameScope
  refine ⟨same.bounded anchored.toBounded, ?_, ?_, ?_, ?_⟩
  · refine moves.le_position anchored.position_nonneg fun count asked _ => ?_
    exact Int.sub_nonneg_of_le (backward count asked).2
  · rw [same.stop]
    refine moves.position_le_stop anchored.position_le_stop fun count asked => ?_
    have nonneg := (backward count asked).1
    have below := anchored.position_le_stop
    omega
  · exact moves.le_start anchored.stop_nonneg anchored.start_nonneg
      (fun _ => anchored.position_nonneg) fun offset asked _ => marks offset asked
  · rw [same.stop]
    exact moves.start_le_stop anchored.start_le_stop

theorem Anchored.course (anchored : cursor.Anchored) {operations : List (Operation Caller)}
    {caller : Caller}
    (backward : ∀ stage ∈ cursor.stages operations caller, ∀ count,
      stage.operation = .backUp count → 0 ≤ count ∧ count ≤ stage.before.position)
    (marks : ∀ offset, .save (some offset) ∈ operations → 0 ≤ offset) :
    ∀ reached ∈ cursor.course operations caller, reached.Anchored := by
  refine course_preserves anchored fun stage member before => ?_
  refine before.of_moves (moves_of_mem_stages anchored.toBounded member) (backward stage member)
    fun offset asked => marks offset ?_
  rw [← asked]
  exact (mem_stages member).2.1

/-! ### The current text in the text -/

theorem Anchored.current_eq (anchored : cursor.Anchored) :
    cursor.current =
      if cursor.start < cursor.position then
        cursor.text.slice (some cursor.start) (some cursor.position)
      else [] := by
  split
  case isTrue before => exact current_eq_slice anchored.start_nonneg (Int.le_of_lt before)
  case isFalse behind => exact if_pos (Int.not_lt.mp behind)

theorem Anchored.length_current (anchored : cursor.Anchored) :
    (cursor.current.length : Int) = max (cursor.position - cursor.start) 0 :=
  (length_current_iff cursor).mpr <| .inr <| .inl
    ⟨anchored.start_nonneg, Int.le_trans anchored.position_le_stop anchored.stop_le_length⟩

end Kept

/-- Wherever a run of a fresh cursor gets that marks nothing before the text, and moves back neither
by a negative count nor before the text, the current text is the part of the text from the mark to
the position if the mark is before the position, and empty otherwise. It is as long as the way from
the mark to the position. -/
theorem course_current {cursor : Cursor} (fresh : cursor.Fresh)
    (operations : List (Operation Caller)) (caller : Caller)
    (marks : ∀ offset, .save (some offset) ∈ operations → 0 ≤ offset)
    (backward : ∀ stage ∈ cursor.stages operations caller, ∀ count,
      stage.operation = .backUp count → 0 ≤ count ∧ count ≤ stage.before.position) :
    ∀ reached ∈ cursor.course operations caller,
      reached.current =
        (if reached.start < reached.position then
          cursor.text.slice (some reached.start) (some reached.position)
        else []) ∧
      (reached.current.length : Int) = max (reached.position - reached.start) 0 := by
  intro reached member
  have anchored := fresh.settled.anchored.course backward marks reached member
  rw [← (course_sameScope fresh.bounded reached member).text]
  exact ⟨anchored.current_eq, anchored.length_current⟩

/-- A cursor that has gone before its text, with its mark behind the text. -/
def strayed : Cursor := ⟨"let 'a\\", -3, 9, 2, 4, .standard⟩

/-- Looks in vain for the end of a literal, where an escape at the end of the text leads behind it;
goes back before the range, marks an offset far behind it, fails, and takes what is there. -/
def strayedMoves : List (Operation Unit) :=
  [.next, .eatQuoted (.text "'") none, .backUp 5, .save (some 99), .eat (.text ""), .current,
    .save (some 3), .consume (.text "l"), .save (some 0), .next]

/-- A sub-view of it tells of what it has marked all the way. -/
theorem course_current_strayed :
    (strayed.subView 4 99).Fresh ∧
      (∀ offset, .save (some offset) ∈ strayedMoves → 0 ≤ offset) ∧
      (∀ stage ∈ (strayed.subView 4 99).stages strayedMoves (), ∀ count,
        stage.operation = .backUp count → 0 ≤ count ∧ count ≤ stage.before.position) ∧
      ∀ reached ∈ (strayed.subView 4 99).course strayedMoves (),
        reached.current =
          (if reached.start < reached.position then
            strayed.text.slice (some reached.start) (some reached.position)
          else []) ∧
        (reached.current.length : Int) = max (reached.position - reached.start) 0 := by
  have fresh : (strayed.subView 4 99).Fresh := .subView _ _ _
  have marks : ∀ offset, .save (some offset) ∈ strayedMoves → 0 ≤ offset := by
    intro offset asked
    simp [strayedMoves] at asked
    omega
  have backward : ∀ stage ∈ (strayed.subView 4 99).stages strayedMoves (), ∀ count,
      stage.operation = .backUp count → 0 ≤ count ∧ count ≤ stage.before.position := by
    simp only [strayedMoves, stages_cons, stages_nil, List.forall_mem_cons]
    refine ⟨?_, ?_, ?_, ?_, ?_, ?_, ?_, ?_, ?_, ?_, List.forall_mem_nil _⟩ <;>
      intro count asked <;> cases asked
    -- the scan for the literal has not gone back behind the opening quote
    exact ⟨by decide, (eatQuoted_forward ((strayed.subView 4 99).next.cursor) _ _).le⟩
  exact ⟨fresh, marks, backward, course_current fresh strayedMoves () marks backward⟩

end Cursor

end Lexing
