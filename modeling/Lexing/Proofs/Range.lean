/-
This file proves that a cursor keeps to its range. A fresh cursor, made over a text or over a part
of the text of another cursor, has its range in the text and its position and mark in the range,
whatever offsets it was asked for. Along a run the range stays as it is and neither the position nor
the mark ever passes its end. The position stays behind its beginning as long as moving back is
checked or is never asked to go there, and with checked bounds so does the mark.
-/

import Lexing.Proofs.Motion

namespace Lexing

variable {Caller : Type}

namespace Cursor

/-- The range lies in the text. -/
structure Bounded (cursor : Cursor) : Prop where
  lower_nonneg : 0 ≤ cursor.lower
  lower_le_stop : cursor.lower ≤ cursor.stop
  stop_le_length : cursor.stop ≤ cursor.text.length

/-- A cursor as it is made, over a text or as a sub-view of a cursor in any state. -/
inductive Fresh : Cursor → Prop where
  | ofText (text : Text) (settings : Settings) (start lower : Int) (stop : Option Int) :
      (Cursor.ofText text settings start lower stop).Fresh
  | subView (parent : Cursor) (lower upper : Int) : (parent.subView lower upper).Fresh

/-- The position and the mark lie in the range. -/
structure InRange (cursor : Cursor) : Prop where
  lower_le_position : cursor.lower ≤ cursor.position
  position_le_stop : cursor.position ≤ cursor.stop
  lower_le_start : cursor.lower ≤ cursor.start
  start_le_stop : cursor.start ≤ cursor.stop

/-- The range lies in the text and the position in the range. The mark may be anywhere. -/
structure Placed (cursor : Cursor) : Prop extends Bounded cursor where
  lower_le_position : cursor.lower ≤ cursor.position
  position_le_stop : cursor.position ≤ cursor.stop

/-- The range lies in the text, and the position and the mark in the range. -/
structure Settled (cursor : Cursor) : Prop extends Placed cursor where
  lower_le_start : cursor.lower ≤ cursor.start
  start_le_stop : cursor.start ≤ cursor.stop

/-! ### Fresh cursors -/

section Made

variable (text : Text) (settings : Settings) (start lower : Int) (stop : Option Int)

theorem ofText_stop_inside : 0 ≤ (ofText text settings start lower stop).stop ∧
    (ofText text settings start lower stop).stop ≤ text.length := by
  cases stop with
  | none => exact ⟨Int.natCast_nonneg _, Int.le_refl _⟩
  | some offset =>
    show 0 ≤ max 0 (min offset (text.length : Int)) ∧
      max 0 (min offset (text.length : Int)) ≤ text.length
    omega

theorem ofText_lower : (ofText text settings start lower stop).lower =
    max 0 (min lower (ofText text settings start lower stop).stop) := rfl

theorem ofText_position : (ofText text settings start lower stop).position =
    max (ofText text settings start lower stop).lower
      (min start (ofText text settings start lower stop).stop) := rfl

theorem ofText_start : (ofText text settings start lower stop).start =
    (ofText text settings start lower stop).position := rfl

theorem ofText_bounded : (ofText text settings start lower stop).Bounded := by
  obtain ⟨nonneg, inside⟩ := ofText_stop_inside text settings start lower stop
  have clamped := ofText_lower text settings start lower stop
  exact ⟨by omega, by omega, inside⟩

theorem ofText_inRange : (ofText text settings start lower stop).InRange := by
  obtain ⟨_, ordered, _⟩ := ofText_bounded text settings start lower stop
  have clamped := ofText_position text settings start lower stop
  have marked := ofText_start text settings start lower stop
  exact ⟨by omega, by omega, by omega, by omega⟩

end Made

theorem Fresh.bounded {cursor : Cursor} (fresh : cursor.Fresh) : cursor.Bounded := by
  cases fresh with
  | ofText text settings start lower stop => exact ofText_bounded text settings start lower stop
  | subView parent lower upper => exact ofText_bounded _ _ _ _ _

theorem Fresh.inRange {cursor : Cursor} (fresh : cursor.Fresh) : cursor.InRange := by
  cases fresh with
  | ofText text settings start lower stop => exact ofText_inRange text settings start lower stop
  | subView parent lower upper => exact ofText_inRange _ _ _ _ _

theorem Fresh.settled {cursor : Cursor} (fresh : cursor.Fresh) : cursor.Settled := by
  obtain ⟨above, below, marked, marks⟩ := fresh.inRange
  exact ⟨⟨fresh.bounded, above, below⟩, marked, marks⟩

/-! ### Cursors in their range -/

section Kept

variable {cursor after : Cursor}

theorem SameScope.bounded (same : cursor.SameScope after) (bounded : cursor.Bounded) :
    after.Bounded := by
  obtain ⟨text, lower, stop, _⟩ := same
  obtain ⟨nonneg, ordered, inside⟩ := bounded
  exact ⟨by omega, by omega, by rw [text]; omega⟩

theorem Bounded.stop_nonneg (bounded : cursor.Bounded) : 0 ≤ cursor.stop :=
  Int.le_trans bounded.lower_nonneg bounded.lower_le_stop

theorem Placed.nonneg (placed : cursor.Placed) : 0 ≤ cursor.position :=
  Int.le_trans placed.lower_nonneg placed.lower_le_position

theorem Placed.readable (placed : cursor.Placed) :
    cursor.text.ReadableBetween cursor.position cursor.stop := by
  have nonneg := placed.nonneg
  exact Text.readableBetween_of_le (by omega) placed.stop_le_length

theorem Placed.forward_le_stop (placed : cursor.Placed) (forward : cursor.Forward after) :
    after.position ≤ cursor.stop := by
  have bound := forward.le_max
  rwa [Int.max_eq_right placed.position_le_stop] at bound

theorem Placed.of_forward (placed : cursor.Placed) (forward : cursor.Forward after) :
    after.Placed := by
  refine ⟨forward.toSameScope.bounded placed.toBounded, ?_, ?_⟩
  · rw [forward.lower]
    exact Int.le_trans placed.lower_le_position forward.le
  · rw [forward.stop]
    exact placed.forward_le_stop forward

/-- A cursor in its range may mark its position, checked or not. -/
theorem Placed.allowed (placed : cursor.Placed) : cursor.settings.checksBounds = true →
    cursor.lower ≤ cursor.position ∧ cursor.position ≤ cursor.stop :=
  fun _ => ⟨placed.lower_le_position, placed.position_le_stop⟩

theorem Placed.start_marked (placed : cursor.Placed) :
    (cursor.markAt cursor.position).start = cursor.position :=
  Int.min_eq_left placed.position_le_stop

theorem Placed.marked (placed : cursor.Placed) : (cursor.markAt cursor.position).Settled := by
  refine ⟨⟨⟨placed.lower_nonneg, placed.lower_le_stop, placed.stop_le_length⟩,
    placed.lower_le_position, placed.position_le_stop⟩, ?_, ?_⟩
  · rw [placed.start_marked]
    exact placed.lower_le_position
  · rw [placed.start_marked]
    exact placed.position_le_stop

theorem Settled.of_forward (settled : cursor.Settled) (forward : cursor.Forward after) :
    after.Settled := by
  refine ⟨settled.toPlaced.of_forward forward, ?_, ?_⟩
  · rw [forward.lower, forward.start]
    exact settled.lower_le_start
  · rw [forward.stop, forward.start]
    exact settled.start_le_stop

/-- Only moving back can carry the position out of the range. -/
theorem Placed.of_moves (placed : cursor.Placed) {operation : Operation Caller}
    (moves : cursor.Moves operation after) (onward : ∀ count, operation ≠ .backUp count) :
    after.Placed := by
  cases moves with
  | refused => exact placed
  | scanned scans forward => exact placed.of_forward forward
  | @backedUp count allowed => exact absurd rfl (onward count)
  | marked allowed =>
    exact ⟨⟨placed.lower_nonneg, placed.lower_le_stop, placed.stop_le_length⟩,
      placed.lower_le_position, placed.position_le_stop⟩
  | consumed allowed forward => exact placed.marked.toPlaced.of_forward forward

theorem Placed.perform (placed : cursor.Placed) {operation : Operation Caller}
    (onward : ∀ count, operation ≠ .backUp count) (caller : Caller) :
    (cursor.perform operation caller).1.cursor.Placed :=
  placed.of_moves (perform_moves cursor placed.stop_nonneg operation caller) onward

/-- Steps that move back by no negative count, nor before the range, and mark nothing before it,
keep a cursor in its range. -/
theorem Settled.of_moves (settled : cursor.Settled) {operation : Operation Caller}
    (moves : cursor.Moves operation after)
    (backward : ∀ count, operation = .backUp count → 0 ≤ count ∧
      (cursor.settings.checksBounds = true ∨ cursor.lower ≤ cursor.position - count))
    (marks : ∀ offset, operation = .save (some offset) → cursor.lower ≤ offset) :
    after.Settled := by
  have same := moves.sameScope
  refine ⟨⟨same.bounded settled.toBounded, ?_, ?_⟩, ?_, ?_⟩
  · rw [same.lower]
    exact moves.lower_le_position settled.lower_le_position fun count asked =>
      (backward count asked).2
  · rw [same.stop]
    refine moves.position_le_stop settled.position_le_stop fun count asked => ?_
    have nonneg := (backward count asked).1
    have below := settled.position_le_stop
    omega
  · rw [same.lower]
    exact moves.lower_le_start settled.lower_le_stop settled.lower_le_start
      (.inr settled.lower_le_position) fun offset asked => .inr (marks offset asked)
  · rw [same.stop]
    exact moves.start_le_stop settled.start_le_stop

end Kept

/-! ### What a run keeps -/

section Runs

variable {cursor : Cursor} {operations : List (Operation Caller)} {caller : Caller}

/-- A run stays in the range that it begins with. -/
theorem course_sameScope (bounded : cursor.Bounded) :
    ∀ reached ∈ cursor.course operations caller, cursor.SameScope reached := by
  refine course_preserves (SameScope.refl cursor) fun stage member same => ?_
  obtain ⟨state, performed⟩ := (mem_stages member).2.2
  have nonneg := (same.bounded bounded).stop_nonneg
  rw [performed]
  exact same.trans (perform_moves stage.before nonneg stage.operation state).sameScope

theorem moves_of_mem_stages (bounded : cursor.Bounded) {stage : Stage Caller}
    (member : stage ∈ cursor.stages operations caller) :
    stage.before.Moves stage.operation stage.after := by
  obtain ⟨passed, _, state, performed⟩ := mem_stages member
  have nonneg := ((course_sameScope bounded _ passed).bounded bounded).stop_nonneg
  rw [performed]
  exact perform_moves stage.before nonneg stage.operation state

theorem course_position_le_stop (bounded : cursor.Bounded) (below : cursor.position ≤ cursor.stop)
    (lands : ∀ stage ∈ cursor.stages operations caller, ∀ count,
      stage.operation = .backUp count → stage.before.position ≤ stage.before.stop →
        stage.before.position - count ≤ stage.before.stop) :
    ∀ reached ∈ cursor.course operations caller, reached.position ≤ reached.stop := by
  refine course_preserves below fun stage member within => ?_
  have moves := moves_of_mem_stages bounded member
  rw [moves.sameScope.stop]
  exact moves.position_le_stop within fun count asked => lands stage member count asked within

theorem course_lower_le_position (bounded : cursor.Bounded)
    (above : cursor.lower ≤ cursor.position)
    (lands : cursor.settings.checksBounds = true ∨
      ∀ stage ∈ cursor.stages operations caller, ∀ count, stage.operation = .backUp count →
        stage.before.lower ≤ stage.before.position - count) :
    ∀ reached ∈ cursor.course operations caller, reached.lower ≤ reached.position := by
  refine course_preserves above fun stage member within => ?_
  have moves := moves_of_mem_stages bounded member
  have same := course_sameScope bounded _ (mem_stages member).1
  rw [moves.sameScope.lower]
  refine moves.lower_le_position within fun count asked => ?_
  rw [same.settings]
  exact lands.imp_right fun each => each stage member count asked

theorem course_start_le_stop (bounded : cursor.Bounded) (below : cursor.start ≤ cursor.stop) :
    ∀ reached ∈ cursor.course operations caller, reached.start ≤ reached.stop := by
  refine course_preserves below fun stage member within => ?_
  have moves := moves_of_mem_stages bounded member
  rw [moves.sameScope.stop]
  exact moves.start_le_stop within

theorem course_lower_le_start (bounded : cursor.Bounded) (above : cursor.lower ≤ cursor.start)
    (position : cursor.settings.checksBounds = true ∨
      ∀ reached ∈ cursor.course operations caller, reached.lower ≤ reached.position)
    (marks : cursor.settings.checksBounds = true ∨
      ∀ stage ∈ cursor.stages operations caller, ∀ offset,
        stage.operation = .save (some offset) → stage.before.lower ≤ offset) :
    ∀ reached ∈ cursor.course operations caller, reached.lower ≤ reached.start := by
  refine course_preserves above fun stage member within => ?_
  have moves := moves_of_mem_stages bounded member
  have passed := (mem_stages member).1
  have same := course_sameScope bounded _ passed
  rw [moves.sameScope.lower]
  refine moves.lower_le_start (same.bounded bounded).lower_le_stop within ?_ fun offset asked => ?_
  · rw [same.settings]
    exact position.imp_right fun each => each _ passed
  · rw [same.settings]
    exact marks.imp_right fun each => each stage member offset asked

end Runs

/-! ### The range of a run -/

/-- A run of a fresh cursor that never moves back by a negative count keeps the text, the range and
the settings, and passes the end of the range with neither the position nor the mark. If moving back
is checked, or is never asked to go before the range, the position stays in the range, and with
checked bounds so does the mark. -/
theorem course_inRange {cursor : Cursor} (fresh : cursor.Fresh)
    (operations : List (Operation Caller)) (caller : Caller)
    (backward : ∀ count, .backUp count ∈ operations → 0 ≤ count) :
    ∀ reached ∈ cursor.course operations caller,
      cursor.SameScope reached ∧ reached.Bounded ∧
      reached.position ≤ reached.stop ∧ reached.start ≤ reached.stop ∧
      ((cursor.settings.checksBounds = true ∨
        ∀ stage ∈ cursor.stages operations caller, ∀ count, stage.operation = .backUp count →
          stage.before.lower ≤ stage.before.position - count) →
        reached.lower ≤ reached.position) ∧
      (cursor.settings.checksBounds = true → reached.lower ≤ reached.start) := by
  intro reached member
  have bounded := fresh.bounded
  have inRange := fresh.inRange
  have same := course_sameScope bounded reached member
  have above := inRange.lower_le_position
  refine ⟨same, same.bounded bounded, ?_, ?_, fun lands => ?_, fun checked => ?_⟩
  · refine course_position_le_stop bounded inRange.position_le_stop ?_ reached member
    intro stage inRun count asked within
    have nonneg := backward count (asked ▸ (mem_stages inRun).2.1)
    omega
  · exact course_start_le_stop bounded inRange.start_le_stop reached member
  · exact course_lower_le_position bounded above lands reached member
  · exact course_lower_le_start bounded inRange.lower_le_start (.inl checked) (.inl checked)
      reached member

/-- The standard settings, but for checked bounds. -/
def checking : Settings := { Settings.standard with checkBounds := .flag true }

/-- A run that scans for a literal up to an escape at the end, goes back to the beginning and on,
and marks an offset far behind the end. -/
def excursion : List (Operation Unit) :=
  [.next, .eatQuoted (.text "'") none, .backUp 1, .backUp 1, .save (some 9), .save none]

/-- A checked cursor whose offsets were all asked for outside its text stays in its range. -/
theorem course_inRange_excursion :
    (∀ count, .backUp count ∈ excursion → 0 ≤ count) ∧
      ∀ reached ∈ (ofText "'ab\\" checking (-7) (-2) (some 9)).course
        excursion (), reached.InRange := by
  have backward : ∀ count, .backUp count ∈ excursion → 0 ≤ count := by
    intro count asked
    simp [excursion] at asked
    omega
  refine ⟨backward, fun reached member => ?_⟩
  obtain ⟨_, _, below, marked, position, start⟩ :=
    course_inRange (.ofText _ _ _ _ _) excursion () backward reached member
  exact ⟨position (.inl rfl), below, start rfl, marked⟩

end Cursor

end Lexing
