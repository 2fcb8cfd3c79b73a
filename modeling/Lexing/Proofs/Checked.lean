/-
This file proves what checked bounds guard. A step is guarded if it leaves the position and the mark
in the range, and if moving back or marking is refused just where it asks for an offset outside.

Marking is guarded on both sides, moving back only on one: a negative count carries the position
behind the range unhindered. So a run is guarded step by step just if none of its moves back asks
for an offset behind the range. The beginning of the range is kept in any case, and so is the mark.
-/

import Lexing.Proofs.Range

namespace Lexing

variable {Caller : Type}

/-- Asked for an offset, the step took it if it lies in the range. Otherwise it was refused with the
offset and the range, and left the cursor alone. -/
def Stage.Guards (stage : Stage Caller) (name : Text) (target : Int) : Prop :=
  if stage.before.lower ≤ target ∧ target ≤ stage.before.stop then
    ∃ answer, stage.result = .ok answer
  else
    stage.result =
        .error (.outsideRange ⟨name, target, stage.before.lower, stage.before.stop⟩) ∧
      stage.after = stage.before

/-- The step keeps to the range, and what leaves it is refused. -/
structure Stage.Guarded (stage : Stage Caller) : Prop where
  inRange : stage.after.InRange
  backUp : ∀ count, stage.operation = .backUp count →
    stage.Guards "back_up" (stage.before.position - count)
  save : ∀ offset, stage.operation = .save offset →
    stage.Guards "save" (offset.getD stage.before.position)

/-- Marking is guarded, and so is moving back to offsets up to the end of the range. To offsets behind
it moving back goes unhindered. -/
structure Stage.GuardedBefore (stage : Stage Caller) : Prop where
  save : ∀ offset, stage.operation = .save offset →
    stage.Guards "save" (offset.getD stage.before.position)
  backUp : ∀ count, stage.operation = .backUp count →
    stage.before.position - count ≤ stage.before.stop →
      stage.Guards "back_up" (stage.before.position - count)
  overrun : ∀ count, stage.operation = .backUp count →
    stage.before.stop < stage.before.position - count →
      stage.result = .ok .done ∧ stage.after.position = stage.before.position - count

namespace Cursor

/-! ### One step -/

section Steps

variable {cursor : Cursor} (checked : cursor.settings.checksBounds = true) (caller : Caller)

include checked in
theorem save_guards (offset : Option Int) :
    (cursor.stage (.save offset) caller).Guards "save" (offset.getD cursor.position) := by
  unfold Stage.Guards
  split
  case isTrue inside =>
    have marked : cursor.save offset = _ := save_of_allowed fun _ => inside
    exact ⟨_, congrArg (fun moved => moved.result.map Answer.offset) marked⟩
  case isFalse outside =>
    have refused : cursor.save offset = _ := save_of_refused checked outside
    exact ⟨congrArg (fun moved => moved.result.map Answer.offset) refused,
      congrArg Moved.cursor refused⟩

include checked in
/-- Moving back is guarded wherever it does not ask for an offset behind the range. -/
theorem backUp_guards {count : Int} (before : cursor.position - count ≤ cursor.stop) :
    (cursor.stage (.backUp count) caller).Guards "back_up" (cursor.position - count) := by
  show if cursor.lower ≤ cursor.position - count ∧ cursor.position - count ≤ cursor.stop then _
    else _
  split
  case isTrue inside =>
    have moved : cursor.backUp count = _ := backUp_of_allowed fun _ => inside.1
    exact ⟨_, congrArg (fun moved => moved.result.map fun _ => Answer.done) moved⟩
  case isFalse outside =>
    have refused : cursor.backUp count = _ := backUp_of_refused checked (by omega)
    exact ⟨congrArg (fun moved => moved.result.map fun _ => Answer.done) refused,
      congrArg Moved.cursor refused⟩

/-- Moving back takes an offset behind the range like one inside. -/
theorem backUp_overruns {count : Int} (ordered : cursor.lower ≤ cursor.stop)
    (beyond : cursor.stop < cursor.position - count) :
    (cursor.stage (.backUp count) caller).result = .ok .done ∧
      (cursor.stage (.backUp count) caller).after.position = cursor.position - count := by
  have moved : cursor.backUp count = _ := backUp_of_allowed fun _ => by omega
  exact ⟨congrArg (fun moved => moved.result.map fun _ => Answer.done) moved,
    congrArg (fun moved => moved.cursor.position) moved⟩

end Steps

/-! ### Checked runs -/

section Runs

variable {cursor : Cursor} {operations : List (Operation Caller)} {caller : Caller}

theorem guardedBefore_of_mem_stages (bounded : cursor.Bounded)
    (checked : cursor.settings.checksBounds = true) {stage : Stage Caller}
    (member : stage ∈ cursor.stages operations caller) : stage.GuardedBefore := by
  obtain ⟨passed, _, state, performed⟩ := mem_stages member
  have same := course_sameScope bounded _ passed
  have stillChecked : stage.before.settings.checksBounds = true := by
    rw [same.settings]
    exact checked
  constructor
  · intro offset asked
    rw [performed, asked]
    exact save_guards stillChecked state offset
  · intro count asked before
    rw [performed, asked]
    exact backUp_guards stillChecked state before
  · intro count asked beyond
    rw [performed, asked]
    exact backUp_overruns state (same.bounded bounded).lower_le_stop beyond

end Runs

/-- In every run of a fresh checked cursor the position and the mark stay behind the beginning of
the range and the mark before its end, and every step is guarded but for moves back to offsets
behind the range. The run is guarded throughout just if it never asks for one. -/
theorem guarded_iff {cursor : Cursor} (fresh : cursor.Fresh)
    (checked : cursor.settings.checksBounds = true) (operations : List (Operation Caller))
    (caller : Caller) :
    (∀ reached ∈ cursor.course operations caller,
      reached.lower ≤ reached.position ∧ reached.lower ≤ reached.start ∧
        reached.start ≤ reached.stop) ∧
    (∀ stage ∈ cursor.stages operations caller, stage.GuardedBefore) ∧
    ((∀ stage ∈ cursor.stages operations caller, stage.Guarded) ↔
      ∀ stage ∈ cursor.stages operations caller, ∀ count, stage.operation = .backUp count →
        stage.before.position - count ≤ stage.before.stop) := by
  have bounded := fresh.bounded
  have inRange := fresh.inRange
  have position : ∀ reached ∈ cursor.course operations caller,
      reached.lower ≤ reached.position :=
    course_lower_le_position bounded inRange.lower_le_position (.inl checked)
  have marked : ∀ reached ∈ cursor.course operations caller, reached.lower ≤ reached.start :=
    course_lower_le_start bounded inRange.lower_le_start (.inl checked) (.inl checked)
  have marks : ∀ reached ∈ cursor.course operations caller, reached.start ≤ reached.stop :=
    course_start_le_stop bounded inRange.start_le_stop
  have guards := fun stage (member : stage ∈ cursor.stages operations caller) =>
    guardedBefore_of_mem_stages bounded checked member
  refine ⟨fun reached member => ⟨position reached member, marked reached member,
    marks reached member⟩, guards, ?_, ?_⟩
  · intro guarded stage member count asked
    by_cases before : stage.before.position - count ≤ stage.before.stop
    · exact before
    -- A guarded step would have been refused here, but this one was not.
    · have taken := (guards stage member).overrun count asked (Int.not_le.mp before)
      have refused := (guarded stage member).backUp count asked
      rw [Stage.Guards, if_neg fun inside => before inside.2, taken.1] at refused
      cases refused.1
  · intro lands stage member
    have passed := after_mem_course member
    have below := course_position_le_stop bounded inRange.position_le_stop
      (fun stage member count asked _ => lands stage member count asked) stage.after passed
    have guarded := guards stage member
    exact ⟨⟨position _ passed, below, marked _ passed, marks _ passed⟩,
      fun count asked => guarded.backUp count asked (lands stage member count asked), guarded.save⟩

/-- A checked cursor over the quoted part of a text. -/
def quotedPart : Cursor :=
  (ofText "width: 'ab'" checking 0 0 none).subView 7 11

/-- Moves in both directions, of which the third and the fourth ask to leave that part. -/
def partMoves : List (Operation Unit) :=
  [.next, .backUp (-2), .backUp 9, .save (some 12), .backUp 3, .save none]

/-- Moving back by a negative count is guarded as long as it stays in the range. -/
theorem guarded_iff_partMoves :
    quotedPart.settings.checksBounds = true ∧
      (∀ stage ∈ quotedPart.stages partMoves (), ∀ count, stage.operation = .backUp count →
        stage.before.position - count ≤ stage.before.stop) ∧
      ∀ stage ∈ quotedPart.stages partMoves (), stage.Guarded := by
  have lands : ∀ stage ∈ quotedPart.stages partMoves (), ∀ count,
      stage.operation = .backUp count → stage.before.position - count ≤ stage.before.stop := by
    simp only [partMoves, stages_cons, stages_nil, List.forall_mem_cons]
    refine ⟨?_, ?_, ?_, ?_, ?_, ?_, List.forall_mem_nil _⟩ <;> intro count asked <;> cases asked <;>
      decide
  exact ⟨rfl, lands, (guarded_iff (.subView _ _ _) rfl partMoves ()).2.2.mpr lands⟩

/-- At the end of a text a checked cursor moves back by a negative count and is not refused. -/
theorem not_guarded_backUp_negative :
    (ofText [] checking 0 0 none).settings.checksBounds = true ∧
      ¬ ∀ stage ∈ (ofText [] checking 0 0 none).stages
        ([.backUp (-1)] : List (Operation Unit)) (), stage.Guarded := by
  refine ⟨rfl, fun guarded => ?_⟩
  have overrun := (guarded _ List.mem_cons_self).inRange.position_le_stop
  exact absurd overrun (by decide)

end Cursor

end Lexing
