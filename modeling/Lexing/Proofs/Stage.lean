/-
This file takes a run of operations apart into its steps. A stage is one step with the cursor that
it began with, and the course of a run is every cursor that it passes, from the one it begins with
to the one it leaves. What every step hands on holds along the whole course.
-/

import Lexing.Cursor.Operation

namespace Lexing

variable {Caller : Type}

/-- One step of a run. -/
structure Stage (Caller : Type) where
  /-- The cursor that the operation was performed on. -/
  before : Cursor
  operation : Operation Caller
  result : Except Failure Answer
  /-- The cursor that the operation left. -/
  after : Cursor
  notices : List Notice
  /-- The caller's state that the operation left. -/
  caller : Caller

namespace Cursor

/-- The step that one operation makes. -/
def stage (cursor : Cursor) (operation : Operation Caller) (caller : Caller) : Stage Caller :=
  let performed := cursor.perform operation caller
  ⟨cursor, operation, performed.1.result, performed.1.cursor, performed.1.notices, performed.2⟩

/-- The steps of a run, in order. -/
def stages (cursor : Cursor) : List (Operation Caller) → Caller → List (Stage Caller)
  | [], _ => []
  | operation :: rest, caller =>
    let first := cursor.stage operation caller
    first :: first.after.stages rest first.caller

/-- Every cursor that a run passes, the one it begins with first. -/
def course (cursor : Cursor) (operations : List (Operation Caller)) (caller : Caller) :
    List Cursor :=
  cursor :: (cursor.stages operations caller).map Stage.after

/-! ### Stages and runs -/

@[simp] theorem stages_nil (cursor : Cursor) (caller : Caller) :
    cursor.stages [] caller = [] := rfl

theorem stages_cons (cursor : Cursor) (operation : Operation Caller)
    (rest : List (Operation Caller)) (caller : Caller) :
    cursor.stages (operation :: rest) caller =
      cursor.stage operation caller ::
        (cursor.stage operation caller).after.stages rest (cursor.stage operation caller).caller :=
  rfl

/-- A run may be cut anywhere: the second part goes on from what the first has left. -/
theorem stages_append (cursor : Cursor) (early late : List (Operation Caller)) (caller : Caller) :
    cursor.stages (early ++ late) caller =
      cursor.stages early caller ++
        (cursor.run early caller).cursor.stages late (cursor.run early caller).caller := by
  induction early generalizing cursor caller with
  | nil => rfl
  | cons operation rest inductionHypothesis =>
    rw [List.cons_append, stages_cons, stages_cons, inductionHypothesis]
    rfl

theorem run_append (cursor : Cursor) (early late : List (Operation Caller)) (caller : Caller) :
    cursor.run (early ++ late) caller =
      let first := cursor.run early caller
      let second := first.cursor.run late first.caller
      ⟨first.results ++ second.results, second.cursor, first.notices ++ second.notices,
        second.caller⟩ := by
  induction early generalizing cursor caller with
  | nil => rfl
  | cons operation rest inductionHypothesis =>
    rw [List.cons_append, run, inductionHypothesis]
    simp only [run, List.cons_append, List.append_assoc]

/-- A run ends with the last cursor of its course. -/
theorem run_cursor (cursor : Cursor) (operations : List (Operation Caller)) (caller : Caller) :
    some (cursor.run operations caller).cursor =
      (cursor.course operations caller).getLast? := by
  induction operations generalizing cursor caller with
  | nil => rfl
  | cons operation rest inductionHypothesis =>
    show some ((cursor.stage operation caller).after.run rest _).cursor = _
    rw [inductionHypothesis, course, course, stages_cons, List.map_cons, List.getLast?_cons_cons]
    rfl

theorem run_cursor_mem_course (cursor : Cursor) (operations : List (Operation Caller))
    (caller : Caller) :
    (cursor.run operations caller).cursor ∈ cursor.course operations caller :=
  List.mem_of_getLast? (run_cursor cursor operations caller).symm

/-! ### What steps hand on -/

/-- Every stage is the step that one of the operations makes from a cursor of the course. -/
theorem mem_stages {cursor : Cursor} {operations : List (Operation Caller)} {caller : Caller}
    {stage : Stage Caller} (member : stage ∈ cursor.stages operations caller) :
    stage.before ∈ cursor.course operations caller ∧ stage.operation ∈ operations ∧
      ∃ state, stage = stage.before.stage stage.operation state := by
  induction operations generalizing cursor caller with
  | nil => cases member
  | cons operation rest inductionHypothesis =>
    rw [stages_cons] at member
    rcases List.mem_cons.mp member with rfl | later
    · exact ⟨List.mem_cons_self, List.mem_cons_self, caller, rfl⟩
    · obtain ⟨passed, asked, performed⟩ := inductionHypothesis later
      exact ⟨List.mem_cons_of_mem _ passed, List.mem_cons_of_mem _ asked, performed⟩

theorem after_mem_course {cursor : Cursor} {operations : List (Operation Caller)}
    {caller : Caller} {stage : Stage Caller} (member : stage ∈ cursor.stages operations caller) :
    stage.after ∈ cursor.course operations caller :=
  List.mem_cons_of_mem _ (List.mem_map_of_mem member)

/-- What holds at first and is handed on by every step of a run holds along its course. -/
theorem course_preserves {Invariant : Cursor → Prop} {cursor : Cursor}
    {operations : List (Operation Caller)} {caller : Caller} (initially : Invariant cursor)
    (step : ∀ stage ∈ cursor.stages operations caller,
      Invariant stage.before → Invariant stage.after) :
    ∀ reached ∈ cursor.course operations caller, Invariant reached := by
  induction operations generalizing cursor caller with
  | nil =>
    intro reached member
    rw [List.mem_singleton.mp member]
    exact initially
  | cons operation rest inductionHypothesis =>
    intro reached member
    rcases List.mem_cons.mp member with rfl | later
    · exact initially
    · rw [stages_cons] at later step
      exact inductionHypothesis (step _ List.mem_cons_self initially)
        (fun stage inRest => step stage (List.mem_cons_of_mem _ inRest)) reached later

end Cursor

end Lexing
