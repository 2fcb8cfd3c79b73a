/-
This file proves that a run of scanning operations can be taken back and run again. Where it ended,
the cursor may always go back to where it began, checked or not, and the same operations then come
to the same, one after the other, and leave the same cursor. The second time they begin with another
mark. They never read it: some set it anew, whatever it was, and the others leave it alone.

Matchers have to be steady for this, since the caller's state is not taken back.
-/

import Lexing.Proofs.Alike
import Lexing.Proofs.Interleaved
import Lexing.Proofs.Rounds
import Lexing.Proofs.Taking

namespace Lexing

variable {Caller : Type}

/-- Whether an operation scans from the position on, or marks the position. -/
def Operation.replays : Operation Caller → Bool
  | peek | peekCode | next | nextCode | eat _ | eatWhile _ | consume _ | expect _ _ | skipTo _
  | eatQuoted _ _ | save none => true
  | _ => false

/-- The same cursor with another mark. -/
def Cursor.startingAt (cursor : Cursor) (start : Int) : Cursor := { cursor with start }

def Moved.startingAt {Result : Type} (moved : Moved Result) (start : Int) : Moved Result :=
  { moved with cursor := moved.cursor.startingAt start }

theorem Notice.movedOn_zero (notice : Notice) : notice.movedOn 0 = notice := by
  cases notice <;> simp only [movedOn, Int.add_zero]

namespace Cursor

/-! ### What does not read the mark -/

section Unread

variable {cursor : Cursor} (start : Int)

theorem readsLike_startingAt (cursor : Cursor) :
    (cursor.startingAt start).ReadsLike cursor 0 :=
  ⟨(Int.add_zero _).symm, (Int.add_zero _).symm, rfl, fun offset _ _ => by
    rw [Int.add_zero]
    rfl⟩

theorem retells_startingAt {Result : Type} {moved : Moved Result}
    (forward : cursor.Forward moved.cursor) :
    (cursor.startingAt start).retells 0 moved = moved.startingAt start := by
  obtain ⟨⟨text, lower, stop, settings⟩, _, _, _⟩ := forward
  unfold retells Moved.startingAt startingAt
  rw [text, lower, stop, settings, Int.add_zero, funext Notice.movedOn_zero, List.map_id']

theorem next_startingAt (cursor : Cursor) :
    (cursor.startingAt start).next = cursor.next.startingAt start := by
  rw [(readsLike_startingAt start cursor).next, retells_startingAt start (next_forward cursor)]

theorem eatQuoted_startingAt (cursor : Cursor) (quote : Glyph) (escape : Option Glyph) :
    (cursor.startingAt start).eatQuoted quote escape =
      (cursor.eatQuoted quote escape).startingAt start := by
  rw [(readsLike_startingAt start cursor).eatQuoted,
    retells_startingAt start (eatQuoted_forward cursor quote escape)]

theorem eat_startingAt (cursor : Cursor) (spec : Spec Caller) (caller : Caller) :
    (cursor.startingAt start).eat spec caller =
      ((cursor.eat spec caller).1.startingAt start, (cursor.eat spec caller).2) := by
  rw [(readsLike_startingAt start cursor).eat,
    retells_startingAt start (eat_forward cursor spec caller)]

theorem eatWhile_startingAt (cursor : Cursor) (spec : Spec Caller) (caller : Caller) :
    (cursor.startingAt start).eatWhile spec caller =
      ((cursor.eatWhile spec caller).1.startingAt start, (cursor.eatWhile spec caller).2) := by
  rw [(readsLike_startingAt start cursor).eatWhile,
    retells_startingAt start (eatWhile_forward cursor spec caller)]

theorem expect_startingAt (cursor : Cursor) (spec : Spec Caller) (message : Option Text)
    (caller : Caller) :
    (cursor.startingAt start).expect spec message caller =
      ((cursor.expect spec message caller).1.startingAt start,
        (cursor.expect spec message caller).2) := by
  have forward := expect_forward cursor spec message caller
  rw [(readsLike_startingAt start cursor).expect id fun _ => rfl]
  generalize cursor.expect spec message caller = expected at *
  have same : expected.1.map (Except.mapError id) = expected.1 := by
    obtain ⟨⟨result, after, notices⟩, left⟩ := expected
    rcases result with cause | diagnostic | unit <;> rfl
  rw [same, retells_startingAt start forward]

theorem skipTo_startingAt (cursor : Cursor) (needle : Glyph) :
    (cursor.startingAt start).skipTo needle = (cursor.skipTo needle).startingAt start := by
  unfold skipTo
  cases needle.toNeedle with
  | error cause => rfl
  | ok content =>
    dsimp only [startingAt]
    cases cursor.text.find? content cursor.position cursor.stop <;> rfl

variable {operation : Operation Caller}

/-- What does not set the mark leaves it alone, and comes to the same whatever it is. -/
theorem perform_startingAt (cursor : Cursor) (replays : operation.replays = true)
    (unmarked : operation.marks = false) (caller : Caller) :
    (cursor.startingAt start).perform operation caller =
      ((cursor.perform operation caller).1.startingAt start,
        (cursor.perform operation caller).2) := by
  cases operation with
  | peek | peekCode => rfl
  | next =>
    exact congrArg (fun moved => (moved.map Answer.unit, caller)) (next_startingAt start cursor)
  | nextCode =>
    exact congrArg (fun moved => ((moved.map (Option.map CodePoint.code)).map Answer.code, caller))
      (next_startingAt start cursor)
  | eat spec =>
    exact congrArg (fun asked => (asked.1.map Answer.truth, asked.2))
      (eat_startingAt start cursor spec caller)
  | eatWhile spec =>
    exact congrArg (fun asked => (asked.1.map Answer.truth, asked.2))
      (eatWhile_startingAt start cursor spec caller)
  | expect spec message =>
    rw [perform_expect, perform_expect, expect_startingAt]
    rfl
  | skipTo needle =>
    exact congrArg (fun moved => (moved.map Answer.truth, caller))
      (skipTo_startingAt start cursor needle)
  | eatQuoted quote escape =>
    exact congrArg (fun moved => (moved.map Answer.truth, caller))
      (eatQuoted_startingAt start cursor quote escape)
  | consume | save => cases unmarked
  | _ => cases replays

/-- What sets the mark to the position comes to the same whatever the mark has been. -/
theorem perform_startingAt_of_marks (placed : cursor.Placed) (replays : operation.replays = true)
    (marks : operation.marks = true) (caller : Caller) :
    (cursor.startingAt start).perform operation caller = cursor.perform operation caller := by
  cases operation with
  | consume spec =>
    have consumed : (cursor.startingAt start).consume spec caller = cursor.consume spec caller := by
      have again : (cursor.startingAt start).consume spec caller = _ :=
        consume_of_allowed spec caller placed.allowed
      rw [again, consume_of_allowed spec caller placed.allowed]
      rfl
    exact congrArg (fun asked => (asked.1.map Answer.text, asked.2)) consumed
  | save offset =>
    cases offset with
    | some offset => cases replays
    | none =>
      have saved : (cursor.startingAt start).save none = cursor.save none := by
        have once : cursor.save none = _ := save_of_allowed placed.allowed
        have again : (cursor.startingAt start).save none = _ := save_of_allowed placed.allowed
        rw [again, once]
        rfl
      exact congrArg (fun moved => (moved.map Answer.offset, caller)) saved
  | _ => cases marks

end Unread

/-! ### Runs -/

section Runs

variable {cursor : Cursor} {operations : List (Operation Caller)}

/-- As long as nothing is marked the mark stays. -/
theorem course_start (bounded : cursor.Bounded)
    (unmarked : ∀ operation ∈ operations, operation.marks = false) (caller : Caller) :
    ∀ reached ∈ cursor.course operations caller, reached.start = cursor.start := by
  refine course_preserves rfl fun stage member same => ?_
  have moves := moves_of_mem_stages bounded member
  have plain := unmarked _ (mem_stages member).2.1
  generalize stage.operation = operation at moves plain
  generalize stage.after = after at moves
  cases moves with
  | refused => exact same
  | scanned scans forward => exact forward.start.trans same
  | backedUp => exact same
  | marked => cases plain
  | consumed => cases plain

/-- A run comes to the same whatever the mark has been and whatever state the caller is in. It
leaves another mark only if it has not set it. -/
theorem run_startingAt (placed : cursor.Placed)
    (replays : ∀ operation ∈ operations, operation.replays = true ∧ operation.IsSteady)
    (start : Int) (caller other : Caller) :
    ((cursor.startingAt start).run operations other).results =
        (cursor.run operations caller).results ∧
      ((cursor.startingAt start).run operations other).notices =
        (cursor.run operations caller).notices ∧
      ((cursor.startingAt start).run operations other).cursor =
        if operations.any Operation.marks then (cursor.run operations caller).cursor
        else (cursor.run operations caller).cursor.startingAt start := by
  induction operations generalizing cursor start caller other with
  | nil => exact ⟨rfl, rfl, rfl⟩
  | cons operation rest inductionHypothesis =>
    obtain ⟨⟨plays, steady⟩, later⟩ := List.forall_mem_cons.mp replays
    have again := perform_of_steady steady (cursor.startingAt start) other caller
    have afterwards : (cursor.perform operation caller).1.cursor.Placed := by
      refine placed.perform (fun count => ?_) caller
      rintro rfl
      cases plays
    simp only [run]
    generalize (cursor.startingAt start).perform operation other = replayed at again ⊢
    obtain ⟨moved, left⟩ := replayed
    cases marks : operation.marks with
    | false =>
      rw [perform_startingAt start cursor plays marks] at again
      obtain rfl : moved = _ := again
      simp only [List.any_cons, marks, Bool.false_or]
      obtain ⟨results, notices, ended⟩ := inductionHypothesis afterwards later start
        (cursor.perform operation caller).2 left
      exact ⟨congrArg (List.cons _) results, congrArg (_ ++ ·) notices, ended⟩
    | true =>
      rw [perform_startingAt_of_marks start placed plays marks] at again
      obtain rfl : moved = _ := again
      simp only [List.any_cons, marks, Bool.true_or, if_true]
      -- the mark is what it was the first time, and is what the rest begins with
      obtain ⟨results, notices, ended⟩ := inductionHypothesis afterwards later
        (cursor.perform operation caller).1.cursor.start (cursor.perform operation caller).2 left
      refine ⟨congrArg (List.cons _) results, congrArg (_ ++ ·) notices, ended.trans ?_⟩
      split
      case isTrue => rfl
      case isFalse plain =>
        have unmarked : ∀ operation ∈ rest, operation.marks = false := by
          simpa using plain
        have stays := course_start afterwards.toBounded unmarked
          (cursor.perform operation caller).2 _ (run_cursor_mem_course _ _ _)
        rw [← stays]
        rfl

/-- From a cursor of the same range it is always allowed to go back to a place in the range. -/
theorem Placed.backUp_to {reached : Cursor} (placed : cursor.Placed)
    (same : cursor.SameScope reached) :
    reached.backUp (reached.position - cursor.position) =
      reached.moveTo cursor.position (.ok ()) := by
  have returns : reached.position - (reached.position - cursor.position) = cursor.position := by
    omega
  rw [backUp_of_allowed fun _ => by rw [returns, same.lower]; exact placed.lower_le_position,
    returns]

/-- There it is the same cursor again, but for the mark. -/
theorem SameScope.moveTo_cursor {Result : Type} {reached : Cursor}
    (same : cursor.SameScope reached) (result : Except Failure Result) :
    (reached.moveTo cursor.position result).cursor = cursor.startingAt reached.start := by
  obtain ⟨text, lower, stop, settings⟩ := same
  unfold moveTo startingAt
  rw [text, lower, stop, settings]

end Runs

/-- Backtracking replays a run exactly. From where a run of scanning operations ended, going back to
where it began is never refused. The same operations then give the same results, one after the
other, and the cursor ends where it ended before, with the same mark. A run that never marks leaves
the mark alone both times. -/
theorem run_replays {cursor : Cursor} (placed : cursor.Placed)
    {operations : List (Operation Caller)}
    (replays : ∀ operation ∈ operations, operation.replays = true ∧ operation.IsSteady)
    (caller other : Caller) :
    let first := cursor.run operations caller
    let back := first.cursor.backUp (first.cursor.position - cursor.position)
    let second := back.cursor.run operations other
    back = first.cursor.moveTo cursor.position (.ok ()) ∧
      second.results = first.results ∧ second.notices = first.notices ∧
      second.cursor = first.cursor ∧
      ((∀ operation ∈ operations, operation.marks = false) →
        (∀ reached ∈ cursor.course operations caller, reached.start = cursor.start) ∧
        ∀ reached ∈ back.cursor.course operations other, reached.start = cursor.start) := by
  dsimp only
  have ended := run_cursor_mem_course cursor operations caller
  have same := course_sameScope placed.toBounded _ ended
  obtain ⟨results, notices, last⟩ :=
    run_startingAt placed replays (cursor.run operations caller).cursor.start caller other
  rw [placed.backUp_to same, same.moveTo_cursor]
  refine ⟨rfl, results, notices, last.trans (ite_self _), fun unmarked => ?_⟩
  have stays := course_start placed.toBounded unmarked caller
  have bounded : (cursor.startingAt (cursor.run operations caller).cursor.start).Bounded :=
    ⟨placed.lower_nonneg, placed.lower_le_stop, placed.stop_le_length⟩
  refine ⟨stays, fun reached member => ?_⟩
  rw [course_start bounded unmarked other reached member]
  show (cursor.run operations caller).cursor.start = cursor.start
  exact stays _ ended

/-- A cursor with checked bounds that stands where its range begins. -/
def guarded : Cursor := ofText "(aab;'c" checking 1 1 none

/-- Looks in vain for the end of a literal, marks, takes what stands before the quote by a predicate
that counts how often it is asked, and expects in vain what has been taken. -/
def tokens : List (Operation Nat) :=
  [.eatQuoted (.text "!") none, .save none, .consume (.object Session.countingOutside),
    .expect (.text ";") none, .skipTo (.text "'"), .nextCode]

/-- The run is replayed although the count is not taken back. -/
theorem run_replays_guarded :
    guarded.Placed ∧ guarded.settings.checksBounds = true ∧
      (∀ operation ∈ tokens, operation.replays = true ∧ operation.IsSteady) ∧
      let first := guarded.run tokens 0
      let back := first.cursor.backUp (first.cursor.position - 1)
      back.result = .ok () ∧ back.cursor.position = 1 ∧
        (back.cursor.run tokens first.caller).results = first.results ∧
        (back.cursor.run tokens first.caller).cursor = first.cursor := by
  have placed : guarded.Placed := (Fresh.ofText _ _ _ _ _).settled.toPlaced
  have letters : (Spec.object Session.countingOutside).IsSteady := by
    rintro matcher stands
    cases stands
    exact ⟨fun unit => .ok (Argument.text [unit] != .text "'"), fun unit count => rfl⟩
  have semicolon : (Spec.text ";" : Spec Nat).IsSteady := by
    rintro matcher stands
    cases stands
    exact ⟨fun unit => .ok ([unit] == [CodePoint.ofChar ';']), fun unit count => rfl⟩
  have replays : ∀ operation ∈ tokens, operation.replays = true ∧ operation.IsSteady := by
    simp only [tokens, List.forall_mem_cons]
    exact ⟨⟨rfl, trivial⟩, ⟨rfl, trivial⟩, ⟨rfl, letters⟩, ⟨rfl, semicolon⟩, ⟨rfl, trivial⟩,
      ⟨rfl, trivial⟩, List.forall_mem_nil _⟩
  obtain ⟨back, results, _, ended, _⟩ :=
    run_replays placed replays 0 (guarded.run tokens 0).caller
  exact ⟨placed, rfl, replays, congrArg Moved.result back, congrArg (·.cursor.position) back,
    results, ended⟩

end Cursor

end Lexing
