/-
This file says what a sub-view comes to that is drained, by taking one character after the other
until there is none. Whatever two offsets it was made with, it gives the characters of the text that
stand between them. Each of them could be seen just before it was taken, and once there is none the
cursor stays where it is, however often the next one is asked for.

Sub-views that meet therefore give together what the sub-view over both of them gives. And as it is
the whole text that a sub-view is cut from, a sub-view of a sub-view gives what it would give if it
were made from the first cursor.
-/

import Lexing.Proofs.Failed
import Lexing.Proofs.Wrapped

namespace Lexing

variable {Caller : Type}

namespace Cursor

/-! ### Taking all that is ahead -/

/-- The cursor with its range used up. -/
def usedUp (cursor : Cursor) : Cursor := { cursor with position := cursor.stop }

section Ahead

variable {cursor : Cursor} {units : Text}

theorem Ahead.usedUp_nil (ahead : cursor.Ahead []) : cursor.usedUp = cursor := by
  have stop := ahead.stop
  rw [List.length_nil, Int.natCast_zero, Int.add_zero] at stop
  exact congrArg (fun position => { cursor with position }) stop.symm

/-- Draining gives the characters ahead. -/
theorem Ahead.drain (ahead : cursor.Ahead units) :
    cursor.drain = ⟨.ok units, cursor.usedUp, []⟩ := by
  induction units generalizing cursor with
  | nil =>
    have used := ahead.next_nil
    rw [drain_of_none (congrArg Moved.result used), used, ahead.usedUp_nil]
    rfl
  | cons unit units inductionHypothesis =>
    obtain ⟨next, behind⟩ := ahead.next_cons
    have rest := inductionHypothesis behind
    rw [drain_of_some (congrArg Moved.result next), next]
    show Moved.mk ({ cursor with position := cursor.position + 1 }.drain.result.map (unit :: ·)) _ _
      = _
    rw [moveTo, rest]
    rfl

/-- Draining is taking characters as often as there is one ahead, and once more in vain. -/
theorem Ahead.run_all (ahead : cursor.Ahead units) (caller : Caller) :
    cursor.run (List.replicate (units.length + 1) .next) caller =
      ⟨units.map (fun unit => .ok (.unit (some unit))) ++ [.ok (.unit none)], cursor.usedUp, [],
        caller⟩ := by
  induction units generalizing cursor with
  | nil =>
    have performed : cursor.perform .next caller = (cursor.stay (.ok (.unit none)), caller) :=
      congrArg (fun moved : Moved _ => (moved.map Answer.unit, caller)) ahead.next_nil
    rw [ahead.usedUp_nil]
    show cursor.run [.next] caller = _
    rw [run, performed]
    rfl
  | cons unit units inductionHypothesis =>
    obtain ⟨next, behind⟩ := ahead.next_cons
    have performed : cursor.perform .next caller =
        (cursor.moveTo (cursor.position + 1) (.ok (.unit (some unit))), caller) :=
      congrArg (fun moved : Moved _ => (moved.map Answer.unit, caller)) next
    have rest := inductionHypothesis behind
    rw [List.length_cons, List.replicate_succ, run, performed]
    dsimp only [moveTo]
    rw [rest]
    rfl

end Ahead

/-- What is taken could be seen before. -/
theorem result_perform_next (cursor : Cursor) (caller state : Caller) :
    (cursor.perform .next caller).1.result = (cursor.perform .peek state).1.result :=
  congrArg (Except.map Answer.unit) (next_result cursor)

theorem seen_of_mem_stages {cursor : Cursor} {count : Nat} {caller : Caller} {stage : Stage Caller}
    (member : stage ∈ cursor.stages (List.replicate count .next) caller) (state : Caller) :
    stage.result = (stage.before.perform .peek state).1.result := by
  obtain ⟨_, asked, before, performed⟩ := mem_stages member
  rw [List.eq_of_mem_replicate asked] at performed
  rw [congrArg Stage.result performed]
  exact result_perform_next stage.before before state

/-! ### Used up ranges -/

theorem atEnd_usedUp (cursor : Cursor) : cursor.usedUp.atEnd = true :=
  decide_eq_true (Int.le_refl cursor.stop)

theorem next_usedUp (cursor : Cursor) : cursor.usedUp.next = cursor.usedUp.stay (.ok none) := by
  have used : ¬ cursor.usedUp.position < cursor.usedUp.stop := Int.lt_irrefl cursor.stop
  unfold next peek
  rw [if_neg used]

/-- Where the range is used up, taking characters takes none and goes nowhere. -/
theorem stages_usedUp (cursor : Cursor) (count : Nat) (caller : Caller) :
    ∀ stage ∈ cursor.usedUp.stages (List.replicate count .next) caller,
      stage.result = .ok (.unit none) ∧ stage.after = cursor.usedUp := by
  have step : ∀ stage ∈ cursor.usedUp.stages (List.replicate count .next) caller,
      stage.before = cursor.usedUp →
        stage.result = .ok (.unit none) ∧ stage.after = cursor.usedUp := by
    intro stage member same
    obtain ⟨_, asked, state, performed⟩ := mem_stages member
    rw [List.eq_of_mem_replicate asked, same] at performed
    rw [performed]
    show ((cursor.usedUp.next.map Answer.unit).result = _) ∧ cursor.usedUp.next.cursor = _
    rw [next_usedUp]
    exact ⟨rfl, rfl⟩
  have course : ∀ reached ∈ cursor.usedUp.course (List.replicate count .next) caller,
      reached = cursor.usedUp :=
    course_preserves rfl fun stage member same => (step stage member same).2
  exact fun stage member => step stage member (course _ (mem_stages member).1)

/-! ### Sub-views -/

section SubView

variable (parent : Cursor) (first last : Int)

/-- The end of a sub-view is where it was asked for, as far as there is text. -/
theorem subView_stop :
    (parent.subView first last).stop = min (max last 0) parent.text.length := by
  show max 0 (min last (parent.text.length : Int)) = _
  omega

/-- A sub-view begins where it was asked to, but not behind its end. -/
theorem subView_position : (parent.subView first last).position =
    min (max first 0) (parent.subView first last).stop := by
  have nonneg := (ofText_stop_inside parent.text parent.settings first first (some last)).1
  unfold subView
  rw [ofText_position, ofText_lower]
  omega

/-- A sub-view has the characters ahead that stand between its offsets. -/
theorem ahead_subView : (parent.subView first last).Ahead
    (parent.text.slice (some (max first 0)) (some (max last 0))) := by
  have position := subView_position parent first last
  have stop := subView_stop parent first last
  obtain ⟨start, early⟩ := Int.eq_ofNat_of_zero_le (Int.le_max_right first 0)
  obtain ⟨finish, late⟩ := Int.eq_ofNat_of_zero_le (Int.le_max_right last 0)
  rw [early] at position ⊢
  rw [late] at stop ⊢
  refine ⟨fun index unit found => ?_, ?_⟩
  · rw [Text.getElem?_slice_natCast] at found
    split at found
    case isTrue before =>
      -- where there is a character, the beginning has not been moved to the end
      have inside := (List.getElem?_eq_some_iff.mp found).1
      have here : (parent.subView first last).position + index = (start + index : Nat) := by omega
      rw [here]
      exact Text.read_natCast_iff.mpr found
    case isFalse => cases found
  · rw [Text.length_slice_natCast]
    omega

end SubView

/-- A cursor is drained of a text. -/
structure Drains (cursor : Cursor) (units : Text) (caller : Caller) : Prop where
  result : cursor.drain.result = .ok units
  /-- It comes to taking one character after the other, up to the first time that there is none. -/
  taken : cursor.run (List.replicate (units.length + 1) .next) caller =
    ⟨units.map (fun unit => .ok (.unit (some unit))) ++ [.ok (.unit none)], cursor.drain.cursor, [],
      caller⟩
  /-- Every character could be seen before it was taken. -/
  seen : ∀ stage ∈ cursor.stages (List.replicate (units.length + 1) .next) caller,
    stage.result = (stage.before.perform .peek stage.caller).1.result
  atEnd : cursor.drain.cursor.atEnd = true
  /-- Behind them nothing more is taken, however often it is tried. -/
  still : ∀ count, ∀ stage ∈ cursor.drain.cursor.stages (List.replicate count .next) caller,
    stage.result = .ok (.unit none) ∧ stage.after = cursor.drain.cursor

theorem Ahead.drains {cursor : Cursor} {units : Text} (ahead : cursor.Ahead units)
    (caller : Caller) : cursor.Drains units caller := by
  have whole := ahead.drain
  have left : cursor.drain.cursor = cursor.usedUp := congrArg Moved.cursor whole
  constructor
  case result => rw [whole]
  case taken => rw [left, ahead.run_all]
  case seen => exact fun stage member => seen_of_mem_stages member stage.caller
  case atEnd => rw [left, atEnd_usedUp]
  case still =>
    rw [left]
    exact fun count => stages_usedUp cursor count caller

/-- Whatever offsets a sub-view is made with, it is drained of the text between them. If it is cut in
two anywhere, the parts are drained of texts that join to that one. A sub-view of it is drained as
the same sub-view of its parent. -/
theorem subView_drains (parent : Cursor) (first last : Int) (caller : Caller) :
    (parent.subView first last).Drains
      (parent.text.slice (some (max first 0)) (some (max last 0))) caller ∧
    (∀ middle, first ≤ middle → middle ≤ last →
      ∃ early late, (parent.subView first middle).drain.result = .ok early ∧
        (parent.subView middle last).drain.result = .ok late ∧
        (parent.subView first last).drain.result = .ok (early ++ late)) ∧
    ∀ innerFirst innerLast : Int,
      ((parent.subView first last).subView innerFirst innerLast).drain =
        (parent.subView innerFirst innerLast).drain := by
  have drains (first last : Int) := (ahead_subView parent first last).drains caller
  refine ⟨drains first last, fun middle early late => ?_, fun innerFirst innerLast => rfl⟩
  refine ⟨_, _, (drains first middle).result, (drains middle last).result, ?_⟩
  rw [Text.slice_append_slice parent.text (by omega) (by omega) (by omega)]
  exact (drains first last).result

/-- A cursor with little left of a short range. -/
def nearlyUsed : Cursor := ofText "cursor" .standard 3 2 (some 4)

/-- A sub-view of it that was asked to begin before the text and to end behind it gives the whole
text, also in two parts. One whose end was asked for before its beginning gives nothing. -/
theorem subView_drains_whole :
    ((-2 : Int) ≤ 3 ∧ (3 : Int) ≤ 9) ∧
    (nearlyUsed.subView (-2) 9).Drains "cursor" () ∧
    (∃ early late, (nearlyUsed.subView (-2) 3).drain.result = .ok early ∧
      (nearlyUsed.subView 3 9).drain.result = .ok late ∧ early ++ late = "cursor") ∧
    (nearlyUsed.subView 5 1).drain.result = .ok [] := by
  have ordered : (-2 : Int) ≤ 3 ∧ (3 : Int) ≤ 9 := ⟨by decide, by decide⟩
  obtain ⟨whole, meet, _⟩ := subView_drains nearlyUsed (-2) 9 ()
  obtain ⟨early, late, front, back, joined⟩ := meet 3 ordered.1 ordered.2
  exact ⟨ordered, whole, ⟨early, late, front, back, Except.ok.inj (joined.symm.trans whole.result)⟩,
    (subView_drains nearlyUsed 5 1 ()).1.result⟩

end Cursor

end Lexing
