/-
This file scans with matchers. A matcher is asked about one character at a time, in order, and never
at the end of the range. What stands for no matcher is noticed before the first character is read,
and taking a single character looks at the end of the range even before that.
-/
import Lexing.Cursor.Basic
import Lexing.Matcher.Description
import Lexing.Matcher.Spec

namespace Lexing

variable {Caller : Type}

/-- Where a run of accepted characters ends, and why if it is for a failure. -/
structure RunEnd (Caller : Type) where
  result : Except Failure Unit
  position : Int
  caller : Caller

/-- Asks a matcher about one character after the other, from an offset up to the end of a range,
until one is not accepted. -/
def Matcher.runEnd (matcher : Matcher Caller) (text : Text) (stop position : Int)
    (caller : Caller) : RunEnd Caller :=
  if position < stop then
    match text.read position with
    | .error cause => ⟨.error cause, position, caller⟩
    | .ok unit =>
      match matcher.test [unit] caller with
      | (.error cause, after) => ⟨.error cause, position, after⟩
      | (.ok false, after) => ⟨.ok (), position, after⟩
      | (.ok true, after) => matcher.runEnd text stop (position + 1) after
  else ⟨.ok (), position, caller⟩
termination_by (stop - position).toNat

section RunEnd

variable {matcher : Matcher Caller} {text : Text} {stop position : Int} {caller after : Caller}
  {unit : CodePoint} {cause : Failure}

theorem Matcher.runEnd_of_unreadable (below : position < stop)
    (unread : text.read position = .error cause) :
    matcher.runEnd text stop position caller = ⟨.error cause, position, caller⟩ := by
  rw [runEnd, if_pos below, unread]

theorem Matcher.runEnd_of_failed (below : position < stop)
    (read : text.read position = .ok unit)
    (asked : matcher.test [unit] caller = (.error cause, after)) :
    matcher.runEnd text stop position caller = ⟨.error cause, position, after⟩ := by
  rw [runEnd, if_pos below, read]
  simp only [asked]

theorem Matcher.runEnd_of_rejected (below : position < stop)
    (read : text.read position = .ok unit)
    (asked : matcher.test [unit] caller = (.ok false, after)) :
    matcher.runEnd text stop position caller = ⟨.ok (), position, after⟩ := by
  rw [runEnd, if_pos below, read]
  simp only [asked]

theorem Matcher.runEnd_of_accepted (below : position < stop)
    (read : text.read position = .ok unit)
    (asked : matcher.test [unit] caller = (.ok true, after)) :
    matcher.runEnd text stop position caller =
      matcher.runEnd text stop (position + 1) after := by
  rw [runEnd, if_pos below, read]
  simp only [asked]

theorem Matcher.runEnd_of_end (used : ¬ position < stop) :
    matcher.runEnd text stop position caller = ⟨.ok (), position, caller⟩ := by
  rw [runEnd, if_neg used]

end RunEnd

namespace Cursor

/-- Takes the next character if it is accepted. -/
def eat (cursor : Cursor) (spec : Spec Caller) (caller : Caller) : Moved Bool × Caller :=
  if cursor.position < cursor.stop then
    match spec.toMatcher with
    | .error cause => (cursor.stay (.error cause), caller)
    | .ok matcher =>
      match cursor.text.read cursor.position with
      | .error cause => (cursor.stay (.error cause), caller)
      | .ok unit =>
        match matcher.test [unit] caller with
        | (.error cause, after) => (cursor.stay (.error cause), after)
        | (.ok false, after) => (cursor.stay (.ok false), after)
        | (.ok true, after) => (cursor.moveTo (cursor.position + 1) (.ok true), after)
  else (cursor.stay (.ok false), caller)

section Eat

variable {cursor : Cursor} {spec : Spec Caller} {matcher : Matcher Caller} {caller after : Caller}
  {unit : CodePoint} {cause : Failure}

theorem eat_of_end (used : ¬ cursor.position < cursor.stop) :
    cursor.eat spec caller = (cursor.stay (.ok false), caller) := by
  rw [eat, if_neg used]

theorem eat_of_unreadable (below : cursor.position < cursor.stop)
    (stands : spec.toMatcher = .ok matcher)
    (unread : cursor.text.read cursor.position = .error cause) :
    cursor.eat spec caller = (cursor.stay (.error cause), caller) := by
  rw [eat, if_pos below, stands, unread]

theorem eat_of_failed (below : cursor.position < cursor.stop)
    (stands : spec.toMatcher = .ok matcher) (read : cursor.text.read cursor.position = .ok unit)
    (asked : matcher.test [unit] caller = (.error cause, after)) :
    cursor.eat spec caller = (cursor.stay (.error cause), after) := by
  rw [eat, if_pos below, stands, read]
  simp only [asked]

theorem eat_of_rejected (below : cursor.position < cursor.stop)
    (stands : spec.toMatcher = .ok matcher) (read : cursor.text.read cursor.position = .ok unit)
    (asked : matcher.test [unit] caller = (.ok false, after)) :
    cursor.eat spec caller = (cursor.stay (.ok false), after) := by
  rw [eat, if_pos below, stands, read]
  simp only [asked]

theorem eat_of_accepted (below : cursor.position < cursor.stop)
    (stands : spec.toMatcher = .ok matcher) (read : cursor.text.read cursor.position = .ok unit)
    (asked : matcher.test [unit] caller = (.ok true, after)) :
    cursor.eat spec caller = (cursor.moveTo (cursor.position + 1) (.ok true), after) := by
  rw [eat, if_pos below, stands, read]
  simp only [asked]

end Eat

/-- Takes characters as long as they are accepted, and tells whether it took any. -/
def eatWhile (cursor : Cursor) (spec : Spec Caller) (caller : Caller) : Moved Bool × Caller :=
  match spec.toMatcher with
  | .error cause => (cursor.stay (.error cause), caller)
  | .ok matcher =>
    let run := matcher.runEnd cursor.text cursor.stop cursor.position caller
    (cursor.moveTo run.position (run.result.map fun _ => run.position != cursor.position),
      run.caller)

/-- Marks the position, takes characters as long as they are accepted and gives their text. -/
def consume (cursor : Cursor) (spec : Spec Caller) (caller : Caller) : Moved Text × Caller :=
  let saved := cursor.save none
  match saved.result with
  | .error cause => (⟨.error cause, saved.cursor, saved.notices⟩, caller)
  | .ok _ =>
    let eaten := saved.cursor.eatWhile spec caller
    (⟨eaten.1.result.map fun _ => eaten.1.cursor.current, eaten.1.cursor,
      saved.notices ++ eaten.1.notices⟩, eaten.2)

/-- The diagnostic for a character that was not accepted, or for the end of the range where one was
wanted. A given message replaces the description of what was expected. -/
def unmet (cursor : Cursor) (matcher : Matcher Caller) (found : Option CodePoint)
    (message : Option Text) : Except Failure Diagnostic :=
  match message with
  | some given => .ok (cursor.diagnose given)
  | none =>
    matcher.describe.map fun description =>
      cursor.diagnose <| match found with
        | some unit =>
          Text.ofString "Expected " ++ description ++ Text.ofString ", got " ++
            Text.quoted [unit]
        | none => Text.ofString "Unexpected end of input, expected " ++ description

/-- Takes the next character if it is accepted, and says what was expected otherwise. -/
def expect (cursor : Cursor) (spec : Spec Caller) (message : Option Text) (caller : Caller) :
    Moved (Except Diagnostic CodePoint) × Caller :=
  match spec.toMatcher with
  | .error cause => (cursor.stay (.error cause), caller)
  | .ok matcher =>
    match cursor.peek with
    | .error cause => (cursor.stay (.error cause), caller)
    | .ok none => (cursor.stay ((cursor.unmet matcher none message).map .error), caller)
    | .ok (some unit) =>
      match matcher.test [unit] caller with
      | (.error cause, after) => (cursor.stay (.error cause), after)
      | (.ok false, after) =>
        (cursor.stay ((cursor.unmet matcher (some unit) message).map .error), after)
      | (.ok true, after) => (cursor.moveTo (cursor.position + 1) (.ok (.ok unit)), after)

end Cursor

end Lexing
