/-
This file holds cursors. A cursor stands at an offset of a text, remembers where the current token
began and keeps to a range `[lower, stop)` of the text. Making a cursor moves every offset it is
given into the text. Afterwards the position may leave the range downwards unless bounds are
checked, and below zero it reads from the end of the text, as offsets do elsewhere. An operation
answers or fails, and in either case leaves a cursor behind and says what it had to tell.
-/
import Lexing.Glyph
import Lexing.Journal

namespace Lexing

/-- A place in a text, with the range that may be scanned. -/
structure Cursor where
  text : Text
  /-- The offset of the next character. -/
  position : Int
  /-- The offset at which the current token began. -/
  start : Int
  /-- The first offset of the range. -/
  lower : Int
  /-- The offset behind the last of the range. -/
  stop : Int
  settings : Settings

/-- What an operation on a cursor comes to. -/
structure Moved (Result : Type) where
  result : Except Failure Result
  cursor : Cursor
  notices : List Notice

/-- The same, with the answer put into another form. -/
def Moved.map {Result Other : Type} (change : Result → Other) (moved : Moved Result) :
    Moved Other :=
  ⟨moved.result.map change, moved.cursor, moved.notices⟩

namespace Cursor

/-! ### Making cursors -/

/-- A cursor over a text. Offsets of any size are moved into it: first the end of the range, then
its beginning to at most that end, then the position into the range. Without an end the range goes
on to the end of the text. -/
def ofText (text : Text) (settings : Settings) (start lower : Int) (stop : Option Int) : Cursor :=
  let length : Int := text.length
  let last := match stop with
    | some offset => max 0 (min offset length)
    | none => length
  let first := max 0 (min lower last)
  let position := max first (min start last)
  ⟨text, position, position, first, last, settings⟩

/-- A cursor over another range of the same text, standing at its beginning. It has the settings of
the cursor that it is made from. -/
def subView (parent : Cursor) (lower upper : Int) : Cursor :=
  ofText parent.text parent.settings lower lower (some upper)

/-- How a cursor is shown. -/
def display (cursor : Cursor) : Text :=
  Text.ofString "Cursor(pos=" ++ Text.ofInt cursor.position ++ Text.ofString ", start=" ++
    Text.ofInt cursor.start ++ Text.ofString ", range=[" ++ Text.ofInt cursor.lower ++
    Text.ofString ", " ++ Text.ofInt cursor.stop ++ Text.ofString "))"

/-! ### Answers -/

/-- The cursor stays as it is. -/
def stay {Result : Type} (cursor : Cursor) (result : Except Failure Result) : Moved Result :=
  ⟨result, cursor, []⟩

/-- The cursor moves to an offset. -/
def moveTo {Result : Type} (cursor : Cursor) (position : Int) (result : Except Failure Result) :
    Moved Result :=
  ⟨result, { cursor with position }, []⟩

/-! ### Looking -/

/-- Whether the range is used up. -/
def atEnd (cursor : Cursor) : Bool := cursor.stop ≤ cursor.position

/-- Whether the cursor stands at the beginning of the range. -/
def atStart (cursor : Cursor) : Bool := cursor.position == cursor.lower

/-- The next character, if the range is not used up. -/
def peek (cursor : Cursor) : Except Failure (Option CodePoint) :=
  if cursor.position < cursor.stop then (cursor.text.read cursor.position).map some
  else .ok none

/-- The code of the next character, if the range is not used up. -/
def peekCode (cursor : Cursor) : Except Failure (Option Nat) :=
  cursor.peek.map (Option.map CodePoint.code)

/-! ### Moving -/

/-- Takes the next character, if the range is not used up. -/
def next (cursor : Cursor) : Moved (Option CodePoint) :=
  match cursor.peek with
  | .ok (some unit) => cursor.moveTo (cursor.position + 1) (.ok (some unit))
  | other => cursor.stay other

/-- Takes the next character, if the range is not used up, and gives its code. -/
def nextCode (cursor : Cursor) : Moved (Option Nat) :=
  cursor.next.map (Option.map CodePoint.code)

theorem next_result_some {cursor : Cursor} {unit : CodePoint}
    (taken : cursor.next.result = .ok (some unit)) :
    cursor.position < cursor.stop ∧
      cursor.next = cursor.moveTo (cursor.position + 1) (.ok (some unit)) := by
  unfold next at taken ⊢
  split at taken
  case h_1 other found =>
    cases taken
    refine ⟨?_, rfl⟩
    unfold peek at found
    split at found
    · assumption
    · cases found
  case h_2 impossible => exact (impossible unit taken).elim

/-- Takes characters until the range is used up. -/
def drain (cursor : Cursor) : Moved Text :=
  match _taken : cursor.next.result with
  | .ok (some unit) =>
    let rest := drain cursor.next.cursor
    ⟨rest.result.map (unit :: ·), rest.cursor, rest.notices⟩
  | .ok none => cursor.next.map fun _ => []
  | .error cause => ⟨.error cause, cursor.next.cursor, cursor.next.notices⟩
termination_by (cursor.stop - cursor.position).toNat
decreasing_by
  obtain ⟨below, moved⟩ := next_result_some _taken
  simp only [moved, moveTo]
  omega

theorem drain_of_some {cursor : Cursor} {unit : CodePoint}
    (taken : cursor.next.result = .ok (some unit)) :
    cursor.drain = ⟨cursor.next.cursor.drain.result.map (unit :: ·),
      cursor.next.cursor.drain.cursor, cursor.next.cursor.drain.notices⟩ := by
  rw [drain]
  split <;> simp_all

theorem drain_of_none {cursor : Cursor} (used : cursor.next.result = .ok none) :
    cursor.drain = cursor.next.map fun _ => [] := by
  rw [drain]
  split <;> simp_all

theorem drain_of_error {cursor : Cursor} {cause : Failure}
    (unread : cursor.next.result = .error cause) :
    cursor.drain = ⟨.error cause, cursor.next.cursor, cursor.next.notices⟩ := by
  rw [drain]
  split <;> simp_all

/-- Moves back by a number of characters. With checked bounds it is refused to go below the
range. -/
def backUp (cursor : Cursor) (count : Int) : Moved Unit :=
  let target := cursor.position - count
  if cursor.settings.checksBounds = true ∧ target < cursor.lower then
    ⟨.error (.outsideRange ⟨"back_up", target, cursor.lower, cursor.stop⟩), cursor,
      [.backUpRefused count cursor.position]⟩
  else cursor.moveTo target (.ok ())

/-- Moves to the first occurrence of a text that lies wholly in what is left of the range. -/
def skipTo (cursor : Cursor) (needle : Glyph) : Moved Bool :=
  match needle.toNeedle with
  | .error cause => cursor.stay (.error cause)
  | .ok content =>
    match cursor.text.find? content cursor.position cursor.stop with
    | some offset => cursor.moveTo offset (.ok true)
    | none => cursor.stay (.ok false)

/-! ### Tokens -/

/-- Marks an offset, or the position, as the beginning of the current token. With checked bounds an
offset outside the range is refused; otherwise one behind the range is moved to its end. -/
def save (cursor : Cursor) (offset : Option Int) : Moved Int :=
  let wanted := offset.getD cursor.position
  if cursor.settings.checksBounds = true ∧ ¬ (cursor.lower ≤ wanted ∧ wanted ≤ cursor.stop) then
    ⟨.error (.outsideRange ⟨"save", wanted, cursor.lower, cursor.stop⟩), cursor,
      [.saveRefused wanted cursor.lower cursor.stop]⟩
  else
    let start := min wanted cursor.stop
    ⟨.ok start, { cursor with start }, []⟩

/-- The text of the current token, from the mark up to the position. -/
def current (cursor : Cursor) : Text :=
  if cursor.position ≤ cursor.start then []
  else cursor.text.slice (some (max cursor.start 0)) (some cursor.position)

/-- A part of the whole text, whatever the range. -/
def substring (cursor : Cursor) (first last : Option Int) : Text := cursor.text.slice first last

/-! ### Diagnostics -/

/-- A diagnostic at the position of the cursor. -/
def diagnose (cursor : Cursor) (message : Text) : Diagnostic :=
  ⟨message, cursor.position, cursor.text, cursor.settings.quotesSource⟩

end Cursor

end Lexing
