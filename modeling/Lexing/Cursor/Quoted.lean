/-
This file scans quoted literals. The opening quote has been taken already. A character behind an
escape is passed over whatever it is, so an escaped quote does not close the literal and an escaped
escape escapes nothing. The scan is all or nothing: without a closing quote in the range the cursor
is left where it stood.
-/
import Lexing.Cursor.Basic

namespace Lexing

/-- How the scan of a quoted literal ends. -/
inductive LiteralEnd where
  /-- Behind the closing quote. -/
  | closed (position : Int)
  /-- At the end of the range. -/
  | unterminated
  /-- At a character that cannot be read. -/
  | unreadable (cause : Failure) (position : Int)
  deriving DecidableEq

/-- Looks for the first quote that is not escaped, from an offset up to the end of a range. An
escape takes the character behind it along, be that in the range or not. The escape is looked for
first, so a quote that is also the escape never closes. -/
def Text.literalEnd (text : Text) (stop : Int) (quote : CodePoint) (escape : Option CodePoint)
    (position : Int) : LiteralEnd :=
  if position < stop then
    match text.read position with
    | .error cause => .unreadable cause position
    | .ok unit =>
      if escape = some unit then text.literalEnd stop quote escape (position + 2)
      else if unit = quote then .closed (position + 1)
      else text.literalEnd stop quote escape (position + 1)
  else .unterminated
termination_by (stop - position).toNat

section LiteralEnd

variable {text : Text} {stop position : Int} {quote unit : CodePoint} {escape : Option CodePoint}

theorem Text.literalEnd_of_unreadable {cause : Failure} (below : position < stop)
    (unread : text.read position = .error cause) :
    text.literalEnd stop quote escape position = .unreadable cause position := by
  rw [literalEnd, if_pos below, unread]

theorem Text.literalEnd_of_escape (below : position < stop)
    (read : text.read position = .ok unit) (escaped : escape = some unit) :
    text.literalEnd stop quote escape position =
      text.literalEnd stop quote escape (position + 2) := by
  rw [literalEnd, if_pos below, read]
  exact if_pos escaped

theorem Text.literalEnd_of_quote (below : position < stop)
    (read : text.read position = .ok quote) (plain : escape ≠ some quote) :
    text.literalEnd stop quote escape position = .closed (position + 1) := by
  rw [literalEnd, if_pos below, read]
  exact (if_neg plain).trans (if_pos rfl)

theorem Text.literalEnd_of_other (below : position < stop)
    (read : text.read position = .ok unit) (plain : escape ≠ some unit) (other : unit ≠ quote) :
    text.literalEnd stop quote escape position =
      text.literalEnd stop quote escape (position + 1) := by
  rw [literalEnd, if_pos below, read]
  exact (if_neg plain).trans (if_neg other)

theorem Text.literalEnd_of_end (used : ¬ position < stop) :
    text.literalEnd stop quote escape position = .unterminated := by
  rw [literalEnd, if_neg used]

end LiteralEnd

/-- Takes the rest of a quoted literal, the closing quote included. Without an escape of its own the
settings' one applies. -/
def Cursor.eatQuoted (cursor : Cursor) (quote : Glyph) (escape : Option Glyph) : Moved Bool :=
  match quote.toUnit with
  | .error cause => cursor.stay (.error cause)
  | .ok quoteUnit =>
    match escape.mapM Glyph.toUnit with
    | .error cause => cursor.stay (.error cause)
    | .ok given =>
      match cursor.text.literalEnd cursor.stop quoteUnit (given.or cursor.settings.escapeUnit?)
          cursor.position with
      | .closed position => cursor.moveTo position (.ok true)
      | .unterminated => ⟨.ok false, cursor, [.unterminated quoteUnit cursor.position]⟩
      | .unreadable cause position => cursor.moveTo position (.error cause)

end Lexing
