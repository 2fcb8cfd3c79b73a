/-
This file puts the text of a cursor into a longer one. The cursor keeps to the same characters, all
of its offsets moved on by what stands in front, and every operation that minds the range comes to
the same there as before: it asks matchers about the same characters, ends in the same way and
leaves the same cursor, put into the longer text. Only answers that are offsets, and reports, move
on with it.

What makes this hold is that no operation looks at the text but between the position and the end of
the range. The operations that tell of the whole text or of bare offsets are left out.
-/

import Lexing.Proofs.Alike
import Lexing.Proofs.Range

namespace Lexing

variable {Caller : Type}

/-! ### Moving on -/

/-- The cursor in a longer text. -/
def Cursor.between (cursor : Cursor) (front back : Text) : Cursor where
  text := front ++ cursor.text ++ back
  position := cursor.position + front.length
  start := cursor.start + front.length
  lower := cursor.lower + front.length
  stop := cursor.stop + front.length
  settings := cursor.settings

/-- What an operation comes to in a longer text, if its answer is the same there. -/
def Moved.between {Result : Type} (moved : Moved Result) (front back : Text) : Moved Result :=
  ⟨moved.result, moved.cursor.between front back,
    moved.notices.map (Notice.movedOn front.length)⟩

/-- A diagnostic in a longer text, with the message that it had. -/
def Diagnostic.between (diagnostic : Diagnostic) (front back : Text) : Diagnostic :=
  { diagnostic with
    position := diagnostic.position + front.length
    source := front ++ diagnostic.source ++ back }

/-- A failure in a longer text. -/
def Failure.between (front back : Text) : Failure → Failure
  | outsideRange ⟨operation, offset, lower, stop⟩ =>
    outsideRange ⟨operation, offset + front.length, lower + front.length, stop + front.length⟩
  | diagnosed diagnostic => diagnosed (diagnostic.between front back)
  | other => other

/-- An answer in a longer text. -/
def Answer.between (front back : Text) : Answer → Answer
  | offset position => offset (position + front.length)
  | diagnostic given => diagnostic (given.between front back)
  | other => other

/-- What the result of an operation becomes in a longer text. The operations that are about offsets
name them when they fail; other failures are those of matchers, and are handed on as they are. -/
def Operation.resultBetween (front back : Text) (result : Except Failure Answer) :
    Operation Caller → Except Failure Answer
  | backUp _ | raise _ | save _ =>
    (result.map (Answer.between front back)).mapError (Failure.between front back)
  | _ => result.map (Answer.between front back)

/-- What an operation comes to in a longer text. -/
def Operation.between (operation : Operation Caller) (front back : Text) (moved : Moved Answer) :
    Moved Answer :=
  ⟨operation.resultBetween front back moved.result, moved.cursor.between front back,
    moved.notices.map (Notice.movedOn front.length)⟩

namespace Cursor

section Between

variable (front back : Text)

variable {cursor : Cursor}

/-! ### Looking and taking -/

end Between

end Cursor

end Lexing
