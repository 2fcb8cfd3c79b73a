/-
This file makes the operations of a cursor into data, so that whole runs of them can be spoken
about. An operation is performed on a cursor together with the caller's state; a run performs a list
of them one after the other, going on from whatever cursor a failed operation has left.
-/
import Lexing.Cursor.Quoted
import Lexing.Cursor.Scan

namespace Lexing

/-- An operation on a cursor. -/
inductive Operation (Caller : Type) where
  | atEnd
  | atStart
  | peek
  | peekCode
  | next
  | nextCode
  | drain
  | backUp (count : Int)
  | eat (spec : Spec Caller)
  | eatWhile (spec : Spec Caller)
  | consume (spec : Spec Caller)
  | expect (spec : Spec Caller) (message : Option Text)
  | skipTo (needle : Glyph)
  | eatQuoted (quote : Glyph) (escape : Option Glyph)
  | save (offset : Option Int)
  | current
  | substring (first last : Option Int)
  | source
  | display
  | diagnose (message : Text)
  | raise (message : Text)

/-- What an operation answers. -/
inductive Answer where
  | done
  | truth (holds : Bool)
  | unit (found : Option CodePoint)
  | code (found : Option Nat)
  | text (content : Text)
  | offset (position : Int)
  | diagnostic (diagnostic : Diagnostic)
  deriving DecidableEq

namespace Cursor

variable {Caller : Type}

/-- Performs an operation. -/
def perform (cursor : Cursor) (operation : Operation Caller) (caller : Caller) :
    Moved Answer × Caller :=
  match operation with
  | .atEnd => (cursor.stay (.ok (.truth cursor.atEnd)), caller)
  | .atStart => (cursor.stay (.ok (.truth cursor.atStart)), caller)
  | .peek => (cursor.stay (cursor.peek.map .unit), caller)
  | .peekCode => (cursor.stay (cursor.peekCode.map .code), caller)
  | .next => (cursor.next.map .unit, caller)
  | .nextCode => (cursor.nextCode.map .code, caller)
  | .drain => (cursor.drain.map .text, caller)
  | .backUp count => ((cursor.backUp count).map fun _ => .done, caller)
  | .eat spec =>
    let eaten := cursor.eat spec caller
    (eaten.1.map .truth, eaten.2)
  | .eatWhile spec =>
    let eaten := cursor.eatWhile spec caller
    (eaten.1.map .truth, eaten.2)
  | .consume spec =>
    let consumed := cursor.consume spec caller
    (consumed.1.map .text, consumed.2)
  | .expect spec message =>
    let expected := cursor.expect spec message caller
    (expected.1.map fun found =>
      match found with
      | .ok unit => .unit (some unit)
      | .error diagnostic => .diagnostic diagnostic, expected.2)
  | .skipTo needle => ((cursor.skipTo needle).map .truth, caller)
  | .eatQuoted quote escape => ((cursor.eatQuoted quote escape).map .truth, caller)
  | .save offset => ((cursor.save offset).map .offset, caller)
  | .current => (cursor.stay (.ok (.text cursor.current)), caller)
  | .substring first last => (cursor.stay (.ok (.text (cursor.substring first last))), caller)
  | .source => (cursor.stay (.ok (.text cursor.text)), caller)
  | .display => (cursor.stay (.ok (.text cursor.display)), caller)
  | .diagnose message => (cursor.stay (.ok (.diagnostic (cursor.diagnose message))), caller)
  | .raise message => (cursor.stay (.error (.diagnosed (cursor.diagnose message))), caller)

/-- What a run of operations comes to. -/
structure Finished (Caller : Type) where
  results : List (Except Failure Answer)
  cursor : Cursor
  notices : List Notice
  caller : Caller

/-- Performs operations one after the other. -/
def run (cursor : Cursor) : List (Operation Caller) → Caller → Finished Caller
  | [], caller => ⟨[], cursor, [], caller⟩
  | operation :: rest, caller =>
    let first := cursor.perform operation caller
    let others := first.1.cursor.run rest first.2
    ⟨first.1.result :: others.results, others.cursor, first.1.notices ++ others.notices,
      others.caller⟩

end Cursor

end Lexing
