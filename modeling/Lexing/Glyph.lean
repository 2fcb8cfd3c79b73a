/-
This file holds the two ways in which callers name a character or a text to look for: by itself, or
by a character code. What a given form stands for depends on the use. A search takes a text whole, a
quote or an escape is its first character, and a character set is asked about it as it is, where
giving nothing stands for the empty text.
-/
import Lexing.Text.Offset

namespace Lexing

/-- A text, or the code of a character. -/
inductive Glyph where
  | text (content : Text)
  | code (number : Int)
  deriving DecidableEq

namespace Glyph

/-- A flag given for a code counts as the code 1 or 0. -/
def ofFlag (holds : Bool) : Glyph := code (if holds then 1 else 0)

/-- The text that the form stands for. -/
def toText : Glyph → Except Failure Text
  | text content => .ok content
  | code number => (CodePoint.ofInt number).map fun unit => [unit]

/-- The single character that the form stands for: of a text, the first. -/
def toUnit : Glyph → Except Failure CodePoint
  | text [] => .error .emptyCharacter
  | text (unit :: _) => .ok unit
  | code number => CodePoint.ofInt number

/-- The text that the form stands for in a search. The empty text cannot be searched for. -/
def toNeedle : Glyph → Except Failure Text
  | text [] => .error .emptyNeedle
  | text (unit :: rest) => .ok (unit :: rest)
  | code number => (CodePoint.ofInt number).map fun unit => [unit]

end Glyph

end Lexing
