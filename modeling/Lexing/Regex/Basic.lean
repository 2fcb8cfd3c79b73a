/-
This file holds regular expressions and what it means for one to match at the beginning of a text.
An expression denotes the ways of cutting a text in two: for a given rest it lists what may remain
once the expression has matched. Anchors look at how much of the text lies behind, and lookahead
asks for a match without using anything up.
-/
import Lexing.Text.Quoted

namespace Lexing

/-! ### Character classes -/

/-- A set of characters, as an expression describes it. -/
inductive UnitClass where
  | nothing
  | everything
  | exactly (unit : CodePoint)
  | between (first last : CodePoint)
  | decimal
  | word
  | space
  | complement (inner : UnitClass)
  | union (left right : UnitClass)

namespace UnitClass

/-- The characters that a class is asked about for one: where letter case is ignored, all that differ
from it in case alone. -/
def spellings (ignoresCase : Bool) (unit : CodePoint) : List CodePoint :=
  if ignoresCase then unit.caseVariants else [unit]

/-- Whether a character belongs to the class. Letter case matters to the characters that a class
names, and not to the classes that have a name themselves. -/
def contains (ignoresCase : Bool) : UnitClass → CodePoint → Bool
  | nothing, _ => false
  | everything, _ => true
  | exactly unit, other => (spellings ignoresCase other).contains unit
  | between first last, unit =>
    (spellings ignoresCase unit).any fun other =>
      first.code ≤ other.code && other.code ≤ last.code
  | decimal, unit => unit.isDecimal
  | word, unit => unit.isWord
  | space, unit => unit.isSpace
  | complement inner, unit => !inner.contains ignoresCase unit
  | union left right, unit => left.contains ignoresCase unit || right.contains ignoresCase unit

/-- The characters that do not end a line. -/
def inLine : UnitClass := complement (exactly (.ofChar '\n'))

end UnitClass

/-! ### Expressions -/

/-- A regular expression. -/
inductive Expression where
  | empty
  | unit (ignoresCase : Bool) (kind : UnitClass)
  | sequence (first second : Expression)
  | choice (left right : Expression)
  | repeated (inner : Expression)
  | atBeginning
  | atEnd
  | atVeryEnd
  | lookahead (wanted : Bool) (inner : Expression)

/-- What may remain after any number of steps that each use something up. The count bounds the
number of steps. -/
def afterSteps (step : Text → List Text) : Nat → Text → List Text
  | 0, rest => [rest]
  | count + 1, rest =>
    rest :: ((step rest).filter fun shorter => shorter.length < rest.length).flatMap
      (afterSteps step count)

namespace Expression

/-- What may remain of a text after the expression has matched at the beginning of it. The text is
the end of a longer one, whose length comes first. -/
def remainders (total : Nat) : Expression → Text → List Text
  | empty, rest => [rest]
  | unit ignoresCase kind, rest =>
    match rest with
    | [] => []
    | char :: others => if kind.contains ignoresCase char then [others] else []
  | sequence first second, rest => (first.remainders total rest).flatMap (second.remainders total)
  | choice left right, rest => left.remainders total rest ++ right.remainders total rest
  | repeated inner, rest => afterSteps (inner.remainders total) rest.length rest
  | atBeginning, rest => if rest.length = total then [rest] else []
  | atEnd, rest => if rest = [] ∨ rest = [.ofChar '\n'] then [rest] else []
  | atVeryEnd, rest => if rest = [] then [rest] else []
  | lookahead wanted inner, rest =>
    if (inner.remainders total rest).isEmpty = wanted then [] else [rest]

end Expression

/-- How the marks at the beginning of an expression change what follows. -/
structure Marks where
  ignoresCase : Bool
  pointTakesAll : Bool

/-- The names of the marks that are set. -/
def Marks.names (marks : Marks) : List String :=
  (if marks.ignoresCase then ["re.IGNORECASE"] else []) ++
    (if marks.pointTakesAll then ["re.DOTALL"] else [])

/-- A regular expression together with the text that it was written as and the marks in it. -/
structure Regex where
  source : Text
  marks : Marks
  expression : Expression

/-- How an expression is shown: by at most 200 characters of the literal of its text, and by its
marks. -/
def Regex.display (regex : Regex) : Text :=
  let literal := regex.source.quoted.take 200
  let marks := regex.marks.names
  let shown := if marks.isEmpty then "" else ", " ++ String.intercalate "|" marks
  Text.ofString "re.compile(" ++ literal ++ Text.ofString shown ++ Text.ofString ")"

/-- Whether the expression matches some beginning of a text, possibly an empty one. -/
def Regex.matchesBeginning (regex : Regex) (text : Text) : Bool :=
  !(regex.expression.remainders text.length text).isEmpty

end Lexing
