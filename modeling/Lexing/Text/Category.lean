/-
This file sorts code points into general categories and derives from them the properties that
scanning asks about: white space, letters, the three grades of numerals, letter case, identifiers
and printability. ASCII is classified by rule, and every other code point by the ranges of the
repertoire. What stands in none of them is unassigned.
-/
import Lexing.CodePoint
import Lexing.Text.Repertoire

namespace Lexing

/-- Whether a code lies in a range. -/
def CodeRange.holds (range : CodeRange) (code : Nat) : Bool :=
  range.first ≤ code && code ≤ range.last

/-- Whether a code lies in one of some ranges. -/
def CodeRange.cover (ranges : List CodeRange) (code : Nat) : Bool :=
  ranges.any fun range => range.holds code

/-- Whether a code is that of one of the letters of a range. -/
def CaseRange.holds (range : CaseRange) (code : Nat) : Bool :=
  range.first ≤ code && code ≤ range.last && (code - range.first) % range.step == 0

/-! ### Categories -/

/-- The general category of a code point. Punctuation other than connectors is one category here,
and so are all symbols, since no property tells them apart. -/
inductive Category where
  | uppercase
  | lowercase
  | titlecase
  | otherLetter
  | mark
  | enclosingMark
  | decimal
  | letterNumber
  | otherNumber
  | connector
  | punctuation
  | symbol
  | space
  | lineSeparator
  | control
  | format
  | surrogate
  | privateUse
  | unassigned
  deriving DecidableEq

namespace Category

/-- The category of an ASCII code. -/
def ofAscii (code : Nat) : Category :=
  if code < 0x20 ∨ code = 0x7F then control
  else if code = 0x20 then space
  else if 0x30 ≤ code ∧ code ≤ 0x39 then decimal
  else if 0x41 ≤ code ∧ code ≤ 0x5A then uppercase
  else if 0x61 ≤ code ∧ code ≤ 0x7A then lowercase
  else if code = 0x5F then connector
  else if [0x24, 0x2B, 0x3C, 0x3D, 0x3E, 0x5E, 0x60, 0x7C, 0x7E].contains code then symbol
  else punctuation

/-- The ranges that each category takes up above ASCII. -/
def ranges : List (Category × List CodeRange) :=
  [(uppercase, Repertoire.uppercase), (lowercase, Repertoire.lowercase),
   (titlecase, Repertoire.titlecase), (otherLetter, Repertoire.otherLetter),
   (mark, Repertoire.mark), (enclosingMark, Repertoire.enclosingMark),
   (decimal, Repertoire.decimal), (letterNumber, Repertoire.letterNumber),
   (otherNumber, Repertoire.otherNumber), (connector, Repertoire.connector),
   (punctuation, Repertoire.punctuation), (symbol, Repertoire.symbol), (space, Repertoire.space),
   (lineSeparator, Repertoire.lineSeparator), (control, Repertoire.control),
   (format, Repertoire.format), (surrogate, Repertoire.surrogate),
   (privateUse, Repertoire.privateUse)]

/-- The category of a code above ASCII. -/
def ofRanges (code : Nat) : Category :=
  match Repertoire.alternatingCase.find? fun range => range.holds code with
  | some range => if (code - range.first) % 2 = 0 then uppercase else lowercase
  | none =>
    match ranges.find? fun entry => CodeRange.cover entry.2 code with
    | some entry => entry.1
    | none => unassigned

/-- Whether a category is one of the letters. -/
def isLetter : Category → Bool
  | uppercase | lowercase | titlecase | otherLetter => true
  | _ => false

/-- Whether the characters of a category leave a visible mark on the line they stand on. -/
def isGraphic : Category → Bool
  | space | lineSeparator | control | format | surrogate | privateUse | unassigned => false
  | _ => true

end Category

namespace CodePoint

/-- The general category of a code point. -/
def category (unit : CodePoint) : Category :=
  if unit.code < 0x80 then .ofAscii unit.code else .ofRanges unit.code

/-! ### White space, letters and numerals -/

/-- White space: the separators, and the controls that separate. -/
def isSpace (unit : CodePoint) : Bool :=
  match unit.category with
  | .space | .lineSeparator => true
  | .control =>
    (0x09 ≤ unit.code && unit.code ≤ 0x0D) || (0x1C ≤ unit.code && unit.code ≤ 0x1F) ||
      unit.code == 0x85
  | _ => false

/-- A letter of any script. -/
def isLetter (unit : CodePoint) : Bool := unit.category.isLetter

/-- A digit of a positional system of base ten. -/
def isDecimal (unit : CodePoint) : Bool := unit.category == .decimal

/-- A decimal digit, or a digit in a special form such as a superscript. -/
def isDigit (unit : CodePoint) : Bool :=
  unit.isDecimal || CodeRange.cover Repertoire.specialDigits unit.code

/-- A digit, or any other character that stands for a number. -/
def isNumeral (unit : CodePoint) : Bool :=
  unit.isDigit || unit.category == .letterNumber || unit.category == .otherNumber ||
    CodeRange.cover Repertoire.numericIdeographs unit.code

/-- A letter or a numeral. -/
def isAlphanumeric (unit : CodePoint) : Bool := unit.isLetter || unit.isNumeral

/-- An alphanumeric character or the underscore. -/
def isWord (unit : CodePoint) : Bool := unit.isAlphanumeric || unit == ofChar '_'

/-! ### Letter case -/

/-- An uppercase letter, or a numeral or symbol in uppercase form. -/
def isUpper (unit : CodePoint) : Bool :=
  unit.category == .uppercase || CodeRange.cover Repertoire.otherUppercase unit.code

/-- A lowercase letter, or another character in lowercase form. -/
def isLower (unit : CodePoint) : Bool :=
  unit.category == .lowercase || CodeRange.cover Repertoire.otherLowercase unit.code

/-- A digraph whose first letter alone is in uppercase. -/
def isTitle (unit : CodePoint) : Bool := unit.category == .titlecase

/-- The code of the lowercase form of a character. -/
def lowered (unit : CodePoint) : Nat :=
  match Repertoire.lowering.find? fun range => range.holds unit.code with
  | some range => range.lowered + (unit.code - range.first)
  | none => unit.code

/-- The codes of the characters whose lowercase form has a certain code. -/
def raised (code : Nat) : List Nat :=
  Repertoire.lowering.filterMap fun range =>
    let source := range.first + (code - range.lowered)
    if range.lowered ≤ code && range.holds source then some source else none

/-- The characters that differ from a character in case or form alone, and itself: the Kelvin sign
is a `K` and the long s an `s`. -/
def caseVariants (unit : CodePoint) : List CodePoint :=
  let base := unit.lowered
  let family := (Repertoire.caseFamilies.find? fun family => family.contains base).getD [base]
  (family ++ family.flatMap raised).filterMap ofNat?

/-! ### Identifiers and printing -/

/-- Whether an identifier may begin with the character. -/
def beginsIdentifier (unit : CodePoint) : Bool :=
  ((unit.isLetter || unit.category == .letterNumber) &&
      !CodeRange.cover Repertoire.unfitBeginnings unit.code) ||
    unit == ofChar '_' || CodeRange.cover Repertoire.otherBeginnings unit.code

/-- Whether an identifier may go on with the character. -/
def continuesIdentifier (unit : CodePoint) : Bool :=
  unit.beginsIdentifier || unit.isDecimal || unit.category == .mark ||
    unit.category == .connector || CodeRange.cover Repertoire.otherContinuations unit.code

/-- Whether the character is shown as itself. Of the white space only the ASCII space is. -/
def isPrintable (unit : CodePoint) : Bool :=
  unit.category.isGraphic || unit == ofChar ' '

end CodePoint

end Lexing
