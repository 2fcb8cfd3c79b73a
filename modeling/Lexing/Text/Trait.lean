/-
This file names the yes-or-no questions that can be asked of a whole text. Most of them ask the
question of every character and refuse the empty text. Letter case asks more: a text is uppercase if
it has an uppercase letter and no other cased one, and it is titled if its words begin with
uppercase letters and go on with lowercase ones.
-/
import Lexing.Text.Category

namespace Lexing

/-- A question about a whole text. -/
inductive Trait where
  | ascii
  | printable
  | space
  | letter
  | alphanumeric
  | decimal
  | digit
  | numeral
  | upper
  | lower
  | titled
  | identifier
  deriving DecidableEq

namespace Trait

/-- The name by which callers ask the question. -/
def name : Trait → Text
  | ascii => "isascii"
  | printable => "isprintable"
  | space => "isspace"
  | letter => "isalpha"
  | alphanumeric => "isalnum"
  | decimal => "isdecimal"
  | digit => "isdigit"
  | numeral => "isnumeric"
  | upper => "isupper"
  | lower => "islower"
  | titled => "istitle"
  | identifier => "isidentifier"

/-- Every question. -/
def all : List Trait :=
  [ascii, printable, space, letter, alphanumeric, decimal, digit, numeral, upper, lower, titled,
    identifier]

/-- The question with a given name. -/
def ofName? (name : Text) : Option Trait := all.find? fun trait => trait.name == name

/-- Whether a text is not empty and consists of characters of one kind. -/
def consistsOf (kind : CodePoint → Bool) (text : Text) : Bool :=
  !text.isEmpty && text.all kind

/-- Whether words begin with uppercase letters and go on with lowercase ones. The first argument
says whether the character before the text is cased, and the second whether any has been so far. -/
def isTitled : Bool → Bool → Text → Bool
  | _, seen, [] => seen
  | inWord, seen, unit :: rest =>
    if unit.isUpper || unit.isTitle then !inWord && isTitled true true rest
    else if unit.isLower then inWord && isTitled true true rest
    else isTitled false seen rest

/-- Whether a text is an identifier. -/
def isIdentifier : Text → Bool
  | [] => false
  | unit :: rest => unit.beginsIdentifier && rest.all CodePoint.continuesIdentifier

/-- The answer to a question. -/
def holds : Trait → Text → Bool
  | ascii, text => text.all CodePoint.isAscii
  | printable, text => text.all CodePoint.isPrintable
  | space, text => consistsOf CodePoint.isSpace text
  | letter, text => consistsOf CodePoint.isLetter text
  | alphanumeric, text => consistsOf CodePoint.isAlphanumeric text
  | decimal, text => consistsOf CodePoint.isDecimal text
  | digit, text => consistsOf CodePoint.isDigit text
  | numeral, text => consistsOf CodePoint.isNumeral text
  | upper, text =>
    text.any CodePoint.isUpper && !text.any fun unit => unit.isLower || unit.isTitle
  | lower, text =>
    text.any CodePoint.isLower && !text.any fun unit => unit.isUpper || unit.isTitle
  | titled, text => isTitled false false text
  | identifier, text => isIdentifier text

end Trait

end Lexing
