/-
This file holds the named character sets that lexers are usually built from. They are sets of ASCII
characters, so membership needs no table. Each comes as a set and as a predicate with a name of its
own; the predicate takes a character, a code or nothing.
-/
import Lexing.Glyph

namespace Lexing

/-- A named set of characters. -/
inductive CharSet where
  | blank
  | whitespace
  | digit
  | letter
  | alphanumeric
  | quote
  deriving DecidableEq

namespace CharSet

/-- Every named set. -/
def all : List CharSet := [blank, whitespace, digit, letter, alphanumeric, quote]

/-- The characters from one to another, both included. -/
def span (first last : Char) : List CodePoint :=
  (List.range (last.toNat + 1 - first.toNat)).map fun step =>
    .ofChar (Char.ofNat (first.toNat + step))

/-- The members of a set, in the order of their codes. -/
def members : CharSet → List CodePoint
  | blank => ['\t', ' '].map .ofChar
  | whitespace => ['\t', '\n', '\x0b', '\x0c', '\r', ' '].map .ofChar
  | digit => span '0' '9'
  | letter => span 'A' 'Z' ++ span 'a' 'z'
  | alphanumeric => span '0' '9' ++ span 'A' 'Z' ++ span 'a' 'z'
  | quote => ['"', '\''].map .ofChar

/-- The name of the set. -/
def name : CharSet → Text
  | blank => "SPACE"
  | whitespace => "WHITESPACE"
  | digit => "DIGITS"
  | letter => "ALPHA"
  | alphanumeric => "ALPHANUMERIC"
  | quote => "QUOTES"

/-- The name of the predicate. -/
def predicateName : CharSet → Text
  | blank => "is_space"
  | whitespace => "is_white_space"
  | digit => "is_number"
  | letter => "is_alpha"
  | alphanumeric => "is_alpha_numeric"
  | quote => "is_quote"

/-- The set with a given name. -/
def ofName? (name : Text) : Option CharSet := all.find? fun set => set.name == name

/-- The set whose predicate has a given name. -/
def ofPredicateName? (name : Text) : Option CharSet :=
  all.find? fun set => set.predicateName == name

/-- Whether a text is one of the members. A text that is not one character long is none. -/
def contains (set : CharSet) : Text → Bool
  | [unit] => set.members.contains unit
  | _ => false

/-- The predicate, asked about a text or a code or nothing. -/
def holdsOf (set : CharSet) : Option Glyph → Except Failure Bool
  | none => .ok false
  | some glyph => glyph.toText.map set.contains

end CharSet

end Lexing
