/-
This file lists the ways an operation can end without a result, each with the data that identifies
its cause, and gives every one its wording. Two kinds of report stand apart. A diagnostic says where
a scan stopped and is an ordinary value until the caller raises it. A violation says which offset
left the range of a cursor whose bounds are checked.
-/
import Lexing.CodePoint

namespace Lexing

/-! ### Reports -/

/-- Where and why scanning stopped. -/
structure Diagnostic where
  /-- What went wrong, without the position. -/
  message : Text
  /-- The offset of the cursor, counted from 0. -/
  position : Int
  /-- The whole text being scanned. -/
  source : Text
  /-- Whether the wording ends with the scanned text. -/
  quotesSource : Bool
  deriving DecidableEq

/-- The wording of a diagnostic counts characters from 1. -/
def Diagnostic.text (diagnostic : Diagnostic) : Text :=
  let located := diagnostic.message ++ Text.ofString " at char " ++
    Text.ofInt (diagnostic.position + 1)
  if diagnostic.quotesSource then
    located ++ Text.ofString " in \"" ++ diagnostic.source ++ Text.ofString "\""
  else located

/-- An offset that an operation was asked to move to, outside the range `[lower, stop]`. -/
structure Violation where
  operation : Text
  offset : Int
  lower : Int
  stop : Int
  deriving DecidableEq

/-- The wording of a violation. -/
def Violation.text (violation : Violation) : Text :=
  violation.operation ++ Text.ofString ": offset " ++ Text.ofInt violation.offset ++
    Text.ofString " is outside the range [" ++ Text.ofInt violation.lower ++
    Text.ofString ", " ++ Text.ofInt violation.stop ++ Text.ofString "]"

/-! ### Causes -/

/-- Why an operation has no result. -/
inductive Failure where
  /-- A checked cursor was asked to leave its range. -/
  | outsideRange (violation : Violation)
  /-- A read before the first or behind the last character of the text. -/
  | outsideText
  /-- A read at an offset that no index has room for. -/
  | offsetTooWide
  /-- A code that no machine integer has room for. -/
  | codeTooWide
  /-- A code that is negative or above the last code point. -/
  | codeOutsideUnicode
  /-- The code of a text that is not one character long. -/
  | notOneCharacter (length : Nat)
  /-- An empty text where a character is needed. -/
  | emptyCharacter
  /-- A search for the empty text. -/
  | emptyNeedle
  /-- An exact character made from the empty text. -/
  | emptyExactCharacter
  /-- An exact code below zero. -/
  | negativeCode (code : Int)
  /-- A value that stands for no matcher. -/
  | unsupportedSpec (shown : Text)
  /-- A value was to be shown and holds a number with too many digits. -/
  | numeralTooLong
  /-- A value was to be shown and is nested deeper than calls may be. -/
  | nestedTooDeep
  /-- A value of the named kind was called and is no function. -/
  | notCallable (kind : Text)
  /-- An object of the named kind does not have what it was asked for by name. -/
  | missingAttribute (kind name : Text)
  /-- A value of the named kind can change and cannot be a member of a collection. -/
  | unfitMember (kind : Text)
  /-- A text method that was given a code. -/
  | codeForTextMethod (method : Text)
  /-- Pattern text that denotes no pattern. -/
  | malformedPattern
  /-- An escape setting whose length is not 1. -/
  | escapeLength (shown : Text)
  /-- An escape setting of a kind that has no length. -/
  | unsized (kind : Text)
  /-- A setting that does not exist. -/
  | unknownSetting (name : Text)
  /-- A setting under the name that the settings themselves are passed by. -/
  | reservedSetting (name : Text)
  /-- A diagnostic that the caller raised. -/
  | diagnosed (diagnostic : Diagnostic)
  /-- A failure of a function that the caller supplied. -/
  | raised (message : Text)
  /-- No cursor has this number. -/
  | noSuchCursor (number : Nat)
  /-- No log handler has this number. -/
  | noSuchHandler (number : Nat)
  deriving DecidableEq

/-- The wording of a failure. -/
def Failure.message : Failure → Text
  | outsideRange violation => violation.text
  | outsideText => "string index out of range"
  | offsetTooWide => "cannot fit 'int' into an index-sized integer"
  | codeTooWide => "Python int too large to convert to C int"
  | codeOutsideUnicode => "chr() arg not in range(0x110000)"
  | notOneCharacter length =>
    Text.ofString "ord() expected a character, but string of length " ++ Text.ofInt length ++
      Text.ofString " found"
  | emptyCharacter => "expected a character or character code, got ''"
  | emptyNeedle => "skip_to() needs a non-empty needle"
  | emptyExactCharacter => "ExactChar requires a non-empty string"
  | negativeCode code => Text.ofString "character codes are never negative, got " ++ Text.ofInt code
  | unsupportedSpec shown => Text.ofString "unsupported match spec: " ++ shown
  | numeralTooLong =>
    Text.ofString "Exceeds the limit (" ++ Text.ofInt Text.maxDigits ++
      Text.ofString (" digits) for integer string conversion; " ++
        "use sys.set_int_max_str_digits() to increase the limit")
  | nestedTooDeep =>
    "maximum recursion depth exceeded while getting the repr of an object"
  | notCallable kind =>
    Text.ofString "'" ++ kind ++ Text.ofString "' object is not callable"
  | missingAttribute kind name =>
    Text.ofString "'" ++ kind ++ Text.ofString "' object has no attribute '" ++ name ++
      Text.ofString "'"
  | unfitMember kind => Text.ofString "unhashable type: '" ++ kind ++ Text.ofString "'"
  | codeForTextMethod method =>
    Text.ofString "descriptor '" ++ method ++
      Text.ofString "' for 'str' objects doesn't apply to a 'int' object"
  | malformedPattern => "malformed pattern"
  | escapeLength shown => Text.ofString "escape must be a single character, got " ++ shown
  | unsized kind => Text.ofString "object of type '" ++ kind ++ Text.ofString "' has no len()"
  | unknownSetting name =>
    Text.ofString "ReaderConfig.__init__() got an unexpected keyword argument '" ++ name ++
      Text.ofString "'"
  | reservedSetting name =>
    Text.ofString "ReaderConfig.__init__() got multiple values for argument '" ++ name ++
      Text.ofString "'"
  | diagnosed diagnostic => diagnostic.text
  | raised message => message
  | noSuchCursor number => Text.ofString "no cursor " ++ Text.ofInt number
  | noSuchHandler number => Text.ofString "no handler " ++ Text.ofInt number

end Lexing
