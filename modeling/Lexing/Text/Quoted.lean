/-
This file writes a text as a quoted literal, the form in which messages show characters and
patterns. The literal stands in single quotes, or in double quotes if the text holds a single quote
and no double one. The backslash and the quote in use are escaped by a backslash; tab, line feed and
carriage return by their letters; every other character that does not print by its code in
hexadecimal digits, with as many digits as its size asks for.
-/
import Lexing.Text.Category

namespace Lexing.Text

/-- The lowercase hexadecimal digit of a number below 16. -/
def hexDigit (digit : Nat) : CodePoint :=
  CodePoint.ofChar (Char.ofNat (if digit < 10 then 0x30 + digit else 0x57 + digit))

/-- The last hexadecimal digits of a number, as many as asked for, the most significant first. -/
def hexDigits : Nat → Nat → Text
  | 0, _ => []
  | width + 1, value => hexDigits width (value / 16) ++ [hexDigit (value % 16)]

/-- A character written by its code. -/
def codeEscape (unit : CodePoint) : Text :=
  if unit.code < 0x100 then .ofChar '\\' :: .ofChar 'x' :: hexDigits 2 unit.code
  else if unit.code < 0x10000 then .ofChar '\\' :: .ofChar 'u' :: hexDigits 4 unit.code
  else .ofChar '\\' :: .ofChar 'U' :: hexDigits 8 unit.code

/-- A character as it stands inside a literal with the given quote. -/
def literalUnit (quote unit : CodePoint) : Text :=
  if unit = .ofChar '\\' ∨ unit = quote then [.ofChar '\\', unit]
  else if unit = .ofChar '\t' then [.ofChar '\\', .ofChar 't']
  else if unit = .ofChar '\n' then [.ofChar '\\', .ofChar 'n']
  else if unit = .ofChar '\r' then [.ofChar '\\', .ofChar 'r']
  else if unit.isPrintable then [unit]
  else codeEscape unit

/-- The quote that a literal of the text stands in. -/
def literalQuote (text : Text) : CodePoint :=
  if text.contains (CodePoint.ofChar '\'') && !text.contains (CodePoint.ofChar '"') then
    .ofChar '"'
  else .ofChar '\''

/-- The text as a quoted literal. -/
def quoted (text : Text) : Text :=
  let quote := text.literalQuote
  quote :: text.flatMap (literalUnit quote) ++ [quote]

end Lexing.Text
