/-
This file reads, cuts and searches a text at signed offsets. An offset at or above zero counts from
the beginning, a negative one from the end of the whole text. Reading is strict: it refuses an
offset that names no character. Cutting and searching are lenient: they move each bound to the
nearest offset of the text, so any pair of integers denotes a window, possibly an empty one.
-/
import Lexing.Failure

namespace Lexing

/-! ### Characters by code -/

/-- The character with a given code. Codes that need more than 32 bits are refused before the
range of code points is looked at. -/
def CodePoint.ofInt (code : Int) : Except Failure CodePoint :=
  if code < -0x80000000 ∨ 0x80000000 ≤ code then .error .codeTooWide
  else if code < 0 then .error .codeOutsideUnicode
  else match CodePoint.ofNat? code.toNat with
    | some unit => .ok unit
    | none => .error .codeOutsideUnicode

theorem CodePoint.ofInt_code (unit : CodePoint) : CodePoint.ofInt unit.code = .ok unit := by
  have bound := unit.code_lt
  rw [CodePoint.ofInt, if_neg (by omega), if_neg (by omega), Int.toNat_natCast,
    CodePoint.ofNat?_code]

namespace Text

/-- The code of a text that is one character long. -/
def soleCode : Text → Except Failure Nat
  | [unit] => .ok unit.code
  | text => .error (.notOneCharacter text.length)

/-! ### Reading -/

/-- The character at a signed offset, if the offset names one. -/
def at? (text : Text) (offset : Int) : Option CodePoint :=
  let index := if offset < 0 then offset + text.length else offset
  if index < 0 then none else text[index.toNat]?

/-- The character at a signed offset. Among the offsets that name none, those that need more than 64
bits are refused in a way of their own: no text is long enough for them. -/
def read (text : Text) (offset : Int) : Except Failure CodePoint :=
  match text.at? offset with
  | some unit => .ok unit
  | none =>
    if offset < -0x8000000000000000 ∨ 0x8000000000000000 ≤ offset then .error .offsetTooWide
    else .error .outsideText

/-! ### Cutting -/

/-- The offset of the text nearest to a signed bound. -/
def bound (text : Text) (offset : Int) : Nat :=
  if offset < 0 then (offset + text.length).toNat else min offset.toNat text.length

/-- The characters from the first bound up to the second. A missing bound leaves its side open. -/
def slice (text : Text) (first last : Option Int) : Text :=
  let upper := match last with
    | some offset => text.bound offset
    | none => text.length
  let lower := match first with
    | some offset => text.bound offset
    | none => 0
  (text.take upper).drop lower

/-! ### Searching -/

/-- How many characters stand before the first occurrence of a text in another. -/
def occurrence? (needle : Text) : Text → Option Nat
  | [] => if needle.isEmpty then some 0 else none
  | unit :: rest =>
    if needle.isPrefixOf (unit :: rest) then some 0
    else (occurrence? needle rest).map (· + 1)

/-- The offset of the first occurrence of a text that lies wholly between two bounds. -/
def find? (text needle : Text) (first last : Int) : Option Nat :=
  let lower := text.bound first
  (occurrence? needle ((text.take (text.bound last)).drop lower)).map (lower + ·)

end Text

end Lexing
