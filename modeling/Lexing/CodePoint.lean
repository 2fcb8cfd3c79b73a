/-
This file holds the characters a text is made of. A text is a list of code points. Every number
below `0x110000` is the code of one, the surrogates included, so that giving a character and giving
its code say the same thing.
-/

namespace Lexing

/-- One Unicode code point. Surrogates are code points as well. -/
structure CodePoint where
  /-- The code of the character. -/
  code : Nat
  /-- Codes end at `0x10FFFF`. -/
  code_lt : code < 0x110000
  deriving DecidableEq

/-- A sequence of code points. All offsets into a text count code points. -/
abbrev Text := List CodePoint

namespace CodePoint

/-- The code point with the given code, if there is one. -/
def ofNat? (code : Nat) : Option CodePoint :=
  if bound : code < 0x110000 then some ⟨code, bound⟩ else none

/-- Every `Char` is a code point. -/
def ofChar (char : Char) : CodePoint :=
  ⟨char.toNat, by
    have valid := char.valid
    simp only [UInt32.isValidChar, Nat.isValidChar] at valid
    show char.val.toNat < 0x110000
    omega⟩

instance : Coe Char CodePoint := ⟨ofChar⟩

/-- The first 128 code points. -/
def isAscii (unit : CodePoint) : Bool := unit.code < 128

theorem ofNat?_code (unit : CodePoint) : ofNat? unit.code = some unit := by
  simp [ofNat?, unit.code_lt]

theorem code_injective {left right : CodePoint} (same : left.code = right.code) :
    left = right := by
  cases left; cases right; simp_all

@[simp] theorem code_ofChar (char : Char) : (ofChar char).code = char.toNat := rfl

end CodePoint

namespace Text

/-- The code points of a string, in order. -/
def ofString (string : String) : Text := string.toList.map CodePoint.ofChar

instance : Coe String Text := ⟨ofString⟩

/-- The decimal text of an integer, a minus sign first if it is negative. Every integer has one, but
not every one is written out: see `isOverlong`. -/
def ofInt (value : Int) : Text := ofString (toString value)

/-- The number of digits that the text of an integer may have where one is asked for. -/
@[irreducible]
def maxDigits : Nat := 4300

/-- Whether the decimal text of an integer is longer than what is written out. -/
@[irreducible]
def isOverlong (value : Int) : Bool := Nat.pow 10 maxDigits ≤ value.natAbs

theorem isOverlong_iff (value : Int) :
    isOverlong value = true ↔ Nat.pow 10 maxDigits ≤ value.natAbs := by
  unfold isOverlong
  exact decide_eq_true_iff

end Text

end Lexing
