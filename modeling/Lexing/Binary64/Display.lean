/-
This file writes numbers of the 64-bit binary format. A number is shown by the fewest decimal digits
that are read back as it; of several such numerals by the one nearest to it, and of two equally near
ones by the even one. The numerals that are read back as a number are those between the points
halfway to its neighbours, and the points themselves if the last binary digit of the number is even.
-/
import Lexing.Binary64.Basic
import Lexing.CodePoint

namespace Lexing.Binary64

/-! ### Numerals -/

/-- The place of the units. Decimal places are counted from one that is farther behind the point
than any digit of a shortest numeral. -/
def unitPlace : Nat := 400

/-- Digits that end at a decimal place. -/
structure Numeral where
  digits : Nat
  place : Nat

/-- A count of steps on the scale on which the places are powers of ten. -/
def scaled (steps : Nat) : Nat := steps * Nat.pow 10 unitPlace

/-- What a digit at a decimal place counts for on that scale. -/
def worth (place : Nat) : Nat := Nat.pow 10 place * stepsPerUnit

/-- How far away the next number below lies: half as far as the next one above where the spacing
changes. -/
def spacingBelow (steps : Nat) : Nat := spacing (steps - 1)

/-- Whether a numeral is read back as the number with so many steps. -/
def readsBack (steps : Nat) (numeral : Numeral) : Bool :=
  let low := scaled (2 * steps - spacingBelow steps)
  let high := scaled (2 * steps + spacing steps)
  let doubled := 2 * numeral.digits * worth numeral.place
  if steps / spacing steps % 2 = 0 then low ≤ doubled && doubled ≤ high
  else low < doubled && doubled < high

/-- The two numerals that end at a decimal place and have the number between them, the nearer one
first. -/
def neighbours (steps place : Nat) : List Numeral :=
  let below := scaled steps / worth place
  if nearest (scaled steps) (worth place) = below then [⟨below, place⟩, ⟨below + 1, place⟩]
  else [⟨below + 1, place⟩, ⟨below, place⟩]

/-- The first numeral that is read back, at a place or one of so many places behind it. Without one
it is the nearest numeral at the last of them. -/
def numeralFrom (steps place : Nat) : Nat → Numeral
  | 0 => ⟨nearest (scaled steps) (worth place), place⟩
  | further + 1 =>
    ((neighbours steps place).find? (readsBack steps)).getD (numeralFrom steps (place - 1) further)

/-- The shortest numeral of a count of steps above zero. The nearest numeral of seventeen digits is
always read back. -/
def shortest (steps : Nat) : Numeral :=
  numeralFrom steps ((Nat.toDigits 10 (scaled steps / stepsPerUnit)).length - 1) 16

/-! ### Layout -/

/-- A numeral without the zeros it ends with, and how many they were. -/
def trimZeros (numeral : List Char) : List Char × Nat :=
  let kept := (numeral.reverse.dropWhile (· == '0')).reverse
  (kept, numeral.length - kept.length)

/-- Digits of which so many stand before the point are written positionally, with at least one digit
on either side, unless the first one stands beyond the sixteenth place before the point or the
fourth behind it. Then one digit stands before the point and a power of ten, of two digits or more,
follows. -/
def layOut (numeral : List Char) (leading : Int) : List Char :=
  if leading ≤ -4 ∨ 16 < leading then
    let power := leading - 1
    let magnitude := Nat.toDigits 10 power.natAbs
    let magnitude := if magnitude.length < 2 then '0' :: magnitude else magnitude
    let fraction := if numeral.length ≤ 1 then [] else '.' :: numeral.drop 1
    numeral.take 1 ++ fraction ++ ['e', if power < 0 then '-' else '+'] ++ magnitude
  else if leading ≤ 0 then
    ['0', '.'] ++ List.replicate (-leading).toNat '0' ++ numeral
  else if numeral.length ≤ leading.toNat then
    numeral ++ List.replicate (leading.toNat - numeral.length) '0' ++ ['.', '0']
  else
    numeral.take leading.toNat ++ '.' :: numeral.drop leading.toNat

/-- How a finite number is shown, but for its sign. -/
def displaySteps (steps : Nat) : List Char :=
  if steps = 0 then ['0', '.', '0']
  else
    let found := shortest steps
    let trimmed := trimZeros (Nat.toDigits 10 found.digits)
    layOut trimmed.1 ((trimmed.1.length : Int) + trimmed.2 + found.place - unitPlace)

/-- How a number is shown. -/
def display : Binary64 → Text
  | finite negative steps =>
    Text.ofString (if negative then "-" else "") ++ (displaySteps steps).map CodePoint.ofChar
  | infinite negative => Text.ofString (if negative then "-inf" else "inf")
  | undefined => Text.ofString "nan"

end Lexing.Binary64
