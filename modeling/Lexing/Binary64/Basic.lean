/-
This file holds the numbers with a fractional part that callers hand over, those of the 64-bit
binary format. Every finite one is a whole number of smallest steps, `2 ^ 1074` of which make one,
so it is held as its count of steps. Reading a decimal numeral rounds it once, to the nearest number
of the format; comparing never rounds, so that an integer with more digits than the format keeps
equals no number of the format but its own.
-/

namespace Lexing

/-- A number of the 64-bit binary format. Zero has a sign too. -/
inductive Binary64 where
  | finite (negative : Bool) (steps : Nat)
  | infinite (negative : Bool)
  /-- A number without an amount. -/
  | undefined
  deriving DecidableEq

/-- How much a number comes to. Integers of any size have an amount, and both zeros have the same
one. -/
inductive Amount where
  | finite (steps : Int)
  | infinite (negative : Bool)
  | undefined
  deriving DecidableEq

namespace Binary64

/-! ### Amounts -/

/-- How many smallest steps make one. -/
def stepsPerUnit : Nat := Nat.pow 2 1074

/-- The amount of a number. -/
def amount : Binary64 → Amount
  | finite true steps => .finite (-(steps : Int))
  | finite false steps => .finite steps
  | infinite negative => .infinite negative
  | undefined => .undefined

/-- Whether the number is zero, of either sign. -/
def isZero : Binary64 → Bool
  | finite _ steps => steps == 0
  | _ => false

/-! ### Rounding -/

/-- A quotient rounded to the nearest whole number, a half to the even one. -/
def nearest (numerator denominator : Nat) : Nat :=
  let quotient := numerator / denominator
  let doubled := 2 * (numerator % denominator)
  if denominator < doubled ∨ doubled = denominator ∧ quotient % 2 = 1 then quotient + 1
  else quotient

/-- How far the numbers of the format lie apart at a given count of steps. Of its binary digits 53
are kept. -/
def spacing (steps : Nat) : Nat := Nat.pow 2 (Nat.log2 steps - 52)

/-- The first count of steps that is too large for the format. -/
def limit : Nat := Nat.pow 2 1024 * stepsPerUnit

/-- The number nearest to a quotient, of two equally near ones the one whose last digit is even. -/
def ofQuotient (negative : Bool) (numerator denominator : Nat) : Binary64 :=
  let scaled := numerator * stepsPerUnit
  let gap := spacing (scaled / denominator)
  let steps := nearest scaled (denominator * gap) * gap
  if steps < limit then finite negative steps else infinite negative

/-- The number nearest to `digits * 10 ^ power`. An amount that has its first digit 400 or more
places away from the point is beyond the range of the format without looking closer. -/
def ofDecimal (negative : Bool) (digits : Nat) (power : Int) : Binary64 :=
  let leading : Int := (Nat.toDigits 10 digits).length + power
  if digits = 0 ∨ leading ≤ -400 then finite negative 0
  else if 400 ≤ leading then infinite negative
  else if 0 ≤ power then ofQuotient negative (digits * Nat.pow 10 power.toNat) 1
  else ofQuotient negative digits (Nat.pow 10 (-power).toNat)

end Binary64

/-- The amount of an integer. -/
def Amount.ofInt (number : Int) : Amount := .finite (number * Binary64.stepsPerUnit)

end Lexing
