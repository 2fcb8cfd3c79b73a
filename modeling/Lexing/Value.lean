/-
This file holds the data that callers hand over without a promise about its kind: settings that are
only asked for their truth, answers of caller-supplied functions, attributes of pattern objects. A
value can be asked whether it is true, how long it is, what kind it is of and how it is shown, and
two values can be compared. Numbers are compared by amount, so that a flag equals the number it
counts as.

Not every value can be shown: its numbers may be too long to be written out, and its parts may be
nested too deep. This is looked at where something that callers hand over as a matcher is shown. The
offsets, counts and settings that reports and messages are worded with are taken to stay within both
limits.
-/
import Lexing.Binary64.Display
import Lexing.Failure
import Lexing.Text.Quoted

namespace Lexing

/-! ### Values -/

/-- A value of any kind. -/
inductive Value where
  | null
  | flag (holds : Bool)
  | int (number : Int)
  | real (number : Binary64)
  | text (content : Text)
  | list (items : List Value)
  | record (fields : List (Text × Value))

namespace Value

/-- What a value counts as where a truth value is needed: everything does as true but nothing, zero
and the empty. -/
def truth : Value → Bool
  | null => false
  | flag holds => holds
  | int number => number != 0
  | real number => !number.isZero
  | text content => !content.isEmpty
  | list items => !items.isEmpty
  | record fields => !fields.isEmpty

/-- Whether a value is the absent one. -/
def isNull : Value → Bool
  | null => true
  | _ => false

/-- The number that a value is, if it is an integer and not a flag. -/
def int? : Value → Option Int
  | int number => some number
  | _ => none

/-- Whether a value can never change. Only lists and records can. -/
def isFixed : Value → Bool
  | list _ => false
  | record _ => false
  | _ => true

/-- How many parts a value has, if it is of a kind that has parts. -/
def length? : Value → Option Nat
  | text content => some content.length
  | list items => some items.length
  | record fields => some fields.length
  | _ => none

/-- The name of the kind that a value is of. -/
def kind : Value → Text
  | null => "NoneType"
  | flag _ => "bool"
  | int _ => "int"
  | real _ => "float"
  | text _ => "str"
  | list _ => "list"
  | record _ => "dict"

/-! ### Display -/

mutual

/-- How a value is written, whatever its size. -/
def display : Value → Text
  | null => "None"
  | flag true => "True"
  | flag false => "False"
  | int number => Text.ofInt number
  | real number => number.display
  | text content => content.quoted
  | list items => Text.ofString "[" ++ displayItems items ++ Text.ofString "]"
  | record fields => Text.ofString "\x7b" ++ displayFields fields ++ Text.ofString "\x7d"

/-- Values one after the other. -/
def displayItems : List Value → Text
  | [] => []
  | [item] => item.display
  | item :: rest => item.display ++ Text.ofString ", " ++ displayItems rest

/-- Named values one after the other. -/
def displayFields : List (Text × Value) → Text
  | [] => []
  | [(name, value)] => name.quoted ++ Text.ofString ": " ++ value.display
  | (name, value) :: rest =>
    name.quoted ++ Text.ofString ": " ++ value.display ++ Text.ofString ", " ++ displayFields rest

end

mutual

/-- What keeps a value from being shown, if anything does, where some calls may still be nested: each
part takes one inside that of the whole. Parts are shown in order, so what is met first counts. -/
def obstacle? : Value → Nat → Option Failure
  | _, 0 => some .nestedTooDeep
  | int number, _ + 1 => if Text.isOverlong number then some .numeralTooLong else none
  | list items, room + 1 => obstacleAmong? items room
  | record fields, room + 1 => obstacleInside? fields room
  | _, _ + 1 => none

/-- What keeps values from being shown one after the other. -/
def obstacleAmong? : List Value → Nat → Option Failure
  | [], _ => none
  | item :: rest, room => (item.obstacle? room).or (obstacleAmong? rest room)

/-- What keeps named values from being shown one after the other. -/
def obstacleInside? : List (Text × Value) → Nat → Option Failure
  | [], _ => none
  | (_, value) :: rest, room => (value.obstacle? room).or (obstacleInside? rest room)

end

/-- How a value is shown in messages, if it can be where some calls may still be nested. -/
def shown (value : Value) (room : Nat) : Except Failure Text :=
  match value.obstacle? room with
  | some cause => .error cause
  | none => .ok value.display

/-! ### Comparison -/

/-- The amount of a value that counts as a number. -/
def amount? : Value → Option Amount
  | flag holds => some (.ofInt (if holds then 1 else 0))
  | int number => some (.ofInt number)
  | real number => some number.amount
  | _ => none

/-- Whether two values are numbers of the same amount. -/
def sameAmount (left right : Value) : Bool :=
  match left.amount?, right.amount? with
  | some first, some second => first == second
  | _, _ => false

mutual

/-- Whether two values are equal: numbers by amount, texts and lists part by part, records by what
each name stands for. -/
def same : Value → Value → Bool
  | null, null => true
  | text first, text second => first == second
  | list first, list second => sameItems first second
  | record first, record second => first.length == second.length && sameFields first second
  | left, right => left.sameAmount right

/-- Whether two lists hold equal values in the same order. -/
def sameItems : List Value → List Value → Bool
  | [], [] => true
  | first :: restFirst, second :: restSecond => first.same second && sameItems restFirst restSecond
  | _, _ => false

/-- Whether every name of the first record stands for an equal value in the second. -/
def sameFields : List (Text × Value) → List (Text × Value) → Bool
  | [], _ => true
  | (name, value) :: rest, others =>
    (match others.lookup name with
      | some other => value.same other
      | none => false) && sameFields rest others

end

end Value

end Lexing
