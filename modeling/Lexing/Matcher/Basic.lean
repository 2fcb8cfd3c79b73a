/-
This file holds matchers, which decide whether a single character is accepted, and the
caller-supplied objects that some of them ask. A caller's function may remember things and may fail,
so asking a matcher takes the caller's state and gives it back, whether there is an answer or not. A
function that only looks at its argument is one that leaves the state alone.
-/
import Lexing.Text.Offset
import Lexing.Value

namespace Lexing

/-! ### Caller-supplied objects -/

/-- What a predicate is asked about: a text, or the code of a character. -/
inductive Argument where
  | text (content : Text)
  | code (number : Nat)
  deriving DecidableEq

/-- A function that the caller supplies. -/
abbrev Routine (Input Caller : Type) := Input → Caller → Except Failure Value × Caller

/-- What an object has under a name that it may be asked about a text by. -/
inductive Attribute (Caller : Type) where
  | missing
  | plain (value : Value)
  | routine (run : Routine Text Caller)

/-- Whether the attribute can be called. -/
def Attribute.isRoutine {Caller : Type} : Attribute Caller → Bool
  | routine _ => true
  | _ => false

/-- What makes two objects the same. Data are compared by value, collections by their members,
functions and expressions that have a name of their own by that name, and all else by the number
given to it where it was made. -/
inductive Identity where
  | value (content : Value)
  /-- The members of a collection, no two of them equal. -/
  | members (content : List Value)
  | named (kind name : Text)
  | unique (number : Nat)
  | built (kind : Text) (inner : Identity)

/-- Whether two identities are the same. -/
def Identity.same : Identity → Identity → Bool
  | value first, value second => first.same second
  | members first, members second =>
    first.length == second.length && first.all fun member => second.any member.same
  | named firstKind firstName, named secondKind secondName =>
    firstKind == secondKind && firstName == secondName
  | unique first, unique second => first == second
  | built firstKind firstInner, built secondKind secondInner =>
    firstKind == secondKind && firstInner.same secondInner
  | _, _ => false

/-- A value that a caller offers, described by what can be done with it. -/
structure Object (Caller : Type) where
  /-- The name of the kind that the object is of. -/
  kind : Text
  /-- How the object is shown in messages. It may fail at that. -/
  shown : Except Failure Text
  identity : Identity
  /-- The name it goes by, if it has one. Callers may give it a name that is no text. -/
  name? : Option Value := none
  /-- How the pattern that it was made from is shown, if it tells. -/
  source? : Option (Except Failure Text) := none
  /-- What calling the object does. -/
  call? : Option (Routine Argument Caller) := none
  /-- Asked directly, it answers by a truth value. -/
  test : Attribute Caller := .missing
  /-- Asked for a match, it answers by a match or by nothing. -/
  matching : Attribute Caller := .missing

namespace Object

variable {Caller : Type}

/-- A value that can only be shown and compared. It is shown where some calls may still be nested. -/
def ofValue (room : Nat) (value : Value) : Object Caller where
  kind := value.kind
  shown := value.shown room
  identity := .value value

/-- Calls the object. -/
def invoke (object : Object Caller) (argument : Argument) (caller : Caller) :
    Except Failure Value × Caller :=
  match object.call? with
  | some run => run argument caller
  | none => (.error (.notCallable object.kind), caller)

/-- Asks the object about a text: directly if it can be, for a match otherwise. -/
def accepts (object : Object Caller) (text : Text) (caller : Caller) :
    Except Failure Bool × Caller :=
  match object.test with
  | .routine run =>
    let answer := run text caller
    (answer.1.map Value.truth, answer.2)
  | _ =>
    match object.matching with
    | .routine run =>
      let answer := run text caller
      (answer.1.map fun value => !value.isNull, answer.2)
    | .plain value => (.error (.notCallable value.kind), caller)
    | .missing => (.error (.missingAttribute object.kind "match"), caller)

end Object

/-! ### Matchers -/

/-- A character code as the caller wrote it: a number, or a flag that counts as one. -/
inductive Code where
  | number (value : Nat)
  | flag (holds : Bool)
  deriving DecidableEq

/-- The number that a code is. -/
def Code.value : Code → Nat
  | number value => value
  | flag holds => if holds then 1 else 0

/-- How a code is shown. -/
def Code.shown : Code → Except Failure Text
  | number value => (Value.int value).shown 1
  | flag holds => (Value.flag holds).shown 1

/-- What decides whether a character is accepted. An exact character is written as a text that is
not empty, of which the first character alone counts. -/
inductive Matcher (Caller : Type) where
  | exactCode (code : Code)
  | exactChar (first : CodePoint) (rest : Text)
  | predicate (function : Object Caller) (byCode : Bool)
  | pattern (object : Object Caller)

namespace Matcher

variable {Caller : Type}

/-- The matcher for one code. No character has a negative code, and a refusal shows the code. -/
def ofCode (code : Int) : Except Failure (Matcher Caller) :=
  if code < 0 then .error (if Text.isOverlong code then .numeralTooLong else .negativeCode code)
  else .ok (exactCode (.number code.toNat))

/-- The matcher for the first character of a text. -/
def ofText : Text → Except Failure (Matcher Caller)
  | [] => .error .emptyExactCharacter
  | first :: rest => .ok (exactChar first rest)

/-- Asks a matcher about a text. Cursors ask about texts of one character only. -/
def test (matcher : Matcher Caller) (text : Text) (caller : Caller) :
    Except Failure Bool × Caller :=
  match matcher with
  | exactCode code => (text.soleCode.map fun number => number == code.value, caller)
  | exactChar first _ => (.ok (text == [first]), caller)
  | predicate function false =>
    let answer := function.invoke (.text text) caller
    (answer.1.map Value.truth, answer.2)
  | predicate function true =>
    match text.soleCode with
    | .error cause => (.error cause, caller)
    | .ok number =>
      let answer := function.invoke (.code number) caller
      (answer.1.map Value.truth, answer.2)
  | pattern object => object.accepts text caller

/-- Asks a matcher about one text after the other. -/
def testAll (matcher : Matcher Caller) :
    List Text → Caller → List (Except Failure Bool) × Caller
  | [], caller => ([], caller)
  | text :: rest, caller =>
    let answer := matcher.test text caller
    let others := matcher.testAll rest answer.2
    (answer.1 :: others.1, others.2)

/-- The name of the form that a matcher has. -/
def kind : Matcher Caller → Text
  | exactCode _ => "ExactCode"
  | exactChar _ _ => "ExactChar"
  | predicate _ _ => "Predicate"
  | pattern _ => "Pattern"

/-- How a matcher is shown. -/
def shown : Matcher Caller → Except Failure Text
  | exactCode code =>
    code.shown.map fun number => Text.ofString "ExactCode(code=" ++ number ++ Text.ofString ")"
  | exactChar first rest =>
    .ok (Text.ofString "ExactChar(char=" ++ Text.quoted (first :: rest) ++ Text.ofString ")")
  | predicate function byCode =>
    function.shown.map fun name =>
      Text.ofString "Predicate(func=" ++ name ++ Text.ofString ", by_code=" ++
        (Value.flag byCode).display ++ Text.ofString ")"
  | pattern object =>
    object.shown.map fun inner => Text.ofString "Pattern(pattern=" ++ inner ++ Text.ofString ")"

/-- What makes two matchers the same: their form and what they were made from. -/
def identity : Matcher Caller → Identity
  | exactCode code => .built "ExactCode" (.value (.int code.value))
  | exactChar first rest => .built "ExactChar" (.value (.text (first :: rest)))
  | predicate function false => .built "Predicate" function.identity
  | predicate function true => .built "Predicate by code" function.identity
  | pattern object => .built "Pattern" object.identity

/-- Whether two matchers are the same. -/
def same (left right : Matcher Caller) : Bool := left.identity.same right.identity

/-- A matcher is itself an object that can be asked directly. -/
def asObject (matcher : Matcher Caller) : Object Caller where
  kind := matcher.kind
  shown := matcher.shown
  identity := matcher.identity
  source? := match matcher with
    | pattern object => some object.shown
    | _ => none
  test := .routine fun text caller =>
    let answer := matcher.test text caller
    (answer.1.map Value.flag, answer.2)

end Matcher

end Lexing
