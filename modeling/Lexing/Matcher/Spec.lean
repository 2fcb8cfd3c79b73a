/-
This file reads what callers hand over as a matcher. A code or a text stands for an exact character,
a collection for its members, an expression for what it matches. Any other object is judged by what
can be done with it: one that can be called is a predicate, whatever else it offers; one that can be
asked directly or for a match is a pattern; and the rest stand for nothing, as flags do.
-/
import Lexing.CharSet
import Lexing.Matcher.Basic
import Lexing.Regex.Basic
import Lexing.Text.Trait

namespace Lexing

variable {Caller : Type}

/-! ### Functions with a name of their own -/

/-- The predicate of a named character set. -/
def CharSet.function (set : CharSet) : Object Caller where
  kind := "function"
  shown := .ok (Text.ofString "<function " ++ set.predicateName ++ Text.ofString ">")
  identity := .named "function" set.predicateName
  name? := some (.text set.predicateName)
  call? := some fun argument caller =>
    let glyph := match argument with
      | .text text => Glyph.text text
      | .code number => Glyph.code number
    ((set.holdsOf (some glyph)).map Value.flag, caller)

/-- A trait of texts as a function. It takes no codes. -/
def Trait.function (trait : Trait) : Object Caller where
  kind := "method_descriptor"
  shown := .ok (Text.ofString "<method '" ++ trait.name ++ Text.ofString "' of 'str' objects>")
  identity := .named "method" trait.name
  name? := some (.text trait.name)
  call? := some fun argument caller =>
    match argument with
    | .text text => (.ok (.flag (trait.holds text)), caller)
    | .code _ => (.error (.codeForTextMethod trait.name), caller)

/-! ### Collections and expressions -/

/-- A collection of values without order. Values that are not texts may be members but equal no
character. -/
structure Collection where
  kind : Text
  /-- What makes two collections one and the same, and not only equal. -/
  identity : Identity
  /-- The members, no two of them equal. -/
  members : List Value

namespace Collection

/-- A new collection of the given values. Of equal ones the first is kept. A list or a record cannot
be a member. -/
def ofValues (kind : Text) (number : Nat) (values : List Value) : Except Failure Collection :=
  match values.find? fun value => !value.isFixed with
  | some value => .error (.unfitMember value.kind)
  | none => .ok ⟨kind, .unique number, values.eraseDupsBy Value.same⟩

/-- The members of a named character set as a collection. -/
def ofCharSet (set : CharSet) : Collection where
  kind := "frozenset"
  identity := .named "frozenset" set.name
  members := set.members.map fun unit => .text [unit]

/-- Whether a value equals a member. -/
def contains (collection : Collection) (value : Value) : Bool :=
  collection.members.any value.same

/-- The question whether something is a member, as a function. -/
def membership (collection : Collection) : Object Caller where
  kind := "builtin_function_or_method"
  shown := .ok (Text.ofString "<built-in method __contains__ of " ++ collection.kind ++
    Text.ofString " object>")
  identity := .built "membership" collection.identity
  name? := some (.text "__contains__")
  call? := some fun argument caller =>
    let value := match argument with
      | .text text => Value.text text
      | .code number => Value.int number
    (.ok (.flag (collection.contains value)), caller)

/-- The members in the order in which they are shown. Integers stand in ascending order. -/
def ordered (collection : Collection) : List Value :=
  match collection.members.mapM Value.int? with
  | some numbers => (numbers.mergeSort (· ≤ ·)).map .int
  | none => collection.members

/-- How a collection is written, whatever the size of its members. -/
def display (collection : Collection) : Text :=
  let items := Text.ofString "\x7b" ++ Value.displayItems collection.ordered ++
    Text.ofString "\x7d"
  if collection.members.isEmpty then collection.kind ++ Text.ofString "()"
  else if collection.kind = "set" then items
  else collection.kind ++ Text.ofString "(" ++ items ++ Text.ofString ")"

/-- How a collection is shown. Its members are nested no further. -/
def shown (collection : Collection) : Except Failure Text :=
  match Value.obstacleAmong? collection.ordered 1 with
  | some cause => .error cause
  | none => .ok collection.display

/-- A collection cannot be called or asked by itself. As an object it equals any collection with the
same members. -/
def asObject (collection : Collection) : Object Caller where
  kind := collection.kind
  shown := collection.shown
  identity := .members collection.members

end Collection

/-- An expression answers when it is asked for a match, and tells the text that it was made from. -/
def Regex.asObject (regex : Regex) : Object Caller where
  kind := "re.Pattern"
  shown := .ok regex.display
  identity := .named "expression" regex.source
  source? := some (.ok regex.source.quoted)
  matching := .routine fun text caller =>
    (.ok (if regex.matchesBeginning text then .flag true else .null), caller)

/-! ### Specs -/

/-- What a caller hands over as a matcher. -/
inductive Spec (Caller : Type) where
  | flag (holds : Bool)
  | code (number : Int)
  | text (content : Text)
  | regex (regex : Regex)
  | collection (collection : Collection)
  | object (object : Object Caller)
  | matcher (matcher : Matcher Caller)

namespace Spec

/-- A value as a spec, to be shown where some calls may still be nested. -/
def ofValue (room : Nat) : Value → Spec Caller
  | .flag holds => flag holds
  | .int number => code number
  | .text content => text content
  | other => object (.ofValue room other)

/-- Why an object that stands for no matcher is refused. The refusal shows it, and where that fails,
fails in the same way. -/
def refusal (shown : Except Failure Text) : Failure :=
  match shown with
  | .ok found => .unsupportedSpec found
  | .error cause => cause

/-- The matcher that a spec stands for. -/
def toMatcher : Spec Caller → Except Failure (Matcher Caller)
  | matcher given => .ok given
  | code number => Matcher.ofCode number
  | text content => Matcher.ofText content
  | regex given => .ok (.pattern given.asObject)
  | collection given => .ok (.predicate given.membership false)
  | object given =>
    if given.call?.isSome then .ok (.predicate given false)
    else if given.test.isRoutine || given.matching.isRoutine then .ok (.pattern given)
    else .error (refusal given.shown)
  | flag holds => .error (refusal ((Value.flag holds).shown 1))

/-- What can be done with a spec, whatever it stands for. -/
def asObject : Spec Caller → Object Caller
  | flag holds => .ofValue 1 (.flag holds)
  | code number => .ofValue 1 (.int number)
  | text content => .ofValue 1 (.text content)
  | regex given => given.asObject
  | collection given => given.asObject
  | object given => given
  | matcher given => given.asObject

end Spec

end Lexing
