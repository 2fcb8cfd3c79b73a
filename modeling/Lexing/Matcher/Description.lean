/-
This file says in words what a matcher accepts, for the message that a scan expected something else.
Exact characters are shown as literals, patterns by the text they were made from, and predicates by
their name, if it is a name that callers chose to make known.
-/
import Lexing.Matcher.Basic
import Lexing.Text.Trait

namespace Lexing

/-- Whether a function's name is worth showing: an identifier that does not begin with an
underscore. -/
def isPublicName (name : Text) : Bool :=
  Trait.isIdentifier name && name.head? != some (.ofChar '_')

/-- What a matcher accepts, in words. An exact code above the last code point has no character to
show, a pattern may fail at being shown, and a name that is no text cannot be asked whether it is an
identifier. -/
def Matcher.describe {Caller : Type} : Matcher Caller → Except Failure Text
  | exactChar first _ => .ok (Text.quoted [first])
  | exactCode code => (CodePoint.ofInt code.value).map fun unit => Text.quoted [unit]
  | pattern object =>
    (object.source?.getD object.shown).map (Text.ofString "character matching " ++ ·)
  | predicate function _ =>
    match function.name? with
    | some (.text name) =>
      .ok (if isPublicName name then Text.ofString "character matching " ++ name
        else Text.ofString "matching character")
    | some other => .error (.missingAttribute other.kind "isidentifier")
    | none => .ok (Text.ofString "matching character")

end Lexing
