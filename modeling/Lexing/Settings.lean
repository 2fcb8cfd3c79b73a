/-
This file holds the settings that a cursor is governed by: its escape, whether its bounds are
checked and whether diagnostics quote the source. Only the length of the escape is checked when
settings are made. An escape of length 1 that is no text equals no character, so it never takes
effect. The two switches keep whatever value they were given and are asked for its truth.
-/
import Lexing.Failure
import Lexing.Value

namespace Lexing

/-- The settings of a cursor. -/
structure Settings where
  escape : Value := .text [.ofChar '\\']
  checkBounds : Value := .flag false
  quoteSource : Value := .flag true
  /-- The escape is one character, or at least a value of that length. -/
  escape_length : escape.length? = some 1 := by rfl

namespace Settings

/-- The settings in force where none have been chosen. -/
def standard : Settings := {}

/-- The character that escapes another inside a quoted literal. -/
def escapeUnit? (settings : Settings) : Option CodePoint :=
  match settings.escape with
  | .text [unit] => some unit
  | _ => none

/-- Whether moves that leave the range are refused. -/
def checksBounds (settings : Settings) : Bool := settings.checkBounds.truth

/-- Whether diagnostics quote the source. -/
def quotesSource (settings : Settings) : Bool := settings.quoteSource.truth

/-- How settings are shown in messages. -/
def display (settings : Settings) : Text :=
  Text.ofString "ReaderConfig(escape=" ++ settings.escape.display ++
    Text.ofString ", check_bounds=" ++ settings.checkBounds.display ++
    Text.ofString ", include_source_in_errors=" ++ settings.quoteSource.display ++
    Text.ofString ")"

/-- Whether two settings are equal value by value. -/
def same (left right : Settings) : Bool :=
  left.escape.same right.escape && left.checkBounds.same right.checkBounds &&
    left.quoteSource.same right.quoteSource

/-! ### Drafts -/

/-- Named values from which settings are to be made. A strict draft may name nothing but settings; a
lenient one is read for the settings it names. -/
structure Draft where
  fields : List (Text × Value)
  lenient : Bool

namespace Draft

/-- The names of the settings. -/
def names : List Text := ["escape", "check_bounds", "include_source_in_errors"]

/-- The name that the settings themselves are passed by while they are made. -/
def reservedName : Text := "self"

/-- What is wrong with a name that is not the name of a setting. -/
def refusal (name : Text) : Failure :=
  if name = reservedName then .reservedSetting name else .unknownSetting name

/-- The first name in the draft that is not the name of a setting. -/
def unknown? (draft : Draft) : Option Text :=
  (draft.fields.find? fun field => !names.contains field.1).map Prod.fst

/-- The value given for a name, if any. -/
def valueOr (draft : Draft) (name : Text) (standard : Value) : Value :=
  (draft.fields.lookup name).getD standard

/-- The settings that a draft describes. A setting without a value keeps its standard one. -/
def settings (draft : Draft) : Except Failure Settings :=
  match if draft.lenient then none else draft.unknown? with
  | some name => .error (refusal name)
  | none =>
    let escape := draft.valueOr "escape" Settings.standard.escape
    match fits : escape.length? with
    | none => .error (.unsized escape.kind)
    | some 1 => .ok {
        escape
        checkBounds := draft.valueOr "check_bounds" Settings.standard.checkBounds
        quoteSource := draft.valueOr "include_source_in_errors" Settings.standard.quoteSource
        escape_length := fits }
    | some _ => .error (.escapeLength escape.display)

end Draft

end Settings

end Lexing
