/-
This file keeps the messages for those who watch a lexer at work. Few steps have anything to say:
making a sub-view, choosing settings, giving up on a quoted literal and refusing to leave a range. A
message reaches every handler attached at that moment, provided that messages are wanted at all.
Attaching a handler turns them on. Detaching one turns them off for all, until the next is attached.
-/
import Lexing.Settings

namespace Lexing

/-! ### Messages -/

/-- Something worth telling. -/
inductive Notice where
  /-- A sub-view was made, with the bounds that were asked for, of a text of some length. -/
  | subView (lower upper : Int) (length : Nat)
  /-- A quoted literal that began behind an offset has no end. -/
  | unterminated (quote : CodePoint) (start : Int)
  /-- Moving back was refused. -/
  | backUpRefused (count position : Int)
  /-- Setting the mark was refused. -/
  | saveRefused (offset lower stop : Int)
  /-- Settings were chosen. -/
  | configured (settings : Settings)

namespace Notice

/-- The name that all channels are found under. -/
def rootChannel : Text := "textcursor"

/-- The full name of the channel that a name stands for. A name that is a full one already stays. -/
def channelNamed (name : Text) : Text :=
  let beginning := rootChannel ++ Text.ofString "."
  if name = rootChannel ∨ beginning.isPrefixOf name then name else beginning ++ name

/-- The channel that a message is sent on. -/
def channel : Notice → Text
  | configured _ => channelNamed "config"
  | _ => channelNamed "cursor"

/-- The wording of a message. -/
def message : Notice → Text
  | subView lower upper length =>
    Text.ofString "Sub-view [" ++ Text.ofInt lower ++ Text.ofString ", " ++ Text.ofInt upper ++
      Text.ofString ") over " ++ Text.ofInt length ++ Text.ofString " characters"
  | unterminated quote start =>
    Text.ofString "Unterminated " ++ [quote] ++ Text.ofString "-quoted literal at " ++
      Text.ofInt start
  | backUpRefused count position =>
    Text.ofString "back_up(" ++ Text.ofInt count ++ Text.ofString ") from " ++
      Text.ofInt position ++ Text.ofString " leaves range"
  | saveRefused offset lower stop =>
    Text.ofString "save(" ++ Text.ofInt offset ++ Text.ofString ") outside [" ++
      Text.ofInt lower ++ Text.ofString ", " ++ Text.ofInt stop ++ Text.ofString "]"
  | configured settings => Text.ofString "Reader config set: " ++ settings.display

/-- The line that a handler writes for a message. -/
def line (notice : Notice) : Text :=
  notice.channel ++ Text.ofString ": " ++ notice.message ++ [.ofChar '\n']

end Notice

/-! ### Handlers -/

/-- A reader of messages, with all that have reached it, the oldest first. -/
structure Handler where
  attached : Bool
  received : List Notice

/-- Adds messages to those that have reached a handler, if it is attached. -/
def Handler.receive (notices : List Notice) (handler : Handler) : Handler :=
  if handler.attached then { handler with received := handler.received ++ notices } else handler

/-- All handlers, in the order of their making, and whether messages are wanted. -/
structure Journal where
  handlers : List Handler
  wanted : Bool

namespace Journal

/-- No handlers, and no messages wanted. -/
def empty : Journal := ⟨[], false⟩

/-- Attaches a new handler and turns messages on. -/
def attach (journal : Journal) : Journal :=
  ⟨journal.handlers ++ [⟨true, []⟩], true⟩

/-- Detaches a handler and turns messages off. -/
def detach (journal : Journal) (number : Nat) : Journal :=
  ⟨journal.handlers.modify number fun handler => { handler with attached := false }, false⟩

/-- Sends messages to the handlers. -/
def record (journal : Journal) (notices : List Notice) : Journal :=
  if journal.wanted then
    { journal with handlers := journal.handlers.map (Handler.receive notices) }
  else journal

/-- All that a handler has written. -/
def transcript? (journal : Journal) (number : Nat) : Option Text :=
  journal.handlers[number]?.map fun handler => handler.received.flatMap Notice.line

end Journal

end Lexing
