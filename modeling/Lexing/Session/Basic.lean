/-
This file holds sessions: several cursors, the settings in force for new ones, the journal of
messages and the caller's state. A command acts on one of these. Settings in force are read only
when a cursor is made; a sub-view takes those of the cursor it is made from.
-/
import Lexing.Cursor.Operation

namespace Lexing

/-- Everything that the commands of a lexer's user act on. Cursors are numbered in the order of
their making. -/
structure Session (Caller : Type) where
  cursors : List Cursor
  /-- The settings that new cursors get. -/
  active : Settings
  journal : Journal
  caller : Caller

/-- One of the offsets that a cursor consists of. -/
inductive Offset where
  | position
  | start
  | lower
  | stop
  deriving DecidableEq

/-- The cursor with one offset put in place unchecked. -/
def Cursor.assign (cursor : Cursor) (offset : Offset) (value : Int) : Cursor :=
  match offset with
  | .position => { cursor with position := value }
  | .start => { cursor with start := value }
  | .lower => { cursor with lower := value }
  | .stop => { cursor with stop := value }

/-- What a matcher is, and what it says about some texts. Only exact matchers are shown. -/
structure Trial where
  kind : Text
  shown? : Option (Except Failure Text)
  byCode? : Option Bool
  answers : List (Except Failure Bool)

/-- Tries a matcher on texts. -/
def Matcher.trial {Caller : Type} (matcher : Matcher Caller) (texts : List Text)
    (caller : Caller) : Trial × Caller :=
  let asked := matcher.testAll texts caller
  let shown? := match matcher with
    | .exactCode _ | .exactChar _ _ => some matcher.shown
    | _ => none
  let byCode? := match matcher with
    | .predicate _ byCode => some byCode
    | _ => none
  (⟨matcher.kind, shown?, byCode?, asked.1⟩, asked.2)

/-- What a command answers. -/
inductive Reply where
  | answer (answer : Answer)
  /-- A cursor was made and got this number. -/
  | cursor (number : Nat)
  /-- A handler was attached and got this number. -/
  | handler (number : Nat)
  | settings (settings : Settings)
  | trial (trial : Trial)

/-- One command. -/
inductive Command (Caller : Type) where
  /-- Makes a cursor with the settings in force. -/
  | create (text : Text) (start lower : Int) (stop : Option Int)
  /-- Makes a cursor over another range of the text of an existing one. -/
  | limit (parent : Nat) (lower upper : Int)
  /-- Performs an operation on a cursor. -/
  | operate (number : Nat) (operation : Operation Caller)
  /-- Puts an offset of a cursor in place. -/
  | assign (number : Nat) (offset : Offset) (value : Int)
  /-- Puts settings in force. -/
  | configure (draft : Settings.Draft)
  /-- Puts the standard settings in force. -/
  | reset
  /-- Tells the settings in force. -/
  | active
  /-- Attaches a new handler. -/
  | attach
  | detach (handler : Nat)
  /-- Tells what a handler has written. -/
  | transcript (handler : Nat)
  /-- Asks something that concerns neither cursors nor settings in force nor handlers. -/
  | inquire (question : Caller → Except Failure Reply × Caller)

namespace Session

variable {Caller : Type}

/-- A session in which nothing has happened yet. -/
def fresh (caller : Caller) : Session Caller := ⟨[], .standard, .empty, caller⟩

/-- Adds a cursor. -/
def addCursor (session : Session Caller) (cursor : Cursor) (notices : List Notice) :
    Except Failure Reply × Session Caller :=
  (.ok (.cursor session.cursors.length),
    { session with
      cursors := session.cursors ++ [cursor]
      journal := session.journal.record notices })

/-- Carries out a command. -/
def perform (session : Session Caller) (command : Command Caller) :
    Except Failure Reply × Session Caller :=
  match command with
  | .create text start lower stop =>
    session.addCursor (.ofText text session.active start lower stop) []
  | .limit parent lower upper =>
    match session.cursors[parent]? with
    | none => (.error (.noSuchCursor parent), session)
    | some cursor =>
      session.addCursor (cursor.subView lower upper)
        [.subView lower upper cursor.text.length]
  | .operate number operation =>
    match session.cursors[number]? with
    | none => (.error (.noSuchCursor number), session)
    | some cursor =>
      let moved := cursor.perform operation session.caller
      (moved.1.result.map .answer,
        { session with
          cursors := session.cursors.set number moved.1.cursor
          journal := session.journal.record moved.1.notices
          caller := moved.2 })
  | .assign number offset value =>
    match session.cursors[number]? with
    | none => (.error (.noSuchCursor number), session)
    | some cursor =>
      (.ok (.answer .done),
        { session with cursors := session.cursors.set number (cursor.assign offset value) })
  | .configure draft =>
    match draft.settings with
    | .error cause => (.error cause, session)
    | .ok settings =>
      (.ok (.answer .done),
        { session with
          active := settings
          journal := session.journal.record [.configured settings] })
  | .reset => (.ok (.answer .done), { session with active := .standard })
  | .active => (.ok (.settings session.active), session)
  | .attach =>
    (.ok (.handler session.journal.handlers.length),
      { session with journal := session.journal.attach })
  | .detach handler =>
    (.ok (.answer .done), { session with journal := session.journal.detach handler })
  | .transcript handler =>
    match session.journal.transcript? handler with
    | none => (.error (.noSuchHandler handler), session)
    | some content => (.ok (.answer (.text content)), session)
  | .inquire question =>
    let answer := question session.caller
    (answer.1, { session with caller := answer.2 })

end Session

end Lexing
