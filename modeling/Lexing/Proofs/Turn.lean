/-
This file takes a run of commands apart into its turns, as a run of operations is taken apart into
its stages. A turn is one command with what it answered, the session that it was carried out in and
the session that it left.
-/

import Lexing.Session.Basic

namespace Lexing

variable {Caller : Type}

/-- One command of a run. -/
structure Turn (Caller : Type) where
  /-- The session that the command was carried out in. -/
  before : Session Caller
  command : Command Caller
  result : Except Failure Reply
  /-- The session that the command left. -/
  after : Session Caller

namespace Session

/-! ### Commands about a cursor -/

section Operate

variable {session : Session Caller} {number : Nat}

theorem perform_operate_of_some {cursor : Cursor} (found : session.cursors[number]? = some cursor)
    (operation : Operation Caller) :
    session.perform (.operate number operation) =
      ((cursor.perform operation session.caller).1.result.map .answer,
        { session with
          cursors := session.cursors.set number (cursor.perform operation session.caller).1.cursor
          journal := session.journal.record (cursor.perform operation session.caller).1.notices
          caller := (cursor.perform operation session.caller).2 }) := by
  simp only [perform, found]

theorem perform_operate_of_none (missing : session.cursors[number]? = none)
    (operation : Operation Caller) :
    session.perform (.operate number operation) = (.error (.noSuchCursor number), session) := by
  simp only [perform, missing]

theorem perform_limit_of_some {cursor : Cursor} (found : session.cursors[number]? = some cursor)
    (lower upper : Int) :
    session.perform (.limit number lower upper) =
      session.addCursor (cursor.subView lower upper)
        [.subView lower upper cursor.text.length] := by
  simp only [perform, found]

theorem perform_limit_of_none (missing : session.cursors[number]? = none) (lower upper : Int) :
    session.perform (.limit number lower upper) = (.error (.noSuchCursor number), session) := by
  simp only [perform, missing]

theorem perform_assign_of_some {cursor : Cursor} (found : session.cursors[number]? = some cursor)
    (offset : Offset) (value : Int) :
    session.perform (.assign number offset value) =
      (.ok (.answer .done),
        { session with cursors := session.cursors.set number (cursor.assign offset value) }) := by
  simp only [perform, found]

theorem perform_assign_of_none (missing : session.cursors[number]? = none) (offset : Offset)
    (value : Int) :
    session.perform (.assign number offset value) = (.error (.noSuchCursor number), session) := by
  simp only [perform, missing]

end Operate

/-! ### Choosing settings -/

section Configure

variable {draft : Settings.Draft}

theorem perform_configure_of_ok (session : Session Caller) {settings : Settings}
    (made : draft.settings = .ok settings) :
    session.perform (.configure draft) =
      (.ok (.answer .done),
        { session with
          active := settings
          journal := session.journal.record [.configured settings] }) := by
  simp only [perform, made]

theorem perform_configure_of_error (session : Session Caller) {cause : Failure}
    (unmade : draft.settings = .error cause) :
    session.perform (.configure draft) = (.error cause, session) := by
  simp only [perform, unmade]

end Configure

/-! ### Turns -/

/-- The turn of one command. -/
def turn (session : Session Caller) (command : Command Caller) : Turn Caller :=
  let performed := session.perform command
  ⟨session, command, performed.1, performed.2⟩

@[simp] theorem command_turn (session : Session Caller) (command : Command Caller) :
    (session.turn command).command = command := rfl

/-- The turns of a run of commands, in order. -/
def turns (session : Session Caller) : List (Command Caller) → List (Turn Caller)
  | [] => []
  | command :: rest => session.turn command :: (session.turn command).after.turns rest

theorem turns_cons (session : Session Caller) (command : Command Caller)
    (rest : List (Command Caller)) :
    session.turns (command :: rest) =
      session.turn command :: (session.turn command).after.turns rest := rfl

/-- The session that a run of commands leaves. -/
def afterAll (session : Session Caller) (commands : List (Command Caller)) : Session Caller :=
  commands.foldl (fun now command => (now.perform command).2) session

theorem afterAll_append (session : Session Caller) (early late : List (Command Caller)) :
    session.afterAll (early ++ late) = (session.afterAll early).afterAll late := List.foldl_append

theorem turns_append (session : Session Caller) (early late : List (Command Caller)) :
    session.turns (early ++ late) = session.turns early ++ (session.afterAll early).turns late := by
  induction early generalizing session with
  | nil => rfl
  | cons command rest inductionHypothesis =>
    rw [List.cons_append, turns_cons, turns_cons, List.cons_append, inductionHypothesis]
    rfl

end Session

end Lexing
