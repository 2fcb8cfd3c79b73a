/-
This file says what a lexer has to tell while it works. A sub-view is told of with the bounds that it
was asked for, before they are moved into the text. A scan for the end of a literal tells that it
found none, and from where it looked. Moving back and marking tell that they were refused, and a run
of characters is told of if marking its beginning was. Chosen settings are told of. Nothing else is.

All of it can be read off what a command was given and what it answered. That a run of characters
was refused its mark cannot: the matcher may fail for the same cause, and then there is nothing to
tell.

What is told is written line by line, each line under the name of the channel that it comes from. The
lines are given here in full, from what the command was given, and not by way of the messages that
carry it.
-/

import Lexing.Proofs.Motion
import Lexing.Proofs.Turn

namespace Lexing

variable {Caller : Type}

/-! ### What there is to tell -/

/-- What marking an offset, or the position, has to tell. -/
def Cursor.refusals (before : Cursor) (offset : Option Int) : List Notice :=
  if (before.save offset).result.isOk then []
  else [.saveRefused (offset.getD before.position) before.lower before.stop]

/-- What an operation has to tell, from the cursor that it was performed on and from what it came
to. -/
def Operation.notices (before : Cursor) (result : Except Failure Reply) :
    Operation Caller → List Notice
  | eatQuoted quote _ =>
    match result with
    | .ok (.answer (.truth false)) =>
      quote.toUnit.toOption.toList.map fun mark => .unterminated mark before.position
    | _ => []
  | backUp count => if result.isOk then [] else [.backUpRefused count before.position]
  | save offset => before.refusals offset
  | consume _ => before.refusals none
  | _ => []

/-- What a command has to tell. -/
def Turn.notices (turn : Turn Caller) : List Notice :=
  match turn.command with
  | .limit parent lower upper =>
    turn.before.cursors[parent]?.toList.map fun cursor =>
      .subView lower upper cursor.text.length
  | .operate number operation =>
    turn.before.cursors[number]?.toList.flatMap fun cursor => operation.notices cursor turn.result
  | .configure draft => draft.settings.toOption.toList.map .configured
  | _ => []

/-! ### The lines in full -/

/-- The line for marking an offset, or the position, where it is refused. -/
def Cursor.refusalLines (before : Cursor) (offset : Option Int) : List Text :=
  if (before.save offset).result.isOk then []
  else
    [Text.ofString "textcursor.cursor: save(" ++ Text.ofInt (offset.getD before.position) ++
      Text.ofString ") outside [" ++ Text.ofInt before.lower ++ Text.ofString ", " ++
      Text.ofInt before.stop ++ Text.ofString "]\n"]

/-- The lines for an operation, from the cursor that it was performed on and from what it came to.
A literal without an end is told of by the offset at which its scan began. -/
def Operation.lines (before : Cursor) (result : Except Failure Reply) :
    Operation Caller → List Text
  | eatQuoted quote _ =>
    match result with
    | .ok (.answer (.truth false)) =>
      quote.toUnit.toOption.toList.map fun mark =>
        Text.ofString "textcursor.cursor: Unterminated " ++ [mark] ++
          Text.ofString "-quoted literal at " ++ Text.ofInt before.position ++ Text.ofString "\n"
    | _ => []
  | backUp count =>
    if result.isOk then []
    else
      [Text.ofString "textcursor.cursor: back_up(" ++ Text.ofInt count ++
        Text.ofString ") from " ++ Text.ofInt before.position ++
        Text.ofString " leaves range\n"]
  | save offset => before.refusalLines offset
  | consume _ => before.refusalLines none
  | _ => []

/-- The lines for a command. A sub-view is told of by the bounds as they were given. -/
def Turn.lines (turn : Turn Caller) : List Text :=
  match turn.command with
  | .limit parent lower upper =>
    turn.before.cursors[parent]?.toList.map fun cursor =>
      Text.ofString "textcursor.cursor: Sub-view [" ++ Text.ofInt lower ++
        Text.ofString ", " ++ Text.ofInt upper ++ Text.ofString ") over " ++
        Text.ofInt cursor.text.length ++ Text.ofString " characters\n"
  | .operate number operation =>
    turn.before.cursors[number]?.toList.flatMap fun cursor => operation.lines cursor turn.result
  | .configure draft =>
    draft.settings.toOption.toList.map fun settings =>
      Text.ofString "textcursor.config: Reader config set: ReaderConfig(escape=" ++
        settings.escape.display ++ Text.ofString ", check_bounds=" ++
        settings.checkBounds.display ++ Text.ofString ", include_source_in_errors=" ++
        settings.quoteSource.display ++ Text.ofString ")\n"
  | _ => []

namespace Notice

/-! A message is written under the name of its channel. Both sides of each equation come down to the
same characters, which `rfl` sees once the parts are associated alike. -/

theorem line_subView (lower upper : Int) (length : Nat) :
    (subView lower upper length).line =
      Text.ofString "textcursor.cursor: Sub-view [" ++ Text.ofInt lower ++
        Text.ofString ", " ++ Text.ofInt upper ++ Text.ofString ") over " ++
        Text.ofInt length ++ Text.ofString " characters\n" := by
  simp only [line, message, channel, List.append_assoc]
  rfl

theorem line_unterminated (mark : CodePoint) (start : Int) :
    (unterminated mark start).line =
      Text.ofString "textcursor.cursor: Unterminated " ++ [mark] ++
        Text.ofString "-quoted literal at " ++ Text.ofInt start ++ Text.ofString "\n" := by
  simp only [line, message, channel, List.append_assoc]
  rfl

theorem line_backUpRefused (count position : Int) :
    (backUpRefused count position).line =
      Text.ofString "textcursor.cursor: back_up(" ++ Text.ofInt count ++
        Text.ofString ") from " ++ Text.ofInt position ++ Text.ofString " leaves range\n" := by
  simp only [line, message, channel, List.append_assoc]
  rfl

theorem line_saveRefused (offset lower stop : Int) :
    (saveRefused offset lower stop).line =
      Text.ofString "textcursor.cursor: save(" ++ Text.ofInt offset ++
        Text.ofString ") outside [" ++ Text.ofInt lower ++ Text.ofString ", " ++
        Text.ofInt stop ++ Text.ofString "]\n" := by
  simp only [line, message, channel, List.append_assoc]
  rfl

theorem line_configured (settings : Settings) :
    (configured settings).line =
      Text.ofString "textcursor.config: Reader config set: ReaderConfig(escape=" ++
        settings.escape.display ++ Text.ofString ", check_bounds=" ++
        settings.checkBounds.display ++ Text.ofString ", include_source_in_errors=" ++
        settings.quoteSource.display ++ Text.ofString ")\n" := by
  simp only [line, message, channel, Settings.display, List.append_assoc]
  rfl

end Notice

theorem Cursor.map_line_refusals (before : Cursor) (offset : Option Int) :
    (before.refusals offset).map Notice.line = before.refusalLines offset := by
  unfold refusals refusalLines
  split
  · rfl
  · rw [List.map_singleton, Notice.line_saveRefused]

theorem Operation.map_line_notices (before : Cursor) (result : Except Failure Reply)
    (operation : Operation Caller) :
    (operation.notices before result).map Notice.line = operation.lines before result := by
  cases operation with
  | eatQuoted quote escape =>
    unfold notices lines
    dsimp only
    split
    · rw [List.map_map]
      exact List.map_congr_left fun mark _ => Notice.line_unterminated mark before.position
    · rfl
  | backUp count =>
    unfold notices lines
    dsimp only
    split
    · rfl
    · rw [List.map_singleton, Notice.line_backUpRefused]
  | save offset => exact before.map_line_refusals offset
  | consume spec => exact before.map_line_refusals none
  | _ => rfl

/-- What a command has to tell is written in its lines. -/
theorem Turn.map_line_notices (turn : Turn Caller) :
    turn.notices.map Notice.line = turn.lines := by
  obtain ⟨before, command, result, after⟩ := turn
  cases command with
  | limit parent lower upper =>
    unfold notices lines
    dsimp only
    rw [List.map_map]
    exact List.map_congr_left fun cursor _ => Notice.line_subView lower upper cursor.text.length
  | operate number operation =>
    unfold notices lines
    dsimp only
    rw [List.map_flatMap]
    exact congrArg (List.flatMap · _) (funext fun cursor =>
      operation.map_line_notices cursor result)
  | configure draft =>
    unfold notices lines
    dsimp only
    rw [List.map_map]
    exact List.map_congr_left fun settings _ => Notice.line_configured settings
  | _ => rfl

/-! ### Operations -/

namespace Cursor

section Notices

variable (cursor : Cursor)

theorem notices_next : cursor.next.notices = [] := by
  unfold next
  split <;> rfl

theorem notices_drain : cursor.drain.notices = [] := by
  fun_induction drain cursor with
  | case1 cursor unit taken rest inductionHypothesis => exact inductionHypothesis
  | case2 cursor used => exact notices_next cursor
  | case3 cursor cause unread => exact notices_next cursor

theorem notices_skipTo (needle : Glyph) : (cursor.skipTo needle).notices = [] := by
  unfold skipTo
  split
  · rfl
  · split <;> rfl

theorem notices_eat (spec : Spec Caller) (caller : Caller) :
    (cursor.eat spec caller).1.notices = [] := by
  unfold eat
  split
  case isFalse => rfl
  case isTrue =>
    split
    · rfl
    · split
      · rfl
      · split <;> rfl

theorem notices_eatWhile (spec : Spec Caller) (caller : Caller) :
    (cursor.eatWhile spec caller).1.notices = [] := by
  unfold eatWhile
  split <;> rfl

theorem notices_expect (spec : Spec Caller) (message : Option Text) (caller : Caller) :
    (cursor.expect spec message caller).1.notices = [] := by
  unfold expect
  split
  · rfl
  · split
    · rfl
    · rfl
    · split <;> rfl

theorem notices_eatQuoted (quote : Glyph) (escape : Option Glyph) :
    (cursor.eatQuoted quote escape).notices =
      (Operation.eatQuoted quote escape : Operation Caller).notices cursor
        (((cursor.eatQuoted quote escape).result.map Answer.truth).map .answer) := by
  unfold eatQuoted
  cases marked : quote.toUnit with
  | error cause => rfl
  | ok mark =>
    dsimp only
    cases escape.mapM Glyph.toUnit with
    | error cause => rfl
    | ok given =>
      dsimp only
      cases cursor.text.literalEnd cursor.stop mark (given.or cursor.settings.escapeUnit?)
        cursor.position with
      | unterminated =>
        simp only [Operation.notices, Except.map, marked]
        rfl
      | _ => rfl

theorem notices_backUp (count : Int) :
    (cursor.backUp count).notices =
      (Operation.backUp count : Operation Caller).notices cursor
        (((cursor.backUp count).result.map fun _ => Answer.done).map .answer) := by
  unfold backUp
  dsimp only
  split <;> rfl

theorem notices_save (offset : Option Int) :
    (cursor.save offset).notices = cursor.refusals offset := by
  unfold refusals save
  dsimp only
  split <;> rfl

theorem notices_consume (spec : Spec Caller) (caller : Caller) :
    (cursor.consume spec caller).1.notices = cursor.refusals none := by
  rw [← notices_save]
  unfold consume
  dsimp only
  split
  · rfl
  · dsimp only
    rw [notices_eatWhile, List.append_nil]

/-- An operation tells what it has to tell. -/
theorem notices_perform (operation : Operation Caller) (caller : Caller) :
    (cursor.perform operation caller).1.notices =
      operation.notices cursor ((cursor.perform operation caller).1.result.map .answer) := by
  cases operation with
  | next => exact notices_next cursor
  | nextCode => exact notices_next cursor
  | drain => exact notices_drain cursor
  | skipTo needle => exact notices_skipTo cursor needle
  | eat spec => exact notices_eat cursor spec caller
  | eatWhile spec => exact notices_eatWhile cursor spec caller
  | expect spec message => exact notices_expect cursor spec message caller
  | eatQuoted quote escape => exact notices_eatQuoted cursor quote escape
  | backUp count => exact notices_backUp cursor count
  | save offset => exact notices_save cursor offset
  | consume spec => exact notices_consume cursor spec caller
  | _ => rfl

end Notices

end Cursor

/-! ### Commands -/

/-- Whether a command turns messages on or off, if it does either. -/
def Command.switch? : Command Caller → Option Bool
  | attach => some true
  | detach _ => some false
  | _ => none

@[simp] theorem Journal.record_nil (journal : Journal) : journal.record [] = journal := by
  unfold record
  split
  · have unchanged : Handler.receive [] = id := by
      funext handler
      unfold Handler.receive
      rw [List.append_nil]
      exact ite_self handler
    rw [unchanged, List.map_id]
  · rfl

/-- Attaching and detaching apart, a command sends to the handlers what it has to tell. -/
theorem Session.journal_perform (session : Session Caller) {command : Command Caller}
    (idle : command.switch? = none) :
    (session.perform command).2.journal = session.journal.record (session.turn command).notices := by
  cases command with
  | attach | detach => cases idle
  | limit parent lower upper =>
    unfold Turn.notices
    dsimp only [turn]
    cases found : session.cursors[parent]? with
    | none =>
      rw [perform_limit_of_none found]
      exact session.journal.record_nil.symm
    | some cursor =>
      rw [perform_limit_of_some found]
      rfl
  | operate number operation =>
    unfold Turn.notices
    dsimp only [turn]
    cases found : session.cursors[number]? with
    | none =>
      rw [perform_operate_of_none found]
      exact session.journal.record_nil.symm
    | some cursor =>
      rw [perform_operate_of_some found, Option.toList_some, List.flatMap_singleton]
      exact congrArg session.journal.record (cursor.notices_perform operation session.caller)
  | configure draft =>
    unfold Turn.notices
    dsimp only [turn]
    cases made : draft.settings with
    | error cause =>
      rw [session.perform_configure_of_error made]
      exact session.journal.record_nil.symm
    | ok settings =>
      rw [session.perform_configure_of_ok made]
      rfl
  | assign number offset value =>
    unfold perform
    dsimp only
    split <;> exact session.journal.record_nil.symm
  | transcript handler =>
    unfold perform
    dsimp only
    split <;> exact session.journal.record_nil.symm
  | create => rfl
  | _ => exact session.journal.record_nil.symm

end Lexing
