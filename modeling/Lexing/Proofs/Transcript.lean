/-
This file says what handlers have written when a program has been run. Of all that the run had to
tell, a handler writes what came up while it was attached and while messages were wanted, that is,
as long as the last command to attach or to detach any handler was one to attach. So detaching one
handler silences all the others until the next is attached, even if the one that is detached has
been detached before.

Handlers know nothing of this history: there are only their marks of being attached, and one switch
for all. That the marks and the switch tell what the history tells is what each turn preserves.

To speak of what a run had to tell, its turns are needed: what each of its commands was carried out
on. An account does not keep that, but its commands can be carried out once more.
-/

import Lexing.Proofs.Account
import Lexing.Proofs.Telling
import Mathlib.Data.List.Forall2

namespace Lexing

variable {Caller : Type}

/-! ### What reaches a handler -/

namespace Command

/-- Whether a command detaches a certain handler. -/
def detaches (number : Nat) : Command Caller → Bool
  | detach handler => handler == number
  | _ => false

/-- For each handler, in the order of their making, the commands behind the one that attached it. -/
def sinceAttached : List (Command Caller) → List (List (Command Caller))
  | [] => []
  | attach :: late => late :: sinceAttached late
  | _ :: late => sinceAttached late

/-- Whether messages are wanted behind some commands. The last to turn them on or off counts. -/
def isWanted (past : List (Command Caller)) : Bool :=
  (past.filterMap switch?).getLast? == some true

/-- Whether what comes up behind some commands reaches a handler. -/
def isHeard (past : List (Command Caller)) (number : Nat) : Bool :=
  isWanted past && (sinceAttached past)[number]?.any fun late => !late.any (detaches number)

end Command

/-- The turns at which what is told reaches a handler, from the commands before them. -/
def Turn.heard (number : Nat) (past : List (Command Caller)) :
    List (Turn Caller) → List (Turn Caller)
  | [] => []
  | turn :: rest =>
    (if Command.isHeard past number then [turn] else []) ++
      heard number (past ++ [turn.command]) rest

/-- What has reached a handler in the course of turns. -/
def Turn.received (number : Nat) (turns : List (Turn Caller)) : List Notice :=
  (heard number [] turns).flatMap notices

/-! ### One more turn -/

namespace Command

theorem sinceAttached_append (early late : List (Command Caller)) :
    sinceAttached (early ++ late) =
      (sinceAttached early).map (· ++ late) ++ sinceAttached late := by
  induction early with
  | nil => rfl
  | cons command rest inductionHypothesis =>
    cases command with
    | attach => exact congrArg (List.cons (rest ++ late)) inductionHypothesis
    | _ => exact inductionHypothesis

end Command

namespace Turn

variable {number : Nat} {turns : List (Turn Caller)}

/-- A turn that turns messages on or off decides whether they are wanted. -/
theorem isWanted_concat (turns : List (Turn Caller)) (turn : Turn Caller) :
    Command.isWanted ((turns ++ [turn]).map command) =
      turn.command.switch?.getD (Command.isWanted (turns.map command)) := by
  unfold Command.isWanted
  rw [List.map_append, List.map_singleton, List.filterMap_append]
  cases switched : turn.command.switch? with
  | none =>
    rw [List.filterMap_cons_none switched, List.filterMap_nil, List.append_nil]
    rfl
  | some wanted =>
    rw [List.filterMap_cons_some switched, List.filterMap_nil, List.getLast?_concat]
    cases wanted <;> rfl

theorem heard_append (number : Nat) (past : List (Command Caller))
    (early late : List (Turn Caller)) :
    heard number past (early ++ late) =
      heard number past early ++ heard number (past ++ early.map command) late := by
  induction early generalizing past with
  | nil =>
    rw [List.map_nil, List.append_nil]
    rfl
  | cons turn rest inductionHypothesis =>
    rw [List.cons_append, heard, heard, inductionHypothesis, List.append_assoc, List.append_assoc,
      List.map_cons, List.singleton_append]

/-- What one more turn adds to what has reached a handler. -/
theorem received_concat (number : Nat) (turns : List (Turn Caller)) (turn : Turn Caller) :
    received number (turns ++ [turn]) =
      received number turns ++
        if Command.isHeard (turns.map command) number then turn.notices else [] := by
  unfold received
  rw [heard_append, heard, heard, List.append_nil, List.nil_append, List.flatMap_append]
  congr 1
  split
  · exact List.flatMap_singleton notices turn
  · rfl

/-- A turn with nothing to tell adds nothing. -/
theorem received_concat_of_silent {turn : Turn Caller} (silent : turn.notices = []) :
    received number (turns ++ [turn]) = received number turns := by
  rw [received_concat, silent, ite_self, List.append_nil]

/-- What has reached a handler is written in the lines of the turns. -/
theorem flatMap_line_received (number : Nat) (turns : List (Turn Caller)) :
    (received number turns).flatMap Notice.line =
      (heard number [] turns).flatMap fun turn => turn.lines.flatten := by
  rw [received, List.flatMap_assoc]
  congr 1
  funext turn
  rw [List.flatMap_def, turn.map_line_notices]

/-- Nothing reaches a handler that has not been attached. -/
theorem heard_of_unattached (past : List (Command Caller))
    (unattached : (Command.sinceAttached (past ++ turns.map command)).length ≤ number) :
    heard number past turns = [] := by
  induction turns generalizing past with
  | nil => rfl
  | cons turn rest inductionHypothesis =>
    have later := unattached
    rw [Command.sinceAttached_append, List.length_append, List.length_map] at unattached
    rw [List.map_cons, ← List.singleton_append, ← List.append_assoc] at later
    rw [heard, inductionHypothesis _ later, Command.isHeard,
      List.getElem?_eq_none (Nat.le_of_add_right_le unattached), Option.any_none, Bool.and_false]
    rfl

end Turn

/-! ### One handler -/

theorem getElem?_concat_eq_ite {Item : Type} (items : List Item) (item : Item) (number : Nat) :
    (items ++ [item])[number]? = if number = items.length then some item else items[number]? := by
  split
  case isTrue newest => rw [newest, List.getElem?_concat_length]
  case isFalse other =>
    rw [List.getElem?_append]
    split
    case isTrue earlier => rfl
    case isFalse beyond =>
      rw [List.getElem?_eq_none (Nat.le_of_not_lt beyond), List.getElem?_eq_none]
      show 1 ≤ _
      omega

theorem Handler.receive_eq (notices : List Notice) (handler : Handler) :
    handler.receive notices =
      ⟨handler.attached, handler.received ++ if handler.attached then notices else []⟩ := by
  obtain ⟨attached, received⟩ := handler
  cases attached with
  | false => exact congrArg (Handler.mk false) (List.append_nil received).symm
  | true => rfl

namespace Journal

theorem getElem?_detach (journal : Journal) (handler number : Nat) :
    (journal.detach handler).handlers[number]? =
      journal.handlers[number]?.map fun found =>
        ⟨found.attached && !(handler == number), found.received⟩ := by
  show (journal.handlers.modify handler _)[number]? = _
  rw [List.getElem?_modify, Option.map_eq_map]
  congr 1
  funext found
  by_cases same : handler = number
  · simp only [same, if_true, beq_self_eq_true, Bool.not_true, Bool.and_false]
  · simp only [same, if_false, beq_eq_false_iff_ne.mpr same, Bool.not_false, Bool.and_true]

theorem getElem?_record (journal : Journal) (notices : List Notice) (number : Nat) :
    (journal.record notices).handlers[number]? =
      journal.handlers[number]?.map fun found =>
        ⟨found.attached,
          found.received ++ if journal.wanted && found.attached then notices else []⟩ := by
  unfold record
  cases journal.wanted with
  | false =>
    simp only [Bool.false_and, Bool.false_eq_true, if_false, List.append_nil]
    exact (Option.map_id' ..).symm
  | true =>
    rw [if_pos rfl, List.getElem?_map]
    simp only [Bool.true_and]
    congr 1
    exact funext (Handler.receive_eq notices)

end Journal

/-! ### What the journal knows -/

/-- What becomes of a handler in the course of turns, if one of them attaches it. -/
def Turn.listener? (turns : List (Turn Caller)) (number : Nat) : Option Handler :=
  (Command.sinceAttached (turns.map command))[number]?.map fun late =>
    ⟨!late.any (Command.detaches number), received number turns⟩

theorem Turn.listener?_concat (turns : List (Turn Caller)) {turn : Turn Caller}
    (attachesNone : Command.sinceAttached [turn.command] = []) (number : Nat) :
    listener? (turns ++ [turn]) number =
      (listener? turns number).map fun handler =>
        ⟨handler.attached && !turn.command.detaches number,
          handler.received ++
            if Command.isWanted (turns.map command) && handler.attached then turn.notices
            else []⟩ := by
  unfold listener?
  rw [received_concat, List.map_append, List.map_singleton, Command.sinceAttached_append,
    attachesNone, List.append_nil, List.getElem?_map]
  unfold Command.isHeard
  cases (Command.sinceAttached (turns.map command))[number]? with
  | none => rfl
  | some late =>
    simp only [Option.map_some, Option.any_some, List.any_append, List.any_cons, List.any_nil,
      Bool.or_false, Bool.not_or]

theorem Turn.listener?_attach (turns : List (Turn Caller)) {turn : Turn Caller}
    (attaches : turn.command = .attach) (number : Nat) :
    listener? (turns ++ [turn]) number =
      if number = (Command.sinceAttached (turns.map command)).length then some ⟨true, []⟩
      else listener? turns number := by
  have silent : turn.notices = [] := by
    unfold notices
    rw [attaches]
  have split : Command.sinceAttached ((turns ++ [turn]).map command) =
      (Command.sinceAttached (turns.map command)).map (· ++ [.attach]) ++ [[]] := by
    rw [List.map_append, Command.sinceAttached_append, List.map_singleton, attaches]
    rfl
  unfold listener?
  rw [received_concat_of_silent silent, split, getElem?_concat_eq_ite, List.length_map]
  split
  case isTrue newest =>
    rw [Option.map_some, List.any_nil, received,
      heard_of_unattached [] (Nat.le_of_eq newest.symm)]
    rfl
  case isFalse other =>
    rw [List.getElem?_map, Option.map_map]
    congr 1
    funext late
    dsimp only [Function.comp_apply]
    rw [List.any_append]
    simp [Command.detaches]

/-- A journal tells what the turns up to now have made of the handlers. -/
structure Journal.Tells (journal : Journal) (turns : List (Turn Caller)) : Prop where
  wanted : journal.wanted = Command.isWanted (turns.map Turn.command)
  handlers : ∀ number : Nat, journal.handlers[number]? = Turn.listener? turns number

namespace Journal.Tells

theorem nothing : Journal.empty.Tells ([] : List (Turn Caller)) where
  wanted := rfl
  handlers _ := rfl

section Steps

variable {session : Session Caller} {turns : List (Turn Caller)}

theorem length_handlers {journal : Journal} (tells : journal.Tells turns) :
    journal.handlers.length = (Command.sinceAttached (turns.map Turn.command)).length := by
  apply Nat.le_antisymm
  · rw [← List.getElem?_eq_none_iff, tells.handlers]
    exact congrArg (Option.map _) (List.getElem?_eq_none (Nat.le_refl _))
  · have unattached := tells.handlers journal.handlers.length
    rw [List.getElem?_eq_none (Nat.le_refl _)] at unattached
    exact List.getElem?_eq_none_iff.mp (Option.map_eq_none_iff.mp unattached.symm)

theorem attach (tells : session.journal.Tells turns) :
    session.journal.attach.Tells (turns ++ [session.turn .attach]) where
  wanted := (Turn.isWanted_concat turns (session.turn .attach)).symm
  handlers number := by
    rw [Turn.listener?_attach turns rfl number, ← tells.length_handlers, ← tells.handlers number]
    exact getElem?_concat_eq_ite _ _ number

theorem detach (tells : session.journal.Tells turns) (handler : Nat) :
    (session.journal.detach handler).Tells (turns ++ [session.turn (.detach handler)]) where
  wanted := (Turn.isWanted_concat turns (session.turn (.detach handler))).symm
  handlers number := by
    have silent : (session.turn (.detach handler)).notices = [] := rfl
    rw [Turn.listener?_concat turns rfl number, ← tells.handlers number, getElem?_detach]
    simp only [silent, ite_self, List.append_nil]
    rfl

theorem record (tells : session.journal.Tells turns) {command : Command Caller}
    (idle : command.switch? = none) :
    (session.journal.record (session.turn command).notices).Tells
      (turns ++ [session.turn command]) where
  wanted := by
    rw [Turn.isWanted_concat, Session.command_turn, idle, Option.getD_none, ← tells.wanted]
    unfold Journal.record
    split <;> rfl
  handlers number := by
    have attachesNone : Command.sinceAttached [command] = [] := by
      cases command with
      | attach => cases idle
      | _ => rfl
    have detachesNone : command.detaches number = false := by
      cases command with
      | detach handler => cases idle
      | _ => rfl
    rw [Turn.listener?_concat turns attachesNone number, ← tells.handlers number,
      getElem?_record, tells.wanted, Session.command_turn, detachesNone]
    simp only [Bool.not_false, Bool.and_true]

/-- One more turn leaves a journal that tells of it as well. -/
theorem perform (tells : session.journal.Tells turns) (command : Command Caller) :
    (session.perform command).2.journal.Tells (turns ++ [session.turn command]) := by
  cases switched : command.switch? with
  | none =>
    rw [session.journal_perform switched]
    exact tells.record switched
  | some wanted =>
    cases command with
    | attach => exact tells.attach
    | detach handler => exact tells.detach handler
    | _ => cases switched

end Steps

end Journal.Tells

/-! ### The turns of a program -/

namespace Account

mutual

/-- Carries the commands of an account out once more. Gives their turns, and the session that the
last of them leaves. -/
def retrace (session : Session Caller) : Account Caller → List (Turn Caller) × Session Caller
  | carried command _ _ => ([session.turn command], (session.turn command).after)
  | inside settings accounts =>
    let within := retraceAll { session with active := settings } accounts
    (within.1, { within.2 with active := session.active })

def retraceAll (session : Session Caller) :
    List (Account Caller) → List (Turn Caller) × Session Caller
  | [] => ([], session)
  | account :: rest =>
    let first := account.retrace session
    let others := retraceAll first.2 rest
    (first.1 ++ others.1, others.2)

end

end Account

/-- The turns of a run, in order. -/
def Program.turns (program : List (Program Caller)) (session : Session Caller) :
    List (Turn Caller) :=
  (Account.retraceAll session (accountsAll program (runAll program session).result)).1

/-- A turn is what has been seen of it at a place. -/
structure Turn.TakesPlace (turn : Turn Caller) (place : Place Caller) : Prop where
  command : turn.command = place.command
  result : turn.result = place.result
  after : turn.after = place.after
  performed : turn = turn.before.turn turn.command

section TakesPlace

variable {turns : List (Turn Caller)} {places : List (Place Caller)}

theorem Turn.map_command_of_takesPlace (listed : List.Forall₂ TakesPlace turns places) :
    turns.map command = places.map Place.command := by
  induction listed with
  | nil => rfl
  | cons first rest inductionHypothesis =>
    rw [List.map_cons, List.map_cons, first.command, inductionHypothesis]

theorem Turn.performed_of_takesPlace (listed : List.Forall₂ TakesPlace turns places) :
    ∀ turn ∈ turns, turn = turn.before.turn turn.command := by
  induction listed with
  | nil => exact List.forall_mem_nil _
  | cons first rest inductionHypothesis =>
    exact List.forall_mem_cons.mpr ⟨first.performed, inductionHypothesis⟩

end TakesPlace

namespace Account.Leads

variable {session last : Session Caller} {accounts : List (Account Caller)}

/-- Carrying an account out once more leads where it has led. -/
theorem retraced (leads : Leads session accounts last) :
    (retraceAll session accounts).2 = last := by
  induction leads with
  | nothing session => rfl
  | carried later inductionHypothesis => exact inductionHypothesis
  | inside inner later innerHypothesis laterHypothesis =>
    rw [retraceAll, retrace]
    dsimp only
    rw [innerHypothesis]
    exact laterHypothesis

/-- Each command that is carried out once more takes the place that it has taken. -/
theorem takesPlace (leads : Leads session accounts last) (base : Settings)
    (earlier : List (Account Caller)) :
    List.Forall₂ Turn.TakesPlace (retraceAll session accounts).1
      (placesAll base earlier accounts) := by
  induction leads generalizing base earlier with
  | nothing session => exact .nil
  | carried later inductionHypothesis =>
    exact .cons ⟨rfl, rfl, rfl, rfl⟩ (inductionHypothesis base (earlier ++ [_]))
  | inside inner later innerHypothesis laterHypothesis =>
    rw [retraceAll, retrace, placesAll, places]
    dsimp only
    rw [inner.retraced]
    exact List.rel_append (innerHypothesis _ []) (laterHypothesis base (earlier ++ [_]))

/-- A journal that tells of the turns before an account tells behind it of those of the account as
well. -/
theorem tells (leads : Leads session accounts last) {turns : List (Turn Caller)}
    (told : session.journal.Tells turns) :
    last.journal.Tells (turns ++ (retraceAll session accounts).1) := by
  induction leads generalizing turns with
  | nothing session =>
    rw [retraceAll, List.append_nil]
    exact told
  | carried later inductionHypothesis =>
    have next := inductionHypothesis (told.perform _)
    rwa [List.append_assoc] at next
  | inside inner later innerHypothesis laterHypothesis =>
    have next := laterHypothesis (innerHypothesis told)
    rw [retraceAll, retrace]
    dsimp only
    rw [inner.retraced, ← List.append_assoc]
    exact next

end Account.Leads

namespace Program

/-- What a handler has written when a program has been run: the lines of the turns that came up
while the handler was attached and messages were wanted. The turns are the commands that the run
carried out, in a straight program all that are written in it, and whatever a turn has to tell is
sent then, and nothing else. -/
theorem transcript_runAll (program : List (Program Caller)) (session : Session Caller)
    (silent : session.journal = .empty) :
    List.Forall₂ Turn.TakesPlace (turns program session) (places program session) ∧
      (isStraightAll program = true →
        (turns program session).map Turn.command = writtenAll program) ∧
      (∀ turn ∈ turns program session, turn.command.switch? = none →
        turn.after.journal = turn.before.journal.record turn.notices) ∧
      ∀ number : Nat,
        (runAll program session).session.journal.transcript? number =
          (Command.sinceAttached ((turns program session).map Turn.command))[number]?.map fun _ =>
            (Turn.heard number [] (turns program session)).flatMap fun turn =>
              turn.lines.flatten := by
  have leads := runAll_leads program session
  have listed := leads.takesPlace session.active []
  refine ⟨listed, fun straight => ?_, fun turn member idle => ?_, fun number => ?_⟩
  · exact (Turn.map_command_of_takesPlace listed).trans
      (runAll_of_straight program straight session session.active []).2
  · rw [Turn.performed_of_takesPlace listed turn member]
    exact turn.before.journal_perform idle
  · have told : (runAll program session).session.journal.Tells (turns program session) :=
      leads.tells (silent ▸ Journal.Tells.nothing)
    rw [Journal.transcript?, told.handlers number, Turn.listener?, Option.map_map]
    congr 1
    funext late
    exact Turn.flatMap_line_received number (turns program session)

/-- A draft of settings that check bounds. -/
def checkedDraft : Settings.Draft := ⟨[("check_bounds", .flag true)], false⟩

/-- A program that is watched by three handlers, the first of which is detached twice. -/
def watched : List (Program Unit) :=
  [.command .attach,
    .context checkedDraft [
      .command (.create "say 'no" 5 4 none),
      .thread [.command (.configure checkedDraft)]],
    .command (.operate 0 (.eatQuoted (.text "'") none)),
    .command .attach,
    .attempt [.command (.operate 0 (.backUp 2))],
    .command (.limit 0 (-1) 99),
    .command (.detach 0),
    .command (.limit 0 0 1),
    .command .attach,
    .command (.assign 0 .position 3),
    .command (.operate 0 (.consume (.text "'"))),
    .command (.detach 0),
    .command (.limit 0 2 3)]

/-- The sub-view is told of by the bounds that it was asked for, beyond the text on both sides.
Detaching the first handler keeps the next message from the second, and detaching it once more keeps
the last one from all. -/
theorem transcript_runAll_watched :
    (Session.fresh ()).journal = .empty ∧
      isStraightAll watched = true ∧
      (turns watched (.fresh ())).map Turn.command = writtenAll watched ∧
      [0, 1, 2, 3].map (runAll watched (.fresh ())).session.journal.transcript? =
        [some (Text.ofString "textcursor.config: Reader config set: ReaderConfig(" ++
            Text.ofString "escape='\\\\', check_bounds=True, " ++
            Text.ofString "include_source_in_errors=True)\n" ++
            Text.ofString "textcursor.cursor: Unterminated '-quoted literal at 5\n" ++
            Text.ofString "textcursor.cursor: back_up(2) from 5 leaves range\n" ++
            Text.ofString "textcursor.cursor: Sub-view [-1, 99) over 7 characters\n"),
          some (Text.ofString "textcursor.cursor: back_up(2) from 5 leaves range\n" ++
            Text.ofString "textcursor.cursor: Sub-view [-1, 99) over 7 characters\n" ++
            Text.ofString "textcursor.cursor: save(3) outside [4, 7]\n"),
          some (Text.ofString "textcursor.cursor: save(3) outside [4, 7]\n"), none] := by
  have silent : (Session.fresh ()).journal = .empty := rfl
  have straight : isStraightAll watched = true := rfl
  obtain ⟨_, written, _, transcripts⟩ := transcript_runAll watched (.fresh ()) silent
  refine ⟨silent, straight, written straight, ?_⟩
  rw [List.map_congr_left fun number _ => transcripts number]
  decide +kernel

end Program

end Lexing
