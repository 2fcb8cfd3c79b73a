/-
This file proves that it makes no difference whether a character is given by itself or by its code.
A character and its code stand for matchers that accept the same and are described the same, for the
same needle and for the same quote. So a run in which codes stand for characters, and characters are
taken and looked at by their codes, passes the same sessions as the run with the characters. It
answers the same too, but for the codes where characters were answered.
-/

import Lexing.Proofs.Turn

namespace Lexing

variable {Caller : Type}

/-! ### Matchers that are alike -/

/-- Two matchers say the same of every character and are described the same. -/
structure Matcher.Alike (left right : Matcher Caller) : Prop where
  test : ∀ unit caller, left.test [unit] caller = right.test [unit] caller
  describe : left.describe = right.describe

theorem Matcher.Alike.refl (matcher : Matcher Caller) : matcher.Alike matcher :=
  ⟨fun _ _ => rfl, rfl⟩

/-- Two specs stand for matchers that are alike, or for nothing, and then for the same cause. -/
inductive Spec.Alike (left right : Spec Caller) : Prop where
  | fit {first second : Matcher Caller} (stands : left.toMatcher = .ok first)
      (others : right.toMatcher = .ok second) (alike : first.Alike second)
  | unfit {cause : Failure} (fails : left.toMatcher = .error cause)
      (others : right.toMatcher = .error cause)

theorem Spec.Alike.refl (spec : Spec Caller) : spec.Alike spec := by
  cases stands : spec.toMatcher with
  | error cause => exact .unfit stands stands
  | ok matcher => exact .fit stands stands (.refl matcher)

namespace Cursor

section Alike

variable {left right : Spec Caller} {first second : Matcher Caller}

theorem runEnd_of_alike (alike : first.Alike second) (text : Text) (stop position : Int)
    (caller : Caller) :
    first.runEnd text stop position caller = second.runEnd text stop position caller := by
  fun_induction Matcher.runEnd first text stop position caller with
  | case1 position caller below cause unread =>
    rw [Matcher.runEnd_of_unreadable below unread]
  | case2 position caller below unit read cause after asked =>
    rw [alike.test] at asked
    rw [Matcher.runEnd_of_failed below read asked]
  | case3 position caller below unit read after asked =>
    rw [alike.test] at asked
    rw [Matcher.runEnd_of_rejected below read asked]
  | case4 position caller below unit read after asked inductionHypothesis =>
    rw [alike.test] at asked
    rw [Matcher.runEnd_of_accepted below read asked]
    exact inductionHypothesis
  | case5 position caller used => rw [Matcher.runEnd_of_end used]

theorem eat_of_alike (alike : left.Alike right) (cursor : Cursor) (caller : Caller) :
    cursor.eat left caller = cursor.eat right caller := by
  unfold eat
  cases alike with
  | fit stands others same =>
    rw [stands, others]
    simp only [same.test]
  | unfit fails others => rw [fails, others]

theorem eatWhile_of_alike (alike : left.Alike right) (cursor : Cursor) (caller : Caller) :
    cursor.eatWhile left caller = cursor.eatWhile right caller := by
  unfold eatWhile
  cases alike with
  | fit stands others same =>
    rw [stands, others]
    simp only [runEnd_of_alike same]
  | unfit fails others => rw [fails, others]

theorem consume_of_alike (alike : left.Alike right) (cursor : Cursor) (caller : Caller) :
    cursor.consume left caller = cursor.consume right caller := by
  unfold consume
  simp only [eatWhile_of_alike alike]

theorem unmet_of_alike (alike : first.Alike second) (cursor : Cursor) (found : Option CodePoint)
    (message : Option Text) :
    cursor.unmet first found message = cursor.unmet second found message := by
  unfold unmet
  rw [alike.describe]

theorem expect_of_alike (alike : left.Alike right) (cursor : Cursor) (message : Option Text)
    (caller : Caller) :
    cursor.expect left message caller = cursor.expect right message caller := by
  unfold expect
  cases alike with
  | fit stands others same =>
    rw [stands, others]
    simp only [same.test, unmet_of_alike same]
  | unfit fails others => rw [fails, others]

end Alike

end Cursor

/-! ### Codes for characters -/

/-- A text of one character is given by the code of the character. -/
def Glyph.byCode : Glyph → Glyph
  | text [unit] => code unit.code
  | other => other

def Spec.byCode : Spec Caller → Spec Caller
  | text [unit] => code unit.code
  | other => other

/-- The operation with the characters in it given by their codes, and with characters taken and
looked at by their codes. -/
def Operation.byCode : Operation Caller → Operation Caller
  | peek => peekCode
  | next => nextCode
  | eat spec => eat spec.byCode
  | eatWhile spec => eatWhile spec.byCode
  | consume spec => consume spec.byCode
  | expect spec message => expect spec.byCode message
  | skipTo needle => skipTo needle.byCode
  | eatQuoted quote escape => eatQuoted quote.byCode (escape.map Glyph.byCode)
  | other => other

/-- What an operation answers when it is given by codes: for the character that was taken or looked
at, its code. -/
def Operation.answerByCode : Operation Caller → Answer → Answer
  | peek, .unit found => .code (found.map CodePoint.code)
  | next, .unit found => .code (found.map CodePoint.code)
  | _, answer => answer

theorem Glyph.toUnit_byCode (glyph : Glyph) : glyph.byCode.toUnit = glyph.toUnit := by
  unfold byCode
  split
  · exact CodePoint.ofInt_code _
  · rfl

theorem Glyph.toNeedle_byCode (glyph : Glyph) : glyph.byCode.toNeedle = glyph.toNeedle := by
  unfold byCode
  split
  · rename_i unit
    show (CodePoint.ofInt unit.code).map (fun unit => [unit]) = .ok [unit]
    rw [CodePoint.ofInt_code]
    rfl
  · rfl

theorem Glyph.mapM_toUnit_byCode (escape : Option Glyph) :
    (escape.map byCode).mapM toUnit = escape.mapM toUnit := by
  cases escape with
  | none => rfl
  | some glyph =>
    show some <$> glyph.byCode.toUnit = some <$> glyph.toUnit
    rw [toUnit_byCode]

theorem Matcher.ofCode_natCast (code : Nat) :
    (ofCode code : Except Failure (Matcher Caller)) = .ok (exactCode (.number code)) := by
  rw [ofCode, if_neg (by omega), Int.toNat_natCast]

/-- The code of a character tells a single character from the others as the character does. -/
theorem Matcher.exactCode_alike (unit : CodePoint) :
    (exactCode (.number unit.code) : Matcher Caller).Alike (exactChar unit []) := by
  constructor
  · intro other caller
    have same : (other.code == unit.code) = ([other] == [unit]) := by
      rw [Bool.eq_iff_iff, beq_iff_eq, beq_iff_eq, List.singleton_inj]
      exact ⟨CodePoint.code_injective, congrArg CodePoint.code⟩
    exact congrArg (fun holds => (Except.ok holds, caller)) same
  · show (CodePoint.ofInt unit.code).map (fun unit => Text.quoted [unit]) = _
    rw [CodePoint.ofInt_code]
    rfl

theorem Spec.byCode_alike (spec : Spec Caller) : spec.byCode.Alike spec := by
  unfold byCode
  split
  · rename_i unit
    exact .fit (Matcher.ofCode_natCast unit.code) rfl (Matcher.exactCode_alike unit)
  · exact .refl spec

/-! ### Runs -/

namespace Cursor

theorem skipTo_byCode (cursor : Cursor) (needle : Glyph) :
    cursor.skipTo needle.byCode = cursor.skipTo needle := by
  unfold skipTo
  rw [needle.toNeedle_byCode]

theorem eatQuoted_byCode (cursor : Cursor) (quote : Glyph) (escape : Option Glyph) :
    cursor.eatQuoted quote.byCode (escape.map Glyph.byCode) = cursor.eatQuoted quote escape := by
  unfold eatQuoted
  rw [quote.toUnit_byCode, Glyph.mapM_toUnit_byCode]

/-- Looked at by code, the next character is told by its code. -/
theorem perform_peekCode (cursor : Cursor) (caller : Caller) :
    cursor.perform .peekCode caller =
      ((cursor.perform .peek caller).1.map (Operation.peek : Operation Caller).answerByCode,
        caller) := by
  show (cursor.stay (cursor.peekCode.map Answer.code), caller) =
    ((cursor.stay (cursor.peek.map Answer.unit)).map _, caller)
  unfold peekCode
  cases cursor.peek <;> rfl

theorem perform_nextCode (cursor : Cursor) (caller : Caller) :
    cursor.perform .nextCode caller =
      ((cursor.perform .next caller).1.map (Operation.next : Operation Caller).answerByCode,
        caller) := by
  show ((cursor.next.map _).map Answer.code, caller) = ((cursor.next.map Answer.unit).map _, caller)
  obtain ⟨result, after, notices⟩ := cursor.next
  cases result <;> rfl

/-- Where the answer is none that codes change, it is left as it is. -/
theorem map_answerByCode {operation : Operation Caller}
    (same : ∀ answer, operation.answerByCode answer = answer) (performed : Moved Answer × Caller) :
    (performed.1.map operation.answerByCode, performed.2) = performed := by
  obtain ⟨⟨result, after, notices⟩, left⟩ := performed
  cases result with
  | error cause => rfl
  | ok answer =>
    show (Moved.mk (.ok (operation.answerByCode answer)) after notices, left) = _
    rw [same]

/-- Given by codes, an operation comes to the same but for the codes in its answer. -/
theorem perform_byCode (cursor : Cursor) (operation : Operation Caller) (caller : Caller) :
    cursor.perform operation.byCode caller =
      ((cursor.perform operation caller).1.map operation.answerByCode,
        (cursor.perform operation caller).2) := by
  cases operation with
  | peek => exact perform_peekCode cursor caller
  | next => exact perform_nextCode cursor caller
  | eat spec =>
    rw [map_answerByCode fun _ => rfl]
    exact congrArg (fun eaten : Moved Bool × Caller => (eaten.1.map Answer.truth, eaten.2))
      (eat_of_alike spec.byCode_alike cursor caller)
  | eatWhile spec =>
    rw [map_answerByCode fun _ => rfl]
    exact congrArg (fun eaten : Moved Bool × Caller => (eaten.1.map Answer.truth, eaten.2))
      (eatWhile_of_alike spec.byCode_alike cursor caller)
  | consume spec =>
    rw [map_answerByCode fun _ => rfl]
    exact congrArg (fun consumed : Moved Text × Caller => (consumed.1.map Answer.text, consumed.2))
      (consume_of_alike spec.byCode_alike cursor caller)
  | expect spec message =>
    rw [map_answerByCode fun _ => rfl]
    show cursor.perform (.expect spec.byCode message) caller = _
    unfold perform
    dsimp only
    rw [expect_of_alike spec.byCode_alike]
  | skipTo needle =>
    rw [map_answerByCode fun _ => rfl]
    exact congrArg (fun moved : Moved Bool => (moved.map Answer.truth, caller))
      (cursor.skipTo_byCode needle)
  | eatQuoted quote escape =>
    rw [map_answerByCode fun _ => rfl]
    exact congrArg (fun moved : Moved Bool => (moved.map Answer.truth, caller))
      (cursor.eatQuoted_byCode quote escape)
  | _ => exact (map_answerByCode (fun _ => rfl) _).symm

end Cursor

/-- The command with its operation, if it has one, given by codes. -/
def Command.byCode : Command Caller → Command Caller
  | operate number operation => operate number operation.byCode
  | other => other

def Command.replyByCode : Command Caller → Reply → Reply
  | operate _ operation, .answer answer => .answer (operation.answerByCode answer)
  | _, reply => reply

/-- The turn as it is when its command is given by codes: in the same session, leaving the same
session. -/
def Turn.byCode (turn : Turn Caller) : Turn Caller :=
  { turn with
    command := turn.command.byCode
    result := turn.result.map turn.command.replyByCode }

namespace Session

/-- What is no answer of an operation is replied as it is. -/
theorem map_replyByCode {command : Command Caller}
    (same : ∀ reply, command.replyByCode reply = reply)
    (performed : Except Failure Reply × Session Caller) :
    (performed.1.map command.replyByCode, performed.2) = performed := by
  obtain ⟨result, after⟩ := performed
  cases result with
  | error cause => rfl
  | ok reply =>
    show (Except.ok (command.replyByCode reply), after) = _
    rw [same]

/-- Given by codes, a command comes to the same but for the codes in its reply. -/
theorem perform_byCode (session : Session Caller) (command : Command Caller) :
    session.perform command.byCode =
      ((session.perform command).1.map command.replyByCode, (session.perform command).2) := by
  cases command with
  | operate number operation =>
    show session.perform (.operate number operation.byCode) = _
    cases found : session.cursors[number]? with
    | none =>
      rw [perform_operate_of_none found, perform_operate_of_none found]
      rfl
    | some cursor =>
      rw [perform_operate_of_some found, perform_operate_of_some found, cursor.perform_byCode]
      generalize cursor.perform operation session.caller = performed
      obtain ⟨⟨result, after, notices⟩, left⟩ := performed
      cases result <;> rfl
  | _ => exact (map_replyByCode (fun _ => rfl) _).symm

theorem turn_byCode (session : Session Caller) (command : Command Caller) :
    session.turn command.byCode = (session.turn command).byCode := by
  unfold turn
  rw [perform_byCode]
  rfl

/-- A run with its characters given by codes passes the same sessions as the run with the characters
themselves: the same cursors, with the same positions and marks, the same state of the caller and
the same messages. It answers the same and fails for the same causes, but for the codes of the
characters that were answered. -/
theorem turns_byCode (session : Session Caller) (commands : List (Command Caller)) :
    session.turns (commands.map Command.byCode) = (session.turns commands).map Turn.byCode := by
  induction commands generalizing session with
  | nil => rfl
  | cons command rest inductionHypothesis =>
    rw [List.map_cons, turns_cons, turns_cons, List.map_cons, turn_byCode]
    exact congrArg (List.cons _) (inductionHypothesis _)

end Session

end Lexing
