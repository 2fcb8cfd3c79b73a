/-
This file proves that the cursors of a session do not disturb each other. Take the commands about
one cursor out of a run, and carry them out without the others: each of them comes to the same, and
leaves the cursor as it did in the run. So it makes no difference how the commands about several
cursors are interleaved, whether the cursors are sub-views of each other, of the same cursor or of
none.

All that cursors share is the state of the caller, which matchers are asked with. The matchers here
are steady: they say the same of a character whenever they are asked. They may still keep count of
the questions, and may fail on a character, if they always do.
-/

import Lexing.Proofs.Motion
import Lexing.Proofs.Turn

namespace Lexing

variable {Caller : Type}

/-! ### Steady matchers -/

/-- A matcher says of every character the same whatever the state of the caller is. -/
def Matcher.IsSteady (matcher : Matcher Caller) : Prop :=
  ∃ answer : CodePoint → Except Failure Bool,
    ∀ unit caller, (matcher.test [unit] caller).1 = answer unit

/-- If the spec stands for a matcher, then for a steady one. -/
def Spec.IsSteady (spec : Spec Caller) : Prop :=
  ∀ matcher, spec.toMatcher = .ok matcher → matcher.IsSteady

/-- The matchers that an operation asks are steady. -/
def Operation.IsSteady : Operation Caller → Prop
  | eat spec | eatWhile spec | consume spec | expect spec _ => spec.IsSteady
  | _ => True

def Command.IsSteady : Command Caller → Prop
  | operate _ operation => operation.IsSteady
  | _ => True

section Steady

variable {matcher : Matcher Caller} {answer : CodePoint → Except Failure Bool}

theorem Matcher.test_of_steady
    (steady : ∀ unit caller, (matcher.test [unit] caller).1 = answer unit) (unit : CodePoint)
    (caller : Caller) :
    matcher.test [unit] caller = (answer unit, (matcher.test [unit] caller).2) :=
  Prod.ext (steady unit caller) rfl

theorem Matcher.runEnd_of_steady
    (steady : ∀ unit caller, (matcher.test [unit] caller).1 = answer unit) (text : Text)
    (stop position : Int) (caller other : Caller) :
    (matcher.runEnd text stop position caller).result =
        (matcher.runEnd text stop position other).result ∧
      (matcher.runEnd text stop position caller).position =
        (matcher.runEnd text stop position other).position := by
  fun_induction Matcher.runEnd matcher text stop position caller generalizing other with
  | case1 position caller below cause unread =>
    rw [Matcher.runEnd_of_unreadable below unread]
    exact ⟨rfl, rfl⟩
  | case2 position caller below unit read cause after asked =>
    have again := Matcher.test_of_steady steady unit other
    rw [← steady unit caller, asked] at again
    rw [Matcher.runEnd_of_failed below read again]
    exact ⟨rfl, rfl⟩
  | case3 position caller below unit read after asked =>
    have again := Matcher.test_of_steady steady unit other
    rw [← steady unit caller, asked] at again
    rw [Matcher.runEnd_of_rejected below read again]
    exact ⟨rfl, rfl⟩
  | case4 position caller below unit read after asked inductionHypothesis =>
    have again := Matcher.test_of_steady steady unit other
    rw [← steady unit caller, asked] at again
    rw [Matcher.runEnd_of_accepted below read again]
    exact inductionHypothesis _
  | case5 position caller used =>
    rw [Matcher.runEnd_of_end used]
    exact ⟨rfl, rfl⟩

end Steady

namespace Cursor

section Steady

variable {spec : Spec Caller}

theorem eat_of_steady (steady : spec.IsSteady) (cursor : Cursor) (caller other : Caller) :
    (cursor.eat spec caller).1 = (cursor.eat spec other).1 := by
  unfold eat
  split
  case isFalse => rfl
  case isTrue =>
    cases stands : spec.toMatcher with
    | error cause => rfl
    | ok matcher =>
      obtain ⟨answer, same⟩ := steady matcher stands
      cases cursor.text.read cursor.position with
      | error cause => rfl
      | ok unit =>
        dsimp only
        rw [Matcher.test_of_steady same unit caller, Matcher.test_of_steady same unit other]
        rcases answer unit with cause | _ | _ <;> rfl

theorem eatWhile_of_steady (steady : spec.IsSteady) (cursor : Cursor) (caller other : Caller) :
    (cursor.eatWhile spec caller).1 = (cursor.eatWhile spec other).1 := by
  unfold eatWhile
  cases stands : spec.toMatcher with
  | error cause => rfl
  | ok matcher =>
    obtain ⟨answer, same⟩ := steady matcher stands
    obtain ⟨result, position⟩ := Matcher.runEnd_of_steady same cursor.text cursor.stop
      cursor.position caller other
    dsimp only
    rw [result, position]

theorem consume_of_steady (steady : spec.IsSteady) (cursor : Cursor) (caller other : Caller) :
    (cursor.consume spec caller).1 = (cursor.consume spec other).1 := by
  unfold consume
  dsimp only
  split
  · rfl
  · rw [eatWhile_of_steady steady _ caller other]

theorem expect_of_steady (steady : spec.IsSteady) (message : Option Text) (cursor : Cursor)
    (caller other : Caller) :
    (cursor.expect spec message caller).1 = (cursor.expect spec message other).1 := by
  unfold expect
  cases stands : spec.toMatcher with
  | error cause => rfl
  | ok matcher =>
    obtain ⟨answer, same⟩ := steady matcher stands
    rcases cursor.peek with cause | _ | unit
    · rfl
    · rfl
    · dsimp only
      rw [Matcher.test_of_steady same unit caller, Matcher.test_of_steady same unit other]
      rcases answer unit with cause | _ | _ <;> rfl

/-- Asked with steady matchers an operation comes to the same whatever the state of the caller is. -/
theorem perform_of_steady {operation : Operation Caller} (steady : operation.IsSteady)
    (cursor : Cursor) (caller other : Caller) :
    (cursor.perform operation caller).1 = (cursor.perform operation other).1 := by
  cases operation with
  | eat spec => exact congrArg (Moved.map _) (eat_of_steady steady cursor caller other)
  | eatWhile spec => exact congrArg (Moved.map _) (eatWhile_of_steady steady cursor caller other)
  | consume spec => exact congrArg (Moved.map _) (consume_of_steady steady cursor caller other)
  | expect spec message =>
    exact congrArg (Moved.map _) (expect_of_steady steady message cursor caller other)
  | _ => rfl

end Steady

end Cursor

/-! ### Commands about one cursor -/

/-- Whether a command is about the cursor with a number. -/
def Command.targets (number : Nat) : Command Caller → Bool
  | operate target _ | limit target _ _ | assign target _ _ => target == number
  | _ => false

/-- What a command gives to the one who is in charge of a cursor: an answer, or a cursor. Which
number a new cursor gets depends on how many there are, and is left out. -/
inductive Yield where
  | reply (reply : Reply)
  | made (cursor : Option Cursor)

/-- What can be seen of a command by looking at one cursor alone. -/
structure Glimpse where
  yield : Except Failure Yield
  cursor : Option Cursor

def Turn.yield (turn : Turn Caller) : Except Failure Yield :=
  turn.result.map fun
    | .cursor number => .made turn.after.cursors[number]?
    | other => .reply other

def Turn.glimpse (number : Nat) (turn : Turn Caller) : Glimpse :=
  ⟨turn.yield, turn.after.cursors[number]?⟩

namespace Session

section Commands

variable {session : Session Caller} {number : Nat} {cursor : Cursor}

theorem getElem?_concat (found : session.cursors[number]? = some cursor) (made : Cursor) :
    (session.cursors ++ [made])[number]? = some cursor := by
  rw [List.getElem?_append_left (List.getElem?_eq_some_iff.mp found).1, found]

/-- Commands about other cursors, and those about none, leave a cursor alone. -/
theorem getElem?_perform_other (found : session.cursors[number]? = some cursor)
    {command : Command Caller} (other : command.targets number = false) :
    (session.perform command).2.cursors[number]? = some cursor := by
  cases command with
  | create text start lower stop => exact getElem?_concat found _
  | limit parent lower upper =>
    cases origin : session.cursors[parent]? with
    | none => rwa [perform_limit_of_none origin]
    | some known =>
      rw [perform_limit_of_some origin]
      exact getElem?_concat found _
  | operate target operation =>
    cases there : session.cursors[target]? with
    | none => rwa [perform_operate_of_none there]
    | some known =>
      rw [perform_operate_of_some there]
      exact (List.getElem?_set_ne (beq_eq_false_iff_ne.mp other)).trans found
  | assign target offset value =>
    cases there : session.cursors[target]? with
    | none => rwa [perform_assign_of_none there]
    | some known =>
      rw [perform_assign_of_some there]
      exact (List.getElem?_set_ne (beq_eq_false_iff_ne.mp other)).trans found
  | configure draft =>
    unfold perform
    dsimp only
    split <;> exact found
  | transcript handler =>
    unfold perform
    dsimp only
    split <;> exact found
  | _ => exact found

/-- A command about a cursor comes to what the cursor alone determines. -/
theorem glimpse_turn_congr {bare : Session Caller}
    (here : session.cursors[number]? = some cursor) (there : bare.cursors[number]? = some cursor)
    {command : Command Caller} (about : command.targets number = true)
    (steady : command.IsSteady) :
    (session.turn command).glimpse number = (bare.turn command).glimpse number := by
  cases command with
  | limit parent lower upper =>
    cases eq_of_beq about
    unfold turn Turn.glimpse Turn.yield
    rw [perform_limit_of_some here, perform_limit_of_some there]
    show Glimpse.mk (.ok (.made (session.cursors ++ [_])[session.cursors.length]?))
        (session.cursors ++ [_])[number]? =
      Glimpse.mk (.ok (.made (bare.cursors ++ [_])[bare.cursors.length]?))
        (bare.cursors ++ [_])[number]?
    rw [List.getElem?_concat_length, List.getElem?_concat_length, getElem?_concat here,
      getElem?_concat there]
  | operate target operation =>
    cases eq_of_beq about
    unfold turn Turn.glimpse Turn.yield
    rw [perform_operate_of_some here, perform_operate_of_some there]
    dsimp only
    rw [List.getElem?_set_self (List.getElem?_eq_some_iff.mp here).1,
      List.getElem?_set_self (List.getElem?_eq_some_iff.mp there).1,
      cursor.perform_of_steady steady session.caller bare.caller]
    cases (cursor.perform operation bare.caller).1.result <;> rfl
  | assign target offset value =>
    cases eq_of_beq about
    unfold turn Turn.glimpse Turn.yield
    rw [perform_assign_of_some here, perform_assign_of_some there]
    dsimp only
    rw [List.getElem?_set_self (List.getElem?_eq_some_iff.mp here).1,
      List.getElem?_set_self (List.getElem?_eq_some_iff.mp there).1]
    rfl
  | _ => cases about

/-- A command about a cursor leaves the cursor with the text and the settings that it has. -/
theorem source_turn_target (found : session.cursors[number]? = some cursor)
    {command : Command Caller} (about : command.targets number = true) :
    ∃ after, (session.turn command).after.cursors[number]? = some after ∧
      after.text = cursor.text ∧ after.settings = cursor.settings := by
  have inside := (List.getElem?_eq_some_iff.mp found).1
  unfold turn
  cases command with
  | limit parent lower upper =>
    cases eq_of_beq about
    rw [perform_limit_of_some found]
    exact ⟨cursor, getElem?_concat found _, rfl, rfl⟩
  | operate target operation =>
    cases eq_of_beq about
    have same := cursor.perform_sameScope operation session.caller
    rw [perform_operate_of_some found]
    exact ⟨_, List.getElem?_set_self inside, same.text, same.settings⟩
  | assign target offset value =>
    cases eq_of_beq about
    rw [perform_assign_of_some found]
    refine ⟨_, List.getElem?_set_self inside, ?_⟩
    cases offset <;> exact ⟨rfl, rfl⟩
  | _ => cases about

/-- A sub-view is made from the text and the settings of its parent. -/
theorem yield_limit (found : session.cursors[number]? = some cursor) (lower upper : Int) :
    (session.turn (.limit number lower upper)).yield =
      .ok (.made (some (.ofText cursor.text cursor.settings lower lower (some upper)))) := by
  unfold turn Turn.yield
  rw [perform_limit_of_some found]
  show Except.ok (Yield.made (session.cursors ++ [_])[session.cursors.length]?) = _
  rw [List.getElem?_concat_length]
  rfl

end Commands

/-! ### Interleaved commands -/

/-- In a run of commands, about any cursors in any order, those about one cursor come to what they
come to alone, in any session that has the cursor: they give the same and fail in the same way, the
cursor stands at the same place after each of them and in the end, and the sub-views made from it are
those of its text and its settings, whatever moved the cursor before. -/
theorem turns_interleaved {session bare : Session Caller} {number : Nat} {cursor : Cursor}
    (here : session.cursors[number]? = some cursor) (there : bare.cursors[number]? = some cursor)
    (commands : List (Command Caller)) (steady : ∀ command ∈ commands, command.IsSteady) :
    ((session.turns commands).filter (·.command.targets number)).map (Turn.glimpse number) =
        (bare.turns (commands.filter (·.targets number))).map (Turn.glimpse number) ∧
      (session.afterAll commands).cursors[number]? =
        (bare.afterAll (commands.filter (·.targets number))).cursors[number]? ∧
      ∀ turn ∈ session.turns commands, ∀ lower upper, turn.command = .limit number lower upper →
        turn.yield =
          .ok (.made (some (.ofText cursor.text cursor.settings lower lower (some upper)))) := by
  induction commands generalizing session bare cursor with
  | nil => exact ⟨rfl, here.trans there.symm, fun turn listed => absurd listed List.not_mem_nil⟩
  | cons command rest inductionHypothesis =>
    obtain ⟨first, later⟩ := List.forall_mem_cons.mp steady
    rw [turns_cons]
    cases about : command.targets number with
    | false =>
      have kept : (session.turn command).after.cursors[number]? = some cursor :=
        getElem?_perform_other here about
      obtain ⟨glimpses, last, views⟩ := inductionHypothesis kept there later
      have others : ¬ command.targets number = true := by
        rw [about]
        exact Bool.false_ne_true
      rw [List.filter_cons, command_turn, if_neg others, List.filter_cons, if_neg others]
      refine ⟨glimpses, last, List.forall_mem_cons.mpr ⟨fun lower upper asked => ?_, views⟩⟩
      cases (show command = .limit number lower upper from asked)
      exact absurd about (by simp [Command.targets])
    | true =>
      obtain ⟨after, left, text, settings⟩ := source_turn_target here about
      have same := glimpse_turn_congr here there about first
      have leaves : (bare.turn command).after.cursors[number]? = some after :=
        (congrArg Glimpse.cursor same).symm.trans left
      obtain ⟨glimpses, last, views⟩ := inductionHypothesis left leaves later
      rw [text, settings] at views
      rw [List.filter_cons, command_turn, if_pos about, List.filter_cons, if_pos about, turns_cons,
        List.map_cons, List.map_cons, same, glimpses]
      refine ⟨rfl, last, List.forall_mem_cons.mpr ⟨fun lower upper asked => ?_, views⟩⟩
      cases (show command = .limit number lower upper from asked)
      exact yield_limit here lower upper

/-- A predicate that counts how often it is asked and accepts all but quotes. -/
def countingOutside : Object Nat where
  kind := "function"
  shown := .ok "<function>"
  identity := .unique 0
  call? := some fun argument count => (.ok (.flag (argument != .text "'")), count + 1)

def quotation : Cursor := .ofText "ab'c'd" .standard 0 0 none

/-- A session with a cursor and a sub-view of it, and one with the cursor alone. -/
def together : Session Nat := ⟨[quotation, quotation.subView 3 5], .standard, .empty, 0⟩

def alone : Session Nat := ⟨[quotation], .standard, .empty, 7⟩

/-- Commands about both cursors, some of which fail. -/
def woven : List (Command Nat) :=
  [.operate 0 .next, .operate 1 (.eatQuoted (.text "'") none), .limit 0 1 3,
    .operate 1 (.backUp 20), .operate 0 (.eat (.text "")), .operate 1 .peek,
    .operate 1 (.save (some 9)), .operate 0 (.consume (.object countingOutside)), .limit 1 0 9,
    .operate 0 .nextCode]

/-- Those about the first. -/
def unwoven : List (Command Nat) :=
  [.operate 0 .next, .limit 0 1 3, .operate 0 (.eat (.text "")),
    .operate 0 (.consume (.object countingOutside)), .operate 0 .nextCode]

theorem turns_interleaved_woven :
    together.cursors[0]? = some quotation ∧ alone.cursors[0]? = some quotation ∧
      (∀ command ∈ woven, command.IsSteady) ∧
      ((together.turns woven).filter (·.command.targets 0)).map (Turn.glimpse 0) =
        (alone.turns unwoven).map (Turn.glimpse 0) ∧
      (together.afterAll woven).cursors[0]? = (alone.afterAll unwoven).cursors[0]? := by
  have letters : (Spec.object countingOutside).IsSteady := by
    rintro matcher stands
    cases stands
    exact ⟨fun unit => .ok (Argument.text [unit] != .text "'"), fun unit count => rfl⟩
  have nothing : (Spec.text "" : Spec Nat).IsSteady := by
    rintro matcher stands
    cases stands
  have steady : ∀ command ∈ woven, command.IsSteady := by
    simp only [woven, List.forall_mem_cons]
    exact ⟨trivial, trivial, trivial, trivial, nothing, trivial, trivial, letters, trivial, trivial,
      List.forall_mem_nil _⟩
  have here : together.cursors[0]? = some quotation := rfl
  have there : alone.cursors[0]? = some quotation := rfl
  obtain ⟨glimpses, last, _⟩ := turns_interleaved here there woven steady
  have own : woven.filter (·.targets 0) = unwoven := rfl
  rw [own] at glimpses last
  exact ⟨here, there, steady, glimpses, last⟩

end Session

end Lexing
