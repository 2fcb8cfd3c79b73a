/-
This file says that what is taken shows in the position. The operations that take characters answer
in their own ways whether they have taken any: by a truth value, by the character, its code or the
text, or by a diagnostic in their place. From a cursor in its range each answers that something has
been taken just if the position has gone on, and otherwise the position is where it was. The code of
a character counts, whichever it is.

So a loop that goes on as long as something is taken comes to an end. The operations may be chosen
anew in every round, by anything that the rounds before have come to. There are no more rounds than
characters left in the range.
-/

import Lexing.Proofs.Longer
import Lexing.Proofs.Reading

namespace Lexing

variable {Caller : Type}

/-- Whether an operation takes characters, and tells by its answer if there were any. -/
def Operation.takes : Operation Caller → Bool
  | next | nextCode | eat _ | eatWhile _ | consume _ | expect _ _ | eatQuoted _ _ => true
  | _ => false

/-- Whether something has been taken, by the answer of an operation that takes characters. -/
def Answer.isTaken : Answer → Bool
  | truth holds => holds
  | unit found => found.isSome
  | code found => found.isSome
  | text content => !content.isEmpty
  | done | offset _ | diagnostic _ => false

/-- Whether a result says that something has been taken. -/
def tookSome : Except Failure Answer → Bool
  | .ok answer => answer.isTaken
  | .error _ => false

namespace Cursor

/-! ### Single operations -/

/-- The result says that something has been taken just if the position has gone on. -/
structure Progress (cursor : Cursor) (moved : Moved Answer) : Prop where
  took_iff : tookSome moved.result = true ↔ cursor.position < moved.cursor.position
  stays : tookSome moved.result = false → moved.cursor.position = cursor.position

section Progress

variable {cursor : Cursor} {moved : Moved Answer}

theorem Progress.of_taken (took : tookSome moved.result = true)
    (further : cursor.position < moved.cursor.position) : cursor.Progress moved :=
  ⟨⟨fun _ => further, fun _ => took⟩, fun nothing => absurd (took.symm.trans nothing) (by decide)⟩

theorem Progress.of_stayed (nothing : tookSome moved.result = false)
    (stays : moved.cursor.position = cursor.position) : cursor.Progress moved :=
  ⟨⟨fun took => absurd (took.symm.trans nothing) (by decide), fun further => by omega⟩,
    fun _ => stays⟩

/-- Taking a character goes on by one, or stays. -/
theorem next_cases (cursor : Cursor) :
    (∃ unit, cursor.next = cursor.moveTo (cursor.position + 1) (.ok (some unit))) ∨
      cursor.next = cursor.stay (.ok none) ∨ ∃ cause, cursor.next = cursor.stay (.error cause) := by
  unfold next
  rcases cursor.peek with cause | _ | unit
  · exact .inr (.inr ⟨cause, rfl⟩)
  · exact .inr (.inl rfl)
  · exact .inl ⟨unit, rfl⟩

theorem next_progress (cursor : Cursor) : cursor.Progress (cursor.next.map .unit) := by
  rcases next_cases cursor with ⟨unit, next⟩ | next | ⟨cause, next⟩ <;> rw [next]
  · exact .of_taken rfl (Int.lt_succ _)
  · exact .of_stayed rfl rfl
  · exact .of_stayed rfl rfl

theorem nextCode_progress (cursor : Cursor) : cursor.Progress (cursor.nextCode.map .code) := by
  unfold nextCode
  rcases next_cases cursor with ⟨unit, next⟩ | next | ⟨cause, next⟩ <;> rw [next]
  · exact .of_taken rfl (Int.lt_succ _)
  · exact .of_stayed rfl rfl
  · exact .of_stayed rfl rfl

theorem eat_progress (cursor : Cursor) (spec : Spec Caller) (caller : Caller) :
    cursor.Progress ((cursor.eat spec caller).1.map .truth) := by
  unfold eat
  split
  case isFalse => exact .of_stayed rfl rfl
  case isTrue =>
    split
    · exact .of_stayed rfl rfl
    · split
      · exact .of_stayed rfl rfl
      · split
        · exact .of_stayed rfl rfl
        · exact .of_stayed rfl rfl
        · exact .of_taken rfl (Int.lt_succ _)

/-- A diagnostic takes nothing, and neither does the failure to make one. -/
theorem unmet_progress (cursor : Cursor) (matcher : Matcher Caller) (found : Option CodePoint)
    (message : Option Text) {change : Except Diagnostic CodePoint → Answer}
    (reports : ∀ diagnostic, (change (.error diagnostic)).isTaken = false) :
    cursor.Progress
      ((cursor.stay ((cursor.unmet matcher found message).map Except.error)).map change) := by
  refine .of_stayed ?_ rfl
  cases cursor.unmet matcher found message with
  | error cause => rfl
  | ok diagnostic => exact reports diagnostic

theorem expect_progress (cursor : Cursor) (spec : Spec Caller) (message : Option Text)
    (caller : Caller) :
    cursor.Progress (cursor.perform (.expect spec message) caller).1 := by
  rw [perform_expect]
  unfold expect
  split
  · exact .of_stayed rfl rfl
  · split
    · exact .of_stayed rfl rfl
    · exact unmet_progress cursor _ _ _ fun _ => rfl
    · split
      · exact .of_stayed rfl rfl
      · exact unmet_progress cursor _ _ _ fun _ => rfl
      · exact .of_taken rfl (Int.lt_succ _)

theorem eatQuoted_progress (bounded : cursor.Bounded) (quote : Glyph) (escape : Option Glyph) :
    cursor.Progress ((cursor.eatQuoted quote escape).map .truth) := by
  unfold eatQuoted
  split
  · exact .of_stayed rfl rfl
  · rename_i mark _
    split
    · exact .of_stayed rfl rfl
    · rename_i given _
      have within := literalEnd_within cursor.text cursor.stop mark
        (given.or cursor.settings.escapeUnit?) cursor.position
      split
      · rename_i reached ending
        rw [ending] at within
        exact .of_taken rfl within.1
      · exact .of_stayed rfl rfl
      · rename_i cause reached ending
        exact .of_stayed rfl (literalEnd_unreadable bounded.stop_le_length ending)

/-- A run of accepted characters is one of some just if its end is further on. -/
theorem eatWhile_progress (placed : cursor.Placed) {spec : Spec Caller}
    (answers : spec.Answers cursor.text) (caller : Caller) :
    cursor.Progress ((cursor.eatWhile spec caller).1.map .truth) := by
  obtain ⟨matcher, stands, answered⟩ := answers
  have result := runEnd_answers answered placed.readable caller
  have le := (runEnd_position matcher cursor.text cursor.stop cursor.position caller).1
  unfold eatWhile
  rw [stands]
  dsimp only
  rw [result]
  rcases Int.lt_or_eq_of_le le with further | same
  · exact .of_taken (bne_iff_ne.mpr (Int.ne_of_gt further)) further
  · exact .of_stayed (bne_eq_false_iff_eq.mpr same.symm) same.symm

theorem consume_progress (placed : cursor.Placed) {spec : Spec Caller}
    (answers : spec.Answers cursor.text) (caller : Caller) :
    cursor.Progress ((cursor.consume spec caller).1.map .text) := by
  obtain ⟨matcher, stands, answered⟩ := answers
  have result := runEnd_answers answered placed.readable caller
  obtain ⟨le, within⟩ := runEnd_position matcher cursor.text cursor.stop cursor.position caller
  rw [Int.max_eq_right placed.position_le_stop] at within
  have length := Text.length_slice placed.nonneg le (Int.le_trans within placed.stop_le_length)
  rw [consume_of_placed placed stands caller]
  dsimp only
  rw [result]
  generalize (matcher.runEnd cursor.text cursor.stop cursor.position caller).position = last at *
  generalize taken : cursor.text.slice (some cursor.position) (some last) = content at *
  rcases Int.lt_or_eq_of_le le with further | same
  · have filled : content ≠ [] := fun empty => by rw [empty, List.length_nil] at length; omega
    exact .of_taken (Bool.not_eq_true' _ ▸ List.isEmpty_eq_false_iff.mpr filled) further
  · have empty : content = [] := List.eq_nil_of_length_eq_zero (by omega)
    exact .of_stayed (by rw [empty]; rfl) same.symm

end Progress

section Taking

variable {cursor : Cursor} {operation : Operation Caller}

/-- An operation that takes characters tells what it has taken. -/
theorem perform_progress (placed : cursor.Placed) (takes : operation.takes = true)
    (accepted : operation.Accepted cursor.text) (caller : Caller) :
    cursor.Progress (cursor.perform operation caller).1 := by
  cases operation with
  | next => exact next_progress cursor
  | nextCode => exact nextCode_progress cursor
  | eat spec => exact eat_progress cursor spec caller
  | eatWhile spec => exact eatWhile_progress placed accepted caller
  | consume spec => exact consume_progress placed accepted caller
  | expect spec message => exact expect_progress cursor spec message caller
  | eatQuoted quote escape => exact eatQuoted_progress placed.toBounded quote escape
  | _ => cases takes

/-- And it leaves the cursor in its range. -/
theorem Placed.perform_takes (placed : cursor.Placed) (takes : operation.takes = true)
    (caller : Caller) : (cursor.perform operation caller).1.cursor.Placed := by
  refine placed.perform (fun count => ?_) caller
  rintro rfl
  cases takes

end Taking

/-! ### Loops -/

/-- A run has no more stages that take something than there are characters left. -/
theorem countP_stages_le {cursor : Cursor} (placed : cursor.Placed)
    {operations : List (Operation Caller)}
    (chosen : ∀ operation ∈ operations, operation.takes = true ∧ operation.Accepted cursor.text)
    (caller : Caller) :
    ((cursor.stages operations caller).countP (tookSome ·.result) : Int) ≤
      cursor.stop - cursor.position := by
  induction operations generalizing cursor caller with
  | nil => exact Int.sub_nonneg_of_le placed.position_le_stop
  | cons operation rest inductionHypothesis =>
    obtain ⟨⟨takes, accepted⟩, later⟩ := List.forall_mem_cons.mp chosen
    have progress := perform_progress placed takes accepted caller
    have same := perform_sameScope cursor operation caller
    rw [← same.text] at later
    have others := inductionHypothesis (placed.perform_takes takes caller) later
      (cursor.stage operation caller).caller
    rw [same.stop] at others
    rw [stages_cons, List.countP_cons]
    change ((List.countP _ ((cursor.perform operation caller).1.cursor.stages rest _) +
      if tookSome (cursor.perform operation caller).1.result = true then 1 else 0 : Nat) : Int) ≤ _
    split
    case isTrue took =>
      have further := progress.took_iff.mp took
      omega
    case isFalse nothing =>
      have stays := progress.stays (Bool.eq_false_iff.mpr nothing)
      omega

/-- The rounds of a loop that performs an operation after the other as long as something is taken.
Which operation is next is chosen by all the stages before. The one that takes nothing ends the loop
and is not among the rounds. -/
inductive Loops (choose : List (Stage Caller) → Operation Caller) :
    List (Stage Caller) → Cursor → Caller → List (Stage Caller) → Prop where
  | done {earlier : List (Stage Caller)} {cursor : Cursor} {caller : Caller}
      (nothing : tookSome (cursor.stage (choose earlier) caller).result = false) :
      Loops choose earlier cursor caller []
  | round {earlier : List (Stage Caller)} {cursor : Cursor} {caller : Caller}
      {rounds : List (Stage Caller)}
      (took : tookSome (cursor.stage (choose earlier) caller).result = true)
      (later : Loops choose (earlier ++ [cursor.stage (choose earlier) caller])
        (cursor.stage (choose earlier) caller).after (cursor.stage (choose earlier) caller).caller
        rounds) :
      Loops choose earlier cursor caller (cursor.stage (choose earlier) caller :: rounds)

section Loops

variable {choose : List (Stage Caller) → Operation Caller} {earlier : List (Stage Caller)}
  {cursor : Cursor} {caller : Caller} {rounds others : List (Stage Caller)}

/-- The rounds of a loop are the stages of the run that performs what the loop has chosen. -/
theorem Loops.eq_stages (loops : Loops choose earlier cursor caller rounds) :
    rounds = cursor.stages (rounds.map Stage.operation) caller := by
  induction loops with
  | done => rfl
  | round took later inductionHypothesis =>
    rw [List.map_cons]
    exact congrArg (List.cons _) inductionHypothesis

theorem Loops.took_of_mem (loops : Loops choose earlier cursor caller rounds) :
    ∀ round ∈ rounds, tookSome round.result = true ∧ ∃ before, round.operation = choose before := by
  induction loops with
  | done => exact List.forall_mem_nil _
  | @round earlier cursor caller rounds took later inductionHypothesis =>
    exact List.forall_mem_cons.mpr ⟨⟨took, earlier, rfl⟩, inductionHypothesis⟩

/-- A loop can run in one way only. -/
theorem Loops.unique (loops : Loops choose earlier cursor caller rounds)
    (again : Loops choose earlier cursor caller others) : others = rounds := by
  induction loops generalizing others with
  | done nothing =>
    cases again with
    | done => rfl
    | round took => exact absurd (took.symm.trans nothing) (by decide)
  | round took later inductionHypothesis =>
    cases again with
    | done nothing => exact absurd (took.symm.trans nothing) (by decide)
    | round _ laterAgain => rw [inductionHypothesis laterAgain]

/-- Every loop comes to an end, as what is left of the range shrinks with each of its rounds. -/
theorem exists_loops (choose : List (Stage Caller) → Operation Caller)
    (earlier : List (Stage Caller)) (cursor : Cursor) (caller : Caller) (placed : cursor.Placed)
    (chosen : ∀ before, (choose before).takes = true ∧ (choose before).Accepted cursor.text) :
    ∃ rounds, Loops choose earlier cursor caller rounds := by
  obtain ⟨takes, accepted⟩ := chosen earlier
  have progress := perform_progress placed takes accepted caller
  cases took : tookSome (cursor.stage (choose earlier) caller).result with
  | false => exact ⟨[], .done took⟩
  | true =>
    have further : cursor.position < (cursor.stage (choose earlier) caller).after.position :=
      progress.took_iff.mp took
    have same : cursor.SameScope (cursor.stage (choose earlier) caller).after :=
      perform_sameScope cursor (choose earlier) caller
    have afterwards : (cursor.stage (choose earlier) caller).after.Placed :=
      placed.perform_takes takes caller
    have within := same.stop ▸ afterwards.position_le_stop
    obtain ⟨rounds, later⟩ := exists_loops choose
      (earlier ++ [cursor.stage (choose earlier) caller])
      (cursor.stage (choose earlier) caller).after (cursor.stage (choose earlier) caller).caller
      afterwards (same.text.symm ▸ chosen)
    exact ⟨_, .round took later⟩
termination_by (cursor.stop - cursor.position).toNat
decreasing_by
  rw [same.stop]
  omega

/-- A loop has no more rounds than characters are left. -/
theorem Loops.length_le (loops : Loops choose earlier cursor caller rounds) (placed : cursor.Placed)
    (chosen : ∀ before, (choose before).takes = true ∧ (choose before).Accepted cursor.text) :
    (rounds.length : Int) ≤ cursor.stop - cursor.position := by
  have took := loops.took_of_mem
  have all : rounds.countP (tookSome ·.result) = rounds.length :=
    List.countP_eq_length.mpr fun round member => (took round member).1
  have operations : ∀ operation ∈ rounds.map Stage.operation,
      operation.takes = true ∧ operation.Accepted cursor.text := by
    refine List.forall_mem_map.mpr fun round member => ?_
    obtain ⟨before, chose⟩ := (took round member).2
    exact chose ▸ chosen before
  have bound := countP_stages_le placed operations caller
  rwa [← loops.eq_stages, all] at bound

end Loops

/-- Success is progress. From a cursor in its range, an operation that takes characters says that it
has taken some just if the position has gone on, never beyond the end, and else the position is as
it was. A loop that goes on as long as something is taken therefore ends, however the operations
are chosen, and has no more rounds than characters are left. -/
theorem taking_progresses {cursor : Cursor} (placed : cursor.Placed) (caller : Caller) :
    (∀ operation : Operation Caller, operation.takes = true → operation.Accepted cursor.text →
      let moved := (cursor.perform operation caller).1
      (tookSome moved.result = true ↔ cursor.position < moved.cursor.position) ∧
        (tookSome moved.result = false → moved.cursor.position = cursor.position) ∧
        moved.cursor.position ≤ cursor.stop) ∧
    ∀ choose : List (Stage Caller) → Operation Caller,
      (∀ before, (choose before).takes = true ∧ (choose before).Accepted cursor.text) →
      ∃ rounds, Loops choose [] cursor caller rounds ∧
        (∀ others, Loops choose [] cursor caller others → others = rounds) ∧
        (rounds.length : Int) ≤ cursor.stop - cursor.position := by
  constructor
  · intro operation takes accepted
    have progress := perform_progress placed takes accepted caller
    have same := perform_sameScope cursor operation caller
    exact ⟨progress.took_iff, progress.stays,
      same.stop ▸ (placed.perform_takes takes caller).position_le_stop⟩
  · intro choose chosen
    obtain ⟨rounds, loops⟩ := exists_loops choose [] cursor caller placed chosen
    exact ⟨rounds, loops, fun _ => loops.unique, loops.length_le placed chosen⟩

/-- A text whose second character has the code 0. -/
def ciphers : Cursor := ofText "a\x00b" .standard 0 0 none

/-- Takes a letter and the code of a character in turn. -/
def byTurns (before : List (Stage Unit)) : Operation Unit :=
  if before.length % 2 = 0 then .eat (.text "a") else .nextCode

/-- The code 0 is no failure: the loop goes on behind it, and ends at the third character, which is
not that letter. -/
theorem taking_progresses_ciphers :
    ciphers.Placed ∧
    (∀ before, (byTurns before).takes = true ∧ (byTurns before).Accepted ciphers.text) ∧
    ∃ rounds, Loops byTurns [] ciphers () rounds ∧
      rounds.map Stage.result = [.ok (.truth true), .ok (.code (some 0))] ∧
      (rounds.length : Int) ≤ ciphers.stop - ciphers.position := by
  have placed : ciphers.Placed := ⟨⟨by decide, by decide, by decide⟩, by decide, by decide⟩
  have chosen (before : List (Stage Unit)) :
      (byTurns before).takes = true ∧ (byTurns before).Accepted ciphers.text := by
    unfold byTurns
    split
    · exact ⟨rfl, _, rfl, fun unit _ caller => ⟨_, rfl⟩⟩
    · exact ⟨rfl, trivial⟩
  obtain ⟨rounds, loops, only, bound⟩ := (taking_progresses placed ()).2 byTurns chosen
  refine ⟨placed, chosen, rounds, loops, ?_, bound⟩
  rw [← only _ (.round rfl (.round rfl (.done rfl)))]
  rfl

end Cursor

end Lexing
