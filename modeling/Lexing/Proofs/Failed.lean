/-
This file says what a failed operation leaves of a cursor. The text, the range and the settings are
kept in any case. Taking a run of characters may break off in the middle, when the matcher fails on
a character. What has been accepted until then is taken, and nothing else. Every other operation
leaves the cursor alone.

A scan that reads as it goes could in principle also fail on a character that cannot be read. It
does so only at its first, because behind a character that can be read all others of the range can.
-/

import Lexing.Proofs.Range

namespace Lexing

variable {Caller : Type}

/-! ### Runs that break off -/

/-- A matcher accepts a number of characters in a row, the first at an offset, asked about one after
the other. The caller's state before and after comes last. -/
inductive Matcher.Accepts (matcher : Matcher Caller) (text : Text) :
    Int → Nat → Caller → Caller → Prop where
  | none (position : Int) (caller : Caller) : matcher.Accepts text position 0 caller caller
  | more {position : Int} {count : Nat} {unit : CodePoint} {caller between after : Caller}
      (read : text.read position = .ok unit)
      (asked : matcher.test [unit] caller = (.ok true, between))
      (rest : matcher.Accepts text (position + 1) count between after) :
      matcher.Accepts text position (count + 1) caller after

/-- A run of characters breaks off for a cause behind a number of accepted ones: the matcher fails
on the next, or the very first cannot be read. -/
inductive Matcher.BreaksOff (matcher : Matcher Caller) (text : Text) (position : Int)
    (caller : Caller) (cause : Failure) : Nat → Caller → Prop where
  | unread (unread : text.read position = .error cause) :
      matcher.BreaksOff text position caller cause 0 caller
  | asked {count : Nat} {unit : CodePoint} {between after : Caller}
      (accepts : matcher.Accepts text position count caller between)
      (read : text.read (position + count) = .ok unit)
      (failed : matcher.test [unit] between = (.error cause, after)) :
      matcher.BreaksOff text position caller cause count after

/-- The same for a spec. If it stands for no matcher, nothing is accepted. -/
inductive Spec.BreaksOff (spec : Spec Caller) (text : Text) (position : Int) (caller : Caller)
    (cause : Failure) : Nat → Caller → Prop where
  | unfit (fails : spec.toMatcher = .error cause) :
      spec.BreaksOff text position caller cause 0 caller
  | asked {matcher : Matcher Caller} {count : Nat} {after : Caller}
      (stands : spec.toMatcher = .ok matcher)
      (breaks : matcher.BreaksOff text position caller cause count after) :
      spec.BreaksOff text position caller cause count after

/-- A run that breaks off behind an accepted character breaks off one later when it is seen from that
character on. -/
theorem Matcher.BreaksOff.more {matcher : Matcher Caller} {text : Text} {position : Int}
    {count : Nat} {unit : CodePoint} {caller between after : Caller} {cause : Failure}
    (read : text.read position = .ok unit)
    (asked : matcher.test [unit] caller = (.ok true, between))
    (readable : ∃ next, text.read (position + 1) = .ok next)
    (breaks : matcher.BreaksOff text (position + 1) between cause count after) :
    matcher.BreaksOff text position caller cause (count + 1) after := by
  cases breaks with
  | unread unread =>
    obtain ⟨next, found⟩ := readable
    rw [found] at unread
    cases unread
  | asked accepts readNext failed =>
    have shift : position + 1 + (count : Int) = position + ((count + 1 : Nat) : Int) := by omega
    rw [shift] at readNext
    exact .asked (.more read asked accepts) readNext failed

/-- A run of accepted characters fails by breaking off, and ends where it does. -/
theorem Matcher.breaksOff_of_runEnd {matcher : Matcher Caller} {text : Text} {stop position : Int}
    {caller : Caller} {cause : Failure} (inside : stop ≤ text.length)
    (failed : (matcher.runEnd text stop position caller).result = .error cause) :
    ∃ count : Nat, (matcher.runEnd text stop position caller).position = position + count ∧
      position + count < stop ∧
      matcher.BreaksOff text position caller cause count
        (matcher.runEnd text stop position caller).caller := by
  fun_induction Matcher.runEnd matcher text stop position caller with
  | case1 position caller below other unread =>
    cases failed
    exact ⟨0, (Int.add_zero _).symm, by omega, .unread unread⟩
  | case2 position caller below unit read other after asked =>
    cases failed
    refine ⟨0, (Int.add_zero _).symm, by omega, .asked (.none position caller) ?_ asked⟩
    rwa [Int.natCast_zero, Int.add_zero]
  | case3 => cases failed
  | case4 position caller below unit read after asked inductionHypothesis =>
    obtain ⟨count, reached, short, breaks⟩ := inductionHypothesis failed
    have readable := Text.readableBetween_of_read read inside (position + 1) (by omega) (by omega)
    exact ⟨count + 1, by omega, by omega, breaks.more read asked readable⟩
  | case5 => cases failed

/-! ### Failing in place -/

/-- If the operation failed, it has left the cursor as it was. -/
def Moved.FailsInPlace {Result : Type} (moved : Moved Result) (cursor : Cursor) : Prop :=
  ∀ cause, moved.result = .error cause → moved.cursor = cursor

theorem error_of_map {Result Other : Type} {result : Except Failure Result}
    {change : Result → Other} {cause : Failure} (failed : result.map change = .error cause) :
    result = .error cause := by
  cases result with
  | error other =>
    cases failed
    rfl
  | ok answer => cases failed

theorem Moved.FailsInPlace.map {Result Other : Type} {moved : Moved Result} {cursor : Cursor}
    (inPlace : moved.FailsInPlace cursor) (change : Result → Other) :
    (moved.map change).FailsInPlace cursor :=
  fun cause failed => inPlace cause (error_of_map failed)

namespace Cursor

theorem failsInPlace_stay {Result : Type} (cursor : Cursor) (result : Except Failure Result) :
    (cursor.stay result).FailsInPlace cursor := fun _ _ => rfl

theorem failsInPlace_ok {Result : Type} (cursor after : Cursor) (answer : Result)
    (notices : List Notice) : (Moved.mk (.ok answer) after notices).FailsInPlace cursor := by
  intro cause failed
  cases failed

section Failed

variable (cursor : Cursor)

theorem next_failsInPlace : cursor.next.FailsInPlace cursor := by
  unfold next
  split
  · exact failsInPlace_ok cursor _ _ _
  · exact failsInPlace_stay cursor _

theorem backUp_failsInPlace (count : Int) : (cursor.backUp count).FailsInPlace cursor := by
  unfold backUp
  dsimp only
  split
  · exact fun _ _ => rfl
  · exact failsInPlace_ok cursor _ _ _

theorem save_failsInPlace (offset : Option Int) : (cursor.save offset).FailsInPlace cursor := by
  unfold save
  dsimp only
  split
  · exact fun _ _ => rfl
  · exact failsInPlace_ok cursor _ _ _

theorem skipTo_failsInPlace (needle : Glyph) : (cursor.skipTo needle).FailsInPlace cursor := by
  unfold skipTo
  split
  · exact failsInPlace_stay cursor _
  · split
    · exact failsInPlace_ok cursor _ _ _
    · exact failsInPlace_stay cursor _

theorem eat_failsInPlace (spec : Spec Caller) (caller : Caller) :
    (cursor.eat spec caller).1.FailsInPlace cursor := by
  unfold eat
  split
  case isFalse => exact failsInPlace_stay cursor _
  case isTrue =>
    split
    · exact failsInPlace_stay cursor _
    · split
      · exact failsInPlace_stay cursor _
      · split
        · exact failsInPlace_stay cursor _
        · exact failsInPlace_stay cursor _
        · exact failsInPlace_ok cursor _ _ _

theorem expect_failsInPlace (spec : Spec Caller) (message : Option Text) (caller : Caller) :
    (cursor.expect spec message caller).1.FailsInPlace cursor := by
  unfold expect
  split
  · exact failsInPlace_stay cursor _
  · split
    · exact failsInPlace_stay cursor _
    · exact failsInPlace_stay cursor _
    · split
      · exact failsInPlace_stay cursor _
      · exact failsInPlace_stay cursor _
      · exact failsInPlace_ok cursor _ _ _

/-! ### Scans that read as they go -/

/-- The scan of a literal does not fail where its range can be read. -/
theorem literalEnd_ne_unreadable {text : Text} {stop position : Int}
    (readable : text.ReadableBetween position stop) (quote : CodePoint)
    (escape : Option CodePoint) (cause : Failure) (reached : Int) :
    text.literalEnd stop quote escape position ≠ .unreadable cause reached := by
  fun_induction Text.literalEnd text stop quote escape position with
  | case1 position below other unread =>
    obtain ⟨unit, found⟩ := readable position (Int.le_refl _) below
    rw [found] at unread
    cases unread
  | case2 position below unit read escaped inductionHypothesis =>
    exact inductionHypothesis (readable.later (by omega))
  | case3 => exact LiteralEnd.noConfusion
  | case4 position below unit read plain other inductionHypothesis =>
    exact inductionHypothesis (readable.later (by omega))
  | case5 => exact LiteralEnd.noConfusion

/-- If the scan of a literal fails, then on the first character. -/
theorem literalEnd_unreadable {text : Text} {stop position reached : Int} {quote : CodePoint}
    {escape : Option CodePoint} {cause : Failure} (inside : stop ≤ text.length)
    (failed : text.literalEnd stop quote escape position = .unreadable cause reached) :
    reached = position := by
  by_cases below : position < stop
  · cases read : text.read position with
    | error other =>
      rw [Text.literalEnd_of_unreadable below read] at failed
      cases failed
      rfl
    | ok unit =>
      have readable := Text.readableBetween_of_read read inside
      exact absurd failed (literalEnd_ne_unreadable readable quote escape cause reached)
  · rw [Text.literalEnd_of_end below] at failed
    cases failed

theorem eatQuoted_failsInPlace (bounded : cursor.Bounded) (quote : Glyph)
    (escape : Option Glyph) : (cursor.eatQuoted quote escape).FailsInPlace cursor := by
  unfold eatQuoted
  split
  · exact failsInPlace_stay cursor _
  · split
    · exact failsInPlace_stay cursor _
    · split
      · exact failsInPlace_ok cursor _ _ _
      · exact failsInPlace_ok cursor _ _ _
      · rename_i cause reached ending
        rw [literalEnd_unreadable bounded.stop_le_length ending]
        exact fun _ _ => rfl

/-- Taking a character answers what looking at it answers. -/
theorem next_result : cursor.next.result = cursor.peek := by
  unfold next
  split
  · rename_i found
    exact found.symm
  · rfl

variable {cursor} in
theorem read_of_peek {unit : CodePoint} (found : cursor.peek = .ok (some unit)) :
    cursor.text.read cursor.position = .ok unit := by
  unfold peek at found
  rw [if_pos (position_lt_of_peek found)] at found
  cases read : cursor.text.read cursor.position with
  | error cause =>
    rw [read] at found
    cases found
  | ok known =>
    rw [read] at found
    cases found
    rfl

variable {cursor} in
theorem peek_ne_error (readable : cursor.text.ReadableBetween cursor.position cursor.stop)
    (cause : Failure) : cursor.peek ≠ .error cause := by
  unfold peek
  split
  case isTrue below =>
    obtain ⟨unit, read⟩ := readable cursor.position (Int.le_refl _) below
    rw [read]
    exact fun failed => by cases failed
  case isFalse => exact fun failed => by cases failed

/-- Taking all that is left does not fail where the range can be read. -/
theorem drain_ne_error (readable : cursor.text.ReadableBetween cursor.position cursor.stop)
    (cause : Failure) : cursor.drain.result ≠ .error cause := by
  fun_induction drain cursor with
  | case1 cursor unit taken rest inductionHypothesis =>
    have moved := (next_result_some taken).2
    rw [moved] at inductionHypothesis
    have later := inductionHypothesis (readable.later (Int.le_of_lt (Int.lt_succ _)))
    rw [← moved] at later
    exact fun failed => later (error_of_map failed)
  | case2 cursor used =>
    intro failed
    have impossible := error_of_map failed
    rw [used] at impossible
    cases impossible
  | case3 cursor other unread =>
    rw [next_result] at unread
    exact absurd unread (peek_ne_error readable other)

theorem drain_failsInPlace (bounded : cursor.Bounded) : cursor.drain.FailsInPlace cursor := by
  intro cause failed
  cases taken : cursor.next.result with
  | error other =>
    rw [drain_of_error taken]
    exact next_failsInPlace cursor other taken
  | ok found =>
    cases found with
    | none =>
      rw [drain_of_none taken] at failed
      rw [error_of_map failed] at taken
      cases taken
    | some unit =>
      rw [next_result] at taken
      have readable := Text.readableBetween_of_read (read_of_peek taken) bounded.stop_le_length
      exact absurd failed (drain_ne_error cursor readable cause)

end Failed

/-! ### Runs of characters -/

section Runs

variable {cursor : Cursor} {spec : Spec Caller} {caller : Caller} {cause : Failure}

/-- What is left of a run of characters that broke off. -/
theorem eatWhile_failed (bounded : cursor.Bounded)
    (failed : (cursor.eatWhile spec caller).1.result = .error cause) :
    ∃ count : Nat,
      spec.BreaksOff cursor.text cursor.position caller cause count
        (cursor.eatWhile spec caller).2 ∧
      (cursor.eatWhile spec caller).1.cursor =
        { cursor with position := cursor.position + count } := by
  unfold eatWhile at failed ⊢
  cases stands : spec.toMatcher with
  | error other =>
    rw [stands] at failed
    cases failed
    refine ⟨0, .unfit stands, ?_⟩
    rw [Int.natCast_zero, Int.add_zero]
    rfl
  | ok matcher =>
    rw [stands] at failed
    obtain ⟨count, reached, _, breaks⟩ :=
      Matcher.breaksOff_of_runEnd bounded.stop_le_length (error_of_map failed)
    refine ⟨count, .asked stands breaks, ?_⟩
    show { cursor with position := _ } = _
    rw [reached]

end Runs

end Cursor

/-- Whether an operation takes a run of characters by asking a matcher. -/
def Operation.takesRun : Operation Caller → Bool
  | eatWhile _ | consume _ => true
  | _ => false

/-- What an operation that failed for a cause has left of a cursor and of the caller's state. -/
def Operation.Leaves (operation : Operation Caller) (cursor : Cursor) (caller : Caller)
    (cause : Failure) (left : Cursor) (after : Caller) : Prop :=
  match operation with
  | eatWhile spec =>
    ∃ count : Nat, spec.BreaksOff cursor.text cursor.position caller cause count after ∧
      left = { cursor with position := cursor.position + count }
  | consume spec =>
    ((cursor.save none).result = .error cause ∧ left = cursor) ∨
      ∃ count : Nat, spec.BreaksOff cursor.text cursor.position caller cause count after ∧
        left = { cursor with
          start := min cursor.position cursor.stop
          position := cursor.position + count }
  | _ => left = cursor

namespace Cursor

theorem consume_failed {cursor : Cursor} {spec : Spec Caller} {caller : Caller} {cause : Failure}
    (bounded : cursor.Bounded) (failed : (cursor.consume spec caller).1.result = .error cause) :
    (Operation.consume spec).Leaves cursor caller cause (cursor.consume spec caller).1.cursor
      (cursor.consume spec caller).2 := by
  by_cases allowed : cursor.settings.checksBounds = true →
      cursor.lower ≤ cursor.position ∧ cursor.position ≤ cursor.stop
  · have marked : (cursor.markAt cursor.position).Bounded := ⟨bounded.1, bounded.2, bounded.3⟩
    rw [consume_of_allowed spec caller allowed] at failed ⊢
    exact .inr (eatWhile_failed marked (error_of_map failed))
  · obtain ⟨checked, outside⟩ := Classical.not_imp.mp allowed
    have refused : cursor.save none = _ := save_of_refused checked outside
    rw [consume_of_refused spec caller checked outside] at failed ⊢
    refine .inl ⟨?_, rfl⟩
    rw [refused]
    cases failed
    rfl

/-- Every operation but those that take runs of characters fails in place. -/
theorem perform_failsInPlace {cursor : Cursor} (bounded : cursor.Bounded)
    {operation : Operation Caller} (single : operation.takesRun = false) (caller : Caller) :
    (cursor.perform operation caller).1.FailsInPlace cursor := by
  cases operation with
  | next => exact (next_failsInPlace cursor).map _
  | nextCode => exact ((next_failsInPlace cursor).map _).map _
  | drain => exact (drain_failsInPlace cursor bounded).map _
  | backUp count => exact (backUp_failsInPlace cursor count).map _
  | save offset => exact (save_failsInPlace cursor offset).map _
  | skipTo needle => exact (skipTo_failsInPlace cursor needle).map _
  | eat spec => exact (eat_failsInPlace cursor spec caller).map _
  | expect spec message => exact (expect_failsInPlace cursor spec message caller).map _
  | eatQuoted quote escape => exact (eatQuoted_failsInPlace cursor bounded quote escape).map _
  | eatWhile | consume => cases single
  | _ => exact failsInPlace_stay cursor _

/-- An operation that fails keeps the text, the range and the settings of a cursor whose range lies in
its text, wherever the position and the mark are. One that takes a run of characters has taken those
that were accepted before the failure, and marked the position first if it does so at all. Every
other has left the cursor as it was. -/
theorem perform_failed {cursor : Cursor} (bounded : cursor.Bounded) {operation : Operation Caller}
    {caller : Caller} {cause : Failure}
    (failed : (cursor.perform operation caller).1.result = .error cause) :
    cursor.SameScope (cursor.perform operation caller).1.cursor ∧
      operation.Leaves cursor caller cause (cursor.perform operation caller).1.cursor
        (cursor.perform operation caller).2 := by
  have nonneg := Int.le_trans bounded.lower_nonneg bounded.lower_le_stop
  refine ⟨(perform_moves cursor nonneg operation caller).sameScope, ?_⟩
  cases operation with
  | eatWhile spec => exact eatWhile_failed bounded (error_of_map failed)
  | consume spec => exact consume_failed bounded (error_of_map failed)
  | _ => exact perform_failsInPlace bounded rfl caller cause failed

/-- A predicate that counts how often it is asked and fails on the digit one. -/
def countingLetters : Object Nat where
  kind := "function"
  shown := .ok "<function>"
  identity := .unique 0
  call? := some fun argument count =>
    (if argument = .text "1" then .error (.raised "digit") else .ok (.flag true), count + 1)

/-- A cursor that has gone back before the text, and so reads its end before its beginning. -/
def wrapped : Cursor := ⟨"1ab", -2, 7, 1, 3, .standard⟩

/-- Two letters are taken across the end of the text before the third call fails. -/
theorem perform_failed_wrapped :
    wrapped.Bounded ∧
      (wrapped.perform (.consume (.object countingLetters)) 0).1.result =
        .error (.raised "digit") ∧
      (Operation.consume (.object countingLetters)).Leaves wrapped 0 (.raised "digit")
        { wrapped with start := -2, position := 0 } 3 := by
  have bounded : wrapped.Bounded := ⟨by decide, by decide, by decide⟩
  have stands : (Spec.object countingLetters).toMatcher =
      .ok (.predicate countingLetters false) := rfl
  have scan : (Matcher.predicate countingLetters false).runEnd "1ab" 3 (-2) 0 =
      ⟨.error (.raised "digit"), 0, 3⟩ :=
    calc
      _ = (Matcher.predicate countingLetters false).runEnd "1ab" 3 (-1) 1 :=
        Matcher.runEnd_of_accepted (by decide)
          (show Text.read "1ab" (-2) = .ok (.ofChar 'a') from rfl) rfl
      _ = (Matcher.predicate countingLetters false).runEnd "1ab" 3 0 2 :=
        Matcher.runEnd_of_accepted (by decide)
          (show Text.read "1ab" (-1) = .ok (.ofChar 'b') from rfl) rfl
      _ = _ :=
        Matcher.runEnd_of_failed (by decide) (show Text.read "1ab" 0 = .ok (.ofChar '1') from rfl)
          rfl
  have eaten : eatWhile ⟨"1ab", -2, -2, 1, 3, .standard⟩ (.object countingLetters) 0 =
      (⟨.error (.raised "digit"), { wrapped with start := -2, position := 0 }, []⟩, 3) := by
    unfold eatWhile
    rw [stands]
    dsimp only
    rw [scan]
    rfl
  have left : wrapped.perform (.consume (.object countingLetters)) 0 =
      (⟨.error (.raised "digit"), { wrapped with start := -2, position := 0 }, []⟩, 3) := by
    have marked : wrapped.markAt wrapped.position = ⟨"1ab", -2, -2, 1, 3, .standard⟩ := rfl
    unfold perform
    dsimp only
    rw [consume_of_allowed _ _ fun checked => absurd checked (by decide), marked, eaten]
    rfl
  have failed : (wrapped.perform (.consume (.object countingLetters)) 0).1.result =
      .error (.raised "digit") := by rw [left]
  have leaves := (perform_failed bounded failed).2
  rw [left] at leaves
  exact ⟨bounded, failed, leaves⟩

end Cursor

end Lexing
