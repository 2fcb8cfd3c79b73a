/-
This file compares the two operations that take one character by a matcher. One tells whether it has
taken it. The other answers the character itself, or a diagnostic in its place, which counts as
false. They take the same character under the same condition and leave the same cursor, and neither
fails where the matcher has an answer.

There is one exception. A diagnostic for which the caller gives no wording describes what was
expected, and not all matchers can be described: an exact code may be above the last code point, a
pattern may fail at being shown, and a function may go by a name that is no text. Where such a
matcher takes nothing, the second operation fails while the first answers.
-/

import Lexing.Proofs.Failed

namespace Lexing

variable {Caller : Type}

/-- Whether an answer counts as true where a truth value is needed. Nothing, zero and the empty text
do not, and a diagnostic never does. -/
def Answer.counts : Answer → Bool
  | done => false
  | truth holds => holds
  | unit found => found.isSome
  | code found => found.getD 0 != 0
  | text content => !content.isEmpty
  | offset position => position != 0
  | diagnostic _ => false

/-! ### Descriptions -/

/-- Whether what a matcher accepts can be put into words. -/
def Matcher.isDescribable : Matcher Caller → Bool
  | exactCode code => code.value < 0x110000
  | exactChar _ _ => true
  | pattern object => (object.source?.getD object.shown).isOk
  | predicate function _ =>
    match function.name? with
    | none | some (.text _) => true
    | some _ => false

theorem CodePoint.ofInt_natCast_fails_iff (number : Nat) :
    (∃ cause, ofInt number = .error cause) ↔ 0x110000 ≤ number := by
  by_cases inside : number < 0x110000
  · have known := ofInt_code ⟨number, inside⟩
    refine ⟨fun ⟨cause, failed⟩ => ?_, fun beyond => by omega⟩
    rw [known] at failed
    cases failed
  · refine ⟨fun _ => by omega, fun _ => ?_⟩
    unfold ofInt
    rw [Int.toNat_natCast, ofNat?, dif_neg inside]
    split
    · exact ⟨_, rfl⟩
    · split <;> exact ⟨_, rfl⟩

theorem Matcher.describe_fails_iff (matcher : Matcher Caller) :
    (∃ cause, matcher.describe = .error cause) ↔ matcher.isDescribable = false := by
  cases matcher with
  | exactCode code =>
    rw [isDescribable, decide_eq_false_iff_not, Nat.not_lt, ← CodePoint.ofInt_natCast_fails_iff]
    refine exists_congr fun cause => ⟨error_of_map, fun failed => ?_⟩
    rw [describe, failed]
    rfl
  | exactChar first rest => simp [describe, isDescribable]
  | pattern object =>
    rw [describe, isDescribable]
    cases object.source?.getD object.shown with
    | error cause => exact ⟨fun _ => rfl, fun _ => ⟨cause, rfl⟩⟩
    | ok shown => exact ⟨nofun, nofun⟩
  | predicate function byCode =>
    rcases named : function.name? with _ | name
    · simp [describe, isDescribable, named]
    · cases name <;> simp [describe, isDescribable, named]

namespace Cursor

/-! ### Accepted characters -/

/-- The next character of the range is accepted. The caller's state before and after comes last. -/
structure Accepts (cursor : Cursor) (spec : Spec Caller) (unit : CodePoint)
    (caller after : Caller) : Prop where
  below : cursor.position < cursor.stop
  read : cursor.text.read cursor.position = .ok unit
  asked : ∃ matcher, spec.toMatcher = .ok matcher ∧ matcher.test [unit] caller = (.ok true, after)

section Accepted

variable {cursor : Cursor} {spec : Spec Caller} {matcher : Matcher Caller} {message : Option Text}
  {unit : CodePoint} {caller after : Caller}

theorem peek_of_read (below : cursor.position < cursor.stop)
    (read : cursor.text.read cursor.position = .ok unit) : cursor.peek = .ok (some unit) := by
  rw [peek, if_pos below, read]
  rfl

theorem Accepts.eat (accepts : cursor.Accepts spec unit caller after) :
    cursor.eat spec caller = (cursor.moveTo (cursor.position + 1) (.ok true), after) := by
  obtain ⟨below, read, matcher, stands, asked⟩ := accepts
  exact eat_of_accepted below stands read asked

theorem Accepts.expect (accepts : cursor.Accepts spec unit caller after) :
    cursor.expect spec message caller =
      (cursor.moveTo (cursor.position + 1) (.ok (.ok unit)), after) := by
  obtain ⟨below, read, matcher, stands, asked⟩ := accepts
  unfold Cursor.expect
  rw [stands, peek_of_read below read]
  simp only [asked]

theorem eat_eq_true_iff : (cursor.eat spec caller).1.result = .ok true ↔
    ∃ unit after, cursor.Accepts spec unit caller after := by
  refine ⟨fun taken => ?_, fun ⟨unit, after, accepts⟩ => by rw [accepts.eat]; rfl⟩
  unfold Cursor.eat at taken
  split at taken
  case isFalse => cases taken
  case isTrue below =>
    split at taken
    · cases taken
    · rename_i matcher stands
      split at taken
      · cases taken
      · rename_i unit read
        split at taken
        · cases taken
        · cases taken
        · rename_i after asked
          exact ⟨unit, after, below, read, matcher, stands, asked⟩

theorem map_unmet_ne_ok (cursor : Cursor) (matcher : Matcher Caller) (found : Option CodePoint) :
    (cursor.unmet matcher found message).map Except.error ≠ .ok (.ok unit) := by
  intro same
  cases made : cursor.unmet matcher found message with
  | error cause => rw [made] at same; cases same
  | ok diagnostic => rw [made] at same; cases same

theorem expect_eq_ok_iff : (cursor.expect spec message caller).1.result = .ok (.ok unit) ↔
    ∃ after, cursor.Accepts spec unit caller after := by
  refine ⟨fun taken => ?_, fun ⟨after, accepts⟩ => by rw [accepts.expect]; rfl⟩
  unfold Cursor.expect at taken
  split at taken
  · cases taken
  · rename_i matcher stands
    split at taken
    · cases taken
    · exact absurd taken (map_unmet_ne_ok cursor matcher none)
    · rename_i other found
      split at taken
      · cases taken
      · exact absurd taken (map_unmet_ne_ok cursor matcher (some other))
      · rename_i after asked
        cases taken
        exact ⟨after, position_lt_of_peek found, read_of_peek found, matcher, stands, asked⟩

/-! ### Refused characters -/

/-- Where the next character is not accepted, a description of what was expected is attempted. -/
theorem expect_of_rejected (below : cursor.position < cursor.stop)
    (stands : spec.toMatcher = .ok matcher) (read : cursor.text.read cursor.position = .ok unit)
    (asked : matcher.test [unit] caller = (.ok false, after)) :
    cursor.expect spec message caller =
      (cursor.stay ((cursor.unmet matcher (some unit) message).map .error), after) := by
  unfold Cursor.expect
  rw [stands, peek_of_read below read]
  simp only [asked]

/-- So it is at the end of the range. -/
theorem expect_of_end (used : ¬ cursor.position < cursor.stop)
    (stands : spec.toMatcher = .ok matcher) :
    cursor.expect spec message caller =
      (cursor.stay ((cursor.unmet matcher none message).map .error), caller) := by
  unfold Cursor.expect
  rw [stands, peek, if_neg used]

theorem unmet_eq_ok {found : Option CodePoint} {diagnostic : Diagnostic}
    (made : cursor.unmet matcher found message = .ok diagnostic) :
    diagnostic.position = cursor.position ∧ diagnostic.source = cursor.text := by
  unfold unmet at made
  cases message with
  | some given => cases made; exact ⟨rfl, rfl⟩
  | none =>
    cases described : matcher.describe with
    | error cause => rw [described] at made; cases made
    | ok description => rw [described] at made; cases made; exact ⟨rfl, rfl⟩

theorem unmet_fails_iff (cursor : Cursor) (matcher : Matcher Caller) (found : Option CodePoint)
    (message : Option Text) : (∃ cause, cursor.unmet matcher found message = .error cause) ↔
      message = none ∧ matcher.isDescribable = false := by
  cases message with
  | some given => simp [unmet]
  | none =>
    rw [← matcher.describe_fails_iff]
    refine ⟨fun ⟨cause, failed⟩ => ⟨rfl, cause, error_of_map failed⟩, fun ⟨_, cause, failed⟩ => ?_⟩
    exact ⟨cause, by rw [unmet, failed]; rfl⟩

end Accepted

/-! ### One character, two answers -/

/-- What expecting a character comes to beside eating it, in the same state. -/
structure Restates (cursor : Cursor) (matcher : Matcher Caller) (message : Option Text)
    (expected eaten : Moved Answer × Caller) : Prop where
  eats : ∃ holds, eaten.1.result = .ok (.truth holds)
  sameCursor : expected.1.cursor = eaten.1.cursor
  sameCaller : expected.2 = eaten.2
  taken : eaten.1.result = .ok (.truth true) →
    ∃ unit, cursor.peek = .ok (some unit) ∧ expected.1.result = .ok (.unit (some unit))
  /-- Otherwise the cursor stays and the answer, if there is one, is a diagnostic. -/
  refused : eaten.1.result = .ok (.truth false) → expected.1.cursor = cursor ∧
    ∀ answer, expected.1.result = .ok answer → ∃ diagnostic, answer = .diagnostic diagnostic ∧
      diagnostic.position = cursor.position ∧ diagnostic.source = cursor.text
  counts : ∀ answer, expected.1.result = .ok answer →
    (answer.counts = true ↔ eaten.1.result = .ok (.truth true))
  /-- What was expected had to be described and cannot be. -/
  fails : (∃ cause, expected.1.result = .error cause) ↔
    eaten.1.result = .ok (.truth false) ∧ message = none ∧ matcher.isDescribable = false

theorem perform_eat (cursor : Cursor) (spec : Spec Caller) (caller : Caller) :
    cursor.perform (.eat spec) caller =
      ((cursor.eat spec caller).1.map .truth, (cursor.eat spec caller).2) := rfl

theorem perform_expect (cursor : Cursor) (spec : Spec Caller) (message : Option Text)
    (caller : Caller) :
    cursor.perform (.expect spec message) caller =
      ((cursor.expect spec message caller).1.map fun
        | .ok unit => .unit (some unit)
        | .error diagnostic => .diagnostic diagnostic,
        (cursor.expect spec message caller).2) := rfl

section Restated

variable {cursor : Cursor} {spec : Spec Caller} {matcher : Matcher Caller} {message : Option Text}
  {unit : CodePoint} {caller after : Caller}

theorem Accepts.restates (accepts : cursor.Accepts spec unit caller after) :
    cursor.Restates matcher message (cursor.perform (.expect spec message) caller)
      (cursor.perform (.eat spec) caller) := by
  have eaten : cursor.perform (.eat spec) caller =
      (cursor.moveTo (cursor.position + 1) (.ok (.truth true)), after) := by
    rw [perform_eat, accepts.eat]
    rfl
  have expected : cursor.perform (.expect spec message) caller =
      (cursor.moveTo (cursor.position + 1) (.ok (.unit (some unit))), after) := by
    rw [perform_expect, accepts.expect]
    rfl
  have found := peek_of_read accepts.below accepts.read
  rw [eaten, expected]
  refine ⟨⟨true, rfl⟩, rfl, rfl, fun _ => ⟨unit, found, rfl⟩, fun same => ?_, fun answer same => ?_,
    fun ⟨_, failed⟩ => ?_, fun ⟨same, _⟩ => ?_⟩
  · cases same
  · cases same
    exact ⟨fun _ => rfl, fun _ => rfl⟩
  · cases failed
  · cases same

theorem restates_of_refused {found : Option CodePoint}
    (refuses : cursor.eat spec caller = (cursor.stay (.ok false), after))
    (reports : cursor.expect spec message caller =
      (cursor.stay ((cursor.unmet matcher found message).map .error), after)) :
    cursor.Restates matcher message (cursor.perform (.expect spec message) caller)
      (cursor.perform (.eat spec) caller) := by
  have eaten : cursor.perform (.eat spec) caller =
      (cursor.stay (.ok (.truth false)), after) := by
    rw [perform_eat, refuses]
    rfl
  have expected : cursor.perform (.expect spec message) caller =
      (cursor.stay ((cursor.unmet matcher found message).map .diagnostic), after) := by
    rw [perform_expect, reports]
    cases cursor.unmet matcher found message <;> rfl
  rw [eaten, expected]
  have fails := unmet_fails_iff cursor matcher found message
  cases made : cursor.unmet matcher found message with
  | error cause =>
    refine ⟨⟨false, rfl⟩, rfl, rfl, fun same => ?_, fun _ => ⟨rfl, fun answer same => ?_⟩,
      fun answer same => ?_, fun _ => ⟨rfl, fails.mp ⟨cause, made⟩⟩, fun _ => ⟨cause, rfl⟩⟩
    · cases same
    · cases same
    · cases same
  | ok diagnostic =>
    refine ⟨⟨false, rfl⟩, rfl, rfl, fun same => ?_, fun _ => ⟨rfl, fun answer same => ?_⟩,
      fun answer same => ?_, fun ⟨cause, failed⟩ => ?_, fun ⟨_, undescribed⟩ => ?_⟩
    · cases same
    · cases same
      exact ⟨diagnostic, rfl, unmet_eq_ok made⟩
    · cases same
      exact ⟨fun counts => (Bool.false_ne_true counts).elim, fun taken => nomatch taken⟩
    · cases failed
    · obtain ⟨cause, failed⟩ := fails.mpr undescribed
      rw [made] at failed
      cases failed

end Restated

/-- Where the text can be read and the matcher has an answer about the next character, eating does
not fail, and expecting answers the character that eating takes or a diagnostic where eating takes
nothing. Both leave the same cursor. Expecting fails only where it has to describe a matcher that
cannot be described. -/
theorem expect_restates_eat {cursor : Cursor}
    (wrapped : -(cursor.text.length : Int) ≤ cursor.position)
    (inside : cursor.stop ≤ cursor.text.length) {spec : Spec Caller} {matcher : Matcher Caller}
    (stands : spec.toMatcher = .ok matcher) {caller : Caller}
    (answers : ∀ unit, cursor.peek = .ok (some unit) →
      ∃ holds, (matcher.test [unit] caller).1 = .ok holds) (message : Option Text) :
    cursor.Restates matcher message (cursor.perform (.expect spec message) caller)
      (cursor.perform (.eat spec) caller) := by
  by_cases below : cursor.position < cursor.stop
  · obtain ⟨unit, read⟩ := Text.readableBetween_of_le wrapped inside cursor.position
      (Int.le_refl _) below
    obtain ⟨holds, answered⟩ := answers unit (peek_of_read below read)
    rcases asked : matcher.test [unit] caller with ⟨result, after⟩
    rw [asked] at answered
    cases answered
    cases holds with
    | true =>
      have accepts : cursor.Accepts spec unit caller after := ⟨below, read, matcher, stands, asked⟩
      exact accepts.restates
    | false =>
      exact restates_of_refused (eat_of_rejected below stands read asked)
        (expect_of_rejected below stands read asked)
  · exact restates_of_refused (eat_of_end below) (expect_of_end below stands)

/-- A text of one letter. -/
def letter : Cursor := ofText "a" .standard 0 0 none

/-- No character has a code above the last code point. With a wording for the diagnostic, expecting
one reports what eating one refuses. -/
theorem expect_restates_eat_beyondUnicode :
    (-(letter.text.length : Int) ≤ letter.position ∧ letter.stop ≤ letter.text.length ∧
      (Spec.code 0x110000 : Spec Unit).toMatcher = .ok (.exactCode (.number 0x110000)) ∧
      ∀ unit, letter.peek = .ok (some unit) →
        ∃ holds, ((Matcher.exactCode (.number 0x110000)).test [unit] ()).1 = .ok holds) ∧
    letter.Restates (.exactCode (.number 0x110000)) (some "no such character")
      (letter.perform (.expect (.code 0x110000) (some "no such character")) ())
      (letter.perform (.eat (.code 0x110000)) ()) := by
  have wrapped : -(letter.text.length : Int) ≤ letter.position := by decide
  have inside : letter.stop ≤ letter.text.length := by decide
  have stands : (Spec.code 0x110000 : Spec Unit).toMatcher =
      .ok (.exactCode (.number 0x110000)) := rfl
  have answers : ∀ unit, letter.peek = .ok (some unit) →
      ∃ holds, ((Matcher.exactCode (.number 0x110000)).test [unit] ()).1 = .ok holds :=
    fun unit _ => ⟨_, rfl⟩
  exact ⟨⟨wrapped, inside, stands, answers⟩,
    expect_restates_eat wrapped inside stands answers (some "no such character")⟩

/-- Without a wording, expecting one fails, although it is an accepted spec and eating one does not
fail. -/
theorem not_restates_beyondUnicode :
    (Spec.code 0x110000 : Spec Unit).toMatcher = .ok (.exactCode (.number 0x110000)) ∧
      (letter.perform (.eat (.code 0x110000)) ()).1.result = .ok (.truth false) ∧
      (letter.perform (.expect (.code 0x110000) none) ()).1.result = .error .codeOutsideUnicode :=
  ⟨rfl, rfl, rfl⟩

end Cursor

end Lexing
