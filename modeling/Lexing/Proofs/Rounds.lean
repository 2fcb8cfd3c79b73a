/-
This file proves that reading in rounds loses nothing. A round takes one token: it marks the
position, scans, goes back at most to the mark, scans again and asks for the current text; or it
takes a run of accepted characters at once. Whatever the rounds find, or fail to find, each answers
the text from where it began to where it ended, and so all of them together answer what lies between
the first position and the last.
-/

import Lexing.Proofs.Range

namespace Lexing

variable {Caller : Type}

/-! ### Rounds -/

/-- Whether an operation sets the mark. -/
def Operation.marks : Operation Caller → Bool
  | save _ | consume _ => true
  | _ => false

/-- What takes one token. -/
inductive Round (Caller : Type) where
  | scan (operations : List (Operation Caller))
      (unmarked : ∀ operation ∈ operations, operation.marks = false)
  | take (spec : Spec Caller)

def Round.operations : Round Caller → List (Operation Caller)
  | scan operations _ => .save none :: (operations ++ [.current])
  | take spec => [.consume spec]

/-- The spec stands for a matcher that has an answer about every character of a text. -/
def Spec.Answers (spec : Spec Caller) (text : Text) : Prop :=
  ∃ matcher, spec.toMatcher = .ok matcher ∧
    ∀ unit ∈ text, ∀ caller, ∃ holds, (matcher.test [unit] caller).1 = .ok holds

/-- Whether a round may ask for an operation: it goes back at most to the mark, and has the
characters that it takes told apart by a matcher that answers. -/
def Operation.Admissible (before : Cursor) : Operation Caller → Prop
  | backUp count => 0 ≤ count ∧ count ≤ before.position - before.start
  | consume spec => spec.Answers before.text
  | _ => True

/-- One round of a run, with the cursor and the caller's state that it begins with. -/
structure Cut (Caller : Type) where
  before : Cursor
  round : Round Caller
  caller : Caller

def Cut.finished (cut : Cut Caller) : Cursor.Finished Caller :=
  cut.before.run cut.round.operations cut.caller

/-- The text that a round answers last. -/
def Cut.text? (cut : Cut Caller) : Option Text :=
  match cut.finished.results.getLast? with
  | some (.ok (.text content)) => some content
  | _ => none

namespace Cursor

/-- The rounds of a run, in order. -/
def cuts (cursor : Cursor) : List (Round Caller) → Caller → List (Cut Caller)
  | [], _ => []
  | round :: rest, caller =>
    let finished := cursor.run round.operations caller
    ⟨cursor, round, caller⟩ :: finished.cursor.cuts rest finished.caller

section Rounds

variable {cursor : Cursor}

/-! ### One round -/

/-- The current text is what lies between the mark and the position. -/
theorem current_eq_slice (nonneg : 0 ≤ cursor.start) (ordered : cursor.start ≤ cursor.position) :
    cursor.current = cursor.text.slice (some cursor.start) (some cursor.position) := by
  unfold current
  split
  case isTrue behind =>
    rw [Int.le_antisymm ordered behind, Text.slice_self _ (Int.le_trans nonneg ordered)]
  case isFalse before => rw [Int.max_eq_left nonneg]

/-- As long as nothing is marked and no move back goes before the mark, a run that begins at the
mark stays behind it. -/
theorem course_forward (placed : cursor.Placed) (marked : cursor.start = cursor.position)
    {operations : List (Operation Caller)} {caller : Caller}
    (unmarked : ∀ operation ∈ operations, operation.marks = false)
    (admissible : ∀ stage ∈ cursor.stages operations caller,
      stage.operation.Admissible stage.before) :
    ∀ reached ∈ cursor.course operations caller, cursor.Forward reached := by
  refine course_preserves (Forward.refl cursor) fun stage member forward => ?_
  have moves := moves_of_mem_stages placed.toBounded member
  have plain := unmarked _ (mem_stages member).2.1
  have allowed := admissible stage member
  generalize stage.operation = operation at moves plain allowed
  generalize stage.after = after at moves
  cases moves with
  | refused => exact forward
  | scanned scans later => exact forward.trans later
  | backedUp =>
    obtain ⟨nonneg, enough⟩ := allowed
    have start := forward.start
    have bound := forward.le_max
    exact ⟨⟨forward.text, forward.lower, forward.stop, forward.settings⟩, forward.start,
      show cursor.position ≤ stage.before.position - _ by omega,
      show stage.before.position - _ ≤ max cursor.position cursor.stop by omega⟩
  | marked => cases plain
  | consumed => cases plain

/-- A matcher that answers about every character does not fail on a run of them. -/
theorem runEnd_answers {matcher : Matcher Caller} {text : Text} {stop position : Int}
    (answers : ∀ unit ∈ text, ∀ caller, ∃ holds, (matcher.test [unit] caller).1 = .ok holds)
    (readable : text.ReadableBetween position stop) (caller : Caller) :
    (matcher.runEnd text stop position caller).result = .ok () := by
  fun_induction Matcher.runEnd matcher text stop position caller with
  | case1 position caller below cause unread =>
    obtain ⟨unit, read⟩ := readable position (Int.le_refl _) below
    rw [read] at unread
    cases unread
  | case2 position caller below unit read cause after asked =>
    obtain ⟨holds, answered⟩ := answers unit (Text.mem_of_read read) caller
    rw [asked] at answered
    cases answered
  | case3 => rfl
  | case4 position caller below unit read after asked inductionHypothesis =>
    exact inductionHypothesis (readable.later (by omega))
  | case5 => rfl

theorem consume_answers (placed : cursor.Placed) {spec : Spec Caller}
    (answers : spec.Answers cursor.text) (caller : Caller) :
    (cursor.consume spec caller).1.result =
      .ok (cursor.consume spec caller).1.cursor.current := by
  obtain ⟨matcher, stands, answered⟩ := answers
  have run := runEnd_answers answered placed.readable caller
  rw [consume_of_allowed spec caller placed.allowed, eatWhile, stands]
  show Except.map _ (Except.map _ (matcher.runEnd cursor.text cursor.stop cursor.position
    caller).result) = _
  rw [run]
  rfl

/-- A round that scans comes to what its operations come to from the mark, and the current text. -/
theorem run_scan (placed : cursor.Placed) (operations : List (Operation Caller))
    (unmarked : ∀ operation ∈ operations, operation.marks = false) (caller : Caller) :
    cursor.run (Round.scan operations unmarked).operations caller =
      let inner := (cursor.markAt cursor.position).run operations caller
      ⟨.ok (.offset cursor.position) :: (inner.results ++ [.ok (.text inner.cursor.current)]),
        inner.cursor, inner.notices, inner.caller⟩ := by
  have saved : cursor.save none = _ := save_of_allowed placed.allowed
  have performed : cursor.perform (.save none) caller =
      (⟨.ok (.offset cursor.position), cursor.markAt cursor.position, []⟩, caller) := by
    have offset : min cursor.position cursor.stop = cursor.position := placed.start_marked
    have mapped := congrArg (fun moved => (moved.map Answer.offset, caller)) saved
    dsimp only [Option.getD_none] at mapped
    rw [offset] at mapped
    exact mapped
  rw [Round.operations, run]
  dsimp only
  rw [performed, run_append]
  show Finished.mk _ _ ([] ++ (_ ++ [])) _ = _
  rw [List.nil_append, List.append_nil]
  rfl

/-- A round goes forward from where it begins, marks that offset and answers the text from there. -/
theorem round_answers (placed : cursor.Placed) (round : Round Caller) (caller : Caller)
    (admissible : ∀ stage ∈ cursor.stages round.operations caller,
      stage.operation.Admissible stage.before) :
    (cursor.markAt cursor.position).Forward (cursor.run round.operations caller).cursor ∧
      (Cut.mk cursor round caller).text? =
        some (cursor.run round.operations caller).cursor.current := by
  cases round with
  | scan operations unmarked =>
    have whole := run_scan placed operations unmarked caller
    have begun : (cursor.stage (.save none) caller).after = cursor.markAt cursor.position :=
      congrArg Moved.cursor (save_of_allowed placed.allowed)
    rw [Round.operations, stages_cons, stages_append, begun] at admissible
    have inner := (List.forall_mem_append.mp (List.forall_mem_cons.mp admissible).2).1
    refine ⟨?_, ?_⟩
    · rw [whole]
      exact course_forward placed.marked.toPlaced placed.start_marked unmarked inner _
        (run_cursor_mem_course _ _ _)
    · unfold Cut.text? Cut.finished
      dsimp only
      rw [whole]
      dsimp only
      rw [← List.cons_append, List.getLast?_concat]
  | take spec =>
    have answers : spec.Answers cursor.text := admissible _ List.mem_cons_self
    have answered := consume_answers placed answers caller
    refine ⟨?_, ?_⟩
    · show (cursor.markAt cursor.position).Forward (cursor.consume spec caller).1.cursor
      rw [consume_of_allowed spec caller placed.allowed]
      exact eatWhile_forward _ spec caller
    · show (match [Except.map Answer.text (cursor.consume spec caller).1.result].getLast? with
        | some (.ok (.text content)) => some content
        | _ => none) = some (cursor.consume spec caller).1.cursor.current
      rw [answered]
      rfl

/-- What a round answers is the text from where it begins to where it ends. -/
theorem round_reads (placed : cursor.Placed) (round : Round Caller) (caller : Caller)
    (admissible : ∀ stage ∈ cursor.stages round.operations caller,
      stage.operation.Admissible stage.before) :
    (Cut.mk cursor round caller).text? = some (cursor.text.slice (some cursor.position)
        (some (cursor.run round.operations caller).cursor.position)) ∧
      cursor.position ≤ (cursor.run round.operations caller).cursor.position := by
  obtain ⟨forward, answered⟩ := round_answers placed round caller admissible
  have start := forward.start
  rw [placed.start_marked] at start
  have ordered : cursor.position ≤ (cursor.run round.operations caller).cursor.position :=
    forward.le
  have current := current_eq_slice (start ▸ placed.nonneg) (start ▸ ordered)
  rw [start, forward.text] at current
  exact ⟨answered.trans (congrArg some current), ordered⟩

/-! ### Runs of rounds -/

/-- From a cursor in its range, rounds that go back at most to their marks, and take runs only by
matchers that answer, lose nothing: each answers the text from where it began to where it ended, and
together they answer the text from the first position to the last. -/
theorem flatten_cuts {cursor : Cursor} (placed : cursor.Placed) (rounds : List (Round Caller))
    (caller : Caller)
    (admissible : ∀ stage ∈ cursor.stages (rounds.flatMap Round.operations) caller,
      stage.operation.Admissible stage.before) :
    (∀ cut ∈ cursor.cuts rounds caller,
      cut.text? = some (cursor.text.slice (some cut.before.position)
        (some cut.finished.cursor.position)) ∧
      cut.before.position ≤ cut.finished.cursor.position ∧
      cut.finished.cursor.position ≤ cursor.stop) ∧
    cursor.position ≤ (cursor.run (rounds.flatMap Round.operations) caller).cursor.position ∧
    ((cursor.cuts rounds caller).filterMap Cut.text?).flatten =
      cursor.text.slice (some cursor.position)
        (some (cursor.run (rounds.flatMap Round.operations) caller).cursor.position) := by
  induction rounds generalizing cursor caller with
  | nil => exact ⟨List.forall_mem_nil _, Int.le_refl _, (Text.slice_self _ placed.nonneg).symm⟩
  | cons round rest inductionHypothesis =>
    rw [List.flatMap_cons, stages_append] at admissible
    obtain ⟨first, later⟩ := List.forall_mem_append.mp admissible
    have forward := (round_answers placed round caller first).1
    obtain ⟨text, ordered⟩ := round_reads placed round caller first
    obtain ⟨each, further, joined⟩ :=
      inductionHypothesis (placed.marked.toPlaced.of_forward forward) _ later
    have sameText : (cursor.run round.operations caller).cursor.text = cursor.text := forward.text
    have sameStop : (cursor.run round.operations caller).cursor.stop = cursor.stop := forward.stop
    rw [sameText, sameStop] at each
    rw [sameText] at joined
    rw [List.flatMap_cons, run_append]
    refine ⟨List.forall_mem_cons.mpr ⟨⟨text, ordered, placed.marked.forward_le_stop forward⟩, each⟩,
      Int.le_trans ordered further, ?_⟩
    show ((Cut.mk cursor round caller :: _).filterMap Cut.text?).flatten = _
    rw [List.filterMap_cons_some text, List.flatten_cons, joined]
    exact Text.slice_append_slice cursor.text placed.nonneg ordered further

end Rounds

/-- A word, blanks and a literal that is never closed. -/
def sentence : Cursor := ofText "let  'x" .standard 0 0 none

/-- Rounds that take one character too many and give it back, take blanks, and look in vain for the
end of the literal. -/
def sentenceRounds : List (Round Unit) :=
  [.scan [.next, .next, .next, .next, .backUp 1] (by decide), .take (.text " "),
    .scan [.next, .eatQuoted (.text "'") none, .skipTo (.text ";"), .next] (by decide)]

/-- The rounds of the sentence lose nothing of what they read. -/
theorem flatten_cuts_sentence :
    sentence.Placed ∧
    (∀ stage ∈ sentence.stages (sentenceRounds.flatMap Round.operations) (),
      stage.operation.Admissible stage.before) ∧
    ((sentence.cuts sentenceRounds ()).filterMap Cut.text?).flatten =
      sentence.text.slice (some 0)
        (some (sentence.run (sentenceRounds.flatMap Round.operations) ()).cursor.position) := by
  have placed : sentence.Placed :=
    ⟨⟨by decide, by decide, by decide⟩, by decide, by decide⟩
  have blank : (Spec.text " " : Spec Unit).Answers sentence.text :=
    ⟨_, rfl, fun unit _ caller => ⟨_, rfl⟩⟩
  have admissible : ∀ stage ∈ sentence.stages (sentenceRounds.flatMap Round.operations) (),
      stage.operation.Admissible stage.before := by
    simp only [sentenceRounds, List.flatMap_cons, List.flatMap_nil, Round.operations,
      List.cons_append, List.nil_append, stages_cons, stages_nil, List.forall_mem_cons]
    exact ⟨trivial, trivial, trivial, trivial, trivial, And.intro (by decide) (by decide), trivial,
      blank, trivial, trivial, trivial, trivial, trivial, trivial, List.forall_mem_nil _⟩
  exact ⟨placed, admissible, (flatten_cuts placed sentenceRounds () admissible).2.2⟩

end Cursor

end Lexing
