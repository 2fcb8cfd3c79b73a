/-
This file compares a cursor with one at the same place whose range goes on further. Whatever the
shorter range has room for is found in the same way in the longer one, because no scan looks behind
the place where it succeeds. The converse holds of what ends inside the shorter range. A needle, or
an escape with its character, that goes across the end of the shorter range is what only the longer
one has room for. A run of accepted characters goes on in the longer range where it has used up the
shorter one, and ends in the same place otherwise.
-/

import Lexing.Proofs.Rounds
import Lexing.Proofs.Search
import Lexing.Proofs.SubView
import Lexing.Proofs.Taking

namespace Lexing

variable {Caller : Type}

/-! ### Scans that go on -/

/-- The end of a literal is the same for all ranges that reach it. -/
theorem Text.literalEnd_eq_closed_iff {text : Text} {stop further position reached : Int}
    {quote : CodePoint} {escape : Option CodePoint} (le : stop ≤ further) :
    text.literalEnd stop quote escape position = .closed reached ↔
      text.literalEnd further quote escape position = .closed reached ∧ reached ≤ stop := by
  fun_induction Text.literalEnd text stop quote escape position with
  | case1 position below cause unread =>
    rw [literalEnd_of_unreadable (Int.lt_of_lt_of_le below le) unread]
    refine ⟨fun same => ?_, fun same => ?_⟩
    · cases same
    · cases same.1
  | case2 position below unit read escaped inductionHypothesis =>
    rw [literalEnd_of_escape (Int.lt_of_lt_of_le below le) read escaped]
    exact inductionHypothesis
  | case3 position below read plain =>
    rw [literalEnd_of_quote (Int.lt_of_lt_of_le below le) read plain]
    refine ⟨fun same => ⟨same, ?_⟩, And.left⟩
    cases same
    omega
  | case4 position below unit read plain other inductionHypothesis =>
    rw [literalEnd_of_other (Int.lt_of_lt_of_le below le) read plain other]
    exact inductionHypothesis
  | case5 position used =>
    refine ⟨fun same => ?_, fun same => ?_⟩
    · cases same
    · obtain ⟨closed, inside⟩ := same
      have within := Cursor.literalEnd_within text further quote escape position
      rw [closed] at within
      exact absurd (Int.lt_of_lt_of_le within.1 inside) used

/-- The first occurrence is the same for all ranges that it fits into. -/
theorem Text.find?_further {text needle : Text} (nonempty : needle ≠ []) {first : Int}
    {stop further offset : Nat} (le : stop ≤ further) (inside : further ≤ text.length) :
    text.find? needle first stop = some offset ↔
      text.find? needle first further = some offset ∧ offset + needle.length ≤ stop := by
  simp only [find?_eq_some_iff nonempty, bound_natCast]
  rw [Nat.min_eq_left (Nat.le_trans le inside), Nat.min_eq_left inside]
  refine ⟨fun ⟨occurs, least⟩ => ⟨⟨?_, fun index other => ?_⟩, occurs.fits⟩,
    fun ⟨⟨occurs, least⟩, fits⟩ => ⟨⟨occurs.le, fits, occurs.here⟩, fun index other => ?_⟩⟩
  · exact ⟨occurs.le, Nat.le_trans occurs.fits le, occurs.here⟩
  · -- an earlier occurrence would end before this one, and so in the shorter range
    by_contra before
    have fits := occurs.fits
    exact before (least ⟨other.le, by omega, other.here⟩)
  · exact least ⟨other.le, Nat.le_trans other.fits le, other.here⟩

/-- A run of accepted characters that has not used up its range is that of every longer range, and
one that has goes on there. -/
theorem Matcher.runEnd_further (matcher : Matcher Caller) (text : Text)
    {stop further : Int} (le : stop ≤ further) (position : Int) (caller : Caller) :
    matcher.runEnd text further position caller =
      let short := matcher.runEnd text stop position caller
      if short.position < stop then short
      else matcher.runEnd text further short.position short.caller := by
  fun_induction Matcher.runEnd matcher text stop position caller with
  | case1 position caller below cause unread =>
    rw [runEnd_of_unreadable (Int.lt_of_lt_of_le below le) unread]
    exact (if_pos below).symm
  | case2 position caller below unit read cause after asked =>
    rw [runEnd_of_failed (Int.lt_of_lt_of_le below le) read asked]
    exact (if_pos below).symm
  | case3 position caller below unit read after asked =>
    rw [runEnd_of_rejected (Int.lt_of_lt_of_le below le) read asked]
    exact (if_pos below).symm
  | case4 position caller below unit read after asked inductionHypothesis =>
    rw [runEnd_of_accepted (Int.lt_of_lt_of_le below le) read asked]
    exact inductionHypothesis
  | case5 position caller used => exact (if_neg used).symm

/-- A run that uses up its range does not fail. -/
theorem Matcher.runEnd_of_used {matcher : Matcher Caller} {text : Text} {stop position : Int}
    {caller : Caller} (used : ¬ (matcher.runEnd text stop position caller).position < stop) :
    (matcher.runEnd text stop position caller).result = .ok () := by
  fun_induction Matcher.runEnd matcher text stop position caller with
  | case1 position caller below | case2 position caller below => exact absurd below used
  | case3 => rfl
  | case4 position caller below unit read after asked inductionHypothesis =>
    exact inductionHypothesis used
  | case5 => rfl

namespace Cursor

/-! ### Longer ranges -/

/-- The second cursor stands at the same place as the first, and its range ends no earlier. The
marks may differ. -/
structure Extends (short long : Cursor) : Prop where
  text : long.text = short.text
  settings : long.settings = short.settings
  lower : long.lower = short.lower
  position : long.position = short.position
  stop_le : short.stop ≤ long.stop

/-- A range that lies in the text is that of its sub-view. -/
theorem subView_range (parent : Cursor) {first last : Int} (nonneg : 0 ≤ first)
    (ordered : first ≤ last) (inside : last ≤ parent.text.length) :
    (parent.subView first last).lower = first ∧ (parent.subView first last).stop = last := by
  show max 0 (min first (max 0 (min last (parent.text.length : Int)))) = first ∧
    max 0 (min last (parent.text.length : Int)) = last
  omega

/-- What succeeds in the shorter range with a result and a position is what does so in the longer
one and fits into the shorter. -/
def Agrees {Result : Type} (short long : Moved Result) (succeeds : Result → Prop)
    (fits : Int → Prop) : Prop :=
  ∀ found reached, succeeds found →
    (short.result = .ok found ∧ short.cursor.position = reached ↔
      (long.result = .ok found ∧ long.cursor.position = reached) ∧ fits reached)

section Longer

variable {short long : Cursor}

theorem Extends.placed (extended : short.Extends long) (placed : short.Placed)
    (inside : long.stop ≤ long.text.length) : long.Placed := by
  obtain ⟨⟨nonneg, ordered, _⟩, above, below⟩ := placed
  obtain ⟨text, _, lower, position, le⟩ := extended
  exact ⟨⟨by omega, by omega, inside⟩, by omega, by omega⟩

/-! ### One character -/

theorem Extends.accepts_iff (extended : short.Extends long) {spec : Spec Caller}
    {unit : CodePoint} {caller after : Caller} :
    short.Accepts spec unit caller after ↔
      long.Accepts spec unit caller after ∧ long.position + 1 ≤ short.stop := by
  obtain ⟨text, _, _, position, le⟩ := extended
  refine ⟨fun ⟨below, read, asked⟩ => ⟨⟨by omega, ?_, asked⟩, by omega⟩,
    fun ⟨⟨_, read, asked⟩, inside⟩ => ⟨by omega, ?_, asked⟩⟩
  · rw [text, position]
    exact read
  · rw [text, position] at read
    exact read

theorem eat_taken_iff {cursor : Cursor} {spec : Spec Caller} {caller : Caller} {reached : Int} :
    (cursor.eat spec caller).1.result = .ok true ∧
        (cursor.eat spec caller).1.cursor.position = reached ↔
      ∃ unit after, cursor.Accepts spec unit caller after ∧ cursor.position + 1 = reached := by
  rw [eat_eq_true_iff]
  refine ⟨fun ⟨⟨unit, after, accepts⟩, same⟩ => ⟨unit, after, accepts, ?_⟩,
    fun ⟨unit, after, accepts, same⟩ => ⟨⟨unit, after, accepts⟩, ?_⟩⟩
  · rwa [accepts.eat] at same
  · rwa [accepts.eat]

theorem expect_taken_iff {cursor : Cursor} {spec : Spec Caller} {message : Option Text}
    {caller : Caller} {unit : CodePoint} {reached : Int} :
    (cursor.expect spec message caller).1.result = .ok (.ok unit) ∧
        (cursor.expect spec message caller).1.cursor.position = reached ↔
      ∃ after, cursor.Accepts spec unit caller after ∧ cursor.position + 1 = reached := by
  rw [expect_eq_ok_iff]
  refine ⟨fun ⟨⟨after, accepts⟩, same⟩ => ⟨after, accepts, ?_⟩,
    fun ⟨after, accepts, same⟩ => ⟨⟨after, accepts⟩, ?_⟩⟩
  · rwa [accepts.expect] at same
  · rwa [accepts.expect]

theorem Extends.eat_agrees (extended : short.Extends long) (spec : Spec Caller)
    (caller : Caller) :
    Agrees (short.eat spec caller).1 (long.eat spec caller).1 (· = true) (· ≤ short.stop) := by
  rintro _ reached rfl
  rw [eat_taken_iff, eat_taken_iff, ← extended.position]
  simp only [extended.accepts_iff]
  refine ⟨fun ⟨unit, after, ⟨accepts, inside⟩, same⟩ => ⟨⟨unit, after, accepts, same⟩, ?_⟩,
    fun ⟨⟨unit, after, accepts, same⟩, inside⟩ => ⟨unit, after, ⟨accepts, ?_⟩, same⟩⟩
  · rwa [← same]
  · rwa [same]

theorem Extends.expect_agrees (extended : short.Extends long) (spec : Spec Caller)
    (message : Option Text) (caller : Caller) :
    Agrees (short.expect spec message caller).1 (long.expect spec message caller).1
      (fun found => ∃ unit, found = .ok unit) (· ≤ short.stop) := by
  rintro _ reached ⟨unit, rfl⟩
  rw [expect_taken_iff, expect_taken_iff, ← extended.position]
  simp only [extended.accepts_iff]
  refine ⟨fun ⟨after, ⟨accepts, inside⟩, same⟩ => ⟨⟨after, accepts, same⟩, ?_⟩,
    fun ⟨⟨after, accepts, same⟩, inside⟩ => ⟨after, ⟨accepts, ?_⟩, same⟩⟩
  · rwa [← same]
  · rwa [same]

/-! ### Searches and literals -/

theorem skipTo_found_iff {cursor : Cursor} {needle : Glyph} {content : Text} {reached : Int}
    (wanted : needle.toNeedle = .ok content) :
    (cursor.skipTo needle).result = .ok true ∧
        (cursor.skipTo needle).cursor.position = reached ↔
      ∃ offset : Nat, cursor.text.find? content cursor.position cursor.stop = some offset ∧
        (offset : Int) = reached := by
  unfold skipTo
  rw [wanted]
  dsimp only
  cases cursor.text.find? content cursor.position cursor.stop with
  | none => exact ⟨fun same => (nomatch same.1), fun ⟨_, same, _⟩ => (nomatch same)⟩
  | some offset =>
    refine ⟨fun same => ⟨offset, rfl, same.2⟩, fun ⟨other, same, there⟩ => ⟨rfl, ?_⟩⟩
    cases same
    exact there

theorem eatQuoted_closed_iff {cursor : Cursor} {quote : Glyph} {escape : Option Glyph}
    {reached : Int} :
    (cursor.eatQuoted quote escape).result = .ok true ∧
        (cursor.eatQuoted quote escape).cursor.position = reached ↔
      ∃ mark given, quote.toUnit = .ok mark ∧ escape.mapM Glyph.toUnit = .ok given ∧
        cursor.text.literalEnd cursor.stop mark (given.or cursor.settings.escapeUnit?)
          cursor.position = .closed reached := by
  unfold eatQuoted
  cases quote.toUnit with
  | error cause => exact ⟨fun same => (nomatch same.1), fun ⟨_, _, same, _⟩ => (nomatch same)⟩
  | ok mark =>
    cases escape.mapM Glyph.toUnit with
    | error cause => exact ⟨fun same => (nomatch same.1), fun ⟨_, _, _, same, _⟩ => (nomatch same)⟩
    | ok given =>
      dsimp only
      cases ending : cursor.text.literalEnd cursor.stop mark
          (given.or cursor.settings.escapeUnit?) cursor.position with
      | closed position =>
        refine ⟨fun same => ⟨mark, given, rfl, rfl, ?_⟩, fun ⟨_, _, here, there, closed⟩ => ?_⟩
        · rw [ending]
          exact congrArg LiteralEnd.closed same.2
        · cases here
          cases there
          rw [ending] at closed
          cases closed
          exact ⟨rfl, rfl⟩
      | unterminated | unreadable =>
        refine ⟨fun same => (nomatch same.1), fun ⟨_, _, here, there, closed⟩ => ?_⟩
        cases here
        cases there
        rw [ending] at closed
        cases closed

theorem Extends.skipTo_agrees (extended : short.Extends long) (placed : short.Placed)
    (inside : long.stop ≤ long.text.length) {needle : Glyph} {content : Text}
    (wanted : needle.toNeedle = .ok content) :
    Agrees (short.skipTo needle) (long.skipTo needle) (· = true)
      (fun reached => reached + content.length ≤ short.stop) := by
  rintro _ reached rfl
  have least := placed.stop_nonneg
  obtain ⟨stop, ends⟩ := Int.eq_ofNat_of_zero_le least
  obtain ⟨further, endsLater⟩ := Int.eq_ofNat_of_zero_le (Int.le_trans least extended.stop_le)
  have le := extended.stop_le
  rw [extended.text] at inside
  have agreed (offset : Nat) : short.text.find? content short.position stop = some offset ↔
      short.text.find? content short.position further = some offset ∧
        offset + content.length ≤ stop :=
    Text.find?_further (toNeedle_ne_nil wanted) (by omega) (by omega)
  rw [skipTo_found_iff wanted, skipTo_found_iff wanted, extended.text, extended.position, ends,
    endsLater]
  simp only [agreed]
  refine ⟨fun ⟨offset, ⟨found, fits⟩, same⟩ => ⟨⟨offset, found, same⟩, ?_⟩,
    fun ⟨⟨offset, found, same⟩, fits⟩ => ⟨offset, ⟨found, ?_⟩, same⟩⟩
  · omega
  · omega

theorem Extends.eatQuoted_agrees (extended : short.Extends long) (quote : Glyph)
    (escape : Option Glyph) :
    Agrees (short.eatQuoted quote escape) (long.eatQuoted quote escape) (· = true)
      (· ≤ short.stop) := by
  rintro _ reached rfl
  rw [eatQuoted_closed_iff, eatQuoted_closed_iff, extended.text, extended.position,
    extended.settings]
  simp only [Text.literalEnd_eq_closed_iff extended.stop_le]
  refine ⟨fun ⟨mark, given, quoted, escaped, closed, inside⟩ =>
      ⟨⟨mark, given, quoted, escaped, closed⟩, inside⟩,
    fun ⟨⟨mark, given, quoted, escaped, closed⟩, inside⟩ =>
      ⟨mark, given, quoted, escaped, closed, inside⟩⟩

/-! ### Runs -/

/-- Taking a run from inside the range marks where the run begins and answers its text. -/
theorem consume_of_placed {cursor : Cursor} (placed : cursor.Placed) {spec : Spec Caller}
    {matcher : Matcher Caller} (stands : spec.toMatcher = .ok matcher) (caller : Caller) :
    cursor.consume spec caller =
      let run := matcher.runEnd cursor.text cursor.stop cursor.position caller
      (⟨run.result.map fun _ =>
          cursor.text.slice (some cursor.position) (some run.position),
        { cursor with start := cursor.position, position := run.position }, []⟩, run.caller) := by
  have start := placed.start_marked
  have mark : cursor.markAt cursor.position = { cursor with start := cursor.position } :=
    congrArg (fun start => { cursor with start }) start
  have le := (runEnd_position matcher cursor.text cursor.stop cursor.position caller).1
  rw [consume_of_allowed spec caller placed.allowed, mark, eatWhile, stands]
  dsimp only [moveTo]
  generalize matcher.runEnd cursor.text cursor.stop cursor.position caller = run at le
  rw [current_eq_slice placed.nonneg le]
  cases run.result with
  | error cause => rfl
  | ok _ => rfl

theorem consume_taken_iff {cursor : Cursor} (placed : cursor.Placed) {spec : Spec Caller}
    {caller : Caller} {taken : Text} {reached : Int} :
    (cursor.consume spec caller).1.result = .ok taken ∧
        (cursor.consume spec caller).1.cursor.position = reached ↔
      ∃ matcher, spec.toMatcher = .ok matcher ∧
        (matcher.runEnd cursor.text cursor.stop cursor.position caller).result = .ok () ∧
        (matcher.runEnd cursor.text cursor.stop cursor.position caller).position = reached ∧
        cursor.text.slice (some cursor.position) (some reached) = taken := by
  cases stands : spec.toMatcher with
  | error cause =>
    rw [consume_of_allowed spec caller placed.allowed, eatWhile, stands]
    constructor
    · rintro ⟨same, -⟩
      cases same
    · rintro ⟨matcher, same, -⟩
      cases same
  | ok matcher =>
    rw [consume_of_placed placed stands caller]
    dsimp only
    cases result : (matcher.runEnd cursor.text cursor.stop cursor.position caller).result with
    | error cause =>
      constructor
      · rintro ⟨same, -⟩
        cases same
      · rintro ⟨other, same, failed, -⟩
        cases same
        rw [result] at failed
        cases failed
    | ok _ =>
      constructor
      · rintro ⟨same, there⟩
        refine ⟨matcher, rfl, result, there, ?_⟩
        rw [← there]
        exact Except.ok.inj same
      · rintro ⟨other, same, -, there, text⟩
        cases same
        rw [there, text]
        exact ⟨rfl, rfl⟩

/-- Where the longer range has a run, the shorter one has the part of it that fits. -/
theorem Extends.consume_part (extended : short.Extends long) (placed : short.Placed)
    (inside : long.stop ≤ long.text.length) {spec : Spec Caller} {caller : Caller} {more : Text}
    (taken : (long.consume spec caller).1.result = .ok more) :
    ∃ part, (short.consume spec caller).1.result = .ok part ∧ part <+: more := by
  obtain ⟨matcher, stands, answered, reached, rfl⟩ :=
    (consume_taken_iff (extended.placed placed inside)).mp ⟨taken, rfl⟩
  rw [← reached]
  rw [extended.text, extended.position] at answered ⊢
  rw [matcher.runEnd_further short.text extended.stop_le] at answered ⊢
  have le := (runEnd_position matcher short.text short.stop short.position caller).1
  have part (same : (matcher.runEnd short.text short.stop short.position caller).result = .ok ()) :=
    ((consume_taken_iff placed).mpr ⟨matcher, stands, same, rfl, rfl⟩).1
  dsimp only at answered ⊢
  split at answered
  case isTrue before =>
    rw [if_pos before]
    exact ⟨_, part answered, List.prefix_refl _⟩
  case isFalse used =>
    -- the shorter run has used up its range, and the longer one goes on from its end
    rw [if_neg used]
    refine ⟨_, part (Matcher.runEnd_of_used used), _,
      Text.slice_append_slice short.text placed.nonneg le ?_⟩
    exact (runEnd_position matcher short.text long.stop _ _).1

/-- A run that ends before the shorter range does is the same in both. -/
theorem Extends.consume_before (extended : short.Extends long) (placed : short.Placed)
    (inside : long.stop ≤ long.text.length) {spec : Spec Caller} {caller : Caller} {taken : Text}
    {reached : Int} (before : reached < short.stop) :
    (short.consume spec caller).1.result = .ok taken ∧
        (short.consume spec caller).1.cursor.position = reached ↔
      (long.consume spec caller).1.result = .ok taken ∧
        (long.consume spec caller).1.cursor.position = reached := by
  rw [consume_taken_iff placed, consume_taken_iff (extended.placed placed inside)]
  refine exists_congr fun matcher => and_congr_right fun _ => ?_
  rw [extended.text, extended.position, matcher.runEnd_further short.text extended.stop_le]
  dsimp only
  split
  case isTrue => exact Iff.rfl
  case isFalse used =>
    have later := (runEnd_position matcher short.text long.stop
      (matcher.runEnd short.text short.stop short.position caller).position
      (matcher.runEnd short.text short.stop short.position caller).caller).1
    exact ⟨fun same => by omega, fun same => by omega⟩

end Longer

/-! ### Growing ranges -/

/-- What two cursors have in common of which the second has the longer range. What the shorter range
has room for is found in both or in neither. Of a run the shorter range has the part that fits. -/
structure Stable (short long : Cursor) (caller : Caller) : Prop where
  eat : ∀ spec : Spec Caller,
    Agrees (short.eat spec caller).1 (long.eat spec caller).1 (· = true) (· ≤ short.stop)
  expect : ∀ (spec : Spec Caller) (message : Option Text),
    Agrees (short.expect spec message caller).1 (long.expect spec message caller).1
      (fun found => ∃ unit, found = .ok unit) (· ≤ short.stop)
  skipTo : ∀ (needle : Glyph) (content : Text), needle.toNeedle = .ok content →
    Agrees (short.skipTo needle) (long.skipTo needle) (· = true)
      (fun reached => reached + content.length ≤ short.stop)
  eatQuoted : ∀ (quote : Glyph) (escape : Option Glyph),
    Agrees (short.eatQuoted quote escape) (long.eatQuoted quote escape) (· = true)
      (· ≤ short.stop)
  consume_answers : ∀ spec : Spec Caller, spec.Answers long.text →
    ∃ more, (long.consume spec caller).1.result = .ok more
  consume_part : ∀ (spec : Spec Caller) (more : Text),
    (long.consume spec caller).1.result = .ok more →
    ∃ part, (short.consume spec caller).1.result = .ok part ∧ part <+: more
  consume_before : ∀ (spec : Spec Caller) (taken : Text) (reached : Int), reached < short.stop →
    ((short.consume spec caller).1.result = .ok taken ∧
        (short.consume spec caller).1.cursor.position = reached ↔
      (long.consume spec caller).1.result = .ok taken ∧
        (long.consume spec caller).1.cursor.position = reached)

theorem Extends.stable {short long : Cursor} (extended : short.Extends long)
    (placed : short.Placed) (inside : long.stop ≤ long.text.length) (caller : Caller) :
    Stable short long caller where
  eat spec := extended.eat_agrees spec caller
  expect spec message := extended.expect_agrees spec message caller
  skipTo _ _ wanted := extended.skipTo_agrees placed inside wanted
  eatQuoted quote escape := extended.eatQuoted_agrees quote escape
  consume_answers _ answers :=
    ⟨_, Cursor.consume_answers (extended.placed placed inside) answers caller⟩
  consume_part _ _ taken := extended.consume_part placed inside taken
  consume_before _ _ _ before := extended.consume_before placed inside before

/-- Of two sub-views that begin together and are read as far as to the same place, wherever their
marks are, the one that goes on further finds all that the other has room for, and nothing else that
would fit into it. -/
theorem subView_stable (parent : Cursor) {first last further position start mark : Int}
    (nonneg : 0 ≤ first) (le : last ≤ further) (inside : further ≤ parent.text.length)
    (above : first ≤ position) (below : position ≤ last) (caller : Caller) :
    Stable { parent.subView first last with position, start }
      { parent.subView first further with position, start := mark } caller := by
  have ordered : first ≤ last := Int.le_trans above below
  have within : last ≤ parent.text.length := Int.le_trans le inside
  obtain ⟨lower, stop⟩ := subView_range parent nonneg ordered within
  obtain ⟨sameLower, later⟩ := subView_range parent nonneg (Int.le_trans ordered le) inside
  have extended : Extends { parent.subView first last with position, start }
      { parent.subView first further with position, start := mark } := by
    refine ⟨rfl, rfl, sameLower.trans lower.symm, rfl, ?_⟩
    rwa [stop, later]
  refine extended.stable ⟨⟨?_, ?_, ?_⟩, ?_, ?_⟩ ?_ caller
  · rwa [lower]
  · rwa [lower, stop]
  · rw [stop]
    exact within
  · rwa [lower]
  · rwa [stop]
  · rw [later]
    exact inside

/-- A sub-view of the assignment, read up to the escape in its literal. -/
def insideLiteral (last mark : Int) : Cursor :=
  { assignment.subView 4 last with position := 6, start := mark }

/-- The shorter sub-view ends between the escape and its character. -/
theorem subView_stable_insideLiteral :
    ((0 : Int) ≤ 4 ∧ (7 : Int) ≤ 11 ∧ (11 : Int) ≤ assignment.text.length ∧ (4 : Int) ≤ 6 ∧
      (6 : Int) ≤ 7) ∧
    Stable (insideLiteral 7 4) (insideLiteral 11 5) () ∧
    ((insideLiteral 11 5).skipTo (.text "\\'")).result = .ok true ∧
    ((insideLiteral 7 4).skipTo (.text "\\'")).result = .ok false :=
  ⟨⟨by decide, by decide, by decide, by decide, by decide⟩,
    subView_stable assignment (by decide) (by decide) (by decide) (by decide) (by decide) (),
    rfl, rfl⟩

end Cursor

end Lexing
