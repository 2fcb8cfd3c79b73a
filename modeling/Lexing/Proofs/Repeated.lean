/-
This file proves that taking characters as long as they are accepted is the same as taking one after
the other until one is refused. The matcher may remember what it has been asked, change its mind and
fail, and the position may be anywhere, even before the text. Both ways put the same questions to
the matcher, in the same order, and stop after the same one.

The questions are compared by a record. A recorded object does what it did, and keeps beside the
caller's state what it has been asked. What a test of one character asks is known from the form of
the matcher. So a whole run asks about the characters that it reads, each once, up to the first that
is not accepted.
-/

import Lexing.Proofs.Taking

namespace Lexing

variable {Caller : Type}

/-! ### One after the other -/

/-- What comes of taking characters one by one: every answer, the cursor and the caller's state. -/
structure Eaten (Caller : Type) where
  answers : List (Except Failure Bool)
  cursor : Cursor
  caller : Caller

namespace Cursor

/-- Takes one character after the other until one is refused or taking it fails. -/
def eats (cursor : Cursor) (spec : Spec Caller) (caller : Caller) : Eaten Caller :=
  match _taken : (cursor.eat spec caller).1.result with
  | .ok true =>
    let rest := (cursor.eat spec caller).1.cursor.eats spec (cursor.eat spec caller).2
    ⟨.ok true :: rest.answers, rest.cursor, rest.caller⟩
  | answer => ⟨[answer], (cursor.eat spec caller).1.cursor, (cursor.eat spec caller).2⟩
termination_by (cursor.stop - cursor.position).toNat
decreasing_by
  obtain ⟨unit, after, accepts⟩ := eat_eq_true_iff.mp _taken
  have below := accepts.below
  rw [accepts.eat]
  simp only [moveTo]
  omega

section Eats

variable {cursor : Cursor} {spec : Spec Caller} {caller after : Caller}

theorem eats_of_taken (eaten : cursor.eat spec caller =
    (cursor.moveTo (cursor.position + 1) (.ok true), after)) :
    cursor.eats spec caller =
      let rest := { cursor with position := cursor.position + 1 }.eats spec after
      ⟨.ok true :: rest.answers, rest.cursor, rest.caller⟩ := by
  rw [eats]
  split
  case h_1 => rw [eaten]; rfl
  case h_2 other => exact absurd (congrArg (fun moved => moved.1.result) eaten) other

theorem eats_of_stayed {answer : Except Failure Bool}
    (stayed : cursor.eat spec caller = (cursor.stay answer, after)) (refuses : answer ≠ .ok true) :
    cursor.eats spec caller = ⟨[answer], cursor, after⟩ := by
  have result := congrArg (fun moved => moved.1.result) stayed
  rw [eats]
  split
  case h_1 taken => exact absurd (result.symm.trans taken) refuses
  case h_2 => rw [stayed]; rfl

end Eats

end Cursor

/-! ### Records -/

/-- A function that keeps a record of its arguments beside the caller's state. -/
def Routine.recorded {Input : Type} (asArgument : Input → Argument) (run : Routine Input Caller) :
    Routine Input (Caller × List Argument) :=
  fun input state =>
    let answer := run input state.1
    (answer.1, answer.2, state.2 ++ [asArgument input])

def Attribute.recorded : Attribute Caller → Attribute (Caller × List Argument)
  | missing => .missing
  | plain value => .plain value
  | routine run => .routine (Routine.recorded .text run)

/-- An object that keeps a record of what it is asked. -/
def Object.recorded (object : Object Caller) : Object (Caller × List Argument) where
  kind := object.kind
  shown := object.shown
  identity := object.identity
  name? := object.name?
  source? := object.source?
  call? := object.call?.map (Routine.recorded id)
  test := object.test.recorded
  matching := object.matching.recorded

def Matcher.recorded : Matcher Caller → Matcher (Caller × List Argument)
  | exactCode code => .exactCode code
  | exactChar first rest => .exactChar first rest
  | predicate function byCode => .predicate function.recorded byCode
  | pattern object => .pattern object.recorded

/-- A spec with its functions and objects recorded. -/
def Spec.recorded : Spec Caller → Spec (Caller × List Argument)
  | flag holds => .flag holds
  | code number => .code number
  | text content => .text content
  | regex given => .object given.asObject.recorded
  | collection given => .object given.membership.recorded
  | object given => .object given.recorded
  | matcher given => .matcher given.recorded

theorem Attribute.isRoutine_recorded (offered : Attribute Caller) :
    offered.recorded.isRoutine = offered.isRoutine := by
  cases offered <;> rfl

theorem Matcher.ofCode_eq_ok_iff {number : Int} {matcher : Matcher Caller} :
    ofCode number = .ok matcher ↔ 0 ≤ number ∧ matcher = exactCode (.number number.toNat) := by
  unfold ofCode
  split
  case isTrue negative => exact ⟨nofun, fun ⟨nonneg, _⟩ => absurd negative (Int.not_lt.mpr nonneg)⟩
  case isFalse nonneg =>
    rw [Except.ok.injEq, eq_comm, and_iff_right (Int.not_lt.mp nonneg)]

/-- Recording does not change what form of matcher a spec stands for. -/
theorem Spec.toMatcher_recorded {spec : Spec Caller} {matcher : Matcher Caller}
    (stands : spec.toMatcher = .ok matcher) : spec.recorded.toMatcher = .ok matcher.recorded := by
  cases spec with
  | flag holds => cases stands
  | code number =>
    -- a code stands for the same exact matcher, whatever the caller's state is
    obtain ⟨nonneg, rfl⟩ := Matcher.ofCode_eq_ok_iff.mp stands
    exact Matcher.ofCode_eq_ok_iff.mpr ⟨nonneg, rfl⟩
  | text content =>
    cases content with
    | nil => cases stands
    | cons first rest =>
      cases stands
      rfl
  | regex given =>
    cases stands
    rfl
  | collection given =>
    cases stands
    rfl
  | object given =>
    simp only [Spec.toMatcher] at stands
    simp only [Spec.recorded, Spec.toMatcher, Object.recorded, Option.isSome_map,
      Attribute.isRoutine_recorded]
    split at stands
    case isTrue callable =>
      cases stands
      rw [if_pos callable]
      rfl
    case isFalse silent =>
      rw [if_neg silent]
      split at stands
      case isTrue asked =>
        cases stands
        rw [if_pos asked]
        rfl
      case isFalse => cases stands
  | matcher given =>
    cases stands
    rfl

/-- What asks nothing adds nothing to the record. -/
theorem append_nil_record {Result : Type} (result : Result) (caller : Caller)
    (record : List Argument) : (result, caller, record) = (result, caller, record ++ []) := by
  rw [List.append_nil]

/-- A recorded object answers as it would, and has one more argument on record if it can be
called. -/
theorem Object.invoke_recorded (object : Object Caller) (argument : Argument) (caller : Caller)
    (record : List Argument) :
    object.recorded.invoke argument (caller, record) =
      let answer := object.invoke argument caller
      (answer.1, answer.2, record ++ if object.call?.isSome then [argument] else []) := by
  unfold Object.invoke Object.recorded
  cases object.call? with
  | none => exact append_nil_record _ caller record
  | some run => rfl

theorem Object.accepts_recorded (object : Object Caller) (text : Text) (caller : Caller)
    (record : List Argument) :
    object.recorded.accepts text (caller, record) =
      let answer := object.accepts text caller
      (answer.1, answer.2, record ++
        if object.test.isRoutine || object.matching.isRoutine then [.text text] else []) := by
  unfold Object.accepts Object.recorded
  cases object.test with
  | routine run => rfl
  | missing | plain value =>
    cases object.matching with
    | routine run => rfl
    | missing | plain value => exact append_nil_record _ caller record

/-- What a test of one character asks of the objects that a caller supplies: the character, or its
code if the predicate wants that. -/
def Matcher.asks (matcher : Matcher Caller) (unit : CodePoint) : List Argument :=
  match matcher with
  | exactCode _ | exactChar _ _ => []
  | predicate function byCode =>
    if function.call?.isSome then [if byCode then .code unit.code else .text [unit]] else []
  | pattern object =>
    if object.test.isRoutine || object.matching.isRoutine then [.text [unit]] else []

/-- A recorded matcher answers as it would, and has what the test asks on record. -/
theorem Matcher.test_recorded (matcher : Matcher Caller) (unit : CodePoint) (caller : Caller)
    (record : List Argument) :
    matcher.recorded.test [unit] (caller, record) =
      let answer := matcher.test [unit] caller
      (answer.1, answer.2, record ++ matcher.asks unit) := by
  cases matcher with
  | exactCode code => exact append_nil_record _ caller record
  | exactChar first rest => exact append_nil_record _ caller record
  | predicate function byCode =>
    cases byCode with
    | false =>
      unfold recorded test
      dsimp only
      rw [Object.invoke_recorded]
      rfl
    | true =>
      unfold recorded test
      dsimp only [Text.soleCode]
      rw [Object.invoke_recorded]
      rfl
  | pattern object => exact object.accepts_recorded [unit] caller record

/-! ### Runs -/

/-- A matcher is asked about the characters from an offset on, up to the end of a range. It accepts
a number of them, and then gives the last answer, which is none if nothing is left to be read. The
caller's state before and after is told too. -/
inductive Matcher.Scans (matcher : Matcher Caller) (text : Text) (stop : Int) :
    Int → Caller → Text → Nat → Except Failure Bool → Caller → Prop where
  | ended {position : Int} {caller : Caller} (used : ¬ position < stop) :
      matcher.Scans text stop position caller [] 0 (.ok false) caller
  | unread {position : Int} {caller : Caller} {cause : Failure} (below : position < stop)
      (unread : text.read position = .error cause) :
      matcher.Scans text stop position caller [] 0 (.error cause) caller
  | refused {position : Int} {caller after : Caller} {unit : CodePoint}
      {last : Except Failure Bool} (below : position < stop)
      (read : text.read position = .ok unit) (asked : matcher.test [unit] caller = (last, after))
      (refuses : last ≠ .ok true) :
      matcher.Scans text stop position caller [unit] 0 last after
  | taken {position : Int} {caller between after : Caller} {unit : CodePoint} {units : Text}
      {count : Nat} {last : Except Failure Bool} (below : position < stop)
      (read : text.read position = .ok unit)
      (asked : matcher.test [unit] caller = (.ok true, between))
      (rest : matcher.Scans text stop (position + 1) between units count last after) :
      matcher.Scans text stop position caller (unit :: units) (count + 1) last after

namespace Matcher

variable {matcher : Matcher Caller} {text units : Text} {stop position : Int}
  {caller after : Caller} {count : Nat} {last : Except Failure Bool}

theorem exists_scans (matcher : Matcher Caller) (text : Text) (stop position : Int)
    (caller : Caller) :
    ∃ units count last after, matcher.Scans text stop position caller units count last after := by
  fun_induction Matcher.runEnd matcher text stop position caller with
  | case1 position caller below cause unread => exact ⟨_, _, _, _, .unread below unread⟩
  | case2 position caller below unit read cause after asked =>
    refine ⟨_, _, _, _, .refused below read asked fun accepted => ?_⟩
    cases accepted
  | case3 position caller below unit read after asked =>
    refine ⟨_, _, _, _, .refused below read asked fun accepted => ?_⟩
    cases accepted
  | case4 position caller below unit read after asked inductionHypothesis =>
    obtain ⟨units, count, last, final, rest⟩ := inductionHypothesis
    exact ⟨_, _, _, _, .taken below read asked rest⟩
  | case5 position caller used => exact ⟨_, _, _, _, .ended used⟩

/-- The last answer is not that a character is accepted. -/
theorem Scans.refuses (scans : matcher.Scans text stop position caller units count last after) :
    last ≠ .ok true := by
  induction scans with
  | ended | unread => exact (nomatch ·)
  | refused below read asked refuses => exact refuses
  | taken below read asked rest inductionHypothesis => exact inductionHypothesis

theorem getElem?_cons_read {unit : CodePoint} (below : position < stop)
    (read : text.read position = .ok unit)
    (rest : ∀ (index : Nat) (later : CodePoint), units[index]? = some later →
      position + 1 + index < stop ∧ text.read (position + 1 + index) = .ok later)
    {index : Nat} {later : CodePoint} (found : (unit :: units)[index]? = some later) :
    position + index < stop ∧ text.read (position + index) = .ok later := by
  cases index with
  | zero =>
    cases found
    rw [Int.natCast_zero, Int.add_zero]
    exact ⟨below, read⟩
  | succ index =>
    have shift : position + ((index + 1 : Nat) : Int) = position + 1 + index := by omega
    rw [shift]
    exact rest index later found

/-- The characters asked about are read one after the other, inside the range. -/
theorem Scans.read (scans : matcher.Scans text stop position caller units count last after) :
    ∀ (index : Nat) (unit : CodePoint), units[index]? = some unit →
      position + index < stop ∧ text.read (position + index) = .ok unit := by
  induction scans with
  | ended | unread => exact fun index unit found => (nomatch found)
  | refused below read asked refuses =>
    refine fun index unit => getElem?_cons_read below read fun index later found => ?_
    cases found
  | taken below read asked rest inductionHypothesis =>
    exact fun index unit => getElem?_cons_read below read inductionHypothesis

/-- A run ends behind the characters that are accepted. -/
theorem Scans.runEnd (scans : matcher.Scans text stop position caller units count last after) :
    matcher.runEnd text stop position caller =
      ⟨last.map fun _ => (), position + count, after⟩ := by
  induction scans with
  | ended used =>
    rw [runEnd_of_end used, Int.natCast_zero, Int.add_zero]
    rfl
  | unread below unread =>
    rw [runEnd_of_unreadable below unread, Int.natCast_zero, Int.add_zero]
    rfl
  | @refused position caller after unit last below read asked refuses =>
    rw [Int.natCast_zero, Int.add_zero]
    match last, refuses with
    | .error cause, _ => exact runEnd_of_failed below read asked
    | .ok false, _ => exact runEnd_of_rejected below read asked
  | taken below read asked rest inductionHypothesis =>
    rw [runEnd_of_accepted below read asked, inductionHypothesis, Int.natCast_succ,
      ← Int.add_assoc, Int.add_right_comm]

theorem testAll_cons {content : Text} {answer : Except Failure Bool}
    (asked : matcher.test content caller = (answer, after)) (rest : List Text) :
    matcher.testAll (content :: rest) caller =
      (answer :: (matcher.testAll rest after).1, (matcher.testAll rest after).2) := by
  rw [testAll, asked]

/-- Asked about the characters one by one, the matcher gives the same answers. It is asked about one
more than it accepts, unless the range is used up there or cannot be read. -/
theorem Scans.testAll (scans : matcher.Scans text stop position caller units count last after) :
    ∃ others, matcher.testAll (units.map ([·])) caller =
        (List.replicate count (.ok true) ++ others, after) ∧
      (others = [last] ∨ others = [] ∧
        ∀ unit, position + count < stop → text.read (position + count) ≠ .ok unit) := by
  induction scans with
  | ended used =>
    refine ⟨[], rfl, .inr ⟨rfl, fun unit below => ?_⟩⟩
    rw [Int.natCast_zero, Int.add_zero] at below
    exact absurd below used
  | unread below unread =>
    refine ⟨[], rfl, .inr ⟨rfl, fun unit _ => ?_⟩⟩
    rw [Int.natCast_zero, Int.add_zero, unread]
    exact (nomatch ·)
  | @refused position caller after unit last below read asked refuses =>
    exact ⟨[last], testAll_cons asked [], .inl rfl⟩
  | taken below read asked rest inductionHypothesis =>
    obtain ⟨others, answered, ending⟩ := inductionHypothesis
    refine ⟨others, ?_, ?_⟩
    · rw [List.map_cons, testAll_cons asked, answered]
      rfl
    · rwa [Int.natCast_succ, ← Int.add_assoc, Int.add_right_comm]

/-- The record of a run holds what its tests ask, in order. -/
theorem Scans.recorded (scans : matcher.Scans text stop position caller units count last after)
    (record : List Argument) :
    matcher.recorded.Scans text stop position (caller, record) units count last
      (after, record ++ units.flatMap matcher.asks) := by
  induction scans generalizing record with
  | ended used =>
    rw [List.flatMap_nil, List.append_nil]
    exact .ended used
  | unread below unread =>
    rw [List.flatMap_nil, List.append_nil]
    exact .unread below unread
  | refused below read asked refuses =>
    refine .refused below read ?_ refuses
    rw [test_recorded, asked, List.flatMap_singleton]
  | taken below read asked rest inductionHypothesis =>
    rw [List.flatMap_cons, ← List.append_assoc]
    refine .taken below read ?_ (inductionHypothesis _)
    rw [test_recorded, asked]

/-- Taking the characters one by one comes to the answers of the run. -/
theorem Scans.eats (scans : matcher.Scans text stop position caller units count last after)
    {spec : Spec Caller} (stands : spec.toMatcher = .ok matcher) (cursor : Cursor)
    (sameText : cursor.text = text) (sameStop : cursor.stop = stop)
    (samePosition : cursor.position = position) :
    cursor.eats spec caller = ⟨List.replicate count (.ok true) ++ [last],
      { cursor with position := position + count }, after⟩ := by
  -- every character that is taken leaves another cursor, from which the rest of the run goes on
  induction scans generalizing cursor with
  | ended used =>
    subst sameText sameStop samePosition
    rw [Int.natCast_zero, Int.add_zero]
    exact Cursor.eats_of_stayed (Cursor.eat_of_end used) (nomatch ·)
  | unread below unread =>
    subst sameText sameStop samePosition
    rw [Int.natCast_zero, Int.add_zero]
    exact Cursor.eats_of_stayed (Cursor.eat_of_unreadable below stands unread) (nomatch ·)
  | @refused position caller after unit last below read asked refuses =>
    subst sameText sameStop samePosition
    rw [Int.natCast_zero, Int.add_zero]
    refine Cursor.eats_of_stayed ?_ refuses
    match last, refuses with
    | .error cause, _ => exact Cursor.eat_of_failed below stands read asked
    | .ok false, _ => exact Cursor.eat_of_rejected below stands read asked
  | taken below read asked rest inductionHypothesis =>
    subst sameText sameStop samePosition
    have others := inductionHypothesis { cursor with position := cursor.position + 1 } rfl rfl rfl
    rw [Cursor.eats_of_taken (Cursor.eat_of_accepted below stands read asked), others,
      Int.natCast_succ, ← Int.add_assoc, Int.add_right_comm]
    rfl

/-- Taking a run of characters moves behind those that are accepted, and fails with the last
answer. -/
theorem Scans.eatWhile {cursor : Cursor}
    (scans : matcher.Scans cursor.text cursor.stop cursor.position caller units count last after)
    {spec : Spec Caller} (stands : spec.toMatcher = .ok matcher) :
    cursor.eatWhile spec caller =
      (cursor.moveTo (cursor.position + count) (last.map fun _ => count != 0), after) := by
  have moved : (cursor.position + count != cursor.position) = (count != 0) := by
    rw [Bool.eq_iff_iff, bne_iff_ne, bne_iff_ne]
    omega
  unfold Cursor.eatWhile
  rw [stands]
  dsimp only
  rw [scans.runEnd]
  dsimp only
  rw [moved]
  cases last with
  | error cause => rfl
  | ok accepted => rfl

end Matcher

namespace Cursor

/-! ### Both ways -/

/-- Taking a run of characters and taking them one by one come to the same, and ask the matcher the
same. It is asked about some characters and accepts a number of them. -/
structure Repeats (cursor : Cursor) (spec : Spec Caller) (matcher : Matcher Caller)
    (caller : Caller) (units : Text) (count : Nat) : Prop where
  sameCursor : (cursor.eatWhile spec caller).1.cursor = (cursor.eats spec caller).cursor
  sameCaller : (cursor.eatWhile spec caller).2 = (cursor.eats spec caller).caller
  /-- Both fail for the same cause or not at all. -/
  failed : ∀ cause, (cursor.eatWhile spec caller).1.result = .error cause ↔
    .error cause ∈ (cursor.eats spec caller).answers
  taken : ∀ holds, (cursor.eatWhile spec caller).1.result = .ok holds →
    (holds = true ↔ .ok true ∈ (cursor.eats spec caller).answers)
  /-- If a record is kept, it holds what the tests of the characters ask, in order. -/
  record : cursor.eatWhile spec.recorded (caller, []) =
    ((cursor.eatWhile spec caller).1,
      (cursor.eatWhile spec caller).2, units.flatMap matcher.asks)
  recordOneByOne : cursor.eats spec.recorded (caller, []) =
    ⟨(cursor.eats spec caller).answers, (cursor.eats spec caller).cursor,
      (cursor.eats spec caller).caller, units.flatMap matcher.asks⟩
  position : (cursor.eats spec caller).cursor.position = cursor.position + count
  /-- The characters are read one after the other from the position on, all inside the range. -/
  read : ∀ (index : Nat) (unit : CodePoint), units[index]? = some unit →
    cursor.position + index < cursor.stop ∧
      cursor.text.read (cursor.position + index) = .ok unit
  /-- All are accepted but the last, and that one too where no other can be read. -/
  answers : ∃ others, matcher.testAll (units.map ([·])) caller =
      (List.replicate count (.ok true) ++ others, (cursor.eats spec caller).caller) ∧
    ((∃ last, last ≠ .ok true ∧ others = [last]) ∨
      others = [] ∧ ∀ unit, (cursor.eats spec caller).cursor.peek ≠ .ok (some unit))

/-- Taking characters as long as they are accepted is taking them one by one until one is refused,
wherever the cursor stands and whatever the matcher remembers. -/
theorem eatWhile_repeats_eat (cursor : Cursor) {spec : Spec Caller} {matcher : Matcher Caller}
    (stands : spec.toMatcher = .ok matcher) (caller : Caller) :
    ∃ units count, cursor.Repeats spec matcher caller units count := by
  -- both ways, with and without a record, are read off one account of the questions
  obtain ⟨units, count, last, after, scans⟩ :=
    matcher.exists_scans cursor.text cursor.stop cursor.position caller
  have whole := scans.eatWhile stands
  have oneByOne := scans.eats stands cursor rfl rfl rfl
  have recorded := scans.recorded []
  have watched := Spec.toMatcher_recorded stands
  refine ⟨units, count, ?_⟩
  constructor
  case sameCursor => rw [whole, oneByOne]; rfl
  case sameCaller => rw [whole, oneByOne]
  case failed =>
    intro cause
    rw [whole, oneByOne, List.mem_append, List.mem_singleton]
    refine ⟨fun failed => .inr (error_of_map failed).symm, fun member => ?_⟩
    obtain accepted | failed := member
    · exact nomatch List.eq_of_mem_replicate accepted
    · show last.map _ = _
      rw [← failed]
      rfl
  case taken =>
    intro holds answered
    rw [whole] at answered
    rw [oneByOne, List.mem_append, List.mem_replicate, List.mem_singleton,
      or_iff_left scans.refuses.symm, and_iff_left rfl]
    cases last with
    | error cause => cases answered
    | ok accepted =>
      cases answered
      exact bne_iff_ne
  case record => rw [whole, recorded.eatWhile watched]; rfl
  case recordOneByOne => rw [oneByOne, recorded.eats watched cursor rfl rfl rfl]; rfl
  case position => rw [oneByOne]
  case read => exact scans.read
  case answers =>
    obtain ⟨others, answered, ending⟩ := scans.testAll
    rw [oneByOne]
    refine ⟨others, answered, ending.imp (fun same => ⟨last, scans.refuses, same⟩) ?_⟩
    refine fun ⟨empty, unread⟩ => ⟨empty, fun unit found => ?_⟩
    have below := position_lt_of_peek found
    have read := read_of_peek found
    exact unread unit below read

/-- A predicate that accepts the first two codes it is called with and fails at the third. -/
def patient : Object Nat where
  kind := "function"
  shown := .ok "<function>"
  identity := .unique 0
  call? := some fun _ count =>
    (if count = 2 then .error (.raised "third call") else .ok (.flag true), count + 1)

/-- Two characters are taken across the end of the text before the third call fails. -/
theorem eatWhile_repeats_eat_wrapped :
    (Spec.matcher (.predicate patient true)).toMatcher = .ok (.predicate patient true) ∧
      (wrapped.eats (.matcher (.predicate patient true)) 0).answers =
        [.ok true, .ok true, .error (.raised "third call")] ∧
      ∃ units count, wrapped.Repeats (.matcher (.predicate patient true))
        (.predicate patient true) 0 units count := by
  have stands : (Spec.matcher (.predicate patient true)).toMatcher =
      .ok (.predicate patient true) := rfl
  have scans : (Matcher.predicate patient true).Scans "1ab" 3 (-2) 0 "ab1" 2
      (.error (.raised "third call")) 3 := by
    refine .taken (by decide) (show Text.read "1ab" (-2) = .ok (.ofChar 'a') from rfl) rfl ?_
    refine .taken (by decide) (show Text.read "1ab" (-1) = .ok (.ofChar 'b') from rfl) rfl ?_
    exact .refused (by decide) (show Text.read "1ab" 0 = .ok (.ofChar '1') from rfl) rfl
      (nomatch ·)
  have eaten := scans.eats stands wrapped rfl rfl rfl
  exact ⟨stands, congrArg Eaten.answers eaten, eatWhile_repeats_eat wrapped stands 0⟩

end Cursor

end Lexing
