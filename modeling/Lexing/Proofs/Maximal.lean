/-
This file proves that taking a run of characters takes all of it. What is taken is the longest
beginning of the rest of the range that consists of accepted characters. So behind it there is
either nothing left or a character that is refused, and taking by the same spec takes nothing more,
one character or a run of them, however often it is tried.

What is accepted is a condition on characters here. The matcher answers by it whenever it is asked.
-/

import Lexing.Proofs.Longer

namespace Lexing

variable {Caller : Type}

/-- The spec stands for a matcher that answers by a condition about every character of a text,
whatever the caller's state is. -/
def Spec.Decides (spec : Spec Caller) (text : Text) (accepts : CodePoint → Bool) : Prop :=
  ∃ matcher, spec.toMatcher = .ok matcher ∧
    ∀ unit ∈ text, ∀ caller, (matcher.test [unit] caller).1 = .ok (accepts unit)

namespace Text

/-! ### Longest runs -/

/-- A beginning of a text consists of accepted characters, and no longer one does. -/
structure LongestRun (accepts : CodePoint → Bool) (text run : Text) : Prop where
  begins : run <+: text
  accepted : ∀ unit ∈ run, accepts unit = true
  longest : ∀ other, other <+: text → (∀ unit ∈ other, accepts unit = true) →
    other.length ≤ run.length

/-- Between two offsets all characters are accepted, and the next one of the window is not. -/
structure RunsTo (text : Text) (accepts : CodePoint → Bool) (first stop reached : Int) : Prop where
  le : first ≤ reached
  accepted : ∀ offset, first ≤ offset → offset < reached →
    ∃ unit, text.read offset = .ok unit ∧ accepts unit = true
  refused : reached < stop → ∃ unit, text.read reached = .ok unit ∧ accepts unit = false

section Runs

variable {accepts : CodePoint → Bool} {text run rest : Text} {first stop reached : Int}

theorem RunsTo.nothing (refused : first < stop →
    ∃ unit, text.read first = .ok unit ∧ accepts unit = false) :
    text.RunsTo accepts first stop first :=
  ⟨Int.le_refl _, fun _ above before => absurd before (Int.not_lt.mpr above), refused⟩

/-- A run of accepted characters is the longest if what is behind it begins with a refused one. -/
theorem longestRun_append (accepted : ∀ unit ∈ run, accepts unit = true)
    (refused : ∀ unit, rest.head? = some unit → accepts unit = false) :
    LongestRun accepts (run ++ rest) run := by
  refine ⟨List.prefix_append run rest, accepted, fun other begins all => ?_⟩
  by_contra longer
  cases rest with
  | nil =>
    have bound := begins.length_le
    rw [List.append_nil] at bound
    exact longer bound
  | cons unit rest =>
    -- a longer one goes on at least to the first character behind the run
    have further : run ++ [unit] <+: other := by
      refine List.prefix_of_prefix_length_le ⟨rest, ?_⟩ begins ?_
      · rw [List.append_assoc, List.singleton_append]
      · rw [List.length_append, List.length_singleton]
        omega
    have member : unit ∈ other := further.subset (List.mem_append_right run List.mem_cons_self)
    exact Bool.false_ne_true ((refused unit rfl).symm.trans (all unit member))

/-- There is only one longest run. -/
theorem LongestRun.unique {other : Text} (longest : LongestRun accepts text run)
    (also : LongestRun accepts text other) : run = other := by
  have le := also.longest run longest.begins longest.accepted
  have ge := longest.longest other also.begins also.accepted
  exact (List.prefix_of_prefix_length_le longest.begins also.begins le).eq_of_length_le ge

theorem RunsTo.longestRun (runs : text.RunsTo accepts first stop reached) (nonneg : 0 ≤ first)
    (le : reached ≤ stop) (inside : stop ≤ text.length) :
    LongestRun accepts (text.slice (some first) (some stop))
        (text.slice (some first) (some reached)) ∧
      ((text.slice (some first) (some reached)).length : Int) = reached - first := by
  have ordered := runs.le
  rw [← slice_append_slice text nonneg ordered le]
  obtain ⟨start, rfl⟩ := Int.eq_ofNat_of_zero_le nonneg
  obtain ⟨finish, rfl⟩ := Int.eq_ofNat_of_zero_le (Int.le_trans nonneg ordered)
  obtain ⟨last, rfl⟩ := Int.eq_ofNat_of_zero_le (Int.le_trans (Int.natCast_nonneg finish) le)
  refine ⟨longestRun_append (fun unit member => ?_) (fun unit head => ?_), ?_⟩
  · obtain ⟨index, found⟩ := List.mem_iff_getElem?.mp member
    rw [getElem?_slice_natCast] at found
    split at found
    case isTrue before =>
      obtain ⟨other, read, accepted⟩ := runs.accepted (start + index : Nat) (by omega) (by omega)
      rw [read_natCast_iff, found] at read
      cases read
      exact accepted
    case isFalse => cases found
  · rw [List.head?_eq_getElem?, getElem?_slice_natCast] at head
    split at head
    case isTrue before =>
      obtain ⟨other, read, refused⟩ := runs.refused (by omega)
      rw [Nat.add_zero] at head
      rw [read_natCast_iff, head] at read
      cases read
      exact refused
    case isFalse => cases head
  · exact length_slice nonneg ordered (Int.le_trans le inside)

end Runs

end Text

section Decided

variable {spec : Spec Caller} {text : Text} {accepts : CodePoint → Bool}

/-- A matcher that answers by a condition goes on as long as the condition holds. -/
theorem Matcher.runEnd_runsTo {matcher : Matcher Caller} {stop position : Int}
    (decided : ∀ unit ∈ text, ∀ caller, (matcher.test [unit] caller).1 = .ok (accepts unit))
    (readable : text.ReadableBetween position stop) (caller : Caller) :
    text.RunsTo accepts position stop (matcher.runEnd text stop position caller).position := by
  fun_induction Matcher.runEnd matcher text stop position caller with
  | case1 position caller below cause unread =>
    obtain ⟨unit, read⟩ := readable position (Int.le_refl _) below
    rw [read] at unread
    cases unread
  | case2 position caller below unit read cause after asked =>
    have answered := decided unit (Text.mem_of_read read) caller
    rw [asked] at answered
    cases answered
  | case3 position caller below unit read after asked =>
    have answered := decided unit (Text.mem_of_read read) caller
    rw [asked] at answered
    exact .nothing fun _ => ⟨unit, read, (Except.ok.inj answered).symm⟩
  | case4 position caller below unit read after asked inductionHypothesis =>
    have answered := decided unit (Text.mem_of_read read) caller
    rw [asked] at answered
    have runs := inductionHypothesis (readable.later (by omega))
    have ordered := runs.le
    refine ⟨by omega, fun offset above before => ?_, runs.refused⟩
    rcases Int.lt_or_eq_of_le above with later | rfl
    · exact runs.accepted offset later before
    · exact ⟨unit, read, (Except.ok.inj answered).symm⟩
  | case5 position caller used => exact .nothing fun below => absurd below used

theorem Spec.Decides.runEnd (decides : spec.Decides text accepts) {stop position : Int}
    (readable : text.ReadableBetween position stop) (caller : Caller) :
    ∃ matcher reached after, spec.toMatcher = .ok matcher ∧
      matcher.runEnd text stop position caller = ⟨.ok (), reached, after⟩ ∧
      text.RunsTo accepts position stop reached ∧ reached ≤ max position stop := by
  obtain ⟨matcher, stands, decided⟩ := decides
  have answered := Cursor.runEnd_answers
    (fun unit member state => ⟨accepts unit, decided unit member state⟩) readable caller
  have runs := Matcher.runEnd_runsTo decided readable caller
  have within := (Cursor.runEnd_position matcher text stop position caller).2
  refine ⟨matcher, _, (matcher.runEnd text stop position caller).caller, stands, ?_, runs, within⟩
  rw [← answered]

theorem Cursor.eatWhile_of_decides {cursor : Cursor} (decides : spec.Decides cursor.text accepts)
    (readable : cursor.text.ReadableBetween cursor.position cursor.stop) (caller : Caller) :
    ∃ reached after, cursor.eatWhile spec caller =
        (cursor.moveTo reached (.ok (reached != cursor.position)), after) ∧
      cursor.text.RunsTo accepts cursor.position cursor.stop reached := by
  obtain ⟨matcher, reached, after, stands, run, runs, _⟩ := decides.runEnd readable caller
  refine ⟨reached, after, ?_, runs⟩
  unfold Cursor.eatWhile
  rw [stands]
  dsimp only
  rw [run]
  rfl

end Decided

namespace Cursor

/-! ### Cursors behind a run -/

/-- The range is used up, or its next character is refused. -/
structure Spent (cursor : Cursor) (accepts : CodePoint → Bool) : Prop extends Placed cursor where
  refused : cursor.position < cursor.stop →
    ∃ unit, cursor.text.read cursor.position = .ok unit ∧ accepts unit = false

/-- Taking by a spec takes nothing, one character or a run of them. -/
structure TakesNothing (cursor : Cursor) (spec : Spec Caller) (caller : Caller) : Prop where
  eat : (cursor.eat spec caller).1.result = .ok false
  eatWhile : (cursor.eatWhile spec caller).1.result = .ok false
  consume : (cursor.consume spec caller).1.result = .ok []

end Cursor

/-- Whether an operation takes characters by a spec. -/
inductive Operation.TakesBy (spec : Spec Caller) : Operation Caller → Prop where
  | eat : TakesBy spec (.eat spec)
  | eatWhile : TakesBy spec (.eatWhile spec)
  | consume : TakesBy spec (.consume spec)

namespace Cursor

section Spent

variable {cursor : Cursor} {spec : Spec Caller} {accepts : CodePoint → Bool}

theorem Spent.marked (spent : cursor.Spent accepts) (start : Int) :
    { cursor with start }.Spent accepts :=
  ⟨⟨⟨spent.lower_nonneg, spent.lower_le_stop, spent.stop_le_length⟩, spent.lower_le_position,
    spent.position_le_stop⟩, spent.refused⟩

theorem Spent.eat (spent : cursor.Spent accepts) (decides : spec.Decides cursor.text accepts)
    (caller : Caller) : ∃ after, cursor.eat spec caller = (cursor.stay (.ok false), after) := by
  obtain ⟨matcher, stands, decided⟩ := decides
  by_cases below : cursor.position < cursor.stop
  · obtain ⟨unit, read, refused⟩ := spent.refused below
    have answered := decided unit (Text.mem_of_read read) caller
    rw [refused] at answered
    exact ⟨_, eat_of_rejected below stands read (Prod.ext answered rfl)⟩
  · exact ⟨caller, eat_of_end below⟩

theorem Spent.runEnd (spent : cursor.Spent accepts) {matcher : Matcher Caller}
    (decided : ∀ unit ∈ cursor.text, ∀ caller,
      (matcher.test [unit] caller).1 = .ok (accepts unit)) (caller : Caller) :
    ∃ after, matcher.runEnd cursor.text cursor.stop cursor.position caller =
      ⟨.ok (), cursor.position, after⟩ := by
  by_cases below : cursor.position < cursor.stop
  · obtain ⟨unit, read, refused⟩ := spent.refused below
    have answered := decided unit (Text.mem_of_read read) caller
    rw [refused] at answered
    exact ⟨_, Matcher.runEnd_of_rejected below read (Prod.ext answered rfl)⟩
  · exact ⟨caller, Matcher.runEnd_of_end below⟩

theorem Spent.eatWhile (spent : cursor.Spent accepts) (decides : spec.Decides cursor.text accepts)
    (caller : Caller) :
    ∃ after, cursor.eatWhile spec caller = (cursor.stay (.ok false), after) := by
  obtain ⟨matcher, stands, decided⟩ := decides
  obtain ⟨after, run⟩ := spent.runEnd decided caller
  refine ⟨after, ?_⟩
  unfold Cursor.eatWhile
  rw [stands]
  dsimp only
  rw [run]
  show (cursor.stay (.ok (cursor.position != cursor.position)), after) = _
  rw [bne_self_eq_false]

theorem Spent.consume (spent : cursor.Spent accepts) (decides : spec.Decides cursor.text accepts)
    (caller : Caller) :
    ∃ after, cursor.consume spec caller =
      (⟨.ok [], { cursor with start := cursor.position }, []⟩, after) := by
  obtain ⟨matcher, stands, decided⟩ := decides
  obtain ⟨after, run⟩ := spent.runEnd decided caller
  refine ⟨after, ?_⟩
  rw [consume_of_placed spent.toPlaced stands caller]
  dsimp only
  rw [run]
  show (Moved.mk (.ok (cursor.text.slice (some cursor.position) (some cursor.position))) _ _,
    after) = _
  rw [Text.slice_self cursor.text spent.toPlaced.nonneg]

theorem Spent.takesNothing (spent : cursor.Spent accepts)
    (decides : spec.Decides cursor.text accepts) (caller : Caller) :
    cursor.TakesNothing spec caller := by
  obtain ⟨_, eaten⟩ := spent.eat decides caller
  obtain ⟨_, eatenWhile⟩ := spent.eatWhile decides caller
  obtain ⟨_, consumed⟩ := spent.consume decides caller
  exact ⟨by rw [eaten]; rfl, by rw [eatenWhile]; rfl, by rw [consumed]⟩

/-- Taking by the spec again leaves the cursor where it is, up to the mark. -/
theorem Spent.perform (spent : cursor.Spent accepts) (decides : spec.Decides cursor.text accepts)
    {operation : Operation Caller} (takes : operation.TakesBy spec) (caller : Caller) :
    ∃ start, (cursor.perform operation caller).1.cursor = { cursor with start } := by
  cases takes with
  | eat =>
    obtain ⟨_, eaten⟩ := spent.eat decides caller
    exact ⟨cursor.start, congrArg (fun moved => moved.1.cursor) eaten⟩
  | eatWhile =>
    obtain ⟨_, eaten⟩ := spent.eatWhile decides caller
    exact ⟨cursor.start, congrArg (fun moved => moved.1.cursor) eaten⟩
  | consume =>
    obtain ⟨_, consumed⟩ := spent.consume decides caller
    exact ⟨cursor.position, congrArg (fun moved => moved.1.cursor) consumed⟩

/-- However often taking by the spec is tried, nothing is taken. -/
theorem Spent.course (spent : cursor.Spent accepts) (decides : spec.Decides cursor.text accepts)
    {operations : List (Operation Caller)} (takes : ∀ operation ∈ operations,
      operation.TakesBy spec) (caller : Caller) :
    ∀ reached ∈ cursor.course operations caller, ∃ start, reached = { cursor with start } := by
  refine course_preserves ⟨cursor.start, rfl⟩ fun stage member ⟨start, same⟩ => ?_
  obtain ⟨_, asked, state, performed⟩ := mem_stages member
  have still : stage.before.Spent accepts := same ▸ spent.marked start
  have decidesStill : spec.Decides stage.before.text accepts := by
    rw [same]
    exact decides
  obtain ⟨mark, left⟩ := still.perform decidesStill (takes _ asked) state
  refine ⟨mark, ?_⟩
  rw [performed]
  show (stage.before.perform stage.operation state).1.cursor = _
  rw [left, same]

end Spent

/-! ### Taking runs -/

/-- Taking a run from inside the range takes the longest beginning of the rest that consists of
accepted characters, and marks where it begins. Behind it the range is used up or a character is
refused, and taking by the same spec takes nothing and goes nowhere, in any order and number. -/
theorem consume_longest {cursor : Cursor} (placed : cursor.Placed) {spec : Spec Caller}
    {accepts : CodePoint → Bool} (decides : spec.Decides cursor.text accepts) (caller : Caller) :
    let consumed := (cursor.consume spec caller).1
    ∃ run, Text.LongestRun accepts
        (cursor.text.slice (some cursor.position) (some cursor.stop)) run ∧
      consumed.result = .ok run ∧
      consumed.cursor = { cursor with
        start := cursor.position
        position := cursor.position + run.length } ∧
      (consumed.cursor.atEnd = true ∨
        ∃ unit, consumed.cursor.peek = .ok (some unit) ∧ accepts unit = false) ∧
      ∀ (operations : List (Operation Caller)) (state : Caller),
        (∀ operation ∈ operations, operation.TakesBy spec) →
        ∀ reached ∈ consumed.cursor.course operations state,
          reached.position = consumed.cursor.position ∧
            ∀ later : Caller, reached.TakesNothing spec later := by
  intro consumed
  obtain ⟨matcher, reached, after, stands, run, runs, within⟩ :=
    decides.runEnd placed.readable caller
  have whole : consumed = _ := congrArg Prod.fst (consume_of_placed placed stands caller)
  dsimp only at whole
  rw [run] at whole
  have le : reached ≤ cursor.stop := by
    rwa [Int.max_eq_right placed.position_le_stop] at within
  obtain ⟨longest, length⟩ := runs.longestRun placed.nonneg le placed.stop_le_length
  have spent : consumed.cursor.Spent accepts := by
    rw [whole]
    exact ⟨⟨⟨placed.lower_nonneg, placed.lower_le_stop, placed.stop_le_length⟩,
      Int.le_trans placed.lower_le_position runs.le, le⟩, runs.refused⟩
  have decidesBehind : spec.Decides consumed.cursor.text accepts := by
    rw [whole]
    exact decides
  refine ⟨_, longest, by rw [whole]; rfl, ?_, ?_, fun operations state takes later member => ?_⟩
  · rw [whole, length, Int.add_comm, Int.sub_add_cancel]
  · by_cases below : consumed.cursor.position < consumed.cursor.stop
    · obtain ⟨unit, read, refused⟩ := spent.refused below
      exact .inr ⟨unit, peek_of_read below read, refused⟩
    · exact .inl (decide_eq_true (Int.not_lt.mp below))
  · obtain ⟨start, same⟩ := spent.course decidesBehind takes state later member
    have still : later.Spent accepts := same ▸ spent.marked start
    have decidesLater : spec.Decides later.text accepts := by
      rw [same]
      exact decidesBehind
    exact ⟨by rw [same], still.takesNothing decidesLater⟩

/-- A cursor in front of a number, in a range that ends behind the next one. -/
def number : Cursor := ofText "v=12,3;" .standard 2 1 (some 6)

/-- The digits in front of the comma are taken, and nothing more by digits. -/
theorem consume_longest_digits :
    number.Placed ∧
      (Spec.object CharSet.digit.function : Spec Unit).Decides number.text
        (CharSet.digit.members.contains ·) ∧
      (number.consume (.object CharSet.digit.function) ()).1.result = .ok "12" ∧
      ((number.consume (.object CharSet.digit.function) ()).1.cursor.eat
        (.object CharSet.digit.function) ()).1.result = .ok false := by
  have placed : number.Placed := ⟨⟨by decide, by decide, by decide⟩, by decide, by decide⟩
  have decides : (Spec.object CharSet.digit.function : Spec Unit).Decides number.text
      (CharSet.digit.members.contains ·) := ⟨_, rfl, fun unit _ caller => rfl⟩
  have known : Text.LongestRun (CharSet.digit.members.contains ·) (("12" : Text) ++ ",3") "12" :=
    Text.longestRun_append (by decide) fun unit same => by
      cases same
      decide
  obtain ⟨run, longest, answered, _, _, again⟩ := consume_longest placed decides ()
  have behind := (again [] () (List.forall_mem_nil _) _ List.mem_cons_self).2 ()
  rw [longest.unique known] at answered
  exact ⟨placed, decides, answered, behind.eat⟩

end Cursor

end Lexing
