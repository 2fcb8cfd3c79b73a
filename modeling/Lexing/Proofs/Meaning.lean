/-
This file gives what callers hand over as a matcher a meaning of its own, and proves that it is read
by that meaning. A code or a text accepts one character, a collection its members, an expression
what it matches, and an object is asked by what it offers: by a call if it can be called, directly
if it can be asked so, for a match otherwise.

What an object offers is looked at twice, when the matcher is made and each time that it is asked.
The two never disagree, so whatever is read as a matcher can be asked, and then fails only as the
caller's own function fails.

What stands for no matcher is refused for one of two faults, its value or its kind, with one
exception. A refusal for its kind shows what is refused, and not everything can be shown. Then the
refusal fails as showing fails, and finds another fault or none.
-/

import Lexing.Proofs.Repeated

namespace Lexing

variable {Caller : Type}

/-! ### What is refused -/

/-- What a failure finds fault with: a value among others of its kind that would do, or the kind of
a value. -/
inductive Fault where
  | value
  | kind

/-- The fault that a failure finds with what an operation was given, if that is why it failed. -/
def Failure.fault? : Failure → Option Fault
  | codeOutsideUnicode | emptyCharacter | emptyNeedle | emptyExactCharacter | negativeCode _
  | escapeLength _ | numeralTooLong => some .value
  | notOneCharacter _ | unsupportedSpec _ | notCallable _ | codeForTextMethod _ | unsized _
  | unknownSetting _ | reservedSetting _ | unfitMember _ => some .kind
  | _ => none

/-- An object that neither can be called nor has a function to be asked by. -/
def Object.IsMute (object : Object Caller) : Prop :=
  object.call? = none ∧ object.test.isRoutine = false ∧ object.matching.isRoutine = false

/-- The one function of an object that it is asked about a text by. -/
def Object.function? (object : Object Caller) : Option (Routine Text Caller) :=
  match object.call? with
  | some run => some fun text => run (.text text)
  | none =>
    match object.test with
    | .routine run => some run
    | _ =>
      match object.matching with
      | .routine run => some run
      | _ => none

/-- An object can be called, or asked, or else nothing can be asked of it. -/
theorem Object.called_or_asked_or_mute (given : Object Caller) :
    (∃ run, given.call? = some run) ∨
      (given.call? = none ∧
        (given.test.isRoutine = true ∨ given.matching.isRoutine = true)) ∨ given.IsMute := by
  unfold IsMute
  cases given.call? with
  | some run => exact .inl ⟨run, rfl⟩
  | none => cases given.test.isRoutine <;> cases given.matching.isRoutine <;> simp

/-- A text equals no value but itself. -/
theorem Value.same_text_iff (content : Text) (value : Value) :
    (Value.text content).same value = true ↔ Value.text content = value := by
  cases value <;> simp [Value.same, Value.sameAmount, Value.amount?]

theorem Collection.contains_text_iff (given : Collection) (content : Text) :
    given.contains (.text content) = true ↔ Value.text content ∈ given.members := by
  unfold Collection.contains
  rw [List.any_eq_true]
  constructor
  · rintro ⟨value, member, same⟩
    rwa [(Value.same_text_iff content value).mp same]
  · exact fun member => ⟨_, member, (Value.same_text_iff content _).mpr rfl⟩

namespace Spec

/-- A text that is empty, or a code below zero. -/
def IsVoid : Spec Caller → Prop
  | text content => content = []
  | code number => number < 0
  | _ => False

/-- A flag, or an object that nothing can be asked of. -/
def IsMute : Spec Caller → Prop
  | flag _ => True
  | object given => given.IsMute
  | _ => False

/-- The spec would have to be shown to be refused, and showing it fails. -/
def Hides (spec : Spec Caller) (cause : Failure) : Prop :=
  spec.IsMute ∧ spec.asObject.shown = .error cause

/-- The spec stands for no matcher, for the given fault. -/
def RefusedFor (spec : Spec Caller) (fault : Fault) : Prop :=
  ∃ cause, spec.toMatcher = .error cause ∧ cause.fault? = some fault

section Objects

variable {given : Object Caller}

theorem toMatcher_of_called {run : Routine Argument Caller} (callable : given.call? = some run) :
    (object given).toMatcher = .ok (.predicate given false) := by
  rw [toMatcher, callable]
  rfl

theorem toMatcher_of_asked (silent : given.call? = none)
    (asked : given.test.isRoutine = true ∨ given.matching.isRoutine = true) :
    (object given).toMatcher = .ok (.pattern given) := by
  rw [toMatcher, silent]
  exact if_pos (Bool.or_eq_true_iff.mpr asked)

end Objects

/-- What stands for nothing is shown in its refusal. -/
theorem toMatcher_of_mute (spec : Spec Caller) (mute : spec.IsMute) :
    spec.toMatcher = .error (refusal spec.asObject.shown) := by
  cases spec with
  | flag holds => rfl
  | object given =>
    obtain ⟨silent, unasked, unmatched⟩ := mute
    rw [toMatcher, silent, unasked, unmatched]
    rfl
  | _ => cases mute

/-- A spec that is no matcher already is read, or void and refused for its value, or mute. -/
theorem read_or_refused {spec : Spec Caller} (raw : ∀ given, spec ≠ .matcher given) :
    ((∃ matcher, spec.toMatcher = .ok matcher) ∧ ¬ spec.IsVoid ∧ ¬ spec.IsMute) ∨
      (spec.RefusedFor .value ∧ spec.IsVoid ∧ ¬ spec.IsMute) ∨ (¬ spec.IsVoid ∧ spec.IsMute) := by
  cases spec with
  | flag holds => exact .inr (.inr ⟨id, trivial⟩)
  | code number =>
    rcases Int.lt_or_le number 0 with negative | nonneg
    · refine .inr (.inl ⟨⟨_, if_pos negative, ?_⟩, negative, id⟩)
      split <;> rfl
    · exact .inl ⟨⟨_, if_neg (Int.not_lt.mpr nonneg)⟩, Int.not_lt.mpr nonneg, id⟩
  | text content =>
    cases content with
    | nil => exact .inr (.inl ⟨⟨_, rfl, rfl⟩, rfl, id⟩)
    | cons first rest => exact .inl ⟨⟨_, rfl⟩, List.cons_ne_nil first rest, id⟩
  | regex given => exact .inl ⟨⟨_, rfl⟩, id, id⟩
  | collection given => exact .inl ⟨⟨_, rfl⟩, id, id⟩
  | object given =>
    rcases given.called_or_asked_or_mute with ⟨run, callable⟩ | ⟨silent, asked⟩ | mute
    · refine .inl ⟨⟨_, toMatcher_of_called callable⟩, id, fun mute => ?_⟩
      cases callable.symm.trans mute.1
    · refine .inl ⟨⟨_, toMatcher_of_asked silent asked⟩, id, fun ⟨_, unasked, unmatched⟩ => ?_⟩
      rcases asked with asked | matched
      · cases asked.symm.trans unasked
      · cases matched.symm.trans unmatched
    · exact .inr (.inr ⟨id, mute⟩)
  | matcher given => exact absurd rfl (raw given)

section Refused

variable {spec : Spec Caller} {fault other : Fault} {cause : Failure}

theorem RefusedFor.ne_ok (refused : spec.RefusedFor fault) (matcher : Matcher Caller) :
    spec.toMatcher ≠ .ok matcher := by
  obtain ⟨cause, failed, _⟩ := refused
  intro stands
  cases failed.symm.trans stands

theorem refusedFor_iff_of_error (failed : spec.toMatcher = .error cause) :
    spec.RefusedFor fault ↔ cause.fault? = some fault := by
  refine ⟨fun ⟨found, failedAgain, blamed⟩ => ?_, fun blamed => ⟨cause, failed, blamed⟩⟩
  cases failed.symm.trans failedAgain
  exact blamed

theorem RefusedFor.unique (refused : spec.RefusedFor fault) (again : spec.RefusedFor other) :
    other = fault := by
  obtain ⟨cause, failed, blamed⟩ := refused
  exact Option.some.inj (((refusedFor_iff_of_error failed).mp again).symm.trans blamed)

theorem Hides.toMatcher (hides : spec.Hides cause) : spec.toMatcher = .error cause := by
  rw [toMatcher_of_mute spec hides.1, hides.2]
  rfl

/-- What stands for nothing is refused for its kind, or hides the cause that it is refused with. -/
theorem refusedFor_kind_or_hides (mute : spec.IsMute) :
    spec.RefusedFor .kind ∨ ∃ cause, spec.Hides cause := by
  cases shown : spec.asObject.shown with
  | error cause => exact .inr ⟨cause, mute, shown⟩
  | ok text =>
    have failed := toMatcher_of_mute spec mute
    rw [shown] at failed
    exact .inl ((refusedFor_iff_of_error failed).mpr rfl)

variable (raw : ∀ given, spec ≠ .matcher given)

include raw

theorem refusedFor_value_iff : spec.RefusedFor .value ↔
    spec.IsVoid ∨ ∃ cause, spec.Hides cause ∧ cause.fault? = some .value := by
  constructor
  · intro refused
    rcases read_or_refused raw with ⟨⟨matcher, stands⟩, _⟩ | ⟨_, void, _⟩ | ⟨_, mute⟩
    · exact absurd stands (refused.ne_ok matcher)
    · exact .inl void
    · rcases refusedFor_kind_or_hides mute with refusedKind | ⟨cause, hides⟩
      · nomatch refusedKind.unique refused
      · exact .inr ⟨cause, hides, (refusedFor_iff_of_error hides.toMatcher).mp refused⟩
  · rintro (void | ⟨cause, hides, blamed⟩)
    · rcases read_or_refused raw with ⟨_, full, _⟩ | ⟨refused, _⟩ | ⟨full, _⟩
      · exact absurd void full
      · exact refused
      · exact absurd void full
    · exact (refusedFor_iff_of_error hides.toMatcher).mpr blamed

theorem refusedFor_kind_iff : spec.RefusedFor .kind ↔
    spec.IsMute ∧ ∀ cause, spec.Hides cause → cause.fault? = some .kind := by
  constructor
  · intro refused
    refine ⟨?_, fun cause hides => (refusedFor_iff_of_error hides.toMatcher).mp refused⟩
    rcases read_or_refused raw with ⟨⟨matcher, stands⟩, _⟩ | ⟨refusedValue, _⟩ | ⟨_, mute⟩
    · exact absurd stands (refused.ne_ok matcher)
    · nomatch refusedValue.unique refused
    · exact mute
  · rintro ⟨mute, blames⟩
    rcases refusedFor_kind_or_hides mute with refused | ⟨cause, hides⟩
    · exact refused
    · exact (refusedFor_iff_of_error hides.toMatcher).mpr (blames cause hides)

theorem exists_matcher_iff :
    (∃ matcher, spec.toMatcher = .ok matcher) ↔ ¬ spec.IsVoid ∧ ¬ spec.IsMute := by
  rcases read_or_refused raw with ⟨stands, full, asked⟩ | ⟨refused, void, _⟩ | ⟨_, mute⟩
  · exact ⟨fun _ => ⟨full, asked⟩, fun _ => stands⟩
  · exact ⟨fun ⟨_, stands⟩ => absurd stands (refused.ne_ok _), fun fit => absurd void fit.1⟩
  · refine ⟨fun ⟨_, stands⟩ => ?_, fun fit => absurd mute fit.2⟩
    cases (toMatcher_of_mute spec mute).symm.trans stands

end Refused

/-! ### What is meant -/

/-- What a spec says of a character: the answer, and the state that the caller is left in. Only the
functions of an object can fail or leave the caller in another state. -/
inductive Means : Spec Caller → CodePoint → Caller → Except Failure Bool × Caller → Prop where
  | code {number : Int} {unit : CodePoint} {caller : Caller} {holds : Bool}
      (tells : holds = true ↔ (unit.code : Int) = number) :
      (Spec.code number).Means unit caller (.ok holds, caller)
  | text {first unit : CodePoint} {rest : Text} {caller : Caller} {holds : Bool}
      (tells : holds = true ↔ unit = first) :
      (Spec.text (first :: rest)).Means unit caller (.ok holds, caller)
  | regex {given : Regex} {unit : CodePoint} {caller : Caller} :
      (Spec.regex given).Means unit caller (.ok (given.matchesBeginning [unit]), caller)
  | collection {given : Collection} {unit : CodePoint} {caller : Caller} {holds : Bool}
      (tells : holds = true ↔ Value.text [unit] ∈ given.members) :
      (Spec.collection given).Means unit caller (.ok holds, caller)
  | called {given : Object Caller} {run : Routine Argument Caller} {unit : CodePoint}
      {caller : Caller} (callable : given.call? = some run) :
      (Spec.object given).Means unit caller
        ((run (.text [unit]) caller).1.map Value.truth, (run (.text [unit]) caller).2)
  | asked {given : Object Caller} {run : Routine Text Caller} {unit : CodePoint} {caller : Caller}
      (silent : given.call? = none) (asks : given.test = .routine run) :
      (Spec.object given).Means unit caller
        ((run [unit] caller).1.map Value.truth, (run [unit] caller).2)
  | matched {given : Object Caller} {run : Routine Text Caller} {unit : CodePoint}
      {caller : Caller} (silent : given.call? = none) (unasked : given.test.isRoutine = false)
      (matching : given.matching = .routine run) :
      (Spec.object given).Means unit caller
        ((run [unit] caller).1.map fun found => !found.isNull, (run [unit] caller).2)

section Meant

variable {spec : Spec Caller} {matcher : Matcher Caller} {unit : CodePoint} {caller : Caller}

/-- A spec says one thing of a character. -/
theorem Means.unique {answer other : Except Failure Bool × Caller}
    (means : spec.Means unit caller answer) (again : spec.Means unit caller other) :
    other = answer := by
  cases means with
  | code tells =>
    cases again with
    | code tellsAgain => rw [Bool.eq_iff_iff.mpr (tellsAgain.trans tells.symm)]
  | text tells =>
    cases again with
    | text tellsAgain => rw [Bool.eq_iff_iff.mpr (tellsAgain.trans tells.symm)]
  | regex => cases again; rfl
  | collection tells =>
    cases again with
    | collection tellsAgain => rw [Bool.eq_iff_iff.mpr (tellsAgain.trans tells.symm)]
  | called callable =>
    cases again with
    | called callableAgain =>
      cases callable.symm.trans callableAgain
      rfl
    | asked silent | matched silent => cases callable.symm.trans silent
  | asked silent asks =>
    cases again with
    | called callable => cases callable.symm.trans silent
    | asked _ asksAgain =>
      cases asks.symm.trans asksAgain
      rfl
    | matched _ unasked =>
      rw [asks] at unasked
      cases unasked
  | matched silent unasked matching =>
    cases again with
    | called callable => cases callable.symm.trans silent
    | asked _ asks =>
      rw [asks] at unasked
      cases unasked
    | matched _ _ matchingAgain =>
      cases matching.symm.trans matchingAgain
      rfl

/-- An object that was taken for one to be asked is asked by the function that it has. -/
theorem accepts_means {given : Object Caller} (silent : given.call? = none)
    (asked : given.test.isRoutine = true ∨ given.matching.isRoutine = true) :
    (Spec.object given).Means unit caller (given.accepts [unit] caller) := by
  unfold Object.accepts
  cases asks : given.test with
  | routine run => exact .asked silent asks
  | missing | plain value =>
    have unasked : given.test.isRoutine = false := by rw [asks]; rfl
    cases matching : given.matching with
    | routine run => exact .matched silent unasked matching
    | missing | plain value =>
      rw [unasked, matching] at asked
      rcases asked with asked | asked <;> cases asked

/-- The matcher that a spec is read as answers what the spec means. -/
theorem test_means (raw : ∀ given, spec ≠ .matcher given) (stands : spec.toMatcher = .ok matcher)
    (unit : CodePoint) (caller : Caller) :
    spec.Means unit caller (matcher.test [unit] caller) := by
  cases spec with
  | flag holds => cases stands
  | code number =>
    obtain ⟨nonneg, rfl⟩ := Matcher.ofCode_eq_ok_iff.mp stands
    refine .code ?_
    show (unit.code == number.toNat) = true ↔ _
    rw [beq_iff_eq]
    omega
  | text content =>
    cases content with
    | nil => cases stands
    | cons first rest =>
      cases stands
      refine .text ?_
      show ([unit] == [first]) = true ↔ _
      rw [beq_iff_eq, List.singleton_inj]
  | regex given =>
    cases stands
    have answer : given.asObject.accepts [unit] caller =
        (.ok (given.matchesBeginning [unit]), caller) := by
      unfold Object.accepts Regex.asObject
      dsimp only
      cases given.matchesBeginning [unit] <;> rfl
    show Means _ unit caller (given.asObject.accepts [unit] caller)
    rw [answer]
    exact .regex
  | collection given =>
    cases stands
    exact .collection (given.contains_text_iff [unit])
  | object given =>
    rcases given.called_or_asked_or_mute with ⟨run, callable⟩ | ⟨silent, asked⟩ | mute
    · cases (toMatcher_of_called callable).symm.trans stands
      have called : given.invoke (.text [unit]) caller = run (.text [unit]) caller := by
        rw [Object.invoke, callable]
      show Means _ unit caller ((given.invoke (.text [unit]) caller).1.map Value.truth,
        (given.invoke (.text [unit]) caller).2)
      rw [called]
      exact .called callable
    · cases (toMatcher_of_asked silent asked).symm.trans stands
      exact accepts_means silent asked
    · cases (toMatcher_of_mute (object given) mute).symm.trans stands
  | matcher given => exact absurd rfl (raw given)

/-- Only the function that an object is asked by can fail, and the answer then fails as it does. -/
theorem Means.error {cause : Failure} {after : Caller}
    (means : spec.Means unit caller (.error cause, after)) :
    ∃ given run, spec = .object given ∧ given.function? = some run ∧
      run [unit] caller = (.error cause, after) := by
  generalize answered : (Except.error cause, after) = answer at means
  cases means with
  | code | text | regex | collection => cases answered
  | @called given run _ _ callable =>
    obtain ⟨failed, left⟩ := Prod.mk.inj answered
    refine ⟨given, fun text => run (.text text), rfl, ?_,
      Prod.ext (error_of_map failed.symm) left.symm⟩
    rw [Object.function?, callable]
  | @asked given run _ _ silent asks =>
    obtain ⟨failed, left⟩ := Prod.mk.inj answered
    refine ⟨given, run, rfl, ?_, Prod.ext (error_of_map failed.symm) left.symm⟩
    rw [Object.function?, silent, asks]
  | @matched given run _ _ silent unasked matching =>
    obtain ⟨failed, left⟩ := Prod.mk.inj answered
    refine ⟨given, run, rfl, ?_, Prod.ext (error_of_map failed.symm) left.symm⟩
    rw [Object.function?, silent, matching]
    cases asks : given.test with
    | routine other =>
      rw [asks] at unasked
      cases unasked
    | missing | plain value => rfl

/-- What is read as a matcher asks nothing but the character itself, and that at most once. -/
theorem asks_of_raw (raw : ∀ given, spec ≠ .matcher given) (stands : spec.toMatcher = .ok matcher)
    (unit : CodePoint) : matcher.asks unit = [] ∨ matcher.asks unit = [.text [unit]] := by
  cases spec with
  | flag holds => cases stands
  | code number =>
    obtain ⟨_, rfl⟩ := Matcher.ofCode_eq_ok_iff.mp stands
    exact .inl rfl
  | text content =>
    cases content <;> cases stands
    exact .inl rfl
  | regex given | collection given =>
    cases stands
    exact .inr rfl
  | object given =>
    rcases given.called_or_asked_or_mute with ⟨run, callable⟩ | ⟨silent, asked⟩ | mute
    · cases (toMatcher_of_called callable).symm.trans stands
      exact .inr (if_pos (Option.isSome_of_eq_some callable))
    · cases (toMatcher_of_asked silent asked).symm.trans stands
      exact .inr (if_pos (Bool.or_eq_true_iff.mpr asked))
    · cases (toMatcher_of_mute (object given) mute).symm.trans stands
  | matcher given => exact absurd rfl (raw given)

end Meant

/-- A matcher is what a spec is read as. -/
structure ReadAs (spec : Spec Caller) (matcher : Matcher Caller) : Prop where
  means : ∀ unit caller answer,
    matcher.test [unit] caller = answer ↔ spec.Means unit caller answer
  /-- It asks at most one function, once and about the character. -/
  asks : ∀ unit caller, ∃ asked, matcher.recorded.test [unit] (caller, []) =
      ((matcher.test [unit] caller).1, (matcher.test [unit] caller).2, asked) ∧
    (asked = [] ∨ asked = [.text [unit]])
  /-- It fails only as that function fails. -/
  fails : ∀ unit caller cause after, matcher.test [unit] caller = (.error cause, after) →
    ∃ given run, spec = .object given ∧ given.function? = some run ∧
      run [unit] caller = (.error cause, after)
  /-- Read again it stays as it is. -/
  again : (Spec.matcher matcher).toMatcher = .ok matcher

/-- What callers hand over is read by its meaning. The empty text and the codes below zero are
refused for their value; flags, and objects that nothing can be asked of, for their kind, except
that a failure to show one of these takes the place of the refusal. All else is read as a matcher.
Of each character the matcher says what is meant, asking at most one function, once and about the
character, and failing only as the function does. -/
theorem toMatcher_means (spec : Spec Caller) (raw : ∀ given, spec ≠ .matcher given) :
    (spec.RefusedFor .value ↔
        spec.IsVoid ∨ ∃ cause, spec.Hides cause ∧ cause.fault? = some .value) ∧
      (spec.RefusedFor .kind ↔
        spec.IsMute ∧ ∀ cause, spec.Hides cause → cause.fault? = some .kind) ∧
      (∀ cause, spec.Hides cause → spec.toMatcher = .error cause) ∧
      ((∃ matcher, spec.toMatcher = .ok matcher) ↔ ¬ spec.IsVoid ∧ ¬ spec.IsMute) ∧
      ∀ matcher, spec.toMatcher = .ok matcher → spec.ReadAs matcher := by
  refine ⟨refusedFor_value_iff raw, refusedFor_kind_iff raw, fun _ => Hides.toMatcher,
    exists_matcher_iff raw, fun matcher stands => ?_⟩
  have meant := test_means raw stands
  constructor
  case means =>
    refine fun unit caller answer => ⟨?_, fun means => means.unique (meant unit caller)⟩
    rintro rfl
    exact meant unit caller
  case asks =>
    exact fun unit caller => ⟨matcher.asks unit, matcher.test_recorded unit caller [],
      asks_of_raw raw stands unit⟩
  case fails =>
    intro unit caller cause after failed
    exact Means.error (failed ▸ meant unit caller)
  case again => rfl

/-- An object whose name for asking directly holds a text, and that answers by an empty list where
it matches, counting how often it is asked. -/
def listing : Object Nat where
  kind := "Listing"
  shown := .ok "<Listing>"
  identity := .unique 0
  test := .plain (.text "test")
  matching := .routine fun text count => (.ok (if text = "a" then .list [] else .null), count + 1)

theorem object_ne_matcher (given : Object Caller) (matcher : Matcher Caller) :
    object given ≠ .matcher matcher :=
  nofun

/-- A list of one number. -/
def singleton (number : Int) : Spec Unit := .object (.ofValue 900 (.list [.int number]))

/-- The least number with more than so many digits. -/
def powerOfTen (digits : Nat) : Int := Nat.pow 10 digits

theorem isOverlong_powerOfTen {digits : Nat} (many : Text.maxDigits ≤ digits) :
    Text.isOverlong (powerOfTen digits) = true := by
  rw [Text.isOverlong_iff, powerOfTen, Int.natAbs_natCast]
  exact Nat.pow_le_pow_right (by decide) many

theorem maxDigits_le : Text.maxDigits ≤ 5000 := by
  unfold Text.maxDigits
  decide

/-- A list of a number with too many digits stands for nothing and cannot be shown. -/
theorem hides_singleton {number : Int} (long : Text.isOverlong number = true) :
    (singleton number).Hides .numeralTooLong := by
  refine ⟨⟨rfl, rfl, rfl⟩, ?_⟩
  show (Value.list [.int number]).shown 900 = _
  simp only [Value.shown, Value.obstacle?, Value.obstacleAmong?, long, if_true, Option.some_or]

/-- The text cannot be called, so the object is asked for a match; and an empty list is one. A list
of a long number is refused as it fails to be shown. -/
theorem toMatcher_means_listing :
    (∀ given, Spec.object listing ≠ .matcher given) ∧
      (Spec.object listing).toMatcher = .ok (.pattern listing) ∧
      (Spec.object listing).Means 'a' 0 (.ok true, 1) ∧
      (Spec.object listing).Means 'b' 1 (.ok false, 2) ∧
      (∀ given, singleton (powerOfTen 5000) ≠ .matcher given) ∧
      (singleton (powerOfTen 5000)).Hides .numeralTooLong ∧
      (singleton (powerOfTen 5000)).toMatcher = .error .numeralTooLong := by
  have raw := object_ne_matcher listing
  have stands : (Spec.object listing).toMatcher = .ok (.pattern listing) := rfl
  have readAs := (toMatcher_means _ raw).2.2.2.2 _ stands
  have rawList : ∀ given, singleton (powerOfTen 5000) ≠ .matcher given := object_ne_matcher _
  have hides := hides_singleton (isOverlong_powerOfTen maxDigits_le)
  exact ⟨raw, stands, (readAs.means 'a' 0 _).mp rfl, (readAs.means 'b' 1 _).mp rfl, rawList,
    hides, (toMatcher_means _ rawList).2.2.1 _ hides⟩

theorem not_refusedFor_kind_of_overlong {number : Int} (long : Text.isOverlong number = true) :
    (singleton number).IsMute ∧ ¬ (singleton number).RefusedFor .kind ∧
      (singleton number).RefusedFor .value := by
  have hides := hides_singleton long
  refine ⟨hides.1, fun refused => ?_, (refusedFor_iff_of_error hides.toMatcher).mpr rfl⟩
  cases (refusedFor_iff_of_error hides.toMatcher).mp refused

/-- Nothing can be asked of a list, and yet one that holds a long number is not refused for its
kind: the refusal would have to show the number. -/
theorem not_refusedFor_kind_singleton :
    (singleton (powerOfTen 5000)).IsMute ∧ ¬ (singleton (powerOfTen 5000)).RefusedFor .kind ∧
      (singleton (powerOfTen 5000)).RefusedFor .value :=
  not_refusedFor_kind_of_overlong (isOverlong_powerOfTen maxDigits_le)

end Spec

end Lexing
