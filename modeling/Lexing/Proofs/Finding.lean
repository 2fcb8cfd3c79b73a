/-
This file says where a search takes a cursor: to the first place at which the needle stands wholly
in what is left of the range, wherever the cursor is. A position before the text counts from its
end, and one still before that is its beginning. A single character is found where taking all others
stops.

Searching again from behind each place found is a loop. Told here as the trace that it leaves, it
comes to an end, because every round goes on by a character at least, and it passes every occurrence
once and in order. Occurrences may overlap, since a round goes on by no more than one character.
-/

import Lexing.Proofs.Maximal
import Lexing.Proofs.Search

namespace Lexing

variable {Caller : Type}

/-- What can be searched for, with the text that it stands for: every text but the empty one, and
every code of a character. -/
inductive Glyph.StandsFor : Glyph → Text → Prop where
  | text {content : Text} (nonempty : content ≠ []) : StandsFor (.text content) content
  | code (unit : CodePoint) : StandsFor (.code unit.code) [unit]

theorem Glyph.StandsFor.toNeedle {needle : Glyph} {content : Text}
    (stands : needle.StandsFor content) : needle.toNeedle = .ok content := by
  cases stands with
  | text nonempty =>
    cases content with
    | nil => exact absurd rfl nonempty
    | cons unit rest => rfl
  | code unit =>
    show (CodePoint.ofInt unit.code).map _ = _
    rw [CodePoint.ofInt_code]
    rfl

namespace Cursor

/-- The offset that a search begins at. A negative position counts from the end of the text, as far
as there is a text. -/
def searchStart (cursor : Cursor) : Nat :=
  if cursor.position < 0 then (cursor.position + cursor.text.length).toNat
  else cursor.position.toNat

/-- A needle stands at an index in what is left of the range. -/
def HasAhead (cursor : Cursor) (content : Text) (index : Nat) : Prop :=
  cursor.text.OccursAt content cursor.searchStart cursor.stop.toNat index

/-! ### Searches -/

section Searches

variable {cursor : Cursor} {needle : Glyph} {content : Text}

theorem searchStart_of_nonneg (nonneg : 0 ≤ cursor.position) :
    cursor.searchStart = cursor.position.toNat :=
  if_neg (Int.not_lt.mpr nonneg)

/-- The bounds of a search are those of the range, but for a position behind the text, where there
is nothing ahead. -/
theorem hasAhead_iff (nonneg : 0 ≤ cursor.stop) (inside : cursor.stop ≤ cursor.text.length)
    (nonempty : content ≠ []) {index : Nat} :
    cursor.text.OccursAt content (cursor.text.bound cursor.position)
        (cursor.text.bound cursor.stop) index ↔ cursor.HasAhead content index := by
  have positive : 0 < content.length := List.length_pos_iff.mpr nonempty
  have upper : cursor.text.bound cursor.stop = cursor.stop.toNat := by
    unfold Text.bound
    rw [if_neg (Int.not_lt.mpr nonneg)]
    omega
  have lower (fits : index + content.length ≤ cursor.stop.toNat) :
      cursor.text.bound cursor.position ≤ index ↔ cursor.searchStart ≤ index := by
    unfold Text.bound searchStart
    split
    · exact Iff.rfl
    · omega
  unfold HasAhead
  rw [upper]
  exact ⟨fun occurs => ⟨(lower occurs.fits).mp occurs.le, occurs.fits, occurs.here⟩,
    fun occurs => ⟨(lower occurs.fits).mpr occurs.le, occurs.fits, occurs.here⟩⟩

theorem skipTo_of_found (stands : needle.StandsFor content) (nonneg : 0 ≤ cursor.stop)
    (inside : cursor.stop ≤ cursor.text.length) {index : Nat}
    (first : IsLeast {index | cursor.HasAhead content index} index) :
    cursor.skipTo needle = cursor.moveTo index (.ok true) := by
  have wanted := stands.toNeedle
  have nonempty := toNeedle_ne_nil wanted
  have found : cursor.text.find? content cursor.position cursor.stop = some index := by
    rw [Text.find?_eq_some_iff nonempty]
    simp only [hasAhead_iff nonneg inside nonempty]
    exact first
  unfold skipTo
  rw [wanted]
  dsimp only
  rw [found]

theorem skipTo_of_missed (stands : needle.StandsFor content) (nonneg : 0 ≤ cursor.stop)
    (inside : cursor.stop ≤ cursor.text.length)
    (nowhere : ∀ index, ¬ cursor.HasAhead content index) :
    cursor.skipTo needle = cursor.stay (.ok false) := by
  have wanted := stands.toNeedle
  have nonempty := toNeedle_ne_nil wanted
  have missed : cursor.text.find? content cursor.position cursor.stop = none := by
    rw [Text.find?_eq_none_iff nonempty]
    simp only [hasAhead_iff nonneg inside nonempty]
    exact nowhere
  unfold skipTo
  rw [wanted]
  dsimp only
  rw [missed]

theorem exists_first (content : Text) (somewhere : ∃ index, cursor.HasAhead content index) :
    ∃ index, IsLeast {index | cursor.HasAhead content index} index := by
  classical
  exact ⟨Nat.find somewhere, Nat.find_spec somewhere, fun _ also => Nat.find_min' somewhere also⟩

/-! ### Single characters -/

theorem hasAhead_singleton_iff (nonneg : 0 ≤ cursor.position) {unit : CodePoint} {index : Nat} :
    cursor.HasAhead [unit] index ↔
      cursor.position ≤ index ∧ (index : Int) < cursor.stop ∧
        cursor.text.read index = .ok unit := by
  unfold HasAhead
  rw [Text.occursAt_singleton_iff, searchStart_of_nonneg nonneg, Text.read_natCast_iff]
  refine and_congr (by omega) (and_congr_left fun _ => by omega)

/-- A run of characters that are not the one looked for goes on up to the first that is. -/
theorem first_of_runsTo (nonneg : 0 ≤ cursor.position) {unit : CodePoint} {reached : Int}
    (runs : cursor.text.RunsTo (· != unit) cursor.position cursor.stop reached) {index : Nat} :
    IsLeast {index | cursor.HasAhead [unit] index} index ↔
      reached = index ∧ reached < cursor.stop := by
  have ordered := runs.le
  -- the run stops at no other character, and passes none that is looked for
  have stops (before : reached < cursor.stop) : cursor.text.read reached = .ok unit := by
    obtain ⟨other, read, refused⟩ := runs.refused before
    rw [read, bne_eq_false_iff_eq.mp refused]
  have passes {other : Nat} (ahead : cursor.HasAhead [unit] other) : reached ≤ other := by
    obtain ⟨above, _, here⟩ := (hasAhead_singleton_iff nonneg).mp ahead
    by_contra before
    obtain ⟨passed, read, accepted⟩ := runs.accepted other above (Int.not_le.mp before)
    rw [here] at read
    cases read
    exact bne_iff_ne.mp accepted rfl
  constructor
  · rintro ⟨ahead, least⟩
    obtain ⟨_, before, _⟩ := (hasAhead_singleton_iff nonneg).mp ahead
    have le := passes ahead
    obtain ⟨place, rfl⟩ := Int.eq_ofNat_of_zero_le (Int.le_trans nonneg ordered)
    have inRange : (place : Int) < cursor.stop := Int.lt_of_le_of_lt le before
    have ge := least ((hasAhead_singleton_iff nonneg).mpr ⟨ordered, inRange, stops inRange⟩)
    exact ⟨by omega, inRange⟩
  · rintro ⟨rfl, before⟩
    exact ⟨(hasAhead_singleton_iff nonneg).mpr ⟨ordered, before, stops before⟩,
      fun other ahead => Int.ofNat_le.mp (passes ahead)⟩

end Searches

/-- A search takes the cursor to the first place of the needle in what is left of the range, and
leaves it alone if there is none. A single character is found just where taking all other characters
ends before the range does. -/
theorem skipTo_first {cursor : Cursor} (nonneg : 0 ≤ cursor.stop)
    (inside : cursor.stop ≤ cursor.text.length) {needle : Glyph} {content : Text}
    (stands : needle.StandsFor content) :
    let searched := cursor.skipTo needle
    (searched.result = .ok true ↔ ∃ index, cursor.HasAhead content index) ∧
    (∀ index, IsLeast {index | cursor.HasAhead content index} index →
      searched.cursor = { cursor with position := index }) ∧
    ((∀ index, ¬ cursor.HasAhead content index) →
      searched.result = .ok false ∧ searched.cursor = cursor) ∧
    ∀ unit, content = [unit] → 0 ≤ cursor.position →
      ∀ (spec : Spec Caller) (caller : Caller), spec.Decides cursor.text (· != unit) →
        let eaten := (cursor.eatWhile spec caller).1
        (∃ taken, eaten.result = .ok taken) ∧
        ∀ reached, searched.result = .ok true ∧ searched.cursor.position = reached ↔
          eaten.cursor.position = reached ∧ reached < cursor.stop := by
  intro searched
  have found {index : Nat} (first : IsLeast {index | cursor.HasAhead content index} index) :
      searched = cursor.moveTo index (.ok true) := skipTo_of_found stands nonneg inside first
  have missed (nowhere : ∀ index, ¬ cursor.HasAhead content index) :
      searched = cursor.stay (.ok false) := skipTo_of_missed stands nonneg inside nowhere
  refine ⟨⟨fun answered => ?_, fun somewhere => ?_⟩, fun index first => ?_, fun nowhere => ?_, ?_⟩
  · by_contra nowhere
    rw [missed fun index ahead => nowhere ⟨index, ahead⟩] at answered
    cases answered
  · obtain ⟨index, first⟩ := exists_first content somewhere
    rw [found first]
    rfl
  · rw [found first]
    rfl
  · rw [missed nowhere]
    exact ⟨rfl, rfl⟩
  · rintro unit rfl above spec caller decides eaten
    have readable : cursor.text.ReadableBetween cursor.position cursor.stop :=
      Text.readableBetween_of_le (by omega) inside
    obtain ⟨last, after, taken, runs⟩ := eatWhile_of_decides decides readable caller
    have whole : eaten = cursor.moveTo last (.ok (last != cursor.position)) :=
      congrArg Prod.fst taken
    refine ⟨⟨_, congrArg Moved.result whole⟩, fun reached => ?_⟩
    rw [whole]
    show _ ↔ last = reached ∧ reached < cursor.stop
    by_cases before : last < cursor.stop
    · obtain ⟨index, rfl⟩ := Int.eq_ofNat_of_zero_le (Int.le_trans above runs.le)
      rw [found ((first_of_runsTo above runs).mpr ⟨rfl, before⟩)]
      exact ⟨fun same => ⟨same.2, same.2 ▸ before⟩, fun same => ⟨rfl, same.1⟩⟩
    · have nowhere : ∀ index, ¬ cursor.HasAhead [unit] index := fun index ahead => by
        obtain ⟨first, least⟩ := exists_first [unit] ⟨index, ahead⟩
        exact before ((first_of_runsTo above runs).mp least).2
      rw [missed nowhere]
      exact ⟨fun same => (nomatch same.1), fun same => absurd (same.1 ▸ same.2) before⟩

/-- A cursor that has gone back before a text in which a word stands twice. -/
def twice : Cursor := ⟨"aabaab", -5, 0, 0, 6, .standard⟩

/-- A predicate that accepts every character but one. -/
def otherThan (unit : CodePoint) : Object Unit where
  kind := "function"
  shown := .ok "<function>"
  identity := .unique 0
  call? := some fun argument caller => (.ok (.flag (argument != .text [unit])), caller)

theorem decides_otherThan (unit : CodePoint) (text : Text) :
    (Spec.object (otherThan unit)).Decides text (· != unit) := by
  refine ⟨_, rfl, fun other _ caller => ?_⟩
  show Except.ok (Argument.text [other] != .text [unit]) = _
  have same : (Argument.text [other] != .text [unit]) = (other != unit) := by
    rw [Bool.eq_iff_iff, bne_iff_ne, bne_iff_ne]
    exact not_congr ⟨fun same => by cases same; rfl, fun same => by rw [same]⟩
  rw [same]

/-- From there the second one is found, at the very end. From the beginning, what comes before the
first `b` is all that is taken of other characters. -/
theorem skipTo_first_twice :
    (0 ≤ twice.stop ∧ twice.stop ≤ twice.text.length ∧
      (Glyph.text "aab").StandsFor "aab" ∧ (Glyph.code 98).StandsFor [.ofChar 'b']) ∧
    (twice.skipTo (.text "aab")).result = .ok true ∧
    (twice.skipTo (.text "aab")).cursor = { twice with position := 3 } ∧
    ({ twice with position := 0 }.eatWhile (.object (otherThan (.ofChar 'b'))) ()).1.cursor.position
      = 2 := by
  have nonneg : 0 ≤ twice.stop := by decide
  have inside : twice.stop ≤ twice.text.length := by decide
  have word : (Glyph.text "aab").StandsFor "aab" := .text (by decide)
  have letter : (Glyph.code 98).StandsFor [.ofChar 'b'] := .code (.ofChar 'b')
  have ahead : twice.HasAhead "aab" 3 := ⟨by decide, by decide, rfl⟩
  obtain ⟨found, moved, _⟩ := @skipTo_first Unit twice nonneg inside _ _ word
  have alone := (@skipTo_first Unit { twice with position := 0 } nonneg inside _ _ letter).2.2.2
    (.ofChar 'b') rfl (by decide) (.object (otherThan (.ofChar 'b'))) ()
    (decides_otherThan (.ofChar 'b') twice.text)
  refine ⟨⟨nonneg, inside, word, letter⟩, found.mpr ⟨3, ahead⟩,
    moved 3 ⟨ahead, fun index also => ?_⟩, ((alone.2 2).mp ⟨rfl, rfl⟩).1⟩
  have le : 1 ≤ index := also.le
  by_contra before
  have early : index = 1 ∨ index = 2 := by omega
  rcases early with rfl | rfl <;> exact absurd also.here (by decide)

/-! ### Searching in a loop -/

/-- The trace of a search that is repeated from behind the beginning of each place found, until
there is none: the offsets found, and the cursor that is left. -/
inductive Visits (needle : Glyph) : Cursor → List Int → Cursor → Prop where
  | done {cursor : Cursor} (missed : (cursor.skipTo needle).result = .ok false) :
      Visits needle cursor [] (cursor.skipTo needle).cursor
  | round {cursor last : Cursor} {offsets : List Int} {unit : Option CodePoint}
      (found : (cursor.skipTo needle).result = .ok true)
      (taken : (cursor.skipTo needle).cursor.next.result = .ok unit)
      (rest : Visits needle (cursor.skipTo needle).cursor.next.cursor offsets last) :
      Visits needle cursor ((cursor.skipTo needle).cursor.position :: offsets) last

/-- The offsets are those at which the needle stands in what is left of the range, each once and in
order, and are no more than there are characters left. -/
structure ListsAhead (cursor : Cursor) (content : Text) (offsets : List Int) : Prop where
  length_le : (offsets.length : Int) ≤ cursor.stop - cursor.position
  increasing : offsets.Pairwise (· < ·)
  mem_iff : ∀ offset, offset ∈ offsets ↔
    ∃ index : Nat, offset = index ∧ cursor.HasAhead content index

/-- The position is in the text, and the end of the range behind it. -/
structure OnText (cursor : Cursor) : Prop where
  nonneg : 0 ≤ cursor.position
  le_stop : cursor.position ≤ cursor.stop
  stop_le_length : cursor.stop ≤ cursor.text.length

section Loops

variable {cursor last : Cursor} {needle : Glyph} {content : Text} {offsets : List Int} {index : Nat}

/-- The loop has only one trace. -/
theorem Visits.unique {other : Cursor} {others : List Int}
    (visits : Visits needle cursor offsets last) (also : Visits needle cursor others other) :
    others = offsets ∧ other = last := by
  induction visits generalizing others other with
  | done missed =>
    cases also with
    | done => exact ⟨rfl, rfl⟩
    | round found => cases missed.symm.trans found
  | round found taken rest inductionHypothesis =>
    cases also with
    | done missed => cases missed.symm.trans found
    | round _ _ restAlso =>
      obtain ⟨same, left⟩ := inductionHypothesis restAlso
      exact ⟨congrArg _ same, left⟩

/-- A needle ahead leaves room for another step. -/
theorem HasAhead.lt_stop (ahead : cursor.HasAhead content index) (nonempty : content ≠ []) :
    (index : Int) < cursor.stop := by
  have positive : 0 < content.length := List.length_pos_iff.mpr nonempty
  have fits := ahead.fits
  omega

theorem HasAhead.position_le (ahead : cursor.HasAhead content index) (onText : cursor.OnText) :
    cursor.position ≤ index := by
  have le := ahead.le
  rw [searchStart_of_nonneg onText.nonneg] at le
  omega

/-- A round of the loop goes to the first place of the needle and one character on. -/
theorem OnText.round (onText : cursor.OnText) (stands : needle.StandsFor content)
    (first : IsLeast {index | cursor.HasAhead content index} index) :
    ∃ unit, cursor.skipTo needle = cursor.moveTo index (.ok true) ∧
      (cursor.skipTo needle).cursor.next =
        (cursor.skipTo needle).cursor.moveTo (index + 1) (.ok (some unit)) ∧
      { cursor with position := index + 1 }.OnText := by
  have before := first.1.lt_stop (toNeedle_ne_nil stands.toNeedle)
  have moved := skipTo_of_found stands (Int.le_trans onText.nonneg onText.le_stop)
    onText.stop_le_length first
  obtain ⟨unit, _, read⟩ : ∃ unit ∈ cursor.text, cursor.text.read index = .ok unit :=
    Text.exists_read (Int.natCast_nonneg index) (Int.lt_of_lt_of_le before onText.stop_le_length)
  have found : (cursor.skipTo needle).cursor.peek = .ok (some unit) := by
    rw [moved]
    exact peek_of_read before read
  refine ⟨unit, moved, ?_, ?_, before, onText.stop_le_length⟩
  · unfold next
    rw [found, moved]
    rfl
  · exact Int.le_add_one (Int.natCast_nonneg index)

theorem OnText.missed (onText : cursor.OnText) (stands : needle.StandsFor content)
    (nowhere : ¬ ∃ index, cursor.HasAhead content index) :
    cursor.skipTo needle = cursor.stay (.ok false) :=
  skipTo_of_missed stands (Int.le_trans onText.nonneg onText.le_stop) onText.stop_le_length
    fun index ahead => nowhere ⟨index, ahead⟩

/-- Behind the first place of the needle there are all others. -/
theorem hasAhead_behind_iff
    (first : IsLeast {index | cursor.HasAhead content index} index) {other : Nat} :
    { cursor with position := index + 1 }.HasAhead content other ↔
      cursor.HasAhead content other ∧ other ≠ index := by
  have behind : { cursor with position := (index : Int) + 1 }.searchStart = index + 1 :=
    searchStart_of_nonneg (show (0 : Int) ≤ index + 1 by omega)
  have le : cursor.searchStart ≤ index := first.1.le
  constructor
  · rintro ⟨later, fits, here⟩
    rw [behind] at later
    exact ⟨⟨by omega, fits, here⟩, by omega⟩
  · rintro ⟨ahead, differs⟩
    have ge := first.2 ahead
    exact ⟨by rw [behind]; omega, ahead.fits, ahead.here⟩

theorem ListsAhead.nil (onText : cursor.OnText)
    (nowhere : ¬ ∃ index, cursor.HasAhead content index) : cursor.ListsAhead content [] := by
  refine ⟨Int.sub_nonneg_of_le onText.le_stop, List.Pairwise.nil, fun offset => ⟨?_, ?_⟩⟩
  · exact fun member => nomatch member
  · rintro ⟨index, _, ahead⟩
    exact absurd ⟨index, ahead⟩ nowhere

/-- The first place, and those behind it, are all places. -/
theorem ListsAhead.cons (onText : cursor.OnText)
    (first : IsLeast {index | cursor.HasAhead content index} index)
    (lists : { cursor with position := index + 1 }.ListsAhead content offsets) :
    cursor.ListsAhead content (index :: offsets) := by
  have above := first.1.position_le onText
  have few := lists.length_le
  dsimp only at few
  refine ⟨?_, List.pairwise_cons.mpr ⟨fun offset member => ?_, lists.increasing⟩,
    fun offset => ?_⟩
  · rw [List.length_cons]
    omega
  · obtain ⟨other, rfl, ahead⟩ := (lists.mem_iff offset).mp member
    obtain ⟨also, differs⟩ := (hasAhead_behind_iff first).mp ahead
    have ge := first.2 also
    omega
  · rw [List.mem_cons, lists.mem_iff]
    simp only [hasAhead_behind_iff first]
    constructor
    · rintro (rfl | ⟨other, rfl, ahead, _⟩)
      · exact ⟨index, rfl, first.1⟩
      · exact ⟨other, rfl, ahead⟩
    · rintro ⟨other, rfl, ahead⟩
      by_cases same : other = index
      · exact .inl (congrArg _ same)
      · exact .inr ⟨other, rfl, ahead, same⟩

/-- A trace lists the places of the needle. -/
theorem Visits.listsAhead (visits : Visits needle cursor offsets last)
    (stands : needle.StandsFor content) (onText : cursor.OnText) :
    cursor.ListsAhead content offsets := by
  induction visits with
  | @done cursor missed =>
    refine .nil onText fun somewhere => ?_
    obtain ⟨index, first⟩ := exists_first content somewhere
    obtain ⟨_, moved, _⟩ := onText.round stands first
    rw [moved] at missed
    cases missed
  | @round cursor last offsets _ found taken rest inductionHypothesis =>
    by_cases somewhere : ∃ index, cursor.HasAhead content index
    · obtain ⟨index, first⟩ := exists_first content somewhere
      obtain ⟨unit, moved, next, behind⟩ := onText.round stands first
      rw [next, moved] at inductionHypothesis
      rw [moved]
      exact .cons onText first (inductionHypothesis behind)
    · rw [onText.missed stands somewhere] at found
      cases found

/-- The loop comes to an end. -/
theorem exists_visits (cursor : Cursor) (stands : needle.StandsFor content)
    (onText : cursor.OnText) : ∃ offsets last, Visits needle cursor offsets last := by
  by_cases somewhere : ∃ index, cursor.HasAhead content index
  · obtain ⟨index, first⟩ := exists_first content somewhere
    have before := first.1.lt_stop (toNeedle_ne_nil stands.toNeedle)
    have above := first.1.position_le onText
    obtain ⟨unit, moved, next, behind⟩ := onText.round stands first
    obtain ⟨offsets, last, rest⟩ :=
      exists_visits { cursor with position := index + 1 } stands behind
    refine ⟨(cursor.skipTo needle).cursor.position :: offsets, last,
      .round (congrArg Moved.result moved) (congrArg Moved.result next) ?_⟩
    rw [next, moved]
    exact rest
  · exact ⟨[], (cursor.skipTo needle).cursor,
      .done (congrArg Moved.result (onText.missed stands somewhere))⟩
termination_by (cursor.stop - cursor.position).toNat
decreasing_by omega

end Loops

/-- Searching again from one character behind each place found comes to an end in one way, after no
more rounds than there are characters left. It finds every place of the needle in what is left of
the range, each once and in order, overlapping ones included. -/
theorem visits_all {cursor : Cursor} (nonneg : 0 ≤ cursor.position)
    (ordered : cursor.position ≤ cursor.stop) (inside : cursor.stop ≤ cursor.text.length)
    {needle : Glyph} {content : Text} (stands : needle.StandsFor content) :
    ∃ offsets last, Visits needle cursor offsets last ∧
      (∀ others other, Visits needle cursor others other → others = offsets ∧ other = last) ∧
      (offsets.length : Int) ≤ cursor.stop - cursor.position ∧
      offsets.Pairwise (· < ·) ∧
      ∀ offset, offset ∈ offsets ↔ ∃ index : Nat, offset = index ∧
        cursor.text.OccursAt content cursor.position.toNat cursor.stop.toNat index := by
  have onText : cursor.OnText := ⟨nonneg, ordered, inside⟩
  obtain ⟨offsets, last, visits⟩ := exists_visits cursor stands onText
  obtain ⟨few, increasing, members⟩ := visits.listsAhead stands onText
  unfold HasAhead at members
  rw [searchStart_of_nonneg nonneg] at members
  exact ⟨offsets, last, visits, fun others other => visits.unique, few, increasing, members⟩

/-- A row of letters that goes on behind the end of the range. -/
def row : Cursor := ⟨"baaaa", 0, 0, 0, 4, .standard⟩

/-- Pairs of letters are found at two places that overlap. The third goes across the end. -/
theorem visits_all_pairs :
    (0 ≤ row.position ∧ row.position ≤ row.stop ∧ row.stop ≤ row.text.length ∧
      (Glyph.text "aa").StandsFor "aa") ∧
    (∃ last, Visits (.text "aa") row [1, 2] last) ∧
    ∀ offset : Int, offset ∈ [1, 2] ↔
      ∃ index : Nat, offset = index ∧ row.text.OccursAt "aa" 0 4 index := by
  have nonneg : 0 ≤ row.position := by decide
  have ordered : row.position ≤ row.stop := by decide
  have inside : row.stop ≤ row.text.length := by decide
  have stands : (Glyph.text "aa").StandsFor "aa" := .text (by decide)
  have trace : Visits (.text "aa") row [1, 2] { row with position := 3 } :=
    .round rfl rfl (.round rfl rfl (.done rfl))
  obtain ⟨offsets, last, _, unique, _, _, members⟩ := visits_all nonneg ordered inside stands
  obtain ⟨rfl, _⟩ := unique _ _ trace
  exact ⟨⟨nonneg, ordered, inside, stands⟩, ⟨_, trace⟩, members⟩

end Cursor

end Lexing
