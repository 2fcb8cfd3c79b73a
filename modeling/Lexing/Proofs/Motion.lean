/-
This file says how far the offsets of a cursor move in one step. No operation changes the text, the
range or the settings. Three operations are for setting offsets: moving back, marking, and marking
before a run of characters is taken. All others only scan: they leave the mark alone, and the
position stays or goes on, to the end of the range at most, whatever way the operation ends.
-/

import Lexing.Proofs.Offset
import Lexing.Proofs.Stage

namespace Lexing

variable {Caller : Type}

/-- Where the scan of a literal from an offset can end. The step over an escaped character may leave
the range, but a scan that has made it neither finds a quote nor reads any more. -/
def LiteralEnd.Within (position stop : Int) : LiteralEnd → Prop
  | closed reached => position < reached ∧ reached ≤ stop
  | unterminated => True
  | unreadable _ reached => position ≤ reached ∧ reached < stop

theorem LiteralEnd.Within.of_later {earlier later stop : Int} {ending : LiteralEnd}
    (within : ending.Within later stop) (le : earlier ≤ later) : ending.Within earlier stop := by
  cases ending with
  | closed reached => exact ⟨Int.lt_of_le_of_lt le within.1, within.2⟩
  | unterminated => trivial
  | unreadable cause reached => exact ⟨Int.le_trans le within.1, within.2⟩

namespace Cursor

/-- The second cursor has the text, the range and the settings of the first. -/
structure SameScope (before after : Cursor) : Prop where
  text : after.text = before.text
  lower : after.lower = before.lower
  stop : after.stop = before.stop
  settings : after.settings = before.settings

theorem SameScope.refl (cursor : Cursor) : cursor.SameScope cursor := ⟨rfl, rfl, rfl, rfl⟩

theorem SameScope.trans {first second third : Cursor} (early : first.SameScope second)
    (late : second.SameScope third) : first.SameScope third :=
  ⟨late.text.trans early.text, late.lower.trans early.lower, late.stop.trans early.stop,
    late.settings.trans early.settings⟩

/-- The second cursor stands where a scan from the first may have ended. -/
structure Forward (before after : Cursor) : Prop extends SameScope before after where
  start : after.start = before.start
  le : before.position ≤ after.position
  le_max : after.position ≤ max before.position before.stop

theorem Forward.refl (cursor : Cursor) : cursor.Forward cursor :=
  ⟨SameScope.refl cursor, rfl, Int.le_refl _, Int.le_max_left _ _⟩

theorem Forward.trans {first second third : Cursor} (early : first.Forward second)
    (late : second.Forward third) : first.Forward third := by
  refine ⟨early.toSameScope.trans late.toSameScope, late.start.trans early.start,
    Int.le_trans early.le late.le, ?_⟩
  have bound := late.le_max
  have earlier := early.le_max
  rw [early.stop] at bound
  omega

theorem forward_moveTo {Result : Type} (cursor : Cursor) {position : Int}
    (result : Except Failure Result) (le : cursor.position ≤ position)
    (le_max : position ≤ max cursor.position cursor.stop) :
    cursor.Forward (cursor.moveTo position result).cursor :=
  ⟨⟨rfl, rfl, rfl, rfl⟩, rfl, le, le_max⟩

/-! ### Taking characters -/

/-- Where there is a character to look at, the range is not used up. -/
theorem position_lt_of_peek {cursor : Cursor} {unit : CodePoint}
    (found : cursor.peek = .ok (some unit)) : cursor.position < cursor.stop := by
  unfold peek at found
  split at found
  case isTrue below => exact below
  case isFalse => cases found

theorem next_forward (cursor : Cursor) : cursor.Forward cursor.next.cursor := by
  unfold next
  split
  · rename_i unit found
    have below := position_lt_of_peek found
    exact forward_moveTo cursor _ (by omega) (by omega)
  · exact Forward.refl cursor

theorem drain_forward (cursor : Cursor) : cursor.Forward cursor.drain.cursor := by
  fun_induction drain cursor with
  | case1 cursor unit taken rest inductionHypothesis =>
    exact (next_forward cursor).trans inductionHypothesis
  | case2 cursor taken => exact next_forward cursor
  | case3 cursor cause taken => exact next_forward cursor

/-- A needle is never empty. -/
theorem toNeedle_ne_nil {needle : Glyph} {content : Text}
    (wanted : needle.toNeedle = .ok content) : content ≠ [] := by
  unfold Glyph.toNeedle at wanted
  split at wanted
  · cases wanted
  · cases wanted
    exact List.cons_ne_nil _ _
  · rename_i number
    cases read : CodePoint.ofInt number with
    | error cause =>
      rw [read] at wanted
      cases wanted
    | ok unit =>
      rw [read] at wanted
      cases wanted
      exact List.cons_ne_nil _ _

theorem skipTo_forward (cursor : Cursor) (nonneg : 0 ≤ cursor.stop) (needle : Glyph) :
    cursor.Forward (cursor.skipTo needle).cursor := by
  unfold skipTo
  split
  · exact Forward.refl cursor
  · rename_i content wanted
    split
    · rename_i offset found
      obtain ⟨early, late⟩ := Text.range_of_find? (toNeedle_ne_nil wanted) found
      obtain ⟨last, same⟩ := Int.eq_ofNat_of_zero_le nonneg
      rw [same, Text.bound_natCast] at late
      exact forward_moveTo cursor _ early (by omega)
    · exact Forward.refl cursor

theorem eat_forward (cursor : Cursor) (spec : Spec Caller) (caller : Caller) :
    cursor.Forward (cursor.eat spec caller).1.cursor := by
  unfold eat
  split
  case isFalse => exact Forward.refl cursor
  case isTrue below =>
    split
    · exact Forward.refl cursor
    · split
      · exact Forward.refl cursor
      · split
        · exact Forward.refl cursor
        · exact Forward.refl cursor
        · exact forward_moveTo cursor _ (by omega) (by omega)

/-- A run of accepted characters goes on, and never behind the end of the range. -/
theorem runEnd_position (matcher : Matcher Caller) (text : Text) (stop position : Int)
    (caller : Caller) :
    position ≤ (matcher.runEnd text stop position caller).position ∧
      (matcher.runEnd text stop position caller).position ≤ max position stop := by
  fun_induction Matcher.runEnd matcher text stop position caller with
  | case1 position caller below cause unread => exact ⟨Int.le_refl _, Int.le_max_left _ _⟩
  | case2 => exact ⟨Int.le_refl _, Int.le_max_left _ _⟩
  | case3 => exact ⟨Int.le_refl _, Int.le_max_left _ _⟩
  | case4 position caller below unit read after accepted inductionHypothesis =>
    obtain ⟨le, le_max⟩ := inductionHypothesis
    exact ⟨by omega, by omega⟩
  | case5 => exact ⟨Int.le_refl _, Int.le_max_left _ _⟩

theorem eatWhile_forward (cursor : Cursor) (spec : Spec Caller) (caller : Caller) :
    cursor.Forward (cursor.eatWhile spec caller).1.cursor := by
  unfold eatWhile
  split
  · exact Forward.refl cursor
  · obtain ⟨le, le_max⟩ := runEnd_position _ cursor.text cursor.stop cursor.position caller
    exact forward_moveTo cursor _ le le_max

theorem expect_forward (cursor : Cursor) (spec : Spec Caller) (message : Option Text)
    (caller : Caller) : cursor.Forward (cursor.expect spec message caller).1.cursor := by
  unfold expect
  split
  · exact Forward.refl cursor
  · split
    · exact Forward.refl cursor
    · exact Forward.refl cursor
    · rename_i unit found
      split
      · exact Forward.refl cursor
      · exact Forward.refl cursor
      · have below := position_lt_of_peek found
        exact forward_moveTo cursor _ (by omega) (by omega)

/-! ### Quoted literals -/

theorem literalEnd_within (text : Text) (stop : Int) (quote : CodePoint)
    (escape : Option CodePoint) (position : Int) :
    (text.literalEnd stop quote escape position).Within position stop := by
  fun_induction Text.literalEnd text stop quote escape position with
  | case1 position below cause unread => exact ⟨Int.le_refl _, below⟩
  | case2 position below unit read escaped inductionHypothesis =>
    exact inductionHypothesis.of_later (by omega)
  | case3 position below read notEscape => exact ⟨by omega, by omega⟩
  | case4 position below unit read notEscape notQuote inductionHypothesis =>
    exact inductionHypothesis.of_later (by omega)
  | case5 => trivial

theorem eatQuoted_forward (cursor : Cursor) (quote : Glyph) (escape : Option Glyph) :
    cursor.Forward (cursor.eatQuoted quote escape).cursor := by
  unfold eatQuoted
  split
  · exact Forward.refl cursor
  · rename_i quoteUnit _
    split
    · exact Forward.refl cursor
    · rename_i given _
      have within := literalEnd_within cursor.text cursor.stop quoteUnit
        (given.or cursor.settings.escapeUnit?) cursor.position
      split
      · rename_i reached ending
        rw [ending] at within
        have beyond := within.1
        have inside := within.2
        exact forward_moveTo cursor _ (by omega) (by omega)
      · exact Forward.refl cursor
      · rename_i cause reached ending
        rw [ending] at within
        have beyond := within.1
        have inside := within.2
        exact forward_moveTo cursor _ (by omega) (by omega)

/-! ### Setting offsets -/

theorem backUp_of_refused {cursor : Cursor} {count : Int}
    (checked : cursor.settings.checksBounds = true)
    (below : cursor.position - count < cursor.lower) :
    cursor.backUp count =
      ⟨.error (.outsideRange ⟨"back_up", cursor.position - count, cursor.lower, cursor.stop⟩),
        cursor, [.backUpRefused count cursor.position]⟩ :=
  if_pos ⟨checked, below⟩

theorem backUp_of_allowed {cursor : Cursor} {count : Int}
    (allowed : cursor.settings.checksBounds = true → cursor.lower ≤ cursor.position - count) :
    cursor.backUp count = cursor.moveTo (cursor.position - count) (.ok ()) :=
  if_neg fun refused => absurd (allowed refused.1) (by omega)

/-- The cursor with its mark at an offset, or at the end of its range if the offset is behind it. -/
def markAt (cursor : Cursor) (offset : Int) : Cursor :=
  { cursor with start := min offset cursor.stop }

theorem save_of_refused {cursor : Cursor} {offset : Option Int}
    (checked : cursor.settings.checksBounds = true)
    (outside : ¬ (cursor.lower ≤ offset.getD cursor.position ∧
      offset.getD cursor.position ≤ cursor.stop)) :
    cursor.save offset =
      ⟨.error (.outsideRange ⟨"save", offset.getD cursor.position, cursor.lower, cursor.stop⟩),
        cursor, [.saveRefused (offset.getD cursor.position) cursor.lower cursor.stop]⟩ :=
  if_pos ⟨checked, outside⟩

theorem save_of_allowed {cursor : Cursor} {offset : Option Int}
    (allowed : cursor.settings.checksBounds = true →
      cursor.lower ≤ offset.getD cursor.position ∧ offset.getD cursor.position ≤ cursor.stop) :
    cursor.save offset =
      ⟨.ok (min (offset.getD cursor.position) cursor.stop),
        cursor.markAt (offset.getD cursor.position), []⟩ :=
  if_neg fun refused => refused.2 (allowed refused.1)

/-- Taking a run of characters marks the position first, or is refused as marking is. -/
theorem consume_of_refused {cursor : Cursor} (spec : Spec Caller) (caller : Caller)
    (checked : cursor.settings.checksBounds = true)
    (outside : ¬ (cursor.lower ≤ cursor.position ∧ cursor.position ≤ cursor.stop)) :
    cursor.consume spec caller =
      (⟨.error (.outsideRange ⟨"save", cursor.position, cursor.lower, cursor.stop⟩), cursor,
        [.saveRefused cursor.position cursor.lower cursor.stop]⟩, caller) := by
  have refused : cursor.save none = _ := save_of_refused checked outside
  unfold consume
  rw [refused]
  rfl

theorem consume_of_allowed {cursor : Cursor} (spec : Spec Caller) (caller : Caller)
    (allowed : cursor.settings.checksBounds = true →
      cursor.lower ≤ cursor.position ∧ cursor.position ≤ cursor.stop) :
    cursor.consume spec caller =
      (⟨((cursor.markAt cursor.position).eatWhile spec caller).1.result.map fun _ =>
          ((cursor.markAt cursor.position).eatWhile spec caller).1.cursor.current,
        ((cursor.markAt cursor.position).eatWhile spec caller).1.cursor,
        ((cursor.markAt cursor.position).eatWhile spec caller).1.notices⟩,
        ((cursor.markAt cursor.position).eatWhile spec caller).2) := by
  have marked : cursor.save none = _ := save_of_allowed allowed
  unfold consume
  rw [marked]
  rfl

end Cursor

/-! ### Steps -/

/-- Whether an operation only scans or tells: every one but moving back and those that mark. -/
def Operation.scans : Operation Caller → Bool
  | backUp _ | consume _ | save _ => false
  | _ => true

namespace Cursor

/-- A step that only scans goes forward. -/
theorem perform_forward (cursor : Cursor) (nonneg : 0 ≤ cursor.stop)
    {operation : Operation Caller} (scans : operation.scans = true) (caller : Caller) :
    cursor.Forward (cursor.perform operation caller).1.cursor := by
  cases operation with
  | next => exact next_forward cursor
  | nextCode => exact next_forward cursor
  | drain => exact drain_forward cursor
  | eat spec => exact eat_forward cursor spec caller
  | eatWhile spec => exact eatWhile_forward cursor spec caller
  | expect spec message => exact expect_forward cursor spec message caller
  | skipTo needle => exact skipTo_forward cursor nonneg needle
  | eatQuoted quote escape => exact eatQuoted_forward cursor quote escape
  | backUp | consume | save => cases scans
  | _ => exact Forward.refl cursor

/-- What a step can leave of a cursor. -/
inductive Moves (cursor : Cursor) : Operation Caller → Cursor → Prop where
  | refused {operation : Operation Caller} : cursor.Moves operation cursor
  | scanned {operation : Operation Caller} {after : Cursor} (scans : operation.scans = true)
      (forward : cursor.Forward after) : cursor.Moves operation after
  | backedUp {count : Int}
      (allowed : cursor.settings.checksBounds = true → cursor.lower ≤ cursor.position - count) :
      cursor.Moves (.backUp count) { cursor with position := cursor.position - count }
  | marked {offset : Option Int}
      (allowed : cursor.settings.checksBounds = true →
        cursor.lower ≤ offset.getD cursor.position ∧
          offset.getD cursor.position ≤ cursor.stop) :
      cursor.Moves (.save offset) (cursor.markAt (offset.getD cursor.position))
  | consumed {spec : Spec Caller} {after : Cursor}
      (allowed : cursor.settings.checksBounds = true →
        cursor.lower ≤ cursor.position ∧ cursor.position ≤ cursor.stop)
      (forward : (cursor.markAt cursor.position).Forward after) :
      cursor.Moves (.consume spec) after

theorem perform_moves (cursor : Cursor) (nonneg : 0 ≤ cursor.stop)
    (operation : Operation Caller) (caller : Caller) :
    cursor.Moves operation (cursor.perform operation caller).1.cursor := by
  by_cases scans : operation.scans = true
  · exact .scanned scans (perform_forward cursor nonneg scans caller)
  cases operation with
  | backUp count =>
    show cursor.Moves (.backUp count) (cursor.backUp count).cursor
    by_cases allowed : cursor.settings.checksBounds = true →
      cursor.lower ≤ cursor.position - count
    · rw [backUp_of_allowed allowed]
      exact .backedUp allowed
    · obtain ⟨checked, below⟩ := Classical.not_imp.mp allowed
      rw [backUp_of_refused checked (by omega)]
      exact .refused
  | save offset =>
    show cursor.Moves (.save offset) (cursor.save offset).cursor
    by_cases allowed : cursor.settings.checksBounds = true →
      cursor.lower ≤ offset.getD cursor.position ∧ offset.getD cursor.position ≤ cursor.stop
    · rw [save_of_allowed allowed]
      exact .marked allowed
    · obtain ⟨checked, outside⟩ := Classical.not_imp.mp allowed
      rw [save_of_refused checked outside]
      exact .refused
  | consume spec =>
    show cursor.Moves (.consume spec) (cursor.consume spec caller).1.cursor
    by_cases allowed : cursor.settings.checksBounds = true →
      cursor.lower ≤ cursor.position ∧ cursor.position ≤ cursor.stop
    · rw [consume_of_allowed spec caller allowed]
      exact .consumed allowed (eatWhile_forward _ spec caller)
    · obtain ⟨checked, outside⟩ := Classical.not_imp.mp allowed
      rw [consume_of_refused spec caller checked outside]
      exact .refused
  | _ => exact absurd rfl scans

/-- No operation changes the text, the range or the settings. -/
theorem perform_sameScope (cursor : Cursor) (operation : Operation Caller) (caller : Caller) :
    cursor.SameScope (cursor.perform operation caller).1.cursor := by
  cases operation with
  | next => exact (next_forward cursor).toSameScope
  | nextCode => exact (next_forward cursor).toSameScope
  | drain => exact (drain_forward cursor).toSameScope
  | eat spec => exact (eat_forward cursor spec caller).toSameScope
  | eatWhile spec => exact (eatWhile_forward cursor spec caller).toSameScope
  | expect spec message => exact (expect_forward cursor spec message caller).toSameScope
  | eatQuoted quote escape => exact (eatQuoted_forward cursor quote escape).toSameScope
  | backUp count =>
    show cursor.SameScope (cursor.backUp count).cursor
    unfold backUp
    dsimp only
    split <;> exact ⟨rfl, rfl, rfl, rfl⟩
  | save offset =>
    show cursor.SameScope (cursor.save offset).cursor
    unfold save
    dsimp only
    split <;> exact ⟨rfl, rfl, rfl, rfl⟩
  | skipTo needle =>
    show cursor.SameScope (cursor.skipTo needle).cursor
    unfold skipTo
    split
    · exact SameScope.refl cursor
    · split <;> exact ⟨rfl, rfl, rfl, rfl⟩
  | consume spec =>
    show cursor.SameScope (cursor.consume spec caller).1.cursor
    by_cases allowed : cursor.settings.checksBounds = true →
      cursor.lower ≤ cursor.position ∧ cursor.position ≤ cursor.stop
    · rw [consume_of_allowed spec caller allowed]
      have marking : cursor.SameScope (cursor.markAt cursor.position) := ⟨rfl, rfl, rfl, rfl⟩
      exact marking.trans (eatWhile_forward _ spec caller).toSameScope
    · obtain ⟨checked, outside⟩ := Classical.not_imp.mp allowed
      rw [consume_of_refused spec caller checked outside]
      exact SameScope.refl cursor
  | _ => exact SameScope.refl cursor

/-! ### What one step keeps -/

section Steps

variable {cursor after : Cursor} {operation : Operation Caller}

theorem Moves.sameScope (moves : cursor.Moves operation after) : cursor.SameScope after := by
  cases moves with
  | refused => exact SameScope.refl cursor
  | scanned scans forward => exact forward.toSameScope
  | backedUp allowed => exact ⟨rfl, rfl, rfl, rfl⟩
  | marked allowed => exact ⟨rfl, rfl, rfl, rfl⟩
  | consumed allowed forward =>
    have marking : cursor.SameScope (cursor.markAt cursor.position) := ⟨rfl, rfl, rfl, rfl⟩
    exact marking.trans forward.toSameScope

/-- Only moving back by a negative count can carry the position behind the range. -/
theorem Moves.position_le_stop (moves : cursor.Moves operation after)
    (below : cursor.position ≤ cursor.stop)
    (lands : ∀ count, operation = .backUp count → cursor.position - count ≤ cursor.stop) :
    after.position ≤ cursor.stop := by
  cases moves with
  | refused => exact below
  | scanned scans forward =>
    have bound := forward.le_max
    omega
  | backedUp allowed => exact lands _ rfl
  | marked allowed => exact below
  | consumed allowed forward =>
    have bound : after.position ≤ max cursor.position cursor.stop := forward.le_max
    omega

/-- Only moving back can carry the position before an offset that it stands behind. -/
theorem Moves.le_position {floor : Int} (moves : cursor.Moves operation after)
    (above : floor ≤ cursor.position)
    (lands : ∀ count, operation = .backUp count →
      (cursor.settings.checksBounds = true → cursor.lower ≤ cursor.position - count) →
        floor ≤ cursor.position - count) :
    floor ≤ after.position := by
  cases moves with
  | refused => exact above
  | scanned scans forward => exact Int.le_trans above forward.le
  | backedUp allowed => exact lands _ rfl allowed
  | marked allowed => exact above
  | consumed allowed forward => exact Int.le_trans above forward.le

/-- Only moving back, unchecked, can carry the position before the range. -/
theorem Moves.lower_le_position (moves : cursor.Moves operation after)
    (above : cursor.lower ≤ cursor.position)
    (lands : ∀ count, operation = .backUp count →
      cursor.settings.checksBounds = true ∨ cursor.lower ≤ cursor.position - count) :
    cursor.lower ≤ after.position :=
  moves.le_position above fun count asked allowed => (lands count asked).elim allowed id

/-- No step carries the mark behind the range. -/
theorem Moves.start_le_stop (moves : cursor.Moves operation after)
    (below : cursor.start ≤ cursor.stop) : after.start ≤ cursor.stop := by
  cases moves with
  | refused => exact below
  | scanned scans forward =>
    rw [forward.start]
    exact below
  | backedUp allowed => exact below
  | marked allowed => exact Int.min_le_right _ _
  | consumed allowed forward =>
    rw [forward.start]
    exact Int.min_le_right _ _

/-- Only marking can carry the mark before an offset that it stands behind. -/
theorem Moves.le_start {floor : Int} (moves : cursor.Moves operation after)
    (ordered : floor ≤ cursor.stop) (above : floor ≤ cursor.start)
    (position : (cursor.settings.checksBounds = true → cursor.lower ≤ cursor.position) →
      floor ≤ cursor.position)
    (marks : ∀ offset, operation = .save (some offset) →
      (cursor.settings.checksBounds = true → cursor.lower ≤ offset) → floor ≤ offset) :
    floor ≤ after.start := by
  cases moves with
  | refused => exact above
  | scanned scans forward =>
    rw [forward.start]
    exact above
  | backedUp allowed => exact above
  | @marked offset allowed =>
    refine Int.le_min.mpr ⟨?_, ordered⟩
    cases offset with
    | none => exact position fun checked => (allowed checked).1
    | some offset => exact marks offset rfl fun checked => (allowed checked).1
  | consumed allowed forward =>
    rw [forward.start]
    exact Int.le_min.mpr ⟨position fun checked => (allowed checked).1, ordered⟩

/-- Only marking, unchecked, can carry the mark before the range. -/
theorem Moves.lower_le_start (moves : cursor.Moves operation after)
    (ordered : cursor.lower ≤ cursor.stop) (above : cursor.lower ≤ cursor.start)
    (position : cursor.settings.checksBounds = true ∨ cursor.lower ≤ cursor.position)
    (marks : ∀ offset, operation = .save (some offset) →
      cursor.settings.checksBounds = true ∨ cursor.lower ≤ offset) :
    cursor.lower ≤ after.start :=
  moves.le_start ordered above (fun allowed => position.elim allowed id)
    fun offset asked allowed => (marks offset asked).elim allowed id

end Steps

end Cursor

end Lexing
