/-
This file compares two cursors that have the same characters ahead of them, at offsets that are a
fixed distance apart. What stands before their positions or behind the ends of their ranges may
differ, and so may the offsets at which their texts begin. Operations that look at characters one
after the other, up to the end of the range, come to the same on both. They ask matchers about the
same characters, answer the same but for the place and the source of a diagnostic, and leave the two
as far apart as they were.
-/

import Lexing.Proofs.Motion

namespace Lexing

variable {Caller : Type}

/-! ### Moving on -/

def LiteralEnd.movedOn (distance : Int) : LiteralEnd → LiteralEnd
  | closed position => closed (position + distance)
  | unterminated => unterminated
  | unreadable cause position => unreadable cause (position + distance)

def RunEnd.movedOn (distance : Int) (ending : RunEnd Caller) : RunEnd Caller :=
  { ending with position := ending.position + distance }

/-- A notice with its offsets moved on. -/
def Notice.movedOn (distance : Int) : Notice → Notice
  | unterminated quote start => unterminated quote (start + distance)
  | backUpRefused count position => backUpRefused count (position + distance)
  | saveRefused offset lower stop =>
    saveRefused (offset + distance) (lower + distance) (stop + distance)
  | other => other

/-- The first text has at offsets moved on the characters that the second has in a window. -/
def Text.ReadsAlike (text other : Text) (distance first stop : Int) : Prop :=
  ∀ offset, first ≤ offset → offset < stop → text.read (offset + distance) = other.read offset

/-! ### Scans of texts that read alike -/

section Scans

variable {text other : Text} {distance first further position stop : Int}

theorem Text.ReadsAlike.later (alike : text.ReadsAlike other distance first stop)
    (le : first ≤ further) : text.ReadsAlike other distance further stop :=
  fun offset above below => alike offset (Int.le_trans le above) below

theorem Text.literalEnd_movedOn (alike : text.ReadsAlike other distance position stop)
    (quote : CodePoint) (escape : Option CodePoint) :
    text.literalEnd (stop + distance) quote escape (position + distance) =
      (other.literalEnd stop quote escape position).movedOn distance := by
  fun_induction Text.literalEnd other stop quote escape position with
  | case1 position below cause unread =>
    rw [← alike position (Int.le_refl _) below] at unread
    rw [literalEnd_of_unreadable (by omega) unread]
    rfl
  | case2 position below unit read escaped inductionHypothesis =>
    rw [← alike position (Int.le_refl _) below] at read
    rw [literalEnd_of_escape (by omega) read escaped, Int.add_right_comm]
    exact inductionHypothesis (alike.later (by omega))
  | case3 position below read plain =>
    rw [← alike position (Int.le_refl _) below] at read
    rw [literalEnd_of_quote (by omega) read plain, Int.add_right_comm]
    rfl
  | case4 position below unit read plain differs inductionHypothesis =>
    rw [← alike position (Int.le_refl _) below] at read
    rw [literalEnd_of_other (by omega) read plain differs, Int.add_right_comm]
    exact inductionHypothesis (alike.later (by omega))
  | case5 position used =>
    rw [literalEnd_of_end (by omega)]
    rfl

theorem Matcher.runEnd_movedOn (matcher : Matcher Caller)
    (alike : text.ReadsAlike other distance position stop) (caller : Caller) :
    matcher.runEnd text (stop + distance) (position + distance) caller =
      (matcher.runEnd other stop position caller).movedOn distance := by
  fun_induction Matcher.runEnd matcher other stop position caller with
  | case1 position caller below cause unread =>
    rw [← alike position (Int.le_refl _) below] at unread
    rw [runEnd_of_unreadable (by omega) unread]
    rfl
  | case2 position caller below unit read cause after asked =>
    rw [← alike position (Int.le_refl _) below] at read
    rw [runEnd_of_failed (by omega) read asked]
    rfl
  | case3 position caller below unit read after asked =>
    rw [← alike position (Int.le_refl _) below] at read
    rw [runEnd_of_rejected (by omega) read asked]
    rfl
  | case4 position caller below unit read after asked inductionHypothesis =>
    rw [← alike position (Int.le_refl _) below] at read
    rw [runEnd_of_accepted (by omega) read asked, Int.add_right_comm]
    exact inductionHypothesis (alike.later (by omega))
  | case5 position caller used =>
    rw [runEnd_of_end (by omega)]
    rfl

end Scans

namespace Cursor

/-- The first cursor has the same characters ahead as the second, at offsets moved on. -/
structure ReadsLike (cursor other : Cursor) (distance : Int) : Prop where
  position : cursor.position = other.position + distance
  stop : cursor.stop = other.stop + distance
  settings : cursor.settings = other.settings
  alike : cursor.text.ReadsAlike other.text distance other.position other.stop

/-- What an operation comes to on the cursor, if it comes to this on another with the same
characters ahead. -/
def retells {Result : Type} (cursor : Cursor) (distance : Int) (moved : Moved Result) :
    Moved Result :=
  ⟨moved.result, { cursor with position := moved.cursor.position + distance },
    moved.notices.map (Notice.movedOn distance)⟩

section ReadsLike

variable {cursor other : Cursor} {distance : Int} (like : cursor.ReadsLike other distance)

include like

theorem ReadsLike.below_iff : cursor.position < cursor.stop ↔ other.position < other.stop := by
  rw [like.position, like.stop]
  exact Int.add_lt_add_iff_right _

/-- What goes forward on the one and is told of the other leaves them alike. -/
theorem ReadsLike.forward {after : Cursor} (forward : other.Forward after) :
    { cursor with position := after.position + distance }.ReadsLike after distance := by
  refine ⟨rfl, ?_, ?_, ?_⟩
  · rw [forward.stop]
    exact like.stop
  · rw [forward.settings]
    exact like.settings
  · rw [forward.text, forward.stop]
    exact like.alike.later forward.le

theorem ReadsLike.here : { cursor with position := other.position + distance } = cursor := by
  rw [← like.position]

theorem ReadsLike.stay {Result : Type} (result : Except Failure Result) :
    cursor.stay result = cursor.retells distance (other.stay result) :=
  congrArg (Moved.mk result · []) like.here.symm

theorem ReadsLike.advance {Result : Type} (result : Except Failure Result) :
    cursor.moveTo (cursor.position + 1) result =
      cursor.retells distance (other.moveTo (other.position + 1) result) := by
  rw [like.position, Int.add_right_comm]
  rfl

/-! ### Looking and taking -/

theorem ReadsLike.atEnd : cursor.atEnd = other.atEnd := by
  refine decide_eq_decide.mpr ?_
  rw [like.position, like.stop]
  exact Int.add_le_add_iff_right _

theorem ReadsLike.read (below : other.position < other.stop) :
    cursor.text.read cursor.position = other.text.read other.position := by
  rw [like.position]
  exact like.alike other.position (Int.le_refl _) below

theorem ReadsLike.peek : cursor.peek = other.peek := by
  unfold Cursor.peek
  by_cases below : other.position < other.stop
  · rw [if_pos below, if_pos (like.below_iff.mpr below), like.read below]
  · rw [if_neg below, if_neg (mt like.below_iff.mp below)]

theorem ReadsLike.next : cursor.next = cursor.retells distance other.next := by
  unfold Cursor.next
  rw [like.peek]
  split
  · exact like.advance _
  · exact like.stay _

theorem ReadsLike.eatQuoted (quote : Glyph) (escape : Option Glyph) :
    cursor.eatQuoted quote escape = cursor.retells distance (other.eatQuoted quote escape) := by
  unfold Cursor.eatQuoted
  cases quote.toUnit with
  | error cause => exact like.stay _
  | ok quoteUnit =>
    cases escape.mapM Glyph.toUnit with
    | error cause => exact like.stay _
    | ok given =>
      dsimp only
      rw [like.stop, like.position, like.settings, Text.literalEnd_movedOn like.alike]
      cases other.text.literalEnd other.stop quoteUnit (given.or other.settings.escapeUnit?)
        other.position with
      | closed position => rfl
      | unterminated =>
        exact congrArg
          (Moved.mk (.ok false) · [.unterminated quoteUnit (other.position + distance)])
          like.here.symm
      | unreadable cause position => rfl

/-! ### Scans with matchers -/

theorem ReadsLike.eat (spec : Spec Caller) (caller : Caller) :
    cursor.eat spec caller =
      (cursor.retells distance (other.eat spec caller).1, (other.eat spec caller).2) := by
  unfold Cursor.eat
  by_cases below : other.position < other.stop
  · rw [if_pos below, if_pos (like.below_iff.mpr below), like.read below]
    cases spec.toMatcher with
    | error cause => exact congrArg (Prod.mk · _) (like.stay _)
    | ok matcher =>
      cases other.text.read other.position with
      | error cause => exact congrArg (Prod.mk · _) (like.stay _)
      | ok unit =>
        dsimp only
        split
        · exact congrArg (Prod.mk · _) (like.stay _)
        · exact congrArg (Prod.mk · _) (like.stay _)
        · exact congrArg (Prod.mk · _) (like.advance _)
  · rw [if_neg below, if_neg (mt like.below_iff.mp below)]
    exact congrArg (Prod.mk · _) (like.stay _)

theorem ReadsLike.eatWhile (spec : Spec Caller) (caller : Caller) :
    cursor.eatWhile spec caller =
      (cursor.retells distance (other.eatWhile spec caller).1,
        (other.eatWhile spec caller).2) := by
  unfold Cursor.eatWhile
  cases spec.toMatcher with
  | error cause => exact congrArg (Prod.mk · _) (like.stay _)
  | ok matcher =>
    have moved (reached : Int) : (reached + distance != other.position + distance) =
        (reached != other.position) := by
      rw [Bool.eq_iff_iff, bne_iff_ne, bne_iff_ne]
      omega
    dsimp only
    rw [like.stop, like.position, matcher.runEnd_movedOn like.alike]
    dsimp only [RunEnd.movedOn]
    rw [moved]
    rfl

variable (change : Diagnostic → Diagnostic)
  (diagnoses : ∀ message, cursor.diagnose message = change (other.diagnose message))

include diagnoses

omit like in
theorem unmet_of_diagnoses (matcher : Matcher Caller) (found : Option CodePoint)
    (message : Option Text) :
    cursor.unmet matcher found message = (other.unmet matcher found message).map change := by
  cases message with
  | some given => exact congrArg Except.ok (diagnoses given)
  | none =>
    unfold unmet
    cases matcher.describe with
    | error cause => rfl
    | ok description => exact congrArg Except.ok (diagnoses _)

/-- Expecting a character answers the same but for the diagnostic, which each cursor makes at its
own place. -/
theorem ReadsLike.expect (spec : Spec Caller) (message : Option Text) (caller : Caller) :
    cursor.expect spec message caller =
      (cursor.retells distance
        ((other.expect spec message caller).1.map (Except.mapError change)),
        (other.expect spec message caller).2) := by
  have refuses (matcher : Matcher Caller) (found : Option CodePoint) :
      cursor.stay ((cursor.unmet matcher found message).map .error) =
        cursor.retells distance
          ((other.stay ((other.unmet matcher found message).map .error)).map
            (Except.mapError (α := CodePoint) change)) := by
    rw [unmet_of_diagnoses change diagnoses, like.stay]
    cases other.unmet matcher found message with
    | error cause => rfl
    | ok diagnostic => rfl
  unfold Cursor.expect
  rw [like.peek]
  cases spec.toMatcher with
  | error cause => exact congrArg (Prod.mk · _) (like.stay _)
  | ok matcher =>
    cases other.peek with
    | error cause => exact congrArg (Prod.mk · _) (like.stay _)
    | ok found =>
      cases found with
      | none => exact congrArg (Prod.mk · _) (refuses matcher none)
      | some unit =>
        dsimp only
        split
        · exact congrArg (Prod.mk · _) (like.stay _)
        · exact congrArg (Prod.mk · _) (refuses matcher (some unit))
        · exact congrArg (Prod.mk · _) (like.advance _)

end ReadsLike

end Cursor

end Lexing
