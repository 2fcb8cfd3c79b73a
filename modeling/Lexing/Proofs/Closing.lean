/-
This file says where a quoted literal ends: behind the first quote that has an even number of
escapes in a row directly in front of it. The scan takes escapes from left to right, each together
with the character behind it, while this law counts them from right to left and knows of no pairs.
Both come to the same, because a scan that has taken a pair leaves the parity of the row that it was
taken from, whether the row ends with the pair or goes on.

Escapes in front of the offset that the scan begins at do not count. They may be those of an earlier
scan.
-/

import Lexing.Cursor.Quoted
import Lexing.Proofs.Offset
import Mathlib.Algebra.Group.Nat.Even
import Mathlib.Order.Bounds.Basic

namespace Lexing

namespace Text

/-! ### Rows of escapes -/

/-- How many escapes stand in a row directly in front of an index, counted back as far as an
offset. -/
def escapesBefore (text : Text) (escape : CodePoint) (first : Int) (index : Nat) : Nat :=
  ((text.slice (some first) (some index)).reverse.takeWhile (· == escape)).length

/-- At an index of a window stands a quote with an even number of escapes in front of it. -/
structure ClosesAt (text : Text) (quote escape : CodePoint) (first stop : Int) (index : Nat) :
    Prop where
  le : first ≤ index
  lt : index < stop
  quoted : text[index]? = some quote
  even : Even (text.escapesBefore escape first index)

section Rows

variable {text : Text} {quote escape unit : CodePoint} {first index : Nat} {stop : Int}

theorem slice_cons (here : text[first]? = some unit) (before : first < index) :
    text.slice (some first) (some index) =
      unit :: text.slice (some ((first + 1 : Nat) : Int)) (some index) := by
  rw [slice_natCast, slice_natCast, List.drop_eq_getElem?_toList_append,
    List.getElem?_take_of_lt before, here]
  rfl

/-- A row that is continued at its far end grows if it has reached that end. -/
theorem length_takeWhile_concat (row : Text) (unit escape : CodePoint) :
    ((row ++ [unit]).takeWhile (· == escape)).length =
      if (row.takeWhile (· == escape)).length = row.length ∧ unit = escape then row.length + 1
      else (row.takeWhile (· == escape)).length := by
  rw [List.takeWhile_append]
  by_cases whole : (row.takeWhile (· == escape)).length = row.length
  · by_cases same : unit = escape <;> simp [whole, same]
  · simp [whole]

theorem escapesBefore_self (text : Text) (escape : CodePoint) (index : Nat) :
    text.escapesBefore escape index index = 0 := by
  rw [escapesBefore, slice_self text (by omega)]
  rfl

/-- What is no escape is in no row. -/
theorem escapesBefore_of_plain (here : text[first]? = some unit) (plain : unit ≠ escape)
    (before : first < index) :
    text.escapesBefore escape first index =
      text.escapesBefore escape ((first + 1 : Nat) : Int) index := by
  rw [escapesBefore, slice_cons here before, List.reverse_cons, length_takeWhile_concat,
    if_neg fun row => plain row.2]
  rfl

theorem escapesBefore_of_escape (here : text[first]? = some escape) :
    text.escapesBefore escape first (first + 1) = 1 := by
  rw [escapesBefore, slice_cons here (Nat.lt_succ_self first), slice_self text (by omega)]
  simp

/-- An escape and the character behind it leave the parity of the row that they may belong to. -/
theorem even_escapesBefore_of_escape (here : text[first]? = some escape)
    (behind : text[first + 1]? = some unit) (before : first + 1 < index) :
    Even (text.escapesBefore escape first index) ↔
      Even (text.escapesBefore escape ((first + 2 : Nat) : Int) index) := by
  have counted : text.escapesBefore escape first index = _ :=
    congrArg (fun row => (row.reverse.takeWhile (· == escape)).length)
      ((slice_cons here (Nat.lt_of_succ_lt before)).trans
        (congrArg (escape :: ·) (slice_cons behind before)))
  rw [counted, escapesBefore, List.reverse_cons, List.reverse_cons, length_takeWhile_concat,
    length_takeWhile_concat]
  generalize (text.slice (some ((first + 2 : Nat) : Int)) (some index)).reverse = row
  have short : (row.takeWhile (· == escape)).length ≤ row.length :=
    (List.takeWhile_sublist _).length_le
  by_cases whole : (row.takeWhile (· == escape)).length = row.length ∧ unit = escape
  · -- The row takes in both, and so grows by two.
    rw [if_pos whole, if_pos ⟨by simp, rfl⟩, whole.1, List.length_append, List.length_singleton,
      Nat.even_add_one, Nat.even_add_one, not_not]
  · rw [if_neg whole, if_neg]
    rintro ⟨grown, _⟩
    rw [List.length_append, List.length_singleton] at grown
    omega

/-! ### Closing quotes -/

theorem closesAt_of_other (here : text[first]? = some unit) (plain : unit ≠ escape)
    (other : unit ≠ quote) :
    text.ClosesAt quote escape first stop =
      text.ClosesAt quote escape ((first + 1 : Nat) : Int) stop := by
  funext index
  refine propext ⟨fun closes => ?_, fun closes => ?_⟩
  · obtain ⟨le, lt, quoted, even⟩ := closes
    have later : first ≠ index := by
      rintro rfl
      exact other (Option.some.inj (here.symm.trans quoted))
    refine ⟨by omega, lt, quoted, ?_⟩
    rwa [← escapesBefore_of_plain here plain (by omega)]
  · obtain ⟨le, lt, quoted, even⟩ := closes
    refine ⟨by omega, lt, quoted, ?_⟩
    rwa [escapesBefore_of_plain here plain (by omega)]

theorem closesAt_of_escape (here : text[first]? = some escape) (differs : quote ≠ escape) :
    text.ClosesAt quote escape first stop =
      text.ClosesAt quote escape ((first + 2 : Nat) : Int) stop := by
  funext index
  refine propext ⟨fun closes => ?_, fun closes => ?_⟩
  · obtain ⟨le, lt, quoted, even⟩ := closes
    have later : first ≠ index := by
      rintro rfl
      exact differs (Option.some.inj (quoted.symm.trans here))
    have escaped : first + 1 ≠ index := by
      rintro rfl
      rw [escapesBefore_of_escape here] at even
      exact absurd even (by decide)
    have inside : first + 1 < text.length := by
      have bound := (List.getElem?_eq_some_iff.mp quoted).1
      omega
    refine ⟨by omega, lt, quoted, ?_⟩
    rwa [← even_escapesBefore_of_escape here (List.getElem?_eq_getElem inside) (by omega)]
  · obtain ⟨le, lt, quoted, even⟩ := closes
    have inside : first + 1 < text.length := by
      have bound := (List.getElem?_eq_some_iff.mp quoted).1
      omega
    refine ⟨by omega, lt, quoted, ?_⟩
    rwa [even_escapesBefore_of_escape here (List.getElem?_eq_getElem inside) (by omega)]

theorem closesAt_of_quote (here : text[first]? = some quote) (before : first < stop) :
    text.ClosesAt quote escape first stop first :=
  ⟨Int.le_refl _, before, here, by rw [escapesBefore_self]; exact Even.zero⟩

end Rows

end Text

/-! ### Scans of literals -/

/-- What the end of a scan tells of the indices at which the literal can close. -/
def LiteralEnd.Finds (closes : Nat → Prop) : LiteralEnd → Prop
  | closed reached => ∃ index : Nat, IsLeast {index | closes index} index ∧ reached = index + 1
  | unterminated => ∀ index, ¬ closes index
  | unreadable _ _ => False

namespace Text

theorem literalEnd_finds {text : Text} {quote escape : CodePoint} {stop position : Int}
    (differs : quote ≠ escape) (nonneg : 0 ≤ position) (inside : stop ≤ text.length) :
    (text.literalEnd stop quote (some escape) position).Finds
      (text.ClosesAt quote escape position stop) := by
  fun_induction Text.literalEnd text stop quote (some escape) position with
  | case1 position below cause unread =>
    obtain ⟨unit, _, read⟩ := exists_read nonneg (Int.lt_of_lt_of_le below inside)
    rw [read] at unread
    cases unread
  | case2 position below unit read escaped inductionHypothesis =>
    obtain ⟨first, rfl⟩ := Int.eq_ofNat_of_zero_le nonneg
    cases escaped
    have here := read_natCast_iff.mp read
    rw [closesAt_of_escape here differs]
    exact inductionHypothesis (by omega)
  | case3 position below read plain =>
    obtain ⟨first, rfl⟩ := Int.eq_ofNat_of_zero_le nonneg
    have here := read_natCast_iff.mp read
    refine ⟨first, ⟨closesAt_of_quote here below, fun index closes => ?_⟩, rfl⟩
    exact Int.ofNat_le.mp closes.le
  | case4 position below unit read plain other inductionHypothesis =>
    obtain ⟨first, rfl⟩ := Int.eq_ofNat_of_zero_le nonneg
    have here := read_natCast_iff.mp read
    rw [closesAt_of_other here (fun same => plain (congrArg some same.symm)) other]
    exact inductionHypothesis (by omega)
  | case5 position used =>
    intro index closes
    exact used (Int.lt_of_le_of_lt closes.le closes.lt)

/-- A quote that is also the escape closes nothing. -/
theorem literalEnd_of_same {text : Text} {quote : CodePoint} {stop position : Int}
    (nonneg : 0 ≤ position) (inside : stop ≤ text.length) :
    text.literalEnd stop quote (some quote) position = .unterminated := by
  fun_induction Text.literalEnd text stop quote (some quote) position with
  | case1 position below cause unread =>
    obtain ⟨unit, _, read⟩ := exists_read nonneg (Int.lt_of_lt_of_le below inside)
    rw [read] at unread
    cases unread
  | case2 position below unit read escaped inductionHypothesis =>
    exact inductionHypothesis (by omega)
  | case3 position below read plain => exact absurd rfl plain
  | case4 position below unit read plain other inductionHypothesis =>
    exact inductionHypothesis (by omega)
  | case5 => rfl

end Text

namespace Cursor

/-- The character that escapes others in a literal: the given one, or else that of the settings. -/
def EscapesBy (cursor : Cursor) (escape : Option Glyph) (unit : CodePoint) : Prop :=
  match escape with
  | some glyph => glyph.toUnit = .ok unit
  | none => cursor.settings.escapeUnit? = some unit

theorem eatQuoted_eq {cursor : Cursor} {quote : Glyph} {escape : Option Glyph}
    {mark sign : CodePoint} (quoted : quote.toUnit = .ok mark)
    (escaped : cursor.EscapesBy escape sign) :
    cursor.eatQuoted quote escape =
      match cursor.text.literalEnd cursor.stop mark (some sign) cursor.position with
      | .closed position => cursor.moveTo position (.ok true)
      | .unterminated => ⟨.ok false, cursor, [.unterminated mark cursor.position]⟩
      | .unreadable cause position => cursor.moveTo position (.error cause) := by
  unfold eatQuoted
  rw [quoted]
  cases escape with
  | none =>
    have sets : cursor.settings.escapeUnit? = some sign := escaped
    show (match cursor.text.literalEnd cursor.stop mark (Option.or none
      cursor.settings.escapeUnit?) cursor.position with
      | .closed position => cursor.moveTo position (.ok true)
      | .unterminated => _
      | .unreadable cause position => _) = _
    rw [sets]
    rfl
  | some glyph =>
    have single : (some glyph).mapM Glyph.toUnit = .ok (some sign) := by
      show some <$> glyph.toUnit = _
      rw [show glyph.toUnit = .ok sign from escaped]
      rfl
    rw [single]
    rfl

/-- The scan of a literal from inside the text ends behind the first quote that an even number of
escapes in a row precede, as far as they stand behind the beginning of the scan. Without such a quote
in the range the cursor stays, and a quote that is also the escape is never such a one. -/
theorem eatQuoted_closes {cursor : Cursor} (nonneg : 0 ≤ cursor.position)
    (inside : cursor.stop ≤ cursor.text.length) {quote : Glyph} {escape : Option Glyph}
    {mark sign : CodePoint} (quoted : quote.toUnit = .ok mark)
    (escaped : cursor.EscapesBy escape sign) :
    let eaten := cursor.eatQuoted quote escape
    let closes := cursor.text.ClosesAt mark sign cursor.position cursor.stop
    (mark ≠ sign →
      (eaten.result = .ok true ↔ ∃ index, closes index) ∧
      (∀ index, IsLeast {index | closes index} index →
        eaten.cursor = { cursor with position := index + 1 }) ∧
      ((∀ index, ¬ closes index) → eaten.result = .ok false ∧ eaten.cursor = cursor)) ∧
    (mark = sign → eaten.result = .ok false ∧ eaten.cursor = cursor) := by
  intro eaten closes
  have scanned : eaten = _ := eatQuoted_eq quoted escaped
  refine ⟨fun differs => ?_, fun same => ?_⟩
  · have finds := Text.literalEnd_finds differs nonneg inside
    cases ending : cursor.text.literalEnd cursor.stop mark (some sign) cursor.position with
    | closed reached =>
      rw [ending] at scanned finds
      obtain ⟨first, least, rfl⟩ := finds
      rw [scanned]
      refine ⟨⟨fun _ => ⟨first, least.1⟩, fun _ => rfl⟩, fun index also => ?_, fun none => ?_⟩
      · rw [also.unique least]
        rfl
      · exact absurd least.1 (none first)
    | unterminated =>
      rw [ending] at scanned finds
      rw [scanned]
      refine ⟨⟨fun answered => ?_, fun ⟨index, there⟩ => absurd there (finds index)⟩,
        fun index least => absurd least.1 (finds index), fun _ => ⟨rfl, rfl⟩⟩
      cases answered
    | unreadable cause reached =>
      rw [ending] at finds
      exact finds.elim
  · cases same
    rw [Text.literalEnd_of_same nonneg inside] at scanned
    rw [scanned]
    exact ⟨rfl, rfl⟩

/-- A scan that begins behind the first of three escapes, where a percent sign is what escapes. -/
def amidEscapes : Cursor where
  text := "%%%'%'%%'"
  position := 1
  start := 0
  lower := 0
  stop := 9
  settings := { escape := .text [.ofChar '%'] }

/-- The two escapes that are left leave the quote behind them unescaped. -/
theorem eatQuoted_closes_amidEscapes :
    (0 ≤ amidEscapes.position ∧ amidEscapes.stop ≤ amidEscapes.text.length ∧
      (Glyph.code 39).toUnit = .ok (.ofChar '\'') ∧
      amidEscapes.EscapesBy none (.ofChar '%')) ∧
    (amidEscapes.eatQuoted (.code 39) none).result = .ok true ∧
    (amidEscapes.eatQuoted (.code 39) none).cursor = { amidEscapes with position := 4 } := by
  have nonneg : 0 ≤ amidEscapes.position := by decide
  have inside : amidEscapes.stop ≤ amidEscapes.text.length := by decide
  have quoted : (Glyph.code 39).toUnit = .ok (.ofChar '\'') := rfl
  have escaped : amidEscapes.EscapesBy none (.ofChar '%') := rfl
  have differs : CodePoint.ofChar '\'' ≠ .ofChar '%' := by decide
  obtain ⟨found, moved, _⟩ := (eatQuoted_closes nonneg inside quoted escaped).1 differs
  have closes : amidEscapes.text.ClosesAt (.ofChar '\'') (.ofChar '%') amidEscapes.position
      amidEscapes.stop 3 := ⟨by decide, by decide, rfl, by decide⟩
  refine ⟨⟨nonneg, inside, quoted, escaped⟩, found.mpr ⟨3, closes⟩,
    moved 3 ⟨closes, fun index earlier => ?_⟩⟩
  -- In front of it there are only escapes.
  have le : 1 ≤ (index : Int) := earlier.le
  by_contra before
  have early : index = 1 ∨ index = 2 := by omega
  rcases early with rfl | rfl <;> exact absurd earlier.quoted (by decide)

end Cursor

end Lexing
