/-
This file writes a text as the body of a quoted literal and scans it again. In front of every quote
and of every escape that is to stand for itself an escape is put. The scan of such a body goes on to
the quote behind it and no further, whatever the text is made of and whatever comes behind that
quote, and taking the escapes away gives the text back. Where the range ends before the quote there
is no literal, also if it ends between an escape and the character that it escapes.
-/

import Lexing.Proofs.Closing

namespace Lexing

namespace Text

/-- The text as the body of a literal, with an escape in front of every quote and every escape. -/
def escaped (quote escape : CodePoint) (text : Text) : Text :=
  text.flatMap fun unit => if unit = quote ∨ unit = escape then [escape, unit] else [unit]

/-- Takes the escapes of a body away from left to right. The character behind an escape stays,
whatever it is. -/
def unescaped (escape : CodePoint) : Text → Text
  | [] => []
  | [unit] => if unit = escape then [] else [unit]
  | unit :: next :: rest =>
    if unit = escape then next :: unescaped escape rest else unit :: unescaped escape (next :: rest)

section Bodies

variable {quote escape unit : CodePoint}

theorem escaped_cons_of_special (special : unit = quote ∨ unit = escape) (rest : Text) :
    escaped quote escape (unit :: rest) = escape :: unit :: rest.escaped quote escape := by
  rw [escaped, List.flatMap_cons, if_pos special]
  rfl

theorem escaped_cons_of_plain (plain : ¬ (unit = quote ∨ unit = escape)) (rest : Text) :
    escaped quote escape (unit :: rest) = unit :: rest.escaped quote escape := by
  rw [escaped, List.flatMap_cons, if_neg plain]
  rfl

theorem unescaped_escape (escape unit : CodePoint) (rest : Text) :
    unescaped escape (escape :: unit :: rest) = unit :: rest.unescaped escape := by
  rw [unescaped, if_pos rfl]

theorem unescaped_cons_of_ne (plain : unit ≠ escape) (rest : Text) :
    unescaped escape (unit :: rest) = unit :: rest.unescaped escape := by
  cases rest with
  | nil => exact if_neg plain
  | cons next others => rw [unescaped, if_neg plain]

theorem unescaped_escaped (quote escape : CodePoint) (body : Text) :
    (body.escaped quote escape).unescaped escape = body := by
  induction body with
  | nil => rfl
  | cons unit rest inductionHypothesis =>
    by_cases special : unit = quote ∨ unit = escape
    · rw [escaped_cons_of_special special, unescaped_escape, inductionHypothesis]
    · rw [escaped_cons_of_plain special, unescaped_cons_of_ne fun same => special (.inr same),
        inductionHypothesis]

end Bodies

/-! ### Scans of bodies -/

/-- Behind a front stands the next character. -/
theorem read_append_cons (front : Text) (unit : CodePoint) (rest : Text) :
    (front ++ unit :: rest).read front.length = .ok unit := by
  rw [read_natCast_iff, List.getElem?_append_right (Nat.le_refl _), Nat.sub_self]
  rfl

theorem slice_append_append (front middle back : Text) :
    (front ++ middle ++ back).slice (some front.length)
      (some (front.length + middle.length : Nat)) = middle := by
  rw [slice_natCast, List.take_append_of_le_length (by rw [List.length_append]),
    ← List.length_append, List.take_length, List.drop_left]

/-- A scan that begins with a body ends behind the quote that follows it, or at the end of the range
if that comes first. -/
theorem literalEnd_escaped {quote escape : CodePoint} (differs : quote ≠ escape) (stop : Int)
    {text front body tail : Text} {close : Int}
    (holds : text = front ++ (body.escaped quote escape ++ quote :: tail))
    (closes : close = front.length + (body.escaped quote escape).length) :
    text.literalEnd stop quote (some escape) front.length =
      if close < stop then .closed (close + 1) else .unterminated := by
  induction body generalizing front with
  | nil =>
    have read : text.read front.length = .ok quote := by
      rw [holds]
      exact read_append_cons front quote tail
    have here : close = front.length := closes
    rw [here]
    by_cases below : (front.length : Int) < stop
    · rw [if_pos below]
      exact literalEnd_of_quote below read fun same => differs (Option.some.inj same).symm
    · rw [if_neg below, literalEnd_of_end below]
  | cons unit rest inductionHypothesis =>
    by_cases special : unit = quote ∨ unit = escape
    · rw [escaped_cons_of_special special] at holds closes
      rw [List.length_cons, List.length_cons] at closes
      by_cases below : (front.length : Int) < stop
      · -- The scan takes the character together with its escape.
        have read : text.read front.length = .ok escape := by
          rw [holds]
          exact read_append_cons front escape _
        have taken : ((front ++ [escape, unit]).length : Int) = front.length + 2 := by
          rw [List.length_append]
          rfl
        rw [literalEnd_of_escape below read rfl, ← taken]
        refine inductionHypothesis ?_ (by omega)
        rw [holds, List.append_assoc]
        rfl
      · rw [if_neg (by omega), literalEnd_of_end below]
    · rw [escaped_cons_of_plain special] at holds closes
      rw [List.length_cons] at closes
      by_cases below : (front.length : Int) < stop
      · have read : text.read front.length = .ok unit := by
          rw [holds]
          exact read_append_cons front unit _
        have taken : ((front ++ [unit]).length : Int) = front.length + 1 := by
          rw [List.length_append]
          rfl
        rw [literalEnd_of_other below read (fun same => special (.inr (Option.some.inj same).symm))
          fun same => special (.inl same), ← taken]
        refine inductionHypothesis ?_ (by omega)
        rw [holds, List.append_assoc]
        rfl
      · rw [if_neg (by omega), literalEnd_of_end below]

end Text

namespace Cursor

/-- A cursor in front of an escaped body and a quote takes both, if its range goes on behind the
quote, and what it takes is the body with its escapes and the quote. Otherwise it takes nothing. -/
theorem eatQuoted_escaped {cursor : Cursor} {quote : Glyph} {escape : Option Glyph}
    {mark sign : CodePoint} (differs : mark ≠ sign) (quoted : quote.toUnit = .ok mark)
    (escapes : cursor.EscapesBy escape sign) {front body tail : Text}
    (holds : cursor.text = front ++ (body.escaped mark sign ++ mark :: tail))
    (stands : cursor.position = front.length) :
    let close : Int := front.length + (body.escaped mark sign).length
    let eaten := cursor.eatQuoted quote escape
    (close + 1 ≤ cursor.stop →
      eaten.result = .ok true ∧ eaten.cursor = { cursor with position := close + 1 } ∧
      Text.unescaped sign (cursor.text.slice (some cursor.position)
        (some eaten.cursor.position)).dropLast = body) ∧
    (cursor.stop ≤ close → eaten.result = .ok false ∧ eaten.cursor = cursor) := by
  intro close eaten
  have scanned : eaten = _ := eatQuoted_eq quoted escapes
  have ending := Text.literalEnd_escaped differs cursor.stop holds (show close = _ from rfl)
  rw [stands, ending] at scanned
  refine ⟨fun inside => ?_, fun short => ?_⟩
  · rw [if_pos (by omega)] at scanned
    have taken : cursor.text.slice (some front.length) (some (close + 1)) =
        body.escaped mark sign ++ [mark] := by
      have whole : cursor.text = front ++ (body.escaped mark sign ++ [mark]) ++ tail := by
        rw [holds]
        simp
      have reached : close + 1 =
          ((front.length + (body.escaped mark sign ++ [mark]).length : Nat) : Int) := by
        rw [List.length_append, List.length_singleton]
        omega
      rw [whole, reached, Text.slice_append_append]
    rw [scanned, stands]
    refine ⟨rfl, rfl, ?_⟩
    show Text.unescaped sign (cursor.text.slice (some front.length) (some (close + 1))).dropLast =
      body
    rw [taken, List.dropLast_concat, Text.unescaped_escaped]
  · rw [if_neg (by omega)] at scanned
    rw [scanned]
    exact ⟨rfl, rfl⟩

/-- A body made of quotes and escapes only, which ends with an escape. -/
def quotedQuotes : Text := "'%%'%"

/-- The body in a longer text, which goes on with an escape and a quote. -/
def amidQuotes (stop : Int) : Cursor where
  text := Text.ofString "ab" ++
    (quotedQuotes.escaped (.ofChar '\'') (.ofChar '%') ++ .ofChar '\'' :: Text.ofString "%'")
  position := 2
  start := 0
  lower := 0
  stop
  settings := .standard

/-- The scan stops at the quote behind the body, and one character less is too few. -/
theorem eatQuoted_escaped_amidQuotes :
    (CodePoint.ofChar '\'' ≠ .ofChar '%' ∧ (Glyph.code 39).toUnit = .ok (.ofChar '\'') ∧
      (∀ stop, (amidQuotes stop).EscapesBy (some (.text "%")) (.ofChar '%')) ∧
      ∀ stop, (amidQuotes stop).position = (Text.ofString "ab").length) ∧
    ((amidQuotes 13).eatQuoted (.code 39) (some (.text "%"))).cursor.position = 13 ∧
    Text.unescaped (.ofChar '%') ((amidQuotes 13).text.slice (some 2) (some 13)).dropLast =
      quotedQuotes ∧
    ((amidQuotes 12).eatQuoted (.code 39) (some (.text "%"))).result = .ok false := by
  have differs : CodePoint.ofChar '\'' ≠ .ofChar '%' := by decide
  have quoted : (Glyph.code 39).toUnit = .ok (.ofChar '\'') := rfl
  have escapes : ∀ stop, (amidQuotes stop).EscapesBy (some (.text "%")) (.ofChar '%') :=
    fun stop => rfl
  have stands : ∀ stop, (amidQuotes stop).position = (Text.ofString "ab").length := fun stop => rfl
  obtain ⟨_, moved, body⟩ :=
    (eatQuoted_escaped differs quoted (escapes 13) rfl (stands 13)).1 (by decide)
  have short := (eatQuoted_escaped differs quoted (escapes 12) rfl (stands 12)).2 (by decide)
  rw [moved] at body
  refine ⟨⟨differs, quoted, escapes, stands⟩, ?_, body, short.1⟩
  rw [moved]
  rfl

end Cursor

end Lexing
