/-
This file says what a cursor reads that has gone back before its text. A negative position counts
from the end of the text, so the end comes first, then the beginning up to the end of the range, as
if the text were wrapped around. Operations that look at the characters ahead come to the same as
for a fresh cursor over the wrapped text. Where the text is wrapped they notice nothing, even if an
escape is its last character and what it escapes is its first.
-/

import Lexing.Proofs.Alike
import Lexing.Proofs.Closing
import Lexing.Proofs.Range
import Mathlib.Data.List.Forall2

namespace Lexing

variable {Caller : Type}

/-! ### Cursors that have the same ahead -/

/-- A diagnostic with the message that it has, made in another text. -/
def Diagnostic.placedIn (text : Text) (distance : Int) (diagnostic : Diagnostic) : Diagnostic :=
  { diagnostic with position := diagnostic.position + distance, source := text }

/-- An answer given in another text: the same, up to the place and the source of a diagnostic. -/
def Answer.placedIn (text : Text) (distance : Int) : Answer → Answer
  | diagnostic given => diagnostic (given.placedIn text distance)
  | other => other

/-- Whether an operation only looks at the characters ahead, one after the other. -/
def Operation.looksAhead : Operation Caller → Bool
  | atEnd | peek | peekCode | next | nextCode => true
  | eat _ | eatWhile _ | expect _ _ | eatQuoted _ _ => true
  | _ => false

/-- Two steps by the same operation that come to the same, a fixed distance apart, the first in a
given text. -/
structure Stage.Retells (text : Text) (distance : Int) (stage other : Stage Caller) : Prop where
  operation : stage.operation = other.operation
  result : stage.result = other.result.map (Answer.placedIn text distance)
  position : stage.after.position = other.after.position + distance
  notices : stage.notices = other.notices.map (Notice.movedOn distance)
  caller : stage.caller = other.caller

namespace Cursor

section Alike

variable {cursor other : Cursor} {distance : Int}

/-- What is answered the same in every text is told by handing it on. -/
theorem map_retells {Result : Type} {change : Result → Answer}
    (plain : ∀ found, (change found).placedIn cursor.text distance = change found)
    (moved : Moved Result) :
    (cursor.retells distance moved).map change =
      (cursor.retells distance (moved.map change)).map (Answer.placedIn cursor.text distance) := by
  obtain ⟨result, after, notices⟩ := moved
  cases result with
  | error cause => rfl
  | ok found =>
    exact congrArg (fun answer => Moved.mk (.ok answer : Except Failure Answer) _ _)
      (plain found).symm

theorem map_retells_stay (like : cursor.ReadsLike other distance)
    {result : Except Failure Answer}
    (plain : result.map (Answer.placedIn cursor.text distance) = result) :
    cursor.stay result =
      (cursor.retells distance (other.stay result)).map (Answer.placedIn cursor.text distance) := by
  rw [← like.stay]
  exact congrArg (Moved.mk · cursor []) plain.symm

/-- An operation that looks ahead comes to the same on cursors with the same characters ahead. -/
theorem ReadsLike.perform (like : cursor.ReadsLike other distance) {operation : Operation Caller}
    (looks : operation.looksAhead = true) (caller : Caller) :
    cursor.perform operation caller =
      ((cursor.retells distance (other.perform operation caller).1).map
        (Answer.placedIn cursor.text distance), (other.perform operation caller).2) := by
  cases operation with
  | atEnd =>
    show (cursor.stay (.ok (Answer.truth cursor.atEnd)), caller) = _
    rw [like.atEnd]
    exact congrArg (Prod.mk · caller) (map_retells_stay like rfl)
  | peek =>
    show (cursor.stay (cursor.peek.map Answer.unit), caller) = _
    rw [like.peek]
    refine congrArg (Prod.mk · caller) (map_retells_stay like ?_)
    cases other.peek <;> rfl
  | peekCode =>
    show (cursor.stay (cursor.peekCode.map Answer.code), caller) = _
    unfold peekCode
    rw [like.peek]
    refine congrArg (Prod.mk · caller) (map_retells_stay like ?_)
    cases other.peek <;> rfl
  | next =>
    show (cursor.next.map Answer.unit, caller) = _
    rw [like.next, map_retells fun _ => rfl]
    rfl
  | nextCode =>
    show (cursor.nextCode.map Answer.code, caller) = _
    unfold nextCode
    rw [like.next]
    exact congrArg (Prod.mk · caller) (map_retells (fun _ => rfl) (other.next.map _))
  | eat spec =>
    show ((cursor.eat spec caller).1.map Answer.truth, (cursor.eat spec caller).2) = _
    rw [like.eat, map_retells fun _ => rfl]
    rfl
  | eatWhile spec =>
    show ((cursor.eatWhile spec caller).1.map Answer.truth, (cursor.eatWhile spec caller).2) = _
    rw [like.eatWhile, map_retells fun _ => rfl]
    rfl
  | eatQuoted quote escape =>
    show ((cursor.eatQuoted quote escape).map Answer.truth, caller) = _
    rw [like.eatQuoted, map_retells fun _ => rfl]
    rfl
  | expect spec message =>
    have diagnoses (message : Text) : cursor.diagnose message =
        (other.diagnose message).placedIn cursor.text distance := by
      unfold diagnose Diagnostic.placedIn
      rw [like.position, like.settings]
    unfold Cursor.perform
    dsimp only
    rw [like.expect _ diagnoses]
    generalize other.expect spec message caller = expected
    obtain ⟨⟨result, after, notices⟩, left⟩ := expected
    cases result with
    | error cause => rfl
    | ok found => cases found <;> rfl
  | _ => cases looks

/-- A run of such operations goes side by side on both. -/
theorem ReadsLike.stages (like : cursor.ReadsLike other distance) (nonneg : 0 ≤ other.stop)
    {operations : List (Operation Caller)}
    (look : ∀ operation ∈ operations, operation.looksAhead = true) (caller : Caller) :
    List.Forall₂ (Stage.Retells cursor.text distance) (cursor.stages operations caller)
      (other.stages operations caller) := by
  induction operations generalizing cursor other caller with
  | nil => exact .nil
  | cons operation rest inductionHypothesis =>
    obtain ⟨looks, later⟩ := List.forall_mem_cons.mp look
    have scans : operation.scans = true := by cases operation <;> first | rfl | cases looks
    have forward := perform_forward other nonneg scans caller
    have performed := like.perform looks caller
    rw [stages_cons, stages_cons]
    have left : (cursor.stage operation caller).after =
        { cursor with position := (other.stage operation caller).after.position + distance } :=
      congrArg (fun moved => moved.1.cursor) performed
    have same : (cursor.stage operation caller).caller = (other.stage operation caller).caller :=
      congrArg (fun moved => moved.2) performed
    refine .cons ⟨rfl, congrArg (fun moved => moved.1.result) performed,
      congrArg Cursor.position left, congrArg (fun moved => moved.1.notices) performed, same⟩ ?_
    rw [left, same]
    refine inductionHypothesis (like.forward forward) ?_ later _
    rw [forward.stop]
    exact nonneg

end Alike

/-! ### Characters ahead -/

/-- The characters from the position on are known, up to the end of the range. -/
structure Ahead (cursor : Cursor) (units : Text) : Prop where
  read : ∀ (index : Nat) (unit : CodePoint), units[index]? = some unit →
    cursor.text.read (cursor.position + index) = .ok unit
  stop : cursor.position + units.length = cursor.stop

theorem ofText_whole (text : Text) (settings : Settings) :
    (ofText text settings 0 0 none).position = 0 ∧
      (ofText text settings 0 0 none).stop = text.length := by
  have stop : (ofText text settings 0 0 none).stop = text.length := rfl
  refine ⟨?_, stop⟩
  rw [ofText_position, ofText_lower, stop]
  omega

/-- A cursor reads like a fresh one over the characters that it has ahead. -/
theorem Ahead.readsLike {cursor : Cursor} {units : Text} (ahead : cursor.Ahead units) :
    cursor.ReadsLike (ofText units cursor.settings 0 0 none) cursor.position := by
  obtain ⟨position, stop⟩ := ofText_whole units cursor.settings
  refine ⟨?_, ?_, rfl, fun offset above below => ?_⟩
  · rw [position, Int.zero_add]
  · rw [stop, Int.add_comm]
    exact ahead.stop.symm
  · rw [position] at above
    rw [stop] at below
    obtain ⟨index, rfl⟩ := Int.eq_ofNat_of_zero_le above
    obtain ⟨unit, _, read⟩ := Text.exists_read above below
    rw [Int.add_comm, ahead.read index unit (Text.read_natCast_iff.mp read)]
    exact read.symm

section Walking

variable {cursor : Cursor} {units : Text} {unit : CodePoint}

theorem Ahead.next_nil (ahead : cursor.Ahead []) : cursor.next = cursor.stay (.ok none) := by
  have used : ¬ cursor.position < cursor.stop := by
    have stop := ahead.stop
    rw [List.length_nil] at stop
    omega
  unfold next peek
  rw [if_neg used]

theorem Ahead.next_cons (ahead : cursor.Ahead (unit :: units)) :
    cursor.next = cursor.moveTo (cursor.position + 1) (.ok (some unit)) ∧
      { cursor with position := cursor.position + 1 }.Ahead units := by
  have stop := ahead.stop
  rw [List.length_cons] at stop
  have read := ahead.read 0 unit rfl
  rw [Int.natCast_zero, Int.add_zero] at read
  refine ⟨?_, fun index other found => ?_, by dsimp only; omega⟩
  · unfold next peek
    rw [if_pos (by omega), read]
    rfl
  · have later := ahead.read (index + 1) other found
    rwa [Int.natCast_succ, Int.add_comm (index : Int), ← Int.add_assoc] at later

/-- Taking one character after the other takes the characters ahead in order, and then none. -/
theorem Ahead.run_next (ahead : cursor.Ahead units) (count : Nat) (caller : Caller) :
    (cursor.run (List.replicate count .next) caller).results =
        (units.take count).map (fun unit => .ok (.unit (some unit))) ++
          List.replicate (count - units.length) (.ok (.unit none)) ∧
      (cursor.run (List.replicate count .next) caller).cursor.position =
        cursor.position + min count units.length := by
  induction count generalizing cursor units with
  | zero =>
    rw [Nat.zero_min]
    exact ⟨by rw [List.take_zero, Nat.zero_sub]; rfl, (Int.add_zero _).symm⟩
  | succ count inductionHypothesis =>
    rw [List.replicate_succ]
    unfold run
    dsimp only
    cases units with
    | nil =>
      have performed : cursor.perform .next caller = (cursor.stay (.ok (.unit none)), caller) :=
        congrArg (fun moved : Moved _ => (moved.map Answer.unit, caller)) ahead.next_nil
      obtain ⟨results, position⟩ := inductionHypothesis ahead
      rw [List.take_nil] at results ⊢
      rw [List.length_nil, Nat.min_zero] at position ⊢
      rw [performed]
      exact ⟨congrArg (List.cons (.ok (.unit none))) results, position⟩
    | cons unit units =>
      obtain ⟨next, behind⟩ := ahead.next_cons
      have performed : cursor.perform .next caller =
          (cursor.moveTo (cursor.position + 1) (.ok (.unit (some unit))), caller) :=
        congrArg (fun moved : Moved _ => (moved.map Answer.unit, caller)) next
      obtain ⟨results, position⟩ := inductionHypothesis behind
      rw [performed, List.length_cons, Nat.add_sub_add_right, List.take_succ_cons]
      refine ⟨congrArg (List.cons _) results, position.trans ?_⟩
      dsimp only
      omega

end Walking

/-! ### Wrapped texts -/

/-- The text that is ahead of a cursor with a negative position: the end of its text, from the
position counted back, and the beginning up to the end of the range. -/
def wrappedText (cursor : Cursor) : Text :=
  cursor.text.slice (some (cursor.text.length + cursor.position)) none ++
    cursor.text.slice (some 0) (some cursor.stop)

section Wrapped

variable {cursor : Cursor} (negative : cursor.position < 0)
  (wraps : -(cursor.text.length : Int) ≤ cursor.position) (nonneg : 0 ≤ cursor.stop)
  (inside : cursor.stop ≤ cursor.text.length)

include negative wraps nonneg inside

omit inside in
theorem wrappedText_eq : cursor.wrappedText =
    cursor.text.drop (cursor.text.length + cursor.position).toNat ++
      cursor.text.take cursor.stop.toNat := by
  obtain ⟨start, early⟩ := Int.eq_ofNat_of_zero_le
    (a := cursor.text.length + cursor.position) (by omega)
  obtain ⟨stop, upTo⟩ := Int.eq_ofNat_of_zero_le nonneg
  have tail : cursor.text.slice (some (start : Int)) none = cursor.text.drop start := by
    show (cursor.text.take cursor.text.length).drop (cursor.text.bound start) = _
    rw [List.take_length, Text.bound_natCast, Nat.min_eq_left (by omega)]
  unfold wrappedText
  rw [early, upTo, tail, ← Int.natCast_zero, Text.slice_natCast, List.drop_zero, Int.toNat_natCast,
    Int.toNat_natCast]

/-- Across the end of its text a cursor reads on at the beginning. -/
theorem ahead_wrappedText : cursor.Ahead cursor.wrappedText := by
  rw [wrappedText_eq negative wraps nonneg]
  have tail : (cursor.text.drop (cursor.text.length + cursor.position).toNat).length =
      -cursor.position := by
    rw [List.length_drop]
    omega
  refine ⟨fun index unit found => ?_, ?_⟩
  · rcases Int.lt_or_le (cursor.position + index) 0 with before | behind
    · rw [List.getElem?_append_left (by omega), List.getElem?_drop] at found
      exact Text.read_of_neg before (by omega) found
    · rw [List.getElem?_append_right (by omega), List.getElem?_take] at found
      split at found
      case isTrue =>
        have here : cursor.position + index = (index - (cursor.text.drop
            (cursor.text.length + cursor.position).toNat).length : Nat) := by omega
        rw [here]
        exact Text.read_natCast_iff.mpr found
      case isFalse => cases found
  · rw [List.length_append, Int.natCast_add, tail, List.length_take]
    omega

end Wrapped

/-- A cursor that has gone back before its text reads the end of the text and then its beginning.
Every run of operations that look ahead answers as on a fresh cursor over the wrapped text, step by
step, as far apart as at first. And taking one character after the other goes through all of the
wrapped text, up to the end of the range, before there is none. -/
theorem stages_wrapped {cursor : Cursor} (negative : cursor.position < 0)
    (wraps : -(cursor.text.length : Int) ≤ cursor.position) (nonneg : 0 ≤ cursor.stop)
    (inside : cursor.stop ≤ cursor.text.length) (caller : Caller) :
    let units := cursor.wrappedText
    (∀ operations : List (Operation Caller),
        (∀ operation ∈ operations, operation.looksAhead = true) →
        List.Forall₂ (Stage.Retells cursor.text cursor.position) (cursor.stages operations caller)
          ((ofText units cursor.settings 0 0 none).stages operations caller)) ∧
      cursor.position + units.length = cursor.stop ∧
      ∀ count : Nat,
        let walked := cursor.run (List.replicate count .next) caller
        walked.results = (units.take count).map (fun unit => .ok (.unit (some unit))) ++
            List.replicate (count - units.length) (.ok (.unit none)) ∧
          walked.cursor.position = cursor.position + min count units.length := by
  intro units
  have ahead : cursor.Ahead units := ahead_wrappedText negative wraps nonneg inside
  refine ⟨fun operations look => ?_, ahead.stop, fun count => ahead.run_next count caller⟩
  refine ahead.readsLike.stages ?_ look caller
  exact (ofText_stop_inside units cursor.settings 0 0 none).1

/-- A cursor over a literal, with the rest of the text behind the range. -/
def enclosed : Cursor := ofText "'x'\\" .standard 0 0 (some 3)

/-- A fresh cursor over what is ahead one character before the text. -/
def unwrapped : Cursor := ofText "\\'x'" .standard 0 0 none

/-- From the escape that ends the text, the literal closes at its second quote: the first one is
escaped. -/
theorem stages_wrapped_escaped :
    let across := (enclosed.backUp 1).cursor
    across.position = -1 ∧
      (across.perform (.eatQuoted (.code 39) none) ()).1.result = .ok (.truth true) ∧
      (across.perform (.eatQuoted (.code 39) none) ()).1.cursor.position = 3 ∧
      (across.run (List.replicate 5 .next) ()).results =
        [.ok (.unit (some (.ofChar '\\'))), .ok (.unit (some (.ofChar '\''))),
          .ok (.unit (some (.ofChar 'x'))), .ok (.unit (some (.ofChar '\''))),
          .ok (.unit none)] := by
  intro across
  have cut : ofText across.wrappedText across.settings 0 0 none = unwrapped := rfl
  have quoted : (Glyph.code 39).toUnit = .ok (.ofChar '\'') := rfl
  have escaped : unwrapped.EscapesBy none (.ofChar '\\') := rfl
  have ending : unwrapped.text.literalEnd unwrapped.stop (.ofChar '\'') (some (.ofChar '\\'))
      unwrapped.position = .closed 4 :=
    calc
      _ = Text.literalEnd "\\'x'" 4 (.ofChar '\'') (some (.ofChar '\\')) 2 :=
        Text.literalEnd_of_escape (by decide)
          (show Text.read "\\'x'" 0 = .ok (.ofChar '\\') from rfl) rfl
      _ = Text.literalEnd "\\'x'" 4 (.ofChar '\'') (some (.ofChar '\\')) 3 :=
        Text.literalEnd_of_other (by decide)
          (show Text.read "\\'x'" 2 = .ok (.ofChar 'x') from rfl) (by decide) (by decide)
      _ = _ := Text.literalEnd_of_quote (by decide) rfl (by decide)
  have closed : unwrapped.eatQuoted (.code 39) none = unwrapped.moveTo 4 (.ok true) := by
    rw [eatQuoted_eq quoted escaped, ending]
  have negative : across.position < 0 := by decide
  obtain ⟨alike, -, walks⟩ := stages_wrapped negative (by decide) (by decide) (by decide) ()
  rw [cut] at alike
  obtain ⟨retells, -⟩ := List.forall₂_cons.mp (alike [.eatQuoted (.code 39) none] (by decide))
  refine ⟨rfl, retells.result.trans ?_, retells.position.trans ?_, (walks 5).1⟩
  · exact congrArg (fun moved : Moved Bool => (moved.map Answer.truth).result.map _) closed
  · exact congrArg (fun moved : Moved Bool => moved.cursor.position + across.position) closed

end Cursor

end Lexing
