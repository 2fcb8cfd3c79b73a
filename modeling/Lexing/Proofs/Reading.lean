/-
This file says when looking at characters fails: just when the position is so far before the text
that it does not even name a character counted from the end, and then for no other cause than that
there is nothing to read. This is so for every operation that looks at characters, whether it takes
one or a run of them, as long as it is asked for nothing that fails by itself. Whatever happens to
the position while it scans, it does not get there: an operation whose first character can be read
can read all others.

The rest of the operations never fail where bounds are not checked, and only moving back can carry
the position there.
-/

import Lexing.Proofs.Failed
import Lexing.Proofs.Rounds

namespace Lexing

variable {Caller : Type}

/-! ### What is asked for -/

/-- Whether a failure is that of a read at an offset that names no character. -/
def Failure.isUnread : Failure → Bool
  | outsideText | offsetTooWide => true
  | _ => false

theorem Text.isUnread_of_read {text : Text} {offset : Int} {cause : Failure}
    (unread : text.read offset = .error cause) : cause.isUnread = true := by
  unfold read at unread
  split at unread
  · cases unread
  · split at unread <;> cases unread <;> rfl

namespace Operation

/-- Whether an operation looks at characters, and at nothing but the answers of matchers besides. -/
def reads : Operation Caller → Bool
  | peek | peekCode | next | nextCode | drain | eat _ | eatWhile _ | consume _ | eatQuoted _ _ => true
  | _ => false

/-- Whether an operation only sets or tells offsets, cuts or searches. -/
def isLenient : Operation Caller → Bool
  | atEnd | atStart | backUp _ | skipTo _ | save _ | current | substring _ _ | source | display
  | diagnose _ => true
  | _ => false

/-- What the operation is asked for stands for something: its matcher answers about every character
of the text, its needle can be searched for, its quote and its escape are characters. -/
def Accepted (text : Text) : Operation Caller → Prop
  | eat spec | eatWhile spec | consume spec => spec.Answers text
  | skipTo needle => ∃ content, needle.toNeedle = .ok content
  | eatQuoted quote escape =>
    (∃ mark, quote.toUnit = .ok mark) ∧ ∃ sign, escape.mapM Glyph.toUnit = .ok sign
  | _ => True

end Operation

namespace Cursor

/-- A result that is there if the rest of the range can be read, and that is the failure of the first
read if that one fails. -/
structure Reads {Result : Type} (cursor : Cursor) (result : Except Failure Result) : Prop where
  answers : cursor.text.ReadableBetween cursor.position cursor.stop →
    ∃ answer, result = .ok answer
  fails : ∀ cause, cursor.position < cursor.stop →
    cursor.text.read cursor.position = .error cause → result = .error cause

section Reads

variable {cursor : Cursor} {Result Other : Type} {result : Except Failure Result}

theorem Reads.map (reads : cursor.Reads result) (change : Result → Other) :
    cursor.Reads (result.map change) where
  answers readable := by
    obtain ⟨answer, answered⟩ := reads.answers readable
    exact ⟨change answer, by rw [answered]; rfl⟩
  fails cause below unread := by
    rw [reads.fails cause below unread]
    rfl

/-- In a range that lies in its text a read fails just if it is before the text. -/
theorem Reads.fails_iff (reads : cursor.Reads result) (bounded : cursor.Bounded) :
    ((∃ cause, result = .error cause) ↔ cursor.position < -(cursor.text.length : Int)) ∧
      ∀ cause, result = .error cause → cause.isUnread = true := by
  have nonneg := bounded.stop_nonneg
  rcases Int.lt_or_le cursor.position (-(cursor.text.length : Int)) with before | wrapped
  · cases read : cursor.text.read cursor.position with
    | ok unit =>
      have inside := ((Text.exists_read_iff _ _).mp ⟨unit, read⟩).1
      omega
    | error other =>
      have failed := reads.fails other (by omega) read
      refine ⟨⟨fun _ => before, fun _ => ⟨other, failed⟩⟩, fun cause same => ?_⟩
      cases failed.symm.trans same
      exact Text.isUnread_of_read read
  · obtain ⟨answer, answered⟩ :=
      reads.answers (Text.readableBetween_of_le wrapped bounded.stop_le_length)
    have unfailing : ∀ cause, result ≠ .error cause := by
      rintro cause failed
      cases answered.symm.trans failed
    exact ⟨⟨fun ⟨cause, failed⟩ => absurd failed (unfailing cause), fun before => by omega⟩,
      fun cause failed => absurd failed (unfailing cause)⟩

theorem exists_ok_of_ne_error (unfailing : ∀ cause, result ≠ .error cause) :
    ∃ answer, result = .ok answer := by
  cases result with
  | error cause => exact absurd rfl (unfailing cause)
  | ok answer => exact ⟨answer, rfl⟩

end Reads

/-! ### Operations that look at characters -/

section Looking

variable {cursor : Cursor}

theorem peek_reads : cursor.Reads cursor.peek where
  answers readable := exists_ok_of_ne_error (peek_ne_error readable)
  fails cause below unread := by
    rw [peek, if_pos below, unread]
    rfl

theorem next_reads : cursor.Reads cursor.next.result := by
  rw [next_result]
  exact peek_reads

theorem drain_reads : cursor.Reads cursor.drain.result where
  answers readable := exists_ok_of_ne_error (drain_ne_error cursor readable)
  fails cause below unread := by
    rw [drain_of_error (next_reads.fails cause below unread)]

theorem eatQuoted_reads {quote : Glyph} {escape : Option Glyph}
    (quoted : ∃ mark, quote.toUnit = .ok mark)
    (escaped : ∃ sign, escape.mapM Glyph.toUnit = .ok sign) :
    cursor.Reads (cursor.eatQuoted quote escape).result := by
  obtain ⟨mark, quoted⟩ := quoted
  obtain ⟨sign, escaped⟩ := escaped
  unfold eatQuoted
  rw [quoted, escaped]
  constructor
  · intro readable
    dsimp only
    split
    · exact ⟨true, rfl⟩
    · exact ⟨false, rfl⟩
    · rename_i cause reached ending
      exact absurd ending (literalEnd_ne_unreadable readable mark _ cause reached)
  · intro cause below unread
    dsimp only
    rw [Text.literalEnd_of_unreadable below unread]
    rfl

variable {spec : Spec Caller}

theorem eat_reads (answers : spec.Answers cursor.text) (caller : Caller) :
    cursor.Reads (cursor.eat spec caller).1.result := by
  obtain ⟨matcher, stands, answered⟩ := answers
  constructor
  · intro readable
    unfold eat
    split
    case isFalse => exact ⟨false, rfl⟩
    case isTrue below =>
      obtain ⟨unit, read⟩ := readable cursor.position (Int.le_refl _) below
      obtain ⟨holds, asked⟩ := answered unit (Text.mem_of_read read) caller
      rw [stands, read]
      dsimp only
      split
      · rename_i failed
        rw [failed] at asked
        cases asked
      · exact ⟨false, rfl⟩
      · exact ⟨true, rfl⟩
  · intro cause below unread
    rw [eat, if_pos below, stands, unread]
    rfl

theorem eatWhile_reads (answers : spec.Answers cursor.text) (caller : Caller) :
    cursor.Reads (cursor.eatWhile spec caller).1.result := by
  obtain ⟨matcher, stands, answered⟩ := answers
  unfold eatWhile
  rw [stands]
  refine Reads.map ⟨fun readable => ⟨(), runEnd_answers answered readable caller⟩, ?_⟩ _
  intro cause below unread
  rw [Matcher.runEnd_of_unreadable below unread]

theorem consume_reads (unchecked : cursor.settings.checksBounds = false)
    (answers : spec.Answers cursor.text) (caller : Caller) :
    cursor.Reads (cursor.consume spec caller).1.result := by
  have allowed : ¬ cursor.settings.checksBounds = true := Bool.eq_false_iff.mp unchecked
  rw [consume_of_allowed spec caller fun checked => absurd checked allowed]
  -- Marking changes neither the text nor where it is read.
  have marked : (cursor.markAt cursor.position).Reads
      ((cursor.markAt cursor.position).eatWhile spec caller).1.result :=
    eatWhile_reads (show spec.Answers (cursor.markAt cursor.position).text from answers) caller
  have reads : cursor.Reads ((cursor.markAt cursor.position).eatWhile spec caller).1.result :=
    ⟨marked.answers, marked.fails⟩
  exact reads.map _

theorem perform_reads (unchecked : cursor.settings.checksBounds = false)
    {operation : Operation Caller} (reads : operation.reads = true)
    (accepted : operation.Accepted cursor.text) (caller : Caller) :
    cursor.Reads (cursor.perform operation caller).1.result := by
  cases operation with
  | peek => exact peek_reads.map _
  | peekCode => exact (peek_reads.map _).map _
  | next => exact next_reads.map _
  | nextCode => exact (next_reads.map _).map _
  | drain => exact drain_reads.map _
  | eat spec => exact (eat_reads accepted caller).map _
  | eatWhile spec => exact (eatWhile_reads accepted caller).map _
  | consume spec => exact (consume_reads unchecked accepted caller).map _
  | eatQuoted quote escape => exact (eatQuoted_reads accepted.1 accepted.2).map _
  | _ => cases reads

/-! ### Operations that do not -/

theorem perform_answers (unchecked : cursor.settings.checksBounds = false)
    {operation : Operation Caller} (lenient : operation.isLenient = true)
    (accepted : operation.Accepted cursor.text) (caller : Caller) :
    ∃ answer, (cursor.perform operation caller).1.result = .ok answer := by
  have allowed : ¬ cursor.settings.checksBounds = true := Bool.eq_false_iff.mp unchecked
  cases operation with
  | backUp count =>
    refine ⟨.done, ?_⟩
    show ((cursor.backUp count).map fun _ => Answer.done).result = _
    rw [backUp_of_allowed fun checked => absurd checked allowed]
    rfl
  | save offset =>
    refine ⟨.offset (min (offset.getD cursor.position) cursor.stop), ?_⟩
    show ((cursor.save offset).map Answer.offset).result = _
    rw [save_of_allowed fun checked => absurd checked allowed]
    rfl
  | skipTo needle =>
    obtain ⟨content, wanted⟩ := accepted
    show ∃ answer, ((cursor.skipTo needle).map Answer.truth).result = .ok answer
    unfold skipTo
    rw [wanted]
    dsimp only
    split
    · exact ⟨.truth true, rfl⟩
    · exact ⟨.truth false, rfl⟩
  | atEnd | atStart | current | substring | source | display | diagnose => exact ⟨_, rfl⟩
  | _ => cases lenient

/-! ### Positions before the text -/

/-- Only moving back goes back. -/
theorem position_le_perform (bounded : cursor.Bounded) {operation : Operation Caller}
    (onward : ∀ count, operation ≠ .backUp count) (caller : Caller) :
    cursor.position ≤ (cursor.perform operation caller).1.cursor.position := by
  have nonneg := bounded.stop_nonneg
  have moves := perform_moves cursor nonneg operation caller
  generalize (cursor.perform operation caller).1.cursor = after at moves
  cases moves with
  | refused => exact Int.le_refl _
  | scanned scans forward => exact forward.le
  | @backedUp count allowed => exact absurd rfl (onward count)
  | marked allowed => exact Int.le_refl _
  | consumed allowed forward => exact forward.le

/-- From where the text can be read an operation gets to where it cannot just by moving back to
there. -/
theorem perform_wrapped_iff (bounded : cursor.Bounded)
    (unchecked : cursor.settings.checksBounds = false)
    (wrapped : -(cursor.text.length : Int) ≤ cursor.position) (operation : Operation Caller)
    (caller : Caller) :
    -(cursor.text.length : Int) ≤ (cursor.perform operation caller).1.cursor.position ↔
      ∀ count, operation = .backUp count →
        -(cursor.text.length : Int) ≤ cursor.position - count := by
  by_cases back : ∃ count, operation = .backUp count
  · obtain ⟨count, rfl⟩ := back
    have moved : (cursor.perform (.backUp count) caller).1.cursor.position =
        cursor.position - count := by
      show (cursor.backUp count).cursor.position = _
      rw [backUp_of_allowed fun checked => absurd checked (Bool.eq_false_iff.mp unchecked)]
      rfl
    rw [moved]
    exact ⟨fun lands other same => by cases same; exact lands, fun lands => lands count rfl⟩
  · have onward : ∀ count, operation ≠ .backUp count := fun count same => back ⟨count, same⟩
    have le := position_le_perform bounded onward caller
    exact ⟨fun _ count same => absurd same (onward count), fun _ => by omega⟩

end Looking

/-! ### Runs -/

/-- Wherever a run of an unchecked fresh cursor has got to, an operation that looks at characters,
and is asked for what stands for something, fails just if the position is before the text by more
than its length, and then because there is nothing to read. The lenient operations do not fail. And
from elsewhere only moving back gets to such a position, if it is asked to. -/
theorem course_reads {cursor : Cursor} (fresh : cursor.Fresh)
    (unchecked : cursor.settings.checksBounds = false) (operations : List (Operation Caller))
    (caller : Caller) :
    ∀ reached ∈ cursor.course operations caller, ∀ (operation : Operation Caller) (state : Caller),
      let length : Int := cursor.text.length
      let performed := (reached.perform operation state).1
      (operation.Accepted cursor.text →
        (operation.reads = true →
          ((∃ cause, performed.result = .error cause) ↔ reached.position < -length) ∧
          ∀ cause, performed.result = .error cause → cause.isUnread = true) ∧
        (operation.isLenient = true → ∃ answer, performed.result = .ok answer)) ∧
      (-length ≤ reached.position →
        (-length ≤ performed.cursor.position ↔
          ∀ count, operation = .backUp count → -length ≤ reached.position - count)) := by
  intro reached member operation state
  have same := course_sameScope fresh.bounded reached member
  have bounded := same.bounded fresh.bounded
  have free : reached.settings.checksBounds = false := by rwa [same.settings]
  rw [← same.text]
  exact ⟨fun accepted =>
    ⟨fun reads => (perform_reads free reads accepted state).fails_iff bounded,
      fun lenient => perform_answers free lenient accepted state⟩,
    fun wrapped => perform_wrapped_iff bounded free wrapped operation state⟩

/-- A text of three characters. -/
def brief : Cursor := ofText "a'b" .standard 1 0 none

/-- Goes back to the first offset that can still be read, counted from the end, and then one
further. -/
def backBeyond : List (Operation Unit) := [.next, .backUp 5, .backUp 1]

/-- The literal that closes across the end of the text is found from the first of these offsets, and
one further there is nothing to read. -/
theorem course_reads_backBeyond :
    (brief.run (backBeyond.take 2) ()).cursor.position = -3 ∧
      (∃ answer, ((brief.run (backBeyond.take 2) ()).cursor.perform
        (.eatQuoted (.code 39) none) ()).1.result = .ok answer) ∧
      (brief.run backBeyond ()).cursor.position = -4 ∧
      ∃ cause, ((brief.run backBeyond ()).cursor.perform
        (.eatQuoted (.code 39) none) ()).1.result = .error cause ∧ cause.isUnread = true := by
  have fresh : brief.Fresh := .ofText _ _ _ _ _
  have valid : (Operation.eatQuoted (.code 39) none : Operation Unit).Accepted brief.text :=
    ⟨⟨.ofChar '\'', rfl⟩, none, rfl⟩
  have near := (course_reads fresh rfl (backBeyond.take 2) () _ (run_cursor_mem_course _ _ _)
    (.eatQuoted (.code 39) none) ()).1 valid
  have beyond := (course_reads fresh rfl backBeyond () _ (run_cursor_mem_course _ _ _)
    (.eatQuoted (.code 39) none) ()).1 valid
  have first : (brief.run (backBeyond.take 2) ()).cursor.position = -3 := rfl
  have second : (brief.run backBeyond ()).cursor.position = -4 := rfl
  obtain ⟨cause, failed⟩ := (beyond.1 rfl).1.mpr (by rw [second]; decide)
  refine ⟨first, exists_ok_of_ne_error fun other failed => ?_, second, cause, failed,
    (beyond.1 rfl).2 cause failed⟩
  have before := (near.1 rfl).1.mp ⟨other, failed⟩
  rw [first] at before
  exact absurd before (by decide)

end Cursor

end Lexing
