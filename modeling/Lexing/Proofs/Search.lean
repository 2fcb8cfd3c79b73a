/-
This file says what a search finds: of the indices at which the needle stands wholly between the two
bounds, the first. An occurrence may overlap others and may touch either bound.
-/

import Lexing.Proofs.Offset
import Mathlib.Data.Nat.Find
import Mathlib.Order.Bounds.Basic

namespace Lexing.Text

/-- A needle stands at an index of a text, wholly between two others. -/
structure OccursAt (text needle : Text) (first last index : Nat) : Prop where
  le : first ≤ index
  fits : index + needle.length ≤ last
  here : text.slice (some index) (some (index + needle.length : Nat)) = needle

theorem slice_length_eq_iff {text needle : Text} {index : Nat} :
    text.slice (some index) (some (index + needle.length : Nat)) = needle ↔
      needle <+: text.drop index := by
  rw [slice_natCast, List.drop_take, Nat.add_sub_cancel_left, List.prefix_iff_eq_take, eq_comm]

section Occurrences

variable {needle text : Text}

theorem occurrence?_of_begins (here : needle <+: text) : occurrence? needle text = some 0 := by
  cases text with
  | nil => exact if_pos (List.isEmpty_iff.mpr (List.prefix_nil.mp here))
  | cons unit rest => exact if_pos (List.isPrefixOf_iff_prefix.mpr here)

theorem occurrence?_nil_of_not (other : ¬ needle <+: []) : occurrence? needle [] = none :=
  if_neg fun empty => other (List.prefix_nil.mpr (List.isEmpty_iff.mp empty))

theorem occurrence?_cons_of_not {unit : CodePoint} {rest : Text}
    (other : ¬ needle <+: unit :: rest) :
    occurrence? needle (unit :: rest) = (occurrence? needle rest).map (· + 1) :=
  if_neg fun here => other (List.isPrefixOf_iff_prefix.mp here)

/-- The number of characters before the first occurrence. -/
theorem occurrence?_eq_some_iff {count : Nat} : occurrence? needle text = some count ↔
    needle <+: text.drop count ∧ ∀ earlier < count, ¬ needle <+: text.drop earlier := by
  have atOnce : ∀ {text : Text} {count : Nat}, needle <+: text →
      (occurrence? needle text = some count ↔
        needle <+: text.drop count ∧ ∀ earlier < count, ¬ needle <+: text.drop earlier) := by
    intro text count here
    rw [occurrence?_of_begins here, Option.some.injEq]
    refine ⟨?_, fun ⟨_, least⟩ => ?_⟩
    · rintro rfl
      exact ⟨here, fun earlier before => absurd before (Nat.not_lt_zero _)⟩
    · by_contra later
      exact least 0 (by omega) here
  induction text generalizing count with
  | nil =>
    by_cases here : needle <+: []
    · exact atOnce here
    · rw [occurrence?_nil_of_not here, List.drop_nil]
      exact ⟨fun found => (nomatch found), fun found => absurd found.1 here⟩
  | cons unit rest inductionHypothesis =>
    by_cases here : needle <+: unit :: rest
    · exact atOnce here
    · rw [occurrence?_cons_of_not here, Option.map_eq_some_iff]
      cases count with
      | zero => exact ⟨fun ⟨_, _, same⟩ => (nomatch same), fun found => absurd found.1 here⟩
      | succ count =>
        refine ⟨fun ⟨later, found, same⟩ => ?_, fun ⟨found, least⟩ => ⟨count, ?_, rfl⟩⟩
        · cases same
          obtain ⟨stands, least⟩ := inductionHypothesis.mp found
          refine ⟨stands, fun earlier before => ?_⟩
          cases earlier with
          | zero => exact here
          | succ earlier => exact least earlier (Nat.lt_of_succ_lt_succ before)
        · exact inductionHypothesis.mpr
            ⟨found, fun earlier before => least (earlier + 1) (Nat.succ_lt_succ before)⟩

/-- In a window an index is counted from the first bound on. -/
theorem prefix_drop_window_iff (nonempty : needle ≠ []) {first last count : Nat} :
    needle <+: ((text.take last).drop first).drop count ↔
      text.OccursAt needle first last (first + count) := by
  have positive : 0 < needle.length := List.length_pos_iff.mpr nonempty
  rw [List.drop_drop, List.drop_take, List.prefix_take_iff]
  refine ⟨fun ⟨stands, fits⟩ => ⟨Nat.le_add_right _ _, by omega, slice_length_eq_iff.mpr stands⟩,
    fun ⟨_, fits, here⟩ => ⟨slice_length_eq_iff.mp here, by omega⟩⟩

/-- A search finds the first occurrence between the bounds. -/
theorem find?_eq_some_iff (nonempty : needle ≠ []) {first last : Int} {offset : Nat} :
    text.find? needle first last = some offset ↔
      IsLeast {index | text.OccursAt needle (text.bound first) (text.bound last) index} offset := by
  rw [find?_eq, Option.map_eq_some_iff]
  refine ⟨fun ⟨count, found, same⟩ => ?_, fun ⟨occurs, least⟩ => ?_⟩
  · cases same
    obtain ⟨stands, earliest⟩ := occurrence?_eq_some_iff.mp found
    refine ⟨(prefix_drop_window_iff nonempty).mp stands, fun index occurs => ?_⟩
    have above := occurs.le
    by_contra before
    refine earliest (index - text.bound first) (by omega) ((prefix_drop_window_iff nonempty).mpr ?_)
    rwa [Nat.add_sub_cancel' above]
  · refine ⟨offset - text.bound first, occurrence?_eq_some_iff.mpr ⟨?_, fun earlier before => ?_⟩,
      Nat.add_sub_cancel' occurs.le⟩
    · rw [prefix_drop_window_iff nonempty, Nat.add_sub_cancel' occurs.le]
      exact occurs
    · intro stands
      have bound := least ((prefix_drop_window_iff nonempty).mp stands)
      omega

/-- A search finds nothing just if there is no occurrence between the bounds. -/
theorem find?_eq_none_iff (nonempty : needle ≠ []) {first last : Int} :
    text.find? needle first last = none ↔
      ∀ index, ¬ text.OccursAt needle (text.bound first) (text.bound last) index := by
  refine ⟨fun missed index occurs => ?_, fun nowhere => ?_⟩
  · classical
    have somewhere : ∃ index, text.OccursAt needle (text.bound first) (text.bound last) index :=
      ⟨index, occurs⟩
    have found := (find?_eq_some_iff nonempty).mpr
      ⟨Nat.find_spec somewhere, fun other also => Nat.find_min' somewhere also⟩
    rw [missed] at found
    cases found
  · cases found : text.find? needle first last with
    | none => rfl
    | some offset => exact absurd ((find?_eq_some_iff nonempty).mp found).1 (nowhere offset)

end Occurrences

/-! ### Single characters -/

theorem occursAt_singleton_iff {text : Text} {unit : CodePoint} {first last index : Nat} :
    text.OccursAt [unit] first last index ↔
      first ≤ index ∧ index < last ∧ text[index]? = some unit := by
  have begins : [unit] <+: text.drop index ↔ text[index]? = some unit := by
    refine ⟨fun ⟨rest, same⟩ => ?_, fun here => ?_⟩
    · rw [← List.head?_drop, ← same]
      rfl
    · obtain ⟨inside, rfl⟩ := List.getElem?_eq_some_iff.mp here
      rw [List.drop_eq_getElem_cons inside]
      exact ⟨_, rfl⟩
  rw [← begins]
  exact ⟨fun occurs => ⟨occurs.le, occurs.fits, slice_length_eq_iff.mp occurs.here⟩,
    fun ⟨le, before, here⟩ => ⟨le, before, slice_length_eq_iff.mpr here⟩⟩

end Lexing.Text
