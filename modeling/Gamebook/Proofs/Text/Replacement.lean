import Mathlib.Data.String.Basic

/-!
# Replacement within a text

Replacing a pattern goes through a text once, from left to right: where the pattern stands, the
replacement takes its place and the reading goes on behind it, and every other character is copied.
-/

namespace Gamebook.Text

open String.Slice (Pos)
open String.Slice.Pattern (SearchStep ToForwardSearcher)
open String.Slice.Pattern.Model (IsLongestMatchAt IsValidSearchFrom MatchesAt)

/-- One reading of a text from left to right in which a pattern is replaced. -/
inductive Replaces (pattern replacement : List Char) : List Char → List Char → Prop
  | nil : Replaces pattern replacement [] []
  | found {rest result : List Char} (replaces : Replaces pattern replacement rest result) :
      Replaces pattern replacement (pattern ++ rest) (replacement ++ result)
  | copied {c : Char} {rest result : List Char} (absent : ¬pattern <+: c :: rest)
      (replaces : Replaces pattern replacement rest result) :
      Replaces pattern replacement (c :: rest) (c :: result)

variable {pattern replacement : String} {slice : String.Slice} {start stop : slice.Pos}

/-- The characters of a slice from a position on. -/
def remaining (start : slice.Pos) : List Char :=
  (slice.sliceFrom start).copy.toList

theorem remaining_startPos (slice : String.Slice) :
    remaining slice.startPos = slice.copy.toList := by
  rw [remaining, slice.splits_startPos.copy_sliceFrom_eq]

theorem remaining_endPos (slice : String.Slice) : remaining slice.endPos = [] := by
  rw [remaining, slice.splits_endPos.copy_sliceFrom_eq, String.toList_empty]

theorem remaining_eq_cons (inside : start ≠ slice.endPos) :
    remaining start = start.get inside :: remaining (start.next inside) := by
  rw [remaining, (start.splits_next_right inside).copy_sliceFrom_eq, String.toList_append,
    String.toList_singleton, List.singleton_append, remaining]

/-- Where the pattern is found it is in front of what remains. -/
theorem remaining_of_found (found : IsLongestMatchAt pattern start stop) :
    remaining start = pattern.toList ++ remaining stop := by
  obtain ⟨front, back, starts, stops⟩ :=
    String.Slice.Pattern.Model.ForwardStringSearcher.isLongestMatchAt_iff_splits.mp found
  rw [remaining, remaining, starts.copy_sliceFrom_eq, stops.copy_sliceFrom_eq, String.toList_append]

/-- What starts with the pattern is a place at which it is found. -/
theorem matchesAt_of_starts (starts : pattern.toList <+: remaining start) :
    MatchesAt pattern start := by
  obtain ⟨rest, split⟩ := starts
  have back : (slice.sliceFrom start).copy = pattern ++ String.ofList rest :=
    String.toList_injective (by simpa [remaining] using split.symm)
  have splits := start.splits
  rw [back] at splits
  have whole : slice.copy = (slice.sliceTo start).copy ++ pattern ++ String.ofList rest := by
    rw [splits.eq_append, String.append_assoc]
  exact ⟨_, String.Slice.Pattern.Model.ForwardStringSearcher.isLongestMatchAt_iff_splits.mpr
    ⟨_, _, splits, Pos.splits_ofEqAppend whole⟩⟩

/-- The characters up to a position are copied if the pattern is found nowhere in between. -/
theorem Replaces.copied_until {result : List Char}
    (replaces : Replaces pattern.toList replacement.toList (remaining stop) result)
    (upTo : start ≤ stop) (absent : ∀ pos, start ≤ pos → pos < stop → ¬MatchesAt pattern pos) :
    Replaces pattern.toList replacement.toList (remaining start)
      ((slice.slice start stop upTo).copy.toList ++ result) := by
  induction start using Pos.next_induction with
  | next start inside induction =>
      rcases eq_or_ne start stop with rfl | apart
      · rwa [String.Slice.copy_slice_self, String.toList_empty, List.nil_append]
      · have before : start < stop := Std.lt_of_le_of_ne upTo apart
        have after := induction (Pos.next_le_iff_lt.mpr before)
          fun pos behind => absent pos (Std.le_trans (Std.le_of_lt Pos.lt_next) behind)
        rw [remaining_eq_cons inside, String.Slice.copy_slice_eq_append_of_lt before,
          String.toList_append, String.toList_singleton]
        refine .copied (fun starts => absent start (Std.le_refl start) before ?_) after
        exact matchesAt_of_starts (remaining_eq_cons inside ▸ starts)
  | endPos =>
      obtain rfl := (Pos.endPos_le stop).mp upTo
      rwa [String.Slice.copy_slice_self, String.toList_empty, List.nil_append]

/-- What a step of a search adds to the text that is made. -/
def searched (replacement : String) (sofar : String) : SearchStep slice → String
  | .matched _ _ => sofar ++ replacement
  | .rejected start stop => sofar ++ (slice.slice! start stop).copy

/-- A search that goes on from a position replaces the pattern in what remains. -/
theorem replaces_of_search (replacement : String) {steps : List (SearchStep slice)}
    (search : IsValidSearchFrom pattern start steps) (sofar : String) :
    ∃ result, steps.foldl (searched replacement) sofar = sofar ++ result ∧
      Replaces pattern.toList replacement.toList (remaining start) result.toList := by
  induction search generalizing sofar with
  | endPos =>
      exact ⟨"", by simp, by simpa [remaining_endPos] using .nil⟩
  | matched found _ induction =>
      obtain ⟨result, same, replaces⟩ := induction (sofar ++ replacement)
      refine ⟨replacement ++ result,
        by rw [List.foldl_cons, searched, same, String.append_assoc], ?_⟩
      rw [remaining_of_found found, String.toList_append]
      exact .found replaces
  | @mismatched _ start stop before absent _ induction =>
      obtain ⟨result, same, replaces⟩ := induction (sofar ++ (slice.slice! start stop).copy)
      refine ⟨(slice.slice! start stop).copy ++ result,
        by rw [List.foldl_cons, searched, same, String.append_assoc], ?_⟩
      rw [String.toList_append, ← String.Slice.slice_eq_slice!]
      exact replaces.copied_until (Std.le_of_lt before) absent

/-- Replacing is a fold over the steps of the search for the pattern. -/
theorem replace_eq_foldl (pattern replacement text : String) :
    text.replace pattern replacement = List.foldl (searched replacement) ""
      (ToForwardSearcher.toSearcher pattern text.toSlice).toList := by
  rw [Std.Iter.foldl_toList, String.replace, String.Slice.replace]
  congr 1
  funext sofar step
  cases step <;> simp [searched, String.ToSlice.toSlice]

/-- Replacing a pattern is one reading of the text from left to right. -/
theorem replaces_replace (nonempty : pattern ≠ "") (replacement text : String) :
    Replaces pattern.toList replacement.toList text.toList
      (text.replace pattern replacement).toList := by
  have lawful :=
    String.Slice.Pattern.Model.ForwardStringSearcher.lawfulToForwardSearcherModel nonempty
  obtain ⟨result, same, replaces⟩ :=
    replaces_of_search replacement (lawful.isValidSearchFrom_toList text.toSlice) ""
  rw [remaining_startPos, String.copy_toSlice] at replaces
  rwa [replace_eq_foldl, same, String.empty_append]

end Gamebook.Text
