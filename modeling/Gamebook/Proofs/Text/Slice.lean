import Gamebook.Text.Span
import Mathlib.Data.String.Basic

/-!
# Slices of a text

A span from the start of one character to the end of another one selects the characters between.
-/

namespace Gamebook.Text

@[simp]
theorem byteLength_append (front back : List Char) :
    byteLength (front ++ back) = byteLength front + byteLength back := by
  induction front with
  | nil => simp [byteLength]
  | cons c rest induction => simp only [List.cons_append, byteLength, induction, Nat.add_assoc]

theorem byteLength_pos {characters : List Char} (nonempty : characters ≠ []) :
    0 < byteLength characters := by
  cases characters with
  | nil => exact absurd rfl nonempty
  | cons c rest => exact Nat.add_pos_left c.utf8Size_pos _

theorem byteLength_toList (text : String) : byteLength text.toList = text.utf8ByteSize := by
  have same (characters : List Char) : byteLength characters = String.utf8Len characters := by
    induction characters with
    | nil => rfl
    | cons c rest induction => rw [byteLength, induction, String.utf8Len_cons, Nat.add_comm]
  rw [same, String.utf8Len_toList]

theorem splitBytes?_append (front back : List Char) :
    splitBytes? (byteLength front) (front ++ back) = some (front, back) := by
  induction front with
  | nil => rw [byteLength, List.nil_append, splitBytes?]
  | cons c rest induction =>
      obtain ⟨count, whole⟩ : ∃ count, byteLength (c :: rest) = count + 1 :=
        Nat.exists_eq_add_one.mpr (byteLength_pos (List.cons_ne_nil c rest))
      have fits : c.utf8Size ≤ count + 1 := by
        rw [← whole, byteLength]
        exact Nat.le_add_right _ _
      have others : count + 1 - c.utf8Size = byteLength rest := by
        rw [← whole, byteLength, Nat.add_sub_cancel_left]
      rw [whole, List.cons_append, splitBytes?, if_pos fits, others, induction, Option.map_some]

/-- A span selects characters of a text: it goes from the byte at which they start to the one behind
them, and they are what it slices. -/
structure Span.Selects (span : Span) (text : String) (middle : List Char) : Prop where
  stands : ∃ front back, text.toList = front ++ (middle ++ back) ∧
    span = ⟨byteLength front, byteLength front + byteLength middle⟩
  slice : span.slice text = String.ofList middle

theorem selects_of_split {text : String} {front middle back : List Char}
    (split : text.toList = front ++ (middle ++ back)) :
    Span.Selects ⟨byteLength front, byteLength front + byteLength middle⟩ text middle := by
  have forwards : ¬byteLength front + byteLength middle < byteLength front := by omega
  refine ⟨⟨front, back, split, rfl⟩, ?_⟩
  simp [Span.slice, split, splitBytes?_append, forwards]

end Gamebook.Text
