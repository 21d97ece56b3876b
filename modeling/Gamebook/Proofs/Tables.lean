import Gamebook.Table
import Mathlib.Data.List.Nodup

/-!
# Tables and what they bind

Tables that bind the same keys to the same values are equal.  What a table binds after it has been
changed is told by what it bound before.
-/

namespace Gamebook.Table

variable {α β : Type} {key : String} {value : α}

/-- Tables that bind the same keys to the same values are equal. -/
theorem eq_of_get? {left right : Table α}
    (same : ∀ key value, left.get? key = some value ↔ right.get? key = some value) :
    left = right := by
  have nodup (table : Table α) : table.entries.Nodup :=
    List.Nodup.of_map Prod.fst table.keys_nodup
  have perm : left.entries.Perm right.entries := by
    rw [List.perm_ext_iff_of_nodup (nodup left) (nodup right)]
    rintro ⟨key, value⟩
    rw [← get?_eq_some_iff, ← get?_eq_some_iff, same]
  refine Table.ext (perm.eq_of_pairwise (fun first second _ _ before after => ?_) left.increasing
    right.increasing)
  exact absurd (String.lt_trans before after) (String.lt_irrefl _)

/-- Entries with distinct keys that are bound replace those of a table. -/
theorem get?_insertAll {entries : List (String × α)}
    (increasing : entries.Pairwise fun first second => first.1 < second.1) (table : Table α) :
    (table.insertAll entries).get? key =
      ((entries.find? fun entry => entry.1 = key).map Prod.snd).or (table.get? key) := by
  induction entries generalizing table with
  | nil => rfl
  | cons entry rest induction =>
      obtain ⟨below, sorted⟩ := List.pairwise_cons.mp increasing
      rw [insertAll, List.foldl_cons, ← insertAll, induction sorted, get?_insert]
      by_cases same : entry.1 = key
      · have absent : (rest.find? fun other => other.1 = key) = none := by
          rw [List.find?_eq_none]
          intro other member found
          have before := below other member
          rw [same, of_decide_eq_true found] at before
          exact String.lt_irrefl key before
        simp [same, absent]
      · simp [same]

@[simp]
theorem get?_map (f : α → β) (table : Table α) (key : String) :
    (table.map f).get? key = (table.get? key).map f := by
  rw [get?, get?, map, List.find?_map, Option.map_map, Option.map_map]
  rfl

/-- A table of pairs whose values have been changed has the changed values. -/
theorem get?_ofList_map (f : String → α → β) (pairs : List (String × α)) (key : String) :
    (ofList (pairs.map fun pair => (pair.1, f pair.1 pair.2))).get? key =
      ((ofList pairs).get? key).map (f key) := by
  have changed (pairs : List (String × α)) (table : Table α) (other : Table β)
      (same : ∀ key, other.get? key = (table.get? key).map (f key)) :
      (other.insertAll (pairs.map fun pair => (pair.1, f pair.1 pair.2))).get? key =
        ((table.insertAll pairs).get? key).map (f key) := by
    induction pairs generalizing table other with
    | nil => exact same key
    | cons pair pairs induction =>
        refine induction (table.insert pair.1 pair.2) (other.insert pair.1 (f pair.1 pair.2)) ?_
        intro name
        rw [get?_insert, get?_insert]
        split
        · rename_i here
          rw [here]
          rfl
        · exact same name
  exact changed pairs empty empty fun _ => rfl

end Gamebook.Table
