/-!
# Tables keyed by text

A table holds at most one entry for each key and lists its entries in increasing key order, so two
tables with the same entries are equal.  Contexts, label maps and registries are tables.  The main
statement is `get?_insert`: an insertion is seen under its own key and nowhere else.
-/

namespace Gamebook

/-- A finite map from text to `α` whose entries stand in increasing key order. -/
structure Table (α : Type) where
  /-- The entries, smallest key first. -/
  entries : List (String × α)
  /-- Keys increase strictly along the entries. -/
  increasing : entries.Pairwise fun first second => first.1 < second.1

namespace Table

variable {α β : Type}

theorem ext {left right : Table α} (same : left.entries = right.entries) : left = right := by
  cases left
  cases right
  cases same
  rfl

instance [DecidableEq α] : DecidableEq (Table α) := fun left right =>
  if same : left.entries = right.entries then isTrue (ext same)
  else isFalse fun equal => same (congrArg entries equal)

/-- The table without entries. -/
def empty : Table α := ⟨[], .nil⟩

instance : Inhabited (Table α) := ⟨empty⟩

instance : EmptyCollection (Table α) := ⟨empty⟩

/-- Put an entry into its place, replacing the one that has its key. -/
def insertEntry (key : String) (value : α) : List (String × α) → List (String × α)
  | [] => [(key, value)]
  | entry :: rest =>
    if key < entry.1 then (key, value) :: entry :: rest
    else if entry.1 < key then entry :: insertEntry key value rest
    else (key, value) :: rest

theorem mem_insertEntry {key : String} {value : α} {list : List (String × α)}
    {entry : String × α} (member : entry ∈ insertEntry key value list) :
    entry = (key, value) ∨ entry ∈ list := by
  induction list with
  | nil => simpa [insertEntry] using member
  | cons head rest ih =>
      rw [insertEntry] at member
      split at member
      · simpa using member
      · split at member
        · rcases List.mem_cons.mp member with rfl | later
          · simp
          · rcases ih later with here | there
            · exact Or.inl here
            · simp [there]
        · rcases List.mem_cons.mp member with rfl | later
          · simp
          · simp [later]

theorem insertEntry_increasing (key : String) (value : α) {list : List (String × α)}
    (increasing : list.Pairwise fun first second => first.1 < second.1) :
    (insertEntry key value list).Pairwise fun first second => first.1 < second.1 := by
  induction list with
  | nil => simp [insertEntry]
  | cons head rest ih =>
      obtain ⟨below, sorted⟩ := List.pairwise_cons.mp increasing
      rw [insertEntry]
      split
      · rename_i before
        refine List.pairwise_cons.mpr ⟨fun entry member => ?_, increasing⟩
        rcases List.mem_cons.mp member with rfl | later
        · exact before
        · exact String.lt_trans before (below entry later)
      · rename_i notBefore
        split
        · rename_i after
          refine List.pairwise_cons.mpr ⟨fun entry member => ?_, ih sorted⟩
          rcases mem_insertEntry member with rfl | later
          · exact after
          · exact below entry later
        · rename_i notAfter
          have same : key = head.1 :=
            String.le_antisymm (String.not_lt.mp notAfter) (String.not_lt.mp notBefore)
          subst same
          exact List.pairwise_cons.mpr ⟨below, sorted⟩

/-- Bind `key` to `value`, replacing an earlier binding. -/
def insert (table : Table α) (key : String) (value : α) : Table α :=
  ⟨insertEntry key value table.entries, insertEntry_increasing key value table.increasing⟩

/-- The value bound to `key`. -/
def get? (table : Table α) (key : String) : Option α :=
  (table.entries.find? fun entry => entry.1 = key).map Prod.snd

/-- Whether `key` is bound. -/
def contains (table : Table α) (key : String) : Bool :=
  (table.get? key).isSome

/-- The keys in increasing order. -/
def keys (table : Table α) : List String :=
  table.entries.map Prod.fst

/-- The number of entries. -/
def size (table : Table α) : Nat :=
  table.entries.length

/-- Bind every pair of a list in turn; the last binding of a key stays. -/
def insertAll (table : Table α) (pairs : List (String × α)) : Table α :=
  pairs.foldl (fun current pair => current.insert pair.1 pair.2) table

/-- The table of a list of pairs; the last binding of a key stays. -/
def ofList (pairs : List (String × α)) : Table α :=
  (empty : Table α).insertAll pairs

/-- Apply a function to every value. -/
def map (f : α → β) (table : Table α) : Table β :=
  ⟨table.entries.map fun entry => (entry.1, f entry.2),
    List.pairwise_map.mpr table.increasing⟩

theorem find?_insertEntry (key other : String) (value : α) (list : List (String × α)) :
    ((insertEntry key value list).find? fun entry => entry.1 = other).map Prod.snd =
      if key = other then some value
      else (list.find? fun entry => entry.1 = other).map Prod.snd := by
  induction list with
  | nil =>
      by_cases same : key = other <;> simp [insertEntry, same]
  | cons head rest ih =>
      rw [insertEntry]
      split
      · by_cases same : key = other <;> simp [same]
      · split
        · rename_i after
          by_cases atHead : head.1 = other
          · have apart : key ≠ other := by
              intro same
              subst same
              subst atHead
              exact String.lt_irrefl _ after
            simp [atHead, apart]
          · simpa [List.find?_cons, atHead] using ih
        · rename_i notBefore notAfter
          have same : key = head.1 :=
            String.le_antisymm (String.not_lt.mp notAfter) (String.not_lt.mp notBefore)
          subst same
          by_cases found : head.1 = other <;> simp [found]

@[simp]
theorem get?_insert (table : Table α) (key other : String) (value : α) :
    (table.insert key value).get? other = if key = other then some value else table.get? other :=
  find?_insertEntry key other value table.entries

@[simp]
theorem get?_empty (key : String) : (empty : Table α).get? key = none := rfl

@[simp]
theorem contains_insert (table : Table α) (key other : String) (value : α) :
    (table.insert key value).contains other = (decide (key = other) || table.contains other) := by
  by_cases same : key = other <;> simp [contains, same]

theorem get?_eq_some_iff {table : Table α} {key : String} {value : α} :
    table.get? key = some value ↔ (key, value) ∈ table.entries := by
  obtain ⟨entries, increasing⟩ := table
  simp only [get?]
  induction entries with
  | nil => simp
  | cons head rest ih =>
      obtain ⟨below, sorted⟩ := List.pairwise_cons.mp increasing
      by_cases same : head.1 = key
      · subst same
        have absent : (head.1, value) ∉ rest := fun later =>
          String.lt_irrefl head.1 (below (head.1, value) later)
        simp [absent, Prod.ext_iff, eq_comm]
      · have other : (key, value) ≠ head := fun equal => same (congrArg Prod.fst equal).symm
        simpa [List.find?_cons, same, other] using ih sorted

theorem contains_iff_mem_keys {table : Table α} {key : String} :
    table.contains key = true ↔ key ∈ table.keys := by
  simp [contains, keys, Option.isSome_iff_exists, get?_eq_some_iff]

theorem keys_nodup (table : Table α) : table.keys.Nodup := by
  rw [keys, List.nodup_iff_pairwise_ne, List.pairwise_map]
  refine table.increasing.imp fun less same => ?_
  rw [same] at less
  exact String.lt_irrefl _ less

end Table

end Gamebook
