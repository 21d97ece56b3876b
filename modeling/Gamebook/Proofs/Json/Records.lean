import Gamebook.Json.Record
import Gamebook.Proofs.Json.RoundTrip

/-!
# Decoding lists, tables and fields

What is encoded item by item is decoded item by item.  Conversely, whatever is decoded from the
items of an array, the members of an object or the fields of a record stands for a part of that
value, so its numbers are numbers of that value.
-/

namespace Gamebook.Table

variable {α : Type}

theorem insertEntry_last {key : String} {value : α} {list : List (String × α)}
    (below : ∀ entry ∈ list, entry.1 < key) :
    insertEntry key value list = list ++ [(key, value)] := by
  induction list with
  | nil => rfl
  | cons head rest induction =>
      have before := below head (List.mem_cons_self ..)
      rw [insertEntry, if_neg (String.lt_asymm before), if_pos before,
        induction fun entry member => below entry (List.mem_cons_of_mem _ member),
        List.cons_append]

theorem entries_insertAll {entries : List (String × α)} {table : Table α}
    (increasing : (table.entries ++ entries).Pairwise fun first second => first.1 < second.1) :
    (table.insertAll entries).entries = table.entries ++ entries := by
  induction entries generalizing table with
  | nil => rw [List.append_nil]; rfl
  | cons entry entries induction =>
      have inserted : (table.insert entry.1 entry.2).entries = table.entries ++ [entry] :=
        insertEntry_last fun earlier member =>
          (List.pairwise_append.mp increasing).2.2 earlier member entry (List.mem_cons_self ..)
      rw [insertAll, List.foldl_cons, ← insertAll, induction, inserted, List.append_assoc,
        List.singleton_append]
      rwa [inserted, List.append_assoc, List.singleton_append]

/-- The table of the entries of a table is the table. -/
theorem ofList_entries (table : Table α) : ofList table.entries = table :=
  ext (entries_insertAll table.increasing)

theorem mem_insertAll {entries : List (String × α)} {table : Table α} {entry : String × α}
    (member : entry ∈ (table.insertAll entries).entries) :
    entry ∈ table.entries ∨ entry ∈ entries := by
  induction entries generalizing table with
  | nil => exact Or.inl member
  | cons first entries induction =>
      rcases induction member with inserted | later
      · rcases mem_insertEntry inserted with rfl | earlier
        · exact Or.inr (List.mem_cons_self ..)
        · exact Or.inl earlier
      · exact Or.inr (List.mem_cons_of_mem _ later)

theorem mem_ofList {entries : List (String × α)} {entry : String × α}
    (member : entry ∈ (ofList entries).entries) : entry ∈ entries :=
  (mem_insertAll member).resolve_left (List.not_mem_nil)

end Gamebook.Table

namespace Gamebook.Json

variable {α β : Type}

/-! ## Encoded lists and tables -/

theorem mapM_encode {encode : α → β} {decode : β → Option α} {recode : α → α} {values : List α}
    (decodes : ∀ value, decode (encode value) = some (recode value)) :
    (values.map encode).mapM decode = some (values.map recode) := by
  induction values with
  | nil => rfl
  | cons value values induction =>
      rw [List.map_cons, List.mapM_cons, decodes, induction]
      rfl

theorem asList?_map {encode : α → Json} {decode : Json → Option α} {recode : α → α}
    (decodes : ∀ value, decode (encode value) = some (recode value)) (values : List α) :
    asList? decode (array (values.map encode)) = some (values.map recode) :=
  mapM_encode decodes

theorem asList?_map_id {encode : α → Json} {decode : Json → Option α}
    (decodes : ∀ value, decode (encode value) = some value) (values : List α) :
    asList? decode (array (values.map encode)) = some values :=
  (asList?_map decodes values).trans (congrArg some (List.map_id' values))

theorem asTable?_ofTable {encode : α → Json} {decode : Json → Option α}
    (decodes : ∀ value, decode (encode value) = some value) (table : Table α) :
    asTable? decode (ofTable encode table) = some table := by
  have decodes_entry (entry : String × α) :
      ((decode (encode entry.2)).map fun value => (entry.1, value)) = some (id entry) := by
    rw [decodes, Option.map_some, id]
  simp only [ofTable, asTable?]
  rw [mapM_encode decodes_entry, List.map_id, Option.map_some, Table.ofList_entries]

/-! ## Numbers of lists and tables -/

theorem mem_itemNumbers {number : Number} {items : List Json} :
    number ∈ itemNumbers items ↔ ∃ item ∈ items, number ∈ item.numbers := by
  induction items with
  | nil => simp [itemNumbers]
  | cons item rest induction => simp [itemNumbers, induction]

theorem mem_memberNumbers {number : Number} {members : List (String × Json)} :
    number ∈ memberNumbers members ↔ ∃ member ∈ members, number ∈ member.2.numbers := by
  induction members with
  | nil => simp [memberNumbers]
  | cons member rest induction => simp [memberNumbers, induction]

theorem mem_numbers_array_map {encode : α → Json} {values : List α} {number : Number} :
    number ∈ (array (values.map encode)).numbers ↔
      ∃ value ∈ values, number ∈ (encode value).numbers := by
  rw [numbers, mem_itemNumbers]
  simp

theorem mem_numbers_ofTable {encode : α → Json} {table : Table α} {number : Number} :
    number ∈ (ofTable encode table).numbers ↔
      ∃ entry ∈ table.entries, number ∈ (encode entry.2).numbers := by
  rw [ofTable, numbers, mem_memberNumbers]
  simp

theorem exists_of_mapM {decode : α → Option β} {items : List α} {values : List β}
    (decoded : items.mapM decode = some values) {value : β} (member : value ∈ values) :
    ∃ item ∈ items, decode item = some value := by
  induction items generalizing values with
  | nil =>
      cases decoded
      cases member
  | cons item items induction =>
      rw [List.mapM_cons] at decoded
      obtain ⟨first, decoded_first, decoded⟩ := Option.bind_eq_some_iff.mp decoded
      obtain ⟨others, decoded_others, same⟩ := Option.bind_eq_some_iff.mp decoded
      cases same
      rcases List.mem_cons.mp member with rfl | later
      · exact ⟨item, List.mem_cons_self .., decoded_first⟩
      · obtain ⟨found, found_mem, found_eq⟩ := induction decoded_others later
        exact ⟨found, List.mem_cons_of_mem _ found_mem, found_eq⟩

/-! ## Depths -/

theorem itemsDepth_le {items : List Json} {limit : Nat} :
    itemsDepth items ≤ limit ↔ ∀ item ∈ items, item.depth ≤ limit := by
  induction items with
  | nil => simp [itemsDepth]
  | cons item rest induction => simp [itemsDepth, induction]

theorem membersDepth_le {members : List (String × Json)} {limit : Nat} :
    membersDepth members ≤ limit ↔ ∀ member ∈ members, member.2.depth ≤ limit := by
  induction members with
  | nil => simp [membersDepth]
  | cons member rest induction => simp [membersDepth, induction]

theorem depth_array_map_le {encode : α → Json} {limit : Nat}
    (shallow : ∀ value, (encode value).depth ≤ limit) (values : List α) :
    (array (values.map encode)).depth ≤ limit + 1 := by
  rw [depth]
  refine Nat.succ_le_succ (itemsDepth_le.mpr fun item member => ?_)
  obtain ⟨value, -, rfl⟩ := List.mem_map.mp member
  exact shallow value

theorem depth_ofTable_le {encode : α → Json} {limit : Nat}
    (shallow : ∀ value, (encode value).depth ≤ limit) (table : Table α) :
    (ofTable encode table).depth ≤ limit + 1 := by
  rw [ofTable, depth]
  refine Nat.succ_le_succ (membersDepth_le.mpr fun member inside => ?_)
  obtain ⟨entry, -, rfl⟩ := List.mem_map.mp inside
  exact shallow entry.2

/-! ## Numbers of parts -/

variable {P : Number → Prop} {json : Json}

/-- What is decoded from a list comes from an item of it. -/
theorem exists_of_asList? {decode : Json → Option α} {values : List α}
    (decoded : asList? decode json = some values) (all : ∀ number ∈ json.numbers, P number)
    {value : α} (member : value ∈ values) :
    ∃ item, decode item = some value ∧ ∀ number ∈ item.numbers, P number := by
  rw [asList?.eq_def] at decoded
  split at decoded
  · rename_i items
    obtain ⟨item, item_mem, item_eq⟩ := exists_of_mapM decoded member
    rw [numbers] at all
    exact ⟨item, item_eq, fun number inside =>
      all number (mem_itemNumbers.mpr ⟨item, item_mem, inside⟩)⟩
  · cases decoded

/-- What is decoded from a table comes from a member of it. -/
theorem exists_of_asTable? {decode : Json → Option α} {table : Table α}
    (decoded : asTable? decode json = some table) (all : ∀ number ∈ json.numbers, P number)
    {entry : String × α} (member : entry ∈ table.entries) :
    ∃ item, decode item = some entry.2 ∧ ∀ number ∈ item.numbers, P number := by
  rw [asTable?.eq_def] at decoded
  split at decoded
  · rename_i members
    obtain ⟨entries, decoded_entries, rfl⟩ := Option.map_eq_some_iff.mp decoded
    obtain ⟨found, found_mem, found_eq⟩ := exists_of_mapM decoded_entries (Table.mem_ofList member)
    obtain ⟨value, value_eq, rfl⟩ := Option.map_eq_some_iff.mp found_eq
    rw [numbers] at all
    exact ⟨found.2, value_eq, fun number inside =>
      all number (mem_memberNumbers.mpr ⟨found, found_mem, inside⟩)⟩
  · cases decoded

/-- A field is a member of the object. -/
theorem numbers_of_field? {members : List (String × Json)} {key : String} {value : Json}
    (found : field? members key = some (some value))
    (all : ∀ number ∈ memberNumbers members, P number) : ∀ number ∈ value.numbers, P number := by
  rw [field?] at found
  split at found
  · cases found
  · rename_i here
    cases found
    have inside : ((_, value) : String × Json) ∈ members :=
      List.mem_of_mem_filter (here ▸ List.mem_cons_self ..)
    exact fun number member => all number (mem_memberNumbers.mpr ⟨_, inside, member⟩)
  · cases found

/-- A field of a record is a part of the value. -/
theorem numbers_of_fields? {keys : List String} {values : List (Option Json)}
    (found : fields? keys json = some values) (all : ∀ number ∈ json.numbers, P number)
    {value : Json} (member : some value ∈ values) : ∀ number ∈ value.numbers, P number := by
  rw [fields?.eq_def] at found
  split at found
  · obtain ⟨key, -, found⟩ := exists_of_mapM found member
    rw [numbers] at all
    exact numbers_of_field? found all
  · rename_i items
    split at found
    · cases found
      rw [numbers] at all
      have inside : value ∈ items := by simpa using member
      exact fun number here => all number (mem_itemNumbers.mpr ⟨value, inside, here⟩)
    · cases found
  · cases found

end Gamebook.Json
