import Gamebook.Trial.Catalog
import Gamebook.Proofs.Lists

/-!
# Folders and requests

The category of the files in a folder is the path that leads to it.  Names have no slashes, so no
two folders have the same category, and a category lies within a request just if the folder is the
one that is requested or lies below it.  The root is requested without a name and then stands for
itself alone.
-/

namespace Gamebook.Trial

/-- A name that a folder may give to one of its entries. -/
def IsName (name : String) : Prop :=
  name ≠ "" ∧ '/' ∉ name.toList

instance (name : String) : Decidable (IsName name) :=
  inferInstanceAs (Decidable (name ≠ "" ∧ '/' ∉ name.toList))

/-- The category of the files in a folder to which some names lead. -/
def categoryOf (folders : List String) : String :=
  "/".intercalate folders

/-! ## Categories -/

section Category

variable {name : String} {folders others : List String}

theorem IsName.toList_ne_nil (is_name : IsName name) : name.toList ≠ [] :=
  fun empty => is_name.1 (String.toList_inj.mp empty)

@[simp]
theorem categoryOf_singleton (name : String) : categoryOf [name] = name := rfl

theorem toList_categoryOf_cons (name : String) (nonempty : folders ≠ []) :
    (categoryOf (name :: folders)).toList = name.toList ++ '/' :: (categoryOf folders).toList := by
  obtain ⟨next, folders, rfl⟩ := List.exists_cons_of_ne_nil nonempty
  rw [categoryOf, String.toList_intercalate, List.map_cons, List.map_cons,
    List.intercalate_cons_cons, ← List.map_cons, ← String.toList_intercalate, ← categoryOf]
  simp

theorem toList_categoryOf_append (nonempty : folders ≠ []) (other : others ≠ []) :
    (categoryOf (folders ++ others)).toList =
      (categoryOf folders).toList ++ '/' :: (categoryOf others).toList := by
  induction folders with
  | nil => exact absurd rfl nonempty
  | cons name folders induction =>
      by_cases last : folders = []
      · rw [last, List.singleton_append, toList_categoryOf_cons name other, categoryOf_singleton]
      · have more : folders ++ others ≠ [] := List.append_ne_nil_of_left_ne_nil last others
        rw [List.cons_append, toList_categoryOf_cons name more, induction last,
          toList_categoryOf_cons name last, List.append_assoc, List.cons_append]

theorem toList_categoryOf_ne_nil (named : ∀ name ∈ folders, IsName name) (nonempty : folders ≠ []) :
    (categoryOf folders).toList ≠ [] := by
  obtain ⟨name, rest, rfl⟩ := List.exists_cons_of_ne_nil nonempty
  have first := (named name List.mem_cons_self).toList_ne_nil
  by_cases last : rest = []
  · rwa [last, categoryOf_singleton]
  · rw [toList_categoryOf_cons name last]
    exact List.append_ne_nil_of_left_ne_nil first _

/-- A category neither starts nor ends with a slash. -/
theorem categoryOf_unslashed (named : ∀ name ∈ folders, IsName name) :
    (categoryOf folders).toList.head? ≠ some '/' ∧
      (categoryOf folders).toList.getLast? ≠ some '/' := by
  induction folders with
  | nil => exact ⟨nofun, nofun⟩
  | cons name folders induction =>
      obtain ⟨is_name, others⟩ := List.forall_mem_cons.mp named
      have inside (member : '/' ∈ name.toList) : False := is_name.2 member
      by_cases last : folders = []
      · rw [last, categoryOf_singleton]
        exact ⟨fun first => inside (List.mem_of_mem_head? first),
          fun first => inside (List.mem_of_mem_getLast? first)⟩
      · rw [toList_categoryOf_cons name last]
        constructor
        · rw [List.head?_append_of_ne_nil _ is_name.toList_ne_nil]
          exact fun first => inside (List.mem_of_mem_head? first)
        · rw [List.getLast?_append_of_ne_nil _ (List.cons_ne_nil _ _),
            List.getLast?_cons_of_ne_nil (toList_categoryOf_ne_nil others last)]
          exact (induction others).2

/-- What stands before a slash of a category is the category of a folder above. -/
theorem exists_above {front back : List Char} (named : ∀ name ∈ folders, IsName name)
    (split : (categoryOf folders).toList = front ++ '/' :: back) :
    ∃ above, above ≠ [] ∧ above <+: folders ∧ (categoryOf above).toList = front := by
  induction folders generalizing front with
  | nil => exact absurd split.symm (List.append_ne_nil_of_right_ne_nil _ (List.cons_ne_nil _ _))
  | cons name folders induction =>
      obtain ⟨is_name, others⟩ := List.forall_mem_cons.mp named
      by_cases last : folders = []
      · rw [last, categoryOf_singleton] at split
        exact absurd (split ▸ by simp) is_name.2
      · rw [toList_categoryOf_cons name last] at split
        rcases append_eq_append_cons split with ⟨rest, same, -⟩ | ⟨rest, same, rfl⟩
        · exact absurd (same ▸ by simp) is_name.2
        · cases rest with
          | nil =>
              refine ⟨[name], List.cons_ne_nil _ _, List.prefix_append [name] folders, ?_⟩
              rw [categoryOf_singleton, List.append_nil]
          | cons slash rest =>
              obtain ⟨rfl, behind⟩ := List.cons.inj same
              obtain ⟨above, nonempty, first, rfl⟩ := induction others behind
              have longer := (List.prefix_cons_inj name).mpr first
              refine ⟨name :: above, List.cons_ne_nil _ _, longer, ?_⟩
              rw [toList_categoryOf_cons name nonempty]

theorem categoryOf_injective (named : ∀ name ∈ folders, IsName name)
    (others_named : ∀ name ∈ others, IsName name) (same : categoryOf folders = categoryOf others) :
    folders = others := by
  have empty_iff {folders : List String} (named : ∀ name ∈ folders, IsName name) :
      (categoryOf folders).toList = [] ↔ folders = [] :=
    ⟨fun empty => by_contra fun nonempty => toList_categoryOf_ne_nil named nonempty empty,
      fun empty => empty ▸ rfl⟩
  have splits {folders : List String} (named : ∀ name ∈ folders, IsName name)
      (nonempty : folders ≠ []) :
      (categoryOf folders).toList.splitOn '/' = folders.map String.toList := by
    rw [categoryOf, String.toList_intercalate]
    refine List.splitOn_intercalate '/' ?_ (by simpa using nonempty)
    exact List.forall_mem_map.mpr fun name member => (named name member).2
  have toList_same := congrArg String.toList same
  by_cases nonempty : folders = []
  · rw [nonempty, eq_comm, ← empty_iff others_named, ← toList_same, empty_iff named, nonempty]
  · have other : others ≠ [] := by
      rwa [Ne, ← empty_iff others_named, ← toList_same, empty_iff named]
    refine List.map_injective_iff.mpr (fun _ _ => String.toList_inj.mp) ?_
    rw [← splits named nonempty, ← splits others_named other, toList_same]

end Category

/-! ## Requests -/

/-- A request names a folder, between any slashes. -/
def Names (request : String) (folders : List String) : Prop :=
  ∃ before behind : Nat, request.toList =
    List.replicate before '/' ++ (categoryOf folders).toList ++ List.replicate behind '/'

/-- A folder is requested if there are no requests, or one of them names it or a folder above it.
The root counts as above no other folder. -/
def Requested (requests folders : List String) : Prop :=
  requests = [] ∨ ∃ request ∈ requests, ∃ above,
    Names request above ∧ above <+: folders ∧ (above = [] → folders = [])

section Request

variable {name : List Char} {request : String} {folders : List String} {before behind : Nat}

theorem dropWhile_slashes (first : name.head? ≠ some '/') :
    (List.replicate before '/' ++ name).dropWhile (· = '/') = name := by
  have kept : name.dropWhile (· = '/') = name := by
    cases name with
    | nil => rfl
    | cons c name => exact List.dropWhile_cons_of_neg (by simpa using first)
  simp [kept]

theorem exists_slashes (text : List Char) :
    ∃ before, text = List.replicate before '/' ++ text.dropWhile (· = '/') := by
  refine ⟨(text.takeWhile (· = '/')).length, ?_⟩
  rw [← List.eq_replicate_of_mem (a := '/') fun c member => ?_, List.takeWhile_append_dropWhile]
  simpa using List.all_eq_true.mp List.all_takeWhile c member

/-- A request is the text that it comes to between slashes. -/
theorem exists_requested (request : String) : ∃ before behind, request.toList =
    List.replicate before '/' ++ (Catalog.requested request).toList ++
      List.replicate behind '/' := by
  let rest := request.toList.dropWhile (· = '/')
  obtain ⟨before, whole⟩ := exists_slashes request.toList
  obtain ⟨behind, reversed⟩ := exists_slashes rest.reverse
  refine ⟨before, behind, ?_⟩
  have split := congrArg List.reverse reversed
  rw [List.reverse_reverse, List.reverse_append, List.reverse_replicate] at split
  rw [Catalog.requested, String.toList_ofList, List.append_assoc]
  rw [← split]
  exact whole

/-- Only the slashes at the ends of a request are left out. -/
theorem toList_requested
    (split : request.toList = List.replicate before '/' ++ name ++ List.replicate behind '/')
    (first : name.head? ≠ some '/') (last : name.getLast? ≠ some '/') :
    (Catalog.requested request).toList = name := by
  rw [Catalog.requested, String.toList_ofList, split, List.append_assoc]
  by_cases empty : name = []
  · subst empty
    simp
  · have first_behind : (name ++ List.replicate behind '/').head? ≠ some '/' := by
      rwa [List.head?_append_of_ne_nil _ empty]
    rw [← List.head?_reverse] at last
    rw [dropWhile_slashes first_behind, List.reverse_append, List.reverse_replicate,
      dropWhile_slashes last, List.reverse_reverse]

/-- A category lies within a request just if the folder is the requested one or lies below it. -/
theorem isWithin_iff (named : ∀ name ∈ folders, IsName name) :
    Catalog.isWithin (categoryOf folders) (Catalog.requested request) = true ↔
      ∃ above, Names request above ∧ above <+: folders ∧ (above = [] → folders = []) := by
  have names_of {above : List String}
      (same : (categoryOf above).toList = (Catalog.requested request).toList) :
      Names request above := by
    obtain ⟨before, behind, whole⟩ := exists_requested request
    exact ⟨before, behind, by rw [same, ← whole]⟩
  rw [Catalog.isWithin, Bool.or_eq_true, Bool.and_eq_true, decide_eq_true_eq]
  constructor
  · rintro (same | ⟨-, below⟩)
    · exact ⟨folders, names_of (congrArg String.toList same), List.prefix_rfl, id⟩
    · obtain ⟨back, split⟩ := List.isPrefixOf_iff_prefix.mp below
      rw [String.toList_append, List.append_assoc] at split
      obtain ⟨above, nonempty, first, same⟩ := exists_above named split.symm
      exact ⟨above, names_of same, first, fun empty => absurd empty nonempty⟩
  · rintro ⟨above, ⟨before, behind, whole⟩, first, root⟩
    have above_named (name : String) (member : name ∈ above) : IsName name :=
      named name (first.subset member)
    obtain ⟨starts, ends⟩ := categoryOf_unslashed above_named
    have same : Catalog.requested request = categoryOf above :=
      String.toList_inj.mp (toList_requested whole starts ends)
    rw [same]
    obtain ⟨below, rfl⟩ := first
    by_cases here : below = []
    · exact Or.inl (by rw [here, List.append_nil])
    · have nonempty : above ≠ [] := fun empty => here (by simpa [empty] using root empty)
      refine Or.inr ⟨?_, List.isPrefixOf_iff_prefix.mpr ⟨(categoryOf below).toList, ?_⟩⟩
      · simpa using fun empty => toList_categoryOf_ne_nil above_named nonempty (by simp [empty])
      · rw [toList_categoryOf_append nonempty here, String.toList_append, List.append_assoc]
        rfl

theorem requested_iff {requests : List String} (named : ∀ name ∈ folders, IsName name) :
    (requests.isEmpty || requests.any fun request =>
      Catalog.isWithin (categoryOf folders) (Catalog.requested request)) = true ↔
        Requested requests folders := by
  simp only [Bool.or_eq_true, List.isEmpty_iff, List.any_eq_true, isWithin_iff named, Requested]

end Request

end Gamebook.Trial
