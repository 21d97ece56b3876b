import Gamebook.Proofs.Trial.Listing

/-!
# Catalogs of files

The catalog of some files binds the category of each trial to the names of its trials in order.  It
does not depend on the order of the files.  The requested trials stand in the order of their
categories and then of their names, each of them once.
-/

namespace Gamebook.Trial.Catalog

variable {files others : List (List String × String)} {requests names more : List String}
  {category name : String}

/-! ## Names in order -/

/-- Names in increasing order. -/
def inOrder (names : List String) : List String :=
  names.mergeSort fun first second => decide (first ≤ second)

theorem inOrder_perm (names : List String) : (inOrder names).Perm names :=
  List.mergeSort_perm names _

theorem inOrder_pairwise (names : List String) : (inOrder names).Pairwise (· ≤ ·) := by
  have sorted : (inOrder names).Pairwise fun first second => decide (first ≤ second) = true :=
    List.pairwise_mergeSort (by simpa using fun _ _ _ => String.le_trans)
      (by simpa using String.le_total) names
  simpa using sorted

/-- The order of names does not depend on the order in which they are given. -/
theorem inOrder_eq_of_perm (perm : names.Perm more) : inOrder names = inOrder more :=
  List.Perm.eq_of_pairwise (fun _ _ _ _ => String.le_antisymm) (inOrder_pairwise names)
    (inOrder_pairwise more) ((inOrder_perm names).trans (perm.trans (inOrder_perm more).symm))

theorem inOrder_increasing (distinct : names.Nodup) : (inOrder names).Pairwise (· < ·) := by
  have nodup := (inOrder_perm names).nodup_iff.mpr distinct
  refine (inOrder_pairwise names).imp₂ (fun first second before other => ?_) nodup
  exact String.not_le.mp fun after => other (String.le_antisymm before after)

/-! ## What a catalog binds -/

/-- Whether a file is a trial of a category. -/
def isTrialOf (category : String) (file : List String × String) : Bool :=
  isTrialName file.2 && decide (categoryOf file.1 = category)

/-- The names of the trials of a category among some files. -/
def trialNames (files : List (List String × String)) (category : String) : List String :=
  (files.filter (isTrialOf category)).map Prod.snd

theorem mem_trialNames_iff : name ∈ trialNames files category ↔
    ∃ folders, (folders, name) ∈ files ∧ categoryOf folders = category ∧
      isTrialName name = true := by
  simp [trialNames, isTrialOf, and_comm]

/-- Names that are added to a catalog stand before those of their category, the last one first. -/
theorem get?_addAll (files : List (List String × String)) (category : String)
    (catalog : Catalog) :
    ((files.filter fun file => isTrialName file.2).foldl
        (fun catalog file => catalog.add (categoryOf file.1) file.2) catalog).get? category =
      if trialNames files category = [] then catalog.get? category
      else some ((trialNames files category).reverse ++ (catalog.get? category).getD []) := by
  induction files generalizing catalog with
  | nil => rfl
  | cons file files induction =>
      by_cases trial : isTrialName file.2 = true
      · rw [List.filter_cons, if_pos trial, List.foldl_cons, induction, add, Table.get?_insert]
        by_cases here : categoryOf file.1 = category
        · have names : trialNames (file :: files) category =
              file.2 :: trialNames files category := by
            simp [trialNames, isTrialOf, trial, here]
          rw [names, if_neg (List.cons_ne_nil _ _), if_pos here, here]
          by_cases none : trialNames files category = []
          · simp [none]
          · simp [none]
        · have names : trialNames (file :: files) category = trialNames files category := by
            simp [trialNames, isTrialOf, here]
          rw [names, if_neg here]
      · have names : trialNames (file :: files) category = trialNames files category := by
          simp [trialNames, isTrialOf, trial]
        rw [List.filter_cons, if_neg trial, induction, names]

/-- A catalog binds the categories of the trials, each to the names of its trials in order. -/
theorem get?_ofFiles : (ofFiles files).get? category =
    if trialNames files category = [] then none
    else some (inOrder (trialNames files category)) := by
  have bound := get?_addAll files category Table.empty
  rw [Table.get?_empty, Option.getD_none, List.append_nil] at bound
  have binds : (ofFiles files).get? category = (((files.filter fun file => isTrialName file.2).foldl
      (fun catalog file => add catalog (categoryOf file.1) file.2) Table.empty).get? category).map
        inOrder := Table.get?_map ..
  rw [binds, bound]
  split
  · rfl
  · rw [Option.map_some, inOrder_eq_of_perm (List.reverse_perm _)]

/-- The order of the files does not matter. -/
theorem ofFiles_perm (perm : files.Perm others) : ofFiles files = ofFiles others := by
  refine Table.eq_of_get? fun category names => ?_
  have same : (trialNames files category).Perm (trialNames others category) :=
    (perm.filter _).map Prod.snd
  have none_iff : trialNames files category = [] ↔ trialNames others category = [] := by
    rw [← List.perm_nil, ← List.perm_nil, same.congr_left]
  rw [get?_ofFiles, get?_ofFiles, inOrder_eq_of_perm same]
  simp only [none_iff]

/-! ## Requested trials -/

/-- The trials of some categories, each with its category. -/
def trials (selected : List (String × List String)) : List (String × String) :=
  selected.flatMap fun entry => entry.2.map fun name => (entry.1, name)

theorem mem_select_iff : (category, names) ∈ (ofFiles files).select requests ↔
    (trialNames files category ≠ [] ∧ inOrder (trialNames files category) = names) ∧
      (requests.isEmpty || requests.any fun request => isWithin category (requested request)) =
        true := by
  rw [select, List.mem_filter, ← Table.get?_eq_some_iff, get?_ofFiles]
  simp

theorem mem_trials_iff : (category, name) ∈ trials ((ofFiles files).select requests) ↔
    name ∈ trialNames files category ∧
      (requests.isEmpty || requests.any fun request => isWithin category (requested request)) =
        true := by
  simp only [trials, List.mem_flatMap, List.mem_map, Prod.mk.injEq]
  constructor
  · rintro ⟨⟨category, names⟩, member, last, among, rfl, rfl⟩
    obtain ⟨⟨-, rfl⟩, chosen⟩ := mem_select_iff.mp member
    exact ⟨(inOrder_perm _).mem_iff.mp among, chosen⟩
  · rintro ⟨among, chosen⟩
    exact ⟨(category, _), mem_select_iff.mpr ⟨⟨List.ne_nil_of_mem among, rfl⟩, chosen⟩, name,
      (inOrder_perm _).mem_iff.mpr among, rfl, rfl⟩

/-- No category is selected without its trials. -/
theorem trials_eq_nil_iff : trials ((ofFiles files).select requests) = [] ↔
    (ofFiles files).select requests = [] := by
  constructor
  · intro none
    refine List.eq_nil_iff_forall_not_mem.mpr ?_
    rintro ⟨category, names⟩ member
    obtain ⟨⟨some, rfl⟩, chosen⟩ := mem_select_iff.mp member
    obtain ⟨name, among⟩ := List.exists_mem_of_ne_nil _ some
    exact List.not_mem_nil (none ▸ mem_trials_iff.mpr ⟨among, chosen⟩)
  · intro none
    rw [none, trials, List.flatMap_nil]

theorem nodup_trialNames
    (distinct : (files.map fun file => (categoryOf file.1, file.2)).Nodup) (category : String) :
    (trialNames files category).Nodup := by
  have fewer := distinct.sublist ((List.filter_sublist (p := isTrialOf category)).map _)
  have same : ((files.filter (isTrialOf category)).map fun file => (categoryOf file.1, file.2)) =
      (trialNames files category).map (Prod.mk category) := by
    rw [trialNames, List.map_map]
    refine List.map_congr_left fun file member => ?_
    have trial := List.of_mem_filter member
    rw [isTrialOf, Bool.and_eq_true, decide_eq_true_eq] at trial
    rw [trial.2, Function.comp_apply]
  rw [same] at fewer
  exact fewer.of_map

/-- Trials stand in the order of their categories and then of their names. -/
theorem trials_pairwise
    (distinct : (files.map fun file => (categoryOf file.1, file.2)).Nodup)
    (requests : List String) :
    (trials ((ofFiles files).select requests)).Pairwise fun first second =>
      first.1 < second.1 ∨ first.1 = second.1 ∧ first.2 < second.2 := by
  rw [trials, List.pairwise_flatMap]
  constructor
  · rintro ⟨category, names⟩ member
    obtain ⟨⟨-, rfl⟩, -⟩ := mem_select_iff.mp member
    have increasing := inOrder_increasing (nodup_trialNames distinct category)
    exact List.pairwise_map.mpr (increasing.imp fun before => Or.inr ⟨rfl, before⟩)
  · refine ((ofFiles files).increasing.filter _).imp fun {first second} before => ?_
    rintro ⟨category, name⟩ one ⟨other, last⟩ two
    obtain ⟨_, -, rfl, rfl⟩ := by simpa using one
    obtain ⟨_, -, rfl, rfl⟩ := by simpa using two
    exact Or.inl before

end Gamebook.Trial.Catalog
