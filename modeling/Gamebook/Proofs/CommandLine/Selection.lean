import Gamebook.Proofs.CommandLine.Tracing

/-!
# Which trials are run

Running the trials of a folder reads exactly the trial files in the requested folders, each once, in
the order of their folders and then of their names, and succeeds just if there are some and all of
them pass.  The order in which the entries of folders are listed makes no difference.
-/

namespace Gamebook.CommandLine

open FileTree (FileAt Relisted WellNamed)
open Trial (Catalog IsName Requested categoryOf categoryOf_injective categoryOf_singleton
  categoryOf_unslashed isTrialName requested_iff toList_categoryOf_append toList_categoryOf_ne_nil)

/-! ## Paths -/

section Path

variable {folders : List String} {name root first second : String}

/-- The path of a file below the root: the names that lead to it, and its own name. -/
def pathOf (root : String) (file : List String × String) : String :=
  joinPath root (categoryOf (file.1 ++ [file.2]))

theorem joinPath_append (root first second : String) :
    joinPath root (first ++ second) = joinPath root first ++ second := by
  unfold joinPath
  split
  · rw [String.append_assoc]
  · simp only [String.append_assoc]

theorem getLast?_joinPath (nonempty : name.toList ≠ []) :
    (joinPath root name).toList.getLast? = name.toList.getLast? := by
  rw [joinPath]
  split
  · rw [String.toList_append, List.getLast?_append_of_ne_nil _ nonempty]
  · rw [String.toList_append, List.getLast?_append_of_ne_nil _ nonempty]

theorem joinPath_injective (same : joinPath root first = joinPath root second) :
    first = second := by
  unfold joinPath at same
  split at same
  · exact (String.append_right_inj root).mp same
  · exact (String.append_right_inj (root ++ "/")).mp same

/-- The path of a trial has one slash between its category and its name, as between names. -/
theorem trialPath_eq (root : String) (name : String) (named : ∀ name ∈ folders, IsName name) :
    trialPath root (categoryOf folders) name = pathOf root (folders, name) := by
  by_cases top : folders = []
  · subst top
    rfl
  · have nonempty := toList_categoryOf_ne_nil named top
    have full : (categoryOf folders).isEmpty = false := by
      rw [Bool.eq_false_iff, Ne, String.isEmpty_iff]
      exact fun empty => nonempty (by rw [empty, String.toList_empty])
    have ends : (joinPath root (categoryOf folders)).toList.getLast? ≠ some '/' := by
      rw [getLast?_joinPath nonempty]
      exact (categoryOf_unslashed named).2
    have whole : categoryOf (folders ++ [name]) = categoryOf folders ++ "/" ++ name := by
      rw [← String.toList_inj, toList_categoryOf_append top (List.cons_ne_nil _ _),
        categoryOf_singleton, String.toList_append, String.toList_append, List.append_assoc]
      rfl
    calc trialPath root (categoryOf folders) name
        = joinPath (joinPath root (categoryOf folders)) name := by rw [trialPath, full]; rfl
      _ = joinPath root (categoryOf folders) ++ "/" ++ name := by rw [joinPath, if_neg ends]
      _ = joinPath root (categoryOf folders ++ "/" ++ name) := by
          rw [joinPath_append, joinPath_append]
      _ = pathOf root (folders, name) := by rw [pathOf, whole]

end Path

/-! ## The trials of a folder -/

/-- Files stand in the order of their folders, and in a folder in the order of their names. -/
def Before (first second : List String × String) : Prop :=
  categoryOf first.1 < categoryOf second.1 ∨ first.1 = second.1 ∧ first.2 < second.2

/-- Files are kept apart by their categories and names. -/
theorem distinct_categories {entries : List (String × FileTree)} (wellNamed : WellNamed entries) :
    ((FileTree.folder entries).files.map fun file => (categoryOf file.1, file.2)).Nodup := by
  refine (FileTree.nodup_filesIn wellNamed).map_on ?_
  rintro ⟨folders, name⟩ one ⟨others, last⟩ two same
  have found := (FileTree.mem_files_iff wellNamed).mp one
  have other := (FileTree.mem_files_iff wellNamed).mp two
  obtain ⟨category, rfl⟩ := Prod.mk.inj same
  rw [categoryOf_injective (found.named wellNamed).1 (other.named wellNamed).1 category]

theorem ofTree_relisted {entries listed : List (String × FileTree)}
    (relisted : Relisted entries listed) :
    Catalog.ofTree (.folder entries) = Catalog.ofTree (.folder listed) :=
  Catalog.ofFiles_perm (FileTree.filesIn_perm relisted [])

section Runs

variable {entries listed : List (String × FileTree)}

/-- The trials of the requested categories are the files that are trials in requested folders. -/
theorem mem_trials_iff (wellNamed : WellNamed entries) {requests : List String}
    {category name : String} :
    (category, name) ∈ Catalog.trials ((Catalog.ofTree (.folder entries)).select requests) ↔
      ∃ folders, (FileAt entries folders name ∧ isTrialName name = true ∧
        Requested requests folders) ∧ categoryOf folders = category := by
  rw [Catalog.ofTree, Catalog.mem_trials_iff, Catalog.mem_trialNames_iff]
  constructor
  · rintro ⟨⟨folders, member, rfl, trial⟩, chosen⟩
    have found := (FileTree.mem_files_iff wellNamed).mp member
    exact ⟨folders, ⟨found, trial, (requested_iff (found.named wellNamed).1).mp chosen⟩, rfl⟩
  · rintro ⟨folders, ⟨found, trial, wanted⟩, rfl⟩
    have member := (FileTree.mem_files_iff wellNamed).mpr found
    exact ⟨⟨folders, member, rfl, trial⟩, (requested_iff (found.named wellNamed).1).mpr wanted⟩

/-- The trials in the requested folders, each once and in order. -/
theorem exists_runs (wellNamed : WellNamed entries) (requests : List String) :
    ∃ runs : List (List String × String),
      (∀ folders name, (folders, name) ∈ runs ↔
        FileAt entries folders name ∧ isTrialName name = true ∧ Requested requests folders) ∧
      runs.Pairwise Before ∧
      runs.map (fun run => (categoryOf run.1, run.2)) =
        Catalog.trials ((Catalog.ofTree (.folder entries)).select requests) := by
  obtain ⟨runs, each, trials⟩ := exists_map_eq
    (f := fun run : List String × String => (categoryOf run.1, run.2))
    (p := fun run => FileAt entries run.1 run.2 ∧ isTrialName run.2 = true ∧
      Requested requests run.1)
    (l := Catalog.trials ((Catalog.ofTree (.folder entries)).select requests)) (by
      rintro ⟨category, name⟩ member
      obtain ⟨folders, holds, rfl⟩ := (mem_trials_iff wellNamed).mp member
      exact ⟨(folders, name), holds, rfl⟩)
  have named {run : List String × String} (member : run ∈ runs) : ∀ name ∈ run.1, IsName name :=
    ((each run member).1.named wellNamed).1
  refine ⟨runs, fun folders name => ⟨each (folders, name), fun holds => ?_⟩, ?_, trials⟩
  · have member := (mem_trials_iff wellNamed).mpr ⟨folders, holds, rfl⟩
    rw [← trials, List.mem_map] at member
    obtain ⟨⟨others, last⟩, among, same⟩ := member
    obtain ⟨category, rfl⟩ := Prod.mk.inj same
    rwa [← categoryOf_injective (named among) (holds.1.named wellNamed).1 category]
  · have ordered : (runs.map fun run => (categoryOf run.1, run.2)).Pairwise _ :=
      trials ▸ Catalog.trials_pairwise (distinct_categories wellNamed) requests
    refine (List.pairwise_map.mp ordered).imp_of_mem fun first second before => ?_
    refine before.imp_right fun behind => ⟨?_, behind.2⟩
    exact categoryOf_injective (named first) (named second) behind.1

theorem nodup_of_before {runs : List (List String × String)} (ordered : runs.Pairwise Before) :
    runs.Nodup := by
  refine ordered.imp fun {first second} before same => ?_
  subst same
  rcases before with before | ⟨-, before⟩
  · exact String.lt_irrefl _ before
  · exact String.lt_irrefl _ before

theorem pathOf_injective {first second : List String × String} {root : String}
    (first_named : ∀ name ∈ first.1 ++ [first.2], IsName name)
    (second_named : ∀ name ∈ second.1 ++ [second.2], IsName name)
    (same : pathOf root first = pathOf root second) : first = second := by
  have joined := categoryOf_injective first_named second_named (joinPath_injective same)
  obtain ⟨folders, last⟩ := List.append_inj' joined rfl
  exact Prod.ext folders (List.singleton_inj.mp last)

/-- Running the trials of a folder reads the files that are trials in requested folders, each once
and in order, and succeeds just if there are some and all of them pass.  How the folders list their
entries makes no difference. -/
theorem test_runs_requested (arguments : TestArguments) (wellNamed : WellNamed entries)
    (running : arguments.listCategories = false) :
    ∃ runs : List (List String × String),
      (∀ folders name, (folders, name) ∈ runs ↔ FileAt entries folders name ∧
        isTrialName name = true ∧ Requested arguments.categories folders) ∧
      runs.Pairwise Before ∧ (runs.map (pathOf arguments.path)).Nodup ∧
      ∀ (files : Files) (listed : List (String × FileTree)) (trace : Trace),
        Relisted entries listed → files.tree arguments.path = some (.folder listed) →
        let result := (test files.host arguments).run trace
        result.2.reads = trace.reads ++ runs.map (pathOf arguments.path) ∧
        (result.1 = 0 ↔ runs ≠ [] ∧ ∀ run ∈ runs, files.Passes (pathOf arguments.path run)) ∧
        ∀ others : Files, others.content = files.content →
          others.tree arguments.path = some (.folder entries) →
          (test others.host arguments).run trace = result := by
  obtain ⟨runs, runs_iff, ordered, trials⟩ := exists_runs wellNamed arguments.categories
  have named {run : List String × String} (member : run ∈ runs) :
      ∀ name ∈ run.1 ++ [run.2], IsName name := by
    obtain ⟨folders, last⟩ := ((runs_iff run.1 run.2).mp member).1.named wellNamed
    exact List.forall_mem_append.mpr ⟨folders, List.forall_mem_singleton.mpr last⟩
  have paths : pathsOf arguments.path
      ((Catalog.ofTree (.folder entries)).select arguments.categories) =
        runs.map (pathOf arguments.path) := by
    rw [pathsOf, ← trials, List.map_map]
    refine List.map_congr_left fun run member => ?_
    exact trialPath_eq arguments.path run.2 (List.forall_mem_append.mp (named member)).1
  refine ⟨runs, runs_iff, ordered, ?_, fun files listed trace relisted found => ?_⟩
  · refine (nodup_of_before ordered).map_on fun one first other second same => ?_
    exact pathOf_injective (named first) (named second) same
  · intro result
    have catalog := ofTree_relisted relisted
    have ends := test_ends found running trace
    rw [← catalog, paths] at ends
    refine ⟨ends.reads, ?_, fun others same root => ?_⟩
    · rw [ends.code, Ne, List.map_eq_nil_iff, List.forall_mem_map]
    · have here : result = _ := test_folder found running trace
      rw [test_folder root running, here, ← catalog, testFolder_content same]
      rfl

end Runs

/-- A folder that is requested is run with the one inside it, and not one with a longer name. -/
theorem test_runs_requested_shop :
    let shop : String × FileTree :=
      ("shop", .folder [("buy.test.md", .file), ("sell", .folder [("haggle.test.md", .file)])])
    let shopping : String × FileTree := ("shopping", .folder [("list.test.md", .file)])
    let files : Files := ⟨fun _ => some (.folder [shopping, shop]), fun _ => .error .missing⟩
    let result := (test files.host ⟨"stories", ["/shop/"], false, false⟩).run ⟨[], []⟩
    ∃ runs : List (List String × String), (["shop"], "buy.test.md") ∈ runs ∧
      (["shop", "sell"], "haggle.test.md") ∈ runs ∧ (["shopping"], "list.test.md") ∉ runs ∧
      result.2.reads = runs.map (pathOf "stories") ∧ result.1 ≠ 0 := by
  intro shop shopping files result
  have wellNamed : WellNamed [shop, shopping] := by
    apply WellNamed.folder (by decide) (by simp [shopping])
    · apply WellNamed.file (by decide) (by simp)
      exact .folder (by decide) nofun (.file (by decide) nofun .nil) .nil
    · exact .folder (by decide) nofun (.file (by decide) nofun .nil) .nil
  obtain ⟨runs, runs_iff, -, -, run⟩ :=
    test_runs_requested ⟨"stories", ["/shop/"], false, false⟩ wellNamed rfl
  obtain ⟨reads, code, -⟩ := run files [shopping, shop] ⟨[], []⟩ (.perm (.swap ..)) rfl
  have wanted {folders : List String} (first : ["shop"] <+: folders) :
      Requested ["/shop/"] folders :=
    Or.inr ⟨"/shop/", List.mem_singleton_self _, ["shop"], ⟨1, 1, by decide⟩, first, nofun⟩
  have bought : (["shop"], "buy.test.md") ∈ runs := by
    refine (runs_iff _ _).mpr ⟨?_, by decide, wanted List.prefix_rfl⟩
    exact .deeper List.mem_cons_self (.here List.mem_cons_self)
  have haggled : (["shop", "sell"], "haggle.test.md") ∈ runs := by
    refine (runs_iff _ _).mpr ⟨?_, by decide, wanted (List.prefix_append ["shop"] ["sell"])⟩
    refine .deeper List.mem_cons_self (.deeper (List.mem_cons_of_mem _ List.mem_cons_self) ?_)
    exact .here List.mem_cons_self
  refine ⟨runs, bought, haggled, fun listed => ?_, reads, fun succeeds => ?_⟩
  · obtain ⟨found, -, chosen⟩ := (runs_iff _ _).mp listed
    rw [← requested_iff (found.named wellNamed).1] at chosen
    exact absurd chosen (by decide)
  · obtain ⟨text, content, -⟩ := (code.mp succeeds).2 _ bought
    cases content

end Gamebook.CommandLine
