import Gamebook.CommandLine.Test
import Gamebook.Proofs.Trial.Catalogs

/-!
# Runs of trials

A host with fixed files keeps track of what is read and written.  On it every trial that is run
reads its file, and nothing is read to tell anything; so the files that are read are those of the
selected trials, in order, and the exit code is zero just if there are some and all of them pass.
-/

namespace Gamebook.CommandLine

open Trial (Catalog Report)

/-! ## A host that keeps track -/

/-- What has been read and written, in order. -/
structure Trace where
  /-- The paths of the files that have been read. -/
  reads : List String
  /-- The texts that have been written to either stream. -/
  written : List String

/-- What lies at paths. -/
structure Files where
  /-- What lies at a path; none if nothing does. -/
  tree : String → Option FileTree
  /-- The text of a file, or why it cannot be read. -/
  content : String → Except FileError String

/-- The host that has some files and keeps track of what is read and written. -/
def Files.host (files : Files) : Host (StateM Trace) where
  readText path := do
    modify fun trace => { trace with reads := trace.reads ++ [path] }
    return files.content path
  writeText _ _ := return .error .missing
  tree? path := return files.tree path
  readLine := return none
  print text := modify fun trace => { trace with written := trace.written ++ [text] }
  report text := modify fun trace => { trace with written := trace.written ++ [text] }
  freshSeed := return 0

/-- The trial in a file passes. -/
def Files.Passes (files : Files) (path : String) : Prop :=
  ∃ text, files.content path = .ok text ∧ (Trial.checkFile text).failure = none

/-! ## Steps of a run -/

variable {files : Files} {report : Report} {paths more : List String}

/-- What runs the trials in some files after a report: these are read in order, and if nothing had
failed before, nothing has failed afterwards just if all of them pass. -/
structure Runs (files : Files) (paths : List String) (report : Report)
    (action : StateM Trace Report) : Prop where
  reads : ∀ trace, (action.run trace).2.reads = trace.reads ++ paths
  failures : ∀ trace, (action.run trace).1.failures = [] ↔
    report.failures = [] ∧ ∀ path ∈ paths, files.Passes path

theorem Runs.nothing : Runs files [] report (pure report) := by
  constructor
  · exact fun trace => (List.append_nil trace.reads).symm
  · exact fun _ => (and_iff_left (List.forall_mem_nil _)).symm

theorem Runs.bind {action : StateM Trace Report} {next : Report → StateM Trace Report}
    (first : Runs files paths report action)
    (second : ∀ between, Runs files more between (next between)) :
    Runs files (paths ++ more) report (action >>= next) := by
  constructor
  · intro trace
    have reads := (second (action.run trace).1).reads (action.run trace).2
    rw [first.reads, List.append_assoc] at reads
    exact reads
  · intro trace
    have failures := (second (action.run trace).1).failures (action.run trace).2
    rw [first.failures, and_assoc, ← List.forall_mem_append] at failures
    exact failures

/-- Nothing is read to write a line. -/
theorem Runs.behind_line {action : StateM Trace Report} (runs : Runs files paths report action)
    (line : String) : Runs files paths report (files.host.reportLine line >>= fun _ => action) :=
  ⟨fun _ => runs.reads _, fun _ => runs.failures _⟩

theorem record_failures_iff {path : String} {verdict : Trial.Verdict} :
    (report.record path verdict).1.failures = [] ↔
      report.failures = [] ∧ verdict.failure = none := by
  rw [Report.record]
  split
  next passed => simp [passed]
  next reason failed => simp [failed]

theorem runTrial_runs (files : Files) (report : Report) (path : String) :
    Runs files [path] report (runTrial files.host report path) := by
  constructor
  · exact fun _ => rfl
  · intro trace
    obtain ⟨verdict, recorded, passes⟩ : ∃ verdict,
        ((runTrial files.host report path).run trace).1 = (report.record path verdict).1 ∧
          (verdict.failure = none ↔ files.Passes path) := by
      refine ⟨_, rfl, ?_⟩
      rw [Files.Passes]
      cases files.content path <;> simp
    rw [recorded, record_failures_iff, passes, List.forall_mem_singleton]

theorem names_run (files : Files) (path : String → String) (names : List String)
    (report : Report) :
    Runs files (names.map path) report
      (names.foldlM (fun report name => runTrial files.host report (path name)) report) := by
  induction names generalizing report with
  | nil => exact .nothing
  | cons name names induction =>
      rw [List.foldlM_cons]
      exact (runTrial_runs files report (path name)).bind induction

/-- The paths of the trials of some categories of a folder. -/
def pathsOf (root : String) (selected : List (String × List String)) : List String :=
  (Catalog.trials selected).map fun trial => trialPath root trial.1 trial.2

theorem runCategories_runs (files : Files) (root : String) (report : Report)
    (selected : List (String × List String)) :
    Runs files (pathsOf root selected) report (runCategories files.host root report selected) := by
  induction selected generalizing report with
  | nil => exact .nothing
  | cons entry selected induction =>
      have paths : pathsOf root (entry :: selected) =
          entry.2.map (trialPath root entry.1) ++ pathsOf root selected := by
        simp [pathsOf, Catalog.trials]
      have named := names_run files (trialPath root entry.1) entry.2 report
      rw [paths, runCategories]
      exact ((named.bind induction).behind_line _).behind_line _

/-! ## A whole run -/

/-- Nothing is read to write lines. -/
theorem reads_lines {α : Type} (lines : List α) (text : α → String) (trace : Trace) :
    ((lines.forM fun line => files.host.reportLine (text line)).run trace).2.reads =
      trace.reads := by
  induction lines generalizing trace with
  | nil => rfl
  | cons line lines induction => exact induction _

theorem closeReport_run (files : Files) (report : Report) (trace : Trace) :
    ((closeReport files.host report).run trace).2.reads = trace.reads ∧
      (((closeReport files.host report).run trace).1 = 0 ↔ report.failures = []) := by
  constructor
  · exact reads_lines report.closingLines id trace
  · have code : ((closeReport files.host report).run trace).1 =
        if report.succeeds then 0 else 1 := rfl
    rw [code, Report.succeeds]
    cases report.failures <;> simp

/-- How a run of the trials in some files ends: these have been read in order, and the exit code is
zero just if there are some and all of them pass. -/
structure Ends (files : Files) (paths : List String) (trace : Trace) (result : UInt32 × Trace) :
    Prop where
  reads : result.2.reads = trace.reads ++ paths
  code : result.1 = 0 ↔ paths ≠ [] ∧ ∀ path ∈ paths, files.Passes path

/-- A run of no trials fails. -/
theorem Ends.nothing {result : UInt32 × Trace} {trace : Trace} (fails : result.1 = 1)
    (same : result.2.reads = trace.reads) : Ends files [] trace result :=
  ⟨by rw [same, List.append_nil], by simp [fails]⟩

/-- What is told before the trials of a folder are run. -/
def warnings (host : Host (StateM Trace)) (catalog : Catalog) (requests : List String) :
    StateM Trace Unit :=
  let known := ", ".intercalate (catalog.keys.map Catalog.displayName)
  (catalog.unknown requests).forM fun name =>
    host.reportLine ("warning: no category '" ++ name ++ "' (known: " ++ known ++ ")")

theorem testFolder_ends (files : Files) (arguments : TestArguments)
    (found : List (List String × String)) (trace : Trace) :
    Ends files (pathsOf arguments.path ((Catalog.ofFiles found).select arguments.categories)) trace
      ((testFolder files.host arguments (Catalog.ofFiles found)).run trace) := by
  let told := ((warnings files.host (Catalog.ofFiles found) arguments.categories).run trace).2
  have told_reads : told.reads = trace.reads := reads_lines _ _ trace
  cases selection : (Catalog.ofFiles found).select arguments.categories with
  | nil =>
      have folder : testFolder files.host arguments (Catalog.ofFiles found) =
          warnings files.host (Catalog.ofFiles found) arguments.categories >>= fun _ =>
            files.host.reportLine "no matching categories" >>= fun _ => pure 1 := by
        rw [testFolder, selection]
        rfl
      rw [folder]
      exact .nothing rfl told_reads
  | cons entry selected =>
      have folder : testFolder files.host arguments (Catalog.ofFiles found) =
          warnings files.host (Catalog.ofFiles found) arguments.categories >>= fun _ =>
            runCategories files.host arguments.path (.start arguments.colored)
              (entry :: selected) >>= closeReport files.host := by
        rw [testFolder, selection]
        rfl
      let ran := (runCategories files.host arguments.path (.start arguments.colored)
        (entry :: selected)).run told
      have ended : (testFolder files.host arguments (Catalog.ofFiles found)).run trace =
          (closeReport files.host ran.1).run ran.2 := by
        rw [folder]
        rfl
      have runs := runCategories_runs files arguments.path (.start arguments.colored)
        (entry :: selected)
      have some : pathsOf arguments.path (entry :: selected) ≠ [] := by
        rw [pathsOf, Ne, List.map_eq_nil_iff, ← selection, Catalog.trials_eq_nil_iff, selection]
        exact List.cons_ne_nil _ _
      obtain ⟨closed, code⟩ := closeReport_run files ran.1 ran.2
      rw [ended]
      refine ⟨?_, ?_⟩
      · rw [closed, runs.reads, told_reads]
      · rw [code, runs.failures]
        exact ⟨fun passes => ⟨some, passes.2⟩, fun passes => ⟨rfl, passes.2⟩⟩

/-- What is run depends on the contents of files and on the catalog alone. -/
theorem testFolder_content {files others : Files} (same : others.content = files.content)
    (arguments : TestArguments) (catalog : Catalog) :
    testFolder others.host arguments catalog = testFolder files.host arguments catalog := by
  obtain ⟨tree, _⟩ := files
  obtain ⟨other, content⟩ := others
  subst same
  have categories (root : String) (report : Report) (selected : List (String × List String)) :
      runCategories (Files.host ⟨other, content⟩) root report selected =
        runCategories (Files.host ⟨tree, content⟩) root report selected := by
    induction selected generalizing report with
    | nil => rfl
    | cons entry selected induction =>
        rw [runCategories, runCategories]
        simp only [induction]
        rfl
  rw [testFolder, testFolder]
  simp only [categories]
  rfl

theorem test_folder {files : Files} {arguments : TestArguments} {entries : List (String × FileTree)}
    (found : files.tree arguments.path = some (.folder entries))
    (running : arguments.listCategories = false) (trace : Trace) :
    (test files.host arguments).run trace =
      if (Catalog.ofTree (.folder entries)).entries.isEmpty then
        (1, ((tellNone files.host arguments.path).run trace).2)
      else (testFolder files.host arguments (Catalog.ofTree (.folder entries))).run trace := by
  have asked : (files.host.tree? arguments.path).run trace =
      (some (.folder entries), trace) := congrArg (·, trace) found
  have step : (test files.host arguments).run trace =
      (if (Catalog.ofTree (.folder entries)).entries.isEmpty then do
          tellNone files.host arguments.path
          return if arguments.listCategories then 0 else 1
        else if arguments.listCategories then do
          listCategories files.host (Catalog.ofTree (.folder entries))
          return 0
        else testFolder files.host arguments (Catalog.ofTree (.folder entries)) :
          StateM Trace UInt32).run trace := by
    rw [test, StateT.run_bind, asked]
    rfl
  rw [step, running]
  split
  · rfl
  · rfl

/-- Running the trials of a folder reads those that its catalog has for the requests. -/
theorem test_ends {files : Files} {arguments : TestArguments} {entries : List (String × FileTree)}
    (found : files.tree arguments.path = some (.folder entries))
    (running : arguments.listCategories = false) (trace : Trace) :
    Ends files
      (pathsOf arguments.path ((Catalog.ofTree (.folder entries)).select arguments.categories))
      trace ((test files.host arguments).run trace) := by
  rw [test_folder found running]
  split
  next empty =>
    have none : (Catalog.ofTree (.folder entries)).select arguments.categories = [] := by
      rw [Catalog.select, List.isEmpty_iff.mp empty, List.filter_nil]
    rw [none]
    exact .nothing rfl rfl
  next => exact testFolder_ends files arguments _ trace

end Gamebook.CommandLine
