import Gamebook.CommandLine.Arguments
import Gamebook.CommandLine.Host
import Gamebook.Trial.Report

/-!
# Running trials

The trials of a file, or of the requested categories of a folder, are run in order; each is told as it
ends, and what is wrong with those that fail is told at the end.
-/

namespace Gamebook.CommandLine

open Trial (Catalog Report)

variable {m : Type → Type} [Monad m]

/-- The path of a name within a folder. -/
def joinPath (folder name : String) : String :=
  if folder.toList.getLast? = some '/' then folder ++ name else folder ++ "/" ++ name

/-- The path of a trial file within the folder that was scanned. -/
def trialPath (root category name : String) : String :=
  joinPath (if category.isEmpty then root else joinPath root category) name

/-- Run the trial in a file. -/
def runTrial (host : Host m) (report : Report) (path : String) : m Report := do
  let verdict :=
    match ← host.readText path with
    | .ok content => Trial.checkFile content
    | .error error => ⟨none, some ("cannot read file: " ++ error.message)⟩
  let (report, line) := report.record path verdict
  host.reportLine line
  return report

/-- Tell the end of a report.  The exit code is returned. -/
def closeReport (host : Host m) (report : Report) : m UInt32 := do
  report.closingLines.forM host.reportLine
  return if report.succeeds then 0 else 1

/-- Run the trials of some categories of a folder. -/
def runCategories (host : Host m) (root : String) :
    Report → List (String × List String) → m Report
  | report, [] => pure report
  | report, (category, names) :: rest => do
    host.reportLine ""
    host.reportLine (report.paint .bold (Catalog.displayName category))
    let report ←
      names.foldlM (fun report name => runTrial host report (trialPath root category name)) report
    runCategories host root report rest

/-- Tell that a folder has no trial files. -/
def tellNone (host : Host m) (path : String) : m Unit :=
  host.reportLine ("no " ++ Trial.suffix ++ " files under " ++ path)

/-- The catalog of what lies at a path. -/
def catalogOf (tree : Option FileTree) : Catalog :=
  match tree with
  | some tree => Catalog.ofTree tree
  | none => Table.empty

/-- Run the trials of a folder. -/
def testFolder (host : Host m) (arguments : TestArguments) (catalog : Catalog) : m UInt32 := do
  let report := Report.start arguments.colored
  let known := ", ".intercalate (catalog.keys.map Catalog.displayName)
  (catalog.unknown arguments.categories).forM fun name =>
    host.reportLine ("warning: no category '" ++ name ++ "' (known: " ++ known ++ ")")
  match catalog.select arguments.categories with
  | [] => do
    host.reportLine "no matching categories"
    return 1
  | selected => closeReport host (← runCategories host arguments.path report selected)

/-- List the categories of a folder. -/
def listCategories (host : Host m) (catalog : Catalog) : m Unit := do
  host.reportLine "categories:"
  catalog.entries.forM fun (category, names) =>
    let name := Catalog.displayName category
    let space := String.ofList (List.replicate (24 - name.length) ' ')
    host.reportLine ("  " ++ name ++ space ++ " " ++ toString names.length ++ " test(s)")

/-- Run trials or list their categories.  The exit code is returned. -/
def test (host : Host m) (arguments : TestArguments) : m UInt32 := do
  match ← host.tree? arguments.path with
  | some .file =>
    if arguments.listCategories then do
      host.reportLine "(single file, no categories)"
      return 0
    else closeReport host (← runTrial host (Report.start arguments.colored) arguments.path)
  | tree =>
    let catalog := catalogOf tree
    if catalog.entries.isEmpty then do
      tellNone host arguments.path
      return if arguments.listCategories then 0 else 1
    else if arguments.listCategories then do
      listCategories host catalog
      return 0
    else testFolder host arguments catalog

end Gamebook.CommandLine
