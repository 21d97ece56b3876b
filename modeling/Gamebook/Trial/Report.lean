import Gamebook.Trial.Catalog
import Gamebook.Trial.Check

/-!
# Reports on trials

A report counts the trials that pass and keeps what is wrong with the others.
-/

namespace Gamebook.Trial

/-- What has been found so far. -/
structure Report where
  /-- Whether words are colored. -/
  colored : Bool
  /-- The number of trials that pass. -/
  passed : Nat
  /-- The files whose trials fail and the reasons, in order. -/
  failures : List (String × String)
  deriving DecidableEq, Repr

/-- A color or weight of text on a terminal. -/
inductive Paint
  | bold
  | red
  | green
  deriving DecidableEq, Repr

/-- The number of a color or weight. -/
def Paint.code : Paint → String
  | bold => "1"
  | red => "31"
  | green => "32"

namespace Report

/-- The report before the first trial. -/
def start (colored : Bool) : Report :=
  ⟨colored, 0, []⟩

/-- A text in a color, if texts are colored. -/
def paint (report : Report) (paint : Paint) (text : String) : String :=
  if report.colored then "\x1b[" ++ paint.code ++ "m" ++ text ++ "\x1b[0m" else text

/-- The last name of a path. -/
def fileName (path : String) : String :=
  String.ofList (path.toList.reverse.takeWhile (· ≠ '/')).reverse

/-- A text without a suffix, however often it ends in it; at most `fuel` times. -/
def dropSuffixes (suffix : List Char) : Nat → List Char → List Char
  | 0, reversed => reversed
  | fuel + 1, reversed =>
    if suffix.isPrefixOf reversed then dropSuffixes suffix fuel (reversed.drop suffix.length)
    else reversed

/-- What the trial in a file is called if it does not say so: the file's name without its suffix. -/
def trialName (path : String) : String :=
  let reversed := (fileName path).toList.reverse
  String.ofList (dropSuffixes suffix.toList.reverse reversed.length reversed).reverse

/-- Take up the verdict on a file; the line that tells it is returned too. -/
def record (report : Report) (path : String) (verdict : Verdict) : Report × String :=
  let name := verdict.description.getD (trialName path)
  match verdict.failure with
  | none =>
    ({ report with passed := report.passed + 1 }, "  " ++ report.paint .green "PASS" ++ "  " ++ name)
  | some reason =>
    ({ report with failures := report.failures ++ [(path, reason)] },
      "  " ++ report.paint .red "FAIL" ++ "  " ++ name)

/-- The lines about the trials that fail. -/
def failureLines (report : Report) : List String :=
  if report.failures.isEmpty then []
  else
    ["", "failures:"] ++ report.failures.flatMap fun (path, reason) =>
      ["", "  --- " ++ path ++ " ---"] ++ (Text.lines reason).map fun line => "  " ++ line

/-- The line that sums up. -/
def resultLine (report : Report) : String :=
  let failed := report.failures.length
  if failed = 0 then
    "test result: " ++ report.paint .green "ok" ++ ". " ++ toString report.passed ++ " passed"
  else
    "test result: " ++ report.paint .red "FAILED" ++ ". " ++ toString report.passed ++ " passed, " ++
      toString failed ++ " failed (of " ++ toString (report.passed + failed) ++ ")"

/-- The lines behind the last trial. -/
def closingLines (report : Report) : List String :=
  report.failureLines ++ ["", report.resultLine]

/-- Whether all trials pass. -/
def succeeds (report : Report) : Bool :=
  report.failures.isEmpty

end Report

end Gamebook.Trial
