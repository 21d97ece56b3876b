import Gamebook.Text.Blank

/-!
# Front matter

A trial file starts with a line of three hyphens.  Up to the next such line it holds settings, and
the story follows behind that line.
-/

namespace Gamebook.Trial

/-- The parts of a trial file. -/
structure Parts where
  /-- The settings between the two rules. -/
  frontMatter : String
  /-- The story behind the second rule. -/
  story : String
  deriving DecidableEq, Repr

/-- Why a file does not split. -/
inductive SplitError
  /-- The first line is not a rule. -/
  | missing
  /-- No further line is a rule. -/
  | unclosed
  deriving DecidableEq, Repr

/-- The message of an error. -/
def SplitError.message : SplitError → String
  | missing => "file must start with a \x60---\x60 line"
  | unclosed => "front matter is never closed by a \x60---\x60 line"

/-- Whether a line is three hyphens, up to blank characters at its end. -/
def isRule (line : List Char) : Bool :=
  (line.reverse.dropWhile Text.isBlank).reverse = ['-', '-', '-']

/-- The characters before and behind the first rule among some lines. -/
def splitAtRule : List (List Char) → Option (List Char × List Char)
  | [] => none
  | line :: rest =>
    if isRule line then some ([], rest.flatten)
    else (splitAtRule rest).map fun (front, back) => (line ++ front, back)

/-- Split a trial file into its parts; byte order marks in front of it do not count. -/
def split (content : String) : Except SplitError Parts :=
  match Text.splitLines (content.toList.dropWhile (· = '\uFEFF')) with
  | [] => .error .missing
  | first :: rest =>
    if isRule first then
      match splitAtRule rest with
      | some (frontMatter, story) => .ok ⟨String.ofList frontMatter, String.ofList story⟩
      | none => .error .unclosed
    else .error .missing

end Gamebook.Trial
