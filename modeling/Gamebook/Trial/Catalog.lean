import Gamebook.Table

/-!
# Catalogs of trials

Trial files lie in a tree of folders.  A category is a folder that holds some of them, named by its
path below the root; the root itself is the category without a name.
-/

namespace Gamebook

/-- A file, or a folder with its entries. -/
inductive FileTree
  | file
  | folder (entries : List (String × FileTree))

namespace FileTree

mutual

/-- The files at or below a place: each with the names of the folders that lead to it. -/
def filesAt (folders : List String) (name : String) : FileTree → List (List String × String)
  | file => [(folders, name)]
  | folder entries => filesIn (folders ++ [name]) entries

/-- The files below the entries of a folder. -/
def filesIn (folders : List String) : List (String × FileTree) → List (List String × String)
  | [] => []
  | (name, tree) :: rest => filesAt folders name tree ++ filesIn folders rest

end

/-- The files of a tree below its root. -/
def files : FileTree → List (List String × String)
  | file => []
  | folder entries => filesIn [] entries

end FileTree

namespace Trial

/-- What the name of a trial file ends in. -/
def suffix : String := ".test.md"

/-- Whether a name is that of a trial file. -/
def isTrialName (name : String) : Bool :=
  suffix.toList.isSuffixOf name.toList

/-- The names of the trial files of each category, in increasing order. -/
abbrev Catalog := Table (List String)

namespace Catalog

/-- Add a file to a category. -/
def add (catalog : Catalog) (category name : String) : Catalog :=
  catalog.insert category (name :: (catalog.get? category).getD [])

/-- The catalog of the trial files among some files. -/
def ofFiles (files : List (List String × String)) : Catalog :=
  let trials := files.filter fun file => isTrialName file.2
  let catalog : Catalog :=
    trials.foldl (fun catalog file => catalog.add ("/".intercalate file.1) file.2) Table.empty
  catalog.map fun names => names.mergeSort fun first second => decide (first ≤ second)

/-- The catalog of a tree. -/
def ofTree (tree : FileTree) : Catalog :=
  ofFiles tree.files

/-- A request without the slashes at its ends. -/
def requested (request : String) : String :=
  let rest := request.toList.dropWhile (· = '/')
  String.ofList (rest.reverse.dropWhile (· = '/')).reverse

/-- Whether a category is the named one or lies below it; nothing lies below the root's name. -/
def isWithin (category name : String) : Bool :=
  category = name || (!name.isEmpty && (name ++ "/").toList.isPrefixOf category.toList)

/-- The categories that are requested, each with those below it; all of them without requests. -/
def select (catalog : Catalog) (requests : List String) : List (String × List String) :=
  catalog.entries.filter fun entry =>
    requests.isEmpty || requests.any fun request => isWithin entry.1 (requested request)

/-- The requests, without the slashes at their ends, that select nothing. -/
def unknown (catalog : Catalog) (requests : List String) : List String :=
  (requests.map requested).filter fun name =>
    !catalog.keys.any fun category => isWithin category name

/-- The name of a category as it is shown. -/
def displayName (category : String) : String :=
  if category.isEmpty then "(root)" else category

end Catalog

end Trial

end Gamebook
