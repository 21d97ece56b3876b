import Gamebook.Toml.Basic

/-!
# Tables under construction

A document fills its tables line by line.  Each table remembers how it came to be, since a header
opens a table only once and a dotted key extends only tables that dotted keys or longer headers have
made.
-/

namespace Gamebook.Toml

/-- How a table came to be. -/
inductive Origin
  /-- By a header of its own, or as the table of the whole document. -/
  | header
  /-- By a header of a table within it. -/
  | implied
  /-- By a dotted key. -/
  | dotted
  deriving DecidableEq, Repr

/-- What a key stands for while a document is read. -/
inductive Node
  | value (value : Toml)
  | table (origin : Origin) (entries : List (String × Node))
  /-- An array of tables that headers open, the last one first. -/
  | tables (last : List (String × Node)) (earlier : List (List (String × Node)))

/-- The entries of a table under construction. -/
abbrev Entries := List (String × Node)

namespace Entries

/-- What a key stands for. -/
def find? (key : String) (entries : Entries) : Option Node :=
  (List.find? (fun entry => entry.1 = key) entries).map Prod.snd

/-- Let a key stand for something else. -/
def put (key : String) (node : Node) (entries : Entries) : Entries :=
  if entries.any fun entry => entry.1 = key then
    entries.map fun entry => if entry.1 = key then (key, node) else entry
  else entries ++ [(key, node)]

/-- Give a dotted key a value that it does not have yet. -/
def assign (value : Toml) : List String → Entries → Option Entries
  | [], _ => none
  | [key], entries =>
    match find? key entries with
    | none => some (put key (.value value) entries)
    | some _ => none
  | key :: next :: rest, entries =>
    match find? key entries with
    | none =>
      (assign value (next :: rest) []).map fun inner => put key (.table .dotted inner) entries
    | some (.table origin inner) =>
      if origin = .header || (origin = .implied && rest.isEmpty) then none
      else
        (assign value (next :: rest) inner).map fun inner => put key (.table origin inner) entries
    | some (.tables last earlier) =>
      if rest.isEmpty then none
      else
        (assign value (next :: rest) last).map fun last => put key (.tables last earlier) entries
    | some (.value _) => none

/-- Open the table of a header. -/
def openTable : List String → Entries → Option Entries
  | [], _ => none
  | [key], entries =>
    match find? key entries with
    | none => some (put key (.table .header []) entries)
    | some (.table .implied inner) => some (put key (.table .header inner) entries)
    | some _ => none
  | key :: next :: rest, entries =>
    match find? key entries with
    | none =>
      (openTable (next :: rest) []).map fun inner => put key (.table .implied inner) entries
    | some (.table origin inner) =>
      (openTable (next :: rest) inner).map fun inner => put key (.table origin inner) entries
    | some (.tables last earlier) =>
      (openTable (next :: rest) last).map fun last => put key (.tables last earlier) entries
    | some (.value _) => none

/-- Open one more table of an array of tables. -/
def openItem : List String → Entries → Option Entries
  | [], _ => none
  | [key], entries =>
    match find? key entries with
    | none => some (put key (.tables [] []) entries)
    | some (.tables last earlier) => some (put key (.tables [] (last :: earlier)) entries)
    | some _ => none
  | key :: next :: rest, entries =>
    match find? key entries with
    | none =>
      (openItem (next :: rest) []).map fun inner => put key (.table .implied inner) entries
    | some (.table origin inner) =>
      (openItem (next :: rest) inner).map fun inner => put key (.table origin inner) entries
    | some (.tables last earlier) =>
      (openItem (next :: rest) last).map fun last => put key (.tables last earlier) entries
    | some (.value _) => none

/-- Change the table that a header has opened; of an array of tables it is the last one. -/
def modify (change : Entries → Option Entries) : List String → Entries → Option Entries
  | [], entries => change entries
  | key :: rest, entries =>
    match find? key entries with
    | some (.table origin inner) =>
      (modify change rest inner).map fun inner => put key (.table origin inner) entries
    | some (.tables last earlier) =>
      (modify change rest last).map fun last => put key (.tables last earlier) entries
    | _ => none

end Entries

mutual

/-- The value that is complete. -/
def Node.finish : Node → Toml
  | .value value => value
  | .table _ entries => .table (Table.ofList (finishEntries entries)).entries
  | .tables last earlier =>
    .array (finishItems earlier [.table (Table.ofList (finishEntries last)).entries])

/-- The entries with their complete values. -/
def finishEntries : List (String × Node) → List (String × Toml)
  | [] => []
  | (key, node) :: rest => (key, node.finish) :: finishEntries rest

/-- The tables of an array, last one first, in front of those that follow. -/
def finishItems : List (List (String × Node)) → List Toml → List Toml
  | [], following => following
  | entries :: earlier, following =>
    finishItems earlier (.table (Table.ofList (finishEntries entries)).entries :: following)

end

/-- The complete table. -/
def Entries.finish (entries : Entries) : Table Toml :=
  Table.ofList (finishEntries entries)

end Gamebook.Toml
