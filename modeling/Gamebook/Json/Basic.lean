import Gamebook.Table
import Gamebook.Decimal.Layout

/-!
# JSON values

A JSON text is read into a tree that keeps the members of an object as they were written, repeated
keys included.  `Json.canonical` is the view in which an object is a table: keys increase and of
repeated keys the last one counts.
-/

namespace Gamebook

/-- A JSON number: integers of machine size are kept apart from floating-point numbers. -/
inductive Json.Number
  /-- An integer from 0 to `2^64 - 1`. -/
  | natural (value : Nat)
  /-- The negative integer `-(value + 1)`, from `-2^63` on. -/
  | negative (value : Nat)
  /-- Any other number. -/
  | float (value : Float)
  deriving DecidableEq

/-- A JSON value. -/
inductive Json
  | null
  | bool (value : Bool)
  | number (value : Json.Number)
  | string (value : String)
  | array (items : List Json)
  | object (members : List (String × Json))

namespace Json

instance : Inhabited Json := ⟨null⟩

/-- The number as a floating-point number, rounded to the nearest. -/
def Number.toFloat : Number → Float
  | natural value => value.toUInt64.toFloat
  | negative value => -(value + 1).toUInt64.toFloat
  | float value => value

/-- The number of an integer. -/
def ofInt : Int → Json
  | .ofNat value => number (.natural value)
  | .negSucc value => number (.negative value)

/-- The number of a natural number. -/
def ofNat (value : Nat) : Json :=
  number (.natural value)

/-- The object of a table. -/
def ofTable {α : Type} (encode : α → Json) (table : Table α) : Json :=
  object (table.entries.map fun entry => (entry.1, encode entry.2))

/-- The value of an optional one, `null` without it. -/
def ofOption {α : Type} (encode : α → Json) : Option α → Json
  | none => null
  | some value => encode value

/-- The first member with the given key. -/
def member? (key : String) : Json → Option Json
  | object members => (members.find? fun entry => entry.1 = key).map Prod.snd
  | _ => none

mutual

/-- The value with every object's keys increasing and without repeated keys; the last one counts. -/
def canonical : Json → Json
  | array items => array (canonicalItems items)
  | object members => object (Table.ofList (canonicalMembers members)).entries
  | other => other

/-- The canonical forms of a list of values. -/
def canonicalItems : List Json → List Json
  | [] => []
  | item :: rest => canonical item :: canonicalItems rest

/-- The members with canonical values. -/
def canonicalMembers : List (String × Json) → List (String × Json)
  | [] => []
  | (key, value) :: rest => (key, canonical value) :: canonicalMembers rest

end

/-- The table of an object's members, each in canonical form. -/
def toTable (members : List (String × Json)) : Table Json :=
  Table.ofList (canonicalMembers members)

end Json

end Gamebook
