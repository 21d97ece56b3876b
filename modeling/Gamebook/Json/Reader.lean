import Gamebook.Json.Form

/-!
# Reading JSON

Reading evaluates the form of a text: numbers have to fit, strings have to be whole, and arrays and
objects may be nested `maxDepth` deep.  A reader that looks for a record passes over what stands
under other keys; of that the form alone counts.
-/

namespace Gamebook.Json

/-- The depth to which arrays and objects may be nested. -/
def maxDepth : Nat := 127

/-- The part of a value that a reader looks at. -/
inductive View
  /-- All of the value. -/
  | whole
  /-- A list, each item in the same way. -/
  | list (item : View)
  /-- A record with these fields, in an object or in an array in order; nothing under other keys. -/
  | record (fields : List (String × View))

namespace View

/-- How the item of an array at an index is looked at. -/
def item (index : Nat) : View → View
  | whole => whole
  | list item => item
  | record fields => (fields[index]?.map Prod.snd).getD whole

/-- How the member of an object under a key is looked at, if it is. -/
def member? (key : String) : View → Option View
  | record fields => (fields.find? fun field => field.1 = key).map Prod.snd
  | _ => some whole

end View

mutual

/-- The value of a form as far as it is looked at; `depth` containers may still be opened. -/
def Form.value? (view : View) (depth : Nat) : Form → Option Json
  | .null => some null
  | .bool value => some (bool value)
  | .number numeral => numeral.value.map number
  | .string parts => (stringOfParts? parts).map string
  | .array items =>
    if depth = 0 then none else (itemValues? view 0 (depth - 1) items).map array
  | .object members =>
    if depth = 0 then none else (memberValues? view (depth - 1) members).map object

/-- The values of the items of an array from an index on. -/
def itemValues? (view : View) (index depth : Nat) : List Form → Option (List Json)
  | [] => some []
  | item :: rest => do
    let value ← item.value? (view.item index) depth
    let values ← itemValues? view (index + 1) depth rest
    some (value :: values)

/-- The members of an object that are looked at, with their values. -/
def memberValues? (view : View) (depth : Nat) :
    List (List StringPart × Form) → Option (List (String × Json))
  | [] => some []
  | (parts, form) :: rest => do
    let key ← stringOfParts? parts
    match view.member? key with
    | none => memberValues? view depth rest
    | some inner =>
      let value ← form.value? inner depth
      let values ← memberValues? view depth rest
      some ((key, value) :: values)

end

/-- Read a text that is one value and nothing else, as far as it is looked at. -/
def readView (view : View) (text : String) : Option Json :=
  (Form.read text).bind (Form.value? view maxDepth)

/-- Read a text that is one value and nothing else. -/
def read (text : String) : Option Json :=
  readView .whole text

end Gamebook.Json
