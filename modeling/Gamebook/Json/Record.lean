import Gamebook.Json.Basic

/-!
# Records in JSON

A record is written as an object, and read from an object or from an array of its fields in order.
In an object other keys are ignored, but a key of the record may not be repeated.
-/

namespace Gamebook.Json

/-- The value of a key that stands at most once among the members; none inside if it is missing. -/
def field? (members : List (String × Json)) (key : String) : Option (Option Json) :=
  match members.filter fun entry => entry.1 = key with
  | [] => some none
  | [(_, value)] => some (some value)
  | _ => none

/-- The values of the given keys, each at most once. -/
def fields? (keys : List String) : Json → Option (List (Option Json))
  | object members => keys.mapM (field? members)
  | array items =>
    if items.length ≤ keys.length then
      some (items.map some ++ List.replicate (keys.length - items.length) none)
    else none
  | _ => none

/-- A truth value. -/
def asBool? : Json → Option Bool
  | bool value => some value
  | _ => none

/-- A text. -/
def asString? : Json → Option String
  | string value => some value
  | _ => none

/-- A natural number written as an integer. -/
def asNat? : Json → Option Nat
  | number (.natural value) => some value
  | _ => none

/-- The items of an array, each decoded. -/
def asList? {α : Type} (decode : Json → Option α) : Json → Option (List α)
  | array items => items.mapM decode
  | _ => none

/-- The members of an object as a table, each decoded; of repeated keys the last one counts. -/
def asTable? {α : Type} (decode : Json → Option α) : Json → Option (Table α)
  | object members =>
    (members.mapM fun (entry : String × Json) =>
      (decode entry.2).map fun value => (entry.1, value)).map Table.ofList
  | _ => none

end Gamebook.Json
