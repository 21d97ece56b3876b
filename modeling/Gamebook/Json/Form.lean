import Gamebook.Json.Token

/-!
# The form of a JSON text

A text of the right form is one value, whatever its numbers and strings stand for and however deep
its arrays and objects are nested.
-/

namespace Gamebook.Json

/-- A JSON value as it is spelled. -/
inductive Form
  | null
  | bool (value : Bool)
  | number (numeral : Numeral)
  | string (parts : List StringPart)
  | array (items : List Form)
  | object (members : List (List StringPart × Form))

mutual

/-- Read one value at the front of the tokens. -/
def readForm : Nat → List Token → Option (Form × List Token)
  | 0, _ => none
  | fuel + 1, tokens =>
    match tokens with
    | .null :: rest => some (.null, rest)
    | .bool value :: rest => some (.bool value, rest)
    | .number numeral :: rest => some (.number numeral, rest)
    | .string parts :: rest => some (.string parts, rest)
    | .openArray :: .closeArray :: rest => some (.array [], rest)
    | .openArray :: rest => (readItems fuel rest).map fun (items, rest) => (.array items, rest)
    | .openObject :: .closeObject :: rest => some (.object [], rest)
    | .openObject :: rest =>
      (readMembers fuel rest).map fun (members, rest) => (.object members, rest)
    | _ => none

/-- Read the items of an array and its closing bracket. -/
def readItems : Nat → List Token → Option (List Form × List Token)
  | 0, _ => none
  | fuel + 1, tokens => do
    let (item, rest) ← readForm fuel tokens
    match rest with
    | .closeArray :: rest => some ([item], rest)
    | .comma :: rest =>
      let (items, rest) ← readItems fuel rest
      some (item :: items, rest)
    | _ => none

/-- Read the members of an object and its closing bracket. -/
def readMembers : Nat → List Token → Option (List (List StringPart × Form) × List Token)
  | 0, _ => none
  | fuel + 1, tokens =>
    match tokens with
    | .string key :: .colon :: rest => do
      let (value, rest) ← readForm fuel rest
      match rest with
      | .closeObject :: rest => some ([(key, value)], rest)
      | .comma :: rest =>
        let (members, rest) ← readMembers fuel rest
        some ((key, value) :: members, rest)
      | _ => none
    | _ => none

end

/-- Read a text that is one value and nothing else. -/
def Form.read (text : String) : Option Form := do
  let tokens ← tokens text.toList
  let (form, rest) ← readForm (2 * tokens.length + 1) tokens
  if rest.isEmpty then some form else none

end Gamebook.Json
