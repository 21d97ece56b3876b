import Gamebook.Json.Printer
import Gamebook.Story.Document
import Gamebook.Value

/-!
# Settings

The settings of a story with a meaning: the values that the context starts with, the state in which
the story starts, and how options without a link and white space are treated.  Other settings are
ignored.  Of several faults the one under the smallest key is reported.
-/

namespace Gamebook.Story

/-- What an option without a link leads to. -/
inductive NoLink
  /-- The end of the story. -/
  | exit
  /-- The options of the same state. -/
  | backToOptions
  deriving DecidableEq, Inhabited, Repr

/-- How white space in text is treated. -/
inductive Whitespace
  /-- As the markup has it. -/
  | normalize
  /-- As written. -/
  | retain
  /-- An unknown mode, which counts as the first one. -/
  | unknown (mode : String)
  deriving DecidableEq, Inhabited, Repr

/-- The settings of a story. -/
structure Settings where
  /-- The values that the context starts with. -/
  initialContext : Table Value
  /-- The state in which the story starts; without it, the first one. -/
  initialState : Option String
  /-- What options without a link lead to. -/
  noLink : NoLink
  /-- How white space is treated. -/
  whitespace : Whitespace
  deriving DecidableEq

/-- The settings of a story that has none. -/
def Settings.default : Settings :=
  { initialContext := Table.empty, initialState := none, noLink := .backToOptions
    whitespace := .normalize }

/-- Whether text is kept as written. -/
def Settings.retainsWhitespace (settings : Settings) : Bool :=
  settings.whitespace = .retain

/-- What is wrong with a setting. -/
inductive SettingsError
  /-- A value is of the wrong kind. -/
  | wrongKind (found : Json) (expected : String)
  /-- The name of what options without a link lead to is unknown. -/
  | unknownVariant (name : String)
  /-- A value of the context is neither a number nor a text. -/
  | badValue
  /-- An object that names a variant has not exactly one key. -/
  | notOneKey
  /-- An array of settings is too long. -/
  | tooLong (length : Nat)

/-- The kind and content of a value in messages. -/
def describe : Json → String
  | .null => "null"
  | .bool value => "boolean \x60" ++ toString value ++ "\x60"
  | .number (.float value) => "floating point \x60" ++ Json.floatText value ++ "\x60"
  | .number value => "integer \x60" ++ value.text ++ "\x60"
  | .string value => "string " ++ Text.quote value
  | .array _ => "sequence"
  | .object _ => "map"

/-- The message of an error. -/
def SettingsError.message : SettingsError → String
  | wrongKind found expected => "invalid type: " ++ describe found ++ ", expected " ++ expected
  | unknownVariant name =>
    "unknown variant \x60" ++ name ++ "\x60, expected \x60exit\x60 or \x60loopback_to_options\x60"
  | badValue => "data did not match any variant of untagged enum Seed"
  | notOneKey => "invalid value: map, expected map with a single key"
  | tooLong length =>
    "invalid length " ++ toString length ++ ", expected fewer elements in array"

namespace Settings

/-- Read the values that the context starts with. -/
def readContext : Json → Except SettingsError (Table Value)
  | .object members => do
    let values ← members.mapM fun (entry : String × Json) =>
      match Value.ofJson? entry.2 with
      | some value => Except.ok (entry.1, value)
      | none => Except.error SettingsError.badValue
    return Table.ofList values
  | other => .error (.wrongKind other "a map")

/-- Read a text. -/
def readString : Json → Except SettingsError String
  | .string value => .ok value
  | other => .error (.wrongKind other "a string")

/-- Read a text that may be left out. -/
def readOptionalString : Json → Except SettingsError (Option String)
  | .null => .ok none
  | other => (readString other).map some

/-- What a name says that options without a link lead to. -/
def noLinkOfName (name : String) : Except SettingsError NoLink :=
  if name = "exit" then .ok .exit
  else if name = "loopback_to_options" then .ok .backToOptions
  else .error (.unknownVariant name)

/-- Read what options without a link lead to: a name, or an object with the name as its only key. -/
def readNoLink : Json → Except SettingsError NoLink
  | .string name => noLinkOfName name
  | .object [(name, value)] => do
    let noLink ← noLinkOfName name
    match value with
    | .null => return noLink
    | other => .error (.wrongKind other "unit")
  | .object _ => .error .notOneKey
  | other => .error (.wrongKind other "string or map")

/-- How a mode says that white space is treated. -/
def whitespaceOfMode (mode : String) : Whitespace :=
  if mode = "retain" then .retain else if mode = "normalize" then .normalize else .unknown mode

/-- Read how white space is treated. -/
def readWhitespace (json : Json) : Except SettingsError Whitespace :=
  (readString json).map whitespaceOfMode

/-- Read a setting if it is there. -/
def readOr {α : Type} (read : Json → Except SettingsError α) (default : α) :
    Option Json → Except SettingsError α
  | none => .ok default
  | some json => read json

/-- Read the settings of behaviour: an object, or an array of its values in order. -/
def readBehaviour : Json → Except SettingsError (NoLink × Whitespace)
  | .object members => do
    let table := Json.toTable members
    let noLink ← readOr readNoLink .backToOptions (table.get? "no_link_behaviour")
    let whitespace ← readOr readWhitespace .normalize (table.get? "whitespace")
    return (noLink, whitespace)
  | .array items => do
    let noLink ← readOr readNoLink .backToOptions items[0]?
    let whitespace ← readOr readWhitespace .normalize items[1]?
    if 2 < items.length then .error (.tooLong items.length)
    else return (noLink, whitespace)
  | other => .error (.wrongKind other "struct BehaviourOptions")

/-- Read settings by name. -/
def ofTable (table : Table Json) : Except SettingsError Settings := do
  let initialContext ← readOr readContext Table.empty (table.get? "initial-context")
  let initialState ← readOr readOptionalString none (table.get? "initial-state")
  let (noLink, whitespace) ←
    readOr readBehaviour (.backToOptions, .normalize) (table.get? "options")
  return { initialContext, initialState, noLink, whitespace }

end Settings

end Gamebook.Story
