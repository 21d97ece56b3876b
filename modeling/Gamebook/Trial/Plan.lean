import Gamebook.Toml.Reader

/-!
# Trial plans

A plan says how a story is played in a trial and what is expected of it.  It is read from settings;
an unknown setting or one of the wrong kind is refused.
-/

namespace Gamebook.Trial

/-- A warning that the story has to give. -/
structure ExpectedWarning where
  /-- What occurs in its message. -/
  part : String
  /-- The line it is about, from one; none if any line will do. -/
  line : Option Nat
  deriving DecidableEq, Repr

/-- How a story is played and what is expected of it. -/
structure Plan where
  /-- What the trial is called. -/
  description : Option String
  /-- The options to choose, in order. -/
  choices : List Nat
  /-- The seed of the random number generator. -/
  seed : UInt64
  /-- All that the story emits, up to blank characters at both ends. -/
  output : Option String
  /-- The values that keys have at the end. -/
  context : Option (List (String × Toml))
  /-- What occurs in the message of the error that ends the run. -/
  error : Option String
  /-- Whether the story cannot be loaded. -/
  refused : Bool
  /-- Whether the run ends at a choice that is not made. -/
  aborted : Bool
  /-- The warnings in order; none if they do not matter. -/
  warnings : Option (List ExpectedWarning)

/-- Why settings are no plan. -/
inductive PlanError
  /-- The settings are not well formed. -/
  | malformed
  | unknownKey (key : String)
  /-- The value of a key is of the wrong kind. -/
  | wrongKind (key : String)
  deriving DecidableEq, Repr

/-- The message of an error. -/
def PlanError.message : PlanError → String
  | malformed => "front matter: malformed settings"
  | unknownKey key => "front matter: unknown setting \x60" ++ key ++ "\x60"
  | wrongKind key => "front matter: setting \x60" ++ key ++ "\x60 has a value of the wrong kind"

/-! ## Kinds of values -/

/-- A text. -/
def asText? : Toml → Option String
  | .string value => some value
  | _ => none

/-- A truth value. -/
def asBool? : Toml → Option Bool
  | .bool value => some value
  | _ => none

/-- A natural number. -/
def asNat? : Toml → Option Nat
  | .integer value => if 0 ≤ value then some value.natAbs else none
  | _ => none

/-- A list of values of one kind. -/
def asList? {α : Type} (read : Toml → Option α) : Toml → Option (List α)
  | .array items => items.mapM read
  | _ => none

/-- The key under which a date or a time counts as a table. -/
def dateTimeKey : String := "$__toml_private_datetime"

/-- The entries of a table. -/
def asEntries? : Toml → Option (List (String × Toml))
  | .table entries => some entries
  | .dateTime value => some [(dateTimeKey, .string value.text)]
  | _ => none

/-- An expected warning: a table, or a list of its text and its line. -/
def asWarning? : Toml → Option ExpectedWarning
  | .table entries => do
    let part ← asText? (← Toml.lookup? "contains" entries)
    match Toml.lookup? "line" entries with
    | none => some ⟨part, none⟩
    | some line => some ⟨part, some (← asNat? line)⟩
  | .array [part] => do some ⟨← asText? part, none⟩
  | .array (part :: line :: _) => do some ⟨← asText? part, some (← asNat? line)⟩
  | _ => none

/-! ## Reading -/

/-- The settings that a plan may have. -/
def settings : List String :=
  ["description", "choices", "seed", "expect_output", "expect_context", "expect_error",
    "expect_compile_error", "expect_aborted", "expect_warnings"]

/-- The value of a setting, if it is given. -/
def setting {α : Type} (table : Table Toml) (key : String) (read : Toml → Option α) :
    Except PlanError (Option α) :=
  match table.get? key with
  | none => .ok none
  | some value =>
    match read value with
    | some value => .ok (some value)
    | none => .error (.wrongKind key)

/-- The plan that settings stand for. -/
def Plan.ofTable (table : Table Toml) : Except PlanError Plan := do
  if let some key := table.keys.find? fun key => !settings.contains key then
    throw (.unknownKey key)
  let description ← setting table "description" asText?
  let choices ← setting table "choices" (asList? asNat?)
  let seed ← setting table "seed" asNat?
  let output ← setting table "expect_output" asText?
  let context ← setting table "expect_context" asEntries?
  let error ← setting table "expect_error" asText?
  let refused ← setting table "expect_compile_error" asBool?
  let aborted ← setting table "expect_aborted" asBool?
  let warnings ← setting table "expect_warnings" (asList? asWarning?)
  return {
    description, output, context, error, warnings
    choices := choices.getD []
    seed := (seed.getD 0).toUInt64
    refused := refused.getD false
    aborted := aborted.getD false }

/-- Read the plan in a text of settings. -/
def Plan.read (text : String) : Except PlanError Plan :=
  match Toml.read text with
  | some table => Plan.ofTable table
  | none => .error .malformed

end Gamebook.Trial
