import Gamebook.Json.Basic
import Gamebook.Story.Content

/-!
# Story documents

A document is a list of states.  A state has a body and, at its end, options that the player chooses
from.
-/

namespace Gamebook.Story

open Text (Span)

/-- The name of sections that hold the settings of a story. -/
def settingsSection : String := "QUESTMARK-OPTIONS-HEADER"

/-- The directive of options that disappear once they have been chosen. -/
def onceDirective : String := "@once"

/-- One of the options at the end of a state. -/
structure Choice where
  /-- The title shown to the player. -/
  text : Option String
  /-- Where the option leads, as written. -/
  link : Option String
  /-- Remarks to the compiler. -/
  directives : List String
  /-- Code that must leave a positive number for the option to be offered. -/
  preconditions : List Content
  /-- What is shown and run when the option is chosen. -/
  effects : List Content
  /-- The bytes of the source it stands on. -/
  span : Span
  deriving DecidableEq, Inhabited, Repr

namespace Choice

/-- Whether the option disappears once it has been chosen. -/
def isOnce (choice : Choice) : Bool :=
  choice.directives.contains onceDirective

/-- The title and link of an option. -/
def target (choice : Choice) : String :=
  match choice.text, choice.link with
  | some text, some link => " [" ++ text ++ "](" ++ link ++ ")"
  | some text, none => " " ++ text
  | none, some link => " [](" ++ link ++ ")"
  | none, none => ""

/-- The option in the notation of a story. -/
def display (choice : Choice) : String :=
  let directives := choice.directives.map fun directive => " \x60" ++ directive ++ "\x60"
  let spaced (contents : List Content) : String :=
    String.join (contents.map fun content => " " ++ content.display)
  let effects := if choice.effects.isEmpty then "" else " ->" ++ spaced choice.effects
  "-" ++ String.join directives ++ spaced choice.preconditions ++ choice.target ++ effects

end Choice

/-- A named section of a story. -/
structure State where
  /-- The name, which is also the label of the section. -/
  name : String
  /-- What is shown and run on entering. -/
  body : List Content
  /-- The options offered at the end. -/
  choices : List Choice
  /-- The bytes of the section. -/
  span : Span
  deriving DecidableEq, Inhabited, Repr

/-- A story: its settings and its states in order. -/
structure Document where
  /-- The settings by name. -/
  settings : Table Json
  /-- The states. -/
  states : List State
  deriving Inhabited

/-- The first state with a name. -/
def Document.state? (document : Document) (name : String) : Option State :=
  document.states.find? fun state => state.name = name

end Gamebook.Story
