import Gamebook.Json.Printer
import Gamebook.Text.Quoted

/-!
# Values

Stories compute with floating-point numbers and texts.  There are no truth values: a condition is a
number, and comparisons give one or zero.
-/

namespace Gamebook

/-- A value on the stack or in the context of a story. -/
inductive Value
  | number (value : Float)
  | string (value : String)
  deriving DecidableEq

namespace Value

instance : Inhabited Value := ⟨number 0⟩

/-- What kind of value it is, in words. -/
def kind : Value → String
  | number _ => "number"
  | string _ => "string"

/-- The number, if it is one. -/
def number? : Value → Option Float
  | number value => some value
  | string _ => none

/-- The text, if it is one. -/
def string? : Value → Option String
  | number _ => none
  | string value => some value

/-- One for true and zero for false. -/
def flag (condition : Bool) : Value :=
  number (if condition then 1 else 0)

/-- The nearest number to an offset of machine size. -/
def ofOffset (offset : Nat) : Value :=
  number offset.toUInt64.toFloat

/-- Whether two values are equal as values: numbers are compared as numbers, so a value that is not a
number equals none, and both zeros are equal. -/
def equals : Value → Value → Bool
  | number left, number right => left == right
  | string left, string right => left = right
  | _, _ => false

/-- The text that a story shows. -/
def display : Value → String
  | number value => Decimal.display value
  | string value => value

/-- The text that tells kind and content. -/
def inspect : Value → String
  | number value => "Number(" ++ Decimal.Layout.inspect.render value ++ ")"
  | string value => "String(" ++ Text.quote value ++ ")"

/-- The value as data. -/
def toJson : Value → Json
  | number value => .number (.float value)
  | string value => .string value

/-- The value that data stands for: a number or a text. -/
def ofJson? : Json → Option Value
  | .number value => some (number value.toFloat)
  | .string value => some (string value)
  | _ => none

end Value

end Gamebook
