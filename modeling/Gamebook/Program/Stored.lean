import Gamebook.Json.Reader
import Gamebook.Json.Record
import Gamebook.Program.Instruction

/-!
# Stored instructions

The form in which instructions are kept as data.  An instruction is a record with its type first;
braces are stored as calls of natives with the names of the braces, and are recognized on reading.
-/

namespace Gamebook.Instruction

/-- The type of instructions that push a number. -/
def numberType : String := "push-number-instruction"

/-- The type of instructions that push a text. -/
def stringType : String := "push-string-instruction"

/-- The type of instructions that call a native. -/
def invokeType : String := "invoke-function-instruction"

/-- The record of a type with one field. -/
def typed (type key : String) (value : Json) : Json :=
  .object [("type", .string type), (key, value)]

/-- An instruction as data. -/
def toJson : Instruction → Json
  | pushNumber value => typed numberType "value" (.number (.float value))
  | pushString value => typed stringType "value" (.string value)
  | invoke name => typed invokeType "functionName" (.string name)
  | openBlock => typed invokeType "functionName" (.string openText)
  | closeBlock => typed invokeType "functionName" (.string closeText)

/-- The key of the field that a type has. -/
def fieldKey? (type : String) : Option String :=
  if type = numberType || type = stringType then some "value"
  else if type = invokeType then some "functionName"
  else none

/-- The instruction of a type and the value of its field. -/
def ofField? (type : String) : Json → Option Instruction
  | .number value => if type = numberType then some (pushNumber value.toFloat) else none
  | .string value =>
    if type = stringType then some (pushString value)
    else if type = invokeType then some (ofWord value)
    else none
  | _ => none

/-- The instruction that data stands for. -/
def ofJson? : Json → Option Instruction
  | .object members => do
    let type ← (← Json.field? members "type").bind Json.asString?
    let key ← fieldKey? type
    ofField? type (← (← Json.field? members key))
  | .array [.string type, value] => ofField? type value
  | _ => none

/-- The text of a list of instructions. -/
def storedText (instructions : List Instruction) : String :=
  (Json.array (instructions.map toJson)).compact

/-- Read a list of instructions. -/
def readStored (text : String) : Option (List Instruction) := do
  let json ← Json.read text
  Json.asList? ofJson? json

end Gamebook.Instruction
