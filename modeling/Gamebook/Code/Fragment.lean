import Gamebook.Code.Token
import Gamebook.Program.Basic

/-!
# Code fragments

A fragment of code is a list of instructions and the labels declared among them.  Label offsets
count from the fragment's first instruction.
-/

namespace Gamebook.Code

/-- The instructions and labels of a piece of code. -/
structure Fragment where
  /-- The instructions in order. -/
  instructions : List Instruction
  /-- The labels and the offsets of the instructions behind them. -/
  labels : Labels
  deriving DecidableEq

/-- The fragment without instructions. -/
def Fragment.empty : Fragment := ⟨[], Table.empty⟩

/-- Extend a fragment by one token. -/
def Fragment.add (fragment : Fragment) (token : Token) : Except LexError Fragment :=
  let push (instruction : Instruction) : Fragment :=
    { fragment with instructions := fragment.instructions ++ [instruction] }
  match token.kind with
  | .label name =>
    if fragment.labels.contains name then .error ⟨.duplicateLabel name, token.span⟩
    else
      .ok { fragment with labels := fragment.labels.insert name fragment.instructions.length }
  | .string value => .ok (push (.pushString value))
  | .int value => .ok (push (.pushNumber value.toUInt64.toFloat))
  | .identifier name => .ok (push (.ofWord name))

/-- The fragment of a list of tokens. -/
def Fragment.ofTokens (tokens : List Token) : Except LexError Fragment :=
  tokens.foldlM Fragment.add .empty

/-- The fragment that a text of code stands for. -/
def compile (code : String) : Except LexError Fragment := do
  Fragment.ofTokens (← tokenize code)

end Gamebook.Code
