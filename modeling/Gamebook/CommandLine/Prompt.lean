import Gamebook.CommandLine.Host
import Gamebook.Machine.Session
import Gamebook.Text.Blank
import Gamebook.Text.Digits

/-!
# The prompt

Options are offered as a numbered list.  An answer is a number of the list or a title, and an answer
that is neither is asked for again.
-/

namespace Gamebook.CommandLine

/-- Whether two texts are equal up to the case of ASCII letters. -/
def sameLetters (left right : String) : Bool :=
  left.toList.map Char.toLower = right.toList.map Char.toLower

/-- The option that a line of input chooses: the number of its place, from one, or its title.  A line
that reads as a number never counts as a title. -/
def selection? (choices : List OfferedChoice) (line : String) : Option Nat :=
  let typed := Text.trim line
  match Text.readWord? typed with
  | some 0 => none
  | some (place + 1) => choices[place]?.map OfferedChoice.id
  | none =>
    if typed.isEmpty then none
    else (choices.find? fun choice => sameLetters choice.title typed).map OfferedChoice.id

/-- The lines of the list, the first option having the number `place`. -/
def listLines : (place : Nat) → List OfferedChoice → List String
  | _, [] => []
  | place, choice :: rest =>
    ("  " ++ toString place ++ ") " ++ choice.title) :: listLines (place + 1) rest

variable {m : Type → Type} [Monad m]

/-- Ask for a line until it chooses an option, at most so many times.  The end of the input refuses
the choice. -/
def askWithin (host : Host m) (choices : List OfferedChoice) : (tries : Nat) → m Answer
  | 0 => pure .never
  | tries + 1 => do
    host.report "> "
    match ← host.readLine with
    | none => return .refuse .cancelled
    | some line =>
      match selection? choices line with
      | some id => return .pick id
      | none => do
        host.reportLine ("pick a number between 1 and " ++ toString choices.length)
        askWithin host choices tries

/-- Offer options and ask for one. -/
def ask (host : Host m) (choices : List OfferedChoice) : m Answer := do
  host.reportLine ""
  (listLines 1 choices).forM host.reportLine
  askWithin host choices Machine.patience

end Gamebook.CommandLine
