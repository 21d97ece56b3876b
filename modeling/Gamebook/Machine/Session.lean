import Gamebook.Machine.Run

/-!
# Sessions

A session plays a machine to its end: it runs, asks for a choice whenever the machine waits, and goes
on with the answer.  Whatever ends the asking ends the machine too.
-/

namespace Gamebook

/-- Why no choice was made. -/
inductive ResolveError
  /-- The choice was cancelled. -/
  | cancelled
  /-- Asking failed. -/
  | failed (reason : String)
  /-- The answer is not among the options on offer. -/
  | unknownChoice (id : Nat)
  deriving DecidableEq, Repr

namespace ResolveError

/-- The message of an error. -/
def message : ResolveError → String
  | cancelled => "choice was cancelled"
  | failed reason => "choice resolution failed: " ++ reason
  | unknownChoice id => "choice " ++ toString id ++ " is not among the offered choices"

/-- Whether the choice was cancelled on purpose. -/
def isCancellation : ResolveError → Bool
  | cancelled => true
  | _ => false

end ResolveError

/-- The answer to the question which option is chosen. -/
inductive Answer
  | pick (id : Nat)
  | refuse (error : ResolveError)
  /-- No answer ever comes, and the question is dropped. -/
  | never
  deriving DecidableEq, Repr

/-- How a session ends. -/
inductive Ending
  | completed
  /-- No choice was made. -/
  | aborted (error : ResolveError)
  /-- An instruction failed. -/
  | failed (error : RuntimeError)
  /-- The question was dropped. -/
  | dropped
  /-- The program takes more ticks than it may. -/
  | unfinished
  deriving DecidableEq

namespace Machine

/-- The ticks and the questions after which a run is given up; no story needs as many. -/
def patience : Nat := 1000000000000000

variable {m : Type → Type} [Monad m]

/-- Go on from the result of a run: ask as long as the machine waits, at most `rounds` times, each
time with `limit` ticks to the next stop. -/
def playFrom (choose : Machine → List OfferedChoice → m (Machine × Answer)) (limit : Nat) :
    Nat → Machine → RunResult → m (Machine × Ending)
  | _, machine, none => pure (machine, .unfinished)
  | _, machine, some (.error error) => pure (machine, .failed error)
  | _, machine, some (.ok .completed) => pure (machine, .completed)
  | 0, machine, some (.ok (.suspended _)) => pure (machine, .unfinished)
  | rounds + 1, machine, some (.ok (.suspended choices)) => do
    match ← choose machine choices with
    | (machine, .never) => pure (machine.terminate, .dropped)
    | (machine, .refuse error) => pure (machine.terminate, .aborted error)
    | (machine, .pick id) =>
      match machine.resume limit id with
      | (machine, some (.error (.unresolvedChoice id))) =>
        pure (machine.terminate, .aborted (.unknownChoice id))
      | (machine, some (.error error)) => pure (machine.terminate, .failed error)
      | (machine, result) => playFrom choose limit rounds machine result

/-- Play a machine to its end. -/
def play (choose : Machine → List OfferedChoice → m (Machine × Answer)) (limit rounds : Nat)
    (machine : Machine) : m (Machine × Ending) :=
  let (machine, result) := machine.run limit
  playFrom choose limit rounds machine result

end Machine

end Gamebook
