import Gamebook.Compile.Error
import Gamebook.Compile.Unescape

/-!
# Scripts

A document is laid out as a script: the instructions of its program in order, with the label
definitions, code fragments, label references and warnings between them.  The script is a function
of the document alone; what can go wrong is found when it is assembled.
-/

namespace Gamebook.Compile

open Story (Choice Content Document NoLink Settings State TextRun Whitespace)
open Text (Span)

/-- A step of a script. -/
inductive Step
  | emit (instruction : Instruction)
  /-- Define a label for the next instruction. -/
  | define (label : String) (span : Span)
  /-- Put in the instructions and labels of a code fragment. -/
  | splice (code : String) (span : Span)
  /-- Refuse a content that is no precondition. -/
  | refuse (span : Span)
  /-- Ask for a label to be defined somewhere. -/
  | refer (label : String) (span : Option Span)
  | warn (warning : Warning)

namespace Step

/-- Call a native. -/
def invoke (name : String) : Step := emit (.invoke name)

/-- Push a text. -/
def push (text : String) : Step := emit (.pushString text)

end Step

/-- The label between the body and the options of a state. -/
def optionsLabel (state : String) : String :=
  state ++ "__options"

/-- The key under which the context remembers that an option was chosen. -/
def onceFlag (index : Nat) : String :=
  "__once__" ++ toString index

/-! ## Content -/

/-- The text that a run emits. -/
def runText (settings : Settings) (run : TextRun) : String :=
  let text := if settings.retainsWhitespace then unescape run.raw else run.text
  run.style.mark text ++ if run.endsParagraph then "\n\n" else ""

/-- The steps of a content of a body or of effects. -/
def contentSteps (settings : Settings) (content : Content) : List Step :=
  match content with
  | .text run => [.push (runText settings run), .invoke "emit"]
  | .code code span => [.splice code span]
  | .fence _ code span => if content.isComment then [] else [.splice code span]

/-! ## Options -/

/-- The warnings about directives without a meaning. -/
def directiveWarnings (choice : Choice) : List Step :=
  (choice.directives.filter fun directive => directive ≠ Story.onceDirective).map fun directive =>
    .warn ⟨"unknown directive \x60" ++ directive ++ "\x60 ignored", some choice.span⟩

/-- The step of a precondition. -/
def preconditionStep (content : Content) : Step :=
  match content with
  | .code code span => .splice code span
  | other => .refuse other.span

/-- The warning about a title, if there is one. -/
def titleWarnings (choice : Choice) : List Step :=
  match choice.text with
  | some text =>
    if text.toList.contains '\x60' then
      [.warn ⟨"option text contains a backtick; inline code in option titles is not supported",
        some choice.span⟩]
    else []
  | none => [.warn ⟨"option has no text; offering it with an empty title", some choice.span⟩]

/-- The label that a link names. -/
def linkTarget (link : String) : String :=
  match link.toList with
  | '#' :: name => String.ofList name
  | _ => link

/-- The steps that leave the effects of an option. -/
def leaveSteps (settings : Settings) (state : String) (choice : Choice) : List Step :=
  match choice.link with
  | some link =>
    [.refer (linkTarget link) (some choice.span), .push (linkTarget link), .invoke "goto"]
  | none =>
    match settings.noLink with
    | .backToOptions => [.push (optionsLabel state), .invoke "goto"]
    | .exit => [.invoke "exit"]

/-- The steps of a block. -/
def block (steps : List Step) : List Step :=
  .emit .openBlock :: (steps ++ [.emit .closeBlock])

/-- The steps that make up the effects of an option; `flag` is the key that remembers it. -/
def effectSteps (settings : Settings) (state : String) (choice : Choice) (flag : Option String) :
    List Step :=
  let remember : List Step :=
    match flag with
    | some flag => [.emit (.pushNumber 1), .push flag, .invoke "setContext"]
    | none => []
  remember ++ choice.effects.flatMap (contentSteps settings) ++ leaveSteps settings state choice

/-- The steps that offer an option: its title and the offset of its effects, which start four
instructions after the one that tells the offset. -/
def offerSteps (settings : Settings) (state : String) (choice : Choice) (flag : Option String) :
    List Step :=
  titleWarnings choice ++
    [.push (choice.text.getD ""), .invoke "ppc", .emit (.pushNumber 4), .invoke "+"] ++
    block (effectSteps settings state choice flag) ++ [.invoke "response"]

/-- The steps that take other steps only if the preconditions hold. -/
def guardSteps (preconditions : List Content) (steps : List Step) : List Step :=
  if preconditions.isEmpty then steps
  else preconditions.map preconditionStep ++ .invoke "jgz" :: block steps

/-- The steps that take other steps only if a flag is not in the context. -/
def onceSteps (flag : Option String) (steps : List Step) : List Step :=
  match flag with
  | some flag => .push flag :: .invoke "hasContext" :: .invoke "jz" :: block steps
  | none => steps

/-- The steps of an option; `flag` is the key that remembers it. -/
def choiceSteps (settings : Settings) (state : String) (choice : Choice) (flag : Option String) :
    List Step :=
  directiveWarnings choice ++
    onceSteps flag (guardSteps choice.preconditions (offerSteps settings state choice flag))

/-- The steps of options; `index` of those that disappear came before. -/
def choicesSteps (settings : Settings) (state : String) (index : Nat) : List Choice → List Step
  | [] => []
  | choice :: rest =>
    if choice.isOnce then
      choiceSteps settings state choice (some (onceFlag index)) ++
        choicesSteps settings state (index + 1) rest
    else
      choiceSteps settings state choice none ++ choicesSteps settings state index rest

/-! ## Documents -/

/-- The steps of a state; `index` of the options that disappear came before. -/
def stateSteps (settings : Settings) (index : Nat) (state : State) : List Step :=
  .define state.name state.span :: state.body.flatMap (contentSteps settings) ++
    .define (optionsLabel state.name) state.span ::
      choicesSteps settings state.name index state.choices ++
    [.invoke "getResponse", .invoke "goto"]

/-- The number of options of a state that disappear. -/
def onceCount (state : State) : Nat :=
  state.choices.countP Choice.isOnce

/-- The steps of states; `index` of the options that disappear came before. -/
def statesSteps (settings : Settings) (index : Nat) : List State → List Step
  | [] => []
  | state :: rest =>
    stateSteps settings index state ++ statesSteps settings (index + onceCount state) rest

/-- The steps that set the context up and go to the state in which the story starts. -/
def preambleSteps (settings : Settings) : List Step :=
  let entry (entry : String × Value) : List Step :=
    [.emit (.push entry.2), .push entry.1, .invoke "setContext"]
  let goTo : List Step :=
    match settings.initialState with
    | some state => [.refer state none, .push state, .invoke "goto"]
    | none => []
  settings.initialContext.entries.flatMap entry ++ goTo

/-- The warning about an unknown treatment of white space. -/
def whitespaceWarnings (settings : Settings) : List Step :=
  match settings.whitespace with
  | .unknown mode =>
    [.warn ⟨"unknown whitespace mode \x60" ++ mode ++ "\x60, normalizing", none⟩]
  | _ => []

/-- The script of a document.  It ends in an exit, for flow that falls off the last state. -/
def script (settings : Settings) (document : Document) : List Step :=
  whitespaceWarnings settings ++ preambleSteps settings ++
    statesSteps settings 0 document.states ++ [.invoke "exit"]

end Gamebook.Compile
