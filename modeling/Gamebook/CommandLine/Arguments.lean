import Gamebook.Text.Digits

/-!
# Arguments

The first argument that is no option names the command; without a command's name there, the story is
played.  Options may stand anywhere among the arguments that follow.
-/

namespace Gamebook.CommandLine

/-- What to play, and how. -/
structure PlayArguments where
  /-- The file with the story or the snapshot. -/
  file : String
  /-- Where to write a snapshot of the loaded machine. -/
  output : Option String
  /-- Whether not to play. -/
  noRun : Bool
  /-- Whether only to tell that the file can be loaded. -/
  check : Bool
  /-- Whether to list the program. -/
  listing : Bool
  /-- Whether to list the states. -/
  listStates : Bool
  /-- The seed of the random number generator. -/
  seed : Option UInt64
  /-- Whether not to show what the story emits. -/
  quiet : Bool
  deriving DecidableEq

/-- Which trials to run, and how. -/
structure TestArguments where
  /-- A trial file, or the folder that holds them. -/
  path : String
  /-- The categories to run; all of them if none is given. -/
  categories : List String
  /-- Whether only to list the categories. -/
  listCategories : Bool
  /-- Whether words are colored. -/
  colored : Bool
  deriving DecidableEq

/-- A command with its arguments. -/
inductive Command
  | play (arguments : PlayArguments)
  | test (arguments : TestArguments)

/-- Why arguments are refused. -/
inductive UsageError
  | noCommand
  | unknownOption (text : String)
  | missingValue (option : String)
  | malformedValue (option value : String)
  | needlessValue (option : String)
  | missingArgument (name : String)
  | surplusArgument (text : String)
  deriving DecidableEq, Repr

/-- The message of an error. -/
def UsageError.message : UsageError → String
  | noCommand => "a command or a file is needed"
  | unknownOption text => "unknown option '" ++ text ++ "'"
  | missingValue option => "option '--" ++ option ++ "' needs a value"
  | malformedValue option value => "option '--" ++ option ++ "' cannot have the value '" ++ value ++ "'"
  | needlessValue option => "option '--" ++ option ++ "' takes no value"
  | missingArgument name => "argument <" ++ name ++ "> is needed"
  | surplusArgument text => "unexpected argument '" ++ text ++ "'"

/-! ## Options -/

/-- An option that a command takes. -/
structure OptionForm where
  /-- The name behind two hyphens. -/
  name : String
  /-- The letter behind one hyphen, if it has one. -/
  letter : Option Char
  /-- Whether a value belongs to it. -/
  takesValue : Bool
  deriving DecidableEq, Repr

/-- An argument, or an option with its value. -/
inductive Part
  | option (name value : String)
  | free (text : String)
  deriving DecidableEq, Repr

/-- Read letters behind one hyphen: the options among them, and the last one if its value is still
to come. -/
def readLetters (forms : List OptionForm) :
    List Char → Except UsageError (List Part × Option OptionForm)
  | [] => .ok ([], none)
  | letter :: rest =>
    match forms.find? fun form => form.letter = some letter with
    | none => .error (.unknownOption (String.ofList ['-', letter]))
    | some form =>
      if form.takesValue then
        match rest with
        | [] => .ok ([], some form)
        | '=' :: value => .ok ([.option form.name (String.ofList value)], none)
        | value => .ok ([.option form.name (String.ofList value)], none)
      else do
        let (others, pending) ← readLetters forms rest
        return (.option form.name "" :: others, pending)

/-- Read what stands behind two hyphens: the option, or one whose value is still to come. -/
def readName (forms : List OptionForm) (text : List Char) :
    Except UsageError (List Part × Option OptionForm) :=
  let name := String.ofList (text.takeWhile (· ≠ '='))
  match forms.find? fun form => form.name = name, text.dropWhile (· ≠ '=') with
  | none, _ => .error (.unknownOption ("--" ++ name))
  | some form, [] =>
    if form.takesValue then .ok ([], some form) else .ok ([.option form.name ""], none)
  | some form, _ :: value =>
    if form.takesValue then .ok ([.option form.name (String.ofList value)], none)
    else .error (.needlessValue form.name)

/-- Read the parts of arguments.  Two hyphens alone end the options. -/
def readParts (forms : List OptionForm) : List String → Except UsageError (List Part)
  | [] => .ok []
  | argument :: rest => do
    let (found, pending) ←
      match argument.toList with
      | ['-', '-'] => return rest.map .free
      | '-' :: '-' :: name => readName forms name
      | '-' :: letter :: letters => readLetters forms (letter :: letters)
      | _ => .ok ([.free argument], none)
    match pending, rest with
    | none, rest => return found ++ (← readParts forms rest)
    | some form, value :: rest => return found ++ .option form.name value :: (← readParts forms rest)
    | some form, [] => throw (.missingValue form.name)

/-- The values of an option. -/
def valuesOf (name : String) (parts : List Part) : List String :=
  parts.filterMap fun
    | .option other value => if other = name then some value else none
    | .free _ => none

/-- Whether an option is given. -/
def isGiven (name : String) (parts : List Part) : Bool :=
  !(valuesOf name parts).isEmpty

/-- The only argument that is no option. -/
def theArgument (name : String) (parts : List Part) : Except UsageError String :=
  let free := parts.filterMap fun
    | .free text => some text
    | .option _ _ => none
  match free with
  | [] => .error (.missingArgument name)
  | [text] => .ok text
  | _ :: text :: _ => .error (.surplusArgument text)

/-! ## Commands -/

/-- The option that every command takes. -/
def noColor : OptionForm := ⟨"no-color", none, false⟩

/-- The options of playing. -/
def playForms : List OptionForm :=
  [noColor, ⟨"output", some 'o', true⟩, ⟨"no-run", none, false⟩, ⟨"check", none, false⟩,
    ⟨"listing", none, false⟩, ⟨"list-states", none, false⟩, ⟨"seed", none, true⟩,
    ⟨"quiet", some 'q', false⟩]

/-- The options of running trials. -/
def testForms : List OptionForm :=
  [noColor, ⟨"category", some 'c', true⟩, ⟨"list-categories", none, false⟩]

/-- Read the seed among the parts of arguments. -/
def readSeed (parts : List Part) : Except UsageError (Option UInt64) :=
  match valuesOf "seed" parts with
  | [] => .ok none
  | value :: _ =>
    match Text.readWord? value with
    | some seed => .ok (some seed.toUInt64)
    | none => .error (.malformedValue "seed" value)

/-- Read the arguments of playing. -/
def PlayArguments.read (arguments : List String) : Except UsageError PlayArguments := do
  let parts ← readParts playForms arguments
  let file ← theArgument "FILE" parts
  let seed ← readSeed parts
  return {
    file, seed
    output := (valuesOf "output" parts).head?
    noRun := isGiven "no-run" parts
    check := isGiven "check" parts
    listing := isGiven "listing" parts
    listStates := isGiven "list-states" parts
    quiet := isGiven "quiet" parts }

/-- Read the arguments of running trials. -/
def TestArguments.read (arguments : List String) : Except UsageError TestArguments := do
  let parts ← readParts testForms arguments
  return {
    path := ← theArgument "PATH" parts
    categories := valuesOf "category" parts
    listCategories := isGiven "list-categories" parts
    colored := !isGiven noColor.name parts }

/-- Whether an argument looks like an option. -/
def looksLikeOption (argument : String) : Bool :=
  argument.toList.head? = some '-'

/-- Read a command with its arguments. -/
def Command.read (arguments : List String) : Except UsageError Command :=
  let front := arguments.takeWhile looksLikeOption
  match arguments.dropWhile looksLikeOption with
  | [] => .error .noCommand
  | "test" :: rest => .test <$> TestArguments.read (front ++ rest)
  | "run" :: rest => .play <$> PlayArguments.read (front ++ rest)
  | rest => .play <$> PlayArguments.read (front ++ rest)

end Gamebook.CommandLine
