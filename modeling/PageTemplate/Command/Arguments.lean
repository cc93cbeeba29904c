import PageTemplate.File.Path

/-!
# Command lines

There are two commands that do something: `render` with the name of a template and options, and
`tokens` with the path of a source. Options with a value are written `--data F`, `--data=F`, `-d F`,
`-dF` or `-d=F`; letters of options may be put together behind one hyphen, and after `--` nothing is
an option.

`--help` may be given to the program and to either command, `--version` to the program, and `help`
is a command as well. Where one of the two options is met, what comes after it does not count, but
what is wrong before it does.

## Main definitions

* `PageTemplate.Command.Parameter`, `PageTemplate.Command.Flag` — the options with and without a
  value.
* `PageTemplate.Command.step`, `PageTemplate.Command.readWords` — what one word and all the words of
  a command line say.
* `PageTemplate.Command` — what to do; `PageTemplate.Command.ofArgs` — what a command line asks for.
-/

namespace PageTemplate

namespace Command

/-- The options that take a value. -/
inductive Parameter where
  | data
  | set
  | config
  | root
  | output
deriving DecidableEq

namespace Parameter

/-- The name of the option after two hyphens. -/
def name : Parameter → Text
  | data => "data"
  | set => "set"
  | config => "config"
  | root => "root"
  | output => "output"

/-- The letter of the option after one hyphen. -/
def letter? : Parameter → Option Char
  | data => some 'd'
  | set => none
  | config => some 'c'
  | root => some 'r'
  | output => some 'o'

end Parameter

/-- The options that take no value. -/
inductive Flag where
  | verbose
  | help
  | version
deriving DecidableEq

namespace Flag

/-- The name of the option after two hyphens. -/
def name : Flag → Text
  | verbose => "verbose"
  | help => "help"
  | version => "version"

/-- The letter of the option after one hyphen. -/
def letter : Flag → Char
  | verbose => 'v'
  | help => 'h'
  | version => 'V'

end Flag

/-- The options that are known in a part of a command line. -/
structure Options where
  flags : List Flag
  parameters : List Parameter

namespace Options

/-- The options before the name of a command. -/
def program : Options := ⟨[.verbose, .help, .version], []⟩

/-- The options of `render`. -/
def render : Options := ⟨[.verbose, .help], [.data, .set, .config, .root, .output]⟩

/-- The options of `tokens`. -/
def tokens : Options := ⟨[.verbose, .help], []⟩

end Options

/-- Why a command line asks for nothing that can be done. -/
inductive UsageFault where
  | missingCommand
  | unknownCommand (name : Text)
  | unknownOption (word : Text)
  | missingValue (word : Text)
  | unwantedValue (word : Text)
  | emptyValue (name : Text)
  | repeated (name : Text)
  | missingArgument (name : Text)
  | unexpectedArgument (word : Text)
deriving DecidableEq

/-- The wording of a fault. -/
def UsageFault.message : UsageFault → Text
  | missingCommand => "a command is required: render or tokens"
  | unknownCommand name => "unknown command " ++ name
  | unknownOption word => "unknown option " ++ word
  | missingValue word => "a value is required after " ++ word
  | unwantedValue word => "no value is taken by " ++ word
  | emptyValue name => "an empty value is given for " ++ name
  | repeated name => name ++ " is given more than once"
  | missingArgument name => "an argument is required: " ++ name
  | unexpectedArgument word => "unexpected argument " ++ word

/-! ### The words of a command line -/

/-- One thing that is said by the words of a command line. -/
inductive Item where
  | flag (f : Flag)
  | value (p : Parameter) (text : Text)
  | argument (word : Text)
deriving DecidableEq

/-- How the next word is read: as an option or an argument, as the value of an option that is given
by the word before it, as an argument only, or not at all. -/
inductive Mode where
  | option
  | value (p : Parameter) (word : Text)
  | argument
  | ignored

/-- How the word after a flag is read. -/
def Flag.mode : Flag → Mode
  | verbose => .option
  | help => .ignored
  | version => .ignored

/-- Reads letters behind one hyphen. A letter of an option with a value takes the rest of the word
as its value, an equals sign between them left out, or else the next word. -/
def readLetters (known : Options) (word : Text) : Text → Except UsageFault (List Item × Mode)
  | [] => .ok ([], .option)
  | c :: rest =>
    match known.flags.find? fun f => f.letter == c with
    | some .verbose => do
      let (items, mode) ← readLetters known word rest
      return (.flag .verbose :: items, mode)
    | some f => .ok ([.flag f], f.mode)
    | none =>
      match known.parameters.find? fun p => p.letter? == some c with
      | none => .error (.unknownOption word)
      | some p =>
        match rest with
        | [] => .ok ([], .value p word)
        | '=' :: value => .ok ([.value p value], .option)
        | value => .ok ([.value p value], .option)

/-- A name, with a value if there is an equals sign. -/
def splitName (text : Text) : Text × Option Text :=
  match Text.cutWhere? (· == '=') text with
  | some (name, value) => (name, some value)
  | none => (text, none)

/-- Reads a name behind two hyphens, with a value after an equals sign or else in the next word. -/
def readName (known : Options) (word text : Text) : Except UsageFault (List Item × Mode) :=
  let (name, value) := splitName text
  match known.flags.find? fun f => f.name == name with
  | some f => if value.isSome then .error (.unwantedValue word) else .ok ([.flag f], f.mode)
  | none =>
    match known.parameters.find? fun p => p.name == name with
    | none => .error (.unknownOption word)
    | some p =>
      match value with
      | some value => .ok ([.value p value], .option)
      | none => .ok ([], .value p word)

/-- How a word is written: with nothing that makes it an option, as two hyphens alone, as a name
behind two hyphens, or as letters behind one hyphen. -/
inductive Form where
  | plain
  | hyphens
  | name (text : Text)
  | letters (letters : Text)

/-- The form of a word. -/
def formOf : Text → Form
  | ['-', '-'] => .hyphens
  | '-' :: '-' :: text => .name text
  | '-' :: c :: letters => .letters (c :: letters)
  | _ => .plain

/-- Whether a word is an option: a hyphen with something behind it. -/
def isOption : Text → Bool
  | '-' :: _ :: _ => true
  | _ => false

/-- What a word says, and how the next one is read. The value of an option is no option itself. -/
def step (known : Options) : Mode → Text → Except UsageFault (List Item × Mode)
  | .ignored, _ => .ok ([], .ignored)
  | .argument, word => .ok ([.argument word], .argument)
  | .value p asking, word =>
    if isOption word then .error (.missingValue asking) else .ok ([.value p word], .option)
  | .option, word =>
    match formOf word with
    | .plain => .ok ([.argument word], .option)
    | .hyphens => .ok ([], .argument)
    | .name text => readName known word text
    | .letters letters => readLetters known word letters

/-- What words say. -/
def readWords (known : Options) : Mode → List Text → Except UsageFault (List Item)
  | .value _ asking, [] => .error (.missingValue asking)
  | _, [] => .ok []
  | mode, word :: rest => do
    let (items, mode) ← step known mode word
    return items ++ (← readWords known mode rest)

/-! ### Commands -/

/-- What `render` is asked to do. -/
structure RenderOptions where
  template : Text
  data : Option FilePath
  assignments : List Text
  config : Option FilePath
  root : Option FilePath
  output : Option FilePath
deriving DecidableEq

/-- What there is help on: the program and its commands. -/
inductive Topic where
  | program
  | render
  | tokens
  | help
deriving DecidableEq

/-- The command of a name. -/
def Topic.ofName? (name : Text) : Option Topic :=
  if name = "render" then some .render
  else if name = "tokens" then some .tokens
  else if name = "help" then some .help
  else none

end Command

/-- What a command line asks for. -/
inductive Command where
  | render (options : Command.RenderOptions)
  | tokens (file : FilePath)
  | help (topic : Command.Topic)
  | version
deriving DecidableEq

namespace Command

/-- The values of an option in order. -/
def valuesOf (p : Parameter) (items : List Item) : List Text :=
  items.filterMap fun
    | .value q text => if q = p then some text else none
    | _ => none

/-- The arguments in order. -/
def argumentsOf (items : List Item) : List Text :=
  items.filterMap fun
    | .argument word => some word
    | _ => none

/-- The argument, of which there is at most one. -/
def argument? (items : List Item) : Except UsageFault (Option Text) :=
  match argumentsOf items with
  | [] => .ok none
  | [argument] => .ok (some argument)
  | _ :: extra :: _ => .error (.unexpectedArgument extra)

/-- The path that is given for an option, if it is given. -/
def path? (items : List Item) (p : Parameter) : Except UsageFault (Option FilePath) :=
  match valuesOf p items with
  | [] => .ok none
  | [value] => if value.isEmpty then .error (.emptyValue p.name) else .ok (some ⟨value⟩)
  | _ => .error (.repeated p.name)

/-- What words say, among which `--verbose` is at most once. -/
def itemsOf (known : Options) (words : List Text) : Except UsageFault (List Item) := do
  let items ← readWords known .option words
  if items.count (.flag .verbose) > 1 then throw (.repeated "verbose")
  return items

/-- The command `render` with its words. -/
def ofRenderArgs (args : List Text) : Except UsageFault Command := do
  let items ← itemsOf .render args
  let template ← argument? items
  let data ← path? items .data
  let config ← path? items .config
  let root ← path? items .root
  let output ← path? items .output
  if items.contains (.flag .help) then return .help .render
  let some template := template | throw (.missingArgument "TEMPLATE")
  return .render { template, data, assignments := valuesOf .set items, config, root, output }

/-- The command `tokens` with its words. -/
def ofTokensArgs (args : List Text) : Except UsageFault Command := do
  let items ← itemsOf .tokens args
  let file ← argument? items
  if file = some [] then throw (.emptyValue "FILE")
  if items.contains (.flag .help) then return .help .tokens
  let some file := file | throw (.missingArgument "FILE")
  return .tokens ⟨file⟩

/-- The command `help` with its words, at most the name of a command. -/
def ofHelpArgs : List Text → Except UsageFault Command
  | [] => .ok (.help .program)
  | name :: rest =>
    match Topic.ofName? name, rest with
    | none, _ => .error (.unknownCommand name)
    | some topic, [] => .ok (.help topic)
    | some _, extra :: _ => .error (.unknownCommand extra)

/-- The command that a command line asks for. Before its name there may be options of the program
only. -/
def ofArgs (args : List Text) : Except UsageFault Command := do
  let options := args.takeWhile isOption
  let items ← itemsOf .program options
  if items.contains (.flag .help) then return .help .program
  if items.contains (.flag .version) then return .version
  match args.dropWhile isOption with
  | [] => throw .missingCommand
  | name :: rest =>
    if options.contains ['-', '-'] then throw (.unexpectedArgument name)
    match Topic.ofName? name with
    | some .render => ofRenderArgs rest
    | some .tokens => ofTokensArgs rest
    | some .help => ofHelpArgs rest
    | _ => throw (.unknownCommand name)

end Command

end PageTemplate
