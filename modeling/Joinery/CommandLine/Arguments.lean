import Joinery.Dialect

/-!
# Arguments

What the arguments of the program ask for. `Invocation.ofArguments` reads them from the left to the
right: an option takes the argument behind it if it needs a value, a name begins a command, and after
`--` nothing is an option any more. Help and the version are given as soon as they are asked for.
-/

namespace Joinery.CommandLine

/-- The commands of the program. -/
inductive CommandName
  | compile
  | path
  | links
  deriving DecidableEq

namespace CommandName

def text : CommandName → String
  | compile => "compile"
  | path => "path"
  | links => "links"

/-- The command with a name. -/
def ofText? (text : String) : Option CommandName :=
  [compile, path, links].find? (·.text = text)

end CommandName

/-- The options of the program and of its commands. -/
inductive OptionName
  | links
  | request
  | dialect
  | schema
  | json
  | help
  | version
  deriving DecidableEq

namespace OptionName

def all : List OptionName :=
  [links, request, dialect, schema, json, help, version]

/-- The name behind two dashes. -/
def text : OptionName → String
  | links => "links"
  | request => "request"
  | dialect => "dialect"
  | schema => "schema"
  | json => "json"
  | help => "help"
  | version => "version"

/-- The letter behind one dash. -/
def letter? : OptionName → Option Char
  | links => some 'l'
  | request => some 'r'
  | dialect => some 'd'
  | schema => some 's'
  | json => none
  | help => some 'h'
  | version => some 'V'

/-- The option needs a value. -/
def takesValue : OptionName → Bool
  | links | request | dialect | schema => true
  | json | help | version => false

end OptionName

/-- The part of the arguments that an argument is in. -/
inductive Level
  /-- In front of any command. -/
  | start
  | command (name : CommandName)
  /-- After the word `help`, and possibly after what help is wanted on. -/
  | help (topic : Option String)
  deriving DecidableEq

/-- An option can be given at a level. -/
def Level.accepts : Level → OptionName → Bool
  | start, .links | start, .help | start, .version => true
  | command _, .links | command _, .help => true
  | command .compile, .request | command .compile, .dialect | command .compile, .schema
  | command .compile, .json => true
  | _, _ => false

/-! ## Single arguments -/

/-- What an argument looks like. -/
inductive Argument
  | plain (text : String)
  /-- Two dashes alone. -/
  | dashes
  /-- Two dashes with a name, and what follows an equality sign behind it. -/
  | long (name : String) (value : Option String)
  /-- One dash with a letter, and what follows it. -/
  | short (letter : Char) (value : Option String)
  deriving DecidableEq

/-- What follows an equality sign, if there is one. -/
def afterEquals (cs : List Char) : Option String :=
  match cs.dropWhile (· ≠ '=') with
  | [] => none
  | _ :: rest => some (String.ofList rest)

/-- The value in what follows the letter of an option. -/
def attachedValue : List Char → Option String
  | [] => none
  | '=' :: rest => some (String.ofList rest)
  | cs => some (String.ofList cs)

/-- Tells what an argument looks like. A dash alone is plain. -/
def Argument.ofText (text : String) : Argument :=
  match text.toList with
  | ['-', '-'] => dashes
  | '-' :: '-' :: cs => long (String.ofList (cs.takeWhile (· ≠ '='))) (afterEquals cs)
  | '-' :: c :: cs => short c (attachedValue cs)
  | _ => plain text

/-! ## Faults -/

/-- Why arguments cannot be used. -/
inductive UsageFault
  | noCommand
  | unknownCommand (name : String)
  | unknownOption (argument : String)
  | unexpectedArgument (argument : String)
  | repeated (option : OptionName)
  | missingValue (option : OptionName)
  /-- A value where none is taken. -/
  | unexpectedValue (option : OptionName)
  | badDialect (value : String)
  | missingRequest
  | missingTables
  deriving DecidableEq

def UsageFault.message : UsageFault → String
  | noCommand => "a command is required"
  | unknownCommand name => s!"unrecognized command '{name}'"
  | unknownOption argument | unexpectedArgument argument => s!"unexpected argument '{argument}'"
  | repeated option => s!"the option '--{option.text}' cannot be used multiple times"
  | missingValue option => s!"a value is required for '--{option.text}'"
  | unexpectedValue option => s!"the option '--{option.text}' takes no value"
  | badDialect value => s!"invalid dialect '{value}' (expected postgres, duckdb, mysql or tsql)"
  | missingRequest => "the option '--request' is required"
  | missingTables => "the names of tables are required"

/-- Why reading ends before anything is run. -/
inductive Stop
  | usage (fault : UsageFault)
  | help
  | version
  deriving DecidableEq

/-! ## Reading -/

/-- What was given at one level. -/
structure Given where
  links : Option String := none
  request : Option String := none
  dialect : Option Dialect := none
  schema : Option String := none
  json : Bool := false
  tables : List String := []
  deriving DecidableEq

namespace Given

/-- The value of an option that can be given once. -/
def once {α : Type} (option : OptionName) (old : Option α) (new : α) : Except UsageFault (Option α) :=
  if old.isSome then .error (.repeated option) else .ok (some new)

/-- The path of a file, which cannot be empty. -/
def file (option : OptionName) (value : String) : Except UsageFault String :=
  if value = "" then .error (.missingValue option) else .ok value

/-- A dialect by its name. -/
def dialectOf (value : String) : Except UsageFault Dialect :=
  match Dialect.all.find? (·.name = value) with
  | some d => .ok d
  | none => .error (.badDialect value)

/-- Adds an option with its value. -/
def withValue (g : Given) (option : OptionName) (value : String) : Except UsageFault Given := do
  match option with
  | .links => return { g with links := ← once option g.links (← file option value) }
  | .request => return { g with request := ← once option g.request (← file option value) }
  | .dialect => return { g with dialect := ← once option g.dialect (← dialectOf value) }
  | .schema => return { g with schema := ← once option g.schema value }
  | .json | .help | .version => throw (.unexpectedValue option)

end Given

/-- What was read of the arguments. -/
structure Progress where
  level : Level := .start
  /-- The links that were given in front of the command. -/
  links : Option String := none
  given : Given := { }
  /-- An option that waits for its value. -/
  pending : Option OptionName := none
  /-- Nothing is an option any more. -/
  isPlain : Bool := false
  deriving DecidableEq

namespace Progress

/-- Adds an option with its value. -/
def withValue (p : Progress) (option : OptionName) (value : String) : Except Stop Progress := do
  let given ← (p.given.withValue option value).mapError .usage
  return { p with given, pending := none }

/-- Reads an argument that is no option. -/
def readPlain (p : Progress) (text : String) : Except Stop Progress :=
  match p.level with
  | .start =>
    if p.isPlain then throw (.usage (.unexpectedArgument text))
    else
      match CommandName.ofText? text with
      | some name => return { level := .command name, links := p.given.links }
      | none =>
        if text = "help" then return { level := .help none }
        else throw (.usage (.unknownCommand text))
  | .command .path => return { p with given := { p.given with tables := p.given.tables ++ [text] } }
  | .command _ => throw (.usage (.unexpectedArgument text))
  | .help none =>
    if text = "help" ∨ (CommandName.ofText? text).isSome then
      return { level := .help (some text) }
    else throw (.usage (.unknownCommand text))
  | .help (some _) => throw (.usage (.unknownCommand text))

/-- Reads an option. -/
def readOption (p : Progress) (option : OptionName) (value : Option String) : Except Stop Progress :=
  if option.takesValue then
    match value with
    | some value => p.withValue option value
    | none => return { p with pending := some option }
  else if value.isSome then throw (.usage (.unexpectedValue option))
  else
    match option with
    | .json =>
      if p.given.json then throw (.usage (.repeated option))
      else return { p with given := { p.given with json := true } }
    | .version => throw .version
    | _ => throw .help

/-- The option that passes a test and can be given here. -/
def option? (p : Progress) (test : OptionName → Bool) : Option OptionName :=
  OptionName.all.find? fun option => p.level.accepts option && test option

/-- Reads an option that passes a test and is written out. -/
def readNamed (p : Progress) (text : String) (test : OptionName → Bool) (value : Option String) :
    Except Stop Progress :=
  match p.option? test with
  | some option => p.readOption option value
  | none => throw (.usage (.unknownOption text))

/-- Reads an option that is written as a letter. Further letters can stand behind one without a value,
but these options end the reading. -/
def readLetter (p : Progress) (text : String) (letter : Char) (value : Option String) :
    Except Stop Progress :=
  match p.option? (·.letter? = some letter) with
  | some option => p.readOption option (if option.takesValue then value else none)
  | none => throw (.usage (.unknownOption text))

/-- Reads an argument. -/
def read (p : Progress) (text : String) : Except Stop Progress :=
  if p.isPlain ∨ p.level matches .help _ then p.readPlain text
  else
    match Argument.ofText text, p.pending with
    | .plain text, some option => p.withValue option text
    | _, some option => throw (.usage (.missingValue option))
    | .plain text, none => p.readPlain text
    | .dashes, none => return { p with isPlain := true }
    | .long name value, none => p.readNamed text (·.text = name) value
    | .short letter value, none => p.readLetter text letter value

end Progress

/-! ## Invocations -/

/-- A command with what it needs. -/
inductive Command
  | compile (request : String) (dialect : Option Dialect) (schema : Option String) (asJson : Bool)
  | path (tables : List String)
  | links
  deriving DecidableEq

/-- What the program is asked for. -/
structure Invocation where
  /-- The file with the links, if it is not the one that the settings name. -/
  links : Option String
  command : Command
  deriving DecidableEq

/-- The command at a level. -/
def Given.command (g : Given) : CommandName → Except UsageFault Command
  | .compile =>
    match g.request with
    | some request => .ok (.compile request g.dialect g.schema g.json)
    | none => .error .missingRequest
  | .path => if g.tables.isEmpty then .error .missingTables else .ok (.path g.tables)
  | .links => .ok .links

/-- What all the arguments ask for. The links that are given for a command win. -/
def Progress.finish (p : Progress) : Except Stop Invocation :=
  match p.level, p.pending with
  | .help _, _ => throw .help
  | _, some option => throw (.usage (.missingValue option))
  | .start, none => throw (.usage .noCommand)
  | .command name, none => do
    let command ← (p.given.command name).mapError .usage
    return { links := p.given.links <|> p.links, command }

/-- Reads the arguments of the program. -/
def Invocation.ofArguments (arguments : List String) : Except Stop Invocation :=
  arguments.foldlM Progress.read { } >>= Progress.finish

end Joinery.CommandLine
