/-
Settings/Arguments.lean

The arguments of the command line.  Options stand before the command; the
first argument that is neither an option nor a command is the file.  After
the command only its own operands follow.  An argument that starts with a
dash is an option unless it stands after two dashes alone.
-/
import Settings.Value

namespace Settings

/-- What is to be done. -/
inductive Command where
  /-- List all categories and properties. -/
  | list
  /-- Find properties by their texts. -/
  | search (words : List String)
  /-- Change a property and save. -/
  | set (field text : String)
  /-- Put all properties back to their defaults and save. -/
  | reset
  /-- List the schemas. -/
  | schemas
deriving DecidableEq

/-- The options, where they are given. -/
structure Options where
  config : Option String
  schemaDirectory : Option String
  schema : Option String
  language : Option String
  enforced : Option String
deriving DecidableEq

/-- A command with everything that it needs to know. -/
structure Request where
  config : String
  schemaDirectory : String
  schema : String
  language : String
  enforced : Option String
  command : Command
deriving DecidableEq

/-- What the arguments ask for. -/
inductive Invocation where
  | run (request : Request)
  | version
  | help
  | misuse
deriving DecidableEq

namespace Arguments

/-- No option given yet. -/
def noOptions : Options := ⟨none, none, none, none, none⟩

/-- The request of a command under some options. -/
def Options.request (options : Options) (command : Command) : Request where
  config := options.config.getD "cfg/TR1X.json5"
  schemaDirectory := options.schemaDirectory.getD "resources/schemas"
  schema := options.schema.getD "tr1"
  language := options.language.getD "resources/lang/en.toml"
  enforced := options.enforced
  command := command

/-- Whether the argument reads as an option: a dash and more. -/
def isOption (argument : String) : Bool :=
  match argument.toList with
  | '-' :: _ :: _ => true
  | _ => false

/-- Splits a long option at its first equals sign. -/
def splitOption (argument : String) : String × Option String :=
  let name := argument.toList.takeWhile (· ≠ '=')
  match argument.toList.drop name.length with
  | [] => (argument, none)
  | _ :: value => (String.ofList name, some (String.ofList value))

/-- Sets an option that has not been set.  A path must not be empty. -/
def setOnce (old : Option String) (isPath : Bool) (value : String) : Option String :=
  if old.isSome || (isPath && value = "") then none else some value

/-- Sets the option with a name. -/
def setOption (options : Options) (name value : String) : Option Options :=
  match name with
  | "--schema-dir" =>
    (setOnce options.schemaDirectory true value).map fun v =>
      { options with schemaDirectory := some v }
  | "--schema" => (setOnce options.schema false value).map fun v => { options with schema := some v }
  | "--lang" => (setOnce options.language true value).map fun v => { options with language := some v }
  | "--enforced" =>
    (setOnce options.enforced true value).map fun v => { options with enforced := some v }
  | _ => none

/-- Whether there is an option with a value by that name. -/
def takesValue (name : String) : Bool :=
  ["--schema-dir", "--schema", "--lang", "--enforced"].contains name

/-- The number of operands that a command takes at most. -/
def capacity : String → Option Nat
  | "search" => none
  | "set" => some 2
  | _ => some 0

/-- Reads the operands of a command that has room for a number of them.  The
first argument that is out of place decides what is asked for instead. -/
def operands : (room : Option Nat) → List String → Except Invocation (List String)
  | _, [] => .ok []
  | _, "--" :: rest => .ok rest
  | room, argument :: rest =>
    if isOption argument then
      if argument = "--help" || argument.toList.take 2 = ['-', 'h'] then .error .help
      else .error .misuse
    else if room = some 0 then .error .misuse
    else (operands (room.map (· - 1)) rest).map (argument :: ·)

/-- The command with a name and its operands. -/
def command? (name : String) (operands : List String) : Option Command :=
  match name, operands with
  | "show", [] => some .list
  | "search", word :: words => some (.search (word :: words))
  | "set", [field, text] => some (.set field text)
  | "reset", [] => some .reset
  | "schemas", [] => some .schemas
  | _, _ => none

/-- Whether there is a command by that name. -/
def isCommand (name : String) : Bool :=
  ["show", "search", "set", "reset", "schemas"].contains name

/-- What a command with its arguments asks for. -/
def ofCommand (options : Options) (name : String) (arguments : List String) : Invocation :=
  match operands (capacity name) arguments with
  | .error other => other
  | .ok operands =>
    match command? name operands with
    | some command => .run (Options.request options command)
    | none => .misuse

/-- What the names of commands after `help` ask for. -/
def ofHelp : List String → Invocation
  | [] => .help
  | [name] => if isCommand name || name = "help" then .help else .misuse
  | _ => .misuse

/-- What arguments ask for, after some options. -/
def parse (options : Options) : List String → Invocation
  | [] => .misuse
  | argument :: rest =>
    if isCommand argument then ofCommand options argument rest
    else if argument = "help" then ofHelp rest
    else if argument = "--" then .misuse
    else if argument = "--version" then .version
    else if argument = "--help" then .help
    else if isOption argument then
      match splitOption argument with
      | (name, some value) =>
        match setOption options name value with
        | some options => parse options rest
        | none => .misuse
      | (name, none) =>
        if takesValue name then
          match rest with
          | [] => .misuse
          | value :: rest =>
            if isOption value then .misuse
            else
              match setOption options name value with
              | some options => parse options rest
              | none => .misuse
        else
          match argument.toList with
          | '-' :: 'V' :: _ => .version
          | '-' :: 'h' :: _ => .help
          | _ => .misuse
    else
      match setOnce options.config true argument with
      | some config => parse { options with config := some config } rest
      | none => .misuse

/-- What the arguments of the command line ask for. -/
def read (arguments : List String) : Invocation := parse noOptions arguments

end Arguments

end Settings
