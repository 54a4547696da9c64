import CollisionWatch.Decimal.Numeral

/-!
# The arguments of the command line

`readRequest` turns arguments into a request.  They are read from left to right: the first one that
makes no sense spoils all, and a plea for help or for the version is granted as soon as it is read.
What is missing is found out at the end.

The option `--config` may stand before and after the command; the one after it counts.
-/

namespace CollisionWatch.CommandLine

/-- What the program is told to do. -/
inductive Command where
  /-- Write a settings file, over an older one if forced. -/
  | init (force : Bool)
  /-- Load the settings and show them. -/
  | check
  /-- Show the schema of the settings file. -/
  | schema
  /-- Replay a frame log at a rate. -/
  | replay (log : String) (rate : Nat)
  deriving Repr, DecidableEq

/-- The name of a command. -/
inductive CommandName where
  /-- Write a settings file. -/
  | init
  /-- Show the settings. -/
  | check
  /-- Show the schema. -/
  | schema
  /-- Replay a frame log. -/
  | replay
  deriving Repr, DecidableEq

/-- A page of help. -/
inductive HelpPage where
  /-- The program. -/
  | program
  /-- A command. -/
  | command (name : CommandName)
  /-- The command that shows these pages. -/
  | help
  deriving Repr, DecidableEq

/-- What the arguments ask for. -/
inductive Request where
  /-- A command, with the path of the settings file if one is named. -/
  | run (config : Option String) (command : Command)
  /-- A page of help. -/
  | help (page : HelpPage)
  /-- The version. -/
  | version
  /-- Nothing that makes sense. -/
  | misuse
  deriving Repr, DecidableEq

/-- The command of a name. -/
def CommandName.ofText? : String → Option CommandName
  | "init" => some .init
  | "check" => some .check
  | "schema" => some .schema
  | "replay" => some .replay
  | _ => none

/-- How many clouds a second are replayed unless another rate is asked for. -/
def usualRate : Nat := 10

/-! ## Options -/

/-- An option of the command line. -/
inductive Flag where
  /-- The path of the settings file. -/
  | config
  /-- Write over an older file. -/
  | force
  /-- The rate of a replay. -/
  | rate
  /-- A page of help. -/
  | help
  /-- The version. -/
  | version
  deriving Repr, DecidableEq

/-- The argument looks like an option: it starts with a hyphen and is more than that. -/
def looksLikeFlag (argument : String) : Bool :=
  match argument.toList with
  | '-' :: _ :: _ => true
  | _ => false

/-- The parts of a long option: its name, and what follows an equals sign. -/
def splitEquals (text : List Char) : List Char × Option (List Char) :=
  match text.span (· != '=') with
  | (name, '=' :: value) => (name, some value)
  | (name, _) => (name, none)

/-- The option of a long name. -/
def longFlag? (name : List Char) : Option Flag :=
  match String.ofList name with
  | "config" => some .config
  | "force" => some .force
  | "rate" => some .rate
  | "help" => some .help
  | "version" => some .version
  | _ => none

/-- The option is known at the place: the command whose arguments are read, or none before it. -/
def Flag.isKnown (place : Option CommandName) : Flag → Bool
  | .config | .help => true
  | .force => place == some .init
  | .rate => place == some .replay
  | .version => place == none

/-- The option takes a value. -/
def Flag.takesValue : Flag → Bool
  | .config | .rate => true
  | _ => false

/-- A rate: an integer, with a sign or without, of thirty-two bits. -/
def rate? (text : String) : Option Nat :=
  let (negative, digits) : Bool × List Char :=
    match text.toList with
    | '+' :: rest => (false, rest)
    | '-' :: rest => (true, rest)
    | rest => (false, rest)
  let n := Decimal.natOfDigits digits
  if digits.isEmpty || !digits.all Char.isDigit then none
  else if negative then (if n = 0 then some 0 else none)
  else if n < UInt32.size then some n else none

/-! ## Reading -/

/-- What was read so far at one place. -/
structure Draft where
  /-- The settings file. -/
  config : Option String := none
  /-- The force. -/
  force : Bool := false
  /-- The rate. -/
  rate : Option Nat := none
  /-- The log. -/
  log : Option String := none
  deriving Repr

/-- The draft with the value of an option; none if the value is bad or the option was there. -/
def Draft.set? (d : Draft) (flag : Flag) (value : String) : Option Draft :=
  match flag with
  | .config => if d.config.isSome ∨ value = "" then none else some { d with config := some value }
  | .rate =>
    if d.rate.isSome then none else (rate? value).map fun n => { d with rate := some n }
  | _ => none

/-- The draft with one more argument that is no option. -/
def Draft.addArgument? (d : Draft) (place : Option CommandName) (argument : String) :
    Option Draft :=
  if place ≠ some .replay ∨ d.log.isSome ∨ argument = "" then none
  else some { d with log := some argument }

/-- What an argument does. -/
inductive Step where
  /-- Reading goes on with the next argument. -/
  | onward (draft : Draft)
  /-- The next argument is the value of an option. -/
  | awaiting (flag : Flag)
  /-- The request is clear. -/
  | done (request : Request)

/-- The page of help for a place. -/
def pageOf (place : Option CommandName) : HelpPage :=
  match place with
  | some name => .command name
  | none => .program

/-- What an option does, with the value after its equals sign. -/
def flagStep (place : Option CommandName) (d : Draft) (flag : Flag) (value : Option String) : Step :=
  if !flag.isKnown place then .done .misuse
  else
    match flag.takesValue, value with
    | true, none => .awaiting flag
    | true, some value => ((d.set? flag value).map .onward).getD (.done .misuse)
    | false, some _ => .done .misuse
    | false, none =>
      match flag with
      | .help => .done (.help (pageOf place))
      | .version => .done .version
      | _ => if d.force then .done .misuse else .onward { d with force := true }

/-- What an argument that looks like an option does; the double hyphen is not one of them. -/
def optionStep (place : Option CommandName) (d : Draft) (argument : String) : Step :=
  match argument.toList with
  | '-' :: '-' :: text =>
    let (name, value) := splitEquals text
    match longFlag? name with
    | some flag => flagStep place d flag (value.map String.ofList)
    | none => .done .misuse
  | '-' :: 'h' :: _ => flagStep place d .help none
  | '-' :: 'V' :: _ => flagStep place d .version none
  | _ => .done .misuse

/-- The request of a finished draft for a command; `outer` is what stood before the command. -/
def Draft.finish (d : Draft) (outer : Option String) (name : CommandName) : Request :=
  let config := d.config.or outer
  match name with
  | .init => .run config (.init d.force)
  | .check => .run config .check
  | .schema => .run config .schema
  | .replay =>
    match d.log with
    | some log => .run config (.replay log (d.rate.getD usualRate))
    | none => .misuse

/-- The arguments after a command, where `plain` says that a double hyphen came before. -/
def readCommand (outer : Option String) (name : CommandName) :
    Draft → Bool → List String → Request
  | d, _, [] => d.finish outer name
  | d, true, argument :: rest =>
    match d.addArgument? (some name) argument with
    | some d => readCommand outer name d true rest
    | none => .misuse
  | d, false, argument :: rest =>
    if argument = "--" then readCommand outer name d true rest
    else if looksLikeFlag argument then
      match optionStep (some name) d argument with
      | .onward d => readCommand outer name d false rest
      | .done request => request
      | .awaiting flag =>
        match rest with
        | value :: rest =>
          if looksLikeFlag value then .misuse
          else
            match d.set? flag value with
            | some d => readCommand outer name d false rest
            | none => .misuse
        | [] => .misuse
    else
      match d.addArgument? (some name) argument with
      | some d => readCommand outer name d false rest
      | none => .misuse

/-- The arguments after the command that shows help. -/
def readHelp : List String → Request
  | [] => .help .program
  | ["help"] => .help .help
  | [name] =>
    match CommandName.ofText? name with
    | some name => .help (.command name)
    | none => .misuse
  | _ => .misuse

/-- The arguments before a command, and all after it. -/
def readBefore : Draft → List String → Request
  | _, [] => .misuse
  | d, argument :: rest =>
    if argument = "--" then .misuse
    else if looksLikeFlag argument then
      match optionStep none d argument with
      | .onward d => readBefore d rest
      | .done request => request
      | .awaiting flag =>
        match rest with
        | value :: rest =>
          if looksLikeFlag value then .misuse
          else
            match d.set? flag value with
            | some d => readBefore d rest
            | none => .misuse
        | [] => .misuse
    else if argument = "help" then readHelp rest
    else
      match CommandName.ofText? argument with
      | some name => readCommand d.config name {} false rest
      | none => .misuse

/-- What the arguments ask for. -/
def readRequest (arguments : List String) : Request := readBefore {} arguments

end CollisionWatch.CommandLine
