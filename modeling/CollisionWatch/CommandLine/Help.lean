import CollisionWatch.CommandLine.Paint
import CollisionWatch.CommandLine.Request

/-!
# Pages of help

A page says what a thing is for, how it is written, and what may stand there.  The entries of a
section are two columns: the second one starts two blanks after the longest form of the first, even
where an entry has nothing to say in it.  Titles are painted, and what has to be typed as it stands.
-/

namespace CollisionWatch.CommandLine

/-- As a title of a page. -/
def titlePaint : Paint := { bold := true, underlined := true }

/-- A part of how something is written. -/
inductive FormPart where
  /-- What is typed as it stands. -/
  | typed (text : String)
  /-- What stands for something else, or between two parts. -/
  | other (text : String)
  deriving Repr, DecidableEq

/-- How something is written. -/
abbrev Form := List FormPart

/-- The text of a part. -/
def FormPart.text : FormPart → String
  | typed text => text
  | other text => text

/-- A part as it is shown. -/
def FormPart.shown (brush : Brush) : FormPart → String
  | typed text => brush strong text
  | other text => text

/-- How many characters a form has. -/
def Form.length (form : Form) : Nat := (String.join (form.map FormPart.text)).length

/-- A form as it is shown. -/
def Form.shown (brush : Brush) (form : Form) : String :=
  String.join (form.map (FormPart.shown brush))

/-- A line of a page: how something is written, and what it means. -/
structure HelpEntry where
  /-- How it is written. -/
  form : Form
  /-- What it means. -/
  meaning : String
  deriving Repr, DecidableEq

/-- Lines of a page under one title. -/
structure HelpSection where
  /-- The title. -/
  title : String
  /-- The lines. -/
  entries : List HelpEntry
  deriving Repr, DecidableEq

/-- The content of a page. -/
structure HelpContent where
  /-- What the thing is for. -/
  purpose : String
  /-- How it is written. -/
  usage : Form
  /-- What may stand there. -/
  sections : List HelpSection
  deriving Repr, DecidableEq

/-! ## Layout -/

/-- A title. -/
def titleText (brush : Brush) (title : String) : String := brush titlePaint (title ++ ":")

namespace HelpSection

/-- The length of the longest form. -/
def width (s : HelpSection) : Nat := s.entries.foldl (fun w e => max w (Form.length e.form)) 0

/-- A line of a section. -/
def line (brush : Brush) (width : Nat) (e : HelpEntry) : String :=
  let gap := List.replicate (width + 2 - Form.length e.form) ' '
  "  " ++ Form.shown brush e.form ++ String.ofList gap ++ e.meaning ++ "\n"

/-- The text of a section. -/
def text (brush : Brush) (s : HelpSection) : String :=
  titleText brush s.title ++ "\n" ++ String.join (s.entries.map (line brush s.width))

end HelpSection

/-- The text of a page. -/
def HelpContent.text (brush : Brush) (c : HelpContent) : String :=
  c.purpose ++ "\n\n" ++ titleText brush "Usage" ++ " " ++ Form.shown brush c.usage ++ "\n\n" ++
    "\n".intercalate (c.sections.map (·.text brush))

/-! ## Content -/

/-- The name of the program on the command line. -/
def programName : String := "guardian"

/-- The version of the program. -/
def programVersion : String := "0.1.0"

/-- The command that shows help. -/
def helpPurpose : String := "Print this message or the help of the given subcommand(s)"

namespace CommandName

/-- All commands, in the order of their pages. -/
def all : List CommandName := [init, check, schema, replay]

/-- The name as text. -/
def text : CommandName → String
  | init => "init"
  | check => "check"
  | schema => "schema"
  | replay => "replay"

/-- What the command does. -/
def purpose : CommandName → String
  | init => "Write a default config file"
  | check => "Load and validate the config, then print it"
  | schema => "Print the JSON Schema of the config file"
  | replay => "Stream a JSON-lines frame log through the guardian"

/-- The arguments of the command, as the usage shows them. -/
def operands : CommandName → List HelpEntry
  | replay => [⟨[.other "<LOG>"], ""⟩]
  | _ => []

/-- The options of the command alone. -/
def options : CommandName → List HelpEntry
  | init => [⟨[.other "    ", .typed "--force"], ""⟩]
  | replay =>
    [⟨[.other "    ", .typed "--rate", .other " <RATE>"],
      "Frames per second, close to the sensor's own rate; 0 replays as fast " ++
      "as the log can be read [default: " ++ toString usualRate ++ "]"⟩]
  | _ => []

end CommandName

/-- The option that names the settings file, which stands before all others. -/
def configOption : HelpEntry :=
  ⟨[.other "    ", .typed "--config", .other " <CONFIG>"],
    "Config file (default `~/.guardian/config.toml`)"⟩

/-- The option of help, which stands after all that change what a command does. -/
def helpOption : HelpEntry := ⟨[.typed "-h", .other ", ", .typed "--help"], "Print help"⟩

/-- The option of the version. -/
def versionOption : HelpEntry :=
  ⟨[.typed "-V", .other ", ", .typed "--version"], "Print version"⟩

/-- The section of arguments, if there are any. -/
def operandSection (operands : List HelpEntry) : List HelpSection :=
  if operands.isEmpty then [] else [⟨"Arguments", operands⟩]

/-- The page of the program. -/
def programHelp : HelpContent where
  purpose := "LiDAR collision guardian"
  usage := [.typed programName, .other " [OPTIONS] <COMMAND>"]
  sections :=
    [⟨"Commands", CommandName.all.map (fun name => ⟨[.typed name.text], name.purpose⟩) ++
      [⟨[.typed "help"], helpPurpose⟩]⟩,
    ⟨"Options", [configOption, helpOption, versionOption]⟩]

/-- The page of a command. -/
def commandHelp (name : CommandName) : HelpContent where
  purpose := name.purpose
  usage := [.typed (programName ++ " " ++ name.text), .other " [OPTIONS]"] ++
    name.operands.flatMap fun e => .other " " :: e.form
  sections := operandSection name.operands ++
    [⟨"Options", configOption :: name.options ++ [helpOption]⟩]

/-- The page of the command that shows help. -/
def helpHelp : HelpContent where
  purpose := helpPurpose
  usage := [.typed (programName ++ " help"), .other " [COMMAND]..."]
  sections := operandSection [⟨[.other "[COMMAND]..."], "Print help for the subcommand(s)"⟩]

/-- The content of a page. -/
def HelpPage.content : HelpPage → HelpContent
  | program => programHelp
  | command name => commandHelp name
  | help => helpHelp

/-- The line that tells the version. -/
def versionLine : String := programName ++ " " ++ programVersion ++ "\n"

end CollisionWatch.CommandLine
