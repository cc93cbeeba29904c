import PageTemplate.Command.Arguments

/-!
# Help

A page of help says what a command is for, how it is written, and what may be given to it, in two
columns.

## Main definitions

* `PageTemplate.Command.columns` — rows of two columns.
* `PageTemplate.Command.Topic.text` — the page of help on a topic.
* `PageTemplate.Command.versionText` — name and version of the program.
-/

namespace PageTemplate.Command

/-- Name and version of the program. -/
def versionText : Text := "ticketflow-cli 0.1.0\n"

/-! ### Parts of a page -/

/-- Rows of two columns, the first of them as wide as its widest entry. -/
def columns (rows : List (Text × Text)) : Text :=
  let width := (rows.map fun (left, _) => left.length).foldl max 0
  rows.flatMap fun (left, right) =>
    "  " ++ Text.padRight width left ++ "  " ++ right ++ "\n"

/-- A part of a page under a heading. -/
def headed (heading : Text) (rows : List (Text × Text)) : Text :=
  "\n" ++ heading ++ ":\n" ++ columns rows

/-- The row of an option, with its letter if it has one. -/
def optionRow (letter? : Option Char) (name about : Text) : Text × Text :=
  let front : Text := match letter? with
    | some c => '-' :: c :: ", "
    | none => "    "
  (front ++ "--" ++ name, about)

/-- The row of an option without a value. -/
def Flag.row (f : Flag) : Text × Text :=
  optionRow (some f.letter) f.name <|
    match f with
    | verbose => "Enable debug logging"
    | help => "Print help"
    | version => "Print version"

/-- What the value of an option is called. -/
def Parameter.valueName : Parameter → Text
  | data => "DATA"
  | set => "KEY=VALUE"
  | config => "CONFIG"
  | root => "ROOT"
  | output => "OUTPUT"

/-- The row of an option with a value. -/
def Parameter.row (p : Parameter) : Text × Text :=
  optionRow p.letter? (p.name ++ " <" ++ p.valueName ++ ">") <|
    match p with
    | data => "JSON file with the render context"
    | set => "Extra string global (repeatable)"
    | config => "Path to the YAML configuration file"
    | root => "Template root (overrides config)"
    | output => "Write the page here instead of stdout"

namespace Topic

/-- What the program or a command is for. -/
def about : Topic → Text
  | program => "Command-line renderer for TicketFlow page templates"
  | render => "Render a template to HTML"
  | tokens => "Print the token stream of a template file"
  | help => "Print this message or the help of the given subcommand(s)"

/-- How the program or a command is written. -/
def usage : Topic → Text
  | program => "ticketflow [OPTIONS] <COMMAND>"
  | render => "ticketflow render [OPTIONS] <TEMPLATE>"
  | tokens => "ticketflow tokens [OPTIONS] <FILE>"
  | help => "ticketflow help [COMMAND]..."

/-- What may be given to the program or a command. -/
def parts : Topic → Text
  | program =>
    headed "Commands" [("render", render.about), ("tokens", tokens.about), ("help", help.about)]
      ++ headed "Options" [Flag.verbose.row, Flag.help.row, Flag.version.row]
  | render =>
    headed "Arguments" [("<TEMPLATE>", "Template identifier, e.g. `pages/dashboard`")]
      ++ headed "Options" [Parameter.data.row, Flag.verbose.row, Parameter.set.row,
        Parameter.config.row, Parameter.root.row, Parameter.output.row, Flag.help.row]
  | tokens =>
    headed "Arguments" [("<FILE>", "Template source file")]
      ++ headed "Options" [Flag.verbose.row, Flag.help.row]
  | help => headed "Arguments" [("[COMMAND]...", "Print help for the subcommand(s)")]

/-- The page of help on a topic. -/
def text (t : Topic) : Text :=
  t.about ++ "\n\nUsage: " ++ t.usage ++ "\n" ++ t.parts

end Topic

end PageTemplate.Command
