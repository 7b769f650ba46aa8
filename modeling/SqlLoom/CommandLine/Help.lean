import SqlLoom.CommandLine

/-! The help of the program and of each command. -/
namespace SqlLoom.CommandLine

/-- A line of help: what can be written and what it does. -/
structure Entry where
  label : String
  about : String := ""

namespace Entry

/-- An option, with a name for its value if it takes one. -/
def option (name : String) (about : String) (valued : Bool := true) : Entry :=
  ⟨"    --" ++ name ++ (if valued then " <" ++ Text.raiseCase name ++ ">" else ""), about⟩

def help : Entry := ⟨"-h, --help", "Print help"⟩
def version : Entry := ⟨"-V, --version", "Print version"⟩

def config : Entry := option "config" "Config file (defaults to the user config directory)"
def dialect : Entry := option "dialect" "Grammar used to read the input [default: postgres]"
def preset : Entry :=
  option "preset" "Output preset: named, postgres, mysql, sqlserver, sqlite"
def pretty : Entry := option "pretty" "One clause per line" false
def json : Entry := option "json" "Print `\x7b sql, params \x7d` as JSON" false

end Entry

/-- A heading and lines whose texts stand below each other. -/
def headed (title : String) (entries : List Entry) : String :=
  let width := entries.foldl (fun n e => max n e.label.length) 0
  let line (e : Entry) : String :=
    let gap := String.ofList (List.replicate (width - e.label.length + 2) ' ')
    "  " ++ e.label ++ gap ++ e.about ++ "\n"
  title ++ ":\n" ++ String.join (entries.map line)

/-- What a command does, how it is written and its options. -/
structure Manual where
  about : String
  usage : String
  parts : List (String × List Entry)

namespace Manual

def text (m : Manual) : String :=
  m.about ++ "\n\nUsage: sqlscope " ++ m.usage ++ "\n" ++
    String.join (m.parts.map fun (title, entries) => "\n" ++ headed title entries)

/-- The manual of a command with one input. -/
def ofCommand (name about : String) (input : String) (required : String) (options : List Entry) :
    Manual :=
  { about
    usage := name ++ " [OPTIONS] " ++ required ++ "<INPUT>"
    parts := [("Arguments", [⟨"<INPUT>", input⟩]), ("Options", options ++ [.help])] }

end Manual

/-- The commands and what they do. -/
def commands : List Entry :=
  [ ⟨"format", "Re-render SQL under a dialect preset"⟩,
    ⟨"analyze", "Report tables, CTEs, columns and parameters"⟩,
    ⟨"inject-fixtures", "Prepend fixture tables as CTEs"⟩,
    ⟨"inject-params", "Append parameterized WHERE conditions"⟩,
    ⟨"json", "Wrap the query into a nested JSON projection"⟩,
    ⟨"help", "Print this message or the help of the given subcommand(s)"⟩ ]

def aboutCommand (name : String) : String :=
  ((commands.find? fun e => e.label == name).map (·.about)).getD ""

def programManual : Manual :=
  { about := "Scope-aware SQL analysis and rewriting"
    usage := "[OPTIONS] <COMMAND>"
    parts := [("Commands", commands), ("Options", [.config, .dialect, .help, .version])] }

/-- The manual of a command by its name, and of the program for any other. -/
def manualOf (command : Option String) : Manual :=
  let manual (name input required : String) (options : List Entry) : Manual :=
    .ofCommand name (aboutCommand name) input required options
  match command with
  | some "format" =>
    manual "format" "SQL file, or `-` for stdin" ""
      [.config, .preset, .dialect, .pretty, .json]
  | some "analyze" =>
    manual "analyze" "" ""
      [ .option "columns" "JSON object mapping table names to column lists, for wildcards",
        .config, .dialect ]
  | some "inject-fixtures" =>
    manual "inject-fixtures" "" ""
      [ .config, .option "fixtures" "JSON fixture file; omit for all-NULL scaffolding", .dialect,
        .preset, .pretty, .json ]
  | some "inject-params" =>
    manual "inject-params" "" "--conditions <CONDITIONS> "
      [ .option "conditions" "JSON condition map, inline or `@file`", .config,
        .option "allow-all-null" "" false, .dialect, .preset, .pretty, .json ]
  | some "json" =>
    manual "json" "" "--mapping <MAPPING> "
      [.config, .option "mapping" "JSON mapping file", .dialect, .preset, .pretty, .json]
  | some "help" =>
    { about := aboutCommand "help"
      usage := "help [COMMAND]..."
      parts := [("Arguments", [⟨"[COMMAND]...", "Print help for the subcommand(s)"⟩])] }
  | _ => programManual

def helpText (command : Option String) : String := (manualOf command).text

end SqlLoom.CommandLine
