import SqlLoom.Grammar
import SqlLoom.Preset

/-! The words of a command line. Options stand anywhere behind the command they belong to, those of
every command also in front of it; a single hyphen is a name like any other. -/
namespace SqlLoom

/-- How rendered statements are put out. -/
structure OutputOptions where
  preset : Option Preset := none
  pretty : Bool := false
  json : Bool := false

inductive Command where
  /-- Render the statements. -/
  | format (output : OutputOptions)
  /-- Report tables, columns and parameters, given the columns of tables in a file. -/
  | analyze (columns : Option String)
  /-- Put fixtures of a file, or rows of nulls, in front. -/
  | injectFixtures (fixtures : Option String) (output : OutputOptions)
  /-- Add conditions, given as text or as `@` and a file. -/
  | injectParams (conditions : String) (allowAllNull : Bool) (output : OutputOptions)
  /-- Wrap the query into the projection of a mapping. -/
  | json (mapping : String) (output : OutputOptions)

structure Invocation where
  /-- The file of settings, if one is named. -/
  config : Option String
  dialect : Grammar.Dialect
  input : String
  command : Command

/-- Why no command is run. -/
inductive Refusal where
  | usage
  | help (command : Option String)
  | version
  deriving DecidableEq, Repr

namespace CommandLine

/-- The options a command takes, and how many names. -/
structure Form where
  valued : List String := []
  flags : List String := []
  places : Nat := 0
  /-- The command, if it is not the whole program. -/
  command : Option String := none

/-- What has been read of the words. -/
structure Scan where
  options : List (String × String) := []
  flags : List String := []
  names : List String := []

def pathOptions : List String := ["config", "columns", "fixtures", "mapping"]

/-- Whether an option takes a value. -/
def accepts (option value : String) : Bool :=
  if option = "dialect" then (Grammar.Dialect.parse value).isOk
  else if option = "preset" then (Preset.parse value).isOk
  else if pathOptions.contains option then !value.isEmpty
  else true

/-- Whether a word is an option and no name. -/
def isOption (word : String) : Bool :=
  match word.toList with
  | '-' :: _ :: _ => true
  | _ => false

def addOption (name value : String) (s : Scan) : Except Refusal Scan :=
  if (s.options.any fun o => o.1 == name) || !accepts name value then .error .usage
  else .ok { s with options := s.options ++ [(name, value)] }

def addName (f : Form) (name : String) (s : Scan) : Except Refusal Scan :=
  if name.isEmpty || f.places ≤ s.names.length then .error .usage
  else .ok { s with names := s.names ++ [name] }

/-- A word that begins with one hyphen. -/
def shortOption (f : Form) : List Char → Refusal
  | 'h' :: _ => .help f.command
  | 'V' :: _ => if f.command.isNone then .version else .usage
  | _ => .usage

/-- Reads the options and names of a form. The whole program stops at the first name, which is its
command. -/
def scan (f : Form) : Scan → List String → Except Refusal (Scan × List String)
  | s, [] => .ok (s, [])
  | s, word :: words =>
    match word.toList with
    | ['-', '-'] => do return (← words.foldlM (fun s w => addName f w s) s, [])
    | '-' :: '-' :: body =>
      let name := String.ofList (body.takeWhile (· ≠ '='))
      let attached := match body.dropWhile (· ≠ '=') with
        | _ :: value => some (String.ofList value)
        | [] => none
      if name = "help" ∧ attached.isNone then .error (.help f.command)
      else if name = "version" ∧ attached.isNone ∧ f.command.isNone then .error .version
      else if f.flags.contains name then
        if attached.isSome || s.flags.contains name then .error .usage
        else scan f { s with flags := s.flags ++ [name] } words
      else if f.valued.contains name then
        match attached, words with
        | some value, words => do scan f (← addOption name value s) words
        | none, value :: words =>
          if isOption value then .error .usage else do scan f (← addOption name value s) words
        | none, [] => .error .usage
      else .error .usage
    | '-' :: c :: rest => .error (shortOption f (c :: rest))
    | _ =>
      if f.command.isNone then .ok (s, word :: words)
      else do scan f (← addName f word s) words

def programOptions : List String := ["config", "dialect"]

def outputFlags : List String := ["pretty", "json"]

/-- The form of a command by its name. -/
def formOf? (command : String) : Option Form :=
  let form (valued flags : List String) : Option Form :=
    some { valued := programOptions ++ valued, flags, places := 1, command := some command }
  match command with
  | "format" => form ["preset"] outputFlags
  | "analyze" => form ["columns"] []
  | "inject-fixtures" => form ["fixtures", "preset"] outputFlags
  | "inject-params" => form ["conditions", "preset"] ("allow-all-null" :: outputFlags)
  | "json" => form ["mapping", "preset"] outputFlags
  | _ => none

namespace Scan

def value? (s : Scan) (name : String) : Option String :=
  (s.options.find? fun o => o.1 == name).map (·.2)

def output (s : Scan) : OutputOptions :=
  { preset := (s.value? "preset").bind fun p => (Preset.parse p).toOption
    pretty := s.flags.contains "pretty"
    json := s.flags.contains "json" }

end Scan

def commandOf? (name : String) (s : Scan) : Option Command :=
  match name with
  | "format" => some (.format s.output)
  | "analyze" => some (.analyze (s.value? "columns"))
  | "inject-fixtures" => some (.injectFixtures (s.value? "fixtures") s.output)
  | "inject-params" =>
    (s.value? "conditions").map fun c =>
      .injectParams c (s.flags.contains "allow-all-null") s.output
  | "json" => (s.value? "mapping").map fun m => .json m s.output
  | _ => none

/-- The words behind the command. An option of the program given again there wins. -/
def invocation (outer : Scan) (name : String) (f : Form) (words : List String) :
    Except Refusal Invocation := do
  let (s, _) ← scan f {} words
  let either (option : String) : Option String := s.value? option <|> outer.value? option
  match s.names, commandOf? name s with
  | [input], some command =>
    return { config := either "config"
             dialect := ((either "dialect").bind fun d => (Grammar.Dialect.parse d).toOption).getD
               .postgres
             input, command }
  | _, _ => throw .usage

/-- Whether the words behind `help` name a command, if anything. -/
def helpFor : List String → Refusal
  | [] => .help none
  | [command] =>
    if (formOf? command).isSome || command = "help" then .help (some command) else .usage
  | _ => .usage

def parse (words : List String) : Except Refusal Invocation := do
  let (outer, rest) ← scan { valued := programOptions } {} words
  match rest with
  | [] => throw .usage
  | "help" :: words => throw (helpFor words)
  | name :: words =>
    match formOf? name with
    | some f => invocation outer name f words
    | none => throw .usage

end CommandLine

namespace Invocation

/-- The files that a command may read, besides that of the settings. -/
def paths (i : Invocation) : List String :=
  i.input ::
    match i.command with
    | .format _ => []
    | .analyze columns => columns.toList
    | .injectFixtures fixtures _ => fixtures.toList
    | .injectParams conditions _ _ =>
      match conditions.toList with
      | '@' :: path => [String.ofList path]
      | _ => []
    | .json mapping _ => [mapping]

end Invocation

end SqlLoom
