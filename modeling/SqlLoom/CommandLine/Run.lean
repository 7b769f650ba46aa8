import SqlLoom.CommandLine.Help
import SqlLoom.Config
import SqlLoom.Fixture.File
import SqlLoom.Injection
import SqlLoom.Json.Reader
import SqlLoom.Projection.Reader
import SqlLoom.Report.CommonTables
import SqlLoom.Report.Parameters
import SqlLoom.Report.Schema
import SqlLoom.Report.Tables

/-! What a command line puts out, given the files it may read. -/
namespace SqlLoom

/-- What is found under a path. -/
inductive FileState where
  | missing
  | unreadable
  | text (s : String)

structure Surroundings where
  file : String → FileState
  /-- What is left of the standard input. -/
  input : String
  /-- The file of settings that is read when none is named. -/
  settings : String

structure Outcome where
  code : Nat
  stdout : String := ""
  stderr : String := ""
  deriving DecidableEq, Repr

namespace CommandLine

/-- A run consumes the standard input and may end with a message. -/
abbrev Run (α : Type) := StateT Surroundings (Except String) α

def fail {α : Type} (message : String) : Run α := throw message

/-- A result whose cause of failure is the message. -/
def settle {α : Type} : Result α → Run α
  | .ok a => return a
  | .error e => fail e.message

/-- A value that must be there, or else the message. -/
def require {α : Type} (message : String) : Option α → Run α
  | some a => return a
  | none => fail message

/-- The text of a file, or all that is left of the standard input under a single hyphen. -/
def readInput (path : String) : Run String := do
  let s ← get
  if path = "-" then
    set { s with input := "" }
    return s.input
  else
    match s.file path with
    | .text t => return t
    | _ => fail ("reading " ++ path)

/-- The settings; where there is no file, the defaults. -/
def loadConfig (path : Option String) : Run Config := do
  let s ← get
  let path := path.getD s.settings
  match s.file path with
  | .missing => return {}
  | .unreadable => fail ("reading " ++ path)
  | .text t => require ("parsing " ++ path) (Config.parse? t)

def readStatements (d : Grammar.Dialect) (path : String) : Run (List Statement) := do
  let sql ← readInput path
  match ← settle (Statement.parseMany d sql) with
  | [] => fail (path ++ " contains no statements")
  | ss => return ss

/-- The columns of tables, written as one object. -/
def columnMap? : Json → Option (List (String × List String))
  | .obj members => members.mapM fun (name, j) => (FixtureFile.readNames? j).map (name, ·)
  | _ => none

/-- The report on one statement. -/
def analysis (resolver : ColumnResolver) (s : Statement) : Result Json := do
  let schemas ← Report.schemas (some resolver) s
  let names (xs : List String) : Json := .arr (xs.map .str)
  return .obj
    [ ("tables", .arr ((Report.tables false s).map TableReference.toJson)),
      ("ctes", names (Report.commonTableNames s)),
      ("columns", .arr (schemas.map fun t =>
        .obj [("name", .str t.name), ("columns", names t.columns)])),
      ("parameters", names (Report.parameterNames s)) ]

def parametersLine (r : Rendered) : String :=
  if r.params.length = 0 then "" else "-- params: " ++ r.params.toJson.compact ++ "\n"

/-- The rendered statements as text with their parameters beside it, or all as one document. -/
def emit (c : Config) (o : OutputOptions) (ss : List Statement) : Run Outcome := do
  let base := c.formatOptions o.preset
  let options := { base with pretty := base.pretty || o.pretty }
  let rendered ← settle (ss.mapM (Statement.format options))
  if o.json then
    return { code := 0, stdout := (Json.arr (rendered.map Rendered.toJson)).pretty ++ "\n" }
  else
    return { code := 0, stdout := String.join (rendered.map fun r => r.sql ++ ";\n"),
             stderr := String.join (rendered.map parametersLine) }

/-- Fixtures of a file, or rows of nulls, in front of a statement. -/
def withFixtures (file : Option FixtureFile) (s : Statement) : Run Statement := do
  let schemas ← match Report.schemas none s with
    | .ok schemas => pure schemas
    | .error _ => fail "collecting table columns"
  match file with
  | some f => settle (Fixture.inject (f.toTables schemas) s)
  | none => settle (Fixture.injectNulls schemas s)

def conditionText (conditions : String) : Run String :=
  match conditions.toList with
  | '@' :: path => readInput (String.ofList path)
  | _ => return conditions

def perform (c : Config) (i : Invocation) : Run Outcome := do
  match i.command with
  | .format output => emit c output (← readStatements i.dialect i.input)
  | .analyze columns =>
    let ss ← readStatements i.dialect i.input
    let entries ← match columns with
      | some path => do
        let text ← readInput path
        require ("parsing column map " ++ path) ((Json.parse? text).bind columnMap?)
      | none => pure []
    let reports ← settle (ss.mapM (analysis (.ofMap entries)))
    return { code := 0, stdout := (Json.arr reports).pretty ++ "\n" }
  | .injectFixtures fixtures output =>
    let file ← match fixtures with
      | some path => do
        let text ← readInput path
        some <$> require ("parsing fixtures " ++ path)
          ((Json.parse? text).bind FixtureFile.ofJson?)
      | none => pure none
    let ss ← readStatements i.dialect i.input
    emit c output (← ss.mapM (withFixtures file))
  | .injectParams conditions allowAllNull output =>
    let text ← conditionText conditions
    let map ← require "parsing condition map"
      ((Json.parse? text).bind fun j => (ConditionMap.ofJson j.merged).toOption)
    let ss ← readStatements i.dialect i.input
    emit c output (← settle (ss.mapM (map.inject none allowAllNull)))
  | .json mapping output =>
    let text ← readInput mapping
    let m ← require ("parsing mapping " ++ mapping) (JsonMapping.parse? text)
    let ss ← readStatements i.dialect i.input
    emit c output (← settle (ss.mapM (c.projection.build m)))

def runInvocation (i : Invocation) (s : Surroundings) : Outcome :=
  let run : Run Outcome := do perform (← loadConfig i.config) i
  match run s with
  | .ok (outcome, _) => outcome
  | .error message => { code := 1, stderr := "Error: " ++ message ++ "\n" }

def refuse : Refusal → Outcome
  | .usage => { code := 2, stderr := "error: " ++ helpText none }
  | .help command => { code := 0, stdout := helpText command }
  | .version => { code := 0, stdout := "sqlscope 0.1.0\n" }

def run (words : List String) (s : Surroundings) : Outcome :=
  match parse words with
  | .ok i => runInvocation i s
  | .error refusal => refuse refusal

end CommandLine

end SqlLoom
