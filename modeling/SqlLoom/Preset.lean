import SqlLoom.Error
import SqlLoom.Text

/-! How each target engine quotes names and writes placeholders. -/
namespace SqlLoom

inductive PlaceholderStyle where
  /-- `:name` -/
  | colon
  /-- `$1`, `$2`, numbered by first appearance -/
  | dollar
  /-- `?`, one for each occurrence -/
  | question
  /-- `@name` -/
  | at
  deriving DecidableEq, Repr

inductive Preset where
  | named | postgres | mySql | sqlServer | sqlite
  deriving DecidableEq, Repr

namespace Preset

def all : List Preset := [.named, .postgres, .mySql, .sqlServer, .sqlite]

def name : Preset → String
  | .named => "named"
  | .postgres => "postgres"
  | .mySql => "mysql"
  | .sqlServer => "sqlserver"
  | .sqlite => "sqlite"

def backtick : Char := Char.ofNat 96

/-- The opening and the closing quote of names. -/
def quotes : Preset → Char × Char
  | .mySql => (backtick, backtick)
  | .sqlServer => ('[', ']')
  | _ => ('"', '"')

def style : Preset → PlaceholderStyle
  | .named => .colon
  | .sqlite => .colon
  | .postgres => .dollar
  | .mySql => .question
  | .sqlServer => .at

/-- Whether parameters are a list of values and not a map. -/
def isPositional (p : Preset) : Bool := p.style == .dollar || p.style == .question

def quoteName (p : Preset) (name : String) : String :=
  Text.enclose p.quotes.1 p.quotes.2 name

/-- The placeholder of the `index`-th distinct parameter, counted from 1. -/
def placeholder (p : Preset) (name : String) (index : Nat) : String :=
  match p.style with
  | .colon => ":" ++ name
  | .dollar => "$" ++ toString index
  | .question => "?"
  | .at => "@" ++ name

/-- A preset by one of its names, in any ASCII case. -/
def parse (s : String) : Result Preset :=
  match Text.foldCase s with
  | "named" | "generic" => .ok .named
  | "postgres" | "postgresql" | "pg" => .ok .postgres
  | "mysql" | "mariadb" => .ok .mySql
  | "sqlserver" | "mssql" => .ok .sqlServer
  | "sqlite" => .ok .sqlite
  | other => .error (.unsupported ("unknown dialect preset '" ++ other ++ "'"))

end Preset

end SqlLoom
