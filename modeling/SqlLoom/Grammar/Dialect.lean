import SqlLoom.Error
import SqlLoom.Text
import SqlLoom.Text.Alphabetic
import SqlLoom.Text.Blank

/-! The grammars that can be read: which characters make up names, and which constructs each one
admits. -/
namespace SqlLoom.Grammar

inductive Dialect where
  | postgres | mySql | sqlServer | sqlite | generic
  deriving DecidableEq, Repr

namespace Dialect

/-- A grammar by one of its names, in any ASCII case. -/
def parse (s : String) : Result Dialect :=
  match Text.foldCase s with
  | "postgres" | "postgresql" => .ok .postgres
  | "mysql" => .ok .mySql
  | "sqlserver" | "mssql" => .ok .sqlServer
  | "sqlite" => .ok .sqlite
  | "generic" | "named" => .ok .generic
  | other => .error (.malformed ("unknown dialect '" ++ other ++ "'") none)

def title : Dialect → String
  | .postgres => "PostgreSQL"
  | .mySql => "MySQL"
  | .sqlServer => "SQL Server"
  | .sqlite => "SQLite"
  | .generic => "Generic SQL"

def isAsciiLetter (c : Char) : Bool := c.isAlpha

def codeBetween (low high : Nat) (c : Char) : Bool := low ≤ c.toNat && c.toNat ≤ high

def startsName (d : Dialect) (c : Char) : Bool :=
  match d with
  | .postgres => Text.isAlphabetic c || c = '_'
  | .mySql => Text.isAlphabetic c || c = '_' || c = '$' || c = '@' || codeBetween 0x80 0xFFFF c
  | .sqlServer => Text.isAlphabetic c || c = '_' || c = '#' || c = '@'
  | .sqlite => isAsciiLetter c || c = '_' || codeBetween 0x7F 0xFFFF c
  | .generic => Text.isAlphabetic c || c = '_' || c = '#' || c = '@'

def continuesName (d : Dialect) (c : Char) : Bool :=
  match d with
  | .postgres => Text.isAlphabetic c || c.isDigit || c = '$' || c = '_'
  | .mySql => d.startsName c || c.isDigit
  | .sqlite => d.startsName c || c.isDigit
  | .sqlServer | .generic => d.startsName c || c.isDigit || c = '$'

def backtick : Char := Char.ofNat 96

/-- Whether a character opens a quoted name. -/
def opensName (d : Dialect) (c : Char) : Bool :=
  match d with
  | .postgres => c = '"'
  | .mySql => c = backtick
  | .sqlServer => c = '"' || c = '['
  | .sqlite => c = '"' || c = '[' || c = backtick
  | .generic => c = '"' || c = backtick

/-- Characters that operators can be made of. Only one grammar lets them be combined freely. -/
def extendsOperator (d : Dialect) (c : Char) : Bool :=
  d == .postgres &&
    ['+', '-', '*', '/', '<', '>', '=', '~', '!', '@', '#', '%', '^', '&', '|', backtick,
      '?'].contains c

def isPostgres (d : Dialect) : Bool := d == .postgres
def isGeneric (d : Dialect) : Bool := d == .generic
def isMySql (d : Dialect) : Bool := d == .mySql

/-- `U&'...'` strings, and `E'...'` strings as values. -/
def hasEscapeStrings (d : Dialect) : Bool := d == .postgres || d == .generic

/-- `B'...'`. -/
def hasByteStrings (d : Dialect) : Bool := d == .postgres || d == .generic || d == .mySql

def hasLimitComma (d : Dialect) : Bool := d == .mySql || d == .generic || d == .sqlite

/-- `FILTER (WHERE ...)` after a call. -/
def hasCallFilter (d : Dialect) : Bool := d == .postgres || d == .sqlite

/-- `CONNECT BY` behind a select. -/
def hasHierarchies (d : Dialect) : Bool := d == .generic || d == .sqlServer

def hasBooleanLiterals (d : Dialect) : Bool := d != .sqlServer

/-- The loosest binding first. -/
structure Precedences where
  or : Nat
  and : Nat
  not : Nat
  is : Nat
  comparison : Nat
  like : Nat
  between : Nat
  other : Nat
  pipe : Nat
  caret : Nat
  ampersand : Nat
  xor : Nat
  plus : Nat
  times : Nat
  timeZone : Nat
  collation : Nat
  bracket : Nat
  cast : Nat

def precedences : Dialect → Precedences
  | .postgres =>
    { or := 10, and := 20, not := 30, is := 40, comparison := 50, like := 60, between := 60,
      other := 70, pipe := 70, caret := 100, ampersand := 70, xor := 75, plus := 80, times := 90,
      timeZone := 110, collation := 120, bracket := 130, cast := 140 }
  | _ =>
    { or := 5, and := 10, not := 15, other := 16, is := 17, like := 19, comparison := 20,
      between := 20, pipe := 21, caret := 22, ampersand := 23, xor := 24, plus := 30, times := 40,
      timeZone := 41, collation := 0, bracket := 50, cast := 50 }

end Dialect

end SqlLoom.Grammar
