import SqlLoom.Grammar.Parser.Alterations
import SqlLoom.Grammar.Parser.Copies
import SqlLoom.Grammar.Parser.Routines
import SqlLoom.Grammar.Parser.Sessions
import SqlLoom.Grammar.Parser.Upkeep

/-! Statements of every kind, and the depth to which they may nest. Of a statement that is neither a
query nor a data change nor a table definition only the beginning of its text is kept. -/
namespace SqlLoom.Grammar

namespace Parser

/-- How deep statements, queries and expressions may nest together. -/
def depthLimit : Nat := 50

/-- What follows `REPLACE`, in the grammars where it leads a statement of its own. -/
def replacing (r : Rules) : Parser Statement := do
  if ← dialectIn [.mySql, .generic] then insert r "REPLACE"
  else failWith "Unsupported statement REPLACE" (← peek).position

/-- What follows the first word of a statement that some grammars have. -/
def special? (d : Dialect) (r : Rules) (k : String) : Option (Parser Statement) :=
  match k with
  | "LISTEN" => if d.isPostgres then some do return .other ("LISTEN " ++ (← ident).text) else none
  | "UNLISTEN" => if d.isPostgres then some unlistening else none
  | "NOTIFY" => if d.isPostgres then some notifying else none
  | "COMMENT" => if d.isPostgres || d.isGeneric then some commenting else none
  | "DETACH" => if d.isGeneric then some detaching else none
  | "INSTALL" => if d.isGeneric then some do return .other ("INSTALL " ++ (← ident).text) else none
  | "OPTIMIZE" => if d.isGeneric then some (optimizing r) else none
  | _ => none

/-- What follows the first word of a statement that all grammars have. -/
def general? (r : Rules) (k : String) : Option (Parser Statement) :=
  match k with
  | "INSERT" => some (insert r "INSERT")
  | "REPLACE" => some (replacing r)
  | "UPDATE" => some (.update <$> update r)
  | "DELETE" => some (.delete <$> delete r)
  | "MERGE" => some (merge r)
  | "CREATE" => some (create r)
  | "DROP" => some (drop r)
  | "ALTER" => some (alter r)
  | "TRUNCATE" => some (truncate r)
  | "ANALYZE" => some (analyzing r)
  | "MSCK" => some checking
  | "CACHE" => some (caching r)
  | "UNCACHE" => some uncaching
  | "ATTACH" => some (attaching r)
  | "PRAGMA" => some pragma
  | "KILL" => some killing
  | "FLUSH" => some flushing
  | "DISCARD" => some discarding
  | "COPY" => some (copying r)
  | "UNLOAD" => some (unloading r)
  | "LOAD" => some loading
  | "DECLARE" => some (declaration r)
  | "FETCH" => some fetching
  | "CLOSE" => some closing
  | "PREPARE" => some (preparation r)
  | "EXECUTE" | "EXEC" => some (execution r)
  | "DEALLOCATE" => some deallocation
  | "CALL" => some (calling r)
  | "ASSERT" => some (assertion r)
  | "EXPLAIN" | "DESCRIBE" | "DESC" => some (explain r k)
  | "SHOW" => some (showing r)
  | "SET" => some (setting r)
  | "USE" => some do return .other ("USE " ++ Ident.dotted (← objectName))
  | "GRANT" => some grant
  | "REVOKE" => some revoke
  | "BEGIN" => some begin
  | "START" => some startTransaction
  | "COMMIT" | "END" => some commit
  | "ROLLBACK" => some rollback
  | "SAVEPOINT" => some do return .other ("SAVEPOINT " ++ (← ident).text)
  | "RELEASE" => some release
  | _ => none

/-- A statement, by its first word. -/
def statement (r : Rules) : Parser Statement := do
  let d ← dialect
  match ← locking? with
  | some s => return s
  | none =>
    let t ← peek
    let k := t.token.keyword?.getD ""
    if t.token == .symbol "(" || ["SELECT", "WITH", "VALUES"].contains k then
      return .query (← r.query)
    else if d == .sqlite && k == "REPLACE" then insert r "INSERT"
    else
      match (general? r k).or (special? d r k) with
      | some p =>
        skip
        p
      | none => expected "an SQL statement" t

/-- A data change in place of the body of a query. -/
def change? (r : Rules) : Parser (Option String) := do
  if ← keyword "INSERT" then return some (Print.heading (← insert r "INSERT"))
  else if ← keyword "UPDATE" then return some (Print.update (← update r))
  else return none

/-- The parsers for what nests no deeper than a number of levels. -/
def grammar : Nat → Rules
  | 0 => ⟨fun _ => throw .tooDeep, throw .tooDeep, throw .tooDeep⟩
  | n + 1 =>
    let r := grammar n
    ⟨expression r, query r (change? r), statement r⟩

def statements : Parser (List Statement) := do
  statementsWithin (grammar depthLimit).statement ((← read).steps + 1)

end Parser

/-- The statements in a text. -/
def read (d : Dialect) (sql : String) : Except Failure (List Statement) :=
  match Lexer.tokens d sql with
  | .error (message, position) => .error (.malformed message (some position))
  | .ok ts =>
    match Parser.statements { dialect := d, steps := ts.length } ts with
    | .ok ss _ => .ok ss
    | .error e _ => .error e

end SqlLoom.Grammar
