import SqlLoom.Json

/-! Text of JSON documents, on one line or indented by two blanks. -/
namespace SqlLoom.Json

def hexDigit (n : Nat) : Char :=
  if n < 10 then Char.ofNat (n + '0'.toNat) else Char.ofNat (n - 10 + 'a'.toNat)

/-- Quotes, backslashes and control characters are escaped; everything else stands for itself. -/
def escapeChar (c : Char) : List Char :=
  if c = '"' then ['\\', '"']
  else if c = '\\' then ['\\', '\\']
  else if c = '\n' then ['\\', 'n']
  else if c = '\r' then ['\\', 'r']
  else if c = '\t' then ['\\', 't']
  else if c.toNat = 8 then ['\\', 'b']
  else if c.toNat = 12 then ['\\', 'f']
  else if c.toNat < 32 then
    ['\\', 'u', '0', '0', hexDigit (c.toNat / 16), hexDigit (c.toNat % 16)]
  else [c]

def quote (s : String) : String :=
  "\"" ++ String.ofList (s.toList.flatMap escapeChar) ++ "\""

def atom : Json → String
  | .null => "null"
  | .bool true => "true"
  | .bool false => "false"
  | .num n => n.text
  | .str s => quote s
  | _ => ""

mutual
def compact : Json → String
  | .arr items => "[" ++ String.intercalate "," (compactItems items) ++ "]"
  | .obj members => "\x7b" ++ String.intercalate "," (compactMembers members) ++ "\x7d"
  | j => j.atom
def compactItems : List Json → List String
  | [] => []
  | j :: js => j.compact :: compactItems js
def compactMembers : List (String × Json) → List String
  | [] => []
  | (k, j) :: ms => (quote k ++ ":" ++ j.compact) :: compactMembers ms
end

def newline (depth : Nat) : String := "\n" ++ String.ofList (List.replicate (2 * depth) ' ')

/-- Parts on lines of their own, between brackets. -/
def block (opening closing : String) (depth : Nat) (parts : List String) : String :=
  if parts.isEmpty then opening ++ closing
  else
    opening ++ newline (depth + 1) ++ String.intercalate ("," ++ newline (depth + 1)) parts ++
      newline depth ++ closing

mutual
def indented (depth : Nat) : Json → String
  | .arr items => block "[" "]" depth (indentedItems (depth + 1) items)
  | .obj members => block "\x7b" "\x7d" depth (indentedMembers (depth + 1) members)
  | j => j.atom
def indentedItems (depth : Nat) : List Json → List String
  | [] => []
  | j :: js => j.indented depth :: indentedItems depth js
def indentedMembers (depth : Nat) : List (String × Json) → List String
  | [] => []
  | (k, j) :: ms => (quote k ++ ": " ++ j.indented depth) :: indentedMembers depth ms
end

/-- One member or item a line. -/
def pretty (j : Json) : String := j.indented 0

end SqlLoom.Json
