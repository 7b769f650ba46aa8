import SqlLoom.Json.Reader

/-! Reading the parts of a document that are of use. The rest has to be well formed, but its texts and
numbers need not have a value, and it may nest to any depth. -/
namespace SqlLoom.Json

/-- Which parts of a document are of use. -/
inductive Shape where
  /-- All of it. -/
  | whole
  /-- Of an object, the members with these keys; an array holds them in order. -/
  | record (fields : List (String × Shape))
  /-- Of every item of an array, the same parts. -/
  | list (item : Shape)

/-! ### Passing over values -/

def skipEscape : List Char → Option (List Char)
  | 'u' :: cs => (readHex4 cs).map (·.2)
  | c :: cs => if ['"', '\\', '/', 'b', 'f', 'n', 'r', 't'].contains c then some cs else none
  | [] => none

/-- Goes on behind the closing quote. -/
def skipString : Nat → List Char → Option (List Char)
  | 0, _ => none
  | _ + 1, [] => none
  | n + 1, c :: cs =>
    if c = '"' then some cs
    else if c = '\\' then (skipEscape cs).bind (skipString n)
    else if c.toNat < 32 then none
    else skipString n cs

/-- Goes on behind one or more digits. -/
def skipDigits (cs : List Char) : Option (List Char) :=
  match cs.takeWhile Char.isDigit with
  | [] => none
  | digits => some (cs.drop digits.length)

def skipExponent : List Char → Option (List Char)
  | c :: cs =>
    if c = 'e' ∨ c = 'E' then
      match cs with
      | '+' :: cs | '-' :: cs => skipDigits cs
      | cs => skipDigits cs
    else some (c :: cs)
  | [] => some []

/-- Goes on behind a number without its sign. -/
def skipNumber (cs : List Char) : Option (List Char) := do
  let rest ← skipDigits cs
  if cs.head? = some '0' && rest.length + 1 < cs.length then none
  else
    match rest with
    | '.' :: rest => skipExponent (← skipDigits rest)
    | rest => skipExponent rest

mutual
/-- Goes on behind a value, in at most `n` steps. -/
def skipValue : Nat → List Char → Option (List Char)
  | 0, _ => none
  | n + 1, cs =>
    match skipGaps cs with
    | 'n' :: cs => expect ['u', 'l', 'l'] cs
    | 't' :: cs => expect ['r', 'u', 'e'] cs
    | 'f' :: cs => expect ['a', 'l', 's', 'e'] cs
    | '"' :: cs => skipString (cs.length + 1) cs
    | '-' :: cs => skipNumber cs
    | '[' :: cs =>
      match skipGaps cs with
      | ']' :: rest => some rest
      | cs => skipItems n cs
    | c :: cs =>
      if c.toNat = 0x7B then
        match skipGaps cs with
        | d :: rest => if d.toNat = 0x7D then some rest else skipMembers n (d :: rest)
        | [] => none
      else skipNumber (c :: cs)
    | [] => none
def skipItems : Nat → List Char → Option (List Char)
  | 0, _ => none
  | n + 1, cs =>
    match skipValue n cs with
    | none => none
    | some rest =>
      match skipGaps rest with
      | ',' :: rest => skipItems n rest
      | ']' :: rest => some rest
      | _ => none
def skipMembers : Nat → List Char → Option (List Char)
  | 0, _ => none
  | n + 1, cs =>
    match skipGaps cs with
    | '"' :: cs =>
      match skipString (cs.length + 1) cs with
      | none => none
      | some rest =>
        match skipGaps rest with
        | ':' :: rest =>
          match skipValue n rest with
          | none => none
          | some rest =>
            match skipGaps rest with
            | ',' :: rest => skipMembers n rest
            | c :: rest => if c.toNat = 0x7D then some rest else none
            | [] => none
        | _ => none
    | _ => none
end

/-! ### Taking parts -/

/-- The shapes of the items of an array in place of a record. -/
def itemShapes : List (String × Shape) → Shape × List (String × Shape)
  | [] => (.whole, [])
  | (_, s) :: fields => (s, fields)

mutual
/-- The parts of a value that are of use, in at most `n` steps. -/
def readParts : Nat → Shape → List Char → Option (Json × List Char)
  | 0, _, _ => none
  | n + 1, shape, cs =>
    match shape, skipGaps cs with
    | .list item, '[' :: rest =>
      match skipGaps rest with
      | ']' :: rest => some (.arr [], rest)
      | rest => (readEach n item rest).map fun (js, rest) => (.arr js, rest)
    | .record fields, '[' :: rest =>
      match skipGaps rest with
      | ']' :: rest => some (.arr [], rest)
      | rest => (readInOrder n fields rest).map fun (js, rest) => (.arr js, rest)
    | .record fields, c :: rest =>
      if c.toNat = 0x7B then
        match skipGaps rest with
        | d :: rest =>
          if d.toNat = 0x7D then some (.obj [], rest)
          else (readFields n fields (d :: rest)).map fun (ms, rest) => (.obj ms, rest)
        | [] => none
      else readValue 128 n (c :: rest)
    | _, cs => readValue 128 n cs
def readEach : Nat → Shape → List Char → Option (List Json × List Char)
  | 0, _, _ => none
  | n + 1, item, cs =>
    match readParts n item cs with
    | none => none
    | some (j, rest) =>
      match skipGaps rest with
      | ',' :: rest => (readEach n item rest).map fun (js, rest) => (j :: js, rest)
      | ']' :: rest => some ([j], rest)
      | _ => none
def readInOrder : Nat → List (String × Shape) → List Char → Option (List Json × List Char)
  | 0, _, _ => none
  | n + 1, fields, cs =>
    match readParts n (itemShapes fields).1 cs with
    | none => none
    | some (j, rest) =>
      match skipGaps rest with
      | ',' :: rest =>
        (readInOrder n (itemShapes fields).2 rest).map fun (js, rest) => (j :: js, rest)
      | ']' :: rest => some ([j], rest)
      | _ => none
def readFields : Nat → List (String × Shape) → List Char →
    Option (List (String × Json) × List Char)
  | 0, _, _ => none
  | n + 1, fields, cs =>
    match skipGaps cs with
    | '"' :: cs =>
      match readString (cs.length + 1) [] cs with
      | none => none
      | some (key, rest) =>
        match skipGaps rest with
        | ':' :: rest =>
          let taken := match lookup key fields with
            | some shape => (readParts n shape rest).map fun (j, rest) => ([(key, j)], rest)
            | none => (skipValue n rest).map fun rest => ([], rest)
          match taken with
          | none => none
          | some (member, rest) =>
            match skipGaps rest with
            | ',' :: rest =>
              (readFields n fields rest).map fun (ms, rest) => (member ++ ms, rest)
            | c :: rest => if c.toNat = 0x7D then some (member, rest) else none
            | [] => none
        | _ => none
    | _ => none
end

/-- The parts of a document that are of use, with nothing but blanks around it. -/
def parseParts? (shape : Shape) (s : String) : Option Json :=
  let cs := s.toList
  match readParts (cs.length + 1) shape cs with
  | some (j, rest) => if (skipGaps rest).isEmpty then some j else none
  | none => none

end SqlLoom.Json
