import SqlLoom.Grammar.Parser.Columns

/-! Data types, in their canonical spelling. -/
namespace SqlLoom.Grammar.Parser

/-- `(n)`, if a parenthesis follows. -/
def optionalPrecision : Parser (Option Nat) := do
  if ← peekSymbol "(" then return some (← parenthesized literalUnsigned) else return none

/-- `(n)` or `(n, m)`. -/
def optionalPrecisionScale : Parser (Option (Nat × Option Nat)) := do
  if ← peekSymbol "(" then
    parenthesized do
      let n ← literalUnsigned
      if ← symbol "," then return some (n, some (← literalUnsigned)) else return some (n, none)
  else return none

def sized (name : String) (n : Option Nat) : String :=
  match n with
  | some n => name ++ "(" ++ toString n ++ ")"
  | none => name

/-- A type with an optional precision, by its words and the name of its shape. -/
def withPrecision (name tag : String) : Parser Piece := do
  let n ← optionalPrecision
  return ⟨sized name n, .tagged tag [.number? n]⟩

def withPrecisionScale (name tag : String) : Parser Piece := do
  match ← optionalPrecisionScale with
  | some (n, some m) =>
    return ⟨name ++ "(" ++ toString n ++ "," ++ toString m ++ ")",
      .tagged tag [.tagged "PrecisionAndScale" [.number n, .number m]]⟩
  | some (n, none) =>
    return ⟨sized name (some n), .tagged tag [.tagged "Precision" [.number n]]⟩
  | none => return ⟨name, .tagged tag [.text "None"]⟩

/-- A length in characters, or the greatest there is. -/
def characterLength : Parser Piece := do
  if ← keyword "MAX" then return ⟨"MAX", .text "Max"⟩
  else
    let n ← literalUnsigned
    let unit ← oneOf ["CHARACTERS", "OCTETS"]
    return ⟨Print.words [toString n, unit.getD ""], .fields "IntegerLength"
      [("length", .number n), ("unit", .perhaps (unit.map fun k => .text (Text.capitalized k)))]⟩

def withLength (name tag : String) : Parser Piece := do
  if ← peekSymbol "(" then
    let length ← parenthesized characterLength
    return ⟨name ++ "(" ++ length.text ++ ")", .tagged tag [.tagged "Some" [length.shape]]⟩
  else return ⟨name, .tagged tag [.text "None"]⟩

def integerType (name tag : String) : Parser Piece := do
  let n ← optionalPrecision
  if ← keyword "UNSIGNED" then
    return ⟨sized name n ++ " UNSIGNED", .tagged ("Unsigned" ++ tag) [.number? n]⟩
  else return ⟨sized name n, .tagged tag [.number? n]⟩

/-- `TIME` and `TIMESTAMP` with a precision and a time zone. -/
def clockType (name : String) : Parser Piece := do
  let n ← optionalPrecision
  let shape (zone : String) : Shape := .tagged (Text.capitalized name) [.number? n, .text zone]
  match ← oneOf ["WITH", "WITHOUT"] with
  | some k =>
    expectKeywords ["TIME", "ZONE"]
    return ⟨sized name n ++ " " ++ k ++ " TIME ZONE", shape (Text.capitalized k ++ "TimeZone")⟩
  | none => return ⟨sized name n, shape "None"⟩

/-- The short names of `clockType` with a time zone. -/
def zonedType (name tag : String) : Parser Piece := do
  let n ← optionalPrecision
  return ⟨sized name n, .tagged tag [.number? n, .text "Tz"]⟩

/-- `VARYING` and `LARGE OBJECT` behind a character type. -/
def characterType (name : String) : Parser Piece := do
  let tag := Text.capitalized name
  if ← keyword "VARYING" then withLength (name ++ " VARYING") (tag ++ "Varying")
  else if ← keywords ["LARGE", "OBJECT"] then
    withPrecision (name ++ " LARGE OBJECT") (tag ++ "LargeObject")
  else withLength name tag

/-- The strings behind the first one, the closing parenthesis included. -/
def stringsWithin : Nat → Parser (List String)
  | 0 => return []
  | n + 1 => do
    let t ← next
    match t.token with
    | .string .single s =>
      let link ← next
      match link.token with
      | .symbol "," => return s :: (← stringsWithin n)
      | .symbol ")" => return [s]
      | _ => expected ", or \x7d" link
    | _ => expected "a string" t

/-- What follows `SET`: strings in parentheses. -/
def setType : Parser Piece := do
  expectSymbol "("
  let members ← stringsWithin ((← read).steps + 1)
  return ⟨"SET(" ++ Text.commaList (members.map (Quoting.literal .single)) ++ ")",
    .tagged "Set" [.list (members.map Shape.string)]⟩

/-- An enumeration: its members in parentheses, each with an optional number. -/
def enumType (name : String) (bits : Option Nat) : Parser Piece := do
  let members ← parenthesized (commaSeparated do
    let s ← literalString
    let shown := Quoting.literal .single s
    if ← symbol "=" then
      let n ← signedNumber
      return (⟨shown ++ " = " ++ text n, .tagged "NamedValue" [.string s, .expr n]⟩ : Piece)
    else return ⟨shown, .tagged "Name" [.string s]⟩)
  return ⟨name ++ "(" ++ Text.commaList (members.map Piece.text) ++ ")",
    .tagged "Enum" [.list (members.map Piece.shape), .number? bits]⟩

/-- What follows `DATETIME64`: `(n)` or `(n, 'zone')`. -/
def preciseClockType : Parser Piece :=
  parenthesized do
    let n ← literalUnsigned
    let zone ← if ← symbol "," then some <$> literalString else pure none
    let zoneText := (zone.map fun z => ", '" ++ z ++ "'").getD ""
    return ⟨"DateTime64(" ++ toString n ++ zoneText ++ ")",
      .tagged "Datetime64" [.number n, .perhaps (zone.map Shape.string)]⟩

def modifiersWithin : Nat → Parser (List String)
  | 0 => return []
  | n + 1 => do
    let t ← next
    match t.token with
    | .word _ _ => return t.token.text :: (← modifiersWithin n)
    | .number text _ => return text :: (← modifiersWithin n)
    | .string .single s => return s :: (← modifiersWithin n)
    | .symbol "," => modifiersWithin n
    | .symbol ")" => return []
    | _ => expected "type modifiers" t

/-- A name that no built-in type has, with what follows it in parentheses. -/
def customType : Parser DataType := do
  let name ← objectName
  let ms ← if ← symbol "(" then modifiersWithin ((← read).steps + 1) else pure []
  let listed := if ms.isEmpty then "" else "(" ++ Text.commaList ms ++ ")"
  return { text := Ident.dotted name ++ listed, kind := .custom,
           shape := .tagged "Custom" [.objectName name, .list (ms.map Shape.string)] }

/-- Types that are one word, with the names of their shapes. -/
def plainTypes : List (String × String) :=
  [("BOOLEAN", "Boolean"), ("BOOL", "Bool"), ("REAL", "Real"), ("FLOAT4", "Float4"),
    ("FLOAT64", "Float64"), ("FLOAT8", "Float8"), ("TINYBLOB", "TinyBlob"),
    ("MEDIUMBLOB", "MediumBlob"), ("LONGBLOB", "LongBlob"), ("UUID", "Uuid"), ("DATE", "Date"),
    ("JSON", "JSON"), ("JSONB", "JSONB"), ("REGCLASS", "Regclass"), ("TEXT", "Text"),
    ("TINYTEXT", "TinyText"), ("MEDIUMTEXT", "MediumText"), ("LONGTEXT", "LongText"),
    ("BYTEA", "Bytea"), ("INT64", "Int64"), ("TRIGGER", "Trigger")]

/-- Types that are one word and not written in upper case. -/
def cappedTypes : List (String × String) :=
  [("FLOAT32", "Float32"), ("DATE32", "Date32"), ("INT16", "Int16"), ("INT32", "Int32"),
    ("INT128", "Int128"), ("INT256", "Int256"), ("UINT8", "UInt8"), ("UINT16", "UInt16"),
    ("UINT32", "UInt32"), ("UINT64", "UInt64"), ("UINT128", "UInt128"), ("UINT256", "UInt256")]

def integerTypes : List (String × String) :=
  [("TINYINT", "TinyInt"), ("INT2", "Int2"), ("SMALLINT", "SmallInt"), ("MEDIUMINT", "MediumInt"),
    ("INT", "Int"), ("INT4", "Int4"), ("INT8", "Int8"), ("INTEGER", "Integer"),
    ("BIGINT", "BigInt")]

/-- Types with an optional precision. -/
def preciseTypes : List (String × String) :=
  [("FLOAT", "Float"), ("CLOB", "Clob"), ("BINARY", "Binary"), ("VARBINARY", "Varbinary"),
    ("BLOB", "Blob"), ("BYTES", "Bytes"), ("DATETIME", "Datetime"), ("STRING", "String")]

/-- Types with an optional precision and scale. -/
def exactTypes : List (String × String) :=
  [("NUMERIC", "Numeric"), ("DECIMAL", "Decimal"), ("DEC", "Dec"), ("BIGNUMERIC", "BigNumeric"),
    ("BIGDECIMAL", "BigDecimal")]

/-- The types of a table, and how each is read by its words and the name of its shape. -/
def typeFamilies : List (List (String × String) × (String → String → Parser Piece)) :=
  [(plainTypes, fun name tag => return ⟨name, .text tag⟩),
    (cappedTypes, fun _ tag => return ⟨tag, .text tag⟩), (integerTypes, integerType),
    (preciseTypes, withPrecision), (exactTypes, withPrecisionScale)]

/-- The type that a keyword begins, unless it is one of the families. -/
def singularType (k : String) : Option (Parser Piece) :=
  match k with
  | "DOUBLE" => some do
    if ← keyword "PRECISION" then return ⟨"DOUBLE PRECISION", .text "DoublePrecision"⟩
    else return ⟨"DOUBLE", .text "Double"⟩
  | "VARCHAR" | "NVARCHAR" => some (withLength k (Text.capitalized k))
  | "CHARACTER" | "CHAR" => some (characterType k)
  | "BIT" => some do
    if ← keyword "VARYING" then withPrecision "BIT VARYING" "BitVarying"
    else withPrecision "BIT" "Bit"
  | "TIMESTAMP" | "TIME" => some (clockType k)
  | "TIMESTAMPTZ" => some (zonedType k "Timestamp")
  | "TIMETZ" => some (zonedType k "Time")
  | "ENUM" => some (enumType k none)
  | "ENUM8" => some (enumType k (some 8))
  | "ENUM16" => some (enumType k (some 16))
  | "SET" => some setType
  | "DATETIME64" => some preciseClockType
  | "FIXEDSTRING" => some do
    let n ← parenthesized literalUnsigned
    return ⟨sized "FixedString" (some n), .tagged "FixedString" [.number n]⟩
  | _ => none

/-- The type that a keyword begins, if it begins one. -/
def keywordType (k : String) : Option (Parser DataType) :=
  if k = "INTERVAL" then
    some (return { text := k, kind := .interval, shape := .text "Interval" })
  else
    let family? := typeFamilies.findSome? fun (names, read) => (names.lookup k).map (read k)
    ((singularType k).or family?).map fun p => return (← p).type

/-- Brackets behind an element type. -/
def arrayOf (t : DataType) : Nat → Parser DataType
  | 0 => return t
  | n + 1 => do
    if ← symbol "[" then
      let size ← if ← dialectIn [.postgres, .generic] then maybe literalUnsigned else pure none
      expectSymbol "]"
      let shape : Shape := .tagged "Array" [.tagged "SquareBracket" [t.shape, .number? size]]
      arrayOf { text := t.text ++ "[" ++ ((size.map toString).getD "") ++ "]", shape } n
    else return t

/-- The angle bracket that closes a type, unless the type inside took it: whether one more has been
taken. -/
def closingBracket (closed : Bool) : Parser Bool := do
  if closed then return false
  else if ← symbol ">" then return false
  else if ← symbol ">>" then return true
  else expectedHere ">"

/-- A type on its own, which no closing bracket may follow. -/
def unbracketed (p : Parser (DataType × Bool)) : Parser DataType := do
  let (type, closed) ← p
  if closed then
    failWith ("unmatched > after parsing data type " ++ type.text ++ (← peekToken).text) none
  else return type

/-- A name and a type under the name of their shape. -/
def fieldPiece (tag : String) (name : Shape) (shown : String) (t : DataType) : Piece :=
  ⟨Print.words [shown, t.text], .fields tag [("field_name", name), ("field_type", t.shape)]⟩

/-- A field of a structure. It has a name only if two words come next. -/
def structField (type : Parser (DataType × Bool)) : Parser (Piece × Bool) := do
  let named := (wordIdent? (← peek)).isSome && (wordIdent? (← peekAt 1)).isSome
  let name ← if named then some <$> ident else pure none
  let (t, closed) ← type
  return (fieldPiece "StructField" (.perhaps (name.map Shape.ident)) ((name.map Ident.text).getD "")
    t, closed)

def structFieldsWithin (field : Parser (Piece × Bool)) (opening : Option Position) :
    Nat → Parser (List Piece × Bool)
  | 0 => return ([], false)
  | n + 1 => do
    let (f, closed) ← field
    if ← symbol "," then
      if closed then failWith "unmatched > in STRUCT definition" opening
      else
        let (fs, closed) ← structFieldsWithin field opening n
        return (f :: fs, closed)
    else return ([f], closed)

/-- The fields of a structure between angle brackets, if there are any, and whether one closing
bracket more has been taken. The structure itself starts at `opening`. -/
def structFields (field : Parser (Piece × Bool)) (opening : Option Position) :
    Parser (List Piece × Bool) := do
  if ← symbol "<" then
    let (fields, closed) ← structFieldsWithin field opening ((← read).steps + 1)
    return (fields, ← closingBracket closed)
  else return ([], false)

def structText (fields : List Piece) : String :=
  if fields.isEmpty then "STRUCT" else "STRUCT<" ++ Text.commaList (fields.map Piece.text) ++ ">"

/-- Types made of other types, in the grammar that has most of them. -/
def compoundType (r : Rules) (k : String) (type : Parser (DataType × Bool)) :
    Option (Parser Piece) :=
  let whole : Parser DataType := unbracketed type
  let wrapped (name : String) : Option (Parser Piece) := some do
    let t ← parenthesized whole
    return ⟨name ++ "(" ++ t.text ++ ")", .tagged name [t.shape]⟩
  match k with
  | "UNION" => some do
    let fields ← parenthesized (commaSeparated do
      let name ← ident
      return fieldPiece "UnionField" (.ident name) name.text (← whole))
    return ⟨"UNION(" ++ Text.commaList (fields.map Piece.text) ++ ")",
      .tagged "Union" [.list (fields.map Piece.shape)]⟩
  | "NULLABLE" => wrapped "Nullable"
  | "LOWCARDINALITY" => wrapped "LowCardinality"
  | "MAP" => some (parenthesized do
      let key ← whole
      expectSymbol ","
      let value ← whole
      return ⟨"Map(" ++ key.text ++ ", " ++ value.text ++ ")",
        .tagged "Map" [key.shape, value.shape]⟩)
  | "NESTED" => some do
    let columns ← parenthesized (commaSeparated (columnDefinition r (return (← whole).text)))
    let texts := columns.map ColumnDefinition.text
    return ⟨"Nested(" ++ Text.commaList texts ++ ")",
      .tagged "Nested" [.list (texts.map Shape.text)]⟩
  | "TUPLE" => some do
    let fields ← parenthesized (commaSeparated (structField type))
    return ⟨"Tuple(" ++ Text.commaList (fields.map (·.1.text)) ++ ")",
      .tagged "Tuple" [.list (fields.map (·.1.shape))]⟩
  | _ => none

/-- What follows `STRUCT` as a type. -/
def structType (field : Parser (Piece × Bool)) (opening : Option Position) :
    Parser (DataType × Bool) := do
  let (fields, closed) ← structFields field opening
  let shape : Shape := .tagged "Struct" [.list (fields.map Piece.shape), .text "AngleBrackets"]
  return ({ text := structText fields, shape }, closed)

/-- What follows `ARRAY` as a type. -/
def enclosedArray (type : Parser (DataType × Bool)) : Parser (DataType × Bool) := do
  expectSymbol "<"
  let (inner, closed) ← type
  let closed ← closingBracket closed
  let shape : Shape := .tagged "Array" [.tagged "AngleBracket" [inner.shape]]
  return ({ text := "ARRAY<" ++ inner.text ++ ">", shape }, closed)

/-- A type, and whether a closing angle bracket of the type around it has been taken too. -/
def dataTypeWithin (r : Rules) : Nat → Parser (DataType × Bool)
  | 0 => throw .tooDeep
  | n + 1 => do
    let inside := dataTypeWithin r n
    let t ← next
    let generic := (← dialect).isGeneric
    let (type, closed) ← match t.token with
      | .word _ _ =>
        match t.token.keyword?.getD "" with
        | "ARRAY" => enclosedArray inside
        | k =>
          if generic && k == "STRUCT" then structType (structField inside) t.position
          else
            match if generic then compoundType r k inside else none with
            | some p => do pure ((← p).type, false)
            | none =>
              match keywordType k with
              | some p => pure (← p, false)
              | none => do
                modify (t :: ·)
                pure (← customType, false)
      | _ => expected "a data type name" t
    return (← arrayOf type ((← read).steps + 1), closed)

def dataType (r : Rules) : Parser DataType := do
  unbracketed (dataTypeWithin r ((← read).steps + 1))

def typeText (r : Rules) : Parser String := return (← dataType r).text

end SqlLoom.Grammar.Parser
