import SqlLoom.Json.Shape
import SqlLoom.Projection

/-! Mappings written in JSON. A field that is known may stand only once; others are ignored. -/
namespace SqlLoom

namespace JsonMapping

def text? : Json → Option String
  | .str s => some s
  | _ => none

/-- The members of an object, each known field at most once. An array holds the fields in order. -/
def fields? (known : List String) : Json → Option (List (String × Json))
  | .obj members => if known.any (Json.repeats · members) then none else some members
  | .arr items => if items.length ≤ known.length then some (known.zip items) else none
  | _ => none

/-- A field that may be missing or null. -/
def optionalText? (key : String) (members : List (String × Json)) : Option (Option String) :=
  match Json.lookup key members with
  | none | some .null => some none
  | some j => (text? j).map some

def requiredText? (key : String) (members : List (String × Json)) : Option String :=
  (Json.lookup key members).bind text?

/-- Pairs in the order of the document, repeated keys included. -/
def readColumns? : Json → Option (List (String × String))
  | .obj members => members.mapM fun (k, j) => (text? j).map (k, ·)
  | _ => none

def entityFields : List String := ["id", "name", "parentId", "propertyName", "columns"]

def mappingFields : List String := ["rootName", "rootEntity", "nestedEntities", "resultFormat"]

def readEntity? (j : Json) : Option JsonEntity := do
  let members ← fields? entityFields j
  let id ← requiredText? "id" members
  let name ← requiredText? "name" members
  let parentId ← optionalText? "parentId" members
  let propertyName ← optionalText? "propertyName" members
  let columns ← (Json.lookup "columns" members).bind readColumns?
  some { id, name, parentId, propertyName, columns }

def readFormat? : Json → Option ResultFormat
  | .str "array" | .obj [("array", .null)] => some .array
  | .str "single" | .obj [("single", .null)] => some .single
  | _ => none

def ofJson? (j : Json) : Option JsonMapping := do
  let members ← fields? mappingFields j
  let rootName ← requiredText? "rootName" members
  let root ← (Json.lookup "rootEntity" members).bind readEntity?
  let nested ← match Json.lookup "nestedEntities" members with
    | some (.arr items) => items.mapM readEntity?
    | some _ => none
    | none => some []
  let format ← match Json.lookup "resultFormat" members with
    | some j => readFormat? j
    | none => some .array
  some { rootName, root, nested, format }

/-- The parts of a document that make up a mapping. -/
def shape : Json.Shape :=
  let entity : Json.Shape := .record (entityFields.map (·, .whole))
  .record (mappingFields.zip [.whole, entity, .list entity, .whole])

/-- The mapping that a text holds. -/
def parse? (s : String) : Option JsonMapping := (Json.parseParts? shape s).bind ofJson?

end JsonMapping

end SqlLoom
