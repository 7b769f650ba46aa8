import SqlLoom.Fixture
import SqlLoom.Projection
import SqlLoom.Toml

/-! Settings of the command line, as they are kept in a file. Whatever is missing there keeps its
default, and keys that are not known are ignored. -/
namespace SqlLoom

structure Config where
  format : FormatOptions := {}
  /-- Whether a WITH clause of fixtures quotes its names. -/
  quoteFixtures : Bool := false
  projection : Projection := {}
  deriving DecidableEq, Repr

namespace Config

/-- The fields of a section; an array gives them in order, and a date has none of them. -/
def section? (fields : List String) : Option Toml → Option Toml.Members
  | none => some []
  | some (.table _ members) => some members
  | some (.array items) => some (fields.zip items)
  | some (.tables items) => some (fields.zip (items.map (.table .header)))
  | some .moment => some []
  | some _ => none

def flag? (default : Bool) (key : String) (members : Toml.Members) : Option Bool :=
  match Toml.lookup key members with
  | none => some default
  | some (.bool b) => some b
  | some _ => none

def presetNamed? (name : String) : Option Preset := Preset.all.find? fun p => p.name == name

/-- A preset by its own name only. -/
def preset? (members : Toml.Members) : Option Preset :=
  match Toml.lookup "preset" members with
  | none => some .named
  | some (.text name) => presetNamed? name
  | some (.table _ [(name, .table _ [])]) => presetNamed? name
  | some (.table _ [(name, .array [])]) => presetNamed? name
  | some _ => none

def formatFields : List String := ["preset", "quote_identifiers", "pretty"]
def fixtureFields : List String := ["quote_identifiers"]
def jsonFields : List String := ["use_jsonb", "limit_single"]

def ofMembers? (members : Toml.Members) : Option Config := do
  let format ← section? formatFields (Toml.lookup "format" members)
  let fixtures ← section? fixtureFields (Toml.lookup "fixtures" members)
  let json ← section? jsonFields (Toml.lookup "json" members)
  let preset ← preset? format
  let quoteNames ← flag? true "quote_identifiers" format
  let pretty ← flag? false "pretty" format
  let quoteFixtures ← flag? false "quote_identifiers" fixtures
  let useJsonb ← flag? true "use_jsonb" json
  let limitSingle ← flag? true "limit_single" json
  some { format := { preset, quoteNames, pretty }, quoteFixtures,
         projection := { useJsonb, limitSingle } }

def parse? (s : String) : Option Config := (Toml.parse? s).bind ofMembers?

def flagText (key : String) (b : Bool) : String :=
  key ++ " = " ++ (if b then "true" else "false") ++ "\n"

/-- The settings as a document. -/
def text (c : Config) : String :=
  "[format]\npreset = \"" ++ c.format.preset.name ++ "\"\n" ++
    flagText "quote_identifiers" c.format.quoteNames ++ flagText "pretty" c.format.pretty ++
    "\n[fixtures]\n" ++ flagText "quote_identifiers" c.quoteFixtures ++
    "\n[json]\n" ++ flagText "use_jsonb" c.projection.useJsonb ++
    flagText "limit_single" c.projection.limitSingle

/-- Rendering options, under another preset if one is given. -/
def formatOptions (c : Config) (preset : Option Preset) : FormatOptions :=
  { c.format with preset := preset.getD c.format.preset }

/-- Where the settings are kept, below the directory for settings. -/
def fileName : String := "sqlscope/config.toml"

end Config

end SqlLoom
