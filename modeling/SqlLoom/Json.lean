import SqlLoom.Decimal

/-! JSON documents. Object members keep their order, and a document just read may still hold one
key several times; `Json.merged` settles that. -/
namespace SqlLoom

inductive JsonNumber where
  | int (n : Int)
  | float (x : Binary64)
  deriving DecidableEq, Repr

inductive Json where
  | null
  | bool (b : Bool)
  | num (n : JsonNumber)
  | str (s : String)
  | arr (items : List Json)
  | obj (members : List (String × Json))

instance : Inhabited Json := ⟨.null⟩

def JsonNumber.equals : JsonNumber → JsonNumber → Bool
  | .int m, .int n => m == n
  | .float x, .float y => x.equals y
  | _, _ => false

def JsonNumber.text : JsonNumber → String
  | .int n => toString n
  | .float x => x.jsonText

namespace Json

/-- The value under a key. -/
def lookup (key : String) : List (String × α) → Option α
  | [] => none
  | (k, v) :: rest => if k = key then some v else lookup key rest

/-- Replaces the value of a key where it stands, or adds the key at the end. -/
def put (key : String) (value : α) : List (String × α) → List (String × α)
  | [] => [(key, value)]
  | (k, v) :: rest => if k = key then (k, value) :: rest else (k, v) :: put key value rest

/-- One member for each key: the last value, at the place of the first. -/
def mergeMembers (members : List (String × α)) : List (String × α) :=
  members.foldl (fun kept (k, v) => put k v kept) []

mutual
/-- The document with repeated keys merged at every depth. -/
def merged : Json → Json
  | .arr items => .arr (mergedItems items)
  | .obj members => .obj (mergeMembers (mergedMembers members))
  | j => j
def mergedItems : List Json → List Json
  | [] => []
  | j :: js => j.merged :: mergedItems js
def mergedMembers : List (String × Json) → List (String × Json)
  | [] => []
  | (k, j) :: ms => (k, j.merged) :: mergedMembers ms
end

mutual
/-- Equality of documents; the order of object members does not count. -/
def equals : Json → Json → Bool
  | .null, .null => true
  | .bool a, .bool b => a == b
  | .num m, .num n => m.equals n
  | .str a, .str b => a == b
  | .arr xs, .arr ys => equalItems xs ys
  | .obj ms, .obj ns => ms.length == ns.length && membersIn ms ns
  | _, _ => false
def equalItems : List Json → List Json → Bool
  | [], [] => true
  | x :: xs, y :: ys => x.equals y && equalItems xs ys
  | _, _ => false
def membersIn : List (String × Json) → List (String × Json) → Bool
  | [], _ => true
  | (k, j) :: ms, ns =>
    (match lookup k ns with
      | some j' => j.equals j'
      | none => false) && membersIn ms ns
end

def get? (j : Json) (key : String) : Option Json :=
  match j with
  | .obj members => lookup key members
  | _ => none

/-- Whether a key stands in the list more than once. -/
def repeats (key : String) (members : List (String × α)) : Bool :=
  1 < (members.filter fun m => m.1 == key).length

end Json

end SqlLoom
