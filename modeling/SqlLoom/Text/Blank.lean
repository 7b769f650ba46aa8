/-! Blank characters and the words between them. -/
namespace SqlLoom.Text

/-- The Unicode property White_Space. -/
def isBlank (c : Char) : Bool :=
  let n := c.toNat
  (0x9 ≤ n && n ≤ 0xD) || n == 0x20 || n == 0x85 || n == 0xA0 || n == 0x1680 ||
    (0x2000 ≤ n && n ≤ 0x200A) || n == 0x2028 || n == 0x2029 || n == 0x202F || n == 0x205F ||
    n == 0x3000

/-- The runs of characters that are not blank; the first is empty in front of a blank. -/
def runs : List Char → List Char × List (List Char)
  | [] => ([], [])
  | c :: cs =>
    let (w, ws) := runs cs
    if isBlank c then ([], w :: ws) else (c :: w, ws)

/-- Maximal runs of characters that are not blank. -/
def words (cs : List Char) : List (List Char) :=
  let (w, ws) := runs cs
  (w :: ws).filter fun w => !w.isEmpty

/-- The first `n` words, joined by one blank. -/
def leadingWords (n : Nat) (s : String) : String :=
  String.intercalate " " ((words s.toList).take n |>.map String.ofList)

end SqlLoom.Text
