/-! Text of names: ASCII case folding, cutting at a separator, and enclosing in quotes that are
doubled inside. -/
namespace SqlLoom.Text

/-- ASCII letters in lower case, every other character as it is. -/
def foldCase (s : String) : String := String.ofList (s.toList.map Char.toLower)

/-- Names are the same when they agree up to ASCII case. -/
def sameName (a b : String) : Bool := foldCase a == foldCase b

/-- ASCII letters in upper case, every other character as it is. -/
def raiseCase (s : String) : String := String.ofList (s.toList.map Char.toUpper)

def capitalizedChars : Bool → List Char → List Char
  | _, [] => []
  | _, '_' :: cs => capitalizedChars true cs
  | initial, c :: cs => (if initial then c.toUpper else c.toLower) :: capitalizedChars false cs

/-- The words between underscores without these, each with its first letter in upper case and the
others in lower case. -/
def capitalized (s : String) : String := String.ofList (capitalizedChars true s.toList)

def cutFirstChars (c : Char) : List Char → Option (List Char × List Char)
  | [] => none
  | x :: xs =>
    if x = c then some ([], xs) else (cutFirstChars c xs).map fun (a, b) => (x :: a, b)

def cutLastChars (c : Char) : List Char → Option (List Char × List Char)
  | [] => none
  | x :: xs =>
    match cutLastChars c xs with
    | some (a, b) => some (x :: a, b)
    | none => if x = c then some ([], xs) else none

/-- The text before and after the first occurrence of `c`. -/
def cutFirst (c : Char) (s : String) : Option (String × String) :=
  (cutFirstChars c s.toList).map fun (a, b) => (String.ofList a, String.ofList b)

/-- The text before and after the last occurrence of `c`. -/
def cutLast (c : Char) (s : String) : Option (String × String) :=
  (cutLastChars c s.toList).map fun (a, b) => (String.ofList a, String.ofList b)

/-- Every occurrence of `c` written twice. -/
def double (c : Char) : List Char → List Char
  | [] => []
  | x :: xs => if x = c then c :: c :: double c xs else x :: double c xs

/-- The text between quotes, with the closing quote doubled inside. -/
def enclose (opening closing : Char) (s : String) : String :=
  String.ofList (opening :: double closing s.toList ++ [closing])

/-- Reads up to the closing quote, a doubled one standing for itself. Returns the text and what
follows the quote. -/
def readEnclosed (closing : Char) : List Char → Option (List Char × List Char)
  | [] => none
  | [x] => if x = closing then some ([], []) else none
  | x :: y :: rest =>
    if x = closing then
      if y = closing then (readEnclosed closing rest).map fun (a, b) => (x :: a, b)
      else some ([], y :: rest)
    else (readEnclosed closing (y :: rest)).map fun (a, b) => (x :: a, b)

/-- Removes later repeats, keeping the order of first occurrence. -/
def distinct [BEq α] (xs : List α) : List α :=
  xs.foldl (fun seen x => if seen.contains x then seen else seen ++ [x]) []

def commaList (xs : List String) : String := String.intercalate ", " xs

end SqlLoom.Text
