/-! # Blank characters

The characters that separate words, and trimming and splitting by them. `words` never yields
an empty word, and joining a word list back keeps every character that is not blank.
-/

namespace KustoSearch.Text

/-- The characters with the property White_Space. -/
def isBlank (c : Char) : Bool :=
  let n := c.toNat
  (0x9 ≤ n && n ≤ 0xD) || n == 0x20 || n == 0x85 || n == 0xA0 || n == 0x1680 ||
    (0x2000 ≤ n && n ≤ 0x200A) || n == 0x2028 || n == 0x2029 || n == 0x202F || n == 0x205F ||
    n == 0x3000

/-- `cs` without its leading blanks. -/
def trimLeft (cs : List Char) : List Char := cs.dropWhile isBlank

/-- `cs` without its trailing blanks. -/
def trimRight (cs : List Char) : List Char := (cs.reverse.dropWhile isBlank).reverse

/-- `cs` without the blanks around it. -/
def trim (cs : List Char) : List Char := trimRight (trimLeft cs)

/-- The pieces of a text between the characters that satisfy `p`; there is always at least one. -/
def splitWhere (p : Char → Bool) : List Char → List (List Char)
  | [] => [[]]
  | c :: cs =>
    match splitWhere p cs with
    | [] => [[c]]
    | piece :: pieces => if p c then [] :: piece :: pieces else (c :: piece) :: pieces

/-- The non-empty pieces of a text between blanks. -/
def words (cs : List Char) : List (List Char) :=
  (splitWhere isBlank cs).filter fun w => !w.isEmpty

/-- Whether every character is blank. -/
def allBlank (cs : List Char) : Bool := cs.all isBlank

/-- `s` without the blanks around it. -/
def trimmed (s : String) : String := String.ofList (trim s.toList)

/-- Whether `s` is empty or holds blanks only. -/
def isBlankString (s : String) : Bool := allBlank s.toList

end KustoSearch.Text
