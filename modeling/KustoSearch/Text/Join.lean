/-! # Joining and cutting texts

Small operations on strings that the statement text, the routes and the configuration share.
-/

namespace KustoSearch.Text

/-- The parts of a list with `separator` between neighbours. -/
def join (separator : String) : List String → String
  | [] => ""
  | [part] => part
  | part :: next :: rest => part ++ separator ++ join separator (next :: rest)

/-- Whether `s` holds one of the characters in `cs`. -/
def containsAny (s : String) (cs : List Char) : Bool := s.toList.any cs.contains

/-- The rest of `cs` after `lead`, when `cs` begins with it. -/
def stripLead? : (lead : List Char) → List Char → Option (List Char)
  | [], cs => some cs
  | _ :: _, [] => none
  | l :: lead, c :: cs => if l = c then stripLead? lead cs else none

/-- The text before and after the first place where `mark` occurs. -/
def splitAt? (mark : List Char) : List Char → Option (List Char × List Char)
  | [] => if mark.isEmpty then some ([], []) else none
  | c :: cs =>
    match stripLead? mark (c :: cs) with
    | some rest => some ([], rest)
    | none => (splitAt? mark cs).map fun (before, after) => (c :: before, after)

/-- The pieces of a text between the occurrences of `|` twice in a row. -/
def splitBars : List Char → List (List Char)
  | [] => [[]]
  | '|' :: '|' :: cs => [] :: splitBars cs
  | c :: cs =>
    match splitBars cs with
    | [] => [[c]]
    | piece :: pieces => (c :: piece) :: pieces

/-- ASCII capitals become small letters; everything else stays. -/
def lowerChar (c : Char) : Char := if 'A' ≤ c && c ≤ 'Z' then Char.ofNat (c.toNat + 32) else c

/-- `s` with its ASCII capitals made small. -/
def lower (s : String) : String := String.ofList (s.toList.map lowerChar)

end KustoSearch.Text
