import KustoSearch.DomainName.Direction
import KustoSearch.DomainName.Joining
import KustoSearch.DomainName.Mapping
import KustoSearch.DomainName.Punycode
import KustoSearch.Text.Join

/-! # Domain names in ASCII

The form of a domain name that is looked up: small letters, and labels with other characters spelled
out behind `xn--`. A label that comes spelled out has to stand for one that would be spelled so.
-/

namespace KustoSearch.DomainName

/-- What a spelled label begins with. -/
def spelledMark : List Char := "xn--".toList

/-- The longest spelled label that is read, without its mark, and the longest label that is
spelled. -/
def maxSpelling : Nat := 2000
def maxLabel : Nat := 1000

/-- Whether a character may not be in a domain name. -/
def isForbidden (c : Char) : Bool :=
  c.toNat ≤ 0x20 || c.toNat = 0x7F || "%#/:<>?@[\\]^|".toList.contains c

/-- Whether a label has no characters but those of ASCII. -/
def isAscii (label : List Char) : Bool := label.all fun c => c.toNat < 0x80

/-- Whether a label, its characters mapped, is in order by itself. -/
def isValid (label : List Char) : Bool :=
  !label.any isForbidden && !(label.head?.any isMark) && joinersFit [] label &&
    (isAscii label || label.length ≤ maxLabel)

/-- Whether a label is what mapping it gives, in canonical form. -/
def isSettled (label : List Char) : Bool :=
  map? label = some label && canonical label = label

/-- The label of a spelling behind the mark. Only a label with other characters than those of ASCII
is spelled out. -/
def unspelled? (spelling : List Char) : Option (List Char) :=
  if spelling.isEmpty || spelling.getLast? = some '-' || maxSpelling < spelling.length then none
  else
    (Punycode.decode? spelling).filter fun label =>
      isSettled label && (Text.stripLead? spelledMark label).isNone

/-- The label that a mapped one stands for. -/
def label? (label : List Char) : Option (List Char) :=
  (match Text.stripLead? spelledMark label with
    | some spelling => unspelled? spelling
    | none => some label).filter isValid

/-- The label as it is looked up. -/
def asciiLabel (label : List Char) : List Char :=
  if isAscii label then label else spelledMark ++ Punycode.encode label

/-- The labels of a name. -/
def labels? (name : List Char) : Option (List (List Char)) := do
  let mapped ← map? name
  let labels ← (Text.splitWhere (· = '.') (canonical mapped)).mapM label?
  if fitsDirections labels then some labels else none

/-- The name as it is looked up. -/
def ascii? (name : List Char) : Option (List Char) :=
  (labels? name).map fun labels =>
    ['.'].intercalate (labels.map asciiLabel)

end KustoSearch.DomainName
