import KustoSearch.Engine.Host

/-! # Addresses

The web addresses that a statement can be sent to: an absolute address with one of the two web
schemes and a host. The slashes before the host may be missing or many, and lean either way. Dots in
the path are followed, and characters that an address cannot hold are escaped.
-/

namespace KustoSearch

/-- An address of a service. -/
structure Url where
  /-- Whether the connection is encrypted. -/
  secure : Bool
  host : Host
  /-- The port, when it is not the usual one of the scheme. -/
  port : Option Nat
  path : List String
  query : Option String
  fragment : Option String
deriving DecidableEq, Repr

namespace Url

/-- Whether a character ends the host and what belongs to it. -/
def endsAuthority (c : Char) : Bool := c = '/' || c = '\\' || c = '?' || c = '#'

/-- An address without the control characters and spaces around it, and without tabs and line
ends. -/
def clean (s : String) : List Char :=
  let isOuter (c : Char) : Bool := c.toNat ≤ 0x20
  let inner := ((s.toList.dropWhile isOuter).reverse.dropWhile isOuter).reverse
  inner.filter fun c => c ≠ '\t' && c ≠ '\n' && c ≠ '\r'

/-- The scheme in small letters, and what follows its colon. -/
def scheme? (cs : List Char) : Option (String × List Char) :=
  let isPart (c : Char) : Bool := c.isAlphanum || c = '+' || c = '-' || c = '.'
  match cs.span isPart with
  | (c :: name, ':' :: rest) =>
    if c.isAlpha then some (Text.lower (String.ofList (c :: name)), rest) else none
  | _ => none

/-- What stands after the last `@`. -/
def afterUser (cs : List Char) : List Char := (cs.reverse.takeWhile (· ≠ '@')).reverse

/-- The host and what follows it; a colon between brackets belongs to the host. -/
def splitHost (inside : Bool) : List Char → List Char × List Char
  | [] => ([], [])
  | c :: cs =>
    if c = ':' && !inside then ([], c :: cs)
    else
      let (host, rest) := splitHost (if c = '[' then true else if c = ']' then false else inside) cs
      (c :: host, rest)

/-- The usual port of a scheme. -/
def usualPort (secure : Bool) : Nat := if secure then 443 else 80

/-- The port after its colon; outer `none` when it is not one. -/
def port? : List Char → Option (Option Nat)
  | [] => some none
  | ':' :: [] => some none
  | ':' :: cs => ((Text.natural? cs).filter (· < Nat.pow 2 16)).map some
  | _ => none

/-! ## Paths -/

/-- What is escaped in a path, in a query and in a fragment. -/
def pathEscapes : List Char := "\"#<>?\x60\x7b\x7d".toList
def queryEscapes : List Char := "\"#<>'".toList
def fragmentEscapes : List Char := "\"<>\x60".toList

/-- A text with the characters of a set escaped. -/
def escaped (set cs : List Char) : String := String.ofList (Text.Percent.escape set cs)

/-- A segment with its escaped dots resolved, for telling whether it is one or two dots. -/
def dots : List Char → List Char
  | '%' :: '2' :: 'e' :: cs => '.' :: dots cs
  | '%' :: '2' :: 'E' :: cs => '.' :: dots cs
  | c :: cs => c :: dots cs
  | [] => []

/-- Adds segments to a path in reverse: one dot stays where it is, and two dots go up. A path that
ends with dots ends with a slash. -/
def follow (path : List String) : List (List Char) → List String
  | [] => path
  | [segment] =>
    if dots segment = ['.'] then "" :: path
    else if dots segment = ['.', '.'] then "" :: path.drop 1
    else escaped pathEscapes segment :: path
  | segment :: rest =>
    if dots segment = ['.'] then follow path rest
    else if dots segment = ['.', '.'] then follow (path.drop 1) rest
    else follow (escaped pathEscapes segment :: path) rest

/-- The segments of a path, which begins with a slash unless it is empty. -/
def segments (cs : List Char) : List String :=
  (follow [] (Text.splitWhere (fun c => c = '/' || c = '\\') (cs.drop 1))).reverse

/-- What follows a mark, when the text begins with it. -/
def after? (mark : Char) : List Char → Option (List Char)
  | [] => none
  | c :: cs => if c = mark then some cs else none

/-! ## Addresses -/

/-- The address that a text is. -/
def read? (s : String) : Option Url := do
  let (scheme, rest) ← scheme? (clean s)
  let secure ← if scheme = "https" then some true else if scheme = "http" then some false else none
  let rest := rest.dropWhile fun c => c = '/' || c = '\\'
  let (authority, rest) := rest.span fun c => !endsAuthority c
  let (host, port) := splitHost false (afterUser authority)
  let host ← Host.read? host
  let port ← port? port
  let (path, rest) := rest.span fun c => c ≠ '?' && c ≠ '#'
  let (query, fragment) := rest.span (· ≠ '#')
  some {
    secure := secure
    host := host
    port := port.filter (· ≠ usualPort secure)
    path := segments path
    query := (after? '?' query).map (escaped queryEscapes)
    fragment := (after? '#' fragment).map (escaped fragmentEscapes) }

/-- What is asked for at the host. -/
def target (url : Url) : String :=
  "/" ++ Text.join "/" url.path ++
    match url.query with
    | none => ""
    | some query => "?" ++ query

/-- The text of an address. -/
def text (url : Url) : String :=
  (if url.secure then "https" else "http") ++ "://" ++ url.host.text ++
    (match url.port with
      | none => ""
      | some port => ":" ++ Text.naturalText port) ++
    url.target ++
    match url.fragment with
    | none => ""
    | some fragment => "#" ++ fragment

/-- The longest address that is sent. -/
def maxSize : Nat := 65534

/-- Whether a request for an address can be written down: it is not too long, and its host holds
nothing that a request cannot name. -/
def isSendable (url : Url) : Bool :=
  url.text.utf8ByteSize ≤ maxSize && !Text.containsAny url.host.text ['"', '\x60', '\x7b', '\x7d']

end Url

end KustoSearch
