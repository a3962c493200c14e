import KustoSearch.Text.Blank
import KustoSearch.Text.Join
import KustoSearch.Text.Percent
import KustoSearch.Text.Utf8

/-! # Routes

What a target asks for. Only its path matters: neither a scheme and a host before it nor a query or
a fragment behind it do. An index is one segment of the path, and may be empty; its escapes are
resolved after the path has been split, so an escaped slash belongs to the index.
-/

namespace KustoSearch.Http

/-- What a path asks for. -/
inductive Route where
  /-- One search of an index. -/
  | search (index : String)
  /-- Several searches; the index serves those that name none. -/
  | multiSearch (index : String)
deriving DecidableEq, Repr

namespace Route

/-- The index of a path that names none; no search accepts it. -/
def anyIndex : String := "*"

/-- Whether a character may be in the name of a scheme. -/
def isSchemePart (c : Char) : Bool := c.isAlphanum || c = '+' || c = '-' || c = '.'

/-- What follows the scheme of an absolute target. -/
def afterScheme? (target : List Char) : Option (List Char) :=
  Text.stripLead? "://".toList (target.dropWhile isSchemePart)

/-- The path at the head of a text. -/
def leadingPath (cs : List Char) : List Char := cs.takeWhile fun c => c ≠ '?' && c ≠ '#'

/-- The path of a target. An absolute target without one has the path of a slash, and a target that
is only a host has none. -/
def path (target : String) : List Char :=
  let cs := target.toList
  match cs with
  | '/' :: _ => leadingPath cs
  | _ =>
    match afterScheme? cs with
    | none => []
    | some rest =>
      let path := leadingPath (rest.dropWhile fun c => c ≠ '/' && c ≠ '?' && c ≠ '#')
      if path.isEmpty then ['/'] else path

/-- The index that a segment names, unless its bytes are no text. -/
def index? (segment : List Char) : Option String :=
  (Text.Utf8.decode? (Text.Percent.unescape segment)).map String.ofList

/-- The route of the segments of a path: outer `none` when there is none, and inner `none` when the
index is no text. -/
def ofSegments? : List (List Char) → Option (Option Route)
  | [[], name] =>
    if name = "_search".toList then some (some (.search anyIndex))
    else if name = "_msearch".toList then some (some (.multiSearch anyIndex))
    else none
  | [[], segment, name] =>
    if name = "_search".toList then some ((index? segment).map .search)
    else if name = "_msearch".toList then some ((index? segment).map .multiSearch)
    else none
  | _ => none

/-- The route of a target. -/
def ofTarget? (target : String) : Option (Option Route) :=
  ofSegments? (Text.splitWhere (· = '/') (path target))

end Route

end KustoSearch.Http
