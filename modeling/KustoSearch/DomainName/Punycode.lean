import KustoSearch.Text.Numeral

/-! # Punycode

Labels of any characters spelled with ASCII letters, digits and hyphens. The ASCII characters come
first, up to the last hyphen; what follows tells, in numerals whose digits have varying weights,
where each of the other characters goes, in ascending order of code points.
-/

namespace KustoSearch.DomainName.Punycode

/-- The value of a digit: letters count from zero, digits from twenty-six. -/
def digit? (c : Char) : Option Nat :=
  if 'a' ≤ c && c ≤ 'z' then some (c.toNat - 97)
  else if 'A' ≤ c && c ≤ 'Z' then some (c.toNat - 65)
  else if Text.isDigit c then some (26 + Text.digitValue c)
  else none

/-- The digit of a value below thirty-six. -/
def digit (d : Nat) : Char :=
  if d < 26 then Char.ofNat (97 + d) else Text.digitChar (d - 26)

/-- The least value of a digit, at position `k` of its numeral, that another one follows. -/
def threshold (bias k : Nat) : Nat := max 1 (min 26 (k - bias))

theorem threshold_pos (bias k : Nat) : 1 ≤ threshold bias k := Nat.le_max_left ..

/-- Divides by thirty-five until the number is at most 455; counts thirty-six for each time. -/
def scale (delta k : Nat) : Nat × Nat :=
  if 455 < delta then scale (delta / 35) (k + 36) else (delta, k)
termination_by delta
decreasing_by omega

/-- The bias after a distance, when `size` characters are in place. -/
def adapt (delta size : Nat) (isFirst : Bool) : Nat :=
  let delta := if isFirst then delta / 700 else delta / 2
  let (delta, k) := scale (delta + delta / size) 0
  k + 36 * delta / (delta + 38)

/-- The bias before the first distance. -/
def initialBias : Nat := 72

/-! ## Reading -/

/-- What is left of a text after a numeral. -/
structure Numeral (cs : List Char) where
  value : Nat
  rest : List Char
  shorter : rest.length < cs.length

/-- Adds the numeral at the head of a text to `value`; it has to stay below 2^32, and so has the
weight of a digit. -/
def numeral? (bias : Nat) : (k weight value : Nat) → (cs : List Char) → Option (Numeral cs)
  | _, _, _, [] => none
  | k, weight, value, c :: cs => do
    let d ← digit? c
    let value := value + d * weight
    if Nat.pow 2 32 ≤ value then none
    else
      let t := threshold bias k
      if d < t then some ⟨value, cs, by simp⟩
      else
        let weight := weight * (36 - t)
        if Nat.pow 2 32 ≤ weight then none
        else
          let n ← numeral? bias (k + 36) weight value cs
          some ⟨n.value, n.rest, by have := n.shorter; simp; omega⟩

/-- A code point as a character. -/
def char? (code : Nat) : Option Char :=
  if code.isValidChar then some (Char.ofNat code) else none

/-- Puts the characters that numerals tell of into `label`, the next one no sooner than `code` and,
with that code point, no sooner than `place`. -/
def insertions? (bias code place : Nat) (label cs : List Char) : Option (List Char) :=
  match cs with
  | [] => some label
  | c :: cs => do
    let n ← numeral? bias 36 1 place (c :: cs)
    let size := label.length + 1
    let code := code + n.value / size
    let inserted ← char? code
    let target := n.value % size
    insertions? (adapt (n.value - place) size (place == 0)) code (target + 1)
      (label.insertIdx target inserted) n.rest
termination_by cs.length
decreasing_by exact n.shorter

/-- The ASCII characters and the numerals of a spelling. A hyphen at its head divides nothing. -/
def parts (cs : List Char) : List Char × List Char :=
  let numerals := (cs.reverse.takeWhile (· ≠ '-')).reverse
  let literal := cs.take (cs.length - numerals.length - 1)
  if literal.isEmpty then ([], cs) else (literal, numerals)

/-- The label that a spelling stands for. -/
def decode? (cs : List Char) : Option (List Char) :=
  let (literal, numerals) := parts cs
  if literal.all fun c => c.toNat < 0x80 then insertions? initialBias 0x80 0 literal numerals
  else none

/-! ## Writing -/

/-- The digits of a number. -/
def numeral (bias k q : Nat) : List Char :=
  let t := threshold bias k
  if q < t then [digit q]
  else digit (t + (q - t) % (36 - t)) :: numeral bias (k + 36) ((q - t) / (36 - t))
termination_by q
decreasing_by
  have := threshold_pos bias k
  have := Nat.div_le_self (q - threshold bias k) (36 - threshold bias k)
  omega

/-- A spelling in progress. -/
structure Spelling where
  /-- What is written, last character first. -/
  written : List Char
  /-- The distance from the last written place. -/
  delta : Nat
  bias : Nat
  /-- How many characters of the label are written. -/
  size : Nat

/-- Passes a character of the label while those with the code point `code` are written. -/
def Spelling.pass (isFirst : Nat → Bool) (code : Nat) (s : Spelling) (c : Char) : Spelling :=
  if c.toNat < code then { s with delta := s.delta + 1 }
  else if c.toNat = code then
    { written := (numeral s.bias 36 s.delta).reverse ++ s.written
      delta := 0
      bias := adapt s.delta (s.size + 1) (isFirst s.size)
      size := s.size + 1 }
  else s

/-- Writes the characters with each of the code points, given in ascending order, the last one
written being below `next`. -/
def spell (label : List Char) (isFirst : Nat → Bool) :
    (codes : List Nat) → (next : Nat) → Spelling → Spelling
  | [], _, s => s
  | code :: codes, next, s =>
    let s := { s with delta := s.delta + (code - next) * (s.size + 1) }
    let s := label.foldl (Spelling.pass isFirst code) s
    spell label isFirst codes (code + 1) { s with delta := s.delta + 1 }

/-- The different code points past ASCII in a label, in ascending order. -/
def codes (label : List Char) : List Nat :=
  let all := (label.map Char.toNat).filter (0x80 ≤ ·)
  (all.mergeSort (· ≤ ·)).foldr (fun n ns => if ns.head? = some n then ns else n :: ns) []

/-- The spelling of a label. -/
def encode (label : List Char) : List Char :=
  let literal := label.filter fun c => c.toNat < 0x80
  let start : Spelling := ⟨[], 0, initialBias, literal.length⟩
  let s := spell label (· == literal.length) (codes label) 0x80 start
  literal ++ (if literal.isEmpty then [] else ['-']) ++ s.written.reverse

end KustoSearch.DomainName.Punycode
