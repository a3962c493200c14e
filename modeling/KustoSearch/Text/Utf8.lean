/-! # UTF-8

Bytes to characters. `decode?` refuses anything that is not well formed; `decodeLossy` puts one
replacement character in the place of each maximal piece of a sequence that cannot be completed.
-/

namespace KustoSearch.Text.Utf8

/-- The head of a byte sequence: a character, or the number of bytes that no character explains. -/
inductive Step where
  | char (c : Char) (size : Nat)
  | broken (size : Nat)

/-- Whether `b` may follow the lead byte as one of its later bytes. -/
def isTail (b : UInt8) : Bool := 0x80 ≤ b && b ≤ 0xBF

/-- Bounds of the byte after the lead byte `b`; they exclude overlong forms, surrogates and
numbers past the last code point. -/
def secondBounds (b : UInt8) : UInt8 × UInt8 :=
  if b == 0xE0 then (0xA0, 0xBF)
  else if b == 0xED then (0x80, 0x9F)
  else if b == 0xF0 then (0x90, 0xBF)
  else if b == 0xF4 then (0x80, 0x8F)
  else (0x80, 0xBF)

/-- Whether `c` may follow the lead byte `b` directly. -/
def isSecond (b c : UInt8) : Bool :=
  let (lo, hi) := secondBounds b
  lo ≤ c && c ≤ hi

/-- Six payload bits of a later byte. -/
def payload (b : UInt8) : Nat := b.toNat % 64

/-- What the non-empty sequence `b :: bs` begins with. -/
def step (b : UInt8) (bs : List UInt8) : Step :=
  if b < 0x80 then .char (Char.ofNat b.toNat) 1
  else if 0xC2 ≤ b && b ≤ 0xDF then
    match bs with
    | c :: _ =>
      if isTail c then .char (Char.ofNat ((b.toNat - 0xC0) * 64 + payload c)) 2 else .broken 1
    | [] => .broken 1
  else if 0xE0 ≤ b && b ≤ 0xEF then
    match bs with
    | c :: rest =>
      if isSecond b c then
        match rest with
        | d :: _ =>
          if isTail d then
            .char (Char.ofNat ((b.toNat - 0xE0) * 4096 + payload c * 64 + payload d)) 3
          else .broken 2
        | [] => .broken 2
      else .broken 1
    | [] => .broken 1
  else if 0xF0 ≤ b && b ≤ 0xF4 then
    match bs with
    | c :: rest =>
      if isSecond b c then
        match rest with
        | d :: rest =>
          if isTail d then
            match rest with
            | e :: _ =>
              if isTail e then
                .char (Char.ofNat
                  ((b.toNat - 0xF0) * 262144 + payload c * 4096 + payload d * 64 + payload e)) 4
              else .broken 3
            | [] => .broken 3
          else .broken 2
        | [] => .broken 2
      else .broken 1
    | [] => .broken 1
  else .broken 1

/-- Decodes with at most `fuel` steps; `replace` says what stands for a broken piece. -/
def decodeWith (replace : Option Char) : (fuel : Nat) → List UInt8 → Option (List Char)
  | _, [] => some []
  | 0, _ :: _ => none
  | fuel + 1, b :: bs =>
    match step b bs with
    | .char c size => (decodeWith replace fuel (bs.drop (size - 1))).map (c :: ·)
    | .broken size =>
      match replace with
      | none => none
      | some r => (decodeWith replace fuel (bs.drop (size - 1))).map (r :: ·)

/-- The characters of a well-formed sequence. -/
def decode? (bs : List UInt8) : Option (List Char) := decodeWith none bs.length bs

/-- The characters of any sequence, with U+FFFD for broken pieces. -/
def decodeLossy (bs : List UInt8) : List Char :=
  (decodeWith (some (Char.ofNat 0xFFFD)) bs.length bs).getD []

end KustoSearch.Text.Utf8
