import ResilientHttp.Json.Number
import ResilientHttp.Text.Utf8

/-! Reading JSON from bytes.

A value that is wanted is read strictly: its texts must be sound, its numbers must have a value,
and it may be nested to a limit. A value that is passed over needs only the right shape. -/
namespace ResilientHttp.Json

def maxDepth : Nat := 127

abbrev Bytes := List UInt8

def isBlankByte (b : UInt8) : Bool := b == 0x20 || b == 0x0A || b == 0x0D || b == 0x09

def skipBlanks (bs : Bytes) : Bytes := bs.dropWhile isBlankByte

def isDigitByte (b : UInt8) : Bool := 0x30 ≤ b && b ≤ 0x39

def leadingDigits (bs : Bytes) : List Nat := (bs.takeWhile isDigitByte).map fun b => b.toNat - 0x30

def afterDigits (bs : Bytes) : Bytes := bs.dropWhile isDigitByte

/-- The fraction of a number: nothing, or a point with at least one digit. -/
def readFraction? : Bytes → Option (Option (List Nat) × Bytes)
  | 0x2E :: rest =>
    let ds := leadingDigits rest
    if ds.isEmpty then none else some (some ds, afterDigits rest)
  | bs => some (none, bs)

/-- The exponent of a number: nothing, or its mark, an optional sign and at least one digit. -/
def readExponent? (bs : Bytes) : Option (Option (Bool × List Nat) × Bytes) :=
  match bs with
  | b :: rest =>
    if b == 0x65 || b == 0x45 then
      let (up, digits) := match rest with
        | 0x2B :: digits => (true, digits)
        | 0x2D :: digits => (false, digits)
        | digits => (true, digits)
      let ds := leadingDigits digits
      if ds.isEmpty then none else some (some (up, ds), afterDigits digits)
    else some (none, bs)
  | [] => some (none, [])

/-- A number after its sign; a zero in front stands alone. -/
def readLiteral? (negative : Bool) (bs : Bytes) : Option (Literal × Bytes) := do
  let digits := leadingDigits bs
  let whole ← match digits with
    | [] => none
    | [0] => some [0]
    | 0 :: _ => none
    | ds => some ds
  let (fraction, bs) ← readFraction? (afterDigits bs)
  let (exponent, bs) ← readExponent? bs
  return (⟨negative, whole, fraction, exponent⟩, bs)

def readHex4? : Bytes → Option (Nat × Bytes)
  | a :: b :: c :: d :: rest => do
    let ns ← [a, b, c, d].mapM fun x => Text.hexValue? (Char.ofNat x.toNat)
    return (ns.foldl (fun n x => n * 16 + x) 0, rest)
  | _ => none

def isHighSurrogate (n : Nat) : Bool := 0xD800 ≤ n && n < 0xDC00

def isLowSurrogate (n : Nat) : Bool := 0xDC00 ≤ n && n < 0xE000

/-- The bytes of a character, last first, in front of others. -/
def pushChar (c : Char) (out : Bytes) : Bytes := c.toString.toUTF8.data.toList.reverse ++ out

/-- What an escape by number stands for: one number, or two that make a pair. -/
def readUnicodeEscape? (strict : Bool) (bs : Bytes) : Option (Char × Bytes) := do
  let (n, rest) ← readHex4? bs
  if !strict then return (' ', rest)
  if isHighSurrogate n then
    match rest with
    | 0x5C :: 0x75 :: rest =>
      let (m, rest) ← readHex4? rest
      guard (isLowSurrogate m)
      return (Char.ofNat (0x10000 + (n - 0xD800) * 0x400 + (m - 0xDC00)), rest)
    | _ => none
  else if isLowSurrogate n then none
  else return (Char.ofNat n, rest)

def shortEscape? (b : UInt8) : Option Char :=
  if b == 0x22 then some '"'
  else if b == 0x5C then some '\\'
  else if b == 0x2F then some '/'
  else if b == 0x62 then some (Char.ofNat 8)
  else if b == 0x66 then some (Char.ofNat 12)
  else if b == 0x6E then some '\n'
  else if b == 0x72 then some '\r'
  else if b == 0x74 then some '\t'
  else none

/-- Reads a text up to its closing quote; `out` holds its bytes, last first. -/
def readText? (strict : Bool) : (fuel : Nat) → (out : Bytes) → Bytes → Option (String × Bytes)
  | 0, _, _ => none
  | fuel + 1, out, bs =>
    match bs with
    | [] => none
    | 0x22 :: rest =>
      match Utf8.decode ⟨out.reverse.toArray⟩ with
      | .ok s => some (s, rest)
      | .error _ => if strict then none else some ("", rest)
    | 0x5C :: 0x75 :: rest => do
      let (c, rest) ← readUnicodeEscape? strict rest
      readText? strict fuel (pushChar c out) rest
    | 0x5C :: b :: rest => do
      let c ← shortEscape? b
      readText? strict fuel (pushChar c out) rest
    | b :: rest => if b < 0x20 || b == 0x5C then none else readText? strict fuel (b :: out) rest

def afterWord? (word : String) (bs : Bytes) : Option Bytes :=
  let w := word.toUTF8.data.toList
  if w.isPrefixOf bs then some (bs.drop w.length) else none

def readName? (strict : Bool) (bs : Bytes) : Option (String × Bytes) := do
  let 0x22 :: rest := skipBlanks bs | none
  let (name, rest) ← readText? strict (rest.length + 1) [] rest
  let 0x3A :: rest := skipBlanks rest | none
  return (name, rest)

def readScalar? (strict : Bool) (bs : Bytes) : Option (Json × Bytes) :=
  let number (negative : Bool) (bs : Bytes) : Option (Json × Bytes) := do
    let (l, rest) ← readLiteral? negative bs
    if strict then
      let n ← l.number?
      return (.number n, rest)
    else return (.null, rest)
  match bs with
  | 0x22 :: rest => (readText? strict (rest.length + 1) [] rest).map fun (s, r) => (.text s, r)
  | 0x6E :: rest => (afterWord? "ull" rest).map fun r => (.null, r)
  | 0x74 :: rest => (afterWord? "rue" rest).map fun r => (.bool true, r)
  | 0x66 :: rest => (afterWord? "alse" rest).map fun r => (.bool false, r)
  | 0x2D :: rest => number true rest
  | _ => number false bs

mutual

/-- Reads one value; `depth` is how many levels of nesting are left to a strict reader. -/
def readValue? (strict : Bool) : (fuel depth : Nat) → Bytes → Option (Json × Bytes)
  | 0, _, _ => none
  | fuel + 1, depth, bs =>
    match skipBlanks bs with
    | 0x5B :: rest =>
      if strict && depth = 0 then none
      else match skipBlanks rest with
        | 0x5D :: rest => some (.list [], rest)
        | rest => (readItems? strict fuel (depth - 1) [] rest).map fun (items, r) =>
            (.list items, r)
    | 0x7B :: rest =>
      if strict && depth = 0 then none
      else match skipBlanks rest with
        | 0x7D :: rest => some (.object [], rest)
        | rest => (readMembers? strict fuel (depth - 1) [] rest).map fun (ms, r) =>
            (.object ms, r)
    | bs => readScalar? strict bs

def readItems? (strict : Bool) :
    (fuel depth : Nat) → (read : List Json) → Bytes → Option (List Json × Bytes)
  | 0, _, _, _ => none
  | fuel + 1, depth, read, bs =>
    match readValue? strict fuel depth bs with
    | none => none
    | some (item, rest) =>
      match skipBlanks rest with
      | 0x5D :: rest => some ((item :: read).reverse, rest)
      | 0x2C :: rest => readItems? strict fuel depth (item :: read) rest
      | _ => none

def readMembers? (strict : Bool) :
    (fuel depth : Nat) → (read : List (String × Json)) → Bytes →
      Option (List (String × Json) × Bytes)
  | 0, _, _, _ => none
  | fuel + 1, depth, read, bs =>
    match readName? strict bs with
    | none => none
    | some (name, rest) =>
      match readValue? strict fuel depth rest with
      | none => none
      | some (value, rest) =>
        let read := insertMember name value read
        match skipBlanks rest with
        | 0x7D :: rest => some (read, rest)
        | 0x2C :: rest => readMembers? strict fuel depth read rest
        | _ => none

end

/-- Enough steps for any value that the bytes can hold. -/
def fuelFor (bs : Bytes) : Nat := 2 * bs.length + 2

def readWanted? (depth : Nat) (bs : Bytes) : Option (Json × Bytes) :=
  readValue? true (fuelFor bs) depth bs

def skipValue? (bs : Bytes) : Option Bytes := (readValue? false (fuelFor bs) 0 bs).map Prod.snd

def parse? (bytes : ByteArray) : Option Json := do
  let (j, rest) ← readWanted? maxDepth bytes.data.toList
  guard (skipBlanks rest).isEmpty
  return j

end ResilientHttp.Json
