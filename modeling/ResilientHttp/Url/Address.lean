import ResilientHttp.Text.Blank
import ResilientHttp.Text.Integer

/-! Network addresses as hosts: four numbers below 256, or eight pieces of sixteen bits. -/
namespace ResilientHttp.Url
open Text

/-- One number of a dotted address: decimal, octal after a zero, or hexadecimal after `0x`. -/
def dottedNumber? (cs : List Char) : Option Nat :=
  let value (base : Nat) (digits : List Char) : Option Nat := do
    let ns ← digits.mapM hexValue?
    guard (ns.all (· < base))
    return ns.foldl (fun n d => n * base + d) 0
  match cs with
  | [] => none
  | '0' :: 'x' :: digits | '0' :: 'X' :: digits => value 16 digits
  | ['0'] => some 0
  | '0' :: digits => value 8 digits
  | digits => value 10 digits

/-- The labels of a host, without the empty one that a point at the end leaves. -/
def hostLabels (cs : List Char) : List (List Char) :=
  let labels := pieces (· = '.') cs
  if labels.length > 1 && labels.getLast? = some [] then labels.dropLast else labels

/-- The last label looks like a number, so that the host can only be an address. -/
def endsInNumber (cs : List Char) : Bool :=
  match (hostLabels cs).getLast? with
  | none => false
  | some last =>
    (!last.isEmpty && last.all Char.isDigit) ||
      (match last with
        | '0' :: 'x' :: digits | '0' :: 'X' :: digits => digits.all fun c => (hexValue? c).isSome
        | _ => false)

/-- The value of a dotted address; the last number fills all the bytes that are left. -/
def ipv4? (cs : List Char) : Option Nat := do
  let numbers ← (hostLabels cs).mapM dottedNumber?
  let last ← numbers.getLast?
  let front := numbers.dropLast
  guard (front.length ≤ 3 && front.all (· < 256) && last < 1 <<< (8 * (4 - front.length)))
  let shifted := front.zipIdx.foldl (fun n (x, i) => n + x <<< (8 * (3 - i))) 0
  return shifted + last

def ipv4Text (n : Nat) : String :=
  s!"{n / 16777216}.{n / 65536 % 256}.{n / 256 % 256}.{n % 256}"

def piece? (cs : List Char) : Option Nat := do
  guard (0 < cs.length && cs.length ≤ 4)
  let ns ← cs.mapM hexValue?
  return ns.foldl (fun n d => n * 16 + d) 0

/-- Four plain decimal numbers, as the tail of a long address, in two pieces. -/
def dottedTail? (cs : List Char) : Option (List Nat) := do
  let parts := pieces (· = '.') cs
  guard (parts.length = 4)
  let ns ← parts.mapM fun p => do
    let n ← readDigits? p
    guard (n < 256 && (p.length = 1 || p.head? ≠ some '0'))
    return n
  match ns with
  | [a, b, c, d] => some [a * 256 + b, c * 256 + d]
  | _ => none

/-- Pieces between colons; the last part may be dotted. -/
def colonPieces? : List (List Char) → Option (List Nat)
  | [] => some []
  | [last] => if last.contains '.' then dottedTail? last else (piece? last).map ([·])
  | part :: rest => do
    let n ← piece? part
    let ns ← colonPieces? rest
    return n :: ns

def splitGap? : List Char → Option (List Char × List Char)
  | ':' :: ':' :: rest => some ([], rest)
  | c :: rest => (splitGap? rest).map fun (a, b) => (c :: a, b)
  | [] => none

/-- The pieces of a part of a long address; nothing at all is no piece. -/
def partPieces? (cs : List Char) : Option (List Nat) :=
  if cs.isEmpty then some [] else colonPieces? (pieces (· = ':') cs)

/-- The eight pieces of a long address; a double colon stands for one zero piece or more. -/
def ipv6? (cs : List Char) : Option (List Nat) := do
  match splitGap? cs with
  | none =>
    let ns ← partPieces? cs
    guard (ns.length = 8)
    return ns
  | some (front, back) =>
    guard (!front.contains '.')
    let f ← partPieces? front
    let b ← partPieces? back
    guard (f.length + b.length ≤ 7)
    return f ++ List.replicate (8 - f.length - b.length) 0 ++ b

def zeroRun (ns : List Nat) : Nat := (ns.takeWhile (· = 0)).length

/-- The first longest run of at least two zero pieces: its start and length. -/
def longestZeros (ns : List Nat) : Option (Nat × Nat) :=
  let runs := (List.range ns.length).map fun i => (i, zeroRun (ns.drop i))
  let best := runs.foldl (fun (b : Nat × Nat) r => if r.2 > b.2 then r else b) (0, 1)
  if best.2 > 1 then some best else none

def colonText (ns : List Nat) : String := ":".intercalate (ns.map hexText)

def ipv6Text (ns : List Nat) : String :=
  match longestZeros ns with
  | none => colonText ns
  | some (start, length) =>
    colonText (ns.take start) ++ "::" ++ colonText (ns.drop (start + length))

end ResilientHttp.Url
