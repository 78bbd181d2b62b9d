/-! The context of a literal: what the two bytes before it tell. -/
namespace ResilientHttp.Compression.Brotli

def isLetterCode (b : Nat) : Bool := (65 ≤ b && b ≤ 90) || (97 ≤ b && b ≤ 122)

def isVowelCode (b : Nat) : Bool := [65, 69, 73, 79, 85, 97, 101, 105, 111, 117].contains b

/-- The kind of the last byte in text: what it separates, opens or closes, or which kind of letter
it is. Bytes outside ASCII only tell whether they begin a character, and their lowest bit. -/
def lastTextKind (b : Nat) : Nat :=
  if 192 ≤ b then 2 + b % 2
  else if 128 ≤ b then b % 2
  else if isLetterCode b then
    (if 97 ≤ b then 56 else 48) + if isVowelCode b then 0 else 4
  else if 48 ≤ b && b ≤ 57 then 44
  else if b = 9 || b = 10 || b = 13 then 4
  else if b < 32 || b = 127 then 0
  else if b = 32 then 8
  else if b = 34 || b = 39 then 16
  else if b = 37 then 20
  else if [40, 60, 91, 123].contains b then 24
  else if [41, 62, 93, 125].contains b then 28
  else if [44, 58, 59].contains b then 32
  else if b = 46 then 36
  else if b = 61 then 40
  else 12

def beforeLastTextKind (b : Nat) : Nat :=
  if 224 ≤ b then 2
  else if b ≤ 32 || 127 ≤ b then 0
  else if 97 ≤ b && b ≤ 122 then 3
  else if isLetterCode b || (48 ≤ b && b ≤ 57) then 2
  else 1

def signedKind (b : Nat) : Nat :=
  if b = 0 then 0
  else if b < 16 then 1
  else if b < 64 then 2
  else if b < 128 then 3
  else if b < 192 then 4
  else if b < 240 then 5
  else if b < 255 then 6
  else 7

/-- The context, below 64, in one of the four modes. -/
def literalContext (mode : Nat) (last beforeLast : UInt8) : Nat :=
  let a := last.toNat
  let b := beforeLast.toNat
  match mode with
  | 0 => a % 64
  | 1 => a / 4
  | 2 => lastTextKind a ||| beforeLastTextKind b
  | _ => signedKind a * 8 + signedKind b

end ResilientHttp.Compression.Brotli
