/-! Bytes as text in the standard alphabet of sixty-four, with padding. -/
namespace ResilientHttp.Base64

def alphabet : List Char :=
  "ABCDEFGHIJKLMNOPQRSTUVWXYZabcdefghijklmnopqrstuvwxyz0123456789+/".toList

def digit (n : Nat) : Char := alphabet.getD n '='

/-- Three bytes make four digits; one or two at the end are padded. -/
def encodeBytes : List UInt8 → List Char
  | [] => []
  | [a] =>
    let n := a.toNat * 16
    [digit (n / 64), digit (n % 64), '=', '=']
  | [a, b] =>
    let n := (a.toNat * 256 + b.toNat) * 4
    [digit (n / 4096), digit (n / 64 % 64), digit (n % 64), '=']
  | a :: b :: c :: rest =>
    let n := (a.toNat * 256 + b.toNat) * 256 + c.toNat
    digit (n / 262144) :: digit (n / 4096 % 64) :: digit (n / 64 % 64) :: digit (n % 64) ::
      encodeBytes rest

def encode (bytes : ByteArray) : String := String.ofList (encodeBytes bytes.data.toList)

def value (c : Char) : Nat :=
  let n := c.toNat
  if 'A' ≤ c && c ≤ 'Z' then n - 65
  else if 'a' ≤ c && c ≤ 'z' then n - 71
  else if c.isDigit then n + 4
  else if c = '+' then 62
  else 63

/-- The bytes of a text made of whole groups of four digits, appended to `acc`. -/
def decodeGroups (acc : ByteArray) : List Char → ByteArray
  | a :: b :: c :: d :: rest =>
    let n := ((value a * 64 + value b) * 64 + value c) * 64 + value d
    decodeGroups
      (((acc.push (n / 65536).toUInt8).push (n / 256 % 256).toUInt8).push (n % 256).toUInt8) rest
  | _ => acc

end ResilientHttp.Base64
