/-! Labels outside ASCII as ASCII: the characters of a label in order of their numbers, each told
by how far it is from the one before. -/
namespace ResilientHttp.Url.Punycode

def base : Nat := 36
def tMin : Nat := 1
def tMax : Nat := 26

/-- Adapts the bias after a step, so that usual distances get short codes. -/
def adapt (delta count : Nat) (first : Bool) : Nat :=
  let d := if first then delta / 700 else delta / 2
  let d := d + d / count
  let rec shrink (d k : Nat) : (fuel : Nat) → Nat
    | 0 => k + (base - tMin + 1) * d / (d + 38)
    | fuel + 1 =>
      if d > (base - tMin) * tMax / 2 then shrink (d / (base - tMin)) (k + base) fuel
      else k + (base - tMin + 1) * d / (d + 38)
  shrink d 0 32

def threshold (k bias : Nat) : Nat :=
  if k ≤ bias + tMin then tMin else if k ≥ bias + tMax then tMax else k - bias

def digitChar (d : Nat) : Char :=
  if d < 26 then Char.ofNat ('a'.toNat + d) else Char.ofNat ('0'.toNat + (d - 26))

def digitValue? (c : Char) : Option Nat :=
  if 'a' ≤ c && c ≤ 'z' then some (c.toNat - 'a'.toNat)
  else if 'A' ≤ c && c ≤ 'Z' then some (c.toNat - 'A'.toNat)
  else if c.isDigit then some (c.toNat - '0'.toNat + 26)
  else none

/-- A distance as digits of falling weight. -/
def encodeDelta (bias : Nat) : (q k fuel : Nat) → List Char
  | q, _, 0 => [digitChar (q % base)]
  | q, k, fuel + 1 =>
    let t := threshold k bias
    if q < t then [digitChar q]
    else digitChar (t + (q - t) % (base - t)) ::
      encodeDelta bias ((q - t) / (base - t)) (k + base) fuel

/-- Where an encoding stands: the next number to look for, the distance so far, the bias, the
characters handled and the text so far. -/
structure Step where
  delta : Nat
  bias : Nat
  handled : Nat
  out : List Char

/-- Passes over the label once for the character number `n`. -/
def encodePass (basic n : Nat) (label : List Nat) (s : Step) : Step :=
  label.foldl (fun s c =>
    if c < n then { s with delta := s.delta + 1 }
    else if c = n then
      { delta := 0
        bias := adapt s.delta (s.handled + 1) (s.handled = basic)
        handled := s.handled + 1
        out := s.out ++ encodeDelta s.bias s.delta base 32 }
    else s) s

def encodeLoop (basic : Nat) (label : List Nat) : (fuel n : Nat) → Step → List Char
  | 0, _, s => s.out
  | fuel + 1, n, s =>
    match (label.filter (· ≥ n)).min? with
    | none => s.out
    | some m =>
      let s := { s with delta := s.delta + (m - n) * (s.handled + 1) }
      let s := encodePass basic m label s
      encodeLoop basic label fuel (m + 1) { s with delta := s.delta + 1 }

def encode (label : List Char) : List Char :=
  let basic := label.filter fun c => c.toNat < 128
  let start := if basic.isEmpty then [] else basic ++ ['-']
  encodeLoop basic.length (label.map Char.toNat) (label.length + 1) 128 ⟨0, 72, basic.length, start⟩

/-- Reads one distance: the sum so far, its weight, the place of the digit. -/
def decodeDelta? (bias : Nat) : (i w k : Nat) → List Char → Option (Nat × List Char)
  | _, _, _, [] => none
  | i, w, k, c :: rest => do
    let d ← digitValue? c
    let t := threshold k bias
    if d < t then return (i + d * w, rest)
    decodeDelta? bias (i + d * w) (w * (base - t)) (k + base) rest

def decodeLoop? : (fuel n i bias : Nat) → (first : Bool) → List Char → List Nat → Option (List Nat)
  | _, _, _, _, _, [], out => some out
  | 0, _, _, _, _, _, _ => none
  | fuel + 1, n, i, bias, first, code, out => do
    let (i', rest) ← decodeDelta? bias i 1 base code
    let count := out.length + 1
    let n' := n + i' / count
    guard (n' < 0x110000 && !(0xD800 ≤ n' && n' < 0xE000))
    let at' := i' % count
    decodeLoop? fuel n' (at' + 1) (adapt (i' - i) count first) false rest
      (out.take at' ++ n' :: out.drop at')

def decode? (code : List Char) : Option (List Char) := do
  let tail := (code.reverse.takeWhile (· ≠ '-')).reverse
  let front := if tail.length = code.length then [] else code.take (code.length - tail.length - 1)
  guard (front.all fun c => c.toNat < 128)
  let ns ← decodeLoop? (code.length + 1) 128 0 72 true tail (front.map Char.toNat)
  return ns.map Char.ofNat

end ResilientHttp.Url.Punycode
