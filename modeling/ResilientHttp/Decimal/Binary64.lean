import ResilientHttp.Text.Integer

/-! Floating-point numbers as exact ratios: what a number of 64 bits stands for, and the one that
is nearest to a given decimal. -/
namespace ResilientHttp.Binary64

/-- The magnitude of a finite number is `mantissa * 2 ^ exponent`. -/
structure Magnitude where
  mantissa : Nat
  exponent : Int
deriving Repr, DecidableEq

def binade (bits : Nat) : Nat := bits >>> 52 % 2048

def magnitude (bits : Nat) : Magnitude :=
  let fraction := bits % 1 <<< 52
  if binade bits = 0 then ⟨fraction, -1074⟩ else ⟨1 <<< 52 + fraction, binade bits - 1075⟩

def Magnitude.floor (a : Magnitude) : Nat :=
  match a.exponent with
  | .ofNat e => a.mantissa <<< e
  | .negSucc e => a.mantissa >>> (e + 1)

def isNegative (x : Float) : Bool := 1 <<< 63 ≤ x.toBits.toNat

/-- The whole part of a number, nothing below zero and at most `max`. -/
def clampedFloor (max : Nat) (x : Float) : Nat :=
  let bits := x.toBits.toNat
  if isNegative x || x.isNaN then 0
  else if binade bits = 2047 then max
  else min max (magnitude bits).floor

def infinityBits : Nat := 2047 <<< 52

/-- The binade in which `num / den` has 53 bits, or the lowest one. -/
def exponentOf (num den : Nat) : Int :=
  let guess : Int := (num.log2 : Int) - den.log2 - 53
  let scaled (q : Int) : Nat :=
    if 0 ≤ q then num / den <<< q.toNat else num <<< (-q).toNat / den
  let q := if scaled guess < 1 <<< 53 then guess else guess + 1
  if q < -1074 then -1074 else q

/-- The bits of the number nearest to `num / den`; of two equally near, the even one. -/
def nearestBits (num den : Nat) : Nat :=
  if num = 0 then 0
  else
    let q := exponentOf num den
    let top := if 0 ≤ q then num else num <<< (-q).toNat
    let bottom := if 0 ≤ q then den <<< q.toNat else den
    let low := top / bottom
    let twice := 2 * (top % bottom)
    let m := if twice < bottom || (twice = bottom && low % 2 = 0) then low else low + 1
    let bits := if m < 1 <<< 52 then m else m - 1 <<< 52 + (q + 1075).toNat <<< 52
    min bits infinityBits

def ofDecimal (digits : Nat) (exponent : Int) : Float :=
  let bits :=
    if digits = 0 then 0
    else if 400 < exponent then infinityBits
    else if exponent < -(digits.log2 + 400 : Int) then 0
    else if 0 ≤ exponent then nearestBits (digits * Nat.pow 10 exponent.toNat) 1
    else nearestBits digits (Nat.pow 10 (-exponent).toNat)
  Float.ofBits bits.toUInt64

def ofNat (n : Nat) : Float := Float.ofBits (nearestBits n 1).toUInt64

/-- Digits with an optional point among them, and an optional power of ten behind. -/
def readUnsigned? (cs : List Char) : Option Float := do
  let isMark (c : Char) := c = 'e' || c = 'E'
  let mantissa := cs.takeWhile (!isMark ·)
  let power ← match cs.dropWhile (!isMark ·) with
    | [] => some 0
    | _ :: rest => Text.readInt? rest
  let whole := mantissa.takeWhile (· ≠ '.')
  let fraction := (mantissa.dropWhile (· ≠ '.')).drop 1
  let digits ← Text.readDigits? (whole ++ fraction)
  return ofDecimal digits (power - fraction.length)

/-- A number as text: signed, decimal, or one of the names of infinity and of no number. -/
def read? (s : String) : Option Float :=
  let (negative, cs) := match s.toList with
    | '-' :: rest => (true, rest)
    | '+' :: rest => (false, rest)
    | rest => (false, rest)
  let magnitude? :=
    match String.ofList (cs.map Char.toLower) with
    | "inf" | "infinity" => some (Float.ofBits infinityBits.toUInt64)
    | "nan" => some (Float.ofBits 0x7FF8000000000000)
    | _ => readUnsigned? cs
  magnitude?.map fun x => if negative then -x else x

end ResilientHttp.Binary64
