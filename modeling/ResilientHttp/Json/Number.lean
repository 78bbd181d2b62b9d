import ResilientHttp.Decimal.Shortest
import ResilientHttp.Json.Basic

/-! JSON numbers: what a literal stands for, and how a number is written.

A literal is read in two steps. Its digits are taken as one whole number of at most 64 bits, as
many as fit; what that number is then worth is one product or quotient with a power of ten. -/
namespace ResilientHttp.Json

/-- Digits that were read: their value so far, and the power of ten it is to be scaled by. -/
structure Significand where
  value : Nat := 0
  power : Int := 0
deriving Repr, DecidableEq

def Significand.hasRoom (s : Significand) (digit : Nat) : Bool :=
  s.value * 10 + digit ≤ Text.maxWord64

/-- Takes the digits before the point; from the first that does not fit, they only scale. -/
def Significand.takeWhole (s : Significand) : List Nat → Significand
  | [] => s
  | d :: ds =>
    if s.hasRoom d then Significand.takeWhole { s with value := s.value * 10 + d } ds
    else { s with power := s.power + (d :: ds).length }

/-- Takes the digits behind the point up to the first that does not fit. -/
def Significand.takeFraction (s : Significand) : List Nat → Significand
  | [] => s
  | d :: ds =>
    if s.hasRoom d then
      Significand.takeFraction { value := s.value * 10 + d, power := s.power - 1 } ds
    else s

/-- Scales by a power of ten in steps of at most `1e308`; nothing if the result is too large. -/
def scale? (x : Float) (power : Int) : (fuel : Nat) → Option Float
  | 0 => some x
  | fuel + 1 =>
    if power.natAbs ≤ 308 then
      let unit := Binary64.ofDecimal 1 power.natAbs
      if 0 ≤ power then
        let y := x * unit
        if y.isInf then none else some y
      else some (x / unit)
    else if x == 0 then some x
    else if 0 ≤ power then none
    else scale? (x / Binary64.ofDecimal 1 308) (power + 308) fuel

structure Literal where
  negative : Bool
  whole : List Nat
  fraction : Option (List Nat)
  /-- The sign and the digits of the exponent. -/
  exponent : Option (Bool × List Nat)

def digitsNat (ds : List Nat) : Nat := ds.foldl (fun n d => n * 10 + d) 0

def maxExponent : Nat := 0x7FFFFFFF

/-- What a literal stands for; a literal that is too large for any number stands for none. -/
def Literal.number? (l : Literal) : Option Number :=
  let whole := Significand.takeWhole {} l.whole
  let sign (x : Float) : Float := if l.negative then -x else x
  if l.fraction.isNone && l.exponent.isNone && whole.power = 0 then
    if !l.negative then some (.natural whole.value)
    else if 0 < whole.value && whole.value ≤ 1 <<< 63 then some (.negative whole.value)
    else some (.float (-(Binary64.ofNat whole.value)))
  else
    let s := whole.takeFraction (l.fraction.getD [])
    let (up, digits) := l.exponent.getD (true, [])
    let e := digitsNat digits
    if maxExponent < e then
      if s.value ≠ 0 && up then none else some (.float (sign 0))
    else
      let power := if up then s.power + e else s.power - e
      (scale? (Binary64.ofNat s.value) power 12).map fun x => .float (sign x)

/-- JSON writes the sign of every exponent. -/
def numberStyle : Decimal.Style := { plusSign := true }

def Number.text (style : Decimal.Style) : Number → String
  | .natural n => toString n
  | .negative n => "-" ++ toString n
  | .float x => Decimal.render style x

end ResilientHttp.Json
