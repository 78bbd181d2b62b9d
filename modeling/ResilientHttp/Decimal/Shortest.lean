import ResilientHttp.Decimal.Binary64

/-! The fewest decimal digits that name a floating-point number, and its text in that many. -/
namespace ResilientHttp.Decimal
open Binary64

structure Scaled where
  digits : Nat
  exponent : Int
deriving Repr, DecidableEq

/-- The reals that round to one number lie between `low / den` and `high / den`, with these two
themselves if `closed`; the number is `mid / den`. -/
structure Interval where
  low : Nat
  mid : Nat
  high : Nat
  den : Nat
  closed : Bool

/-- Half way to the neighbours; at a power of two the lower neighbour is half as far. -/
def Interval.of (a : Magnitude) : Interval :=
  let narrow := a.mantissa = 1 <<< 52 && -1074 < a.exponent
  let up := 1 <<< a.exponent.toNat
  let down := 1 <<< (-a.exponent).toNat
  { low := (if narrow then 4 * a.mantissa - 1 else 4 * a.mantissa - 2) * up
    mid := 4 * a.mantissa * up
    high := (4 * a.mantissa + 2) * up
    den := 4 * down
    closed := a.mantissa % 2 = 0 }

def overCommon (c : Nat) (e : Int) (num den : Nat) : Nat × Nat :=
  if 0 ≤ e then (c * Nat.pow 10 e.toNat * den, num)
  else (c * den, num * Nat.pow 10 (-e).toNat)

def Interval.holds (i : Interval) (s : Scaled) : Bool :=
  let (a, low) := overCommon s.digits s.exponent i.low i.den
  let (b, high) := overCommon s.digits s.exponent i.high i.den
  if i.closed then low ≤ a && b ≤ high else low < a && b < high

/-- The number of digits before the point, nothing or negative for small numbers. -/
def magnitudeOf (num den : Nat) : Int :=
  let guess : Int := ((num.log2 : Int) - den.log2) * 30103 / 100000 - 1
  let atLeast (k : Int) : Bool :=
    let (a, b) := overCommon 1 k num den
    a ≤ b
  if atLeast (guess + 2) then guess + 3
  else if atLeast (guess + 1) then guess + 2
  else if atLeast guess then guess + 1
  else guess

/-- The nearer of the two neighbours of the number among those of `count` digits that lie in the
interval; of two equally near, the even one. -/
def Interval.pick? (i : Interval) (places : Int) (count : Nat) : Option Scaled :=
  let e := places - count
  let (unit, num) := overCommon 1 e i.mid i.den
  let below : Scaled := ⟨num / unit, e⟩
  let above : Scaled := ⟨num / unit + 1, e⟩
  let twice := 2 * (num % unit)
  match i.holds below, i.holds above with
  | true, true =>
    some (if twice < unit || (twice = unit && below.digits % 2 = 0) then below else above)
  | true, false => some below
  | false, true => some above
  | false, false => none

def Interval.search (i : Interval) (places : Int) : (left count : Nat) → Scaled
  | 0, count => ⟨(overCommon 1 (places - count) i.mid i.den).2 /
      (overCommon 1 (places - count) i.mid i.den).1, places - count⟩
  | left + 1, count => (i.pick? places count).getD (i.search places left (count + 1))

def Scaled.trim (s : Scaled) : (fuel : Nat) → Scaled
  | 0 => s
  | fuel + 1 =>
    if s.digits ≠ 0 && s.digits % 10 = 0 then Scaled.trim ⟨s.digits / 10, s.exponent + 1⟩ fuel
    else s

/-- The shortest decimal that reads back as the magnitude. -/
def shortest (a : Magnitude) : Scaled :=
  if a.mantissa = 0 then ⟨0, 0⟩
  else
    let i := Interval.of a
    (i.search (magnitudeOf i.mid i.den) 17 1).trim 20

structure Style where
  /-- A plus sign stands before a positive power. -/
  plusSign : Bool

/-- The text of a number: positional from `1e-5` up to `1e16`, with at least one decimal, and
scientific outside. -/
def render (style : Style) (x : Float) : String :=
  let s := shortest (magnitude (x.toBits.toNat % 1 <<< 63))
  let digits := Nat.toDigits 10 s.digits
  let point : Int := digits.length + s.exponent
  let sign := if isNegative x then "-" else ""
  let body :=
    if s.digits = 0 then "0.0".toList
    else if 0 ≤ s.exponent && point ≤ 16 then
      digits ++ List.replicate s.exponent.toNat '0' ++ ['.', '0']
    else if 0 < point && point ≤ 16 then
      digits.take point.toNat ++ '.' :: digits.drop point.toNat
    else if -5 < point && point ≤ 0 then
      '0' :: '.' :: List.replicate (-point).toNat '0' ++ digits
    else
      let power := point - 1
      let mark := if 0 ≤ power && style.plusSign then "e+" else "e"
      digits.take 1 ++ (if digits.length = 1 then [] else '.' :: digits.drop 1) ++
        (mark ++ toString power).toList
  sign ++ String.ofList body

end ResilientHttp.Decimal
