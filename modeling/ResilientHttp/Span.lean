/-! Stretches of time, counted in nanoseconds, and their text. -/
namespace ResilientHttp

abbrev Span := Nat

/-- A point of time, in nanoseconds after the clock's start. -/
abbrev Instant := Nat

namespace Span

def ofSeconds (n : Nat) : Span := n * 1000000000

def ofMillis (n : Nat) : Span := n * 1000000

/-- The longest stretch that can be told: one nanosecond short of `2 ^ 64` seconds. -/
def longest : Span := 1 <<< 64 * 1000000000 - 1

def seconds (d : Span) : Nat := d / 1000000000

def subsecond (d : Span) : Nat := d % 1000000000

/-- The digits of `n` after a point, filled up to `width` and without zeros at the end. -/
def fractionText (n width : Nat) : String :=
  let digits := Nat.toDigits 10 n
  let filled := List.replicate (width - digits.length) '0' ++ digits
  let kept := (filled.reverse.dropWhile (· = '0')).reverse
  if kept.isEmpty then "" else "." ++ String.ofList kept

/-- The text in the largest of the units s, ms, µs and ns that is not zero, with the exact
fraction. -/
def text (d : Span) : String :=
  if d ≥ 1000000000 then s!"{d / 1000000000}{fractionText (d % 1000000000) 9}s"
  else if d ≥ 1000000 then s!"{d / 1000000}{fractionText (d % 1000000) 6}ms"
  else if d ≥ 1000 then s!"{d / 1000}{fractionText (d % 1000) 3}µs"
  else s!"{d}ns"

end Span
end ResilientHttp
