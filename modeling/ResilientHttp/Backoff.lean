import ResilientHttp.Decimal.Binary64
import ResilientHttp.Noise
import ResilientHttp.Response
import ResilientHttp.RetryAfter

/-! Waits between attempts: they grow with the number of the attempt, and chance spreads them. -/
namespace ResilientHttp

inductive Jitter
  | none
  /-- Anything up to the wait. -/
  | full
  /-- Half of the wait, and anything up to the other half. -/
  | equal
  /-- Anything from the least wait up to three times the wait before. -/
  | decorrelated
deriving Repr, DecidableEq

structure Backoff where
  min : Span
  max : Span
  growth : Float
  jitter : Jitter
  /-- The longest wait that a server can ask for. -/
  retryAfterCap : Option Span := none
  /-- The latest decorrelated wait. -/
  previous : Span := 0
  noise : Noise

namespace Backoff

def defaultMin : Span := Span.ofMillis 100
def defaultMax : Span := Span.ofMillis 3000
def defaultGrowth : Float := 1.5

/-- Zero stands for the default of a bound; the greatest wait is never below the least. -/
def make (min max : Span) (jitter : Jitter) (noise : Noise) : Backoff :=
  let min := if min = 0 then defaultMin else min
  let max := if max = 0 then defaultMax else max
  { min, max := Nat.max max min, growth := defaultGrowth, jitter, noise }

def standard : Backoff := make defaultMin defaultMax .equal (Noise.ofSeed 0)

/-- Sets the growth from one attempt to the next; one that is no growth changes nothing. -/
def withGrowth (b : Backoff) (growth : Float) : Backoff :=
  if growth.isFinite && growth > 1.0 then { b with growth } else b

/-- A copy that starts over, with other random numbers. -/
def fresh (b : Backoff) (noise : Noise) : Backoff := { b with previous := 0, noise }

/-- Squares again and again, and multiplies what the bits of the exponent select. -/
def powerFrom (result base : Float) (exponent : Nat) : (fuel : Nat) → Float
  | 0 => result
  | fuel + 1 =>
    let result := if exponent % 2 = 1 then result * base else result
    if exponent / 2 = 0 then result else powerFrom result (base * base) (exponent / 2) fuel

def maxExponent : Nat := 0x7FFFFFFF

def power (base : Float) (exponent : Nat) : Float :=
  powerFrom 1.0 base (Nat.min exponent maxExponent) 32

def envelope (b : Backoff) (attempt : Nat) : Span :=
  let nanos := Binary64.ofNat b.min * power b.growth attempt
  if !nanos.isFinite || nanos ≥ Binary64.ofNat b.max then b.max
  else Binary64.clampedFloor Text.maxWord64 nanos

/-- As many nanoseconds as a word of 64 bits can hold. -/
def clamp (d : Span) : Nat := Nat.min d Text.maxWord64

def jittered (b : Backoff) (wait : Span) : Span × Backoff :=
  let nanos := clamp wait
  if nanos = 0 then (1, b)
  else match b.jitter with
    | .none => (wait, b)
    | .full =>
      let (n, noise) := b.noise.below nanos
      (n, { b with noise })
    | .equal =>
      let half := nanos / 2
      if half = 0 then (wait, b)
      else
        let (n, noise) := b.noise.below half
        (half + n, { b with noise })
    | .decorrelated =>
      let previous := if b.previous = 0 then b.min else b.previous
      let spread := Nat.min (clamp previous * 3) Text.maxWord64 - clamp b.min
      let (n, noise) := if spread = 0 then (0, b.noise) else b.noise.below spread
      let next := Nat.min (b.min + n) b.max
      (next, { b with previous := next, noise })

/-- Brings a wait between the bounds; one of zero becomes the greatest. -/
def balance (b : Backoff) (wait : Span) : Span :=
  if wait = 0 || b.max < wait then b.max else if wait < b.min then b.min else wait

/-- The wait that a response asks for: only one that tells of too many requests or of a service
that is away can ask. -/
def hint? (wallClock : Int) (prior : Option Response) : Option Span :=
  prior.bind fun r =>
    if r.status.code = 429 || r.status.code = 503 then
      (r.headers.text? .retryAfter).bind (RetryAfter.parse? wallClock)
    else none

/-- The wait after an attempt. What the server asks for goes before what is computed. -/
def nextWait (b : Backoff) (wallClock : Int) (prior : Option Response) (attempt : Nat) :
    Span × Backoff :=
  match hint? wallClock prior with
  | some wait => ((b.retryAfterCap.map (Nat.min wait)).getD wait, b)
  | none =>
    let (wait, next) := b.jittered (b.envelope attempt)
    (b.balance wait, next)

end Backoff
end ResilientHttp
