import ResilientHttp.Response

/-! Circuit breakers: after too many failures in a row nothing passes for a while; then a probe
decides. -/
namespace ResilientHttp

inductive Circuit
  | closed
  | opened
  | halfOpen
deriving Repr, DecidableEq

def Circuit.debugName : Circuit → String
  | .closed => "Closed"
  | .opened => "Open"
  | .halfOpen => "HalfOpen"

def Circuit.text : Circuit → String
  | .closed => "closed"
  | .opened => "open"
  | .halfOpen => "half-open"

structure BreakerConfig where
  failureThreshold : Nat := 3
  successThreshold : Nat := 1
  /-- How long the circuit stays open. -/
  resetTimeout : Span := Span.ofSeconds 2
  /-- The responses that count as failures. -/
  trip : Response → Bool := fun r => 499 < r.status.code

namespace BreakerConfig

/-- Zero stands for the default. -/
def normalized (c : BreakerConfig) : BreakerConfig :=
  { c with
    failureThreshold := if c.failureThreshold = 0 then 3 else c.failureThreshold
    successThreshold := if c.successThreshold = 0 then 1 else c.successThreshold
    resetTimeout := if c.resetTimeout = 0 then Span.ofSeconds 2 else c.resetTimeout }

def text (c : BreakerConfig) : String :=
  s!"CircuitBreakerConfig \x7b failure_threshold: {c.failureThreshold}, " ++
    s!"success_threshold: {c.successThreshold}, reset_timeout: {c.resetTimeout.text}, .. \x7d"

end BreakerConfig

structure Breaker where
  config : BreakerConfig
  circuit : Circuit := .closed
  failures : Nat := 0
  successes : Nat := 0
  openedAt : Option Instant := none

namespace Breaker

def make (config : BreakerConfig) : Breaker := { config := config.normalized }

def trip (b : Breaker) (now : Instant) : Breaker :=
  { b with circuit := .opened, failures := 0, successes := 0, openedAt := some now }

/-- Closes the circuit and forgets what was counted. -/
def reset (b : Breaker) : Breaker :=
  { b with circuit := .closed, failures := 0, successes := 0, openedAt := none }

/-- The circuit has been open for long enough. -/
def isDue (b : Breaker) (now : Instant) : Bool :=
  b.openedAt.all fun opened => b.config.resetTimeout ≤ now - opened

def preRequest (b : Breaker) (now : Instant) : Except Error Breaker :=
  if b.circuit ≠ .opened then .ok b
  else if b.isDue now then .ok { b with circuit := .halfOpen, failures := 0, successes := 0 }
  else .error .breakerOpen

def onSuccess (b : Breaker) : Breaker :=
  match b.circuit with
  | .closed => { b with failures := 0, successes := Nat.min (b.successes + 1) Text.maxWord32 }
  | .halfOpen =>
    if b.config.successThreshold ≤ b.successes + 1 then b.reset
    else { b with failures := 0, successes := b.successes + 1 }
  | .opened => b

def onFailure (b : Breaker) (now : Instant) : Breaker :=
  match b.circuit with
  | .closed =>
    if b.config.failureThreshold ≤ b.failures + 1 then b.trip now
    else { b with failures := b.failures + 1, successes := 0 }
  | .halfOpen => b.trip now
  | .opened => b

def isFailure (b : Breaker) (response : Option Response) (error : Option Error) : Bool :=
  error.isSome || response.any b.config.trip

def execute (b : Breaker) (now : Instant) (response : Option Response) (error : Option Error) :
    Breaker :=
  if b.isFailure response error then b.onFailure now else b.onSuccess

/-- The text that shows a breaker whose circuit never opened. -/
def text (b : Breaker) : String :=
  s!"CircuitBreaker \x7b config: {b.config.text}, state: BreakerState \x7b " ++
    s!"state: {b.circuit.debugName}, failures: {b.failures}, successes: {b.successes}, " ++
    "opened_at: None \x7d \x7d"

end Breaker
end ResilientHttp
