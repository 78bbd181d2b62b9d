import ResilientHttp.Backoff

/-! Retry policies: when a request is sent again. -/
namespace ResilientHttp

/-- What becomes of a request whose last permitted attempt failed. -/
inductive Exhaustion
  | fail
  | returnLastOutcome
deriving Repr, DecidableEq

abbrev Condition := Option Response → Option Error → Bool

structure RetryPolicy where
  maxAttempts : Nat
  /-- The wait between attempts when there is no backoff. -/
  wait : Span
  backoff : Option Backoff
  /-- Asked for outcomes that are neither to be tried again nor beyond hope. -/
  condition : Option Condition := none
  allowNonIdempotent : Bool := false
  exhaustion : Exhaustion := .fail

inductive Verdict
  | retry
  | stop
  | never
deriving Repr, DecidableEq

namespace Verdict

def isRetryableStatus (code : Nat) : Bool := code = 0 || code = 429 || (500 ≤ code && code ≠ 501)

def ofError : Error → Verdict
  | .transport e => if e.isPermanent then never else if e.isTemporary then retry else stop
  | _ => never

/-- An error weighs more than a response. -/
def ofOutcome (response : Option Response) (error : Option Error) : Verdict :=
  match error, response with
  | some e, _ => ofError e
  | none, some r => if isRetryableStatus r.status.code then retry else stop
  | none, none => stop

end Verdict

namespace RetryPolicy

def constant (maxAttempts : Nat) (wait : Span) : RetryPolicy :=
  { maxAttempts := Nat.max maxAttempts 1, wait, backoff := none }

def immediate (maxAttempts : Nat) : RetryPolicy := constant maxAttempts 0

def withBackoff (maxAttempts : Nat) (backoff : Backoff) : RetryPolicy :=
  { maxAttempts := Nat.max maxAttempts 1, wait := Span.ofMillis 100, backoff := some backoff }

def ofAttempts (maxAttempts : Nat) : RetryPolicy := withBackoff maxAttempts Backoff.standard

def standard : RetryPolicy := ofAttempts 3

def appliesTo (p : RetryPolicy) (m : Method) : Bool := p.allowNonIdempotent || m.isIdempotent

/-- The outcome permits another attempt, however many there were. -/
def isRetryable (p : RetryPolicy) (response : Option Response) (error : Option Error)
    (idempotent : Bool) : Bool :=
  (idempotent || p.allowNonIdempotent) &&
    match Verdict.ofOutcome response error with
    | .retry => true
    | .never => false
    | .stop => p.condition.any fun c => c response error

def shouldRetry (p : RetryPolicy) (response : Option Response) (error : Option Error)
    (idempotent : Bool) (attempt : Nat) : Bool :=
  attempt < p.maxAttempts && p.isRetryable response error idempotent

def text (p : RetryPolicy) : String :=
  let exhaustion := match p.exhaustion with
    | .fail => "Fail"
    | .returnLastOutcome => "ReturnLastOutcome"
  s!"RetryPolicy \x7b max_attempts: {p.maxAttempts}, wait: {p.wait.text}, backoff: None, " ++
    s!"condition: {p.condition.isSome}, allow_non_idempotent: {p.allowNonIdempotent}, " ++
    s!"exhaustion: {exhaustion} \x7d"

end RetryPolicy
end ResilientHttp
