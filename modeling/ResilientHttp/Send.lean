import ResilientHttp.RequestBuilder

/-! Sending: attempts behind the breaker, waits between them, and the response in the end.

What is sent happens in a `World`. Nothing comes of it only if a transport call or a hook never ends
and nothing cuts it short, or if the waits add up to more than can be told. -/
namespace ResilientHttp

abbrev Run := StateT World (Except Halt)

namespace Run

def note (e : Event) : Run Unit := modify fun w => w.note e

/-- Something that a bound can cut short, and what the history tells of its beginning. -/
def within {α : Type} (b : Bounds) (e : Event) (t : Activity α) : Run (Except Error α) := fun w =>
  (t.runBounded b e w).map fun (result, w) => (result.mapError Interruption.error, w)

def through {α : Type} (b : Bounds) (t : Activity α) : Run α := fun w => t.runThrough b w

/-- Something that nothing cuts short, after everything else. -/
def freely {α : Type} (slack : Nat) (t : Activity α) : Run α := fun w => t.runFreely slack w

def add (d d' : Span) : Run Span := fun w =>
  if d + d' ≤ Span.longest then .ok (d + d', w) else .error .overflow

end Run

/-- A discarded response is read no further once this many bytes were read. -/
def drainLimit : Nat := 2048

/-- The body for an attempt, counted from one, and what is left for the attempts after it. -/
def RequestBody.forAttempt (attempt : Nat) :
    RequestBody → Run (Except Error (Option ByteStream) × RequestBody)
  | empty => return (.ok none, empty)
  | bytes b => return (.ok (some (ByteStream.full b)), bytes b)
  | reopenable length opener => do
    let opened := (← get).openings
    Run.note .opening
    return (((opener opened).map some).mapError .stream, reopenable length opener)
  | once length stream =>
    if 1 < attempt then return (.error .bodyNotReplayable, once length stream)
    else match stream with
      | some s => return (.ok (some s), once length none)
      | none => return (.error .bodyNotReplayable, once length none)

/-- The request of an attempt, and the draft for the attempts after it. -/
def Draft.build (d : Draft) (attempt : Nat) : Run (Except Error Request × Draft) := do
  let (body, left) ← d.body.forAttempt attempt
  return (body.map d.request, { d with body := left })

def PreparedRequest.policy (p : PreparedRequest) : Option RetryPolicy :=
  p.retry.filter fun r => r.appliesTo p.method

/-- How far sending has come. -/
structure Progress where
  draft : Draft
  started : Instant
  /-- The attempts that were begun. -/
  attempt : Nat := 0
  totalWait : Span := 0
  trace : Option Trace := none
  backoff : Option Backoff := none

def errorOf? : Except Error Response → Option Error
  | .error e => some e
  | .ok _ => none

namespace Client

def gate : Run (Except Error Unit) := fun w =>
  match w.breaker with
  | none => .ok (.ok (), w)
  | some b =>
    match b.preRequest w.now with
    | .ok b => .ok (.ok (), { w with breaker := some b })
    | .error e => .ok (.error e, w)

def report (outcome : Except Error Response) : Run Unit :=
  modify fun w =>
    { w with breaker := w.breaker.map (·.execute w.now outcome.toOption (errorOf? outcome)) }

/-- Hands a request from hook to hook; `index` is the number of the first one. -/
def requestHooks (b : Bounds) (index : Nat) (r : Request) :
    List Hook → Run (Except Error Request)
  | [] => return .ok r
  | h :: hooks => do
    let seen := (← get).requestsSeen index
    Run.note (.requestHook index)
    Run.through b (h.beforeRequest seen r)
    match h.onRequest seen r with
    | .ok r => requestHooks b (index + 1) r hooks
    | .error e => return .error e

def responseHooks (slack index : Nat) (r : Response) : List Hook → Run (Except Error Response)
  | [] => return .ok r
  | h :: hooks => do
    let seen := (← get).responsesSeen index
    Run.note (.responseHook index r.attempts r.totalWait)
    match ← Run.freely slack (h.onResponse seen r) with
    | .ok r => responseHooks slack (index + 1) r hooks
    | .error e => return .error e

def call (c : Client) (b : Bounds) (r : Request) :
    Run (Except Error (Except TransportError Reply)) := do
  let n := (← get).calls
  Run.within b (.call r) (c.transport n r)

def attemptTrace (attempt : Nat) (serverTime : Span) (outcome : Except Error Response) :
    AttemptTrace :=
  match outcome with
  | .ok r => { attempt, serverTime, status := some r.status.code, error := none, wait := 0 }
  | .error e => { attempt, serverTime, status := none, error := some e.message, wait := 0 }

/-- What a transport call gave, before its body is decompressed. -/
def received (result : Except TransportError Reply) : Except Error Response :=
  (result.map .ofReply).mapError .transport

/-- What an attempt gives whose transport call gave a result. -/
def outcome (c : Client) (result : Except TransportError Reply) : Except Error Response :=
  (received result).bind fun r => r.decompress c.decompressors

/-- What comes back from the transport, told to the breaker and the trace. -/
def exchange (c : Client) (p : PreparedRequest) (g : Progress) (r : Request) :
    Run (Except Error Response × Progress) := do
  let sent := (← get).now
  match ← c.call p.bounds r with
  | .error e => return (.error e, g)
  | .ok result =>
    let now := (← get).now
    if !result.isOk && p.bounds.isPastDeadline now then return (.error .deadlineExceeded, g)
    else
      report (received result)
      let entry := attemptTrace g.attempt (now - sent) (received result)
      return (c.outcome result, { g with trace := g.trace.map (·.record entry) })

/-- One attempt: the gate, the request, the hooks, and the transport. -/
def attempt (c : Client) (p : PreparedRequest) (g : Progress) :
    Run (Except Error Response × Progress) := do
  let g := { g with attempt := g.attempt + 1 }
  match ← gate with
  | .error e => return (.error e, g)
  | .ok _ =>
    let (built, draft) ← g.draft.build g.attempt
    let g := { g with draft }
    match built with
    | .error e => return (.error e, g)
    | .ok r =>
      match ← requestHooks p.bounds 0 r c.hooks with
      | .error e => return (.error e, g)
      | .ok r => c.exchange p g r

/-- What all attempts together gave, after the response hooks. -/
def finish (c : Client) (g : Progress) (outcome : Except Error Response) :
    Run (Except Error Response) := do
  match outcome with
  | .error e => return .error e
  | .ok r =>
    let elapsed := (← get).now - g.started
    let trace := g.trace.map ({ · with totalTime := elapsed, totalWait := g.totalWait })
    let r := { r with
      attempts := g.attempt, elapsed, totalWait := g.totalWait, trace }
    responseHooks c.slack 0 r c.hooks

def exhausted (g : Progress) (outcome : Except Error Response) : Error :=
  let last := match outcome with
    | .ok r => .status r.status.code (r.status.reason?.getD "Unknown status")
    | .error e => e
  .retryExhausted g.attempt g.totalWait g.draft.method g.draft.url (some last)

def nextWait (c : Client) (policy : RetryPolicy) (g : Progress) (now : Instant)
    (outcome : Except Error Response) : Span × Progress :=
  match g.backoff with
  | none => (policy.wait, g)
  | some b =>
    let (wait, b) := b.nextWait (c.epoch + now) outcome.toOption g.attempt
    (wait, { g with backoff := some b })

/-- Reads on in a response that is not wanted, and lets it go. -/
def drain (p : PreparedRequest) (outcome : Except Error Response) : Run (Except Error Unit) :=
  match outcome with
  | .error _ => return .ok ()
  | .ok r =>
    Run.within p.bounds .drain (.pass (.done ()) ((r.body.getD []).drained drainLimit 0))

def pause (c : Client) (p : PreparedRequest) (policy : RetryPolicy) (g : Progress)
    (outcome : Except Error Response) : Run (Except Error Progress) := do
  let (wait, g) := c.nextWait policy g (← get).now outcome
  match ← drain p outcome with
  | .error e => return .error e
  | .ok _ =>
    match ← Run.within p.bounds (.wait wait) (.sleep wait (.done ())) with
    | .error e => return .error e
    | .ok _ =>
      let totalWait ← Run.add g.totalWait wait
      return .ok { g with totalWait, trace := g.trace.map (·.setLastWait wait) }

/-- Goes through the attempts; `more` is how many may follow the next one. -/
def attempts (c : Client) (p : PreparedRequest) (policy : RetryPolicy) :
    (more : Nat) → Progress → Run (Except Error Response)
  | more, g => do
    let (outcome, g) ← c.attempt p g
    let retryable :=
      policy.isRetryable outcome.toOption (errorOf? outcome) p.method.isIdempotent
    match more with
    | 0 =>
      if retryable && policy.exhaustion = .fail then return .error (exhausted g outcome)
      else c.finish g outcome
    | more + 1 =>
      if !retryable then c.finish g outcome
      else
        match ← c.pause p policy g outcome with
        | .error e => return .error e
        | .ok g => attempts c p policy more g

def start (c : Client) (p : PreparedRequest) (w : World) : Progress where
  draft := p.toDraft
  started := w.now
  trace := if p.trace then some {} else none
  backoff := (p.policy.bind RetryPolicy.backoff).map (·.fresh (c.noise w.calls))

def execute (c : Client) (p : PreparedRequest) : Run (Except Error Response) := do
  modify fun w => { w with cancelled := p.cancelled }
  let g := c.start p (← get)
  match p.policy with
  | some policy => c.attempts p policy (policy.maxAttempts - 1) g
  | none =>
    let (outcome, g) ← c.attempt p g
    c.finish g outcome

/-- Sends a request; one that cannot be prepared leaves no trace in the world. -/
def send (c : Client) (b : RequestBuilder) : Run (Except Error Response) :=
  match b.prepare c with
  | .error e => return .error e
  | .ok p => c.execute p

end Client
end ResilientHttp
