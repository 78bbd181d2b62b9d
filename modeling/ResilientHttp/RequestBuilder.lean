import ResilientHttp.Client
import ResilientHttp.Url.Form
import ResilientHttp.Url.Parser

/-! Requests in the making. A call that fails is remembered, and the first one to fail decides. -/
namespace ResilientHttp

inductive RetryChoice
  | inherit
  | policy (p : RetryPolicy)
  | disabled

/-- A way to cancel a request from outside: now, later, or when somebody asks for it. -/
structure CancelToken where
  fired : Bool := false
  firesAt : Option Instant := none

structure RequestBuilder where
  method : Method
  url : String
  headers : Header.Fields := {}
  query : List (String × String) := []
  body : RequestBody := .empty
  timeout : Option Span := none
  retry : RetryChoice := .inherit
  allowNonIdempotentRetry : Bool := false
  allowGetPayload : Bool := false
  allowDeletePayload : Bool := false
  token : Option CancelToken := none
  deadline : Option Instant := none
  trace : Option Bool := none
  /-- The first failure. -/
  error : Option Error := none

structure PreparedRequest extends Draft where
  retry : Option RetryPolicy
  bounds : Bounds
  /-- The request was cancelled before it began. -/
  cancelled : Bool
  trace : Bool

namespace RequestBuilder

/-- Remembers a failure, unless there was one before. -/
def fail (b : RequestBuilder) (e : Error) : RequestBuilder :=
  { b with error := some (b.error.getD e) }

def insertHeader (b : RequestBuilder) (name : Header.Name) (value : Header.Value) :
    RequestBuilder :=
  { b with headers := b.headers.insert name value }

def header (b : RequestBuilder) (name value : String) : RequestBuilder :=
  match Header.parse name value with
  | .ok (n, v) => b.insertHeader n v
  | .error f => b.fail (.requestBuild f.message)

/-- Sets headers, each name with all of its values. -/
def withHeaders (b : RequestBuilder) (headers : Header.Fields) : RequestBuilder :=
  { b with headers := b.headers.extend headers }

def queries (b : RequestBuilder) (pairs : List (String × String)) : RequestBuilder :=
  { b with query := b.query ++ pairs }

def withBody (b : RequestBuilder) (body : RequestBody) : RequestBuilder := { b with body }

/-- Sets a body and says what it is. -/
def content (b : RequestBuilder) (contentType : Header.Value) (body : RequestBody) :
    RequestBuilder :=
  (b.insertHeader .contentType contentType).withBody body

def text (b : RequestBuilder) (s : String) : RequestBuilder :=
  b.content { text := "text/plain; charset=utf-8" } (.ofText s)

def encode (b : RequestBuilder) (codecs : Codecs) (contentType : String) (value : Writable) :
    RequestBuilder :=
  match Header.Value.parse? contentType with
  | none => b.fail (.invalidMediaType contentType)
  | some header =>
    match codecs.encode contentType value with
    | .ok bytes => b.content header (.ofBytes bytes)
    | .error e => b.fail e

def json (b : RequestBuilder) (codecs : Codecs) (value : Writable) : RequestBuilder :=
  b.encode codecs "application/json" value

def xml (b : RequestBuilder) (codecs : Codecs) (value : Writable) : RequestBuilder :=
  b.encode codecs "application/xml" value

def form (b : RequestBuilder) (value : Writable) : RequestBuilder :=
  match value.form with
  | .ok s => b.content { text := "application/x-www-form-urlencoded" } (.ofText s)
  | .error m => b.fail (.encode m)

/-- The clock does not reach this far. -/
def clockEnd : Instant := Span.ofSeconds (1 <<< 63)

/-- Sets the deadline some time after now, unless the clock does not reach that far. -/
def deadlineAfter (b : RequestBuilder) (now : Instant) (d : Span) : RequestBuilder :=
  { b with deadline := if now + d < clockEnd then some (now + d) else none }

def bearer (b : RequestBuilder) (token : String) : RequestBuilder :=
  b.header "authorization" ("Bearer " ++ token)

def basic (b : RequestBuilder) (username : String) (password : Option String) : RequestBuilder :=
  match Credentials.basicValue username (password.getD "") with
  | .ok v => b.insertHeader .authorization v
  | .error e => b.fail (.requestBuild e.message)

/-- The URL, relative to the base of the client, with the query. -/
def builtUrl (b : RequestBuilder) (config : Config) : Except Error Url :=
  let url := match config.baseUrl with
    | none => Url.parse b.url
    | some base => (Url.parse base).bind fun base => base.join b.url
  match url with
  | .ok url => .ok (if b.query.isEmpty then url else url.appendPairs b.query)
  | .error f => .error (.invalidUrl f.message)

/-- The headers that all requests carry; the last value of a name counts. -/
def defaultFields (config : Config) : Except Error Header.Fields :=
  config.defaultHeaders.foldlM (fun acc (name, value) =>
    match Header.parse name value with
    | .ok (n, v) => .ok (acc.insert n v)
    | .error f => .error (.requestBuild f.message)) {}

/-- Tells which codings can be decompressed, if the headers do not tell it already. -/
def advertise (c : Client) (headers : Header.Fields) : Header.Fields :=
  let list := ", ".intercalate c.decompressors.accepted
  match Header.Value.parse? list with
  | some v =>
    if c.config.advertiseEncodings && !headers.contains .acceptEncoding && !list.isEmpty then
      headers.insert .acceptEncoding v
    else headers
  | none => headers

def builtHeaders (b : RequestBuilder) (c : Client) : Except Error Header.Fields :=
  (defaultFields c.config).map fun defaults => advertise c (defaults.override b.headers)

def payloadAllowed (b : RequestBuilder) : Bool :=
  match b.method.name with
  | "GET" => b.allowGetPayload
  | "DELETE" => b.allowDeletePayload
  | "POST" | "PUT" | "PATCH" => true
  | _ => false

def selectedRetry (b : RequestBuilder) (config : Config) : Option RetryPolicy :=
  match b.retry with
  | .inherit => config.retry
  | .policy p => some p
  | .disabled => none

def chosenRetry (b : RequestBuilder) (config : Config) : Option RetryPolicy :=
  (b.selectedRetry config).map fun p =>
    { p with allowNonIdempotent := p.allowNonIdempotent || b.allowNonIdempotentRetry }

/-- The request that was described. The first failing call comes first, then the URL, then the
headers. -/
def prepare (b : RequestBuilder) (c : Client) : Except Error PreparedRequest :=
  match b.error with
  | some e => .error e
  | none => do
    let url ← b.builtUrl c.config
    let headers ← b.builtHeaders c
    return {
      method := b.method
      url
      headers
      body := if b.payloadAllowed then b.body else .empty
      timeout := b.timeout
      retry := b.chosenRetry c.config
      bounds := {
        slack := c.slack
        cancellable := b.token.isSome
        cancelAt := b.token.bind CancelToken.firesAt
        deadline := b.deadline }
      cancelled := b.token.any CancelToken.fired
      trace := b.trace.getD c.config.trace }

end RequestBuilder
end ResilientHttp
