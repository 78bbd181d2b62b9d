import ResilientHttp.Codecs
import ResilientHttp.Compression.Registry
import ResilientHttp.Header.Fields
import ResilientHttp.Status
import ResilientHttp.Trace

/-! Responses: what a server answers, and how its body is read, which can be done once. -/
namespace ResilientHttp

structure Reply where
  status : Status := .ok
  headers : Header.Fields := {}
  url : Option Url := none
  body : ByteStream := []

/-- Adds a header, unless its name or its value is invalid. -/
def Reply.withHeader (r : Reply) (name value : String) : Reply :=
  match Header.parse name value with
  | .ok (n, v) => { r with headers := r.headers.append n v }
  | .error _ => r

structure Response where
  status : Status
  headers : Header.Fields
  url : Option Url
  /-- The body, until somebody receives it. -/
  body : Option ByteStream
  attempts : Nat := 1
  elapsed : Span := 0
  totalWait : Span := 0
  trace : Option Trace := none

/-- The outcome of reading a response: a result, what was passed of the body, and the response
afterwards. -/
structure Reading (α : Type) where
  result : Except Error α
  passed : ByteStream := []
  rest : Response

namespace Response

def ofReply (r : Reply) : Response :=
  { status := r.status, headers := r.headers, url := r.url, body := some r.body }

def contentType? (r : Response) : Option String := r.headers.text? .contentType

def contentLength? (r : Response) : Option Nat :=
  (r.headers.text? .contentLength).bind fun s => Text.readNatUpTo? Text.maxWord64 s.toList

def traceInfo (r : Response) : Except Error Trace :=
  match r.trace with
  | some t => .ok t
  | none => .error .traceNotEnabled

def isRead (r : Response) : Bool := r.body.isNone

/-- Replaces an encoded body by the plain one; the headers about the encoded one go. -/
def decompress (r : Response) (registry : Compression.Registry) : Except Error Response :=
  match r.headers.get? .contentEncoding with
  | none => .ok r
  | some coding =>
    if Compression.Registry.isPassthrough coding.text then .ok r
    else match r.body with
      | none => .error .bodyAlreadyRead
      | some body => (registry.wrap coding.text body).map fun body =>
          { r with
            body := some body
            headers := (r.headers.erase .contentEncoding).erase .contentLength }

def takeBody (r : Response) : Reading ByteStream :=
  match r.body with
  | none => { result := .error .bodyAlreadyRead, rest := r }
  | some body => { result := .ok body, rest := { r with body := none } }

def bytes (r : Response) : Reading ByteArray :=
  match r.body with
  | none => { result := .error .bodyAlreadyRead, rest := r }
  | some body =>
    { result := body.readAll.mapError .stream
      passed := body.sound
      rest := { r with body := none } }

def bytesThen {α : Type} (r : Response) (f : ByteArray → Except Error α) : Reading α :=
  let reading := r.bytes
  { result := reading.result.bind f, passed := reading.passed, rest := reading.rest }

def text (r : Response) : Reading String :=
  r.bytesThen fun b =>
    match Utf8.decode b with
    | .ok s => .ok s
    | .error fault => .error (.decode fault.message)

def json (r : Response) (goal : Payload.Goal) : Reading Payload :=
  r.bytesThen fun b => Codecs.decoded (Payload.ofJsonBytes? goal b)

def xml (r : Response) (goal : Payload.Goal) : Reading Payload :=
  r.bytesThen fun b => Codecs.decoded (Payload.ofXmlBytes? goal b)

/-- Reads the body as its content type says; if nobody can, the body stays. -/
def decode (r : Response) (codecs : Codecs) (goal : Payload.Goal) : Reading Payload :=
  match r.contentType? with
  | none => { result := .error (.invalidMediaType ""), rest := r }
  | some contentType =>
    match Codecs.normalize contentType with
    | .error e => { result := .error e, rest := r }
    | .ok mediaType =>
      if codecs.decodes mediaType then r.bytesThen (codecs.decode contentType goal)
      else { result := .error (.codecNotFound mediaType), rest := r }

/-- Refuses a response that tells an error, with the text of its body or else the phrase of its
status. -/
def errorForStatus (r : Response) : Reading Unit :=
  if r.status.isClientError || r.status.isServerError then
    let reading := r.text
    let phrase := r.status.reason?.getD "Unknown error"
    let message :=
      match reading.result with
      | .ok s => if s.isEmpty then phrase else s
      | .error _ => phrase
    let refusal : Error := .status r.status.code message
    { result := .error refusal, passed := reading.passed, rest := reading.rest }
  else { result := .ok (), rest := r }

end Response
end ResilientHttp
