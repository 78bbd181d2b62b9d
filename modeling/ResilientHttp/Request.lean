import ResilientHttp.ByteStream
import ResilientHttp.Error.Basic
import ResilientHttp.Header.Fields

/-! Requests as they are handed to a transport, and bodies that may have to be sent again. -/
namespace ResilientHttp

inductive RequestBody
  | empty
  | bytes (b : ByteArray)
  /-- A body that can be opened again and again; opening it is told how many bodies were opened
  before. -/
  | reopenable (length : Option Nat) (opener : (opened : Nat) → Except StreamError ByteStream)
  /-- A stream that can be read once, until somebody takes it. -/
  | once (length : Option Nat) (stream : Option ByteStream)

namespace RequestBody

def ofBytes (b : ByteArray) : RequestBody := if b.isEmpty then empty else bytes b

def ofText (s : String) : RequestBody := ofBytes s.toUTF8

def isEmpty : RequestBody → Bool
  | empty => true
  | _ => false

/-- The number of bytes, as far as it is known beforehand. -/
def sizeHint? : RequestBody → Option Nat
  | empty => some 0
  | bytes b => some b.size
  | reopenable length _ | once length _ => length

def isReplayable : RequestBody → Bool
  | once .. => false
  | _ => true

def kindName : RequestBody → String
  | empty => "empty"
  | bytes _ => "bytes"
  | reopenable .. => "reopenable"
  | once .. => "one-shot"

def text (b : RequestBody) : String :=
  let size := match b.sizeHint? with
    | some n => s!"Some({n})"
    | none => "None"
  s!"RequestBody \x7b kind: \"{b.kindName}\", size_hint: {size} \x7d"

end RequestBody

/-- A request in the form that the requests of all attempts are made from. -/
structure Draft where
  method : Method
  url : Url
  headers : Header.Fields
  body : RequestBody
  timeout : Option Span

structure Request where
  method : Method
  url : Url
  headers : Header.Fields := {}
  timeout : Option Span := none
  body : Option ByteStream := none

/-- The request with a body. The length of a body is told if it is known and no header tells it
already. -/
def Draft.request (d : Draft) (body : Option ByteStream) : Request :=
  let length := if body.isSome then d.body.sizeHint? else none
  let headers :=
    match length with
    | some n =>
      if d.headers.contains .contentLength then d.headers
      else d.headers.insert .contentLength { text := toString n }
    | none => d.headers
  { method := d.method, url := d.url, headers, timeout := d.timeout, body }

/-- Sets a header, unless its name or its value is invalid. -/
def Request.withHeader (r : Request) (name value : String) : Request :=
  match Header.parse name value with
  | .ok (n, v) => { r with headers := r.headers.insert n v }
  | .error _ => r

end ResilientHttp
