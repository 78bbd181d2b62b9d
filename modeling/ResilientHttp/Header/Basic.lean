import ResilientHttp.Method

/-! Header names and values. -/
namespace ResilientHttp.Header

/-- A written header name: a token of bounded length. -/
def isName (s : String) : Bool :=
  0 < s.utf8ByteSize && s.utf8ByteSize ≤ 65535 && s.toList.all isTokenChar

/-- A header name in lower case, the form in which names are compared. -/
structure Name where
  text : String
deriving DecidableEq

def Name.parse? (s : String) : Option Name :=
  if isName s then some ⟨String.ofList (s.toList.map Char.toLower)⟩ else none

/-- A tab, or anything that is no control. -/
def isValueChar (c : Char) : Bool := c = '\t' || (0x20 ≤ c.toNat && c.toNat ≠ 0x7F)

/-- A header value; a sensitive one is kept out of logs. -/
structure Value where
  text : String
  sensitive : Bool := false
deriving DecidableEq

def Value.parse? (s : String) : Option Value :=
  if s.toList.all isValueChar then some { text := s } else none

/-- The value as text, unless some byte of it is outside visible ASCII, the space and the tab. -/
def Value.ascii? (v : Value) : Option String :=
  if v.text.toList.all fun c => c = '\t' || (0x20 ≤ c.toNat && c.toNat < 0x7F) then some v.text
  else none

inductive Fault
  | name
  | value
deriving Repr, DecidableEq

def Fault.message : Fault → String
  | .name => "invalid HTTP header name"
  | .value => "failed to parse header value"

/-- A header from two texts; a bad name is reported before a bad value. -/
def parse (name value : String) : Except Fault (Name × Value) :=
  match Name.parse? name with
  | none => .error .name
  | some n => match Value.parse? value with
    | none => .error .value
    | some v => .ok (n, v)

namespace Name

def accept : Name := ⟨"accept"⟩
def acceptEncoding : Name := ⟨"accept-encoding"⟩
def authorization : Name := ⟨"authorization"⟩
def contentEncoding : Name := ⟨"content-encoding"⟩
def contentLength : Name := ⟨"content-length"⟩
def contentType : Name := ⟨"content-type"⟩
def retryAfter : Name := ⟨"retry-after"⟩

end Name
end ResilientHttp.Header
