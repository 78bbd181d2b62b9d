import ResilientHttp.Text.Integer

/-! Request methods. -/
namespace ResilientHttp

/-- The characters of a token: letters, digits and a few marks. -/
def isTokenChar (c : Char) : Bool := c.isAlphanum || "!#$%&'*+-.^_\x60|~".toList.contains c

/-- A request method: a token, in which case matters. -/
structure Method where
  name : String
  sound : (!name.toList.isEmpty && name.toList.all isTokenChar) = true
deriving DecidableEq

namespace Method

def parse? (s : String) : Option Method :=
  if h : (!s.toList.isEmpty && s.toList.all isTokenChar) = true then some ⟨s, h⟩ else none

def get : Method := ⟨"GET", by decide⟩

def isIdempotent (m : Method) : Bool :=
  ["GET", "HEAD", "OPTIONS", "TRACE", "PUT", "DELETE"].contains m.name

end Method
end ResilientHttp
