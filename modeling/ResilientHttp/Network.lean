import ResilientHttp.Client

/-! What is known of requests over a real network before a connection is made. -/
namespace ResilientHttp.Network

/-- Only a user agent that can stand in a header can be announced. -/
def check (config : Config) : Except Error Unit :=
  match Header.Value.parse? config.userAgent with
  | some _ => .ok ()
  | none => .error (.requestBuild "builder error")

def isReachable (url : Url) : Bool := url.scheme = "http" || url.scheme = "https"

def refusal (url : Url) : TransportError :=
  (Failure.builder (some url.text) "URL scheme is not allowed").classify

/-- A transport that connects to nothing, for URLs under which there are no servers. -/
def transport : Transport := fun _ r => .done (.error (refusal r.url))

end ResilientHttp.Network
