import ResilientHttp.Text.Search

/-! Failures below the exchange of messages: connections, certificates, streams. -/
namespace ResilientHttp

inductive StreamFault
  | connectionReset
  | unexpectedEnd
  | timedOut
  | invalidData
  | invalidInput
  | writeZero
  | brokenPipe
  | other
deriving Repr, DecidableEq

structure StreamError where
  fault : StreamFault
  message : String
deriving Repr, DecidableEq

inductive TransportError
  | certificate (message : String)
  | redirect (message : String)
  | invalidHeader (message : String)
  | unsupportedScheme (message : String)
  | connect (message : String)
  | timeout (message : String)
  | other (message : String) (temporary : Bool)
deriving Repr, DecidableEq

namespace TransportError

def message : TransportError → String
  | certificate m => "certificate verification failed: " ++ m
  | redirect m => "redirect policy violated: " ++ m
  | invalidHeader m => "invalid header: " ++ m
  | unsupportedScheme m => "unsupported protocol scheme: " ++ m
  | connect m => "connection failed: " ++ m
  | timeout m => "timed out: " ++ m
  | other m _ => m

def isCertificate : TransportError → Bool
  | certificate _ => true
  | _ => false

/-- The failure comes from the configuration, so that trying again cannot help. -/
def isPermanent : TransportError → Bool
  | certificate _ | redirect _ | invalidHeader _ | unsupportedScheme _ => true
  | _ => false

/-- Trying again may help. -/
def isTemporary : TransportError → Bool
  | connect _ | timeout _ => true
  | other _ temporary => temporary
  | _ => false

end TransportError

/-- A connection-level failure as it is found: a summary, the URL it happened at, the causes from
the outermost to the innermost, and what is known of it. -/
structure Failure where
  summary : String
  url : Option String := none
  causes : List String := []
  isBuilder : Bool := false
  isRedirect : Bool := false
  isTimeout : Bool := false
  isConnect : Bool := false
  isRequest : Bool := false

namespace Failure

def builder (url : Option String) (cause : String) : Failure :=
  { summary := "builder error", url, causes := [cause], isBuilder := true }

def refused (url : String) : Failure := {
  summary := "error sending request"
  url := some url
  causes := ["client error (Connect)", "tcp connect error", "Connection refused"]
  isRequest := true
  isConnect := true }

def text (f : Failure) : String :=
  let head := f.summary ++ (f.url.map fun u => s!" for url ({u})").getD ""
  ": ".intercalate (head :: f.causes)

def mentions (text words : String) : Bool :=
  let lower (s : String) := s.toList.map Char.toLower
  Text.occursIn (lower words) (lower text)

/-- The kind of a failure. Certificates come first, then redirects, schemes and headers; what is
left is told by the flags, and a failed request that was built may be tried again. -/
def classify (f : Failure) : TransportError :=
  let t := f.text
  if mentions t "certificate" || mentions t "unknownissuer" then .certificate t
  else if f.isRedirect then .redirect t
  else if mentions t "scheme" then .unsupportedScheme t
  else if mentions t "invalid header" || mentions t "header value" then .invalidHeader t
  else if f.isTimeout then .timeout t
  else if f.isConnect then .connect t
  else .other t (f.isRequest && !f.isBuilder)

end Failure
end ResilientHttp
