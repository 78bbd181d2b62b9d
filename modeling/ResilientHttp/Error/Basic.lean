import ResilientHttp.Error.Transport
import ResilientHttp.Method
import ResilientHttp.Span
import ResilientHttp.Text.Quoted
import ResilientHttp.Url.Basic

/-! Why a request fails. -/
namespace ResilientHttp

inductive Error
  /-- The circuit breaker lets nothing pass. -/
  | breakerOpen
  | transport (e : TransportError)
  | cancelled
  | deadlineExceeded
  /-- Nothing is registered for a content coding or a media type. -/
  | codecNotFound (name : String)
  /-- Every permitted attempt failed; `last` is how the final one did. -/
  | retryExhausted (attempts : Nat) (totalWait : Span) (method : Method) (url : Url)
      (last : Option Error)
  | bodyNotReplayable
  | bodyAlreadyRead
  | traceNotEnabled
  | status (code : Nat) (message : String)
  | invalidUrl (message : String)
  | requestBuild (message : String)
  | invalidMediaType (contentType : String)
  | encode (message : String)
  | decode (message : String)
  /-- A hook refused the request or the response. -/
  | interceptor (message : String)
  | urlParse (fault : Url.Fault)
  | stream (e : StreamError)

namespace Error

def message : Error → String
  | breakerOpen => "Circuit breaker is open, request rejected"
  | transport e => "Transport error: " ++ e.message
  | cancelled => "Request cancelled"
  | deadlineExceeded => "Request deadline exceeded"
  | codecNotFound name => "No codec registered for " ++ Text.quoted name
  | retryExhausted attempts wait method url _ =>
    s!"{method.name} {url.text} failed after {attempts} attempts (waited {wait.text})"
  | bodyNotReplayable => "Request body is not replayable and cannot be retried"
  | bodyAlreadyRead => "Response body is already read"
  | traceNotEnabled => "Trace is not enabled for this request"
  | status code m => s!"Response error: {code} - {m}"
  | invalidUrl m => "Invalid URL: " ++ m
  | requestBuild m => "Failed to build request: " ++ m
  | invalidMediaType contentType => "Invalid media type: " ++ Text.quoted contentType
  | encode m => "Encode error: " ++ m
  | decode m => "Decode error: " ++ m
  | interceptor m => "Interceptor error: " ++ m
  | urlParse fault => "URL parse error: " ++ fault.message
  | stream e => "I/O error: " ++ e.message

/-- The texts of the failures underneath, from the outermost to the innermost. -/
def sources : Error → List String
  | transport e => [e.message]
  | urlParse fault => [fault.message]
  | stream e => [e.message]
  | retryExhausted _ _ _ _ (some last) => last.message :: last.sources
  | _ => []

def isBreakerOpen : Error → Bool
  | breakerOpen => true
  | _ => false

/-- The caller, or the deadline that the caller set, ended the request. -/
def isCancelled : Error → Bool
  | cancelled | deadlineExceeded => true
  | _ => false

def isTimeout : Error → Bool
  | transport (.timeout _) => true
  | _ => false

def statusCode? : Error → Option Nat
  | status code _ => some code
  | _ => none

def exhaustedAttempts? : Error → Option Nat
  | retryExhausted attempts .. => some attempts
  | _ => none

end Error
end ResilientHttp
