import ResilientHttp.Breaker
import ResilientHttp.Retry

/-! What is set for all requests of a client. -/
namespace ResilientHttp

structure Config where
  /-- What the URLs of requests are relative to. -/
  baseUrl : Option String := none
  timeout : Span := Span.ofSeconds 30
  connectTimeout : Span := Span.ofSeconds 10
  retry : Option RetryPolicy := none
  breaker : Option BreakerConfig := none
  poolIdleTimeout : Span := Span.ofSeconds 90
  poolMaxIdlePerHost : Nat := 32
  /-- Headers that requests carry unless they set their own. -/
  defaultHeaders : List (String × String) := []
  userAgent : String := "bulwark-http/0.1.1"
  followRedirects : Bool := true
  maxRedirects : Nat := 10
  trace : Bool := false
  /-- Requests tell which content codings can be decompressed. -/
  advertiseEncodings : Bool := true

end ResilientHttp
