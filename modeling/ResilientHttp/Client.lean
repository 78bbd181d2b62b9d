import ResilientHttp.Config
import ResilientHttp.Hook

/-! Clients: what requests are sent with. -/
namespace ResilientHttp

/-- How a request gets to a server and a reply back; the first call has the number zero. -/
abbrev Transport := (call : Nat) → Request → Activity (Except TransportError Reply)

structure Client where
  config : Config := {}
  transport : Transport
  decompressors : Compression.Registry := .standard
  codecs : Codecs := {}
  hooks : List Hook := []
  /-- The slack of all timers. -/
  slack : Nat := 0
  /-- The random numbers of a request, by the number of transport calls before it. -/
  noise : Nat → Noise := Noise.ofSeed
  /-- The time of day when the clock starts, in nanoseconds since the start of 1970. -/
  epoch : Int := 0

def Client.world (c : Client) : World := { breaker := c.config.breaker.map Breaker.make }

end ResilientHttp
