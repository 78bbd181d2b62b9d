import ResilientHttp.MailDate
import ResilientHttp.Span

/-! The wait that a server asks for. -/
namespace ResilientHttp.RetryAfter
open Text

/-- The wait until a moment, when the clock on the wall tells so many nanoseconds since the start of
1970; a moment that has passed asks for none. -/
def untilMoment (wallClock : Int) (m : MailDate.Moment) : Span :=
  (m.since (.ofNanos wallClock)).toNat

def parse? (wallClock : Int) (value : String) : Option Span :=
  let cs := trimChars value.toList
  match readInt64? cs with
  | some seconds => if seconds < 0 then none else some (Span.ofSeconds seconds.toNat)
  | none => (MailDate.moment? cs).map (untilMoment wallClock)

end ResilientHttp.RetryAfter
