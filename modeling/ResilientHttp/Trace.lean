import ResilientHttp.Json.Basic
import ResilientHttp.Span

/-! Traces: what happened in each attempt of a request. -/
namespace ResilientHttp

structure AttemptTrace where
  attempt : Nat
  /-- How long the server took. -/
  serverTime : Span
  status : Option Nat
  error : Option String
  /-- The wait after the attempt. -/
  wait : Span
deriving Repr, DecidableEq

structure Trace where
  attempts : List AttemptTrace := []
  totalTime : Span := 0
  totalWait : Span := 0
deriving Repr, DecidableEq

namespace Trace

def record (t : Trace) (a : AttemptTrace) : Trace := { t with attempts := t.attempts ++ [a] }

def setLastWait (t : Trace) (wait : Span) : Trace :=
  { t with attempts := t.attempts.modify (t.attempts.length - 1) fun a => { a with wait } }

def serverTime (t : Trace) : Span := (t.attempts.getLast?.map AttemptTrace.serverTime).getD 0

def attemptText (a : AttemptTrace) : String :=
  let outcome :=
    match a.status, a.error with
    | some status, _ => s!" status={status}"
    | none, some error => s!" error={error}"
    | none, none => ""
  let wait := if a.wait = 0 then "" else s!" wait={a.wait.text}"
  s!"\n  #{a.attempt} {a.serverTime.text}{outcome}{wait}"

/-- A summary, then a line for each attempt. -/
def text (t : Trace) : String :=
  s!"TRACE INFO:\n  Attempts   : {t.attempts.length}\n  ServerTime : {t.serverTime.text}\n" ++
    s!"  TotalWait  : {t.totalWait.text}\n  TotalTime  : {t.totalTime.text}" ++
    String.join (t.attempts.map attemptText)

def spanJson (d : Span) : Json :=
  .ofMembers [("secs", .natural d.seconds), ("nanos", .natural d.subsecond)]

def attemptJson (a : AttemptTrace) : Json :=
  .ofMembers [("attempt", .natural a.attempt), ("server_time", spanJson a.serverTime),
    ("status", (a.status.map Json.natural).getD .null),
    ("error", (a.error.map Json.text).getD .null), ("wait", spanJson a.wait)]

def toJson (t : Trace) : Json :=
  .ofMembers [("attempts", .list (t.attempts.map attemptJson)),
    ("total_time", spanJson t.totalTime), ("total_wait", spanJson t.totalWait)]

end Trace
end ResilientHttp
