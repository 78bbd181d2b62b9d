import ResilientHttp.Breaker
import ResilientHttp.Request

/-! Things that take time, the world in which they happen, and what can cut them short. -/
namespace ResilientHttp

/-- What the history of a client tells. -/
inductive Event
  /-- The body of a request is opened. -/
  | opening
  /-- A hook sees a request. -/
  | requestHook (index : Nat)
  /-- A transport call begins. -/
  | call (request : Request)
  /-- An item of the body that a call brought back is taken. -/
  | taken (call : Nat)
  /-- The rest of a response that nobody wants is being read. -/
  | drain
  /-- A wait between attempts begins. -/
  | wait (d : Span)
  /-- A hook sees a response. -/
  | responseHook (index attempts : Nat) (totalWait : Span)

/-- Something that takes time and gives a value in the end, or never ends. -/
inductive Activity (α : Type) : Type
  | done (a : α)
  /-- Waits, and lets others run. -/
  | sleep (d : Span) (next : Activity α)
  /-- Time passes and nobody else gets to run. -/
  | stall (d : Span) (next : Activity α)
  /-- Cancels the request that is being sent. -/
  | cancel (next : Activity α)
  /-- Takes an item of the body that a call brought back. -/
  | taken (call : Nat) (next : Activity α)
  | hang

namespace Activity

def bind {α β : Type} : Activity α → (α → Activity β) → Activity β
  | done a, f => f a
  | sleep d next, f => sleep d (next.bind f)
  | stall d next, f => stall d (next.bind f)
  | cancel next, f => cancel (next.bind f)
  | taken call next, f => taken call (next.bind f)
  | hang, _ => hang

def pass {α : Type} (after : Activity α) : ByteStream → Activity α
  | [] => after
  | .pause d :: rest => sleep d (pass after rest)
  | .taken n :: rest => taken n (pass after rest)
  | _ :: rest => pass after rest

end Activity

/-- Where everything stands: the time, whether the request that is being sent was cancelled, the
breaker, and what happened so far, the latest first. -/
structure World where
  now : Instant := 0
  cancelled : Bool := false
  breaker : Option Breaker := none
  history : List (Instant × Event) := []

namespace World

def note (w : World) (e : Event) : World := { w with history := (w.now, e) :: w.history }

def openings (w : World) : Nat :=
  w.history.countP fun
    | (_, .opening) => true
    | _ => false

def calls (w : World) : Nat :=
  w.history.countP fun
    | (_, .call _) => true
    | _ => false

def requestsSeen (w : World) (hook : Nat) : Nat :=
  w.history.countP fun
    | (_, .requestHook i) => i = hook
    | _ => false

def responsesSeen (w : World) (hook : Nat) : Nat :=
  w.history.countP fun
    | (_, .responseHook i _ _) => i = hook
    | _ => false

def taken (w : World) (call : Nat) : Nat :=
  w.history.countP fun
    | (_, .taken n) => n = call
    | _ => false

end World

/-- When a timer goes off that is set to an instant: timers go off at multiples of one nanosecond
more than their slack. -/
def alarm (slack : Nat) (now due : Instant) : Instant :=
  if due ≤ now then now else (due + slack) / (slack + 1) * (slack + 1)

inductive Interruption
  | cancelled
  | deadline
deriving Repr, DecidableEq

def Interruption.error : Interruption → Error
  | cancelled => .cancelled
  | deadline => .deadlineExceeded

/-- What can end a request early, and how exact the timers are. -/
structure Bounds where
  slack : Nat := 0
  /-- The request can be cancelled from outside. -/
  cancellable : Bool := false
  /-- The instant at which it will be cancelled. -/
  cancelAt : Option Instant := none
  deadline : Option Instant := none

namespace Bounds

def isPastDeadline (b : Bounds) (now : Instant) : Bool := b.deadline.any fun d => d ≤ now

def isBy (i : Instant) (limit : Option Instant) : Bool := limit.all fun l => i ≤ l

/-- What ends a wait early, and when. Of two things at one instant cancellation comes before the
deadline, and the deadline before the end of the wait. -/
def interruption? (b : Bounds) (w : World) (limit : Option Instant) :
    Option (Instant × Interruption) :=
  let due := b.deadline.map (alarm b.slack w.now)
  let cancel := if w.cancelled then some w.now else b.cancelAt.map (Nat.max w.now)
  match cancel.filter fun c => isBy c due && isBy c limit with
  | some c => some (c, .cancelled)
  | none => (due.filter fun d => isBy d limit).map fun d => (d, .deadline)

end Bounds

def World.interrupted (w : World) (now : Instant) (i : Interruption) : World :=
  { w with now, cancelled := w.cancelled || i = .cancelled }

/-- Why nothing comes of something. -/
inductive Halt
  /-- It never ends. -/
  | hang
  /-- A sum is longer than the longest stretch of time, and the program stops. -/
  | overflow
deriving Repr, DecidableEq

namespace Activity

/-- Carries an activity out. Hangs if it never ends and nothing cuts it short. -/
def run {α : Type} (b : Bounds) : Activity α → World → Except Halt (Except Interruption α × World)
  | done a, w => .ok (.ok a, w)
  | taken call next, w => next.run b (w.note (.taken call))
  | stall d next, w => next.run b { w with now := w.now + d }
  | cancel next, w => next.run b { w with cancelled := w.cancelled || b.cancellable }
  | sleep d next, w =>
    let ends := alarm b.slack w.now (w.now + d)
    if ends = w.now then next.run b w
    else match b.interruption? w (some ends) with
      | some (now, i) => .ok (.error i, w.interrupted now i)
      | none => next.run b { w with now := ends }
  | hang, w =>
    match b.interruption? w none with
    | some (now, i) => .ok (.error i, w.interrupted now i)
    | none => .error .hang

/-- Notes that an activity begins and carries it out, unless the request was cancelled or its
deadline has passed. -/
def runBounded {α : Type} (b : Bounds) (e : Event) (t : Activity α) (w : World) :
    Except Halt (Except Interruption α × World) :=
  if w.cancelled then .ok (.error .cancelled, w)
  else if b.isPastDeadline w.now then .ok (.error .deadline, w)
  else t.run b (w.note e)

/-- Carries an activity out that nothing can cut short. The request may be cancelled meanwhile, by
the activity or from outside. -/
def runThrough {α : Type} (b : Bounds) : Activity α → World → Except Halt (α × World)
  | done a, w => .ok (a, w)
  | taken call next, w => next.runThrough b (w.note (.taken call))
  | stall d next, w => next.runThrough b { w with now := w.now + d }
  | cancel next, w => next.runThrough b { w with cancelled := w.cancelled || b.cancellable }
  | sleep d next, w =>
    let ends := alarm b.slack w.now (w.now + d)
    if ends = w.now then next.runThrough b w
    else next.runThrough b
      { w with now := ends, cancelled := w.cancelled || b.cancelAt.any fun c => c ≤ ends }
  | hang, _ => .error .hang

/-- Carries an activity out when there is no request any more that could be cancelled. -/
def runFreely {α : Type} (slack : Nat) (t : Activity α) (w : World) : Except Halt (α × World) :=
  t.runThrough { slack } w

end Activity
end ResilientHttp
