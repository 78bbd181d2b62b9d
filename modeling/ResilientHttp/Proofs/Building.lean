import ResilientHttp.Proofs.Runs

/-!
# Building the request of an attempt

Building can neither hang nor stop a run. Two things outlive it: a body that can be opened again was
opened once more, which the history tells, and a stream that can be read once was taken.
-/
namespace ResilientHttp.Building
open Runs

/-- The body for an attempt, when so many bodies were opened before. -/
def bodyFor (n opened : Nat) : RequestBody → Except Error (Option ByteStream)
  | .empty => .ok none
  | .bytes b => .ok (some (.full b))
  | .reopenable _ opener => ((opener opened).map some).mapError .stream
  | .once _ stream =>
    if 1 < n then .error .bodyNotReplayable
    else match stream with
      | some s => .ok (some s)
      | none => .error .bodyNotReplayable

/-- The body after an attempt asked for it. -/
def bodyLeft (n : Nat) : RequestBody → RequestBody
  | .once length stream => .once length (if 1 < n then stream else none)
  | body => body

def isReopenable : RequestBody → Bool
  | .reopenable .. => true
  | _ => false

/-- The world after a body was asked for. -/
def opened (body : RequestBody) (w : World) : World :=
  if isReopenable body then w.note .opening else w

theorem forAttempt_eq (body : RequestBody) (n : Nat) (w : World) :
    body.forAttempt n w = .ok ((bodyFor n w.openings body, bodyLeft n body), opened body w) := by
  cases body with
  | empty | bytes b | reopenable length opener => rfl
  | once length stream =>
    simp only [RequestBody.forAttempt, bodyFor, bodyLeft]
    by_cases hn : 1 < n
    · simp only [if_pos hn]
      rfl
    · simp only [if_neg hn]
      cases stream <;> rfl

/-- How often a body is opened for one attempt. -/
def openingsOf (body : RequestBody) : Nat := if isReopenable body then 1 else 0

def built (d : Draft) (n : Nat) (w : World) : Except Error Request :=
  (bodyFor n w.openings d.body).map d.request

def left (d : Draft) (n : Nat) : Draft := { d with body := bodyLeft n d.body }

theorem build_eq (d : Draft) (n : Nat) (w : World) :
    d.build n w = .ok ((built d n w, left d n), opened d.body w) := by
  simp only [Draft.build, bind_eq, forAttempt_eq, bind_ok]
  rfl

section
variable {body : RequestBody} {d : Draft} {n : Nat} {w w' : World}

theorem of_build {x : Except Error Request} {d' : Draft} (h : d.build n w = .ok ((x, d'), w')) :
    x = built d n w ∧ d' = left d n ∧ w' = opened d.body w := by
  rw [build_eq] at h
  cases h
  exact ⟨rfl, rfl, rfl⟩

@[simp] theorem opened_now : (opened body w).now = w.now := by
  simp only [opened]
  split <;> rfl

@[simp] theorem opened_cancelled : (opened body w).cancelled = w.cancelled := by
  simp only [opened]
  split <;> rfl

@[simp] theorem opened_breaker : (opened body w).breaker = w.breaker := by
  simp only [opened]
  split <;> rfl

theorem opened_adds : Adds (· = .opening) w (opened body w) := by
  simp only [opened]
  split
  · exact .note rfl (.refl _)
  · exact .refl w

@[simp] theorem opened_callTimes : callTimes (opened body w) = callTimes w :=
  opened_adds.callTimes nofun

@[simp] theorem opened_waits : waits (opened body w) = waits w := opened_adds.waits nofun

theorem opened_openings :
    (opened body w).openings = w.openings + openingsOf body := by
  simp only [opened, openingsOf]
  split
  · simp [World.openings, World.note]
  · rfl

@[simp] theorem isReplayable_bodyLeft : (bodyLeft n body).isReplayable = body.isReplayable := by
  cases body <;> rfl

theorem bodyLeft_of_replayable (h : body.isReplayable = true) : bodyLeft n body = body := by
  cases body with
  | once length stream => cases h
  | _ => rfl

theorem left_of_replayable (h : d.body.isReplayable = true) : left d n = d := by
  rw [left, bodyLeft_of_replayable h]

/-- A stream that can be read once is there for the first attempt only. -/
theorem build_of_not_replayable (h : d.body.isReplayable = false) (hn : 1 < n) (w : World) :
    d.build n w = .ok ((.error .bodyNotReplayable, d), w) := by
  obtain ⟨method, url, headers, body, timeout⟩ := d
  cases body with
  | once length stream =>
    simp only [Draft.build, RequestBody.forAttempt, if_pos hn]
    rfl
  | _ => cases h

end

end ResilientHttp.Building
