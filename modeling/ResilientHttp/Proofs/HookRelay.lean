import Mathlib.Algebra.GroupWithZero.Nat
import ResilientHttp.Proofs.Rebuilding

/-!
# Hooks along a run

Hooks stand in a row, and each one is shown what the one before made of its request or its response.
In every attempt that gets that far all of them are shown the request, and the transport gets what
the last one made of it. If the run comes to a response that is handed on, then all of them are shown
that response, and nothing else that a run comes to is shown to them.
-/
namespace ResilientHttp.HookRelay
open Building Runs Turns Passage Rebuilding

/-! ## What is told of hooks and calls -/

/-- What the history tells of hooks and transport calls. -/
def marks : World → List Event := told fun
  | (_, .requestHook i) => some (.requestHook i)
  | (_, .call r) => some (.call r)
  | (_, .responseHook i attempts totalWait) => some (.responseHook i attempts totalWait)
  | _ => none

section
variable {w w' : World}

theorem marks_of_taken (h : Adds IsTaken w w') : marks w' = marks w :=
  h.told fun t e he => by
    cases e with
    | taken n => rfl
    | _ => exact he.elim

theorem marks_of_history (h : w'.history = w.history) : marks w' = marks w := by
  simp only [marks, told, h]

theorem marks_requestHook (w : World) (i : Nat) :
    marks (w.note (.requestHook i)) = marks w ++ [.requestHook i] := told_note _ w _

theorem marks_responseHook (w : World) (i attempts : Nat) (totalWait : Span) :
    marks (w.note (.responseHook i attempts totalWait)) =
      marks w ++ [.responseHook i attempts totalWait] := told_note _ w _

theorem marks_call (w : World) (r : Request) :
    marks (w.note (.call r)) = marks w ++ [.call r] := told_note _ w _

theorem marks_drain (w : World) : marks (w.note .drain) = marks w :=
  (told_note _ w _).trans (List.append_nil _)

theorem marks_wait (w : World) (d : Span) : marks (w.note (.wait d)) = marks w :=
  (told_note _ w _).trans (List.append_nil _)

theorem marks_opened (body : RequestBody) (w : World) : marks (opened body w) = marks w := by
  simp only [opened]
  split
  · exact (told_note _ w _).trans (List.append_nil _)
  · rfl

theorem marks_within {α : Type} {b : Bounds} {e : Event} {t : Activity α} {x : Except Error α}
    (he : marks (w.note e) = marks w) (h : Run.within b e t w = .ok (x, w')) :
    marks w' = marks w := by
  rcases within_cases h with rfl | ha
  · rfl
  · exact (marks_of_taken ha).trans he

theorem marks_drained {p : PreparedRequest} {o : Except Error Response} {x : Except Error Unit}
    (h : Client.drain p o w = .ok (x, w')) : marks w' = marks w := by
  cases o with
  | error e =>
    cases h
    rfl
  | ok r => exact marks_within (marks_drain w) h

/-- Between two attempts no hook is shown anything and nothing is sent. -/
theorem marks_pause {c : Client} {p : PreparedRequest} {q : RetryPolicy} {g : Progress}
    {o : Except Error Response} {x : Except Error Progress}
    (h : c.pause p q g o w = .ok (x, w')) : marks w' = marks w := by
  cases paused_of_pause h with
  | undrained hd => exact marks_drained hd
  | cut _ hd hs | rested _ hd hs =>
    exact (marks_within (marks_wait _ _) hs).trans (marks_drained hd)

end

/-! ## Stages in a row -/

theorem eq_of_getElem?_singleton {α : Type} {a b : α} {i : Nat} (h : [a][i]? = some b) :
    i = 0 ∧ b = a := by
  simpa [List.getElem?_singleton, eq_comm] using h

/-- Makes something else of what it is given, or fails. -/
abbrev Stage (α : Type) := α → Run (Except Error α)

/-- Hands something from stage to stage, until one fails. -/
def relay {α : Type} : List (Stage α) → Stage α
  | [], a => return .ok a
  | s :: stages, a => do
    match ← s a with
    | .ok a => relay stages a
    | .error e => return .error e

/-- A stage is given something in some world, and something comes of it unless the run halts. -/
structure Visit (α : Type) where
  given : α
  before : World
  answer : Except Halt (Except Error α × World)

/-- The stages are visited in order, each one once and with what the one before made of it, and the
first one with what there was. What the last one that is visited makes of it is the result, and
there is no stage left unless the result is a failure or there is none. -/
structure Relayed {α : Type} (stages : List (Stage α)) (a : α) (w : World) (visits : List (Visit α))
    (y : Except Halt (Except Error α × World)) : Prop where
  visited : ∀ (k : Nat) (v : Visit α), visits[k]? = some v →
    ∃ s : Stage α, stages[k]? = some s ∧ s v.given v.before = v.answer
  given : ∀ (k : Nat) (v : Visit α), visits[k]? = some v →
    (.ok (.ok a, w) :: visits.map Visit.answer)[k]? = some (.ok (Except.ok v.given, v.before))
  result : y = (visits.map Visit.answer).getLastD (.ok (.ok a, w))
  complete : visits.length = stages.length ∨ ∀ a' w', y ≠ .ok (.ok a', w')

/-- Every stage leaves its own mark and no other one. -/
def Marking {α : Type} (mark : Nat → α → Event) (stages : List (Stage α)) : Prop :=
  ∀ (k : Nat) (s : Stage α), stages[k]? = some s →
    ∀ a w x w', s a w = .ok (x, w') → marks w' = marks w ++ [mark k a]

section
variable {α : Type} {s : Stage α} {stages : List (Stage α)} {a a' : α} {w w' : World}
  {visits : List (Visit α)} {y : Except Halt (Except Error α × World)}

theorem relay_cons (s : Stage α) (stages : List (Stage α)) (a : α) (w : World) :
    relay (s :: stages) a w = (s a w).bind fun y =>
      match y.1 with
      | .ok a => relay stages a y.2
      | .error e => .ok (.error e, y.2) := by
  simp only [relay, bind_eq]
  refine bind_congr fun y _ => ?_
  cases y.1 <;> rfl

theorem Relayed.nil (a : α) (w : World) : Relayed [] a w [] (.ok (.ok a, w)) where
  visited _ _ h := nomatch h
  given _ _ h := nomatch h
  result := rfl
  complete := .inl rfl

/-- Nothing follows a stage that fails or halts the run. -/
theorem Relayed.stop (stages : List (Stage α)) (hs : s a w = y)
    (hy : ∀ a' w', y ≠ .ok (.ok a', w')) : Relayed (s :: stages) a w [⟨a, w, y⟩] y where
  visited k v h := by
    obtain ⟨rfl, rfl⟩ := eq_of_getElem?_singleton h
    exact ⟨s, rfl, hs⟩
  given k v h := by
    obtain ⟨rfl, rfl⟩ := eq_of_getElem?_singleton h
    rfl
  result := rfl
  complete := .inr hy

theorem Relayed.cons (hs : s a w = .ok (.ok a', w')) (h : Relayed stages a' w' visits y) :
    Relayed (s :: stages) a w (⟨a, w, .ok (.ok a', w')⟩ :: visits) y where
  visited k v hv := by
    cases k with
    | zero =>
      cases hv
      exact ⟨s, rfl, hs⟩
    | succ k => exact h.visited k v hv
  given k v hv := by
    cases k with
    | zero =>
      cases hv
      rfl
    | succ k => exact h.given k v hv
  result := by rw [h.result, List.map_cons, List.getLastD_cons]
  complete := h.complete.imp_left (congrArg (· + 1))

/-- However many stages there are, they are visited so, and the marks that they leave are those of
the stages that are visited. -/
theorem relay_relayed {mark : Nat → α → Event} (hm : Marking mark stages) (a : α) (w : World) :
    ∃ visits, Relayed stages a w visits (relay stages a w) ∧
      ∀ x w', relay stages a w = .ok (x, w') →
        marks w' = marks w ++ visits.mapIdx fun k v => mark k v.given := by
  induction stages generalizing mark a w with
  | nil =>
    refine ⟨[], .nil a w, fun x w' h => ?_⟩
    cases h
    exact (List.append_nil _).symm
  | cons s stages ih =>
    have hfirst : ∀ x w₁, s a w = .ok (x, w₁) → marks w₁ = marks w ++ [mark 0 a] :=
      hm 0 s rfl a w
    rw [relay_cons]
    cases hs : s a w with
    | error e => exact ⟨_, .stop stages hs nofun, nofun⟩
    | ok y =>
      obtain ⟨x, w₁⟩ := y
      cases x with
      | error e =>
        refine ⟨_, .stop stages hs nofun, fun x w' h => ?_⟩
        cases h
        exact hfirst _ _ hs
      | ok a₁ =>
        have hrest : Marking (fun k => mark (k + 1)) stages := fun k => hm (k + 1)
        obtain ⟨visits, hv, hmarks⟩ := ih hrest a₁ w₁
        refine ⟨_, hv.cons hs, fun x w' h => ?_⟩
        rw [hmarks x w' h, hfirst _ _ hs, List.append_assoc, List.mapIdx_cons,
          List.singleton_append]

end

/-! ## Hooks as stages -/

def showRequest (b : Bounds) (i : Nat) (hook : Hook) : Stage Request := fun r w =>
  ((hook.beforeRequest (w.requestsSeen i) r).runThrough b (w.note (.requestHook i))).map fun y =>
    (hook.onRequest (w.requestsSeen i) r, y.2)

def showResponse (slack i : Nat) (hook : Hook) : Stage Response := fun r w =>
  (hook.onResponse (w.responsesSeen i) r).runFreely slack
    (w.note (.responseHook i r.attempts r.totalWait))

def requestMark (i : Nat) (_ : Request) : Event := .requestHook i

def responseMark (i : Nat) (r : Response) : Event := .responseHook i r.attempts r.totalWait

theorem mapIdx_from_cons {α : Type} (f : Nat → Hook → Stage α) (i : Nat) (hook : Hook)
    (hooks : List Hook) : ((hook :: hooks).mapIdx fun k => f (i + k)) =
      f i hook :: hooks.mapIdx fun k => f (i + 1 + k) := by
  have hnext : (fun k => f (i + (k + 1))) = fun k => f (i + 1 + k) := by
    funext k
    rw [Nat.add_assoc, Nat.add_comm 1]
  rw [List.mapIdx_cons, hnext]
  rfl

theorem requestHooks_eq_relay (b : Bounds) (i : Nat) (hooks : List Hook) (r : Request) :
    Client.requestHooks b i r hooks = relay (hooks.mapIdx fun k => showRequest b (i + k)) r := by
  induction hooks generalizing i r with
  | nil => rfl
  | cons hook hooks ih =>
    funext w
    rw [requestHooks_cons, mapIdx_from_cons, relay_cons, showRequest, bind_map]
    refine bind_congr fun y _ => ?_
    dsimp only [Function.comp]
    cases hook.onRequest (w.requestsSeen i) r with
    | error e => rfl
    | ok r' => exact congrFun (ih (i + 1) r') y.2

theorem responseHooks_eq_relay (slack i : Nat) (hooks : List Hook) (r : Response) :
    Client.responseHooks slack i r hooks =
      relay (hooks.mapIdx fun k => showResponse slack (i + k)) r := by
  induction hooks generalizing i r with
  | nil => rfl
  | cons hook hooks ih =>
    funext w
    rw [responseHooks_cons, mapIdx_from_cons, relay_cons]
    refine bind_congr fun y _ => ?_
    cases y.1 with
    | error e => rfl
    | ok r' => exact congrFun (ih (i + 1) r') y.2

section
variable (c : Client) (b : Bounds)

def requestStages : List (Stage Request) := c.hooks.mapIdx (showRequest b)

def responseStages : List (Stage Response) := c.hooks.mapIdx (showResponse c.slack)

theorem requestHooks_eq (r : Request) :
    Client.requestHooks b 0 r c.hooks = relay (requestStages c b) r := by
  simp only [requestHooks_eq_relay, requestStages, Nat.zero_add]

theorem responseHooks_eq (r : Response) :
    Client.responseHooks c.slack 0 r c.hooks = relay (responseStages c) r := by
  simp only [responseHooks_eq_relay, responseStages, Nat.zero_add]

theorem marking_requestStages : Marking requestMark (requestStages c b) := by
  intro k s hs r w x w' h
  rw [requestStages, List.getElem?_mapIdx, Option.map_eq_some_iff] at hs
  obtain ⟨hook, -, rfl⟩ := hs
  obtain ⟨⟨u, w₁⟩, hb, he⟩ := map_eq_ok_iff.mp h
  cases he
  exact (marks_of_taken (runThrough_adds hb)).trans (marks_requestHook w k)

theorem marking_responseStages : Marking responseMark (responseStages c) := by
  intro k s hs r w x w' h
  rw [responseStages, List.getElem?_mapIdx, Option.map_eq_some_iff] at hs
  obtain ⟨hook, -, rfl⟩ := hs
  exact (marks_of_taken (runThrough_adds h)).trans (marks_responseHook w k _ _)

end

/-! ## The hooks in an attempt -/

/-- What the hooks are shown in an attempt, and the request of its transport call if one begins. -/
structure Round where
  shown : List (Visit Request) := []
  called : Option Request := none

def Round.marks (x : Round) : List Event :=
  (x.shown.mapIdx fun k v => requestMark k v.given) ++ (x.called.map Event.call).toList

/-- What comes of an attempt once something came of its transport call, which began at `sent`. -/
def concluded (c : Client) (p : PreparedRequest) (g : Progress) (sent : Instant)
    (y : Except Interruption (Except TransportError Reply) × World) :
    (Except Error Response × Progress) × World :=
  match y.1 with
  | .error i => ((.error i.error, g), y.2)
  | .ok result =>
    if !result.isOk && p.bounds.isPastDeadline y.2.now then ((.error .deadlineExceeded, g), y.2)
    else
      let entry := Client.attemptTrace g.attempt (y.2.now - sent) (Client.received result)
      ((c.outcome result, { g with trace := g.trace.map (·.record entry) }),
        afterReport y.2 (Client.received result))

/-- What comes of an attempt once its request went through the hooks, and the request of the transport
call that begins. The transport is handed what the last hook made of the request, and nothing if a
hook fails. Its call does not begin if the request was cancelled meanwhile or its deadline has
passed. -/
inductive Handed (c : Client) (p : PreparedRequest) (g : Progress) :
    Except Halt (Except Error Request × World) → Option Request →
      Except Halt ((Except Error Response × Progress) × World) → Prop
  | halted {e : Halt} : Handed c p g (.error e) none (.error e)
  | failed {e : Error} {w : World} : Handed c p g (.ok (.error e, w)) none (.ok ((.error e, g), w))
  | cancelled {r : Request} {w : World} (hc : w.cancelled = true) :
      Handed c p g (.ok (.ok r, w)) none (.ok ((.error .cancelled, g), w))
  | late {r : Request} {w : World} (hc : w.cancelled = false)
      (hd : p.bounds.isPastDeadline w.now = true) :
      Handed c p g (.ok (.ok r, w)) none (.ok ((.error .deadlineExceeded, g), w))
  | called {r : Request} {w : World} (hc : w.cancelled = false)
      (hd : p.bounds.isPastDeadline w.now = false) :
      Handed c p g (.ok (.ok r, w)) (some r)
        (((c.transport w.calls r).run p.bounds (w.note (.call r))).map (concluded c p g w.now))

/-- The hooks are shown the request of an attempt if the breaker lets it pass and it can be built. -/
inductive Attended (c : Client) (p : PreparedRequest) (g : Progress) (w : World) : Round → Prop
  | refused (hb : isBuilt w = false)
      (ha : c.attempt p g w = .ok ((.error .breakerOpen, { g with attempt := g.attempt + 1 }), w)) :
      Attended c p g w {}
  | unbuilt {e : Error} {d : Draft} {w₁ : World} (hb : isBuilt w = true)
      (hr : g.draft.build (g.attempt + 1) (gated w) = .ok ((.error e, d), w₁))
      (ha : c.attempt p g w =
        .ok ((.error e, { g with draft := d, attempt := g.attempt + 1 }), w₁)) :
      Attended c p g w {}
  | shown {r : Request} {d : Draft} {w₁ : World} {visits : List (Visit Request)}
      {y : Except Halt (Except Error Request × World)} {called : Option Request}
      (hb : isBuilt w = true) (hr : g.draft.build (g.attempt + 1) (gated w) = .ok ((.ok r, d), w₁))
      (hv : Relayed (requestStages c p.bounds) r w₁ visits y)
      (hy : Handed c p { g with draft := d, attempt := g.attempt + 1 } y called
        (c.attempt p g w)) :
      Attended c p g w { shown := visits, called }

section
variable {c : Client} {p : PreparedRequest} {g g' : Progress} {w w' : World} {r : Request}

theorem exchange_of_cancelled (hc : w.cancelled = true) :
    c.exchange p g r w = .ok ((.error .cancelled, g), w) := by
  simp only [Client.exchange, Client.call, bind_eq, get_eq, bind_ok, Run.within,
    Activity.runBounded, hc, if_true]
  rfl

theorem exchange_of_late (hc : w.cancelled = false) (hd : p.bounds.isPastDeadline w.now = true) :
    c.exchange p g r w = .ok ((.error .deadlineExceeded, g), w) := by
  simp only [Client.exchange, Client.call, bind_eq, get_eq, bind_ok, Run.within,
    Activity.runBounded, hc, hd, Bool.false_eq_true, if_false, if_true]
  rfl

/-- The transport gets the request unless that is cut short before it begins. -/
theorem exchange_eq (hc : w.cancelled = false) (hd : p.bounds.isPastDeadline w.now = false) :
    c.exchange p g r w =
      ((c.transport w.calls r).run p.bounds (w.note (.call r))).map (concluded c p g w.now) := by
  simp only [Client.exchange, Client.call, bind_eq, get_eq, bind_ok, Run.within,
    Activity.runBounded, hc, hd, Bool.false_eq_true, if_false]
  cases (c.transport w.calls r).run p.bounds (w.note (.call r)) with
  | error e => rfl
  | ok y =>
    obtain ⟨x, w₁⟩ := y
    cases x with
    | error i => rfl
    | ok result =>
      simp only [concluded, map_ok, bind_ok, Except.mapError, bind_eq, get_eq]
      split <;> rfl

theorem concluded_history (c : Client) (p : PreparedRequest) (g : Progress) (sent : Instant)
    (y : Except Interruption (Except TransportError Reply) × World) :
    (concluded c p g sent y).2.history = y.2.history := by
  obtain ⟨x, w⟩ := y
  cases x with
  | error i => rfl
  | ok result =>
    simp only [concluded]
    split <;> rfl

theorem marks_concluded {sent : Instant} {o : Except Error Response × Progress}
    (h : ((c.transport w.calls r).run p.bounds (w.note (.call r))).map (concluded c p g sent) =
      .ok (o, w')) : marks w' = marks w ++ [.call r] := by
  obtain ⟨y, hy, he⟩ := map_eq_ok_iff.mp h
  have hw : w'.history = y.2.history := by rw [← concluded_history c p g sent y, he]
  exact (marks_of_history hw).trans ((marks_of_taken (run_adds hy)).trans (marks_call w r))

theorem handed_afterHooks (c : Client) (p : PreparedRequest) (g : Progress)
    (y : Except Halt (Except Error Request × World)) :
    ∃ called, Handed c p g y called (y.bind fun z => afterHooks c p g z.1 z.2) ∧
      ∀ o w', (y.bind fun z => afterHooks c p g z.1 z.2) = .ok (o, w') → ∃ x w₁, y = .ok (x, w₁) ∧
        marks w' = marks w₁ ++ (called.map Event.call).toList := by
  cases y with
  | error e =>
    refine ⟨none, .halted, fun o w' h => ?_⟩
    cases h
  | ok z =>
    obtain ⟨x, w₁⟩ := z
    rw [bind_ok]
    cases x with
    | error e =>
      refine ⟨none, .failed, fun o w' h => ⟨_, _, rfl, ?_⟩⟩
      cases h
      exact (List.append_nil _).symm
    | ok r =>
      simp only [afterHooks]
      cases hc : w₁.cancelled with
      | true =>
        rw [exchange_of_cancelled hc]
        refine ⟨none, .cancelled hc, fun o w' h => ⟨_, _, rfl, ?_⟩⟩
        cases h
        exact (List.append_nil _).symm
      | false =>
        cases hd : p.bounds.isPastDeadline w₁.now with
        | true =>
          rw [exchange_of_late hc hd]
          refine ⟨none, .late hc hd, fun o w' h => ⟨_, _, rfl, ?_⟩⟩
          cases h
          exact (List.append_nil _).symm
        | false =>
          rw [exchange_eq hc hd]
          exact ⟨some r, .called hc hd, fun o w' h => ⟨_, _, rfl, marks_concluded h⟩⟩

theorem attempt_of_not_built (h : isBuilt w = false) :
    c.attempt p g w = .ok ((.error .breakerOpen, { g with attempt := g.attempt + 1 }), w) := by
  cases hb : w.breaker with
  | none => simp [isBuilt, hb] at h
  | some b =>
    cases hp : b.preRequest w.now with
    | ok b' => simp [isBuilt, hb, hp, Except.isOk, Except.toBool] at h
    | error e =>
      cases preRequest_error hp
      exact attempt_refused hb hp

/-- Every attempt is attended, and tells just what was shown in it and what was sent. -/
theorem attempt_attended (c : Client) (p : PreparedRequest) (g : Progress) (w : World) :
    ∃ round, Attended c p g w round ∧
      ∀ o w', c.attempt p g w = .ok (o, w') → marks w' = marks w ++ round.marks := by
  cases hb : isBuilt w with
  | false =>
    have ha := attempt_of_not_built (c := c) (p := p) (g := g) hb
    refine ⟨{}, .refused hb ha, fun o w' h => ?_⟩
    cases ha.symm.trans h
    exact (List.append_nil _).symm
  | true =>
    have hopened : marks (opened g.draft.body (gated w)) = marks w := marks_opened _ _
    have hbuild := build_eq g.draft (g.attempt + 1) (gated w)
    cases hr : built g.draft (g.attempt + 1) (gated w) with
    | error e =>
      have ha := attempt_of_unbuilt (c := c) (p := p) hb hr
      rw [hr] at hbuild
      refine ⟨{}, .unbuilt hb hbuild ha, fun o w' h => ?_⟩
      cases ha.symm.trans h
      exact hopened.trans (List.append_nil _).symm
    | ok r =>
      have ha := attempt_of_built (c := c) (p := p) hb hr
      rw [requestHooks_eq] at ha
      rw [hr] at hbuild
      obtain ⟨visits, hv, hmarks⟩ := relay_relayed (marking_requestStages c p.bounds) r
        (opened g.draft.body (gated w))
      obtain ⟨called, hy, hcalled⟩ := handed_afterHooks c p (underway g)
        (relay (requestStages c p.bounds) r (opened g.draft.body (gated w)))
      refine ⟨⟨visits, called⟩, .shown hb hbuild hv (ha ▸ hy), fun o w' h => ?_⟩
      obtain ⟨x, w₁, hx, hw₁⟩ := hcalled o w' (ha ▸ h)
      rw [hw₁, hmarks x w₁ hx, hopened, List.append_assoc]
      rfl

end

/-! ## The hooks at the end of a run -/

/-- A response with what is told of the run that ends with it. -/
def accounted (g : Progress) (now : Instant) (r : Response) : Response :=
  { r with
    attempts := g.attempt
    elapsed := now - g.started
    totalWait := g.totalWait
    trace := g.trace.map fun t => { t with totalTime := now - g.started, totalWait := g.totalWait } }

/-- The progress tells how many attempts were begun since the run began, when that was, and how long
it waited. -/
structure Reckoned (p : PreparedRequest) (w₀ : World) (n : Nat) (g : Progress) (w : World) :
    Prop where
  attempt : g.attempt = n
  started : g.started = w₀.now
  totalWait : ∃ ds, waits w = waits w₀ ++ ds ∧ g.totalWait = ds.sum
  trace : g.trace.isSome = p.trace

/-- How a run ends whose last attempt is known: the outcome is a response that is handed on after the
hooks were shown it, or the run comes to no response. -/
inductive Ending (c : Client) (p : PreparedRequest) (w₀ : World) (n : Nat) (g : Progress)
    (w : World) : List (Visit Response) → Except Halt (Except Error Response × World) → Prop
  | handedOn {r : Response} {g' : Progress} {w' : World} {visits : List (Visit Response)}
      {y : Except Halt (Except Error Response × World)}
      (ha : c.attempt p g w = .ok ((.ok r, g'), w')) (hm : moveAfter p n (.ok r) = .finish)
      (hg : Reckoned p w₀ n g' w')
      (hv : Relayed (responseStages c) (accounted g' w'.now r) w' visits y)
      (hk : ∀ x w'', y = .ok (x, w'') → w''.breaker = w'.breaker) : Ending c p w₀ n g w visits y
  | nothing {y : Except Halt (Except Error Response × World)}
      (ha : ∀ r g' w', c.attempt p g w = .ok ((.ok r, g'), w') → moveAfter p n (.ok r) ≠ .finish)
      (hy : ∀ r w', y ≠ .ok (.ok r, w')) : Ending c p w₀ n g w [] y

section
variable {c : Client} {p : PreparedRequest} {g g' : Progress} {w w' w₀ : World} {n : Nat}
  {o : Except Error Response}

theorem Reckoned.attempted (h : Reckoned p w₀ n g w)
    (ha : c.attempt p g w = .ok ((o, g'), w')) : Reckoned p w₀ (n + 1) g' w' := by
  obtain ⟨entry, d, hn, rfl⟩ := attempt_cases ha
  obtain ⟨ds, hds, hsum⟩ := h.totalWait
  refine ⟨congrArg (· + 1) h.attempt, h.started, ⟨ds, (attempted_waits hn).trans hds, hsum⟩, ?_⟩
  rw [← h.trace]
  cases entry with
  | none => rfl
  | some a => exact Option.isSome_map

theorem Reckoned.settled (h : Reckoned p w₀ n g w)
    (hs : settle c p g o w = .ok (.inl g', w')) : Reckoned p w₀ n g' w' := by
  rcases settle_cases hs with ⟨y, ds, hy, -⟩ | ⟨g₁, d, hg, hp, hattempt, hstarted, hwait, htrace⟩
  · cases hy
  · cases hg
    obtain ⟨ds, hds, hsum⟩ := h.totalWait
    refine ⟨hattempt.trans h.attempt, hstarted.trans h.started, ⟨ds ++ [d], ?_, ?_⟩, ?_⟩
    · rw [hp.waits, hds, List.append_assoc]
    · rw [hwait, hsum, List.sum_append, List.sum_singleton]
    · rw [htrace, Option.isSome_map, h.trace]

theorem marks_settled (hs : settle c p g o w = .ok (.inl g', w')) : marks w' = marks w := by
  obtain ⟨q, -, hp⟩ := pause_of_settle_inl hs
  exact marks_pause hp

/-- An outcome that is not handed on gives no response, and no hook is shown it. -/
theorem settle_discarded {x : Except Error Response} (hm : moveAfter p g.attempt o ≠ .finish)
    (hs : settle c p g o w = .ok (.inr x, w')) : (∃ e, x = .error e) ∧ marks w' = marks w := by
  cases hmove : moveAfter p g.attempt o with
  | finish => exact absurd hmove hm
  | exhaust =>
    rw [settle_exhaust hmove] at hs
    cases hs
    exact ⟨⟨_, rfl⟩, rfl⟩
  | again q =>
    rw [settle_again hmove, map_eq_ok_iff] at hs
    obtain ⟨⟨y, w₁⟩, hp, he⟩ := hs
    cases y with
    | ok g₁ => cases he
    | error e =>
      cases he
      exact ⟨⟨e, rfl⟩, marks_pause hp⟩

def asLast (x : Except Error Response × World) : (Progress ⊕ Except Error Response) × World :=
  (.inr x.1, x.2)

theorem asLast_injective : Function.Injective asLast := by
  intro x y h
  obtain ⟨hx, hw⟩ := Prod.mk.inj h
  exact Prod.ext (Sum.inr.inj hx) hw

theorem eq_of_map_asLast {x y : Except Halt (Except Error Response × World)}
    (h : x.map asLast = y.map asLast) : x = y := by
  cases x with
  | error e => cases y <;> cases h; rfl
  | ok a =>
    cases y with
    | error e => cases h
    | ok b => rw [asLast_injective (Except.ok.inj h)]

theorem settle_ending {y : Except Halt (Except Error Response × World)}
    (ha : c.attempt p g w = .ok ((o, g'), w')) (hg : Reckoned p w₀ n g' w')
    (hs : settle c p g' o w' = y.map asLast) :
    ∃ visits, Ending c p w₀ n g w visits y ∧ ∀ x w'', y = .ok (x, w'') →
      marks w'' = marks w' ++ visits.mapIdx fun k v => responseMark k v.given := by
  by_cases hm : moveAfter p n o = .finish
  · have hy : c.finish g' o w' = y := by
      rw [settle_finish (by rwa [hg.attempt])] at hs
      exact eq_of_map_asLast hs
    cases o with
    | error e =>
      cases hy
      refine ⟨[], .nothing (fun r g₁ w₁ h => ?_) (fun r w'' h => ?_), fun x w'' h => ?_⟩
      · cases ha.symm.trans h
      · cases h
      · cases h
        exact (List.append_nil _).symm
    | ok r =>
      have hrelay : y = relay (responseStages c) (accounted g' w'.now r) w' :=
        hy.symm.trans (congrFun (responseHooks_eq c _) w')
      obtain ⟨visits, hv, hmarks⟩ :=
        relay_relayed (marking_responseStages c) (accounted g' w'.now r) w'
      rw [← hrelay] at hv hmarks
      exact ⟨visits, .handedOn ha hm hg hv fun x w'' h => (finish_passed (hy.trans h)).breaker,
        hmarks⟩
  · have hlast (x : Except Error Response) (w'' : World) (h : y = .ok (x, w'')) :
        (∃ e, x = .error e) ∧ marks w'' = marks w' := by
      rw [h] at hs
      exact settle_discarded (by rwa [hg.attempt]) hs
    refine ⟨[], .nothing (fun r g₁ w₁ h => ?_) (fun r w'' h => ?_), fun x w'' h => ?_⟩
    · cases ha.symm.trans h
      exact hm
    · obtain ⟨⟨e, he⟩, -⟩ := hlast _ w'' h
      cases he
    · rw [(hlast x w'' h).2]
      exact (List.append_nil _).symm

end

/-! ## The hooks along a run -/

def shownMarks (visits : List (Visit Response)) : List Event :=
  visits.mapIdx fun k v => responseMark k v.given

/-- Each turn has its round, and the run has its ending. The history tells what was shown and sent in
the rounds, one after the other, and then what was shown at the end, and of hooks and calls it tells
nothing else. The turns begin in a world `w`, and `n` attempts were made before since the run began
in the world `w₀`. -/
structure Accompanied (c : Client) (p : PreparedRequest) (w₀ : World) (n : Nat) (w : World)
    (heads : List (Progress × World)) (rounds : List Round) (seen : List (Visit Response))
    (y : Except Halt (Except Error Response × World)) : Prop where
  attended : List.Forall₂ (fun head round => Attended c p head.1 head.2 round) heads rounds
  before : ∀ (i : Nat) (head : Progress × World), heads[i]? = some head →
    marks head.2 = marks w ++ (rounds.take i).flatMap Round.marks
  ending : ∃ last, heads.getLast? = some last ∧
    Ending c p w₀ (n + heads.length) last.1 last.2 seen y
  after : ∀ x w', y = .ok (x, w') →
    marks w' = marks w ++ rounds.flatMap Round.marks ++ shownMarks seen

section
variable {c : Client} {p : PreparedRequest} {g g' : Progress} {w w' w₀ : World} {n : Nat}
  {heads : List (Progress × World)} {y : Except Halt (Except Error Response × World)}

theorem last_accompanied (hg : Reckoned p w₀ n g w) (ht : turn c p g w = y.map asLast) :
    ∃ rounds seen, Accompanied c p w₀ n w [(g, w)] rounds seen y := by
  obtain ⟨round, hround, hmarks⟩ := attempt_attended c p g w
  have hbefore (i : Nat) (head : Progress × World) (hi : [(g, w)][i]? = some head) :
      marks head.2 = marks w ++ ([round].take i).flatMap Round.marks := by
    obtain ⟨rfl, rfl⟩ := eq_of_getElem?_singleton hi
    exact (List.append_nil _).symm
  rw [turn_eq] at ht
  cases ha : c.attempt p g w with
  | error e =>
    rw [ha] at ht
    cases y with
    | ok z => cases ht
    | error e' =>
      have hending : Ending c p w₀ (n + 1) g w [] (.error e') := by
        refine .nothing (fun r g' w' h => ?_) (fun r w' h => ?_)
        · cases ha.symm.trans h
        · cases h
      refine ⟨[round], [], .cons hround .nil, hbefore, ⟨_, rfl, hending⟩, fun x w' h => ?_⟩
      cases h
  | ok z =>
    obtain ⟨⟨o, g'⟩, w'⟩ := z
    rw [ha] at ht
    obtain ⟨seen, hending, hseen⟩ := settle_ending ha (hg.attempted ha) ht
    refine ⟨[round], seen, .cons hround .nil, hbefore, ⟨_, rfl, hending⟩, fun x w'' h => ?_⟩
    rw [hseen x w'' h, hmarks _ _ ha, List.flatMap_singleton]
    rfl

theorem Accompanied.cons {rounds : List Round} {seen : List (Visit Response)}
    (h : Accompanied c p w₀ (n + 1) w' heads rounds seen y)
    (ht : turn c p g w = .ok (.inl g', w')) :
    ∃ round, Accompanied c p w₀ n w ((g, w) :: heads) (round :: rounds) seen y := by
  obtain ⟨round, hround, hmarks⟩ := attempt_attended c p g w
  obtain ⟨⟨o, g₁⟩, w₁, ha, hs⟩ := of_bind ht
  have hw : marks w' = marks w ++ round.marks := (marks_settled hs).trans (hmarks _ _ ha)
  refine ⟨round, .cons hround h.attended, fun i head hi => ?_, ?_, fun x w'' hy => ?_⟩
  · cases i with
    | zero =>
      cases hi
      exact (List.append_nil _).symm
    | succ i =>
      rw [h.before i head hi, hw, List.take_succ_cons, List.flatMap_cons, List.append_assoc]
  · obtain ⟨last, hlast, hending⟩ := h.ending
    refine ⟨last, ?_, ?_⟩
    · rw [List.getLast?_cons, hlast]
      rfl
    · rwa [List.length_cons, Nat.add_comm heads.length, ← Nat.add_assoc]
  · rw [h.after x w'' hy, hw, List.flatMap_cons]
    simp only [List.append_assoc]

theorem loop_accompanied (hl : Loop c p heads g w y) (hg : Reckoned p w₀ n g w) :
    ∃ rounds seen, Accompanied c p w₀ n w heads rounds seen y := by
  induction hl generalizing n with
  | ends ht => exact last_accompanied hg ht
  | halts ht => exact last_accompanied hg ht
  | goesOn ht hl ih =>
    obtain ⟨⟨o, g₁⟩, w₁, ha, hs⟩ := of_bind ht
    obtain ⟨rounds, seen, h⟩ := ih ((hg.attempted ha).settled hs)
    obtain ⟨round, hround⟩ := h.cons ht
    exact ⟨round :: rounds, seen, hround⟩

end

theorem reckoned_start (c : Client) (p : PreparedRequest) (w : World) :
    Reckoned p w 0 (c.start p (begun p w)) (begun p w) where
  attempt := rfl
  started := rfl
  totalWait := ⟨[], (List.append_nil _).symm, rfl⟩
  trace := by
    simp only [Client.start]
    cases p.trace <;> rfl

/-- Whatever hooks there are, every attempt that the breaker lets pass and that can be built shows
its request to all of them in order, and the transport gets what the last one made of it. A response
is shown to all of them in order exactly if the run ends with it, and it tells of that run then.
What is not a response, and a response that is discarded, is shown to none. A hook that fails is the
last one in its row. -/
theorem hooks_accompany (c : Client) (b : RequestBuilder) (w : World) :
    match b.prepare c with
    | .error e => c.send b w = .ok (.error e, w)
    | .ok p => ∃ heads rounds seen,
      Loop c p heads (c.start p (begun p w)) (begun p w) (c.send b w) ∧
        Accompanied c p w 0 (begun p w) heads rounds seen (c.send b w) := by
  cases hp : b.prepare c with
  | error e =>
    simp only [Client.send, hp]
    rfl
  | ok p =>
    obtain ⟨heads, hl⟩ := loop_send hp w
    obtain ⟨rounds, seen, h⟩ := loop_accompanied hl (reckoned_start c p w)
    exact ⟨heads, rounds, seen, hl, h⟩

end ResilientHttp.HookRelay
