import ResilientHttp.Proofs.Passage

/-!
# With a trace and without

A trace is written and never read: the attempts and the pauses of a run go the same way whether
there is one or not. The first that get to see it are the response hooks, when all attempts are
over. A hook that does not look at the trace does the same in both runs, and then so do the runs.
-/
namespace ResilientHttp.Tracing
open Building Runs Turns Passage

def shown (on : Bool) (g : Progress) : Progress := { g with trace := if on then g.trace else none }

section
variable {c : Client} {p : PreparedRequest} {q : RetryPolicy} {g : Progress} {w : World} (on : Bool)

theorem exchange_shown (r : Request) : c.exchange p (shown on g) r w =
    (c.exchange p g r w).map fun y => ((y.1.1, shown on y.1.2), y.2) := by
  simp only [Client.exchange, bind_eq, get_eq, bind_ok]
  cases c.call p.bounds r w with
  | error e => rfl
  | ok y =>
    obtain ⟨x, w₁⟩ := y
    cases x with
    | error e => rfl
    | ok result =>
      simp only [bind_ok, bind_eq, get_eq]
      split
      · rfl
      · cases on <;> rfl

theorem attempt_shown : c.attempt p (shown on g) w =
    (c.attempt p g w).map fun y => ((y.1.1, shown on y.1.2), y.2) := by
  have hdraft : (shown on g).draft = g.draft := rfl
  have hnumber : (shown on g).attempt = g.attempt := rfl
  simp only [Client.attempt, bind_eq, hdraft, hnumber]
  cases Client.gate w with
  | error e => rfl
  | ok y =>
    obtain ⟨x, w₁⟩ := y
    cases x with
    | error e => rfl
    | ok u =>
      simp only [bind_ok, bind_eq, build_eq]
      cases built g.draft (g.attempt + 1) w₁ with
      | error e => rfl
      | ok r =>
        simp only [bind_eq]
        cases Client.requestHooks p.bounds 0 r c.hooks (opened g.draft.body w₁) with
        | error e => rfl
        | ok z =>
          obtain ⟨y, w₂⟩ := z
          cases y with
          | error e => rfl
          | ok r' =>
            exact exchange_shown on
              (g := { g with attempt := g.attempt + 1, draft := left g.draft (g.attempt + 1) }) r'

theorem nextWait_shown (now : Instant) (o : Except Error Response) :
    c.nextWait q (shown on g) now o =
      ((c.nextWait q g now o).1, shown on (c.nextWait q g now o).2) := by
  obtain ⟨draft, started, attempt, totalWait, trace, backoff⟩ := g
  cases backoff <;> rfl

theorem pause_shown (o : Except Error Response) : c.pause p q (shown on g) o w =
    (c.pause p q g o w).map fun y => (y.1.map (shown on), y.2) := by
  simp only [Client.pause, bind_eq, get_eq, bind_ok, nextWait_shown]
  cases Client.drain p o w with
  | error e => rfl
  | ok y =>
    obtain ⟨x, w₁⟩ := y
    cases x with
    | error e => rfl
    | ok u =>
      simp only [bind_ok, bind_eq]
      cases Run.within p.bounds (.wait (c.nextWait q g w.now o).1)
          (.sleep (c.nextWait q g w.now o).1 (.done ())) w₁ with
      | error e => rfl
      | ok z =>
        obtain ⟨z, w₂⟩ := z
        cases z with
        | error e => rfl
        | ok u =>
          have htotal : (shown on (c.nextWait q g w.now o).2).totalWait =
              (c.nextWait q g w.now o).2.totalWait := rfl
          simp only [bind_ok, bind_eq, htotal]
          cases Run.add (c.nextWait q g w.now o).2.totalWait (c.nextWait q g w.now o).1 w₂ with
          | error e => rfl
          | ok total => cases on <;> rfl

end

/-- A run comes to a response, and finishing that is all that is left, or it comes to none. -/
abbrev Ending := Except Halt (Except Error (Progress × Response) × World)

/-- Finishes what a run came to, with the trace or without. -/
def Ending.finish (c : Client) (on : Bool) (z : Ending) :
    Except Halt (Except Error Response × World) :=
  z.bind fun y =>
    match y.1 with
    | .error e => .ok (.error e, y.2)
    | .ok (g, r) => c.finish (shown on g) (.ok r) y.2

/-- What finishing an outcome begins with. -/
def ended (g : Progress) (o : Except Error Response) (w : World) : Ending :=
  .ok (o.map fun r => (g, r), w)

theorem finish_ended (c : Client) (on : Bool) (g : Progress) (o : Except Error Response)
    (w : World) : (ended g o w).finish c on = c.finish (shown on g) o w := by
  cases o <;> rfl

theorem attempts_zero (c : Client) (p : PreparedRequest) (q : RetryPolicy) (g : Progress)
    (w : World) :
    c.attempts p q 0 g w = (c.attempt p g w).bind fun y =>
      if q.isRetryable y.1.1.toOption (errorOf? y.1.1) p.method.isIdempotent &&
          q.exhaustion = .fail then .ok (.error (Client.exhausted y.1.2 y.1.1), y.2)
      else c.finish y.1.2 y.1.1 y.2 := by
  rw [Client.attempts.eq_def]
  refine bind_congr fun y _ => ?_
  dsimp only
  split <;> rfl

theorem attempts_succ (c : Client) (p : PreparedRequest) (q : RetryPolicy) (more : Nat)
    (g : Progress) (w : World) :
    c.attempts p q (more + 1) g w = (c.attempt p g w).bind fun y =>
      if !q.isRetryable y.1.1.toOption (errorOf? y.1.1) p.method.isIdempotent then
        c.finish y.1.2 y.1.1 y.2
      else (c.pause p q y.1.2 y.1.1 y.2).bind fun z =>
        match z.1 with
        | .error e => .ok (.error e, z.2)
        | .ok g => c.attempts p q more g z.2 := by
  rw [Client.attempts.eq_def]
  refine bind_congr fun y _ => ?_
  dsimp only
  split
  · rfl
  · refine bind_congr fun z _ => ?_
    dsimp only
    cases z.1 <;> rfl

theorem attempts_shown (c : Client) (p : PreparedRequest) (q : RetryPolicy) (more : Nat)
    (g : Progress) (w : World) :
    ∃ z : Ending, ∀ on, c.attempts p q more (shown on g) w = z.finish c on := by
  -- The ending is that of the run as it is: none of its parts needs the trace to go on.
  induction more generalizing g w with
  | zero =>
    simp only [attempts_zero, attempt_shown]
    cases c.attempt p g w with
    | error e => exact ⟨.error e, fun _ => rfl⟩
    | ok y =>
      obtain ⟨⟨o, g₁⟩, w₁⟩ := y
      simp only [map_ok, bind_ok]
      split
      · exact ⟨.ok (.error (Client.exhausted g₁ o), w₁), fun _ => rfl⟩
      · exact ⟨ended g₁ o w₁, fun on => (finish_ended c on g₁ o w₁).symm⟩
  | succ more ih =>
    simp only [attempts_succ, attempt_shown]
    cases c.attempt p g w with
    | error e => exact ⟨.error e, fun _ => rfl⟩
    | ok y =>
      obtain ⟨⟨o, g₁⟩, w₁⟩ := y
      simp only [map_ok, bind_ok]
      split
      · exact ⟨ended g₁ o w₁, fun on => (finish_ended c on g₁ o w₁).symm⟩
      · simp only [pause_shown]
        cases c.pause p q g₁ o w₁ with
        | error e => exact ⟨.error e, fun _ => rfl⟩
        | ok z =>
          obtain ⟨x, w₂⟩ := z
          cases x with
          | error e => exact ⟨.ok (.error e, w₂), fun _ => rfl⟩
          | ok g₂ => exact ih g₂ w₂

/-! ## Settings -/

/-- A client whose requests have a trace or not, unless they say it themselves. -/
def tracing (c : Client) (on : Bool) : Client :=
  { c with config := { c.config with trace := on } }

/-- What is set for all requests plays no part once a request is prepared. -/
theorem attempts_settings (c : Client) (config : Config) (p : PreparedRequest) (on : Bool)
    (q : RetryPolicy) (more : Nat) (g : Progress) (w : World) :
    Client.attempts { c with config } { p with trace := on } q more g w =
      c.attempts p q more g w := by
  induction more generalizing g w with
  | zero => rw [attempts_zero, attempts_zero]; rfl
  | succ more ih =>
    rw [attempts_succ, attempts_succ]
    refine bind_congr fun y _ => ?_
    simp only [ih]
    rfl

theorem execute_settings (c : Client) (config : Config) (p : PreparedRequest) (on : Bool)
    (w : World) :
    Client.execute { c with config } { p with trace := on } w =
      match p.policy with
      | some q => c.attempts p q (q.maxAttempts - 1)
          (shown on (c.start { p with trace := true } (begun p w))) (begun p w)
      | none => (c.attempt p (shown on (c.start { p with trace := true } (begun p w)))
          (begun p w)).bind fun y => c.finish y.1.2 y.1.1 y.2 := by
  have hstart : Client.start { c with config } { p with trace := on } (begun p w) =
      shown on (c.start { p with trace := true } (begun p w)) := by cases on <;> rfl
  have hpolicy : PreparedRequest.policy { p with trace := on } = p.policy := rfl
  rw [← hstart, ← hpolicy]
  simp only [Client.execute, bind_eq, modify_eq, get_eq, bind_ok]
  cases PreparedRequest.policy { p with trace := on } with
  | some q => exact attempts_settings c config p on q _ _ _
  | none => rfl

theorem execute_shown (c : Client) (p : PreparedRequest) (w : World) :
    ∃ z : Ending, ∀ config on,
      Client.execute { c with config } { p with trace := on } w = z.finish c on := by
  simp only [execute_settings]
  cases p.policy with
  | some q =>
    obtain ⟨z, hz⟩ := attempts_shown c p q (q.maxAttempts - 1)
      (c.start { p with trace := true } (begun p w)) (begun p w)
    exact ⟨z, fun _ => hz⟩
  | none =>
    simp only [attempt_shown]
    cases c.attempt p (c.start { p with trace := true } (begun p w)) (begun p w) with
    | error e => exact ⟨.error e, fun _ _ => rfl⟩
    | ok y => exact ⟨ended y.1.2 y.1.1 y.2, fun _ on => (finish_ended c on _ _ _).symm⟩

theorem prepare_tracing (c : Client) (b : RequestBuilder) (on : Bool) (own : Option Bool) :
    RequestBuilder.prepare { b with trace := own } (tracing c on) =
      (b.prepare c).map fun p => { p with trace := own.getD on } := by
  have hurl : RequestBuilder.builtUrl { b with trace := own } (tracing c on).config =
      b.builtUrl c.config := rfl
  have hheaders : RequestBuilder.builtHeaders { b with trace := own } (tracing c on) =
      b.builtHeaders c := rfl
  simp only [RequestBuilder.prepare, hurl, hheaders]
  cases b.error with
  | some e => rfl
  | none =>
    cases b.builtUrl c.config with
    | error e => rfl
    | ok url =>
      cases b.builtHeaders c with
      | error e => rfl
      | ok headers => rfl

theorem send_shown (c : Client) (b : RequestBuilder) (w : World) :
    ∃ z : Ending, ∀ on own,
      (tracing c on).send { b with trace := own } w = z.finish c (own.getD on) := by
  cases hp : b.prepare c with
  | error e =>
    refine ⟨.ok (.error e, w), fun on own => ?_⟩
    simp only [Client.send, prepare_tracing, hp]
    rfl
  | ok p =>
    obtain ⟨z, hz⟩ := execute_shown c p w
    refine ⟨z, fun on own => ?_⟩
    simp only [Client.send, prepare_tracing, hp]
    exact hz _ _

/-! ## Hooks -/

def plain (r : Response) : Response := { r with trace := none }

/-- What a request gave, apart from the trace of the response. -/
def apart (y : Except Error Response × World) : Except Error Response × World :=
  (y.1.map plain, y.2)

/-- A hook does not look at the trace: of responses that differ in nothing else it makes the same,
again apart from the trace. -/
def Blind (h : Hook) : Prop :=
  ∀ seen r, (h.onResponse seen r).bind (fun x => .done (x.map plain)) =
    (h.onResponse seen (plain r)).bind fun x => .done (x.map plain)

theorem blind_of_untouched {h : Hook} (hh : ∀ seen r, h.onResponse seen r = .done (.ok r)) :
    Blind h := by
  intro seen r
  rw [hh, hh]
  rfl

theorem blind_credentials (c : Credentials) : Blind c.hook := blind_of_untouched fun _ _ => rfl

theorem pass_bind {α β : Type} (a : α) (f : α → Activity β) (s : ByteStream) :
    (Activity.pass (.done a) s).bind f = Activity.pass (f a) s := by
  induction s with
  | nil => rfl
  | cons item rest ih => cases item <;> simp only [Activity.pass, Activity.bind, ih]

theorem errorForStatus_plain (r : Response) : (plain r).errorForStatus =
    { r.errorForStatus with rest := plain r.errorForStatus.rest } := by
  have hstatus : (plain r).status = r.status := rfl
  have htext : (plain r).text = { r.text with rest := plain r.text.rest } := by
    obtain ⟨status, headers, url, body, attempts, elapsed, totalWait, trace⟩ := r
    cases body <;> rfl
  simp only [Response.errorForStatus, hstatus, htext]
  split <;> rfl

theorem blind_refuseErrors : Blind Hook.refuseErrors := by
  intro seen r
  simp only [Hook.refuseErrors, pass_bind, errorForStatus_plain]
  cases r.errorForStatus.result <;> rfl

theorem runThrough_bind_done {α β : Type} (b : Bounds) (t : Activity α) (f : α → β) (w : World) :
    (t.bind fun a => .done (f a)).runThrough b w =
      (t.runThrough b w).map fun y => (f y.1, y.2) := by
  induction t generalizing w with
  | done a => rfl
  | hang => rfl
  | taken call next ih | stall d next ih | cancel next ih => exact ih _
  | sleep d next ih =>
    simp only [Activity.bind, Activity.runThrough, ih]
    split <;> rfl

theorem Blind.runFreely {h : Hook} (hb : Blind h) {r r' : Response} (hr : plain r = plain r')
    (slack seen : Nat) (w : World) :
    ((h.onResponse seen r).runFreely slack w).map apart =
      ((h.onResponse seen r').runFreely slack w).map apart := by
  have hhook := (hb seen r).trans (hr ▸ (hb seen r').symm)
  have hrun := congrArg (fun t => t.runThrough { slack } w) hhook
  rw [runThrough_bind_done, runThrough_bind_done] at hrun
  exact hrun

/-- What follows two values that cannot be told apart comes to the same if it tells no more. -/
theorem bind_eq_of_map_eq {ε α β γ : Type} {f : α → β} {x x' : Except ε α}
    (hx : x.map f = x'.map f) {g g' : α → Except ε γ}
    (hg : ∀ a a', f a = f a' → g a = g' a') : x.bind g = x'.bind g' := by
  cases x with
  | error e =>
    cases x' with
    | error e' =>
      cases hx
      rfl
    | ok a' => cases hx
  | ok a =>
    cases x' with
    | error e' => cases hx
    | ok a' => exact hg a a' (Except.ok.inj hx)

theorem responseHooks_plain {hooks : List Hook} (hb : ∀ h ∈ hooks, Blind h) (slack i : Nat)
    {r r' : Response} (hr : plain r = plain r') (w : World) :
    (Client.responseHooks slack i r hooks w).map apart =
      (Client.responseHooks slack i r' hooks w).map apart := by
  induction hooks generalizing i r r' w with
  | nil =>
    simp only [Client.responseHooks, pure_eq, map_ok, apart, hr]
  | cons h hooks ih =>
    have hattempts : (plain r).attempts = (plain r').attempts := congrArg _ hr
    have hwait : (plain r).totalWait = (plain r').totalWait := congrArg _ hr
    have hnote : w.note (.responseHook i r.attempts r.totalWait) =
        w.note (.responseHook i r'.attempts r'.totalWait) :=
      congrArg₂ (fun n d => w.note (.responseHook i n d)) hattempts hwait
    have hhook := (hb h List.mem_cons_self).runFreely hr slack (w.responsesSeen i)
      (w.note (.responseHook i r.attempts r.totalWait))
    rw [responseHooks_cons, responseHooks_cons, ← hnote, map_bind, map_bind]
    refine bind_eq_of_map_eq hhook fun y y' hy => ?_
    obtain ⟨x, w₁⟩ := y
    obtain ⟨x', w₁'⟩ := y'
    obtain ⟨hx, rfl⟩ := Prod.mk.inj hy
    cases x with
    | error e =>
      cases x' with
      | error e' =>
        cases hx
        rfl
      | ok r₁' => cases hx
    | ok r₁ =>
      cases x' with
      | error e' => cases hx
      | ok r₁' => exact ih (fun h' hh => hb h' (List.mem_cons_of_mem _ hh)) _ (Except.ok.inj hx) _

def handed (g : Progress) (now : Instant) (r : Response) : Response :=
  { r with
    attempts := g.attempt
    elapsed := now - g.started
    totalWait := g.totalWait
    trace := g.trace.map ({ · with totalTime := now - g.started, totalWait := g.totalWait }) }

theorem finish_ok (c : Client) (g : Progress) (r : Response) (w : World) :
    c.finish g (.ok r) w = Client.responseHooks c.slack 0 (handed g w.now r) c.hooks w := rfl

theorem finish_plain {c : Client} (hb : ∀ h ∈ c.hooks, Blind h) (on on' : Bool) (g : Progress)
    (r : Response) (w : World) :
    (c.finish (shown on g) (.ok r) w).map apart = (c.finish (shown on' g) (.ok r) w).map apart := by
  have hr : plain (handed (shown on g) w.now r) = plain (handed (shown on' g) w.now r) := rfl
  rw [finish_ok, finish_ok]
  exact responseHooks_plain hb c.slack 0 hr w

/-! ## Runs -/

def sent : World → List (Instant × Request) := told fun
  | (t, .call r) => some (t, r)
  | _ => none

theorem sent_of_adds {w w' : World} (h : Adds IsAside w w') : sent w' = sent w :=
  h.told fun t e he => by
    cases e with
    | call r => exact he.elim
    | _ => rfl

/-- Two runs, each with a trace or without, that can be told apart by their traces only. -/
structure Alike (c : Client) (on on' : Bool) (y y' : Except Halt (Except Error Response × World)) :
    Prop where
  /-- Up to the response hooks the runs are one. -/
  ending : ∃ z : Ending, y = z.finish c on ∧ y' = z.finish c on'
  /-- Whatever the response hooks do, the transport and the breaker saw the same. -/
  world : ∀ x x' w w', y = .ok (x, w) → y' = .ok (x', w') →
    sent w = sent w' ∧ waits w = waits w' ∧ w.breaker = w'.breaker
  /-- If no hook looks at the trace, the runs end alike. -/
  result : (∀ h ∈ c.hooks, Blind h) → y.map apart = y'.map apart

theorem Ending.alike (c : Client) (z : Ending) (on on' : Bool) :
    Alike c on on' (z.finish c on) (z.finish c on') where
  ending := ⟨z, rfl, rfl⟩
  world := by
    intro x x' w w' hy hy'
    obtain ⟨y, hz, hfinish⟩ := bind_eq_ok_iff.mp hy
    obtain ⟨y', hz', hfinish'⟩ := bind_eq_ok_iff.mp hy'
    cases hz.symm.trans hz'
    obtain ⟨x₁, w₁⟩ := y
    cases x₁ with
    | error e =>
      cases hfinish
      cases hfinish'
      exact ⟨rfl, rfl, rfl⟩
    | ok z =>
      have ha := finish_adds hfinish
      have ha' := finish_adds hfinish'
      exact ⟨(sent_of_adds ha).trans (sent_of_adds ha').symm, ha.waits.trans ha'.waits.symm,
        ha.breaker.trans ha'.breaker.symm⟩
  result := by
    intro hb
    simp only [Ending.finish, map_bind]
    refine bind_congr fun y _ => ?_
    obtain ⟨x, w⟩ := y
    cases x with
    | error e => rfl
    | ok z => exact finish_plain hb on on' z.1 z.2 w

/-- Tracing changes nothing but the trace, whether it is set for the client or for the request. -/
theorem send_alike (c : Client) (b : RequestBuilder) (w : World) (on on' : Bool)
    (own own' : Option Bool) :
    Alike c (own.getD on) (own'.getD on') ((tracing c on).send { b with trace := own } w)
      ((tracing c on').send { b with trace := own' } w) := by
  obtain ⟨z, hz⟩ := send_shown c b w
  rw [hz, hz]
  exact z.alike c _ _

end ResilientHttp.Tracing
