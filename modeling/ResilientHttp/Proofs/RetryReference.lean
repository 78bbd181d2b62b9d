import ResilientHttp.Proofs.Passage

/-!
# The loop of attempts when nothing disturbs it

Without a breaker, a deadline or a cancellation, and with hooks that hand on what they get, sending is
told by the outcomes of the attempts alone: they decide when it ends, how long it waits in between and
what it gives.
-/
namespace ResilientHttp.RetryReference
open Building Passage Runs Turns

/-- What an activity gives that ends and cancels nothing. -/
def value? {α : Type} : Activity α → Option α
  | .done a => some a
  | .sleep _ next | .stall _ next | .taken _ next => value? next
  | .cancel _ | .hang => none

structure PassesOn (h : Hook) : Prop where
  request : ∀ seen r, (value? (h.beforeRequest seen r)).isSome ∧ h.onRequest seen r = .ok r
  response : ∀ seen r, value? (h.onResponse seen r) = some (.ok r)

/-- Nothing can cut short what happens within the bounds. -/
structure Calm (b : Bounds) : Prop where
  deadline : b.deadline = none
  cancelAt : b.cancelAt = none

/-- Time may have passed and things been noted, but nobody cancelled the request or did anything to
the breaker. -/
structure Later (P : Event → Prop) (w w' : World) : Prop extends Adds P w w' where
  cancelled : w'.cancelled = w.cancelled
  now : w.now ≤ w'.now

section
variable {P Q : Event → Prop} {w w' w'' : World}

theorem Later.refl (w : World) : Later P w w := ⟨.refl w, rfl, Nat.le_refl _⟩

theorem Later.trans (h : Later P w w') (h' : Later P w' w'') : Later P w w'' :=
  ⟨h.toAdds.trans h'.toAdds, h'.cancelled.trans h.cancelled, Nat.le_trans h.now h'.now⟩

theorem Later.mono (h : Later P w w') (hpq : ∀ e, P e → Q e) : Later Q w w' :=
  ⟨h.toAdds.mono hpq, h.cancelled, h.now⟩

theorem Later.note {e : Event} (h : P e) (h' : Later P (w.note e) w') : Later P w w' :=
  ⟨.note h h'.toAdds, h'.cancelled, h'.now⟩

end

theorem Calm.interruption? {b : Bounds} (hb : Calm b) {w : World} (hw : w.cancelled = false)
    (limit : Option Instant) : b.interruption? w limit = none := by
  simp [Bounds.interruption?, hb.deadline, hb.cancelAt, hw]

theorem Calm.isPastDeadline {b : Bounds} (hb : Calm b) (now : Instant) :
    b.isPastDeadline now = false := by
  simp [Bounds.isPastDeadline, hb.deadline]

section
variable {α : Type} {b : Bounds} {t : Activity α} {a : α} {w : World}

theorem Calm.runThrough (hb : Calm b) (ht : value? t = some a) (w : World) :
    ∃ w', t.runThrough b w = .ok (a, w') ∧ Later IsTaken w w' := by
  induction t generalizing w with
  | done a' =>
    cases ht
    exact ⟨w, rfl, .refl w⟩
  | taken call next ih =>
    obtain ⟨w', hr, hl⟩ := ih ht (w.note (.taken call))
    exact ⟨w', hr, .note (e := .taken call) trivial hl⟩
  | stall d next ih =>
    obtain ⟨w', hr, hl⟩ := ih ht { w with now := w.now + d }
    refine ⟨w', hr, Later.trans ?_ hl⟩
    exact ⟨.of_eq rfl rfl, rfl, Nat.le_add_right _ _⟩
  | cancel next ih => cases ht
  | hang => cases ht
  | sleep d next ih =>
    by_cases he : alarm b.slack w.now (w.now + d) = w.now
    · obtain ⟨w', hr, hl⟩ := ih ht w
      exact ⟨w', by simp only [Activity.runThrough, he, if_true, hr], hl⟩
    · obtain ⟨w', hr, hl⟩ := ih ht { w with now := alarm b.slack w.now (w.now + d) }
      refine ⟨w', ?_, Later.trans ?_ hl⟩
      · simp [Activity.runThrough, he, hb.cancelAt, hr]
      · exact ⟨.of_eq rfl rfl, rfl, le_alarm_now _ _ _⟩

/-- Within calm bounds it makes no difference that an activity could be cut short. -/
theorem Calm.run_eq (hb : Calm b) (ht : value? t = some a) (hw : w.cancelled = false) :
    t.run b w = (t.runThrough b w).map fun y => (.ok y.1, y.2) := by
  induction t generalizing w with
  | done a' => rfl
  | taken call next ih => exact ih ht (w := w.note (.taken call)) hw
  | stall d next ih => exact ih ht (w := { w with now := w.now + d }) hw
  | cancel next ih => cases ht
  | hang => cases ht
  | sleep d next ih =>
    have hc (ends : Instant) :
        (w.cancelled || b.cancelAt.any fun c => decide (c ≤ ends)) = w.cancelled := by
      rw [hb.cancelAt, Option.any_none, Bool.or_false]
    simp only [Activity.run, Activity.runThrough, hb.interruption? hw, hc]
    split
    · exact ih ht hw
    · exact ih ht (w := { w with now := alarm b.slack w.now (w.now + d) }) hw

theorem Calm.within (hb : Calm b) (e : Event) (ht : value? t = some a) (hw : w.cancelled = false) :
    ∃ w', Run.within b e t w = .ok (.ok a, w') ∧ Later IsTaken (w.note e) w' := by
  obtain ⟨w', hr, hl⟩ := hb.runThrough ht (w.note e)
  refine ⟨w', ?_, hl⟩
  simp only [Run.within, Activity.runBounded, hw, hb.isPastDeadline, Bool.false_eq_true, if_false,
    hb.run_eq ht (w := w.note e) hw, hr]
  rfl

end

theorem requestHooks_passOn {b : Bounds} (hb : Calm b) {hooks : List Hook}
    (hh : ∀ h ∈ hooks, PassesOn h) (i : Nat) (r : Request) (w : World) :
    ∃ w', Client.requestHooks b i r hooks w = .ok (.ok r, w') ∧ Later IsAside w w' := by
  induction hooks generalizing i w with
  | nil => exact ⟨w, rfl, .refl w⟩
  | cons h hooks ih =>
    obtain ⟨ht, hr⟩ := (hh h List.mem_cons_self).request (w.requestsSeen i) r
    obtain ⟨u, hu⟩ := Option.isSome_iff_exists.mp ht
    obtain ⟨w₁, hb₁, hl⟩ := hb.runThrough hu (w.note (.requestHook i))
    obtain ⟨w', hb', hl'⟩ := ih (fun h' hm => hh h' (List.mem_cons_of_mem _ hm)) (i + 1) w₁
    refine ⟨w', by simp only [requestHooks_cons, hb₁, bind_ok, hr, hb'], ?_⟩
    refine .note (e := .requestHook i) trivial ?_
    exact (hl.mono fun _ => IsTaken.aside).trans hl'

theorem responseHooks_passOn {hooks : List Hook} (hh : ∀ h ∈ hooks, PassesOn h) (slack i : Nat)
    (r : Response) (w : World) :
    ∃ w', Client.responseHooks slack i r hooks w = .ok (.ok r, w') ∧ Later IsAside w w' := by
  induction hooks generalizing i w with
  | nil => exact ⟨w, rfl, .refl w⟩
  | cons h hooks ih =>
    have hfree : Calm { slack } := ⟨rfl, rfl⟩
    obtain ⟨w₁, hb₁, hl⟩ := hfree.runThrough
      ((hh h List.mem_cons_self).response (w.responsesSeen i) r)
      (w.note (.responseHook i r.attempts r.totalWait))
    obtain ⟨w', hb', hl'⟩ := ih (fun h' hm => hh h' (List.mem_cons_of_mem _ hm)) (i + 1) w₁
    refine ⟨w', ?_, ?_⟩
    · simp only [Client.responseHooks, bind_eq, get_eq, note_eq, bind_ok, Run.freely,
        Activity.runFreely, hb₁, hb']
    · refine .note (e := .responseHook i r.attempts r.totalWait) trivial ?_
      exact (hl.mono fun _ => IsTaken.aside).trans hl'

theorem gate_open {w : World} (hw : w.breaker = none) : Client.gate w = .ok (.ok (), w) := by
  simp only [Client.gate, hw]

theorem afterReport_open {w : World} (hw : w.breaker = none) (o : Except Error Response) :
    afterReport w o = w := by
  simp only [afterReport, hw, Option.map_none]
  rw [← hw]

/-- From one world to another so many bodies were opened, transport calls began at certain instants
and certain waits were made; nobody cancelled the request or did anything to the breaker. -/
structure Spent (opened : Nat) (ts : List Instant) (ds : List Span) (w w' : World) : Prop where
  breaker : w'.breaker = w.breaker
  cancelled : w'.cancelled = w.cancelled
  openings : w'.openings = w.openings + opened
  callTimes : callTimes w' = callTimes w ++ ts
  waits : waits w' = waits w ++ ds
  now : w.now ≤ w'.now

section
variable {w w' w'' : World} {k k' : Nat} {ts ts' : List Instant} {ds ds' : List Span}

theorem Spent.trans (h : Spent k ts ds w w') (h' : Spent k' ts' ds' w' w'') :
    Spent (k + k') (ts ++ ts') (ds ++ ds') w w'' where
  breaker := h'.breaker.trans h.breaker
  cancelled := h'.cancelled.trans h.cancelled
  openings := by rw [h'.openings, h.openings, Nat.add_assoc]
  callTimes := by rw [h'.callTimes, h.callTimes, List.append_assoc]
  waits := by rw [h'.waits, h.waits, List.append_assoc]
  now := Nat.le_trans h.now h'.now

theorem Later.spent (h : Later IsAside w w') : Spent 0 [] [] w w' where
  breaker := h.breaker
  cancelled := h.cancelled
  openings := h.openings
  callTimes := by rw [h.callTimes, List.append_nil]
  waits := by rw [h.waits, List.append_nil]
  now := h.now

theorem spent_call (w : World) (r : Request) : Spent 0 [w.now] [] w (w.note (.call r)) :=
  ⟨rfl, rfl, rfl, told_note _ w _, told_note _ w _, Nat.le_refl _⟩

theorem spent_wait (w : World) (d : Span) : Spent 0 [] [d] w (w.note (.wait d)) :=
  ⟨rfl, rfl, rfl, told_note _ w _, told_note _ w _, Nat.le_refl _⟩

theorem spent_opened (body : RequestBody) (w : World) :
    Spent (openingsOf body) [] [] w (opened body w) :=
  ⟨opened_breaker, opened_cancelled, opened_openings, by rw [opened_callTimes, List.append_nil],
    by rw [opened_waits, List.append_nil], Nat.le_of_eq opened_now.symm⟩

theorem Spent.calls (h : Spent k ts ds w w') : w'.calls = w.calls + ts.length := by
  rw [calls_eq_length, calls_eq_length, h.callTimes, List.length_append]

end

theorem attempt_answered {c : Client} {p : PreparedRequest} (hb : Calm p.bounds)
    (hh : ∀ h ∈ c.hooks, PassesOn h) {g : Progress} {w : World} (hw : w.cancelled = false)
    (hn : w.breaker = none) {r : Request} (hr : built g.draft (g.attempt + 1) w = .ok r)
    {result : Except TransportError Reply} (ht : value? (c.transport w.calls r) = some result) :
    ∃ entry t w', c.attempt p g w = .ok ((c.outcome result,
        advanced g (some entry) (left g.draft (g.attempt + 1))), w') ∧
      Spent (openingsOf g.draft.body) [t] [] w w' ∧ w.now ≤ t ∧ t ≤ w'.now := by
  have hopened := spent_opened g.draft.body w
  obtain ⟨w₁, hq, hl⟩ := requestHooks_passOn hb hh 0 r (opened g.draft.body w)
  have hspent := hopened.trans hl.spent
  have hcalls : w₁.calls = w.calls := hspent.calls
  rw [← hcalls] at ht
  obtain ⟨w', hc, hl'⟩ := hb.within (.call r) ht (hspent.cancelled.trans hw)
  have hn' : w'.breaker = none := hl'.breaker.trans (hspent.breaker.trans hn)
  have hcall : c.call p.bounds r w₁ = .ok (.ok result, w') := by
    simp only [Client.call, bind_eq, get_eq, bind_ok, hc]
  have hbuild := build_eq g.draft (g.attempt + 1) w
  rw [hr] at hbuild
  have hanswers : Answers c p g w ⟨w₁, result, w'⟩ :=
    ⟨r, ⟨_, _, w, _, gate_open hn, hbuild, hq⟩, hcall⟩
  have ha := attempt_of_answers hanswers (.inr (hb.isPastDeadline w'.now))
  rw [afterReport_open hn'] at ha
  exact ⟨_, w₁.now, w', ha, hspent.trans ((spent_call w₁ r).trans
    (hl'.mono fun _ => IsTaken.aside).spent), hspent.now, hl'.now⟩

theorem value?_pass {α : Type} (a : α) (s : ByteStream) :
    value? (.pass (.done a) s) = some a := by
  induction s with
  | nil => rfl
  | cons e s ih => cases e <;> exact ih

theorem drain_calm {p : PreparedRequest} (hb : Calm p.bounds) (o : Except Error Response)
    {w : World} (hw : w.cancelled = false) :
    ∃ w', Client.drain p o w = .ok (.ok (), w') ∧ Spent 0 [] [] w w' := by
  cases o with
  | error e => exact ⟨w, rfl, (Later.refl w).spent⟩
  | ok r =>
    obtain ⟨w', hd, hl⟩ := hb.within .drain
      (value?_pass () ((r.body.getD []).drained drainLimit 0)) hw
    refine ⟨w', hd, Later.spent ?_⟩
    exact .note (e := .drain) trivial (hl.mono fun _ => IsTaken.aside)

theorem wait_calm {b : Bounds} (hb : Calm b) (d : Span) {w : World} (hw : w.cancelled = false) :
    ∃ w', Run.within b (.wait d) (.sleep d (.done ())) w = .ok (.ok (), w') ∧
      Spent 0 [] [d] w w' ∧ w.now + d ≤ w'.now := by
  obtain ⟨w', hr, hl⟩ := hb.within (t := .sleep d (.done ())) (.wait d) rfl hw
  refine ⟨w', hr, (spent_wait w d).trans (hl.mono fun _ => IsTaken.aside).spent, ?_⟩
  have hi := hb.interruption? (w := w.note (.wait d)) hw
  simp only [Run.within, Activity.runBounded, hw, hb.isPastDeadline, Bool.false_eq_true, if_false,
    Activity.run, hi] at hr
  have hdue := le_alarm_due b.slack w.now (w.now + d)
  split at hr
  · rename_i he
    cases hr
    exact Nat.le_trans hdue (Nat.le_of_eq he)
  · cases hr
    exact hdue

/-! ## The reference -/

/-- The attempt with this number is the last one, given the outcomes of all. -/
def Stops (p : PreparedRequest) (o : Nat → Except Error Response) (n : Nat) : Prop :=
  ∀ q ∈ p.policy,
    q.shouldRetry (o n).toOption (errorOf? (o n)) p.method.isIdempotent n = false

/-- The permitted attempts are used up, the last outcome would have been tried again, and the policy
wants to fail. -/
def Exhausts (p : PreparedRequest) (o : Nat → Except Error Response) (n : Nat) : Prop :=
  ∃ q ∈ p.policy, q.maxAttempts ≤ n ∧
    q.isRetryable (o n).toOption (errorOf? (o n)) p.method.isIdempotent = true ∧
    q.exhaustion = .fail

/-- The wait after an attempt that ended at an instant, and the backoff afterwards. -/
def nextSleep (c : Client) (q : RetryPolicy) (o : Nat → Except Error Response) (n : Nat)
    (ended : Instant) : Option Backoff → Span × Option Backoff
  | none => (q.wait, none)
  | some b =>
    let (d, b) := b.nextWait (c.epoch + ended) (o n).toOption n
    (d, some b)

/-- The waits after the attempts from `n` on that ended at certain instants. One backoff is asked for
all of them. -/
def sleeps (c : Client) (q : RetryPolicy) (o : Nat → Except Error Response) :
    (n : Nat) → Option Backoff → List Instant → List Span
  | _, _, [] => []
  | n, b, t :: ts =>
    (nextSleep c q o n t b).1 :: sleeps c q o (n + 1) (nextSleep c q o n t b).2 ts

/-- The waits between all attempts, the first of which has the number `n`. -/
def gaps (c : Client) (p : PreparedRequest) (o : Nat → Except Error Response) (n : Nat)
    (b : Option Backoff) (ts : List Instant) : List Span :=
  match p.policy with
  | none => []
  | some q => sleeps c q o n b ts

def total (ds : List Span) : Span := ds.foldr (· + ·) 0

def lastError : Except Error Response → Error
  | .ok r => .status r.status.code (r.status.reason?.getD "Unknown status")
  | .error e => e

/-- What sending gives after its last attempt, which ended some time after its start. -/
def Gives (p : PreparedRequest) (o : Nat → Except Error Response) (k : Nat) (elapsed total : Span)
    (x : Except Error Response) : Prop :=
  (Exhausts p o k → x = .error (.retryExhausted k total p.method p.url (some (lastError (o k))))) ∧
  (¬ Exhausts p o k → ∃ trace : Option Trace, trace.isSome = p.trace ∧
    x = (o k).map fun r => { r with attempts := k, elapsed, totalWait := total, trace })

/-- Attempts that began and ended at certain instants come one after the other from an instant on,
with room for the waits in between. -/
def Spaced : Instant → List Span → List (Instant × Instant) → Prop
  | now, [], [a] => now ≤ a.1 ∧ a.1 ≤ a.2
  | now, d :: ds, a :: as => now ≤ a.1 ∧ a.1 ≤ a.2 ∧ Spaced (a.2 + d) ds as
  | _, _, _ => False

theorem Spaced.mono {now now' : Instant} {ds : List Span} {as : List (Instant × Instant)}
    (h : Spaced now ds as) (hn : now' ≤ now) : Spaced now' ds as := by
  match ds, as, h with
  | [], [a], h => exact ⟨Nat.le_trans hn h.1, h.2⟩
  | d :: ds, a :: as, h => exact ⟨Nat.le_trans hn h.1, h.2⟩

section
variable {p : PreparedRequest} {q : RetryPolicy} {o : Nat → Except Error Response} {n : Nat}

theorem lt_limit_iff (hn : 0 < n) : n < limit (some q) ↔ n < q.maxAttempts := by
  simp only [limit]
  omega

/-- The loop takes an attempt for the last one just as the policy does. -/
theorem moveAfter_cases (hn : 0 < n) :
    (Stops p o n ∧ Exhausts p o n ∧ moveAfter p n (o n) = .exhaust) ∨
    (Stops p o n ∧ ¬ Exhausts p o n ∧ moveAfter p n (o n) = .finish) ∨
    ¬ Stops p o n ∧ ∃ q, p.policy = some q ∧ moveAfter p n (o n) = .again q := by
  cases hq : p.policy with
  | none =>
    refine .inr (.inl ⟨?_, ?_, ?_⟩)
    · simp [Stops, hq]
    · simp [Exhausts, hq]
    · simp [moveAfter, hq]
  | some q =>
    have hlimit := lt_limit_iff (q := q) hn
    cases hr : q.isRetryable (o n).toOption (errorOf? (o n)) p.method.isIdempotent with
    | false =>
      refine .inr (.inl ⟨?_, ?_, moveAfter_of_stop hq hr⟩)
      · simp [Stops, hq, RetryPolicy.shouldRetry, hr]
      · simp [Exhausts, hq, hr]
    | true =>
      by_cases hm : n < q.maxAttempts
      · refine .inr (.inr ⟨?_, q, rfl, moveAfter_of_lt hq hr (hlimit.mpr hm)⟩)
        simp [Stops, hq, RetryPolicy.shouldRetry, hr, hm]
      · have hstops : Stops p o n := by simp [Stops, hq, RetryPolicy.shouldRetry, hm]
        have hmove := moveAfter_of_limit_le hq hr (Nat.le_of_not_lt (mt hlimit.mp hm))
        cases he : q.exhaustion with
        | fail =>
          rw [he, if_pos rfl] at hmove
          exact .inl ⟨hstops, ⟨q, hq, Nat.le_of_not_lt hm, hr, he⟩, hmove⟩
        | returnLastOutcome =>
          rw [he, if_neg (by decide)] at hmove
          refine .inr (.inl ⟨hstops, ?_, hmove⟩)
          simp [Exhausts, hq, he]

end

/-- A request that nothing disturbs, sent by a client in a world, and the outcomes of its attempts. -/
structure Undisturbed (c : Client) (b : RequestBuilder) (p : PreparedRequest) (w : World)
    (o : Nat → Except Error Response) : Prop where
  prepared : b.prepare c = .ok p
  deadline : b.deadline = none
  token : ∀ t ∈ b.token, t.fired = false ∧ t.firesAt = none
  breaker : w.breaker = none
  hooks : ∀ h ∈ c.hooks, PassesOn h
  replayable : p.body.isReplayable = true
  /-- The body can be had and the transport answers every time. -/
  answers : ∀ n, ∃ body result, bodyFor (n + 1) (w.openings + n) p.body = .ok body ∧
    value? (c.transport (w.calls + n) (p.request body)) = some result ∧
    c.outcome result = o (n + 1)

/-- What holds at the beginning of every turn. -/
structure Ready (p : PreparedRequest) (w₀ : World) (g : Progress) (w : World) : Prop where
  cancelled : w.cancelled = false
  breaker : w.breaker = none
  draft : g.draft = p.toDraft
  openings : w.openings = w₀.openings + g.attempt * openingsOf p.body
  calls : w.calls = w₀.calls + g.attempt
  trace : g.trace.isSome = p.trace
  total : g.totalWait ≤ Span.longest

section
variable {c : Client} {b : RequestBuilder} {p : PreparedRequest} {w₀ : World}
  {o : Nat → Except Error Response} {g : Progress} {w : World} {q : RetryPolicy}

theorem Undisturbed.calm (h : Undisturbed c b p w₀ o) : Calm p.bounds := by
  rw [prepare_eq h.prepared]
  refine ⟨h.deadline, ?_⟩
  cases ht : b.token with
  | none => rfl
  | some t => exact (h.token t ht).2

theorem Undisturbed.cancelled (h : Undisturbed c b p w₀ o) : p.cancelled = false := by
  rw [prepare_eq h.prepared]
  cases ht : b.token with
  | none => rfl
  | some t => exact (h.token t ht).1

theorem Ready.bodyFor (hr : Ready p w₀ g w) (n : Nat) :
    bodyFor n w.openings p.body = Building.bodyFor n (w₀.openings + g.attempt) p.body := by
  rw [hr.openings, openingsOf]
  cases hb : p.body with
  | reopenable length opener => simp only [isReopenable, if_true, Nat.mul_one]
  | _ => rfl

theorem Undisturbed.attempt (h : Undisturbed c b p w₀ o) (hr : Ready p w₀ g w) :
    ∃ entry t w', c.attempt p g w =
        .ok ((o (g.attempt + 1), advanced g (some entry) p.toDraft), w') ∧
      Spent (openingsOf p.body) [t] [] w w' ∧ w.now ≤ t ∧ t ≤ w'.now := by
  obtain ⟨body, result, hbody, ht, ho⟩ := h.answers g.attempt
  have hbuilt : built g.draft (g.attempt + 1) w = .ok (p.request body) := by
    rw [hr.draft, built, hr.bodyFor, hbody]
    rfl
  rw [← hr.calls] at ht
  have ha := attempt_answered h.calm h.hooks hr.cancelled hr.breaker hbuilt ht
  rwa [ho, hr.draft, left_of_replayable h.replayable] at ha

theorem Undisturbed.turn_answered (h : Undisturbed c b p w₀ o) (hr : Ready p w₀ g w) :
    ∃ entry t w', turn c p g w =
        settle c p (advanced g (some entry) p.toDraft) (o (g.attempt + 1)) w' ∧
      Spent (openingsOf p.body) [t] [] w w' ∧ w.now ≤ t ∧ t ≤ w'.now := by
  obtain ⟨entry, t, w', ha, hsp⟩ := h.attempt hr
  refine ⟨entry, t, w', ?_, hsp⟩
  rw [turn_eq, ha, bind_ok]

theorem nextWait_eq (c : Client) (q : RetryPolicy) (o : Nat → Except Error Response) (g : Progress)
    (t : Instant) :
    c.nextWait q g t (o g.attempt) =
      ((nextSleep c q o g.attempt t g.backoff).1,
        { g with backoff := (nextSleep c q o g.attempt t g.backoff).2 }) := by
  obtain ⟨draft, started, attempt, totalWait, trace, backoff⟩ := g
  cases backoff <;> rfl

/-- The pause between two attempts lasts as long as the reference says, and stops the program if the
total of the waits is too long then. -/
theorem Undisturbed.pause (h : Undisturbed c b p w₀ o) (hw : w.cancelled = false) {d : Span}
    (hd : d = (nextSleep c q o g.attempt w.now g.backoff).1) :
    (Span.longest < g.totalWait + d → c.pause p q g (o g.attempt) w = .error .overflow) ∧
    (g.totalWait + d ≤ Span.longest →
      ∃ w', c.pause p q g (o g.attempt) w = .ok (.ok { g with
            backoff := (nextSleep c q o g.attempt w.now g.backoff).2
            totalWait := g.totalWait + d
            trace := g.trace.map (·.setLastWait d) }, w') ∧
        Spent 0 [] [d] w w' ∧ w.now + d ≤ w'.now) := by
  obtain ⟨w₁, hdrain, hs⟩ := drain_calm h.calm (o g.attempt) hw
  obtain ⟨w', hsleep, hs', hn⟩ := wait_calm h.calm d (hs.cancelled.trans hw)
  have hpause : c.pause p q g (o g.attempt) w = (Run.add g.totalWait d w').bind fun y =>
      .ok (.ok { g with
        backoff := (nextSleep c q o g.attempt w.now g.backoff).2
        totalWait := y.1
        trace := g.trace.map (·.setLastWait d) }, y.2) := by
    rw [hd] at hsleep ⊢
    simp only [Client.pause, bind_eq, get_eq, bind_ok, nextWait_eq, hdrain, hsleep, pure_eq]
  rw [hpause, Run.add]
  refine ⟨fun hlt => by rw [if_neg (Nat.not_le.mpr hlt)]; rfl, fun hle => ?_⟩
  rw [if_pos hle]
  exact ⟨w', rfl, hs.trans hs', Nat.le_trans (Nat.add_le_add_right hs.now _) hn⟩

theorem Undisturbed.finish (h : Undisturbed c b p w₀ o) (out : Except Error Response) (w : World) :
    ∃ w' trace, c.finish g out w = .ok (out.map fun r => { r with
          attempts := g.attempt, elapsed := w.now - g.started, totalWait := g.totalWait, trace }, w') ∧
      trace.isSome = g.trace.isSome ∧ Spent 0 [] [] w w' := by
  cases out with
  | error e => exact ⟨w, g.trace, rfl, rfl, (Later.refl w).spent⟩
  | ok r =>
    let trace := g.trace.map fun t : Trace =>
      { t with totalTime := w.now - g.started, totalWait := g.totalWait }
    let r' := { r with
      attempts := g.attempt, elapsed := w.now - g.started, totalWait := g.totalWait, trace }
    obtain ⟨w', hr, hl⟩ := responseHooks_passOn h.hooks c.slack 0 r' w
    exact ⟨w', trace, hr, Option.isSome_map, hl.spent⟩

theorem exhausted_eq (g : Progress) (out : Except Error Response) :
    Client.exhausted g out =
      .retryExhausted g.attempt g.totalWait g.draft.method g.draft.url (some (lastError out)) := by
  cases out <;> rfl

theorem Undisturbed.turn_last (h : Undisturbed c b p w₀ o) (hr : Ready p w₀ g w)
    (hs : Stops p o (g.attempt + 1)) :
    ∃ x w' a, turn c p g w = .ok (.inr x, w') ∧ Spent (openingsOf p.body) [a.1] [] w w' ∧
      Spaced w.now [] [a] ∧ Gives p o (g.attempt + 1) (a.2 - g.started) g.totalWait x := by
  obtain ⟨entry, t, w₁, hturn, hsp, ht, ht'⟩ := h.turn_answered hr
  have htrace : (advanced g (some entry) p.toDraft).trace.isSome = p.trace := by
    rw [← hr.trace]
    exact Option.isSome_map
  rcases moveAfter_cases (p := p) (o := o) (Nat.add_one_pos g.attempt) with
    ⟨-, he, hc⟩ | ⟨-, he, hc⟩ | ⟨hn, -⟩
  · refine ⟨.error (Client.exhausted (advanced g (some entry) p.toDraft) (o (g.attempt + 1))), w₁,
      (t, w₁.now), ?_, hsp, ⟨ht, ht'⟩, fun _ => ?_, fun hne => absurd he hne⟩
    · rw [hturn]
      exact settle_exhaust hc w₁
    · rw [exhausted_eq]
      rfl
  · obtain ⟨w', trace, hf, hi, hsp'⟩ :=
      h.finish (g := advanced g (some entry) p.toDraft) (o (g.attempt + 1)) w₁
    refine ⟨_, w', (t, w₁.now), ?_, hsp.trans hsp', ⟨ht, ht'⟩, fun hy => absurd hy he,
      fun _ => ⟨trace, hi.trans htrace, rfl⟩⟩
    rw [hturn, settle_finish hc, hf]
    rfl
  · exact absurd hs hn

/-- A turn that calls for another one gets there unless the total of the waits is too long. -/
theorem Undisturbed.turn_on (h : Undisturbed c b p w₀ o) (hr : Ready p w₀ g w)
    (hs : ¬ Stops p o (g.attempt + 1)) :
    ∃ q d, ∃ a : Instant × Instant, p.policy = some q ∧
      d = (nextSleep c q o (g.attempt + 1) a.2 g.backoff).1 ∧ w.now ≤ a.1 ∧ a.1 ≤ a.2 ∧
      (Span.longest < g.totalWait + d ∧ turn c p g w = .error .overflow ∨
      ∃ g' w', turn c p g w = .ok (.inl g', w') ∧ Ready p w₀ g' w' ∧
        g'.attempt = g.attempt + 1 ∧ g'.started = g.started ∧ g'.totalWait = g.totalWait + d ∧
        g'.backoff = (nextSleep c q o (g.attempt + 1) a.2 g.backoff).2 ∧
        Spent (openingsOf p.body) [a.1] [d] w w' ∧ a.2 + d ≤ w'.now) := by
  obtain ⟨entry, t, w₁, hturn, hsp, ht, ht'⟩ := h.turn_answered hr
  rcases moveAfter_cases (p := p) (o := o) (Nat.add_one_pos g.attempt) with
    ⟨hn, -⟩ | ⟨hn, -⟩ | ⟨-, q, hq, hc⟩
  · exact absurd hn hs
  · exact absurd hn hs
  · let s := nextSleep c q o (g.attempt + 1) w₁.now g.backoff
    obtain ⟨hover, hfits⟩ := h.pause (q := q) (g := advanced g (some entry) p.toDraft)
      (hsp.cancelled.trans hr.cancelled) (d := s.1) rfl
    refine ⟨q, s.1, (t, w₁.now), hq, rfl, ht, ht', ?_⟩
    rw [hturn, settle_again hc]
    rcases Nat.lt_or_ge Span.longest (g.totalWait + s.1) with hlt | hle
    · exact .inl ⟨hlt, map_eq_error_iff.mpr (hover hlt)⟩
    · obtain ⟨w', hp, hsp', hn⟩ := hfits hle
      have hspent := hsp.trans hsp'
      let g' : Progress := { advanced g (some entry) p.toDraft with
        backoff := s.2
        totalWait := g.totalWait + s.1
        trace := (advanced g (some entry) p.toDraft).trace.map (·.setLastWait s.1) }
      refine .inr ⟨g', w', congrArg (Except.map _) hp, ?_, rfl, rfl, rfl, rfl, hspent, hn⟩
      refine ⟨hspent.cancelled.trans hr.cancelled, hspent.breaker.trans hr.breaker, rfl, ?_, ?_, ?_,
        hle⟩
      · rw [hspent.openings, hr.openings, Nat.add_zero, Nat.add_assoc]
        exact congrArg _ (Nat.succ_mul _ _).symm
      · rw [hspent.calls, hr.calls]
        rfl
      · rw [← hr.trace]
        simp only [g', Option.isSome_map, advanced]

/-- The loop came to a result, from a progress and a world on, and did what the reference says. -/
def Follows (c : Client) (p : PreparedRequest) (o : Nat → Except Error Response) (g : Progress)
    (w : World) (y : Except Halt (Except Error Response × World)) : Prop :=
  ∃ x w' earlier last ds, y = .ok (x, w') ∧
    ds = gaps c p o (g.attempt + 1) g.backoff (earlier.map Prod.snd) ∧
    g.totalWait + total ds ≤ Span.longest ∧
    Stops p o (g.attempt + earlier.length + 1) ∧
    (∀ n, g.attempt < n → n ≤ g.attempt + earlier.length → ¬ Stops p o n) ∧
    Spent ((earlier.length + 1) * openingsOf p.body) ((earlier ++ [last]).map Prod.fst) ds w w' ∧
    Spaced w.now ds (earlier ++ [last]) ∧
    Gives p o (g.attempt + earlier.length + 1) (last.2 - g.started) (g.totalWait + total ds) x

/-- The loop stopped the program with the first total that is too long; the attempts before ended at
certain instants, and all of them were to be followed by another one. -/
def Overruns (c : Client) (p : PreparedRequest) (o : Nat → Except Error Response) (g : Progress)
    (y : Except Halt (Except Error Response × World)) : Prop :=
  ∃ ended ds, y = .error .overflow ∧ ds = gaps c p o (g.attempt + 1) g.backoff ended ∧
    (∀ n, g.attempt < n → n ≤ g.attempt + ended.length → ¬ Stops p o n) ∧
    g.totalWait + total ds.dropLast ≤ Span.longest ∧ Span.longest < g.totalWait + total ds

theorem total_cons (d : Span) (ds : List Span) : total (d :: ds) = d + total ds := rfl

/-- From any turn on the loop does what the reference says, as long as the total of the waits can be
told. -/
theorem Undisturbed.loop (h : Undisturbed c b p w₀ o) {heads : List (Progress × World)}
    {y : Except Halt (Except Error Response × World)} (hl : Loop c p heads g w y)
    (hr : Ready p w₀ g w) : Follows c p o g w y ∨ Overruns c p o g y := by
  induction hl with
  | @ends g w w' x ht =>
    by_cases hs : Stops p o (g.attempt + 1)
    · obtain ⟨x', w'', a, ht', hsp, hspaced, hg⟩ := h.turn_last hr hs
      cases ht.symm.trans ht'
      refine .inl ⟨x, w', [], a, [], rfl, ?_, hr.total, hs, fun n hn hn' => ?_, ?_, hspaced, hg⟩
      · simp only [gaps, List.map_nil, sleeps]
        cases p.policy <;> rfl
      · exact absurd hn (Nat.not_lt.mpr hn')
      · rwa [List.length_nil, Nat.zero_add, Nat.one_mul]
    · obtain ⟨q, d, a, -, -, -, -, ⟨-, ht'⟩ | ⟨g', w'', ht', -⟩⟩ := h.turn_on hr hs
      all_goals cases ht.symm.trans ht'
  | @halts g w e ht =>
    by_cases hs : Stops p o (g.attempt + 1)
    · obtain ⟨x', w'', a, ht', -⟩ := h.turn_last hr hs
      cases ht.symm.trans ht'
    · obtain ⟨q, d, a, hq, hd, -, -, ⟨hlt, ht'⟩ | ⟨g', w'', ht', -⟩⟩ := h.turn_on hr hs
      · cases ht.symm.trans ht'
        refine .inr ⟨[a.2], [d], rfl, ?_, fun n hn hn' => ?_, hr.total, ?_⟩
        · simp only [gaps, hq, sleeps, hd]
        · have he : n = g.attempt + 1 := Nat.le_antisymm hn' hn
          rwa [he]
        · rwa [total_cons]
      · cases ht.symm.trans ht'
  | @goesOn g g' w w' heads y ht hl ih =>
    by_cases hs : Stops p o (g.attempt + 1)
    · obtain ⟨x', w'', a, ht', -⟩ := h.turn_last hr hs
      cases ht.symm.trans ht'
    · obtain ⟨q, d, a, hq, hd, hn, hn', ⟨-, ht'⟩ | ⟨g₁, w₁, ht', hr', hattempt, hstarted, htotal, hb,
        hsp, hd'⟩⟩ := h.turn_on hr hs
      · cases ht.symm.trans ht'
      cases ht.symm.trans ht'
      have hgaps (ts : List Instant) : gaps c p o (g.attempt + 1) g.backoff (a.2 :: ts) =
          d :: gaps c p o (g'.attempt + 1) g'.backoff ts := by
        simp only [gaps, hq, sleeps, hattempt, hd, hb]
      have hlater {k : Nat} (hk : ∀ n, g'.attempt < n → n ≤ g'.attempt + k → ¬ Stops p o n) (n : Nat)
          (hlo : g.attempt < n) (hhi : n ≤ g.attempt + (k + 1)) : ¬ Stops p o n := by
        by_cases he : n = g.attempt + 1
        · rwa [he]
        · exact hk n (by omega) (by omega)
      have hsum (ds : List Span) : g'.totalWait + total ds = g.totalWait + total (d :: ds) := by
        rw [htotal, total_cons, Nat.add_assoc]
      rcases ih hr' with ⟨x, w'', earlier, last, ds, hy, hds, hfits, hstop, hleast, hsp', hspaced, hg⟩ |
        ⟨ended, ds, hy, hds, hleast, hfits, hlong⟩
      · have hk : g'.attempt + earlier.length = g.attempt + (earlier.length + 1) := by omega
        rw [hk] at hstop hg
        rw [hsum] at hfits hg
        refine .inl ⟨x, w'', a :: earlier, last, d :: ds, hy, ?_, hfits, hstop, hlater hleast, ?_,
          ⟨hn, hn', hspaced.mono hd'⟩, hstarted ▸ hg⟩
        · rw [List.map_cons, hgaps, hds]
        · have hspent := hsp.trans hsp'
          rwa [Nat.add_comm, ← Nat.succ_mul] at hspent
      · refine .inr ⟨a.2 :: ended, d :: ds, hy, ?_, hlater hleast, ?_, ?_⟩
        · rw [hgaps, hds]
        · -- The total was too long only behind this turn, so there are waits behind its own.
          have hne : ds ≠ [] := by
            rintro rfl
            exact absurd hr'.total (Nat.not_le.mpr hlong)
          rw [List.dropLast_cons_of_ne_nil hne, ← hsum]
          exact hfits
        · rwa [← hsum]

end

theorem ready_start {c : Client} {b : RequestBuilder} {p : PreparedRequest} {w : World}
    {o : Nat → Except Error Response} (h : Undisturbed c b p w o) :
    Ready p w (c.start p (begun p w)) (begun p w) where
  cancelled := h.cancelled
  breaker := h.breaker
  draft := rfl
  openings := (Nat.add_eq_left.mpr (Nat.zero_mul _)).symm
  calls := rfl
  trace := by
    simp only [Client.start]
    cases p.trace <;> rfl
  total := Nat.zero_le _

/-- Sending does what the reference says if the waits add up to no more than the longest stretch of
time. If they add up to more, the program stops at the first total that is too long, in the midst of
attempts that were all to be followed by another one. -/
theorem send_eq_reference {c : Client} {b : RequestBuilder} {p : PreparedRequest} {w : World}
    {o : Nat → Except Error Response} (h : Undisturbed c b p w o) :
    (∃ k x w' earlier last ds, c.send b w = .ok (x, w') ∧
      k = earlier.length + 1 ∧ Stops p o k ∧ (∀ n, 0 < n → n < k → ¬ Stops p o n) ∧
      ds = gaps c p o 1 ((p.policy.bind RetryPolicy.backoff).map (·.fresh (c.noise w.calls)))
        (earlier.map Prod.snd) ∧
      total ds ≤ Span.longest ∧
      w'.calls = w.calls + k ∧ callTimes w' = callTimes w ++ (earlier ++ [last]).map Prod.fst ∧
      waits w' = waits w ++ ds ∧ Spaced w.now ds (earlier ++ [last]) ∧
      Gives p o k (last.2 - w.now) (total ds) x) ∨
    ∃ ended ds, c.send b w = .error .overflow ∧
      ds = gaps c p o 1 ((p.policy.bind RetryPolicy.backoff).map (·.fresh (c.noise w.calls)))
        ended ∧
      (∀ n, 0 < n → n ≤ ended.length → ¬ Stops p o n) ∧
      total ds.dropLast ≤ Span.longest ∧ Span.longest < total ds := by
  obtain ⟨heads, hl⟩ := loop_send h.prepared w
  have hattempt : (c.start p (begun p w)).attempt = 0 := rfl
  have htotal : (c.start p (begun p w)).totalWait = 0 := rfl
  rcases h.loop hl (ready_start h) with
    ⟨x, w', earlier, last, ds, hy, hds, hfits, hstop, hleast, hsp, hspaced, hg⟩ |
    ⟨ended, ds, hy, hds, hleast, hfits, hlong⟩
  · rw [hattempt, Nat.zero_add] at hstop hleast hg
    rw [htotal, Nat.zero_add] at hfits hg
    refine .inl ⟨earlier.length + 1, x, w', earlier, last, ds, hy, rfl, hstop, fun n hn hk => ?_,
      hds, hfits, ?_, hsp.callTimes, hsp.waits, hspaced, hg⟩
    · exact hleast n hn (Nat.le_of_lt_succ hk)
    · rw [hsp.calls, List.length_map, List.length_append]
      rfl
  · rw [hattempt, Nat.zero_add] at hleast
    rw [htotal, Nat.zero_add] at hfits hlong
    exact .inr ⟨ended, ds, hy, hds, hleast, hfits, hlong⟩

def faltering : Client where
  config := { retry := some (.constant 3 5) }
  transport n _ := .done (.ok { status := if n = 0 then away else .ok })

def lookup : RequestBuilder := { method := .get, url := "http://localhost/" }

def answer (n : Nat) : Except Error Response :=
  .ok (.ofReply { status := if n = 1 then away else .ok })

theorem lookup_undisturbed : ∃ p, Undisturbed faltering lookup p {} answer := by
  have hok : (lookup.prepare faltering).isOk = true := by decide +kernel
  cases hp : lookup.prepare faltering with
  | error e =>
    rw [hp] at hok
    cases hok
  | ok p =>
    have hbody : p.body = .empty := by rw [prepare_eq hp]; rfl
    refine ⟨p, hp, rfl, by simp [lookup], rfl, by simp [faltering], by rw [hbody]; rfl, fun n => ?_⟩
    refine ⟨none, _, by rw [hbody]; rfl, rfl, ?_⟩
    cases n <;> rfl

theorem constant_sleeps (c : Client) (q : RetryPolicy) (o : Nat → Except Error Response) (n : Nat)
    (ts : List Instant) : sleeps c q o n none ts = ts.map fun _ => q.wait := by
  induction ts generalizing n with
  | nil => rfl
  | cons t ts ih => exact congrArg _ (ih (n + 1))

/-- The client waits once and then brings back what the server gave. -/
theorem lookup_sent : ∃ x w', faltering.send lookup {} = .ok (.ok x, w') ∧ w'.calls = 2 ∧
    waits w' = [5] ∧ x.attempts = 2 ∧ x.totalWait = 5 := by
  obtain ⟨p, h⟩ := lookup_undisturbed
  have hpolicy : p.policy = some (.constant 3 5) := by
    rw [prepare_eq h.prepared]
    rfl
  have hmethod : p.method = .get := by
    rw [prepare_eq h.prepared]
    rfl
  have hfirst : ¬ Stops p answer 1 := by
    simp only [Stops, hpolicy, hmethod]
    decide
  have hsecond : Stops p answer 2 := by
    simp only [Stops, hpolicy, hmethod]
    decide
  have hsleeps (ts : List Instant) : gaps faltering p answer 1
      ((p.policy.bind RetryPolicy.backoff).map (·.fresh (faltering.noise ({} : World).calls))) ts =
        ts.map fun _ => 5 := by
    simp only [gaps, hpolicy]
    exact constant_sleeps _ _ _ _ ts
  rcases send_eq_reference h with
    ⟨k, x, w', earlier, last, ds, hs, hk, hstop, hleast, hds, -, hcalls, -, hwaits, -, hg⟩ |
    ⟨ended, ds, -, hds, hleast, -, hlong⟩
  swap
  · -- There is at most one wait, and it is short.
    have hlength : ended.length ≤ 1 := by
      by_contra hmore
      exact hleast 2 Nat.two_pos (by omega) hsecond
    rw [hds, hsleeps] at hlong
    match ended, hlength with
    | [], _ => cases hlong
    | [t], _ => exact absurd hlong (show ¬ Span.longest < 5 + 0 by decide)
  have htwo : k = 2 := by
    rcases Nat.lt_trichotomy k 2 with hlt | heq | hgt
    · have hone : k = 1 := by omega
      exact absurd (hone ▸ hstop) hfirst
    · exact heq
    · exact absurd hsecond (hleast 2 Nat.two_pos hgt)
  subst htwo
  obtain ⟨e, rfl⟩ := List.length_eq_one_iff.mp (Nat.succ.inj hk).symm
  have hgap : ds = [5] := by
    rw [hds, hsleeps]
    rfl
  have hnot : ¬ Exhausts p answer 2 := by
    simp only [Exhausts, hpolicy, hmethod]
    decide
  obtain ⟨trace, -, rfl⟩ := hg.2 hnot
  rw [hgap] at hs hwaits
  exact ⟨_, w', hs, hcalls, hwaits, rfl, rfl⟩

/-- An outcome that is always worth another attempt leaves the policy its limit. -/
theorem stops_retried_iff {p : PreparedRequest} {q : RetryPolicy}
    {o : Nat → Except Error Response} (hp : p.policy = some q) {n : Nat} (hn : 0 < n)
    (hv : Verdict.ofOutcome (o n).toOption (errorOf? (o n)) = .retry) :
    Stops p o n ↔ limit (some q) ≤ n := by
  have happlies : q.appliesTo p.method = true := (Option.filter_eq_some_iff.mp hp).2
  have hretry : q.isRetryable (o n).toOption (errorOf? (o n)) p.method.isIdempotent = true := by
    rw [RetryPolicy.appliesTo, Bool.or_comm] at happlies
    simp only [RetryPolicy.isRetryable, hv, happlies, Bool.and_true]
  rw [← Nat.not_lt, lt_limit_iff (q := q) hn]
  simp only [Stops, hp, Option.mem_some_iff, forall_eq', RetryPolicy.shouldRetry, hretry,
    Bool.and_true, decide_eq_false_iff_not]

/-! ## A server that always gives the same reply -/

def echoing (q : RetryPolicy) (reply : Reply) : Client where
  config := { retry := some q }
  transport _ _ := .done (.ok reply)

section
variable (q : RetryPolicy) (reply : Reply)

/-- Neither policy nor server plays a part in whether a request can be prepared. -/
theorem echoing_prepared : ∃ p, lookup.prepare (echoing q reply) = .ok p := by
  have hurl : lookup.builtUrl (echoing q reply).config = lookup.builtUrl faltering.config := rfl
  have hheaders : lookup.builtHeaders (echoing q reply) = lookup.builtHeaders faltering := rfl
  have hok : (lookup.prepare faltering).isOk = true := by decide +kernel
  simp only [RequestBuilder.prepare] at hok
  simp only [RequestBuilder.prepare, hurl, hheaders]
  cases hu : lookup.builtUrl faltering.config with
  | error e =>
    rw [hu] at hok
    cases hok
  | ok url =>
    cases hh : lookup.builtHeaders faltering with
    | error e =>
      rw [hu, hh] at hok
      cases hok
    | ok headers => exact ⟨_, rfl⟩

theorem echoing_undisturbed : ∃ p, p.policy = some q ∧ Undisturbed (echoing q reply) lookup p {}
    fun _ => (echoing q reply).outcome (.ok reply) := by
  obtain ⟨p, hp⟩ := echoing_prepared q reply
  have hretry : p.retry = some { q with allowNonIdempotent := q.allowNonIdempotent || false } := by
    rw [prepare_eq hp]
    rfl
  have hmethod : p.method = .get := by
    rw [prepare_eq hp]
    rfl
  have hget : p.method.isIdempotent = true := by
    rw [hmethod]
    decide
  have hq : p.policy = some q := by
    rw [Bool.or_false] at hretry
    simp only [PreparedRequest.policy, hretry, RetryPolicy.appliesTo, hget, Bool.or_true,
      Option.filter_some, if_true]
  have hbody : p.body = .empty := by
    rw [prepare_eq hp]
    rfl
  refine ⟨p, hq, hp, rfl, by simp [lookup], rfl, by simp [echoing], by rw [hbody]; rfl, fun n => ?_⟩
  exact ⟨none, .ok reply, by rw [hbody]; rfl, rfl, rfl⟩

end

theorem stops_echoing_iff {q : RetryPolicy} {p : PreparedRequest} (hq : p.policy = some q) {n : Nat}
    (hn : 0 < n) :
    Stops p (fun _ => (echoing q { status := away }).outcome (.ok { status := away })) n ↔
      limit (some q) ≤ n := by
  have hverdict : Verdict.ofOutcome (some (.ofReply { status := away })) none = .retry := by
    decide +kernel
  exact stops_retried_iff hq hn hverdict

/-- Three attempts at a server that stays away, with the longest waits in between. The last attempt
is never made: the second wait makes the total too long, and the program stops. -/
theorem patient_overflows :
    let c := echoing (.constant 3 Span.longest) { status := away }
    let o := fun _ => c.outcome (.ok { status := away })
    (∃ p, Undisturbed c lookup p {} o ∧ Stops p o 3 ∧ ∀ n, 0 < n → n < 3 → ¬ Stops p o n) ∧
    c.send lookup {} = .error .overflow := by
  refine ⟨?_, ?_⟩
  · obtain ⟨p, hq, h⟩ := echoing_undisturbed (.constant 3 Span.longest) { status := away }
    refine ⟨p, h, (stops_echoing_iff hq (by decide)).mpr (Nat.le_refl _), fun n hn hlt hstops => ?_⟩
    exact absurd ((stops_echoing_iff hq hn).mp hstops) (Nat.not_le.mpr hlt)
  · rw [← halt?_eq_some_iff]
    decide +kernel

end ResilientHttp.RetryReference
