import ResilientHttp.Proofs.BreakerHistory
import ResilientHttp.Proofs.Turns

/-!
# From one world to the next

Whatever a run does, time never goes back, and it is known which calls and which waits begin. The
breaker changes at the gate of an attempt and in its report, and nowhere else. An attempt has to do
with the transport only if the gate and every hook let it pass.
-/
namespace ResilientHttp.Passage
open BreakerHistory Building Runs Turns

/-- Transport calls began at certain instants and certain waits were begun, and nothing happened to
the breaker. -/
structure Passed (ts : List Instant) (ds : List Span) (w w' : World) : Prop where
  breaker : w'.breaker = w.breaker
  callTimes : callTimes w' = callTimes w ++ ts
  waits : waits w' = waits w ++ ds
  now : w.now ≤ w'.now
  during : ∀ t ∈ ts, w.now ≤ t ∧ t ≤ w'.now

section
variable {w w' w'' : World} {ts ts' : List Instant} {ds ds' : List Span}

theorem Passed.refl (w : World) : Passed [] [] w w :=
  ⟨rfl, (List.append_nil _).symm, (List.append_nil _).symm, Nat.le_refl _, by simp⟩

theorem Passed.trans (h : Passed ts ds w w') (h' : Passed ts' ds' w' w'') :
    Passed (ts ++ ts') (ds ++ ds') w w'' where
  breaker := h'.breaker.trans h.breaker
  callTimes := by rw [h'.callTimes, h.callTimes, List.append_assoc]
  waits := by rw [h'.waits, h.waits, List.append_assoc]
  now := Nat.le_trans h.now h'.now
  during := by
    intro t ht
    rcases List.mem_append.mp ht with ht | ht
    · exact ⟨(h.during t ht).1, Nat.le_trans (h.during t ht).2 h'.now⟩
    · exact ⟨Nat.le_trans h.now (h'.during t ht).1, (h'.during t ht).2⟩

theorem Passed.aside (h : Adds IsAside w w') (hn : w.now ≤ w'.now) : Passed [] [] w w' where
  breaker := h.breaker
  callTimes := by rw [h.callTimes, List.append_nil]
  waits := by rw [h.waits, List.append_nil]
  now := hn
  during := by simp

theorem passed_call (w : World) (r : Request) : Passed [w.now] [] w (w.note (.call r)) :=
  ⟨rfl, told_note _ w _, told_note _ w _, Nat.le_refl _, by simp [World.note]⟩

theorem passed_wait (w : World) (d : Span) : Passed [] [d] w (w.note (.wait d)) :=
  ⟨rfl, told_note _ w _, told_note _ w _, Nat.le_refl _, by simp⟩

end

section
variable {α : Type} {b : Bounds} {e : Event} {t : Activity α} {w w' : World}

/-- What a bound can cut short either fails before it begins, or passes time once it was noted. -/
theorem within_passed {x : Except Error α} (h : Run.within b e t w = .ok (x, w')) :
    (w' = w ∧ ∃ i, x = .error (Interruption.error i)) ∨ Passed [] [] (w.note e) w' := by
  obtain ⟨⟨r, w₁⟩, hr, he⟩ := map_eq_ok_iff.mp h
  cases he
  simp only [Activity.runBounded] at hr
  split at hr
  · cases hr
    exact .inl ⟨rfl, .cancelled, rfl⟩
  · split at hr
    · cases hr
      exact .inl ⟨rfl, .deadline, rfl⟩
    · exact .inr (.aside ((run_adds hr).mono fun _ => IsTaken.aside) (run_now hr))

end

theorem within_error {α : Type} {b : Bounds} {e : Event} {t : Activity α} {w w' : World}
    {x : Error} (h : Run.within b e t w = .ok (.error x, w')) :
    ∃ i, x = Interruption.error i := by
  obtain ⟨⟨r, w₁⟩, -, he⟩ := map_eq_ok_iff.mp h
  cases r with
  | error i =>
    cases he
    exact ⟨i, rfl⟩
  | ok a => cases he

theorem requestHooks_passed {b : Bounds} {hooks : List Hook} {i : Nat} {r : Request}
    {w w' : World} {x : Except Error Request}
    (h : Client.requestHooks b i r hooks w = .ok (x, w')) : Passed [] [] w w' := by
  refine .aside (requestHooks_adds h) ?_
  induction hooks generalizing i r w with
  | nil =>
    cases h
    exact Nat.le_refl _
  | cons hook hooks ih =>
    rw [requestHooks_cons] at h
    obtain ⟨⟨u, w₁⟩, hb, h⟩ := bind_eq_ok_iff.mp h
    have hn : (w.note (.requestHook i)).now ≤ w₁.now := runThrough_now hb
    split at h
    · exact Nat.le_trans hn (ih h)
    · cases h
      exact hn

theorem responseHooks_passed {slack : Nat} {hooks : List Hook} {i : Nat} {r : Response}
    {w w' : World} {x : Except Error Response}
    (h : Client.responseHooks slack i r hooks w = .ok (x, w')) : Passed [] [] w w' := by
  refine .aside (responseHooks_adds h) ?_
  induction hooks generalizing i r w with
  | nil =>
    cases h
    exact Nat.le_refl _
  | cons hook hooks ih =>
    rw [responseHooks_cons] at h
    obtain ⟨⟨y, w₁⟩, hy, h⟩ := bind_eq_ok_iff.mp h
    have hn : (w.note (.responseHook i r.attempts r.totalWait)).now ≤ w₁.now := runThrough_now hy
    cases y with
    | ok r => exact Nat.le_trans hn (ih h)
    | error e =>
      cases h
      exact hn

theorem finish_passed {c : Client} {g : Progress} {o x : Except Error Response} {w w' : World}
    (h : c.finish g o w = .ok (x, w')) : Passed [] [] w w' := by
  cases o with
  | error e =>
    cases h
    exact .refl w
  | ok r => exact responseHooks_passed h

theorem call_passed {c : Client} {b : Bounds} {r : Request} {w w' : World}
    {x : Except Error (Except TransportError Reply)} (h : c.call b r w = .ok (x, w')) :
    (w' = w ∧ ∃ i, x = .error (Interruption.error i)) ∨ Passed [w.now] [] w w' :=
  (within_passed h).imp_right fun hp => (passed_call w r).trans hp

theorem drain_passed {p : PreparedRequest} {o : Except Error Response} {w w' : World}
    {x : Except Error Unit} (h : Client.drain p o w = .ok (x, w')) : Passed [] [] w w' := by
  cases o with
  | error e =>
    cases h
    exact .refl w
  | ok r =>
    rcases within_passed h with ⟨rfl, -⟩ | hp
    · exact .refl _
    · have hn : Passed [] [] w (w.note .drain) :=
        ⟨rfl, told_note _ w _, told_note _ w _, Nat.le_refl _, by simp⟩
      exact hn.trans hp

/-- A wait that comes to its end took its time. -/
theorem sleep_lasts {b : Bounds} {e : Event} {d : Span} {w w' : World}
    (h : Run.within b e (.sleep d (.done ())) w = .ok (.ok (), w')) : w.now + d ≤ w'.now := by
  obtain ⟨⟨r, v⟩, hr, he⟩ := map_eq_ok_iff.mp h
  have hdue : w.now + d ≤ alarm b.slack w.now (w.now + d) := le_alarm_due _ _ _
  have hnoted : (w.note e).now = w.now := rfl
  cases r with
  | error i => cases he
  | ok u =>
    cases he
    simp only [Activity.runBounded, Activity.run, hnoted] at hr
    split at hr
    · cases hr
    · split at hr
      · cases hr
      · split at hr
        · rename_i hends
          cases hr
          exact Nat.le_trans hdue (Nat.le_of_eq hends)
        · split at hr
          · cases hr
          · cases hr
            exact hdue

/-- A pause that comes to its end makes one wait, which the trace and the total tell. -/
theorem pause_cases {c : Client} {p : PreparedRequest} {q : RetryPolicy} {g : Progress}
    {o : Except Error Response} {w w' : World} {x : Except Error Progress}
    (h : c.pause p q g o w = .ok (x, w')) :
    (∃ i ds, x = .error (Interruption.error i) ∧ Passed [] ds w w') ∨
    ∃ g' d, x = .ok g' ∧ Passed [] [d] w w' ∧ g'.attempt = g.attempt ∧
      g'.started = g.started ∧ g'.totalWait = g.totalWait + d ∧
      g'.trace = g.trace.map (·.setLastWait d) := by
  cases paused_of_pause h with
  | undrained hd =>
    cases o with
    | error e => cases hd
    | ok r =>
      obtain ⟨i, rfl⟩ := within_error hd
      exact .inl ⟨i, [], rfl, drain_passed hd⟩
  | cut _ hd hs =>
    obtain ⟨i, rfl⟩ := within_error hs
    rcases within_passed hs with ⟨rfl, -⟩ | hp
    · exact .inl ⟨i, [], rfl, drain_passed hd⟩
    · exact .inl ⟨i, _, rfl, (drain_passed hd).trans ((passed_wait _ _).trans hp)⟩
  | rested _ hd hs =>
    rcases within_passed hs with ⟨-, i, hi⟩ | hp
    · cases hi
    · exact .inr ⟨_, _, rfl, (drain_passed hd).trans ((passed_wait _ _).trans hp), rfl, rfl, rfl,
        rfl⟩

/-- What comes after an attempt makes one wait if it leads to another attempt. -/
theorem settle_cases {c : Client} {p : PreparedRequest} {g : Progress}
    {o : Except Error Response} {w w' : World} {x : Progress ⊕ Except Error Response}
    (h : settle c p g o w = .ok (x, w')) :
    (∃ y ds, x = .inr y ∧ Passed [] ds w w') ∨
    ∃ g' d, x = .inl g' ∧ Passed [] [d] w w' ∧ g'.attempt = g.attempt ∧
      g'.started = g.started ∧ g'.totalWait = g.totalWait + d ∧
      g'.trace = g.trace.map (·.setLastWait d) := by
  cases hm : moveAfter p g.attempt o with
  | finish =>
    rw [settle_finish hm, map_eq_ok_iff] at h
    obtain ⟨⟨y, w₁⟩, hf, he⟩ := h
    cases he
    exact .inl ⟨y, [], rfl, finish_passed hf⟩
  | exhaust =>
    rw [settle_exhaust hm] at h
    cases h
    exact .inl ⟨_, [], rfl, .refl w⟩
  | again q =>
    rw [settle_again hm, map_eq_ok_iff] at h
    obtain ⟨⟨y, w₁⟩, hp, he⟩ := h
    cases he
    rcases pause_cases hp with ⟨i, ds, rfl, hpassed⟩ | ⟨g', d, rfl, hpassed⟩
    · exact .inl ⟨_, ds, rfl, hpassed⟩
    · exact .inr ⟨g', d, rfl, hpassed⟩

/-- A pause that comes to its end reads on in the response, and then waits. -/
theorem pause_ok {c : Client} {p : PreparedRequest} {q : RetryPolicy} {g g' : Progress}
    {o : Except Error Response} {w w' : World} (h : c.pause p q g o w = .ok (.ok g', w')) :
    ∃ d w₁, d = (c.nextWait q g w.now o).1 ∧ Client.drain p o w = .ok (.ok (), w₁) ∧
      Run.within p.bounds (.wait d) (.sleep d (.done ())) w₁ = .ok (.ok (), w') ∧
      g.totalWait + d ≤ Span.longest ∧
      g' = { g with
        backoff := (c.nextWait q g w.now o).2.backoff
        totalWait := g.totalWait + d
        trace := g.trace.map (·.setLastWait d) } := by
  cases paused_of_pause h with
  | rested hwait hd hs hfits => exact ⟨_, _, hwait, hd, hs, hfits, rfl⟩

theorem turn_next {c : Client} {p : PreparedRequest} {g g' : Progress} {w w' : World}
    (h : turn c p g w = .ok (.inl g', w')) :
    ∃ q o entry d w₁, p.policy = some q ∧ Attempted c p g w o entry d w₁ ∧
      c.pause p q (advanced g entry d) o w₁ = .ok (.ok g', w') := by
  obtain ⟨o, entry, d, w₁, ha, hs⟩ := turn_cases h
  obtain ⟨q, hm, hp⟩ := pause_of_settle_inl hs
  exact ⟨q, o, entry, d, w₁, (moveAfter_again hm).1, ha, hp⟩

/-- The last turn finishes the outcome of its attempt if there is a response in the end. -/
theorem turn_response {c : Client} {p : PreparedRequest} {g : Progress} {w w' : World}
    {r : Response} (h : turn c p g w = .ok (.inr (.ok r), w')) :
    ∃ o entry d w₁, Attempted c p g w o entry d w₁ ∧
      c.finish (advanced g entry d) o w₁ = .ok (.ok r, w') := by
  obtain ⟨o, entry, d, w₁, ha, hs⟩ := turn_cases h
  cases hm : moveAfter p (g.attempt + 1) o with
  | exhaust =>
    rw [settle_exhaust (g := advanced g entry d) hm] at hs
    cases hs
  | again q =>
    rw [settle_again (g := advanced g entry d) hm, map_eq_ok_iff] at hs
    obtain ⟨⟨y, w₂⟩, -, he⟩ := hs
    cases y <;> cases he
  | finish =>
    rw [settle_finish (g := advanced g entry d) hm, map_eq_ok_iff] at hs
    obtain ⟨⟨y, w₂⟩, hf, he⟩ := hs
    cases he
    exact ⟨o, entry, d, w₁, ha, hf⟩

theorem moveAfter_never {p : PreparedRequest} {e : Error} (h : Verdict.ofError e = .never)
    (n : Nat) : moveAfter p n (.error e) = .finish := by
  cases hq : p.policy with
  | none => simp only [moveAfter, hq]
  | some q =>
    refine moveAfter_of_stop hq ?_
    simp only [RetryPolicy.isRetryable, errorOf?, Verdict.ofOutcome, h, Bool.and_false]

theorem moveAfter_interruption {p : PreparedRequest} (i : Interruption) (n : Nat) :
    moveAfter p n (.error i.error) = .finish := by
  have hnever : Verdict.ofError i.error = .never := by cases i <;> rfl
  exact moveAfter_never hnever n

/-! ## The breaker in an attempt -/

def gated (w : World) : World :=
  { w with breaker := w.breaker.map fun b => perform b w.now .preRequest }

theorem preRequest_error {b : Breaker} {now : Instant} {e : Error}
    (h : b.preRequest now = .error e) : e = .breakerOpen := by
  simp only [Breaker.preRequest] at h
  split at h
  · cases h
  · split at h
    · cases h
    · cases h
      rfl

theorem gate_some {w w' : World} {b : Breaker} {x : Except Error Unit} (hb : w.breaker = some b)
    (h : Client.gate w = .ok (x, w')) :
    (b.preRequest w.now = .error .breakerOpen ∧ x = .error .breakerOpen ∧ w' = w) ∨
    ∃ b', b.preRequest w.now = .ok b' ∧ x = .ok () ∧ w' = { w with breaker := some b' } := by
  simp only [Client.gate, hb] at h
  cases hp : b.preRequest w.now with
  | ok b' =>
    rw [hp] at h
    cases h
    exact .inr ⟨b', rfl, rfl, rfl⟩
  | error e =>
    have he := preRequest_error hp
    rw [hp] at h
    cases h
    exact .inl ⟨congrArg _ he, congrArg _ he, rfl⟩

theorem gate_cases {w w' : World} {x : Except Error Unit} (h : Client.gate w = .ok (x, w')) :
    w' = gated w ∧ (x = .ok () ∨ x = .error .breakerOpen ∧ w' = w) := by
  cases hb : w.breaker with
  | none =>
    simp only [Client.gate, hb] at h
    cases h
    refine ⟨?_, .inl rfl⟩
    simp only [gated, hb, Option.map_none]
    rw [← hb]
  | some b =>
    rcases gate_some hb h with ⟨hp, hx, hw⟩ | ⟨b', hp, hx, hw⟩
    · refine ⟨?_, .inr ⟨hx, hw⟩⟩
      simp only [hw, gated, hb, Option.map_some, perform, hp, Except.toOption, Option.getD_none]
      rw [← hb]
    · refine ⟨?_, .inl hx⟩
      simp only [hw, gated, hb, Option.map_some, perform, hp, Except.toOption, Option.getD_some]

theorem gate_total (w : World) : ∃ x, Client.gate w = .ok (x, gated w) := by
  have hsome : ∃ y, Client.gate w = .ok y := by
    simp only [Client.gate]
    split
    · exact ⟨_, rfl⟩
    · split <;> exact ⟨_, rfl⟩
  obtain ⟨⟨x, w'⟩, hg⟩ := hsome
  have hw : w' = gated w := (gate_cases hg).1
  exact ⟨x, hw ▸ hg⟩

theorem attempt_refused {c : Client} {p : PreparedRequest} {g : Progress} {w : World} {b : Breaker}
    {e : Error} (hb : w.breaker = some b) (hp : b.preRequest w.now = .error e) :
    c.attempt p g w = .ok ((.error e, { g with attempt := g.attempt + 1 }), w) := by
  have hg : Client.gate w = .ok (.error e, w) := by simp only [Client.gate, hb, hp]
  simp only [Client.attempt, bind_eq, hg, bind_ok, pure_eq]

/-! ## The transport in an attempt -/

theorem build_passed {d d' : Draft} {n : Nat} {w w' : World} {x : Except Error Request}
    (h : d.build n w = .ok ((x, d'), w')) : Passed [] [] w w' := by
  obtain ⟨-, -, rfl⟩ := of_build h
  exact ⟨opened_breaker, by rw [opened_callTimes, List.append_nil],
    by rw [opened_waits, List.append_nil], Nat.le_of_eq opened_now.symm, by simp⟩

/-- The gate and the hooks let an attempt pass, and a request is about to be handed to the
transport. -/
def Reaches (c : Client) (p : PreparedRequest) (g : Progress) (w : World) (r : Request)
    (w' : World) : Prop :=
  ∃ r₀ d w₁ w₂, Client.gate w = .ok (.ok (), w₁) ∧
    g.draft.build (g.attempt + 1) w₁ = .ok ((.ok r₀, d), w₂) ∧
    Client.requestHooks p.bounds 0 r₀ c.hooks w₂ = .ok (.ok r, w')

/-- What the transport gave, and the worlds in which it was called and in which it had answered. -/
structure Exchange where
  called : World
  result : Except TransportError Reply
  answered : World

def Answers (c : Client) (p : PreparedRequest) (g : Progress) (w : World) (x : Exchange) : Prop :=
  ∃ r, Reaches c p g w r x.called ∧
    c.call p.bounds r x.called = .ok (.ok x.result, x.answered)

/-- The answer counts unless it is a failure that comes after the deadline. -/
def Counts (p : PreparedRequest) (x : Exchange) : Prop :=
  x.result.isOk = true ∨ p.bounds.isPastDeadline x.answered.now = false

section
variable {c : Client} {p : PreparedRequest} {g : Progress} {w w' : World} {r : Request}
  {x : Exchange}

theorem Reaches.passed (h : Reaches c p g w r w') : Passed [] [] (gated w) w' := by
  obtain ⟨r₀, d, w₁, w₂, hg, hb, hh⟩ := h
  have hw : w₁ = gated w := (gate_cases hg).1
  subst hw
  exact (build_passed hb).trans (requestHooks_passed hh)

theorem Answers.unique {x' : Exchange} (h : Answers c p g w x) (h' : Answers c p g w x') :
    x = x' := by
  obtain ⟨r, ⟨r₀, d, w₁, w₂, hg, hb, hh⟩, hc⟩ := h
  obtain ⟨r', ⟨r₀', d', w₁', w₂', hg', hb', hh'⟩, hc'⟩ := h'
  cases hg.symm.trans hg'
  cases hb.symm.trans hb'
  obtain ⟨called, result, answered⟩ := x
  obtain ⟨called', result', answered'⟩ := x'
  cases hh.symm.trans hh'
  cases hc.symm.trans hc'
  rfl

theorem Answers.passed (h : Answers c p g w x) :
    Passed [x.called.now] [] (gated w) x.answered := by
  obtain ⟨r, hr, hc⟩ := h
  rcases call_passed hc with ⟨-, i, hi⟩ | hp
  · cases hi
  · exact hr.passed.trans hp

/-- An attempt that the transport answers ends with what is made of the answer, if it counts. -/
theorem attempt_of_answers (h : Answers c p g w x) (hc : Counts p x) :
    c.attempt p g w = .ok ((c.outcome x.result, advanced g (some (Client.attemptTrace
        (g.attempt + 1) (x.answered.now - x.called.now) (Client.received x.result)))
        (left g.draft (g.attempt + 1))), afterReport x.answered (Client.received x.result)) := by
  obtain ⟨r, ⟨r₀, d, w₁, w₂, hg, hb, hh⟩, hcall⟩ := h
  have hd : (!x.result.isOk && p.bounds.isPastDeadline x.answered.now) = false := by
    rcases hc with hc | hc <;> simp [hc]
  rw [← (of_build hb).2.1]
  simp only [Client.attempt, bind_eq, hg, bind_ok, hb, hh, Client.exchange, get_eq, hcall, hd]
  rfl

/-- An attempt either leaves no entry in the trace and fails, or it tells the breaker and the trace
what the transport gave. -/
theorem attempted_cases {o : Except Error Response} {entry : Option AttemptTrace} {d : Draft}
    (h : Attempted c p g w o entry d w') :
    (entry = none ∧ (∃ ts, Passed ts [] (gated w) w') ∧ ∃ e, o = .error e) ∨
    ∃ x, Answers c p g w x ∧ Counts p x ∧
      entry = some (Client.attemptTrace (g.attempt + 1) (x.answered.now - x.called.now)
        (Client.received x.result)) ∧
      o = c.outcome x.result ∧ w' = afterReport x.answered (Client.received x.result) := by
  have hcall {r' : Request} {y : Except Error (Except TransportError Reply)} {w₁ w₂ : World}
      (hr : Reaches c p g w r' w₁) (hc : c.call p.bounds r' w₁ = .ok (y, w₂)) :
      ∃ ts, Passed ts [] (gated w) w₂ := by
    rcases call_passed hc with ⟨rfl, -⟩ | hp
    · exact ⟨[], hr.passed⟩
    · exact ⟨_, hr.passed.trans hp⟩
  cases h with
  | refused hg =>
    have hw := (gate_cases hg).1
    subst hw
    exact .inl ⟨rfl, ⟨[], .refl _⟩, _, rfl⟩
  | unbuilt hg hb =>
    have hw := (gate_cases hg).1
    subst hw
    exact .inl ⟨rfl, ⟨[], build_passed hb⟩, _, rfl⟩
  | hooked hg hb hh =>
    have hw := (gate_cases hg).1
    subst hw
    exact .inl ⟨rfl, ⟨[], (build_passed hb).trans (requestHooks_passed hh)⟩, _, rfl⟩
  | interrupted hg hb hh hc | late hg hb hh hc =>
    exact .inl ⟨rfl, hcall ⟨_, _, _, _, hg, hb, hh⟩ hc, _, rfl⟩
  | @answered r₀ r' result d w₁ w₂ w₃ w₄ hg hb hh hc hd =>
    exact .inr ⟨⟨w₃, result, w₄⟩, ⟨r', ⟨r₀, d, w₁, w₂, hg, hb, hh⟩, hc⟩, hd, rfl, rfl, rfl⟩

theorem attempted_now {o : Except Error Response} {entry : Option AttemptTrace} {d : Draft}
    (h : Attempted c p g w o entry d w') : w.now ≤ w'.now := by
  rcases attempted_cases h with ⟨-, ⟨ts, hp⟩, -⟩ | ⟨x, hx, -, -, -, rfl⟩
  · exact hp.now
  · exact hx.passed.now

theorem attempted_waits {o : Except Error Response} {entry : Option AttemptTrace} {d : Draft}
    (h : Attempted c p g w o entry d w') : waits w' = waits w := by
  rcases attempted_cases h with ⟨-, ⟨ts, hp⟩, -⟩ | ⟨x, hx, -, -, -, rfl⟩
  · exact hp.waits.trans (List.append_nil _)
  · exact hx.passed.waits.trans (List.append_nil _)

/-- An attempt without an entry has no answer that counts. -/
theorem not_counts_of_silent {o : Except Error Response} {d : Draft}
    (h : Attempted c p g w o none d w') {x : Exchange} (ha : Answers c p g w x) : ¬ Counts p x := by
  obtain ⟨r, ⟨r₀, d', w₁, w₂, hg, hr, hh⟩, hc⟩ := ha
  intro hcounts
  cases h with
  | refused hg' => cases hg'.symm.trans hg
  | unbuilt hg' hr' =>
    cases hg'.symm.trans hg
    cases hr'.symm.trans hr
  | hooked hg' hr' hh' =>
    cases hg'.symm.trans hg
    cases hr'.symm.trans hr
    cases hh'.symm.trans hh
  | interrupted hg' hr' hh' hc' =>
    cases hg'.symm.trans hg
    cases hr'.symm.trans hr
    cases hh'.symm.trans hh
    cases hc'.symm.trans hc
  | late hg' hr' hh' hc' hd =>
    cases hg'.symm.trans hg
    cases hr'.symm.trans hr
    cases hh'.symm.trans hh
    have he := Prod.mk.inj (Except.ok.inj (hc'.symm.trans hc))
    obtain ⟨hresult, hanswered⟩ := he
    rw [Counts, ← Except.ok.inj hresult, ← hanswered, hd] at hcounts
    rcases hcounts with hcounts | hcounts <;> cases hcounts

end

end ResilientHttp.Passage
