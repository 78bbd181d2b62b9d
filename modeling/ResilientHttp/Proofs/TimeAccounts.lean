import ResilientHttp.Proofs.TraceFidelity

/-!
# Time that is accounted for

The transport calls and the waits of a run follow one another, none before the run began. So
everything that the run tells of them fits in the time since then, whatever else took time in
between: hooks, reading on in responses that nobody wants, and timers that go off late. A wait that
is written over an earlier one only makes the sum smaller.

The response hooks get to see the account and may put another response in the place of the one that
they were given. But an account is not made by hand: it comes with a response from a reply or from a
run, perhaps of another client.
-/
namespace ResilientHttp.TimeAccounts
open Runs Turns Passage TraceFidelity

def cost (a : AttemptTrace) : Span := a.serverTime + a.wait

def spent (t : Trace) : Span := (t.attempts.map cost).sum

theorem spent_record (t : Trace) (a : AttemptTrace) : spent (t.record a) = spent t + cost a := by
  simp only [spent, Trace.record, List.map_append, List.sum_append, List.map_singleton,
    List.sum_singleton]

/-- The wait takes the place of the one that the latest entry told before, if there is an entry. -/
theorem spent_setLastWait_le (t : Trace) (d : Span) :
    spent (t.setLastWait d) ≤ spent t + d := by
  rcases List.eq_nil_or_concat t.attempts with hnil | ⟨entries, a, hlast⟩
  · have hnone : spent (t.setLastWait d) = 0 := by
      simp only [spent, Trace.setLastWait, hnil, List.modify_nil, List.map_nil, List.sum_nil]
    rw [hnone]
    exact Nat.zero_le _
  · obtain ⟨attempts, time, wait⟩ := t
    obtain rfl : attempts = entries ++ [a] := by rw [← List.concat_eq_append, ← hlast]
    have hset : (Trace.record ⟨entries, time, wait⟩ a).setLastWait d =
        Trace.record ⟨entries, time, wait⟩ (waited a d) := record_setLastWait _ a d
    have hcost : cost (waited a d) ≤ cost a + d := by
      simp only [cost, waited, Span]
      omega
    change spent ((Trace.record ⟨entries, time, wait⟩ a).setLastWait d) ≤
      spent (Trace.record ⟨entries, time, wait⟩ a) + d
    rw [hset, spent_record, spent_record]
    simp only [Span] at *
    omega

theorem cost_attemptTrace (n : Nat) (serverTime : Span) (o : Except Error Response) :
    cost (Client.attemptTrace n serverTime o) = serverTime := by
  cases o <;> rfl

/-! ## Progress -/

/-- What a progress tells of a run that began in one world and has come to another one: the waits
that were made, and no more time than has passed. -/
structure Kept (w₀ : World) (g : Progress) (w : World) : Prop where
  started : g.started = w₀.now
  waits : ∃ ds, Runs.waits w = Runs.waits w₀ ++ ds ∧ ds.sum = g.totalWait
  totalWait : w₀.now + g.totalWait ≤ w.now
  trace : ∀ t, g.trace = some t → w₀.now + spent t ≤ w.now

section
variable {c : Client} {p : PreparedRequest} {q : RetryPolicy} {g g' : Progress}
  {w₀ w w' : World} {o : Except Error Response}

theorem Kept.passed {ts : List Instant} (h : Kept w₀ g w) (hp : Passed ts [] w w') :
    Kept w₀ g w' where
  started := h.started
  waits := by
    obtain ⟨ds, hds, hsum⟩ := h.waits
    exact ⟨ds, by rw [hp.waits, hds, List.append_nil], hsum⟩
  totalWait := Nat.le_trans h.totalWait hp.now
  trace := fun t ht => Nat.le_trans (h.trace t ht) hp.now

/-- The time of a server is between the call and the answer, and nothing else is told of it. -/
theorem Kept.attempted {entry : Option AttemptTrace} {d : Draft} (h : Kept w₀ g w)
    (ha : Attempted c p g w o entry d w') : Kept w₀ (advanced g entry d) w' := by
  have hgated : Kept w₀ g (gated w) := ⟨h.started, h.waits, h.totalWait, h.trace⟩
  rcases attempted_cases ha with ⟨rfl, ⟨ts, hp⟩, -⟩ | ⟨x, hx, -, rfl, -, rfl⟩
  · have hkept := hgated.passed hp
    exact ⟨hkept.started, hkept.waits, hkept.totalWait, hkept.trace⟩
  · have hkept := hgated.passed hx.passed
    obtain ⟨hcalled, hanswered⟩ := hx.passed.during x.called.now (List.mem_singleton_self _)
    refine ⟨hkept.started, hkept.waits, hkept.totalWait, fun t ht => ?_⟩
    obtain ⟨t₀, ht₀, rfl⟩ := Option.map_eq_some_iff.mp ht
    have hbefore : w₀.now + spent t₀ ≤ (gated w).now := h.trace t₀ ht₀
    have hserver : x.answered.now - x.called.now + x.called.now = x.answered.now :=
      Nat.sub_add_cancel hanswered
    have hnow : (afterReport x.answered (Client.received x.result)).now = x.answered.now := rfl
    rw [spent_record, cost_attemptTrace, hnow]
    simp only [Span, Instant] at *
    omega

theorem Kept.pause (h : Kept w₀ g w) (hp : c.pause p q g o w = .ok (.ok g', w')) :
    Kept w₀ g' w' := by
  obtain ⟨d, w₁, -, hd, hs, -, rfl⟩ := pause_ok hp
  have hdrained : Passed [] [] w w₁ := drain_passed hd
  have hlasts : w₁.now + d ≤ w'.now := sleep_lasts hs
  have hkept := h.passed hdrained
  have htotal := hkept.totalWait
  refine ⟨h.started, ?_, ?_, fun t ht => ?_⟩
  · obtain ⟨ds, hds, hsum⟩ := hkept.waits
    rcases within_passed hs with ⟨-, i, hi⟩ | hslept
    · cases hi
    · refine ⟨ds ++ [d], ?_, ?_⟩
      · rw [((passed_wait w₁ d).trans hslept).waits, hds, List.append_assoc, List.append_nil]
      · rw [List.sum_append, hsum, List.sum_singleton]
  · simp only [Span, Instant] at *
    omega
  · obtain ⟨t₀, ht₀, rfl⟩ := Option.map_eq_some_iff.mp ht
    have hbefore := hkept.trace t₀ ht₀
    have hset := spent_setLastWait_le t₀ d
    simp only [Span, Instant] at *
    omega

theorem Kept.turn (h : Kept w₀ g w) (ht : turn c p g w = .ok (.inl g', w')) : Kept w₀ g' w' := by
  obtain ⟨q, o, entry, d, w₁, -, ha, hp⟩ := turn_next ht
  exact (h.attempted ha).pause hp

end

/-! ## Responses -/

/-- What a response tells of waits and of servers fits in the time that it tells. -/
structure Consistent (r : Response) : Prop where
  totalWait : r.totalWait ≤ r.elapsed
  trace : ∀ t, r.trace = some t → spent t ≤ t.totalTime

def account (r : Response) : Nat × Span × Span × Option Trace :=
  (r.attempts, r.elapsed, r.totalWait, r.trace)

/-- A hook changes no account. Where it puts another response in the place of the one that it was
given, this is one of those that it can have. -/
def HandsOn (Given : Response → Prop) (hook : Hook) : Prop :=
  ∀ slack seen r r' w w', (hook.onResponse seen r).runFreely slack w = .ok (.ok r', w') →
    account r' ≠ account r → Given r'

/-- The responses that there are. A reply makes one, some client hands one out at the end of a run,
and with all that can be done to it a response keeps its account. -/
inductive Issued : Response → Prop
  | reply (reply : Reply) : Issued (.ofReply reply)
  | sent {c : Client} {b : RequestBuilder} {w w' : World} {r : Response}
      (hh : ∀ hook ∈ c.hooks, HandsOn Issued hook) (h : c.send b w = .ok (.ok r, w')) : Issued r
  | used {r r' : Response} (h : Issued r) (ha : account r' = account r) : Issued r'

/-- Reading through a stretch of a body gives what was there before. -/
theorem runThrough_pass {α : Type} {b : Bounds} {a a' : α} {s : ByteStream} {w w' : World}
    (h : (Activity.pass (.done a) s).runThrough b w = .ok (a', w')) : a' = a := by
  induction s generalizing w with
  | nil =>
    cases h
    rfl
  | cons event rest ih =>
    cases event with
    | chunk bytes | failed e | taken n => exact ih h
    | pause d =>
      simp only [Activity.pass, Activity.runThrough] at h
      split at h <;> exact ih h

theorem handsOn_refuseErrors (Given : Response → Prop) : HandsOn Given Hook.refuseErrors := by
  intro slack seen r r' w w' h hne
  have hvalue := runThrough_pass h
  simp only [Response.errorForStatus] at hvalue
  split at hvalue
  · cases hvalue
  · cases hvalue
    exact absurd rfl hne

theorem Consistent.of_account {r r' : Response} (h : Consistent r) (ha : account r' = account r) :
    Consistent r' := by
  simp only [account, Prod.mk.injEq] at ha
  obtain ⟨-, helapsed, hwait, htrace⟩ := ha
  constructor
  · rw [hwait, helapsed]
    exact h.totalWait
  · rw [htrace]
    exact h.trace

theorem consistent_ofReply (reply : Reply) : Consistent (.ofReply reply) :=
  ⟨Nat.le_refl 0, fun _ ht => nomatch ht⟩

theorem responseHooks_consistent {slack : Nat} {hooks : List Hook}
    (hh : ∀ hook ∈ hooks, HandsOn Consistent hook) {i : Nat} {r r' : Response} {w w' : World}
    (hr : Consistent r) (h : Client.responseHooks slack i r hooks w = .ok (.ok r', w')) :
    Consistent r' := by
  induction hooks generalizing i r w with
  | nil =>
    cases h
    exact hr
  | cons hook hooks ih =>
    rw [responseHooks_cons] at h
    obtain ⟨⟨y, v⟩, hy, h⟩ := bind_eq_ok_iff.mp h
    cases y with
    | error e => cases h
    | ok r₁ =>
      have hr₁ : Consistent r₁ := by
        by_cases ha : account r₁ = account r
        · exact hr.of_account ha
        · exact hh hook List.mem_cons_self _ _ _ _ _ _ hy ha
      exact ih (fun hook hm => hh hook (List.mem_cons_of_mem _ hm)) hr₁ h

section
variable {c : Client} {p : PreparedRequest} {g : Progress} {w₀ w w' : World} {r : Response}

/-- When all attempts are over, a run tells the hooks of the waits that it made and of time that has
really passed, and what the hooks make of this response comes out. -/
structure Handed (c : Client) (w₀ : World) (r₁ r : Response) (w' : World) : Prop where
  consistent : Consistent r₁
  elapsed : w₀.now + r₁.elapsed ≤ w'.now
  waits : ∃ ds, Runs.waits w' = Runs.waits w₀ ++ ds ∧ ds.sum = r₁.totalWait
  totalTime : ∀ t, r₁.trace = some t → t.totalTime = r₁.elapsed ∧ t.totalWait = r₁.totalWait
  hooks : ∃ w, Client.responseHooks c.slack 0 r₁ c.hooks w = .ok (.ok r, w')

theorem Kept.finish (h : Kept w₀ g w) {o : Except Error Response}
    (hf : c.finish g o w = .ok (.ok r, w')) : ∃ r₁, Handed c w₀ r₁ r w' := by
  cases o with
  | error e => cases hf
  | ok r₀ =>
    have hpassed := finish_passed hf
    have hnow : w.now - g.started + w₀.now = w.now := by
      rw [h.started]
      exact Nat.sub_add_cancel (Nat.le_trans (Nat.le_add_right _ _) h.totalWait)
    have htotal := h.totalWait
    have hend : w.now ≤ w'.now := hpassed.now
    refine ⟨_, ⟨?_, ?_⟩, ?_, ?_, ?_, w, hf⟩
    · simp only [Span, Instant] at *
      omega
    · intro t ht
      obtain ⟨t₀, ht₀, rfl⟩ := Option.map_eq_some_iff.mp ht
      have hspent : w₀.now + spent t₀ ≤ w.now := h.trace t₀ ht₀
      change spent t₀ ≤ w.now - g.started
      simp only [Span, Instant] at *
      omega
    · simp only [Span, Instant] at *
      omega
    · obtain ⟨ds, hds, hsum⟩ := h.waits
      exact ⟨ds, by rw [hpassed.waits, hds, List.append_nil], hsum⟩
    · intro t ht
      obtain ⟨t₀, -, rfl⟩ := Option.map_eq_some_iff.mp ht
      exact ⟨rfl, rfl⟩

theorem Kept.ends (h : Kept w₀ g w) (ht : Turns.turn c p g w = .ok (.inr (.ok r), w')) :
    ∃ r₁, Handed c w₀ r₁ r w' := by
  obtain ⟨o, entry, d, w₁, ha, hf⟩ := turn_response ht
  exact (h.attempted ha).finish hf

/-- What is kept at every turn of a run is what its response tells in the end. -/
theorem Kept.loop {heads : List (Progress × World)}
    {y : Except Halt (Except Error Response × World)} (hl : Loop c p heads g w y)
    (hy : y = .ok (.ok r, w')) (h : Kept w₀ g w) : ∃ r₁, Handed c w₀ r₁ r w' := by
  induction hl with
  | ends ht =>
    cases hy
    exact h.ends ht
  | halts ht => cases hy
  | goesOn ht hl ih => exact ih hy (h.turn ht)

theorem kept_start (c : Client) (p : PreparedRequest) (w : World) :
    Kept w (c.start p (begun p w)) (begun p w) where
  started := rfl
  waits := ⟨[], (List.append_nil _).symm, rfl⟩
  totalWait := Nat.le_refl _
  trace := fun t ht => by
    simp only [Client.start, Option.ite_none_right_eq_some, Option.some.injEq] at ht
    obtain ⟨-, rfl⟩ := ht
    exact Nat.le_refl _

theorem send_handed {b : RequestBuilder} (h : c.send b w = .ok (.ok r, w')) :
    ∃ r₁, Handed c w r₁ r w' := by
  cases hp : b.prepare c with
  | error e =>
    simp only [Client.send, hp] at h
    cases h
  | ok p =>
    obtain ⟨heads, hl⟩ := loop_send hp w
    exact (kept_start c p w).loop hl h

end

theorem Issued.consistent {r : Response} (h : Issued r) : Consistent r := by
  induction h with
  | reply reply => exact consistent_ofReply reply
  | used h ha ih => exact ih.of_account ha
  | sent hh h ih =>
    obtain ⟨r₁, hr₁⟩ := send_handed h
    obtain ⟨v, hhooks⟩ := hr₁.hooks
    exact responseHooks_consistent ih hr₁.consistent hhooks

/-- The response of a run has not waited longer than the run took. With a trace, the times of the
servers and the waits of all its entries add up to no more than the total time. So it is whatever
the hooks make of the response, which they are given with the waits and the time of this run. -/
theorem send_consistent {c : Client} {b : RequestBuilder} {w w' : World} {r : Response}
    (hh : ∀ hook ∈ c.hooks, HandsOn Issued hook) (h : c.send b w = .ok (.ok r, w')) :
    r.totalWait ≤ r.elapsed ∧
    (∀ t, r.trace = some t →
      (t.attempts.map fun a => a.serverTime + a.wait).sum ≤ t.totalTime) ∧
    ∃ r₁, Handed c w r₁ r w' := by
  have hconsistent : Consistent r := Issued.consistent (.sent hh h)
  refine ⟨hconsistent.totalWait, hconsistent.trace, ?_⟩
  exact send_handed h

/-- A client whose hook takes its time with a request and refuses responses that tell an error. The
server is away at the first call, and its answer comes slowly. -/
def unhurried : Client where
  config := { retry := some (.constant 3 50) }
  transport n _ := .sleep 7 (.done (.ok {
    status := if n = 0 then away else .ok
    body := [.taken n, .pause 20, .chunk ⟨#[n.toUInt8]⟩] }))
  hooks := [{ Hook.refuseErrors with beforeRequest := fun _ _ => .stall 4 (.done ()) }]
  slack := 9

/-- Timers that go off at multiples of ten make a call of seven take sixteen. -/
theorem unhurried_consistent : ∃ r w' t, unhurried.send traced {} = .ok (.ok r, w') ∧
    r.trace = some t ∧ t.attempts.map (fun a => (a.serverTime, a.wait)) = [(16, 50), (16, 0)] ∧
    t.totalTime = 110 ∧ r.totalWait ≤ r.elapsed ∧
    (t.attempts.map fun a => a.serverTime + a.wait).sum ≤ t.totalTime := by
  have hsent : ((unhurried.send traced {}).toOption.bind fun y => y.1.toOption.bind fun r =>
      r.trace.map fun t => (t.attempts.map (fun a => (a.serverTime, a.wait)), t.totalTime)) =
        some ([(16, 50), (16, 0)], 110) := by decide +kernel
  obtain ⟨⟨y, w'⟩, hsend, hy⟩ := Option.bind_eq_some_iff.mp hsent
  rw [toOption_eq_some_iff] at hsend
  cases y with
  | error e => cases hy
  | ok r =>
    obtain ⟨t, ht, he⟩ := Option.map_eq_some_iff.mp hy
    have hhooks : ∀ hook ∈ unhurried.hooks, HandsOn Issued hook := by
      intro hook hmem
      cases List.mem_singleton.mp hmem
      exact handsOn_refuseErrors Issued
    obtain ⟨hwait, htrace, -⟩ := send_consistent hhooks hsend
    obtain ⟨hentries, htime⟩ := Prod.mk.inj he
    exact ⟨r, w', t, hsend, ht, hentries, htime, hwait, htrace t ht⟩

end ResilientHttp.TimeAccounts
