import ResilientHttp.Proofs.Building

/-!
# The loop of attempts, turn by turn

Every attempt ends in one of six ways. A turn of the loop is an attempt and what its outcome calls
for; the loop of turns knows no bound but the policy's own, and it comes to the same as counting down
the attempts that are left.
-/
namespace ResilientHttp.Turns
open Building Runs

/-- The world after the breaker was told what a transport call gave. -/
def afterReport (w : World) (o : Except Error Response) : World :=
  { w with breaker := w.breaker.map (·.execute w.now o.toOption (errorOf? o)) }

/-- How an attempt goes from one world to another: its outcome, its entry in the trace if the
transport had its say, and the draft for the attempts after it. -/
inductive Attempted (c : Client) (p : PreparedRequest) (g : Progress) (w : World) :
    Except Error Response → Option AttemptTrace → Draft → World → Prop
  | refused {e : Error} {w₁ : World} (hg : Client.gate w = .ok (.error e, w₁)) :
      Attempted c p g w (.error e) none g.draft w₁
  | unbuilt {e : Error} {d : Draft} {w₁ w₂ : World} (hg : Client.gate w = .ok (.ok (), w₁))
      (hb : g.draft.build (g.attempt + 1) w₁ = .ok ((.error e, d), w₂)) :
      Attempted c p g w (.error e) none d w₂
  | hooked {r : Request} {e : Error} {d : Draft} {w₁ w₂ w₃ : World}
      (hg : Client.gate w = .ok (.ok (), w₁))
      (hb : g.draft.build (g.attempt + 1) w₁ = .ok ((.ok r, d), w₂))
      (hh : Client.requestHooks p.bounds 0 r c.hooks w₂ = .ok (.error e, w₃)) :
      Attempted c p g w (.error e) none d w₃
  | interrupted {r r' : Request} {e : Error} {d : Draft} {w₁ w₂ w₃ w₄ : World}
      (hg : Client.gate w = .ok (.ok (), w₁))
      (hb : g.draft.build (g.attempt + 1) w₁ = .ok ((.ok r, d), w₂))
      (hh : Client.requestHooks p.bounds 0 r c.hooks w₂ = .ok (.ok r', w₃))
      (hc : c.call p.bounds r' w₃ = .ok (.error e, w₄)) :
      Attempted c p g w (.error e) none d w₄
  | late {r r' : Request} {e : TransportError} {d : Draft} {w₁ w₂ w₃ w₄ : World}
      (hg : Client.gate w = .ok (.ok (), w₁))
      (hb : g.draft.build (g.attempt + 1) w₁ = .ok ((.ok r, d), w₂))
      (hh : Client.requestHooks p.bounds 0 r c.hooks w₂ = .ok (.ok r', w₃))
      (hc : c.call p.bounds r' w₃ = .ok (.ok (.error e), w₄))
      (hd : p.bounds.isPastDeadline w₄.now = true) :
      Attempted c p g w (.error .deadlineExceeded) none d w₄
  | answered {r r' : Request} {result : Except TransportError Reply} {d : Draft}
      {w₁ w₂ w₃ w₄ : World} (hg : Client.gate w = .ok (.ok (), w₁))
      (hb : g.draft.build (g.attempt + 1) w₁ = .ok ((.ok r, d), w₂))
      (hh : Client.requestHooks p.bounds 0 r c.hooks w₂ = .ok (.ok r', w₃))
      (hc : c.call p.bounds r' w₃ = .ok (.ok result, w₄))
      (hd : result.isOk = true ∨ p.bounds.isPastDeadline w₄.now = false) :
      Attempted c p g w (c.outcome result)
        (some (Client.attemptTrace (g.attempt + 1) (w₄.now - w₃.now) (Client.received result)))
        d (afterReport w₄ (Client.received result))

/-- The progress after an attempt, given its entry in the trace and what is left of the draft. -/
def advanced (g : Progress) (entry : Option AttemptTrace) (d : Draft) : Progress :=
  { g with
    draft := d
    attempt := g.attempt + 1
    trace := match entry with
      | none => g.trace
      | some a => g.trace.map (·.record a) }

theorem exchange_cases {c : Client} {p : PreparedRequest} {g g' : Progress} {r : Request}
    {w w' : World} {o : Except Error Response} (h : c.exchange p g r w = .ok ((o, g'), w')) :
    (∃ e, c.call p.bounds r w = .ok (.error e, w') ∧ o = .error e ∧ g' = g) ∨
    (∃ e, c.call p.bounds r w = .ok (.ok (.error e), w') ∧ p.bounds.isPastDeadline w'.now = true ∧
      o = .error .deadlineExceeded ∧ g' = g) ∨
    ∃ result w₁, c.call p.bounds r w = .ok (.ok result, w₁) ∧
      (result.isOk = true ∨ p.bounds.isPastDeadline w₁.now = false) ∧ o = c.outcome result ∧
      w' = afterReport w₁ (Client.received result) ∧
      g' = { g with trace := g.trace.map (·.record
        (Client.attemptTrace g.attempt (w₁.now - w.now) (Client.received result))) } := by
  obtain ⟨_, _, hw, h⟩ := of_bind h
  cases hw
  obtain ⟨x, w₁, hc, h⟩ := of_bind h
  cases x with
  | error e =>
    cases h
    exact .inl ⟨e, hc, rfl, rfl⟩
  | ok result =>
    simp only [bind_eq, get_eq, bind_ok] at h
    cases hd : !result.isOk && p.bounds.isPastDeadline w₁.now with
    | true =>
      rw [if_pos hd] at h
      cases h
      cases result with
      | error e => exact .inr (.inl ⟨e, hc, by simpa [Except.isOk, Except.toBool] using hd, rfl, rfl⟩)
      | ok reply => simp [Except.isOk, Except.toBool] at hd
    | false =>
      rw [if_neg (by simp [hd])] at h
      cases h
      refine .inr (.inr ⟨result, w₁, hc, ?_, rfl, rfl, rfl⟩)
      cases hr : result.isOk <;> simp_all

/-- There is no other way for an attempt to go. -/
theorem attempt_cases {c : Client} {p : PreparedRequest} {g g' : Progress} {w w' : World}
    {o : Except Error Response} (h : c.attempt p g w = .ok ((o, g'), w')) :
    ∃ entry d, Attempted c p g w o entry d w' ∧ g' = advanced g entry d := by
  obtain ⟨x, w₁, hg, h⟩ := of_bind h
  cases x with
  | error e =>
    cases h
    exact ⟨none, _, .refused hg, rfl⟩
  | ok u =>
    dsimp only at h
    obtain ⟨⟨built, d⟩, w₂, hb, h⟩ := of_bind h
    cases built with
    | error e =>
      cases h
      exact ⟨none, _, .unbuilt hg hb, rfl⟩
    | ok r =>
      obtain ⟨y, w₃, hh, h⟩ := of_bind h
      cases y with
      | error e =>
        cases h
        exact ⟨none, _, .hooked hg hb hh, rfl⟩
      | ok r' =>
        rcases exchange_cases h with ⟨e, hc, rfl, rfl⟩ | ⟨e, hc, hd, rfl, rfl⟩ |
          ⟨result, w₄, hc, hd, rfl, rfl, rfl⟩
        · exact ⟨none, _, .interrupted hg hb hh hc, rfl⟩
        · exact ⟨none, _, .late hg hb hh hc hd, rfl⟩
        · exact ⟨some _, _, .answered hg hb hh hc hd, rfl⟩

/-! What is told of calls and waits on the way. -/

theorem gate_history {w w' : World} {x : Except Error Unit} (h : Client.gate w = .ok (x, w')) :
    w'.history = w.history := by
  simp only [Client.gate] at h
  split at h
  · cases h
    rfl
  · split at h <;> cases h <;> rfl

theorem gate_callTimes {w w' : World} {x : Except Error Unit}
    (h : Client.gate w = .ok (x, w')) : callTimes w' = callTimes w := by
  simp only [callTimes, told, gate_history h]

theorem requestHooks_cons (b : Bounds) (i : Nat) (r : Request) (hook : Hook) (hooks : List Hook)
    (w : World) :
    Client.requestHooks b i r (hook :: hooks) w =
      ((hook.beforeRequest (w.requestsSeen i) r).runThrough b (w.note (.requestHook i))).bind
        fun y =>
          match hook.onRequest (w.requestsSeen i) r with
          | .ok r' => Client.requestHooks b (i + 1) r' hooks y.2
          | .error e => .ok (.error e, y.2) := by
  simp only [Client.requestHooks, bind_eq, get_eq, note_eq, bind_ok]
  cases hook.onRequest (w.requestsSeen i) r <;> rfl

theorem responseHooks_cons (slack i : Nat) (r : Response) (hook : Hook) (hooks : List Hook)
    (w : World) :
    Client.responseHooks slack i r (hook :: hooks) w =
      ((hook.onResponse (w.responsesSeen i) r).runFreely slack
        (w.note (.responseHook i r.attempts r.totalWait))).bind fun y =>
          match y.1 with
          | .ok r' => Client.responseHooks slack (i + 1) r' hooks y.2
          | .error e => .ok (.error e, y.2) := by
  simp only [Client.responseHooks, bind_eq, get_eq, note_eq, bind_ok]
  refine bind_congr fun y _ => ?_
  cases y.1 <;> rfl

theorem requestHooks_adds {b : Bounds} {hooks : List Hook} {i : Nat} {r : Request} {w w' : World}
    {x : Except Error Request} (h : Client.requestHooks b i r hooks w = .ok (x, w')) :
    Adds IsAside w w' := by
  induction hooks generalizing i r w with
  | nil =>
    cases h
    exact .refl _
  | cons hook hooks ih =>
    rw [requestHooks_cons] at h
    obtain ⟨⟨u, w₁⟩, hb, h⟩ := bind_eq_ok_iff.mp h
    refine .note (e := .requestHook i) trivial ?_
    refine ((runThrough_adds hb).mono fun _ => IsTaken.aside).trans ?_
    split at h
    · exact ih h
    · cases h
      exact .refl _

theorem responseHooks_adds {slack : Nat} {hooks : List Hook} {i : Nat} {r : Response}
    {w w' : World} {x : Except Error Response}
    (h : Client.responseHooks slack i r hooks w = .ok (x, w')) : Adds IsAside w w' := by
  induction hooks generalizing i r w with
  | nil =>
    cases h
    exact .refl _
  | cons hook hooks ih =>
    rw [responseHooks_cons] at h
    refine .note (e := .responseHook i r.attempts r.totalWait) trivial ?_
    obtain ⟨⟨y, w₁⟩, hy, h⟩ := bind_eq_ok_iff.mp h
    refine ((runThrough_adds hy).mono fun _ => IsTaken.aside).trans ?_
    cases y with
    | ok r => exact ih h
    | error e =>
      cases h
      exact .refl _

theorem finish_adds {c : Client} {g : Progress} {o x : Except Error Response} {w w' : World}
    (h : c.finish g o w = .ok (x, w')) : Adds IsAside w w' := by
  cases o with
  | error e =>
    cases h
    exact .refl w
  | ok r => exact responseHooks_adds h

theorem call_callTimes {c : Client} {b : Bounds} {r : Request} {w w' : World}
    {x : Except Error (Except TransportError Reply)} (h : c.call b r w = .ok (x, w')) :
    callTimes w' = callTimes w ∨ callTimes w' = callTimes w ++ [w.now] := by
  rcases within_cases h with rfl | ha
  · exact .inl rfl
  · rw [(ha.mono fun _ => IsTaken.aside).callTimes]
    exact .inr (told_note _ w (.call r))

theorem afterReport_callTimes (w : World) (o : Except Error Response) :
    callTimes (afterReport w o) = callTimes w := rfl

theorem drain_adds {p : PreparedRequest} {o : Except Error Response} {w w' : World}
    {x : Except Error Unit} (h : Client.drain p o w = .ok (x, w')) : Adds IsAside w w' := by
  cases o with
  | error e =>
    cases h
    exact .refl w
  | ok r =>
    rcases within_cases h with rfl | ha
    · exact .refl _
    · exact .note (e := .drain) trivial (ha.mono fun _ => IsTaken.aside)

theorem add_ok {d d' total : Span} {w w' : World} (h : Run.add d d' w = .ok (total, w')) :
    (d + d' ≤ Span.longest ∧ total = d + d') ∧ w' = w := by
  simp only [Run.add] at h
  split at h
  · cases h
    exact ⟨⟨‹_›, rfl⟩, rfl⟩
  · cases h

/-- Asking for a wait moves the backoff on and leaves the rest of the progress. -/
theorem nextWait_keeps (c : Client) (q : RetryPolicy) (g : Progress) (now : Instant)
    (o : Except Error Response) :
    (c.nextWait q g now o).2 = { g with backoff := (c.nextWait q g now o).2.backoff } := by
  simp only [Client.nextWait]
  cases g.backoff <;> rfl

/-- How a pause goes from one world to another. It can be cut short when the response is read on and
in the wait; if it is not, the backoff has moved on, and the wait is told by the total and the
trace. -/
inductive Paused (c : Client) (p : PreparedRequest) (q : RetryPolicy) (g : Progress)
    (o : Except Error Response) (w : World) : Except Error Progress → World → Prop
  | undrained {e : Error} {w₁ : World} (hd : Client.drain p o w = .ok (.error e, w₁)) :
      Paused c p q g o w (.error e) w₁
  | cut {d : Span} {e : Error} {w₁ w₂ : World} (hwait : d = (c.nextWait q g w.now o).1)
      (hd : Client.drain p o w = .ok (.ok (), w₁))
      (hs : Run.within p.bounds (.wait d) (.sleep d (.done ())) w₁ = .ok (.error e, w₂)) :
      Paused c p q g o w (.error e) w₂
  | rested {d : Span} {w₁ w₂ : World} (hwait : d = (c.nextWait q g w.now o).1)
      (hd : Client.drain p o w = .ok (.ok (), w₁))
      (hs : Run.within p.bounds (.wait d) (.sleep d (.done ())) w₁ = .ok (.ok (), w₂))
      (hfits : g.totalWait + d ≤ Span.longest) :
      Paused c p q g o w
        (.ok { g with
          backoff := (c.nextWait q g w.now o).2.backoff
          totalWait := g.totalWait + d
          trace := g.trace.map (·.setLastWait d) }) w₂

theorem paused_of_pause {c : Client} {p : PreparedRequest} {q : RetryPolicy} {g : Progress}
    {o : Except Error Response} {w w' : World} {x : Except Error Progress}
    (h : c.pause p q g o w = .ok (x, w')) : Paused c p q g o w x w' := by
  simp only [Client.pause, bind_eq, get_eq, bind_ok, bind_eq_ok_iff] at h
  obtain ⟨⟨y, w₁⟩, hd, h⟩ := h
  cases y with
  | error e =>
    cases h
    exact .undrained hd
  | ok u =>
    simp only [bind_eq, bind_eq_ok_iff] at h
    obtain ⟨⟨z, w₂⟩, hs, h⟩ := h
    cases z with
    | error e =>
      cases h
      exact .cut rfl hd hs
    | ok u =>
      simp only [bind_eq, bind_eq_ok_iff] at h
      obtain ⟨⟨total, w₃⟩, ha, h⟩ := h
      obtain ⟨⟨hfits, rfl⟩, rfl⟩ := add_ok ha
      rw [nextWait_keeps] at hfits h
      cases h
      exact .rested rfl hd hs hfits

theorem pause_adds {c : Client} {p : PreparedRequest} {q : RetryPolicy} {g : Progress}
    {o : Except Error Response} {w w' : World} {x : Except Error Progress}
    (h : c.pause p q g o w = .ok (x, w')) : Adds IsAfter w w' := by
  have hdrain {y : Except Error Unit} {w₁ : World} (hd : Client.drain p o w = .ok (y, w₁)) :
      Adds IsAfter w w₁ := (drain_adds hd).mono fun _ => IsAside.after
  cases paused_of_pause h with
  | undrained hd => exact hdrain hd
  | cut _ hd hs | rested _ hd hs =>
    rcases within_cases hs with rfl | ha
    · exact hdrain hd
    · exact (hdrain hd).trans
        (.note (e := .wait _) trivial (ha.mono fun _ he => he.aside.after))

section
variable {c : Client} {p : PreparedRequest} {g : Progress} {w w' : World} {o : Except Error Response}
  {entry : Option AttemptTrace} {d : Draft}

/-- The draft of the next attempt has at most another body. -/
theorem Attempted.draft (h : Attempted c p g w o entry d w') :
    d = g.draft ∨ d = left g.draft (g.attempt + 1) := by
  cases h with
  | refused hg => exact .inl rfl
  | unbuilt hg hb | hooked hg hb | interrupted hg hb | late hg hb | answered hg hb =>
    exact .inr (of_build hb).2.1

theorem Attempted.isReplayable (h : Attempted c p g w o entry d w') :
    d.body.isReplayable = g.draft.body.isReplayable := by
  rcases h.draft with rfl | rfl
  · rfl
  · exact isReplayable_bodyLeft

theorem build_callTimes {n : Nat} {x : Except Error Request} {d d' : Draft}
    (h : d.build n w = .ok ((x, d'), w')) : Runs.callTimes w' = Runs.callTimes w := by
  obtain ⟨-, -, rfl⟩ := of_build h
  exact opened_callTimes

theorem Attempted.callTimes (h : Attempted c p g w o entry d w') :
    callTimes w' = callTimes w ∨ ∃ t, Runs.callTimes w' = Runs.callTimes w ++ [t] := by
  have hcall {x : Except Error (Except TransportError Reply)} {r' : Request} {w₁ w₂ w₃ w₄ : World}
      (h₁ : Runs.callTimes w₂ = Runs.callTimes w₁) (hg : Runs.callTimes w₁ = Runs.callTimes w)
      (h₂ : Adds IsAside w₂ w₃) (hc : c.call p.bounds r' w₃ = .ok (x, w₄)) :
      Runs.callTimes w₄ = Runs.callTimes w ∨
        ∃ t, Runs.callTimes w₄ = Runs.callTimes w ++ [t] := by
    rw [← hg, ← h₁, ← h₂.callTimes]
    exact (call_callTimes hc).imp_right fun h => ⟨_, h⟩
  cases h with
  | refused hg => exact .inl (gate_callTimes hg)
  | unbuilt hg hb => exact .inl ((build_callTimes hb).trans (gate_callTimes hg))
  | hooked hg hb hh =>
    exact .inl ((requestHooks_adds hh).callTimes.trans
      ((build_callTimes hb).trans (gate_callTimes hg)))
  | interrupted hg hb hh hc | late hg hb hh hc =>
    exact hcall (build_callTimes hb) (gate_callTimes hg) (requestHooks_adds hh) hc
  | answered hg hb hh hc =>
    rw [afterReport_callTimes]
    exact hcall (build_callTimes hb) (gate_callTimes hg) (requestHooks_adds hh) hc

/-- A request whose body cannot be had again is not sent again. -/
theorem Attempted.callTimes_of_not_replayable (h : Attempted c p g w o entry d w')
    (hr : g.draft.body.isReplayable = false) (hn : 0 < g.attempt) :
    Runs.callTimes w' = Runs.callTimes w := by
  cases h with
  | refused hg => exact gate_callTimes hg
  | unbuilt hg hb => exact (build_callTimes hb).trans (gate_callTimes hg)
  | hooked hg hb | interrupted hg hb | late hg hb | answered hg hb =>
    cases (build_of_not_replayable hr (Nat.succ_lt_succ hn) _).symm.trans hb

end

def limit : Option RetryPolicy → Nat
  | none => 1
  | some q => max 1 q.maxAttempts

/-- What an outcome calls for. -/
inductive Move
  /-- It is handed on. -/
  | finish
  /-- It is turned into the failure of the last attempt. -/
  | exhaust
  /-- Another attempt follows. -/
  | again (q : RetryPolicy)

def moveAfter (p : PreparedRequest) (attempt : Nat) (o : Except Error Response) : Move :=
  match p.policy with
  | none => .finish
  | some q =>
    if !q.isRetryable o.toOption (errorOf? o) p.method.isIdempotent then .finish
    else if attempt < limit (some q) then .again q
    else if q.exhaustion = .fail then .exhaust
    else .finish

/-- Does what an outcome calls for. There is a result in the end, or the loop goes on from the
progress so far. -/
def settle (c : Client) (p : PreparedRequest) (g : Progress) (o : Except Error Response) :
    Run (Progress ⊕ Except Error Response) := do
  match moveAfter p g.attempt o with
  | .finish => return .inr (← c.finish g o)
  | .exhaust => return .inr (.error (Client.exhausted g o))
  | .again q =>
    match ← c.pause p q g o with
    | .error e => return .inr (.error e)
    | .ok g => return .inl g

def turn (c : Client) (p : PreparedRequest) (g : Progress) :
    Run (Progress ⊕ Except Error Response) := do
  let (o, g) ← c.attempt p g
  settle c p g o

/-- The loop that makes turns for as long as they lead to another one, with the progress and the
world at the beginning of each turn. It comes to nothing if a turn does. -/
inductive Loop (c : Client) (p : PreparedRequest) :
    List (Progress × World) → Progress → World → Except Halt (Except Error Response × World) → Prop
  | ends {g : Progress} {w w' : World} {x : Except Error Response}
      (h : turn c p g w = .ok (.inr x, w')) : Loop c p [(g, w)] g w (.ok (x, w'))
  | halts {g : Progress} {w : World} {e : Halt} (h : turn c p g w = .error e) :
      Loop c p [(g, w)] g w (.error e)
  | goesOn {g g' : Progress} {w w' : World} {heads : List (Progress × World)}
      {y : Except Halt (Except Error Response × World)} (h : turn c p g w = .ok (.inl g', w'))
      (hl : Loop c p heads g' w' y) : Loop c p ((g, w) :: heads) g w y

section
variable {c : Client} {p : PreparedRequest} {q : RetryPolicy} {g g' : Progress} {w w' : World}
  {o : Except Error Response}

theorem pause_keeps (h : c.pause p q g o w = .ok (.ok g', w')) :
    g'.attempt = g.attempt ∧ g'.draft = g.draft := by
  cases paused_of_pause h with
  | rested => exact ⟨rfl, rfl⟩

theorem turn_eq (w : World) :
    turn c p g w = (c.attempt p g w).bind fun y => settle c p y.1.2 y.1.1 y.2 := rfl

theorem settle_finish (h : moveAfter p g.attempt o = .finish) (w : World) :
    settle c p g o w = (c.finish g o w).map fun y => (.inr y.1, y.2) := by
  simp only [settle, h, bind_pure_eq]

theorem settle_exhaust (h : moveAfter p g.attempt o = .exhaust) (w : World) :
    settle c p g o w = .ok (.inr (.error (Client.exhausted g o)), w) := by
  simp only [settle, h]
  rfl

theorem settle_again (h : moveAfter p g.attempt o = .again q) (w : World) :
    settle c p g o w = (c.pause p q g o w).map fun y =>
      (match y.1 with
        | .error e => .inr (.error e)
        | .ok g => .inl g, y.2) := by
  simp only [settle, h, bind_eq]
  cases c.pause p q g o w with
  | error e => rfl
  | ok y =>
    obtain ⟨x, w₁⟩ := y
    cases x <;> rfl

theorem moveAfter_of_stop {n : Nat} (hq : p.policy = some q)
    (hr : q.isRetryable o.toOption (errorOf? o) p.method.isIdempotent = false) :
    moveAfter p n o = .finish := by
  simp [moveAfter, hq, hr]

theorem moveAfter_of_lt {n : Nat} (hq : p.policy = some q)
    (hr : q.isRetryable o.toOption (errorOf? o) p.method.isIdempotent = true)
    (hn : n < limit (some q)) : moveAfter p n o = .again q := by
  simp [moveAfter, hq, hr, hn]

theorem moveAfter_of_limit_le {n : Nat} (hq : p.policy = some q)
    (hr : q.isRetryable o.toOption (errorOf? o) p.method.isIdempotent = true)
    (hn : limit (some q) ≤ n) :
    moveAfter p n o = if q.exhaustion = .fail then .exhaust else .finish := by
  simp [moveAfter, hq, hr, Nat.not_lt.mpr hn]

theorem moveAfter_again {n : Nat} (h : moveAfter p n o = .again q) :
    p.policy = some q ∧ n < limit p.policy := by
  simp only [moveAfter] at h
  split at h
  · cases h
  · rename_i r hr
    split at h
    · cases h
    · split at h
      · rename_i hn
        cases h
        exact ⟨hr, by rwa [hr]⟩
      · split at h <;> cases h

/-- The loop goes on only through a pause. -/
theorem pause_of_settle_inl (h : settle c p g o w = .ok (.inl g', w')) :
    ∃ q, moveAfter p g.attempt o = .again q ∧ c.pause p q g o w = .ok (.ok g', w') := by
  cases hm : moveAfter p g.attempt o with
  | finish =>
    rw [settle_finish hm, map_eq_ok_iff] at h
    obtain ⟨y, -, h⟩ := h
    cases h
  | exhaust =>
    rw [settle_exhaust hm] at h
    cases h
  | again q =>
    rw [settle_again hm, map_eq_ok_iff] at h
    obtain ⟨⟨x, w₁⟩, hp, h⟩ := h
    cases x with
    | error e => cases h
    | ok g₁ =>
      cases h
      exact ⟨q, rfl, hp⟩

theorem settle_inl (h : settle c p g o w = .ok (.inl g', w')) :
    g.attempt < limit p.policy ∧ g'.attempt = g.attempt ∧ g'.draft = g.draft := by
  obtain ⟨q, hm, hp⟩ := pause_of_settle_inl h
  exact ⟨(moveAfter_again hm).2, pause_keeps hp⟩

/-- After an attempt nothing is opened and nothing is sent before the next one. -/
theorem settle_adds {x : Progress ⊕ Except Error Response}
    (h : settle c p g o w = .ok (x, w')) : Adds IsAfter w w' := by
  cases hc : moveAfter p g.attempt o with
  | finish =>
    rw [settle_finish hc, map_eq_ok_iff] at h
    obtain ⟨y, hy, h⟩ := h
    cases h
    exact (finish_adds hy).mono fun _ => IsAside.after
  | exhaust =>
    rw [settle_exhaust hc] at h
    cases h
    exact .refl _
  | again q =>
    rw [settle_again hc, map_eq_ok_iff] at h
    obtain ⟨y, hy, h⟩ := h
    cases h
    exact pause_adds hy

/-- A turn is an attempt and what its outcome calls for. -/
theorem turn_cases {x : Progress ⊕ Except Error Response} (h : turn c p g w = .ok (x, w')) :
    ∃ o entry d w₁, Attempted c p g w o entry d w₁ ∧
      settle c p (advanced g entry d) o w₁ = .ok (x, w') := by
  obtain ⟨⟨o, g₁⟩, w₁, ha, hs⟩ := of_bind h
  obtain ⟨entry, d, hn, rfl⟩ := attempt_cases ha
  exact ⟨o, entry, d, w₁, hn, hs⟩

/-- The loop goes on with the next attempt, which the policy permits. -/
theorem turn_inl (h : turn c p g w = .ok (.inl g', w')) :
    g.attempt + 1 < limit p.policy ∧ g'.attempt = g.attempt + 1 := by
  obtain ⟨o, entry, d, w₁, -, hs⟩ := turn_cases h
  obtain ⟨hlt, ha, -⟩ := settle_inl hs
  exact ⟨hlt, ha⟩

theorem turn_calls_le {x : Progress ⊕ Except Error Response} (h : turn c p g w = .ok (x, w')) :
    w'.calls ≤ w.calls + 1 := by
  obtain ⟨o, entry, d, w₁, ha, hs⟩ := turn_cases h
  rw [calls_eq_length, calls_eq_length, (settle_adds hs).callTimes]
  rcases ha.callTimes with hn | ⟨t, ht⟩
  · rw [hn]
    exact Nat.le_succ _
  · rw [ht, List.length_append]
    exact Nat.le_refl _

theorem turn_calls_eq_of_not_replayable {x : Progress ⊕ Except Error Response}
    (h : turn c p g w = .ok (x, w')) (hr : g.draft.body.isReplayable = false)
    (hn : 0 < g.attempt) : w'.calls = w.calls := by
  obtain ⟨o, entry, d, w₁, ha, hs⟩ := turn_cases h
  rw [calls_eq_length, calls_eq_length, (settle_adds hs).callTimes,
    ha.callTimes_of_not_replayable hr hn]

def onwards (c : Client) (p : PreparedRequest) (q : RetryPolicy) (more : Nat) :
    (Progress ⊕ Except Error Response) × World → Except Halt (Except Error Response × World)
  | (.inr x, w) => .ok (x, w)
  | (.inl g, w) => c.attempts p q more g w

theorem finish_onwards (more : Nat) (w : World) :
    ((c.finish g o w).map fun y => (.inr y.1, y.2)).bind (onwards c p q more) =
      c.finish g o w := by
  cases c.finish g o w <;> rfl

/-- Counting down the attempts that are left, one turn at a time. -/
theorem attempts_eq (hq : p.policy = some q) {more : Nat}
    (hm : g.attempt + 1 + more = limit p.policy) (w : World) :
    c.attempts p q more g w = (turn c p g w).bind (onwards c p q (more - 1)) := by
  rw [turn_eq, Client.attempts.eq_def]
  dsimp only
  rw [bind_eq]
  cases ha : c.attempt p g w with
  | error e => rfl
  | ok y =>
    obtain ⟨⟨o, g₁⟩, w₁⟩ := y
    have hg : g₁.attempt = g.attempt + 1 := by
      obtain ⟨entry, d, -, rfl⟩ := attempt_cases ha
      rfl
    rw [hq, ← hg] at hm
    dsimp only [bind_ok]
    cases hr : q.isRetryable o.toOption (errorOf? o) p.method.isIdempotent with
    | false =>
      rw [settle_finish (moveAfter_of_stop hq hr), finish_onwards]
      cases more <;> rfl
    | true =>
      cases more with
      | zero =>
        have hmove := moveAfter_of_limit_le hq hr (Nat.le_of_eq hm.symm)
        cases he : q.exhaustion with
        | fail =>
          rw [he, if_pos rfl] at hmove
          rw [settle_exhaust hmove]
          rfl
        | returnLastOutcome =>
          rw [he, if_neg (by decide)] at hmove
          rw [settle_finish hmove, finish_onwards]
          rfl
      | succ more =>
        have hn : g₁.attempt < limit (some q) := by omega
        rw [settle_again (moveAfter_of_lt hq hr hn)]
        simp only [Bool.not_true, Bool.false_eq_true, if_false, bind_eq]
        cases c.pause p q g₁ o w₁ with
        | error e => rfl
        | ok y =>
          obtain ⟨x, w₂⟩ := y
          cases x <;> rfl

theorem loop_onwards {more : Nat}
    (h : ∀ g' w', turn c p g w = .ok (.inl g', w') →
      ∃ heads, Loop c p heads g' w' (c.attempts p q more g' w')) :
    ∃ heads, Loop c p heads g w ((turn c p g w).bind (onwards c p q more)) := by
  cases ht : turn c p g w with
  | error e => exact ⟨_, .halts ht⟩
  | ok y =>
    obtain ⟨g' | x, w'⟩ := y
    · obtain ⟨heads, hl⟩ := h g' w' ht
      exact ⟨_, .goesOn ht hl⟩
    · exact ⟨_, .ends ht⟩

theorem loop_attempts (hq : p.policy = some q) {more : Nat}
    (hm : g.attempt + 1 + more = limit p.policy) (w : World) :
    ∃ heads, Loop c p heads g w (c.attempts p q more g w) := by
  induction more generalizing g w with
  | zero =>
    rw [attempts_eq hq hm]
    refine loop_onwards fun g' w' ht => ?_
    have hlt := (turn_inl ht).1
    omega
  | succ more ih =>
    rw [attempts_eq hq hm]
    refine loop_onwards fun g' w' ht => ih ?_ w'
    have hg := (turn_inl ht).2
    omega

theorem loop_of_policy_none (hq : p.policy = none) (g : Progress) (w : World) :
    Loop c p [(g, w)] g w ((c.attempt p g w).bind fun y => c.finish y.1.2 y.1.1 y.2) := by
  have hturn : turn c p g w =
      ((c.attempt p g w).bind fun y => c.finish y.1.2 y.1.1 y.2).map fun y => (.inr y.1, y.2) := by
    rw [turn_eq, map_bind]
    refine bind_congr fun y _ => ?_
    have hc : moveAfter p y.1.2.attempt y.1.1 = .finish := by simp only [moveAfter, hq]
    exact settle_finish hc y.2
  cases hy : (c.attempt p g w).bind fun y => c.finish y.1.2 y.1.1 y.2 with
  | error e =>
    rw [hy] at hturn
    exact .halts hturn
  | ok y =>
    rw [hy] at hturn
    exact .ends hturn

/-- The world in which the first turn begins. -/
def begun (p : PreparedRequest) (w : World) : World := { w with cancelled := p.cancelled }

/-- Sending a prepared request is the loop of turns. -/
theorem loop_execute (c : Client) (p : PreparedRequest) (w : World) :
    ∃ heads, Loop c p heads (c.start p (begun p w)) (begun p w) (c.execute p w) := by
  simp only [Client.execute, bind_eq, modify_eq, get_eq, bind_ok]
  cases hq : p.policy with
  | some q =>
    refine loop_attempts hq ?_ _
    rw [hq]
    simp only [Client.start, limit]
    omega
  | none => exact ⟨_, loop_of_policy_none hq _ _⟩

theorem loop_send {b : RequestBuilder} (hp : b.prepare c = .ok p) (w : World) :
    ∃ heads, Loop c p heads (c.start p (begun p w)) (begun p w) (c.send b w) := by
  simp only [Client.send, hp]
  exact loop_execute c p w

end

section
variable {c : Client} {p : PreparedRequest} {g : Progress} {w : World}
  {heads : List (Progress × World)} {y : Except Halt (Except Error Response × World)}

def Reached (heads : List (Progress × World)) (y : Except Halt (Except Error Response × World))
    (w' : World) : Prop :=
  (∃ g, (g, w') ∈ heads) ∨ ∃ x, y = .ok (x, w')

theorem Loop.heads_eq (h : Loop c p heads g w y) : heads = (g, w) :: heads.tail := by
  cases h <;> rfl

/-- A turn that does not lead to another one is the last. -/
theorem Loop.eq_of_turn (h : Loop c p heads g w y) {head : Progress × World} (hm : head ∈ heads)
    {z : Except Error Response × World}
    (ht : turn c p head.1 head.2 = .ok (.inr z.1, z.2)) : y = .ok z := by
  induction h with
  | ends h =>
    cases List.mem_singleton.mp hm
    cases h.symm.trans ht
    rfl
  | halts h =>
    cases List.mem_singleton.mp hm
    cases h.symm.trans ht
  | goesOn h hl ih =>
    rcases List.mem_cons.mp hm with rfl | hm
    · cases h.symm.trans ht
    · exact ih hm

/-- A run halts in its last turn. -/
theorem Loop.turn_halts (h : Loop c p heads g w y) {e : Halt} (hy : y = .error e) :
    ∃ head ∈ heads, turn c p head.1 head.2 = .error e := by
  induction h with
  | ends ht => cases hy
  | halts ht =>
    cases hy
    exact ⟨_, List.mem_singleton_self _, ht⟩
  | goesOn ht hl ih =>
    obtain ⟨head, hm, hturn⟩ := ih hy
    exact ⟨head, List.mem_cons_of_mem _ hm, hturn⟩

theorem Loop.length_le (h : Loop c p heads g w y) (hg : g.attempt < limit p.policy) :
    g.attempt + heads.length ≤ limit p.policy := by
  induction h with
  | ends ht => exact hg
  | halts ht => exact hg
  | goesOn ht hl ih =>
    obtain ⟨hn, ha⟩ := turn_inl ht
    have hle := ih (by omega)
    rw [List.length_cons]
    omega

theorem Loop.attempt (h : Loop c p heads g w y) {i : Nat} {head : Progress × World}
    (hi : heads[i]? = some head) : head.1.attempt = g.attempt + i := by
  induction h generalizing i with
  | ends ht | halts ht =>
    obtain ⟨rfl, rfl⟩ : i = 0 ∧ head = _ := by simpa [List.getElem?_singleton, eq_comm] using hi
    rfl
  | goesOn ht hl ih =>
    cases i with
    | zero =>
      cases hi
      rfl
    | succ i =>
      rw [ih hi, (turn_inl ht).2]
      omega

theorem reached_cons {w' : World} :
    Reached ((g, w) :: heads) y w' ↔ w' = w ∨ Reached heads y w' := by
  simp only [Reached, List.mem_cons, Prod.mk.injEq, exists_or, exists_eq_left, or_assoc]

theorem reached_nil {w' : World} : Reached [] y w' ↔ ∃ x, y = .ok (x, w') := by
  simp only [Reached, List.not_mem_nil, exists_false, false_or]

theorem Loop.calls_le (h : Loop c p heads g w y) {w' : World} (hw : Reached heads y w') :
    w'.calls ≤ w.calls + heads.length := by
  induction h with
  | ends ht =>
    rcases reached_cons.mp hw with rfl | hw
    · exact Nat.le_add_right _ _
    · obtain ⟨x, hx⟩ := reached_nil.mp hw
      cases hx
      exact turn_calls_le ht
  | halts ht =>
    rcases reached_cons.mp hw with rfl | hw
    · exact Nat.le_add_right _ _
    · obtain ⟨x, hx⟩ := reached_nil.mp hw
      cases hx
  | goesOn ht hl ih =>
    rcases reached_cons.mp hw with rfl | hw
    · exact Nat.le_add_right _ _
    · have hle := ih hw
      have hcalls := turn_calls_le ht
      rw [List.length_cons]
      omega

/-- The body of a draft stays one that can be had again, or one that cannot. -/
theorem turn_isReplayable {g' : Progress} {w' : World} (h : turn c p g w = .ok (.inl g', w')) :
    g'.draft.body.isReplayable = g.draft.body.isReplayable := by
  obtain ⟨o, entry, d, w₁, ha, hs⟩ := turn_cases h
  rw [(settle_inl hs).2.2]
  exact ha.isReplayable

theorem Loop.isReplayable (h : Loop c p heads g w y) {head : Progress × World} (hm : head ∈ heads) :
    head.1.draft.body.isReplayable = g.draft.body.isReplayable := by
  induction h with
  | ends ht | halts ht =>
    cases List.mem_singleton.mp hm
    rfl
  | goesOn ht hl ih =>
    rcases List.mem_cons.mp hm with rfl | hm
    · rfl
    · exact (ih hm).trans (turn_isReplayable ht)

/-- Nothing is sent any more if the body was taken and cannot be had again. -/
theorem Loop.calls_eq_of_not_replayable (h : Loop c p heads g w y) {w' : World}
    (hw : Reached heads y w') (hr : g.draft.body.isReplayable = false) (hn : 0 < g.attempt) :
    w'.calls = w.calls := by
  induction h with
  | ends ht =>
    rcases reached_cons.mp hw with rfl | hw
    · rfl
    · obtain ⟨x, hx⟩ := reached_nil.mp hw
      cases hx
      exact turn_calls_eq_of_not_replayable ht hr hn
  | halts ht =>
    rcases reached_cons.mp hw with rfl | hw
    · rfl
    · obtain ⟨x, hx⟩ := reached_nil.mp hw
      cases hx
  | goesOn ht hl ih =>
    rcases reached_cons.mp hw with rfl | hw
    · rfl
    · have ha := (turn_inl ht).2
      rw [ih hw ((turn_isReplayable ht).trans hr) (by omega)]
      exact turn_calls_eq_of_not_replayable ht hr hn

/-- At most one call is made if the body cannot be had again. -/
theorem Loop.calls_le_succ_of_not_replayable (h : Loop c p heads g w y) {w' : World}
    (hw : Reached heads y w') (hr : g.draft.body.isReplayable = false) :
    w'.calls ≤ w.calls + 1 := by
  cases h with
  | ends ht => exact (Loop.ends ht).calls_le hw
  | halts ht => exact (Loop.halts ht).calls_le hw
  | goesOn ht hl =>
    rcases reached_cons.mp hw with rfl | hw
    · exact Nat.le_succ _
    · have ha := (turn_inl ht).2
      rw [hl.calls_eq_of_not_replayable hw ((turn_isReplayable ht).trans hr) (by omega)]
      exact turn_calls_le ht

end

section
variable {b : RequestBuilder} {c : Client} {p : PreparedRequest}

theorem exists_of_prepare (h : b.prepare c = .ok p) :
    ∃ url headers, b.builtUrl c.config = .ok url ∧ b.builtHeaders c = .ok headers ∧
      p = {
        method := b.method
        url
        headers
        body := if b.payloadAllowed then b.body else .empty
        timeout := b.timeout
        retry := b.chosenRetry c.config
        bounds := {
          slack := c.slack
          cancellable := b.token.isSome
          cancelAt := b.token.bind CancelToken.firesAt
          deadline := b.deadline }
        cancelled := b.token.any CancelToken.fired
        trace := b.trace.getD c.config.trace } := by
  simp only [RequestBuilder.prepare] at h
  split at h
  · cases h
  · cases hu : b.builtUrl c.config with
    | error e =>
      rw [hu] at h
      cases h
    | ok url =>
      rw [hu] at h
      cases hh : b.builtHeaders c with
      | error e =>
        rw [hh] at h
        cases h
      | ok headers =>
        rw [hh] at h
        cases h
        exact ⟨url, headers, rfl, rfl, rfl⟩

theorem prepare_eq (h : b.prepare c = .ok p) :
    p = { p with
      method := b.method
      body := if b.payloadAllowed then b.body else .empty
      retry := b.chosenRetry c.config
      bounds := {
        slack := c.slack
        cancellable := b.token.isSome
        cancelAt := b.token.bind CancelToken.firesAt
        deadline := b.deadline }
      cancelled := b.token.any CancelToken.fired
      trace := b.trace.getD c.config.trace } := by
  obtain ⟨url, headers, -, -, rfl⟩ := exists_of_prepare h
  rfl

theorem builtHeaders_of_prepare (h : b.prepare c = .ok p) :
    b.builtHeaders c = .ok p.headers := by
  obtain ⟨url, headers, -, hheaders, rfl⟩ := exists_of_prepare h
  exact hheaders

end

end ResilientHttp.Turns
