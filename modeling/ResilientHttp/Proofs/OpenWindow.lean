import ResilientHttp.Proofs.SharedBreaker

/-!
# An open circuit lets nothing pass before its timeout is over

Among requests that share a breaker, whatever their order: from a trip on until somebody asks the gate
after the timeout, the breaker does not change at all. An outcome that comes late finds the circuit
open, and a request that asks too early is refused. So every transport call that begins later goes
back to a gate that was passed before the trip or after the timeout.
-/
namespace ResilientHttp.OpenWindow
open Passage SharedBreaker

/-- A move by which the circuit opens. -/
structure Trips (s : Crowd) (m : Move) (s' : Crowd) : Prop where
  step : Step s m s'
  before : s.breaker.circuit ≠ .opened
  after : s'.breaker.circuit = .opened

def due (s : Crowd) : Instant := s.now + s.breaker.config.resetTimeout

/-- The breaker once a request was let pass after the timeout. -/
def probing (b : Breaker) : Breaker := { b with circuit := .halfOpen, failures := 0, successes := 0 }

section
variable {b : Breaker} {t now : Instant}

theorem preRequest_opened (hc : b.circuit = .opened) (ho : b.openedAt = some t) (hn : t ≤ now) :
    b.preRequest now =
      if t + b.config.resetTimeout ≤ now then .ok (probing b) else .error .breakerOpen := by
  have hdue : b.config.resetTimeout ≤ now - t ↔ t + b.config.resetTimeout ≤ now := by
    simp only [Instant, Span] at *
    omega
  have hb : b.isDue now = decide (t + b.config.resetTimeout ≤ now) := by
    simp only [Breaker.isDue, ho, Option.all_some, hdue]
  simp only [Breaker.preRequest, hc, ne_eq, not_true_eq_false, if_false, hb, decide_eq_true_eq]
  rfl

theorem onSuccess_opened (hc : b.circuit = .opened) : b.onSuccess = b := by
  simp only [Breaker.onSuccess, hc]

theorem onFailure_opened (hc : b.circuit = .opened) (now : Instant) : b.onFailure now = b := by
  simp only [Breaker.onFailure, hc]

/-- Whatever an outcome is, an open circuit takes no notice of it. -/
theorem execute_opened (hc : b.circuit = .opened) (now : Instant) (r : Option Response)
    (e : Option Error) : b.execute now r e = b := by
  simp only [Breaker.execute]
  split
  · exact onFailure_opened hc now
  · exact onSuccess_opened hc

theorem preRequest_circuit {b' : Breaker} (hc : b.circuit ≠ .opened)
    (h : b.preRequest now = .ok b') : b' = b := by
  simp only [Breaker.preRequest, if_pos hc] at h
  cases h
  rfl

theorem onSuccess_circuit (hc : b.circuit ≠ .opened) : b.onSuccess.circuit ≠ .opened := by
  cases hb : b.circuit with
  | opened => exact absurd hb hc
  | closed => simp [Breaker.onSuccess, hb]
  | halfOpen =>
    simp only [Breaker.onSuccess, hb]
    split
    · simp [Breaker.reset]
    · simp

theorem onFailure_trip (hc : b.circuit ≠ .opened) (ho : (b.onFailure now).circuit = .opened) :
    b.onFailure now = b.trip now := by
  cases hb : b.circuit with
  | opened => exact absurd hb hc
  | halfOpen => simp only [Breaker.onFailure, hb]
  | closed =>
    simp only [Breaker.onFailure, hb] at ho ⊢
    split
    · rfl
    · rename_i hlt
      rw [if_neg hlt] at ho
      cases ho

end

section
variable {s s₁ s₂ : Crowd} {m : Move} {ms : List (Instant × Move)} {b : Breaker} {t : Instant}

/-- Only a report opens the circuit, and at the instant at which it is made. -/
theorem Trips.breaker (h : Trips s m s₁) :
    s₁.breaker = s.breaker.trip s.now ∧ s₁.now = s.now := by
  obtain ⟨hs, hc, ho⟩ := h
  cases hs with
  | elapse d => exact absurd ho hc
  | refused hs hg => exact absurd ho hc
  | call hs => exact absurd ho hc
  | leave i => exact absurd ho hc
  | reset => simp [Breaker.reset] at ho
  | passed hs hg =>
    have hb := preRequest_circuit hc hg
    subst hb
    exact absurd ho hc
  | report hs o =>
    refine ⟨?_, rfl⟩
    simp only [put_breaker, Breaker.execute] at ho ⊢
    split
    · rename_i hf
      rw [if_pos hf] at ho
      exact onFailure_trip hc ho
    · rename_i hf
      rw [if_neg hf] at ho
      exact absurd ho (onSuccess_circuit hc)

/-- A move leaves a breaker with an open circuit as it is, unless the gate is asked when the timeout
is over. -/
theorem step_opened (hc : b.circuit = .opened) (ho : b.openedAt = some t) (hb : s.breaker = b)
    (hn : t ≤ s.now) (h : Step s m s₁) (hr : m ≠ .reset) :
    s₁.breaker = b ∨ (∃ i, m = .ask i) ∧ t + b.config.resetTimeout ≤ s.now := by
  subst hb
  cases h with
  | elapse d => exact .inl rfl
  | refused hs hg => exact .inl rfl
  | call hs => exact .inl rfl
  | leave i => exact .inl rfl
  | reset => exact absurd rfl hr
  | report hs o => exact .inl (execute_opened hc _ _ _)
  | @passed i b' hs hg =>
    refine .inr ⟨⟨i, rfl⟩, ?_⟩
    rw [preRequest_opened hc ho hn] at hg
    split at hg
    · assumption
    · cases hg

theorem moves_opened (hc : b.circuit = .opened) (ho : b.openedAt = some t) (hb : s.breaker = b)
    (hn : t ≤ s.now) (h : Moves s ms s₁) (hr : ∀ x ∈ ms, x.2 ≠ .reset) :
    s₁.breaker = b ∨ ∃ x ∈ ms, (∃ i, x.2 = .ask i) ∧ t + b.config.resetTimeout ≤ x.1 := by
  induction h with
  | nil s => exact .inl hb
  | cons hs hm ih =>
    rcases step_opened hc ho hb hn hs (hr _ List.mem_cons_self) with hb' | hask
    · have hn' := Nat.le_trans hn hs.now_le
      rcases ih hb' hn' (fun x hx => hr x (List.mem_cons_of_mem _ hx)) with hb'' | ⟨x, hx, hask⟩
      · exact .inl hb''
      · exact .inr ⟨x, List.mem_cons_of_mem _ hx, hask⟩
    · exact .inr ⟨_, List.mem_cons_self, hask⟩

/-- What holds of a crowd since a circuit tripped whose timeout ends at an instant. -/
structure Since (tripped : Crowd) (t due : Instant) (s : Crowd) : Prop where
  now : t ≤ s.now
  breaker : s.breaker = tripped.breaker ∨ due ≤ s.now
  admitted : ∀ i passed, s.stage i = .admitted passed →
    tripped.stage i = .admitted passed ∨ due ≤ passed
  calls : ∀ call ∈ s.calls, call ∈ tripped.calls ∨
    tripped.stage call.request = .admitted call.passed ∨ due ≤ call.passed

theorem Since.put {tripped : Crowd} {t due : Instant} (h : Since tripped t due s) (i : Nat)
    (stage : Stage) (hst : ∀ passed, stage = .admitted passed → due ≤ passed) :
    Since tripped t due (s.put i stage) := by
  refine ⟨h.now, h.breaker, ?_, h.calls⟩
  intro j passed hj
  by_cases hij : j = i
  · subst hij
    rw [put_self] at hj
    exact .inr (hst passed hj)
  · rw [put_of_ne hij] at hj
    exact h.admitted j passed hj

theorem Since.step {tripped : Crowd} (hc : tripped.breaker.circuit = .opened)
    (ho : tripped.breaker.openedAt = some t)
    (h : Since tripped t (t + tripped.breaker.config.resetTimeout) s) (hs : Step s m s₁)
    (hr : m ≠ .reset) : Since tripped t (t + tripped.breaker.config.resetTimeout) s₁ := by
  have hnow := Nat.le_trans h.now hs.now_le
  have hbreaker : s₁.breaker = tripped.breaker ∨
      t + tripped.breaker.config.resetTimeout ≤ s₁.now := by
    rcases h.breaker with hb | hdue
    · exact (step_opened hc ho hb h.now hs hr).imp_right fun hask =>
        Nat.le_trans hask.2 hs.now_le
    · exact .inr (Nat.le_trans hdue hs.now_le)
  cases hs with
  | elapse d => exact ⟨hnow, hbreaker, h.admitted, h.calls⟩
  | refused hst hg => exact h
  | leave i => exact h.put i .outside nofun
  | reset => exact absurd rfl hr
  | @report i passed hst o =>
    have h' := h.put i .outside nofun
    exact ⟨hnow, hbreaker, h'.admitted, h.calls⟩
  | @passed i b' hst hg =>
    -- Whoever is let pass asks an open circuit after its timeout, or one that opened no more.
    have hdue : t + tripped.breaker.config.resetTimeout ≤ s.now := by
      rcases h.breaker with hb | hdue
      · rw [hb, preRequest_opened hc ho h.now] at hg
        split at hg
        · assumption
        · cases hg
      · exact hdue
    have h' := h.put i (.admitted s.now) fun passed he => by
      cases he
      exact hdue
    exact ⟨hnow, hbreaker, h'.admitted, h.calls⟩
  | @call i passed hst =>
    have h' := h.put i (.calling passed) nofun
    refine ⟨hnow, hbreaker, h'.admitted, ?_⟩
    intro call hcall
    rcases List.mem_cons.mp hcall with rfl | hcall
    · exact .inr (h.admitted i passed hst)
    · exact h.calls call hcall

theorem Since.moves {tripped : Crowd} (hc : tripped.breaker.circuit = .opened)
    (ho : tripped.breaker.openedAt = some t)
    (h : Since tripped t (t + tripped.breaker.config.resetTimeout) s) (hm : Moves s ms s₁)
    (hr : ∀ x ∈ ms, x.2 ≠ .reset) :
    Since tripped t (t + tripped.breaker.config.resetTimeout) s₁ := by
  induction hm with
  | nil s => exact h
  | cons hs hm ih =>
    exact ih (h.step hc ho hs (hr _ List.mem_cons_self)) fun x hx =>
      hr x (List.mem_cons_of_mem _ hx)

end

/-- Outcomes of any kind leave the breaker of a crowd as it is. -/
def IsDeaf (s : Crowd) : Prop :=
  s.breaker.onSuccess = s.breaker ∧ s.breaker.onFailure s.now = s.breaker ∧
    ∀ r e, s.breaker.execute s.now r e = s.breaker

/-- After a trip and before its timeout is over, whatever else is done, the breaker stays as the trip
left it: whoever asks is refused, and no outcome counts. The first request after the timeout is a
probe. And no transport call begins, then or later, through a gate that was passed in between. -/
theorem shut_until_due {s s₁ s₂ : Crowd} {m : Move} {ms : List (Instant × Move)}
    (ht : Trips s m s₁) (hm : Moves s₁ ms s₂) (hr : ∀ x ∈ ms, x.2 ≠ .reset) :
    s₁.breaker = s.breaker.trip s.now ∧
    (s₂.now < due s → s₂.breaker = s₁.breaker ∧ IsDeaf s₂ ∧
      s₂.breaker.preRequest s₂.now = .error .breakerOpen ∧
      (∀ i s₃, Step s₂ (.ask i) s₃ → s₃ = s₂) ∧
      ∀ (c : Client) (p : PreparedRequest) (g : Progress) (w : World), Shows s₂ w →
        c.attempt p g w = .ok ((.error .breakerOpen, { g with attempt := g.attempt + 1 }), w)) ∧
    (∀ call ∈ s₂.calls, call ∈ s₁.calls ∨ s₁.stage call.request = .admitted call.passed ∨
      due s ≤ call.passed) ∧
    (due s ≤ s₂.now → (∀ x ∈ ms, ∀ i, x.2 = .ask i → x.1 < due s) →
      s₂.breaker = s₁.breaker ∧ IsDeaf s₂ ∧
      s₂.breaker.preRequest s₂.now = .ok (probing s₁.breaker) ∧
      ∀ i s₃, Step s₂ (.ask i) s₃ →
        s₃.breaker = probing s₁.breaker ∧ s₃.stage i = .admitted s₂.now) := by
  obtain ⟨htrip, hnow⟩ := ht.breaker
  have ho : s₁.breaker.openedAt = some s.now := by
    rw [htrip]
    rfl
  have hdue : s.now + s₁.breaker.config.resetTimeout = due s := by
    rw [htrip]
    rfl
  have hbegin : Since s₁ s.now (s.now + s₁.breaker.config.resetTimeout) s₁ :=
    ⟨Nat.le_of_eq hnow.symm, .inl rfl, fun i passed h => .inl h, fun call h => .inl h⟩
  have hsince := hbegin.moves ht.after ho hm hr
  rw [hdue] at hsince
  have hkept (hearly : ∀ x ∈ ms, ∀ i, x.2 = .ask i → x.1 < due s) : s₂.breaker = s₁.breaker := by
    rcases moves_opened ht.after ho rfl (Nat.le_of_eq hnow.symm) hm hr with hb | ⟨x, hx, hask, hx'⟩
    · exact hb
    · obtain ⟨i, hi⟩ := hask
      rw [hdue] at hx'
      exact absurd (hearly x hx i hi) (Nat.not_lt.mpr hx')
  have hdeaf (hb : s₂.breaker = s₁.breaker) : IsDeaf s₂ := by
    have hopened : s₂.breaker.circuit = .opened := by
      rw [hb]
      exact ht.after
    exact ⟨onSuccess_opened hopened, onFailure_opened hopened _, execute_opened hopened _⟩
  have hgate := preRequest_opened ht.after ho hsince.now
  rw [hdue] at hgate
  refine ⟨htrip, fun hlt => ?_, hsince.calls, fun hle hearly => ?_⟩
  · have hb := hkept fun x hx i _ => Nat.lt_of_le_of_lt (hm.le_now hx) hlt
    rw [if_neg (Nat.not_le.mpr hlt), ← hb] at hgate
    refine ⟨hb, hdeaf hb, hgate, ?_, ?_⟩
    · intro i s₃ hs
      cases hs with
      | refused hst hg => rfl
      | passed hst hg => cases hgate.symm.trans hg
    · intro c p g w hw
      rw [hw.now] at hgate
      exact attempt_refused hw.breaker hgate
  · have hb := hkept hearly
    rw [if_pos hle, ← hb] at hgate
    refine ⟨hb, hdeaf hb, ?_, ?_⟩
    · rw [← hb]
      exact hgate
    · intro i s₃ hs
      cases hs with
      | refused hst hg => cases hgate.symm.trans hg
      | passed hst hg =>
        cases hgate.symm.trans hg
        rw [← hb]
        exact ⟨rfl, put_self _ _ _⟩

def crowded : Crowd where
  now := 7
  breaker := .make { failureThreshold := 1, resetTimeout := 100 }
  stage i := if i < 2 then .calling 3 else if i = 2 then .admitted 5 else .outside

def shut : Crowd :=
  { crowded with breaker := crowded.breaker.trip 7 }.put 0 .outside

/-- A fourth request asks in vain, the second one succeeds late, and the third one begins its call. -/
def bustle : List (Instant × Move) :=
  [(7, .ask 3), (7, .elapse 50), (57, .report 1 (.ok (.ofReply {}))), (57, .call 2),
    (57, .elapse 50)]

/-- When the timeout is over, the breaker is as the trip left it, and the next request is a probe. -/
theorem crowded_shut_until_due : ∃ s₂, Trips crowded (.report 0 (.error .cancelled)) shut ∧
    Moves shut bustle s₂ ∧ s₂.now = 107 ∧ s₂.breaker = crowded.breaker.trip 7 ∧
    s₂.calls.map Call.passed = [5] ∧
    s₂.breaker.preRequest 107 = .ok (probing (crowded.breaker.trip 7)) := by
  have ht : Trips crowded (.report 0 (.error .cancelled)) shut :=
    ⟨.report (t := 3) rfl _, by decide, rfl⟩
  have hm : ∃ s₂, Moves shut bustle s₂ ∧ s₂.now = 107 ∧ s₂.calls.map Call.passed = [5] := by
    refine ⟨_, .cons (.refused (e := .breakerOpen) rfl rfl) (.cons (.elapse _ 50)
      (.cons (.report (t := 3) rfl _) (.cons (.call (t := 5) rfl)
        (.cons (.elapse _ 50) (.nil _))))), rfl, rfl⟩
  obtain ⟨s₂, hm, hnow, hcalls⟩ := hm
  have hr : ∀ x ∈ bustle, x.2 ≠ .reset := by simp [bustle]
  have hearly : ∀ x ∈ bustle, ∀ i, x.2 = .ask i → x.1 < due crowded := by
    simp [bustle, due, crowded, Breaker.make, BreakerConfig.normalized]
  have hover : due crowded ≤ s₂.now := by
    rw [hnow]
    decide
  obtain ⟨htrip, -, -, hopen⟩ := shut_until_due ht hm hr
  obtain ⟨hb, -, hgate, -⟩ := hopen hover hearly
  rw [hnow, htrip] at hgate
  exact ⟨s₂, ht, hm, hnow, hb.trans htrip, hcalls, hgate⟩

end ResilientHttp.OpenWindow
