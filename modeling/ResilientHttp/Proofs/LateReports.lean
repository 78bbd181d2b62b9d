import ResilientHttp.Proofs.OpenWindow

/-!
# Outcomes that come late

A breaker is told outcomes, not whose they are. While the circuit is open none of them counts. But an
attempt that passed the gate before the trip can be under way until the circuit is half-open, and then
its outcome counts like that of a probe: it may close the circuit as well as open it again. So what a
half-open circuit does is known from the outcomes alone, and who sent them is either a probe or was
under way when the first probe passed.
-/
namespace ResilientHttp.LateReports
open BreakerHistory SharedBreaker OpenWindow

/-- An outcome that a breaker is told: whose it is, and when the gate let its attempt pass. -/
structure Report where
  request : Nat
  passed : Instant
  outcome : Outcome

def verdict (trip : Response → Bool) (o : Except Error Response) : Outcome :=
  if (errorOf? o).isSome || o.toOption.any trip then .failure else .success

def heard? (s : Crowd) : Move → Option Report
  | .report i o =>
    match s.stage i with
    | .calling t => some ⟨i, t, verdict s.breaker.config.trip o⟩
    | _ => none
  | _ => none

def take (b : Breaker) (now : Instant) : Outcome → Breaker
  | .success => b.onSuccess
  | .failure => b.onFailure now

def Underway (s : Crowd) (i : Nat) (t : Instant) : Prop :=
  s.stage i = .admitted t ∨ s.stage i = .calling t

/-- Moves, with what the breaker is told by them. -/
inductive Hears : Crowd → List (Instant × Move) → List Report → Crowd → Prop
  | nil (s : Crowd) : Hears s [] [] s
  | cons {s s' s'' : Crowd} {m : Move} {ms : List (Instant × Move)} {log : List Report}
      (h : Step s m s') (hm : Hears s' ms log s'') :
      Hears s ((s.now, m) :: ms) ((heard? s m).toList ++ log) s''

section
variable {s s' s'' : Crowd} {m : Move} {ms : List (Instant × Move)} {log : List Report} {r : Report}
  {i : Nat} {t : Instant}

theorem Hears.concat (h : Hears s ms log s') (hs : Step s' m s'') :
    Hears s (ms ++ [(s'.now, m)]) (log ++ (heard? s' m).toList) s'' := by
  induction h with
  | nil s =>
    have hone := Hears.cons hs (.nil s'')
    rwa [List.append_nil] at hone
  | cons h hm ih =>
    rw [List.append_assoc]
    exact .cons h (ih hs)

theorem Hears.moves (h : Hears s ms log s') : Moves s ms s' := by
  induction h with
  | nil s => exact .nil s
  | cons h hm ih => exact .cons h ih

theorem moves_concat (h : Moves s ms s') (hs : Step s' m s'') :
    Moves s (ms ++ [(s'.now, m)]) s'' := h.trans (.cons hs (.nil s''))

/-! ## What a move does to the breaker and to those who are under way -/

theorem execute_eq_take (b : Breaker) (now : Instant) (o : Except Error Response) :
    b.execute now o.toOption (errorOf? o) = take b now (verdict b.config.trip o) := by
  simp only [Breaker.execute, Breaker.isFailure, verdict]
  rw [apply_ite (take b now)]
  rfl

theorem step_of_heard (h : Step s m s') (hr : heard? s m = some r) :
    s'.breaker = take s.breaker s.now r.outcome := by
  cases h with
  | report hs o =>
    simp only [heard?, hs, Option.some.injEq] at hr
    subst hr
    exact execute_eq_take _ _ _
  | _ => cases hr

theorem step_of_not_heard (hc : s.breaker.circuit ≠ .opened) (h : Step s m s') (hm : m ≠ .reset)
    (hr : heard? s m = none) : s'.breaker = s.breaker := by
  cases h with
  | reset => exact absurd rfl hm
  | passed hs hg => exact preRequest_circuit hc hg
  | report hs o =>
    simp only [heard?, hs] at hr
    cases hr
  | _ => rfl

theorem underway_put {stage : Stage} {j : Nat} :
    Underway (s.put j stage) i t ↔
      i = j ∧ (stage = .admitted t ∨ stage = .calling t) ∨ i ≠ j ∧ Underway s i t := by
  by_cases h : i = j
  · subst h
    simp [Underway]
  · simp [Underway, put_of_ne h, h]

/-- Whoever is under way was so before, or the gate has just let it pass. -/
theorem underway_step (h : Step s m s') (hu : Underway s' i t) :
    Underway s i t ∨ t = s.now ∧ s.breaker.preRequest s.now = .ok s'.breaker := by
  cases h with
  | elapse d => exact .inl hu
  | refused hs hg => exact .inl hu
  | reset => exact .inl hu
  | passed hs hg =>
    rcases underway_put.mp hu with ⟨-, hst⟩ | ⟨-, hu⟩
    · simp only [Stage.admitted.injEq, reduceCtorEq, or_false] at hst
      exact .inr ⟨hst.symm, hg⟩
    · exact .inl hu
  | call hs =>
    rcases underway_put.mp hu with ⟨rfl, hst⟩ | ⟨-, hu⟩
    · simp only [Stage.calling.injEq, reduceCtorEq, false_or] at hst
      exact .inl (.inl (hst ▸ hs))
    · exact .inl hu
  | report hs o =>
    rcases underway_put.mp hu with ⟨-, hst⟩ | ⟨-, hu⟩
    · simp at hst
    · exact .inl hu
  | leave j =>
    rcases underway_put.mp hu with ⟨-, hst⟩ | ⟨-, hu⟩
    · simp at hst
    · exact .inl hu

theorem underway_of_heard (hr : heard? s m = some r) : Underway s r.request r.passed := by
  cases m with
  | report i o =>
    simp only [heard?] at hr
    split at hr
    · cases hr
      exact .inr ‹_›
    · cases hr
  | _ => cases hr

theorem take_config (b : Breaker) (now : Instant) (o : Outcome) :
    (take b now o).config = b.config := by
  cases o with
  | success =>
    simp only [take, Breaker.onSuccess]
    split
    · rfl
    · split <;> rfl
    · rfl
  | failure =>
    simp only [take, Breaker.onFailure]
    split
    · split <;> rfl
    · rfl
    · rfl

theorem preRequest_config {b b' : Breaker} {now : Instant} (h : b.preRequest now = .ok b') :
    b'.config = b.config := by
  simp only [Breaker.preRequest] at h
  split at h
  · cases h
    rfl
  · split at h
    · cases h
      rfl
    · cases h

theorem step_config (h : Step s m s') : s'.breaker.config = s.breaker.config := by
  cases h with
  | passed hs hg => exact preRequest_config hg
  | report hs o =>
    rw [put_breaker, execute_eq_take]
    exact take_config _ _ _
  | _ => rfl

theorem take_closed {b : Breaker} (hc : b.circuit = .closed) (now : Instant) (o : Outcome) :
    (take b now o).circuit = .closed ∨ (take b now o).circuit = .opened := by
  cases o with
  | success => simp [take, Breaker.onSuccess, hc]
  | failure =>
    simp only [take, Breaker.onFailure, hc]
    split
    · exact .inr rfl
    · exact .inl rfl

end

/-! ## How a circuit came to be open, and how to be half-open -/

/-- From a trip on the circuit has been open, and nobody has passed the gate. -/
structure Shut (first : Crowd) (ms : List (Instant × Move)) (tripped : Instant) (s : Crowd) :
    Prop where
  exists_trip : ∃ before s₀ m s₁ idle, ms = before ++ (tripped, m) :: idle ∧
    Moves first before s₀ ∧ s₀.now = tripped ∧ Trips s₀ m s₁ ∧ Moves s₁ idle s ∧
    s.breaker = s₁.breaker
  underway : ∀ i t, Underway s i t → t ≤ tripped

/-- An attempt passed the gate before the trip and was still under way when the first probe passed. -/
def Late (tripped : Instant) (shut : Crowd) (i : Nat) (t : Instant) : Prop :=
  t ≤ tripped ∧ Underway shut i t

/-- After a trip the first probe passed when the timeout was over, and this is what the breaker has been
told since. -/
def SinceProbe (first : Crowd) (ms : List (Instant × Move)) (tripped : Instant) (shut : Crowd)
    (log : List Report) (s : Crowd) : Prop :=
  ∃ before i s₁ since, ms = before ++ (shut.now, .ask i) :: since ∧
    Shut first before tripped shut ∧ tripped + shut.breaker.config.resetTimeout ≤ shut.now ∧
    Step shut (.ask i) s₁ ∧ Hears s₁ since log s

/-- Since the first probe passed, the circuit has been half-open: successes were reported and nothing
else, and too few of them. -/
structure Probation (first : Crowd) (ms : List (Instant × Move)) (tripped : Instant) (shut : Crowd)
    (log : List Report) (s : Crowd) : Prop where
  since : SinceProbe first ms tripped shut log s
  breaker : s.breaker = { probing shut.breaker with successes := log.length }
  few : log.length < s.breaker.config.successThreshold
  outcome : ∀ r ∈ log, r.outcome = .success
  sender : ∀ r ∈ log, Late tripped shut r.request r.passed ∨ tripped < r.passed
  underway : ∀ i t, Underway s i t → Late tripped shut i t ∨ tripped < t

/-- What is known of a crowd by the state of its circuit. -/
inductive Course (first : Crowd) (ms : List (Instant × Move)) (s : Crowd) : Prop
  | closed (h : s.breaker.circuit = .closed)
  | opened (tripped : Instant) (h : Shut first ms tripped s)
  | halfOpen (tripped : Instant) (shut : Crowd) (log : List Report)
      (h : Probation first ms tripped shut log s)

section
variable {first s s' shut : Crowd} {m : Move} {ms : List (Instant × Move)} {tripped t : Instant}
  {log : List Report} {r : Report} {i : Nat}

theorem Shut.breaker (h : Shut first ms tripped s) :
    s.breaker.circuit = .opened ∧ s.breaker.openedAt = some tripped ∧ tripped ≤ s.now := by
  obtain ⟨before, s₀, m, s₁, idle, -, -, rfl, ht, hm, hb⟩ := h.exists_trip
  obtain ⟨htrip, hnow⟩ := ht.breaker
  rw [hb, htrip]
  exact ⟨rfl, rfl, hnow ▸ hm.now_le⟩

theorem shut_of_trips (hm : Moves first ms s) (ht : Trips s m s')
    (hu : ∀ i t, Underway s i t → t ≤ s.now) : Shut first (ms ++ [(s.now, m)]) s.now s' where
  exists_trip := ⟨ms, s, m, s', [], rfl, hm, rfl, ht, .nil s', rfl⟩
  underway i t hu' := by
    rcases underway_step ht.step hu' with h | ⟨rfl, -⟩
    · exact hu i t h
    · exact Nat.le_refl _

/-- A move leaves an open circuit as it is, or it is the first probe. -/
theorem Shut.step_cases (h : Shut first ms tripped s) (hs : Step s m s') (hr : m ≠ .reset) :
    s'.breaker = s.breaker ∨ (∃ i, m = .ask i) ∧
      tripped + s.breaker.config.resetTimeout ≤ s.now ∧ s'.breaker = probing s.breaker := by
  obtain ⟨hc, ho, hnow⟩ := h.breaker
  rcases step_opened hc ho rfl hnow hs hr with hb | ⟨⟨i, rfl⟩, hdue⟩
  · exact .inl hb
  · cases hs with
    | refused hst hg => exact .inl rfl
    | passed hst hg =>
      rw [preRequest_opened hc ho hnow, if_pos hdue] at hg
      cases hg
      exact .inr ⟨⟨i, rfl⟩, hdue, rfl⟩

theorem Shut.idle (h : Shut first ms tripped s) (hs : Step s m s')
    (hb : s'.breaker = s.breaker) : Shut first (ms ++ [(s.now, m)]) tripped s' where
  exists_trip := by
    obtain ⟨before, s₀, m₀, s₁, idle, rfl, hm, hn, ht, hidle, hb'⟩ := h.exists_trip
    exact ⟨before, s₀, m₀, s₁, idle ++ [(s.now, m)], by simp, hm, hn, ht, moves_concat hidle hs,
      hb.trans hb'⟩
  underway i t hu := by
    obtain ⟨hc, ho, hnow⟩ := h.breaker
    rcases underway_step hs hu with hu | ⟨-, hg⟩
    · exact h.underway i t hu
    · -- An open circuit that lets somebody pass is open no more.
      rw [preRequest_opened hc ho hnow, hb] at hg
      split at hg
      · have hopen := congrArg Breaker.circuit (Except.ok.inj hg)
        rw [hc] at hopen
        cases hopen
      · cases hg

theorem Shut.probe (h : Shut first ms tripped s) (hpos : 0 < s.breaker.config.resetTimeout)
    (hsucc : 0 < s.breaker.config.successThreshold) (hs : Step s (.ask i) s')
    (hdue : tripped + s.breaker.config.resetTimeout ≤ s.now)
    (hb : s'.breaker = probing s.breaker) :
    Probation first (ms ++ [(s.now, .ask i)]) tripped s [] s' where
  since := ⟨ms, i, s', [], rfl, h, hdue, hs, .nil s'⟩
  breaker := hb
  few := step_config hs ▸ hsucc
  outcome := nofun
  sender := nofun
  underway j t hu := by
    rcases underway_step hs hu with hu | ⟨rfl, -⟩
    · exact .inl ⟨h.underway j t hu, hu⟩
    · simp only [Instant, Span] at *
      omega

theorem Shut.step (h : Shut first ms tripped s) (hpos : 0 < s.breaker.config.resetTimeout)
    (hsucc : 0 < s.breaker.config.successThreshold) (hs : Step s m s') (hr : m ≠ .reset) :
    Course first (ms ++ [(s.now, m)]) s' := by
  rcases h.step_cases hs hr with hb | ⟨⟨i, rfl⟩, hdue, hb⟩
  · exact .opened tripped (h.idle hs hb)
  · exact .halfOpen tripped s [] (h.probe hpos hsucc hs hdue hb)

theorem SinceProbe.concat (h : SinceProbe first ms tripped shut log s) (hs : Step s m s') :
    SinceProbe first (ms ++ [(s.now, m)]) tripped shut (log ++ (heard? s m).toList) s' := by
  obtain ⟨before, i, s₁, since, rfl, hshut, hdue, hask, hsince⟩ := h
  exact ⟨before, i, s₁, since ++ [(s.now, m)], by simp, hshut, hdue, hask, hsince.concat hs⟩

theorem Probation.openedAt (h : Probation first ms tripped shut log s) :
    s.breaker.openedAt = some tripped := by
  obtain ⟨before, i, s₁, since, -, hshut, -⟩ := h.since
  rw [h.breaker]
  exact hshut.breaker.2.1

/-- What a half-open circuit does next is known from what it is told and from how much it was told
before. -/
theorem Probation.verdict (h : Probation first ms tripped shut log s) (hs : Step s m s')
    (hr : heard? s m = some r) :
    s'.breaker =
      if r.outcome = .failure then s.breaker.trip s.now
      else if log.length + 1 = s.breaker.config.successThreshold then s.breaker.reset
      else { probing shut.breaker with successes := log.length + 1 } := by
  have hc : s.breaker.circuit = .halfOpen := by
    rw [h.breaker]
    rfl
  have hlog : s.breaker.successes = log.length := by
    rw [h.breaker]
  have hle : s.breaker.config.successThreshold ≤ log.length + 1 ↔
      log.length + 1 = s.breaker.config.successThreshold := by
    have hfew := h.few
    omega
  rw [step_of_heard hs hr]
  cases r.outcome with
  | failure => simp only [take, Breaker.onFailure, hc, if_true]
  | success =>
    simp only [take, Breaker.onSuccess, hc, hlog, hle, reduceCtorEq, if_false]
    split
    · rfl
    · rw [h.breaker]
      rfl

theorem Probation.sender_of_heard (h : Probation first ms tripped shut log s)
    (hr : heard? s m = some r) : Late tripped shut r.request r.passed ∨ tripped < r.passed :=
  h.underway r.request r.passed (underway_of_heard hr)

theorem Probation.now_lt (h : Probation first ms tripped shut log s)
    (hpos : 0 < s.breaker.config.resetTimeout) : tripped < s.now := by
  obtain ⟨before, i, s₁, since, -, -, hdue, hs, hm⟩ := h.since
  have hle := Nat.le_trans hs.now_le hm.moves.now_le
  rw [h.breaker] at hpos
  simp only [probing, Instant, Span] at *
  omega

theorem Probation.underway_step (h : Probation first ms tripped shut log s)
    (hpos : 0 < s.breaker.config.resetTimeout) (hs : Step s m s') (hu : Underway s' i t) :
    Late tripped shut i t ∨ tripped < t := by
  rcases LateReports.underway_step hs hu with hu | ⟨rfl, -⟩
  · exact h.underway i t hu
  · exact .inr (h.now_lt hpos)

theorem Probation.success (h : Probation first ms tripped shut log s)
    (hpos : 0 < s.breaker.config.resetTimeout) (hs : Step s m s') (hr : heard? s m = some r)
    (ho : r.outcome = .success) (hlast : log.length + 1 ≠ s.breaker.config.successThreshold) :
    Probation first (ms ++ [(s.now, m)]) tripped shut (log ++ [r]) s' where
  since := by
    have hsince := h.since.concat hs
    rwa [hr] at hsince
  breaker := by
    rw [h.verdict hs hr, ho, if_neg nofun, if_neg hlast, List.length_append, List.length_singleton]
  few := by
    have hfew := h.few
    rw [step_config hs, List.length_append, List.length_singleton]
    omega
  outcome x hx := by
    rcases List.mem_append.mp hx with hx | hx
    · exact h.outcome x hx
    · rw [List.mem_singleton.mp hx]
      exact ho
  sender x hx := by
    rcases List.mem_append.mp hx with hx | hx
    · exact h.sender x hx
    · rw [List.mem_singleton.mp hx]
      exact h.sender_of_heard hr
  underway _ _ hu := h.underway_step hpos hs hu

theorem Probation.step (h : Probation first ms tripped shut log s) (hm : Moves first ms s)
    (hu : ∀ i t, Underway s i t → t ≤ s.now) (hpos : 0 < s.breaker.config.resetTimeout)
    (hs : Step s m s') (hr : m ≠ .reset) : Course first (ms ++ [(s.now, m)]) s' := by
  have hc : s.breaker.circuit ≠ .opened := by
    rw [h.breaker]
    exact nofun
  -- Whoever else passes the gate meanwhile is a probe, so only what is told can matter.
  cases hheard : heard? s m with
  | none =>
    have hb := step_of_not_heard hc hs hr hheard
    have hsince := h.since.concat hs
    rw [hheard, Option.toList_none, List.append_nil] at hsince
    exact .halfOpen tripped shut log ⟨hsince, hb.trans h.breaker, hb ▸ h.few, h.outcome, h.sender,
      fun _ _ => h.underway_step hpos hs⟩
  | some r =>
    have hb := h.verdict hs hheard
    cases ho : r.outcome with
    | failure =>
      rw [if_pos ho] at hb
      exact .opened s.now (shut_of_trips hm ⟨hs, hc, by rw [hb]; rfl⟩ hu)
    | success =>
      by_cases hlast : log.length + 1 = s.breaker.config.successThreshold
      · rw [ho, if_neg nofun, if_pos hlast] at hb
        exact .closed (by rw [hb]; rfl)
      · exact .halfOpen tripped shut _ (h.success hpos hs hheard ho hlast)

theorem course_of_closed (hc : s.breaker.circuit = .closed) (hm : Moves first ms s)
    (hu : ∀ i t, Underway s i t → t ≤ s.now) (hs : Step s m s') (hr : m ≠ .reset) :
    Course first (ms ++ [(s.now, m)]) s' := by
  have hne : s.breaker.circuit ≠ .opened := by
    rw [hc]
    exact nofun
  cases hheard : heard? s m with
  | none =>
    refine .closed ?_
    rw [step_of_not_heard hne hs hr hheard]
    exact hc
  | some r =>
    have hb := step_of_heard hs hheard
    rcases take_closed hc s.now r.outcome with hclosed | hopen
    · exact .closed (by rw [hb]; exact hclosed)
    · exact .opened s.now (shut_of_trips hm ⟨hs, hne, by rw [hb]; exact hopen⟩ hu)

/-- What holds of a crowd that was reached without a reset. -/
structure Reached (first : Crowd) (ms : List (Instant × Move)) (s : Crowd) : Prop where
  moves : Moves first ms s
  timeout : 0 < s.breaker.config.resetTimeout
  threshold : 0 < s.breaker.config.successThreshold
  underway : ∀ i t, Underway s i t → t ≤ s.now
  course : Course first ms s

theorem Reached.step (h : Reached first ms s) (hs : Step s m s') (hr : m ≠ .reset) :
    Reached first (ms ++ [(s.now, m)]) s' where
  moves := moves_concat h.moves hs
  timeout := step_config hs ▸ h.timeout
  threshold := step_config hs ▸ h.threshold
  underway i t hu := by
    rcases underway_step hs hu with hu | ⟨rfl, -⟩
    · exact Nat.le_trans (h.underway i t hu) hs.now_le
    · exact hs.now_le
  course := by
    cases h.course with
    | closed hc => exact course_of_closed hc h.moves h.underway hs hr
    | opened tripped hshut => exact hshut.step h.timeout h.threshold hs hr
    | halfOpen tripped shut log hp => exact hp.step h.moves h.underway h.timeout hs hr

theorem Reached.trans {ms' : List (Instant × Move)} (h : Reached first ms s)
    (hm : Moves s ms' s') (hr : ∀ x ∈ ms', x.2 ≠ .reset) : Reached first (ms ++ ms') s' := by
  -- What is known of a crowd tells how it came about, so the moves so far have to be general.
  induction hm generalizing ms with
  | nil s =>
    rw [List.append_nil]
    exact h
  | @cons s s₁ s' m ms' hs hm ih =>
    have hstep := h.step hs (hr _ List.mem_cons_self)
    have htail := ih hstep fun x hx => hr x (List.mem_cons_of_mem _ hx)
    rwa [List.append_assoc] at htail

end

/-- Whoever moves the circuit with an outcome passed the gate since the trip. -/
def ProbesDecide (s : Crowd) : Prop :=
  ∀ m s' r tripped, Step s m s' → s'.breaker.circuit ≠ s.breaker.circuit → heard? s m = some r →
    s.breaker.openedAt = some tripped → tripped < r.passed

def fresh (config : BreakerConfig) (now : Instant) : Crowd := { now, breaker := .make config }

theorem reached_fresh {config : BreakerConfig} {now : Instant} {ms : List (Instant × Move)}
    {s : Crowd} (hm : Moves (fresh config now) ms s) (hr : ∀ x ∈ ms, x.2 ≠ .reset) :
    Reached (fresh config now) ms s := by
  obtain ⟨-, hsucc, hpos⟩ := normalized_pos config
  have hfresh : Reached (fresh config now) [] (fresh config now) :=
    ⟨.nil _, hpos, hsucc, fun i t hu => by simp [Underway, fresh] at hu, .closed rfl⟩
  exact hfresh.trans hm hr

/-- A half-open circuit closes with the last of as many successes as its threshold says, and opens
with the first failure, whoever reports them. They come of attempts that passed the gate since the
trip, or of late ones; and if nobody was under way when the first probe passed, of probes alone. -/
theorem halfOpen_decided {config : BreakerConfig} {now : Instant} {ms : List (Instant × Move)}
    {s : Crowd} (hm : Moves (fresh config now) ms s) (hr : ∀ x ∈ ms, x.2 ≠ .reset)
    (hc : s.breaker.circuit = .halfOpen) :
    ∃ tripped shut log, Probation (fresh config now) ms tripped shut log s ∧
      (∀ m s', Step s m s' → m ≠ .reset →
        (s'.breaker.circuit = .closed ↔ ∃ r, heard? s m = some r ∧ r.outcome = .success ∧
          log.length + 1 = s.breaker.config.successThreshold) ∧
        (s'.breaker.circuit = .opened ↔ ∃ r, heard? s m = some r ∧ r.outcome = .failure)) ∧
      (∀ m r, heard? s m = some r →
        Late tripped shut r.request r.passed ∨ tripped < r.passed) ∧
      ((∀ i, shut.stage i = .outside) → (∀ r ∈ log, tripped < r.passed) ∧ ProbesDecide s) := by
  have hopen : s.breaker.circuit ≠ .opened := by
    rw [hc]
    exact nofun
  cases (reached_fresh hm hr).course with
  | closed h => cases h.symm.trans hc
  | opened tripped h => exact absurd h.breaker.1 hopen
  | halfOpen tripped shut log h =>
    refine ⟨tripped, shut, log, h, ?_, fun m r => h.sender_of_heard, ?_⟩
    · intro m s' hs hm
      cases hheard : heard? s m with
      | none =>
        rw [step_of_not_heard hopen hs hm hheard, hc]
        simp
      | some r =>
        rw [h.verdict hs hheard]
        cases ho : r.outcome with
        | failure => simp [ho, Breaker.trip]
        | success =>
          by_cases hlast : log.length + 1 = s.breaker.config.successThreshold
          · simp [ho, hlast, Breaker.reset]
          · simp [ho, hlast, probing]
    · intro hout
      have hnone (i : Nat) (t : Instant) : ¬ Late tripped shut i t := by
        simp [Late, Underway, hout]
      refine ⟨fun r hr => (h.sender r hr).resolve_left (hnone _ _), ?_⟩
      intro m s' r t hs hmoved hheard ht
      cases h.openedAt.symm.trans ht
      exact (h.sender_of_heard hheard).resolve_left (hnone _ _)

/-! ## A late outcome that decides -/

/-- One failure is too much, and two successes close the circuit. -/
def wary : BreakerConfig := { failureThreshold := 1, successThreshold := 2, resetTimeout := 100 }

/-- Two requests pass the gate, and one of them fails. After the timeout a probe passes and
succeeds; the other request is still under way. -/
def overlap : List (Instant × Move) :=
  [(0, .ask 0), (0, .ask 1), (0, .call 0), (0, .call 1), (0, .elapse 5),
    (5, .report 0 (.error .cancelled)), (5, .elapse 100), (105, .ask 2), (105, .call 2),
    (105, .report 2 (.ok (.ofReply {})))]

theorem overlap_halfOpen : ∃ s, Moves (fresh wary 0) overlap s ∧ s.breaker.circuit = .halfOpen ∧
    s.breaker.openedAt = some 5 ∧ s.breaker.successes = 1 ∧ s.stage 1 = .calling 0 ∧
    s.breaker.config = wary := by
  refine ⟨_, .cons (.passed rfl rfl) (.cons (.passed rfl rfl) (.cons (.call (t := 0) rfl)
    (.cons (.call (t := 0) rfl) (.cons (.elapse _ 5) (.cons (.report (t := 0) rfl _)
      (.cons (.elapse _ 100) (.cons (.passed rfl rfl) (.cons (.call (t := 105) rfl)
        (.cons (.report (t := 105) rfl _) (.nil _)))))))))), ?_⟩
  exact ⟨rfl, rfl, rfl, rfl, rfl⟩

/-- One success of the probe is told, and one more will do, whoever reports it. -/
theorem overlap_decided : ∃ s tripped shut log, Moves (fresh wary 0) overlap s ∧
    (∀ x ∈ overlap, x.2 ≠ .reset) ∧ s.breaker.circuit = .halfOpen ∧
    Probation (fresh wary 0) overlap tripped shut log s ∧ tripped = 5 ∧ log.length = 1 ∧
    ∀ m s', Step s m s' → m ≠ .reset →
      (s'.breaker.circuit = .closed ↔ ∃ r, heard? s m = some r ∧ r.outcome = .success) := by
  obtain ⟨s, hm, hc, ho, hsucc, -, hconfig⟩ := overlap_halfOpen
  have hr : ∀ x ∈ overlap, x.2 ≠ .reset := by simp [overlap]
  obtain ⟨tripped, shut, log, h, hnext, -⟩ := halfOpen_decided hm hr hc
  have ht : tripped = 5 := Option.some.inj (h.openedAt.symm.trans ho)
  have hlog : log.length = 1 := by
    rw [h.breaker] at hsucc
    exact hsucc
  have hthreshold : log.length + 1 = s.breaker.config.successThreshold := by
    rw [hlog, hconfig]
    rfl
  refine ⟨s, tripped, shut, log, hm, hr, hc, h, ht, hlog, fun m s' hs hmove => ?_⟩
  rw [(hnext m s' hs hmove).1]
  simp only [hthreshold, and_true]

/-- The second request passed the gate before the trip. Its success closes the circuit, though of the
attempts that passed since the trip only one succeeded and two have to; and its failure opens the
circuit again. -/
theorem late_report_decides : ∃ s, Moves (fresh wary 0) overlap s ∧
    (∀ x ∈ overlap, x.2 ≠ .reset) ∧ s.breaker.circuit = .halfOpen ∧
    s.breaker.openedAt = some 5 ∧ s.breaker.successes = 1 ∧ s.breaker.config.successThreshold = 2 ∧
    (∀ o, heard? s (.report 1 o) = some ⟨1, 0, verdict wary.trip o⟩) ∧
    (∃ s', Step s (.report 1 (.ok (.ofReply {}))) s' ∧ s'.breaker.circuit = .closed) ∧
    (∃ s', Step s (.report 1 (.error .cancelled)) s' ∧ s'.breaker.circuit = .opened) ∧
    ¬ ProbesDecide s := by
  obtain ⟨s, hm, hc, ho, hsucc, hstage, hconfig⟩ := overlap_halfOpen
  have hheard (o : Except Error Response) :
      heard? s (.report 1 o) = some ⟨1, 0, verdict wary.trip o⟩ := by
    simp only [heard?, hstage, hconfig]
  have hclosed : ∃ s', Step s (.report 1 (.ok (.ofReply {}))) s' ∧ s'.breaker.circuit = .closed := by
    have hs := Step.report hstage (.ok (.ofReply {}))
    refine ⟨_, hs, ?_⟩
    have hv : verdict wary.trip (.ok (.ofReply {})) = .success := rfl
    rw [step_of_heard hs (hheard _), hv]
    simp only [take, Breaker.onSuccess, hc, hsucc, hconfig]
    rfl
  have hopened : ∃ s', Step s (.report 1 (.error .cancelled)) s' ∧ s'.breaker.circuit = .opened := by
    have hs := Step.report hstage (.error .cancelled)
    refine ⟨_, hs, ?_⟩
    have hv : verdict wary.trip (.error .cancelled) = .failure := rfl
    rw [step_of_heard hs (hheard _), hv]
    simp only [take, Breaker.onFailure, hc]
    rfl
  refine ⟨s, hm, by simp [overlap], hc, ho, hsucc, by rw [hconfig]; rfl, hheard, hclosed, hopened, ?_⟩
  intro hprobes
  obtain ⟨s', hs, hcircuit⟩ := hclosed
  have hmoved : s'.breaker.circuit ≠ s.breaker.circuit := by
    rw [hcircuit, hc]
    decide
  have hlt : (5 : Nat) < 0 := hprobes _ _ _ _ hs hmoved (hheard _) ho
  omega

end ResilientHttp.LateReports
