import ResilientHttp.Proofs.Passage

/-!
# Requests that share a breaker

Any number of requests go their ways at the same time and in any order. Each of them asks the gate,
calls the transport and reports, attempt after attempt, while time passes; what they share is the
clock and the breaker. A request that a client sends alone goes such a way as one of a crowd.
-/
namespace ResilientHttp.SharedBreaker
open BreakerHistory Runs Turns Passage

/-- How far a request has come with an attempt. -/
inductive Stage
  /-- It is in no attempt, or in front of the gate. -/
  | outside
  /-- The gate let it pass at an instant. -/
  | admitted (passed : Instant)
  /-- It calls the transport. -/
  | calling (passed : Instant)

/-- A transport call: whose it is, when the gate let its attempt pass, and when it began. -/
structure Call where
  request : Nat
  passed : Instant
  begun : Instant

/-- Requests that share a breaker, by their numbers, and the transport calls that they began, the
latest first. -/
structure Crowd where
  now : Instant
  breaker : Breaker
  stage : Nat → Stage := fun _ => .outside
  calls : List Call := []

inductive Move
  /-- Time passes. -/
  | elapse (d : Span)
  /-- A request asks the gate. -/
  | ask (i : Nat)
  /-- A request begins its transport call. -/
  | call (i : Nat)
  /-- A request tells the breaker what its transport call gave. -/
  | report (i : Nat) (outcome : Except Error Response)
  /-- A request gives its attempt up without a report. -/
  | leave (i : Nat)
  /-- Someone resets the breaker. -/
  | reset

/-- The move is one of a certain request, or time passes. -/
def Move.IsOf (i : Nat) : Move → Prop
  | .elapse _ => True
  | .ask j | .call j | .report j _ | .leave j => j = i
  | .reset => False

def Crowd.put (s : Crowd) (i : Nat) (stage : Stage) : Crowd :=
  { s with stage := fun j => if j = i then stage else s.stage j }

@[simp] theorem put_now (s : Crowd) (i : Nat) (stage : Stage) : (s.put i stage).now = s.now := rfl

@[simp] theorem put_breaker (s : Crowd) (i : Nat) (stage : Stage) :
    (s.put i stage).breaker = s.breaker := rfl

@[simp] theorem put_calls (s : Crowd) (i : Nat) (stage : Stage) :
    (s.put i stage).calls = s.calls := rfl

@[simp] theorem put_self (s : Crowd) (i : Nat) (stage : Stage) : (s.put i stage).stage i = stage :=
  if_pos rfl

theorem put_of_ne {i j : Nat} (h : j ≠ i) (s : Crowd) (stage : Stage) :
    (s.put i stage).stage j = s.stage j := if_neg h

/-- What a move can do. The gate refuses or lets pass, only who was let pass calls the transport, and
only who calls it reports. -/
inductive Step : Crowd → Move → Crowd → Prop
  | elapse (s : Crowd) (d : Span) : Step s (.elapse d) { s with now := s.now + d }
  | refused {s : Crowd} {i : Nat} {e : Error} (hs : s.stage i = .outside)
      (hg : s.breaker.preRequest s.now = .error e) : Step s (.ask i) s
  | passed {s : Crowd} {i : Nat} {b : Breaker} (hs : s.stage i = .outside)
      (hg : s.breaker.preRequest s.now = .ok b) :
      Step s (.ask i) ({ s with breaker := b }.put i (.admitted s.now))
  | call {s : Crowd} {i : Nat} {t : Instant} (hs : s.stage i = .admitted t) :
      Step s (.call i) ({ s with calls := ⟨i, t, s.now⟩ :: s.calls }.put i (.calling t))
  | report {s : Crowd} {i : Nat} {t : Instant} (hs : s.stage i = .calling t)
      (o : Except Error Response) :
      Step s (.report i o)
        ({ s with breaker := s.breaker.execute s.now o.toOption (errorOf? o) }.put i .outside)
  | leave (s : Crowd) (i : Nat) : Step s (.leave i) (s.put i .outside)
  | reset (s : Crowd) : Step s .reset { s with breaker := s.breaker.reset }

/-- Moves one after the other, each with the instant at which it is made. -/
inductive Moves : Crowd → List (Instant × Move) → Crowd → Prop
  | nil (s : Crowd) : Moves s [] s
  | cons {s s' s'' : Crowd} {m : Move} {ms : List (Instant × Move)} (h : Step s m s')
      (hm : Moves s' ms s'') : Moves s ((s.now, m) :: ms) s''

theorem Moves.trans {s s' s'' : Crowd} {ms ms' : List (Instant × Move)} (h : Moves s ms s')
    (h' : Moves s' ms' s'') : Moves s (ms ++ ms') s'' := by
  induction h with
  | nil s => exact h'
  | cons hs hm ih => exact .cons hs (ih h')

theorem Step.now_le {s s' : Crowd} {m : Move} (h : Step s m s') : s.now ≤ s'.now := by
  cases h with
  | elapse d => exact Nat.le_add_right _ _
  | _ => exact Nat.le_refl _

theorem Moves.now_le {s s' : Crowd} {ms : List (Instant × Move)} (h : Moves s ms s') :
    s.now ≤ s'.now := by
  induction h with
  | nil s => exact Nat.le_refl _
  | cons hs hm ih => exact Nat.le_trans hs.now_le ih

theorem Moves.le_now {s s' : Crowd} {ms : List (Instant × Move)} (h : Moves s ms s')
    {x : Instant × Move} (hx : x ∈ ms) : x.1 ≤ s'.now := by
  induction h with
  | nil s => cases hx
  | cons hs hm ih =>
    rcases List.mem_cons.mp hx with rfl | hx
    · exact Nat.le_trans hs.now_le hm.now_le
    · exact ih hx

/-! ## A request alone -/

/-- The crowd has the clock and the breaker of a world. -/
structure Shows (s : Crowd) (w : World) : Prop where
  breaker : w.breaker = some s.breaker
  now : s.now = w.now

/-- From one world to another a request makes moves of a crowd, and the calls that the world tells
are those of the crowd. -/
structure Goes (i : Nat) (s s' : Crowd) (w w' : World) : Prop where
  shows : Shows s' w'
  moves : ∃ ms, Moves s ms s' ∧ ∀ x ∈ ms, x.2.IsOf i
  calls : ∃ cs, s'.calls = cs ++ s.calls ∧
    callTimes w' = callTimes w ++ (cs.map Call.begun).reverse

section
variable {i : Nat} {s s' s'' : Crowd} {w w' w'' : World} {m : Move}

theorem Goes.refl (h : Shows s w) : Goes i s s w w where
  shows := h
  moves := ⟨[], .nil s, by simp⟩
  calls := ⟨[], rfl, by simp⟩

theorem Goes.trans (h : Goes i s s' w w') (h' : Goes i s' s'' w' w'') : Goes i s s'' w w'' where
  shows := h'.shows
  moves := by
    obtain ⟨ms, hm, ho⟩ := h.moves
    obtain ⟨ms', hm', ho'⟩ := h'.moves
    refine ⟨ms ++ ms', hm.trans hm', ?_⟩
    intro x hx
    rcases List.mem_append.mp hx with hx | hx
    · exact ho x hx
    · exact ho' x hx
  calls := by
    obtain ⟨cs, hc, ht⟩ := h.calls
    obtain ⟨cs', hc', ht'⟩ := h'.calls
    refine ⟨cs' ++ cs, by rw [hc', hc, List.append_assoc], ?_⟩
    rw [ht', ht, List.map_append, List.reverse_append, List.append_assoc]

theorem Goes.step (h : Step s m s') (ho : m.IsOf i) (hw : Shows s' w') (hc : s'.calls = s.calls)
    (ht : callTimes w' = callTimes w) : Goes i s s' w w' where
  shows := hw
  moves := ⟨_, .cons h (.nil s'), by simpa using ho⟩
  calls := ⟨[], hc, by simpa using ht⟩

theorem goes_elapse {ds : List Span} (i : Nat) (h : Shows s w) (hp : Passed [] ds w w') :
    ∃ s', Goes i s s' w w' ∧ s'.stage = s.stage := by
  have hn : s.now + (w'.now - w.now) = w'.now := by
    have hle := hp.now
    rw [h.now]
    exact Nat.add_sub_of_le hle
  refine ⟨{ s with now := s.now + (w'.now - w.now) }, ?_, rfl⟩
  refine .step (.elapse s _) trivial ⟨?_, hn⟩ rfl ?_
  · exact hp.breaker.trans h.breaker
  · rw [hp.callTimes, List.append_nil]

theorem goes_leave (h : Shows s w) : Goes i s (s.put i .outside) w w :=
  .step (.leave s i) rfl ⟨h.breaker, h.now⟩ rfl rfl

theorem goes_gate {x : Except Error Unit} (h : Shows s w) (hs : s.stage i = .outside)
    (hg : Client.gate w = .ok (x, w')) :
    ∃ s', Goes i s s' w w' ∧
      (x = .error .breakerOpen ∧ s' = s ∨ x = .ok () ∧ s'.stage i = .admitted s.now) := by
  rcases gate_some h.breaker hg with ⟨hp, hx, rfl⟩ | ⟨b, hp, hx, rfl⟩
  · rw [← h.now] at hp
    exact ⟨s, .step (.refused hs hp) rfl h rfl rfl, .inl ⟨hx, rfl⟩⟩
  · rw [← h.now] at hp
    refine ⟨_, .step (.passed hs hp) rfl ⟨rfl, h.now⟩ rfl rfl, .inr ⟨hx, ?_⟩⟩
    exact put_self _ _ _

theorem goes_call {t : Instant} (h : Shows s w) (hs : s.stage i = .admitted t)
    (hp : Passed [w.now] [] w w') : ∃ s', Goes i s s' w w' ∧ s'.stage i = .calling t := by
  let called : Crowd := { s with calls := ⟨i, t, s.now⟩ :: s.calls }.put i (.calling t)
  -- The call begins at once; the time that it takes comes after it.
  have hn : called.now + (w'.now - w.now) = w'.now := by
    have hle := hp.now
    change s.now + (w'.now - w.now) = w'.now
    rw [h.now]
    exact Nat.add_sub_of_le hle
  let ended : Crowd := { called with now := called.now + (w'.now - w.now) }
  refine ⟨ended, ⟨⟨hp.breaker.trans h.breaker, hn⟩, ?_, ?_⟩, put_self _ _ _⟩
  · refine ⟨_, .cons (.call hs) (.cons (.elapse called _) (.nil ended)), ?_⟩
    intro x hx
    simp only [List.mem_cons, List.not_mem_nil, or_false] at hx
    rcases hx with rfl | rfl
    · rfl
    · trivial
  · refine ⟨[⟨i, t, s.now⟩], rfl, ?_⟩
    rw [hp.callTimes, h.now]
    rfl

end

section
variable {c : Client} {p : PreparedRequest} {g : Progress} {i : Nat} {s : Crowd} {w w' : World}
  {r : Request} {o : Except Error Response} {entry : Option AttemptTrace} {d : Draft}

theorem goes_reaches (h : Shows s w) (hs : s.stage i = .outside)
    (hr : Reaches c p g w r w') : ∃ s' t, Goes i s s' w w' ∧ s'.stage i = .admitted t := by
  obtain ⟨r₀, d, w₁, w₂, hg, hb, hh⟩ := hr
  obtain ⟨s₁, hgo, hx⟩ := goes_gate h hs hg
  rcases hx with ⟨hx, -⟩ | ⟨-, hst⟩
  · cases hx
  · have hp : Passed [] [] w₁ w' := (build_passed hb).trans (requestHooks_passed hh)
    obtain ⟨s₂, hgo', hst'⟩ := goes_elapse i hgo.shows hp
    exact ⟨s₂, s.now, hgo.trans hgo', by rw [hst', hst]⟩

theorem goes_called {x : Except Error (Except TransportError Reply)} {w₁ : World}
    (h : Shows s w) (hs : s.stage i = .outside) (hr : Reaches c p g w r w₁)
    (hc : c.call p.bounds r w₁ = .ok (x, w')) :
    ∃ s', Goes i s s' w w' ∧ (x.isOk = true → ∃ t, s'.stage i = .calling t) := by
  obtain ⟨s₁, t, hgo, hst⟩ := goes_reaches h hs hr
  rcases call_passed hc with ⟨rfl, j, rfl⟩ | hp
  · exact ⟨s₁, hgo, fun hx => by cases hx⟩
  · obtain ⟨s₂, hgo', hst'⟩ := goes_call hgo.shows hst hp
    exact ⟨s₂, hgo.trans hgo', fun _ => ⟨t, hst'⟩⟩

/-- An attempt is a way of a single request, which ends where it began. -/
theorem goes_attempted (h : Shows s w) (hs : s.stage i = .outside)
    (ha : Attempted c p g w o entry d w') : ∃ s', Goes i s s' w w' ∧ s'.stage i = .outside := by
  have hleave {s₁ : Crowd} {w₁ : World} (hgo : Goes i s s₁ w w₁) :
      ∃ s', Goes i s s' w w₁ ∧ s'.stage i = .outside :=
    ⟨_, hgo.trans (goes_leave hgo.shows), put_self _ _ _⟩
  cases ha with
  | refused hg =>
    obtain ⟨s₁, hgo, -⟩ := goes_gate h hs hg
    exact hleave hgo
  | unbuilt hg hb =>
    obtain ⟨s₁, hgo, -⟩ := goes_gate h hs hg
    obtain ⟨s₂, hgo', -⟩ := goes_elapse i hgo.shows (build_passed hb)
    exact hleave (hgo.trans hgo')
  | hooked hg hb hh =>
    obtain ⟨s₁, hgo, -⟩ := goes_gate h hs hg
    obtain ⟨s₂, hgo', -⟩ :=
      goes_elapse i hgo.shows ((build_passed hb).trans (requestHooks_passed hh))
    exact hleave (hgo.trans hgo')
  | interrupted hg hb hh hc | late hg hb hh hc =>
    obtain ⟨s₁, hgo, -⟩ := goes_called h hs ⟨_, _, _, _, hg, hb, hh⟩ hc
    exact hleave hgo
  | @answered r₀ r result d w₁ w₂ w₃ w₄ hg hb hh hc hd =>
    obtain ⟨s₁, hgo, hst⟩ := goes_called h hs ⟨_, _, _, _, hg, hb, hh⟩ hc
    obtain ⟨t, hst⟩ := hst rfl
    have hreport := Step.report hst (Client.received result)
    refine ⟨_, hgo.trans (.step hreport rfl ⟨?_, hgo.shows.now⟩ rfl rfl), put_self _ _ _⟩
    simp only [afterReport, hgo.shows.breaker, Option.map_some, hgo.shows.now, put_breaker]

theorem goes_turn {x : Progress ⊕ Except Error Response} (h : Shows s w)
    (hs : s.stage i = .outside) (ht : turn c p g w = .ok (x, w')) :
    ∃ s', Goes i s s' w w' ∧ s'.stage i = .outside := by
  obtain ⟨o, entry, d, w₁, ha, hset⟩ := turn_cases ht
  obtain ⟨s₁, hgo, hst⟩ := goes_attempted h hs ha
  have hp : ∃ ds, Passed [] ds w₁ w' := by
    rcases settle_cases hset with ⟨y, ds, -, hp⟩ | ⟨g', d, -, hp, -⟩
    · exact ⟨ds, hp⟩
    · exact ⟨[d], hp⟩
  obtain ⟨ds, hp⟩ := hp
  obtain ⟨s₂, hgo', hst'⟩ := goes_elapse i hgo.shows hp
  exact ⟨s₂, hgo.trans hgo', by rw [hst', hst]⟩

theorem goes_loop {heads : List (Progress × World)}
    {y : Except Halt (Except Error Response × World)} {x : Except Error Response} (h : Shows s w)
    (hs : s.stage i = .outside) (hl : Loop c p heads g w y) (hy : y = .ok (x, w')) :
    ∃ s', Goes i s s' w w' ∧ s'.stage i = .outside := by
  induction hl generalizing s with
  | ends ht =>
    cases hy
    exact goes_turn h hs ht
  | halts ht => cases hy
  | goesOn ht hl ih =>
    obtain ⟨s₁, hgo, hst⟩ := goes_turn h hs ht
    obtain ⟨s₂, hgo', hst'⟩ := ih hgo.shows hst hy
    exact ⟨s₂, hgo.trans hgo', hst'⟩

/-- A request that is sent goes the way of one request of a crowd. -/
theorem goes_send {b : RequestBuilder} {x : Except Error Response} (h : Shows s w)
    (hs : s.stage i = .outside) (hsend : c.send b w = .ok (x, w')) :
    ∃ s', Goes i s s' w w' ∧ s'.stage i = .outside := by
  cases hp : b.prepare c with
  | error e =>
    simp only [Client.send, hp] at hsend
    cases hsend
    exact ⟨s, .refl h, hs⟩
  | ok p =>
    obtain ⟨heads, hl⟩ := loop_send hp w
    have hbegun : Shows s (begun p w) := ⟨h.breaker, h.now⟩
    obtain ⟨s', hgo, hst⟩ := goes_loop hbegun hs hl hsend
    exact ⟨s', ⟨hgo.shows, hgo.moves, hgo.calls⟩, hst⟩

end

end ResilientHttp.SharedBreaker
