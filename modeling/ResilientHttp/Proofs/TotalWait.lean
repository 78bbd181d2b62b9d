import ResilientHttp.Proofs.MailDates
import ResilientHttp.Proofs.RetryReference
import ResilientHttp.Proofs.WaitBounds

/-!
# The total of the waits

Every wait fits in the longest stretch of time that can be told, and the total of a run is added up
without looking whether it still fits; if it does not, the program stops. So what counts is how often
a run may wait, and for how long: a server can ask for hundreds of billions of years, which is half of
the longest stretch.
-/
namespace ResilientHttp.TotalWait
open Building Runs Turns Passage RetryReference

/-! ## What a server can ask for -/

/-- The longest wait that a server can ask for: the seconds that a signed word can hold. -/
def longestHint : Span := Span.ofSeconds 0x7FFFFFFFFFFFFFFF

/-- No clock on a wall tells a time before this one. -/
def earliest : Int := -(0x4000000000000000 * 1000000000)

/-- A number of seconds is read as a word, and dates end long before. -/
theorem parse?_le {wallClock : Int} (hw : earliest ≤ wallClock) {value : String} {d : Span}
    (h : RetryAfter.parse? wallClock value = some d) : d ≤ longestHint := by
  have hclock : -(0x4000000000000000 * 1000000000) ≤ wallClock := hw
  simp only [RetryAfter.parse?] at h
  split at h
  · rename_i n hn
    have hword := (Option.filter_eq_some_iff.mp hn).2
    split at h
    · cases h
    · cases h
      simp only [Bool.and_eq_true, decide_eq_true_eq] at hword
      simp only [longestHint, Span.ofSeconds, Span]
      omega
  · obtain ⟨m, hm, rfl⟩ := Option.map_eq_some_iff.mp h
    have hlast : MailDate.lastSecond = 8210266876800 := by decide +kernel
    obtain ⟨s, ⟨hdate, rfl⟩ | ⟨hleap, rfl⟩⟩ := MailDates.moment?_eq_some_iff.mp hm
    · have hlt := hdate.lt_lastSecond
      simp only [RetryAfter.untilMoment, MailDates.date_since, longestHint, Span.ofSeconds, Span]
      omega
    · have hlt := hleap.lt_lastSecond
      simp only [RetryAfter.untilMoment, MailDates.leapDate_since, longestHint, Span.ofSeconds,
        Span]
      split <;> omega

theorem hint?_le {wallClock : Int} (hw : earliest ≤ wallClock) {prior : Option Response} {d : Span}
    (h : Backoff.hint? wallClock prior = some d) : d ≤ longestHint := by
  obtain ⟨r, -, h⟩ := Option.bind_eq_some_iff.mp h
  split at h
  · obtain ⟨value, -, h⟩ := Option.bind_eq_some_iff.mp h
    exact parse?_le hw h
  · cases h

/-! ## Single waits -/

/-- The longest hint that a calculator follows. -/
def longestAsked (b : Backoff) : Span :=
  (b.retryAfterCap.map (Nat.min longestHint)).getD longestHint

/-- The longest single wait of a policy: the one that is set, or else what a server can ask for or
what can be computed. -/
def longestWait (q : RetryPolicy) : Span :=
  match q.backoff with
  | none => q.wait
  | some b => Nat.max b.max (longestAsked b)

/-- The policies that can be configured. -/
structure Configured (q : RetryPolicy) : Prop where
  wait : q.wait ≤ Span.longest
  backoff : ∀ b, q.backoff = some b → WaitBounds.Built b

theorem longestAsked_le (b : Backoff) : longestAsked b ≤ longestHint := by
  simp only [longestAsked]
  cases b.retryAfterCap with
  | none => exact Nat.le_refl _
  | some cap => exact Nat.min_le_left _ _

theorem Configured.longestWait_le {q : RetryPolicy} (h : Configured q) :
    longestWait q ≤ Span.longest := by
  simp only [longestWait]
  cases hb : q.backoff with
  | none => exact h.wait
  | some b =>
    have hasked : longestAsked b ≤ Span.longest := (longestAsked_le b).trans (by decide)
    exact Nat.max_le.mpr ⟨(h.backoff b hb).sound.max_le, hasked⟩

/-- The calculator that a run has come to is that of the policy, but for its memory. -/
def InStep (q : RetryPolicy) (b? : Option Backoff) : Prop :=
  match q.backoff with
  | none => b? = none
  | some b => ∃ b', b? = some b' ∧ WaitBounds.Sound b' ∧ b'.max = b.max ∧
      b'.retryAfterCap = b.retryAfterCap

theorem InStep.take {b b' : Backoff} (hs : WaitBounds.Sound b') (hmax : b'.max = b.max)
    (hcap : b'.retryAfterCap = b.retryAfterCap) (s : WaitBounds.Step) :
    WaitBounds.Sound (s.take b').2 ∧ (s.take b').2.max = b.max ∧
      (s.take b').2.retryAfterCap = b.retryAfterCap := by
  refine ⟨hs.take s, ?_⟩
  obtain ⟨previous, noise, hset⟩ := WaitBounds.take_settings b' s
  rw [hset]
  exact ⟨hmax, hcap⟩

theorem inStep_start {c : Client} {p : PreparedRequest} {q : RetryPolicy} (hq : Configured q)
    (hp : p.policy = some q) (w : World) : InStep q (c.start p w).backoff := by
  simp only [InStep, Client.start, hp, Option.bind_some]
  cases hb : q.backoff with
  | none => rfl
  | some b =>
    exact ⟨_, rfl, InStep.take (hq.backoff b hb).sound rfl rfl (.fresh (c.noise w.calls))⟩

section
variable {c : Client} {q : RetryPolicy} {b? : Option Backoff}

theorem InStep.nextSleep (h : InStep q b?) (o : Nat → Except Error Response) (n : Nat)
    (ended : Instant) : InStep q (nextSleep c q o n ended b?).2 := by
  simp only [InStep] at h ⊢
  cases hb : q.backoff with
  | none =>
    rw [hb] at h
    rw [h]
    rfl
  | some b =>
    rw [hb] at h
    obtain ⟨b', rfl, hs, hmax, hcap⟩ := h
    let call : WaitBounds.Call := ⟨WaitBounds.product b' n, c.epoch + ended, (o n).toOption⟩
    exact ⟨_, rfl, InStep.take hs hmax hcap (.call call)⟩

theorem InStep.nextSleep_le (h : InStep q b?) (hc : earliest ≤ c.epoch)
    (o : Nat → Except Error Response) (n : Nat) (ended : Instant) :
    (RetryReference.nextSleep c q o n ended b?).1 ≤ longestWait q := by
  simp only [InStep] at h
  simp only [longestWait]
  cases hb : q.backoff with
  | none =>
    rw [hb] at h
    rw [h]
    exact Nat.le_refl _
  | some b =>
    rw [hb] at h
    obtain ⟨b', rfl, hs, hmax, hcap⟩ := h
    have hclock : earliest ≤ c.epoch + ended := by
      have hnat : (0 : Int) ≤ (ended : Int) := Int.natCast_nonneg ended
      omega
    have hsleep : (RetryReference.nextSleep c q o n ended (some b')).1 =
        (WaitBounds.answer b' ⟨WaitBounds.product b' n, c.epoch + ended, (o n).toOption⟩).1 := rfl
    rw [hsleep]
    simp only [WaitBounds.answer]
    split
    · rename_i delay hdelay
      have hhint : delay ≤ longestHint := hint?_le hclock hdelay
      refine Nat.le_trans ?_ (Nat.le_max_right _ _)
      simp only [longestAsked, hcap]
      cases b.retryAfterCap with
      | none => exact hhint
      | some cap =>
        exact Nat.le_min.mpr ⟨(Nat.min_le_left _ _).trans hhint, Nat.min_le_right _ _⟩
    · refine Nat.le_trans ?_ (Nat.le_max_left _ _)
      rw [← hmax]
      exact (WaitBounds.computed_bounds hs _).2

end

/-! ## What can halt a run -/

/-- Nothing comes of it only if it never ends. -/
def OnlyHangs {α : Type} (x : Run α) : Prop := ∀ w e, x w = .error e → e = .hang

section
variable {α β : Type}

theorem onlyHangs_pure (a : α) : OnlyHangs (pure a : Run α) := nofun

theorem onlyHangs_get : OnlyHangs (get : Run World) := nofun

theorem onlyHangs_modify (f : World → World) : OnlyHangs (modify f : Run Unit) := nofun

theorem OnlyHangs.bind {x : Run α} {f : α → Run β} (hx : OnlyHangs x) (hf : ∀ a, OnlyHangs (f a)) :
    OnlyHangs (x >>= f) := by
  intro w e h
  rcases of_bind_error h with hx' | ⟨a, w₁, -, hf'⟩
  · exact hx w e hx'
  · exact hf a w₁ e hf'

theorem run_error {b : Bounds} {t : Activity α} {w : World} {e : Halt} (h : t.run b w = .error e) :
    e = .hang := by
  induction t generalizing w with
  | done a => cases h
  | taken call next ih | stall d next ih | cancel next ih => exact ih h
  | hang =>
    simp only [Activity.run] at h
    split at h <;> cases h
    rfl
  | sleep d next ih =>
    simp only [Activity.run] at h
    split at h
    · exact ih h
    · split at h
      · cases h
      · exact ih h

theorem runThrough_error {b : Bounds} {t : Activity α} {w : World} {e : Halt}
    (h : t.runThrough b w = .error e) : e = .hang := by
  induction t generalizing w with
  | done a => cases h
  | taken call next ih | stall d next ih | cancel next ih => exact ih h
  | hang =>
    cases h
    rfl
  | sleep d next ih =>
    simp only [Activity.runThrough] at h
    split at h <;> exact ih h

theorem onlyHangs_within (b : Bounds) (e : Event) (t : Activity α) :
    OnlyHangs (Run.within b e t) := by
  intro w halt h
  rw [Run.within, map_eq_error_iff, Activity.runBounded] at h
  split at h
  · cases h
  · split at h
    · cases h
    · exact run_error h

end

section
variable {c : Client} {p : PreparedRequest} {q : RetryPolicy} {g : Progress} {w : World}
  {o : Except Error Response}

theorem onlyHangs_requestHooks (b : Bounds) (i : Nat) (r : Request) (hooks : List Hook) :
    OnlyHangs (Client.requestHooks b i r hooks) := by
  induction hooks generalizing i r with
  | nil => exact onlyHangs_pure _
  | cons hook hooks ih =>
    refine onlyHangs_get.bind fun w => (onlyHangs_modify _).bind fun _ => ?_
    refine OnlyHangs.bind (fun _ _ => runThrough_error) fun _ => ?_
    cases hook.onRequest (w.requestsSeen i) r with
    | ok r' => exact ih _ _
    | error e => exact onlyHangs_pure _

theorem onlyHangs_responseHooks (slack i : Nat) (r : Response) (hooks : List Hook) :
    OnlyHangs (Client.responseHooks slack i r hooks) := by
  induction hooks generalizing i r with
  | nil => exact onlyHangs_pure _
  | cons hook hooks ih =>
    refine onlyHangs_get.bind fun w => (onlyHangs_modify _).bind fun _ => ?_
    refine OnlyHangs.bind (fun _ _ => runThrough_error) fun x => ?_
    cases x with
    | ok r' => exact ih _ _
    | error e => exact onlyHangs_pure _

theorem onlyHangs_finish (g : Progress) (o : Except Error Response) :
    OnlyHangs (c.finish g o) := by
  cases o with
  | error e => exact onlyHangs_pure _
  | ok r => exact onlyHangs_get.bind fun _ => onlyHangs_responseHooks _ _ _ _

theorem onlyHangs_exchange (g : Progress) (r : Request) : OnlyHangs (c.exchange p g r) := by
  refine onlyHangs_get.bind fun _ => OnlyHangs.bind ?_ fun x => ?_
  · exact onlyHangs_get.bind fun _ => onlyHangs_within _ _ _
  · cases x with
    | error e => exact onlyHangs_pure _
    | ok result =>
      refine onlyHangs_get.bind fun _ => ?_
      dsimp only
      split
      · exact onlyHangs_pure _
      · exact (onlyHangs_modify _).bind fun _ => onlyHangs_pure _

theorem onlyHangs_attempt (g : Progress) : OnlyHangs (c.attempt p g) := by
  have hgate : OnlyHangs Client.gate := fun w e h => by
    obtain ⟨x, hx⟩ := gate_total w
    cases hx.symm.trans h
  have hbuild (d : Draft) (n : Nat) : OnlyHangs (d.build n) := fun w e h => by
    cases (build_eq d n w).symm.trans h
  refine hgate.bind fun x => ?_
  cases x with
  | error e => exact onlyHangs_pure _
  | ok u =>
    refine (hbuild _ _).bind fun y => ?_
    obtain ⟨x, d⟩ := y
    cases x with
    | error e => exact onlyHangs_pure _
    | ok r =>
      refine (onlyHangs_requestHooks _ _ _ _).bind fun x => ?_
      cases x with
      | error e => exact onlyHangs_pure _
      | ok r' => exact onlyHangs_exchange _ _

theorem add_error {d d' : Span} (h : Run.add d d' w = .error .overflow) :
    Span.longest < d + d' := by
  simp only [Run.add] at h
  split at h
  · cases h
  · exact Nat.not_le.mp ‹_›

/-- A pause stops the program only if the total gets too long. -/
theorem pause_overflow (h : c.pause p q g o w = .error .overflow) :
    Span.longest < g.totalWait + (c.nextWait q g w.now o).1 := by
  have hdrain : OnlyHangs (Client.drain p o) := by
    cases o with
    | error e => exact onlyHangs_pure _
    | ok r => exact onlyHangs_within _ _ _
  obtain hx | ⟨_, _, hw, h⟩ := of_bind_error h
  · cases hx
  cases hw
  obtain hx | ⟨y, w₁, -, h⟩ := of_bind_error h
  · cases hdrain _ _ hx
  cases y with
  | error e => cases h
  | ok u =>
    obtain hx | ⟨z, w₂, -, h⟩ := of_bind_error h
    · cases onlyHangs_within _ _ _ _ _ hx
    cases z with
    | error e => cases h
    | ok u =>
      obtain hx | ⟨total, w₃, -, h⟩ := of_bind_error h
      · have htotal : (c.nextWait q g w.now o).2.totalWait = g.totalWait := by
          rw [nextWait_keeps]
        have hlong : Span.longest <
            (c.nextWait q g w.now o).2.totalWait + (c.nextWait q g w.now o).1 := add_error hx
        rwa [htotal] at hlong
      · cases h

/-- A turn stops the program only in the pause before another one. -/
theorem turn_overflow (h : turn c p g w = .error .overflow) :
    ∃ q o entry d w₁, moveAfter p (g.attempt + 1) o = .again q ∧
      c.pause p q (advanced g entry d) o w₁ = .error .overflow := by
  obtain hx | ⟨⟨o, g₁⟩, w₁, ha, h⟩ := of_bind_error h
  · cases onlyHangs_attempt g _ _ hx
  obtain ⟨entry, d, -, rfl⟩ := attempt_cases ha
  change settle c p (advanced g entry d) o w₁ = _ at h
  cases hm : moveAfter p (g.attempt + 1) o with
  | finish =>
    rw [settle_finish hm, map_eq_error_iff] at h
    cases onlyHangs_finish _ _ _ _ h
  | exhaust =>
    rw [settle_exhaust hm] at h
    cases h
  | again q =>
    rw [settle_again hm, map_eq_error_iff] at h
    exact ⟨q, o, entry, d, w₁, hm, h⟩

end

/-! ## The waits of a run -/

/-- The waits that a run has made since it began, and that they are what its total tells. -/
structure Summed (q : RetryPolicy) (w₀ : World) (g : Progress) (w : World) (ds : List Span) :
    Prop where
  waits : Runs.waits w = Runs.waits w₀ ++ ds
  length : ds.length = g.attempt
  sum : ds.sum = g.totalWait
  le : ∀ d ∈ ds, d ≤ longestWait q
  fits : g.totalWait ≤ Span.longest

section
variable {c : Client} {p : PreparedRequest} {q : RetryPolicy} {g g' : Progress}
  {w₀ w w' : World} {ds : List Span}

theorem Summed.totalWait_le (h : Summed q w₀ g w ds) :
    g.totalWait ≤ g.attempt * longestWait q := by
  have hsum := List.sum_le_card_nsmul ds (longestWait q) h.le
  rwa [h.sum, h.length, smul_eq_mul] at hsum

theorem Summed.turn (h : Summed q w₀ g w ds) (hi : InStep q g.backoff) (hp : p.policy = some q)
    (hc : earliest ≤ c.epoch) (ht : turn c p g w = .ok (.inl g', w')) :
    InStep q g'.backoff ∧ ∃ d, Summed q w₀ g' w' (ds ++ [d]) := by
  obtain ⟨q', o, entry, draft, w₁, hp', ha, hpause⟩ := turn_next ht
  obtain rfl : q' = q := Option.some.inj (hp'.symm.trans hp)
  obtain ⟨d, w₂, hd, hdrain, hsleep, hfits, rfl⟩ := pause_ok hpause
  have hnext := nextWait_eq c q' (fun _ => o) (advanced g entry draft) w₁.now
  rw [hnext] at hd
  refine ⟨?_, d, ?_, ?_, ?_, ?_, hfits⟩
  · simp only [hnext]
    exact hi.nextSleep _ _ _
  · rcases within_passed hsleep with ⟨-, i, he⟩ | hslept
    · cases he
    · rw [((passed_wait w₂ d).trans hslept).waits, (drain_passed hdrain).waits, attempted_waits ha,
        h.waits]
      simp only [List.append_nil, List.append_assoc]
  · rw [List.length_append, h.length]
    rfl
  · rw [List.sum_append, h.sum, List.sum_singleton]
    rfl
  · intro x hx
    rcases List.mem_append.mp hx with hx | hx
    · exact h.le x hx
    · rw [List.mem_singleton.mp hx, hd]
      exact hi.nextSleep_le hc _ _ _

theorem Summed.loop {heads : List (Progress × World)}
    {y : Except Halt (Except Error Response × World)} (hl : Loop c p heads g w y)
    (h : Summed q w₀ g w ds) (hi : InStep q g.backoff) (hp : p.policy = some q)
    (hc : earliest ≤ c.epoch) {head : Progress × World} (hm : head ∈ heads) :
    InStep q head.1.backoff ∧ ∃ ds, Summed q w₀ head.1 head.2 ds := by
  induction hl generalizing ds with
  | ends ht | halts ht =>
    obtain rfl := List.mem_singleton.mp hm
    exact ⟨hi, ds, h⟩
  | goesOn ht hl ih =>
    rcases List.mem_cons.mp hm with rfl | hm
    · exact ⟨hi, ds, h⟩
    · obtain ⟨hi', d, h'⟩ := h.turn hi hp hc ht
      exact ih h' hi' hm

/-- A turn that stops the program was to wait longer than fits, and no longer than the policy can
make it. -/
theorem overflow_le (hi : InStep q g.backoff) (hp : p.policy = some q) (hc : earliest ≤ c.epoch)
    (ht : turn c p g w = .error .overflow) :
    g.attempt + 1 < limit (some q) ∧ Span.longest < g.totalWait + longestWait q := by
  obtain ⟨q', o, entry, d, w₁, hm, hpause⟩ := turn_overflow ht
  obtain ⟨hp', hlt⟩ := moveAfter_again hm
  obtain rfl : q' = q := Option.some.inj (hp'.symm.trans hp)
  have hlong := pause_overflow hpause
  rw [nextWait_eq c q' (fun _ => o) (advanced g entry d) w₁.now] at hlong
  have hle := hi.nextSleep_le hc (fun _ => o) (g.attempt + 1) w₁.now
  exact ⟨hp ▸ hlt, Nat.lt_of_lt_of_le hlong (Nat.add_le_add_left hle _)⟩

end

/-! ## A server that asks for the longest wait -/

/-- A service that stays away asks for the longest wait every time. -/
def demanding : Reply :=
  (Reply.mk away {} none []).withHeader "Retry-After" "9223372036854775807"

def insisting : Nat → Except Error Response := fun _ => .ok (.ofReply demanding)

/-- Whatever the policy computes, a server can ask for as much. -/
def Outdone (q : RetryPolicy) : Prop := ∀ b, q.backoff = some b → b.max ≤ longestAsked b

theorem hint?_demanding (wallClock : Int) :
    Backoff.hint? wallClock (some (.ofReply demanding)) = some longestHint := by
  have hcode : (Response.ofReply demanding).status.code = 503 := by decide +kernel
  have htext : (Response.ofReply demanding).headers.text? .retryAfter =
      some "9223372036854775807" := by decide +kernel
  have hnumber : Text.readInt64? (Text.trimChars "9223372036854775807".toList) =
      some 9223372036854775807 := by decide +kernel
  simp only [Backoff.hint?, Option.bind_some, hcode, htext, RetryAfter.parse?, hnumber]
  rfl

theorem nextSleep_insisting {c : Client} {q : RetryPolicy} {b? : Option Backoff}
    (h : InStep q b?) (ho : Outdone q) (n : Nat) (ended : Instant) :
    (nextSleep c q insisting n ended b?).1 = longestWait q := by
  simp only [InStep] at h
  simp only [longestWait]
  cases hb : q.backoff with
  | none =>
    rw [hb] at h
    rw [h]
    rfl
  | some b =>
    rw [hb] at h
    obtain ⟨b', rfl, -, -, hcap⟩ := h
    have hasked : (nextSleep c q insisting n ended (some b')).1 = longestAsked b' := by
      simp only [nextSleep, insisting, Except.toOption, Backoff.nextWait, hint?_demanding]
      rfl
    have hsame : longestAsked b' = longestAsked b := by simp only [longestAsked, hcap]
    rw [hasked, hsame]
    exact (Nat.max_eq_right (ho b hb)).symm

section
variable {c : Client} {b : RequestBuilder} {p : PreparedRequest} {q : RetryPolicy}
  {g : Progress} {w₀ w : World}

theorem stops_insisting_iff (hp : p.policy = some q) (n : Nat) :
    Stops p insisting (n + 1) ↔ limit (some q) ≤ n + 1 := by
  have hverdict : Verdict.ofOutcome (some (.ofReply demanding)) none = .retry := by decide +kernel
  exact stops_retried_iff hp (Nat.add_one_pos n) hverdict

theorem sleeps_insisting {b? : Option Backoff} (hi : InStep q b?) (ho : Outdone q) (n : Nat)
    (ended : List Instant) :
    sleeps c q insisting n b? ended = List.replicate ended.length (longestWait q) := by
  induction ended generalizing n b? with
  | nil => rfl
  | cons t ended ih =>
    rw [sleeps, nextSleep_insisting hi ho, ih (hi.nextSleep insisting n t), List.length_cons,
      List.replicate_succ]

theorem total_replicate (n : Nat) (d : Span) : total (List.replicate n d) = n * d := by
  induction n with
  | zero => exact (Nat.zero_mul d).symm
  | succ n ih => rw [List.replicate_succ, total_cons, ih, Nat.succ_mul, Nat.add_comm]

/-- Such a service keeps a run waiting as long as the policy permits, or until the total gets too
long. -/
theorem overflow_of_insisting (h : Undisturbed c b p w insisting) (hp : p.policy = some q)
    (hq : Configured q) (ho : Outdone q)
    (hlt : Span.longest < (limit (some q) - 1) * longestWait q) :
    c.send b w = .error .overflow := by
  obtain ⟨heads, hl⟩ := loop_send h.prepared w
  rcases h.loop hl (ready_start h) with
    ⟨x, w', earlier, last, ds, hy, hds, hfits, hstop, -⟩ | ⟨ended, ds, hy, -⟩
  · have hi : InStep q (c.start p (begun p w)).backoff := inStep_start hq hp _
    have hfirst : (c.start p (begun p w)).attempt = 0 := rfl
    have hnone : (c.start p (begun p w)).totalWait = 0 := rfl
    rw [hfirst, Nat.zero_add] at hstop
    have hlast := (stops_insisting_iff hp earlier.length).mp hstop
    have htotal : total ds = earlier.length * longestWait q := by
      simp only [hds, gaps, hp, sleeps_insisting hi ho, total_replicate, List.length_map]
    rw [hnone, Nat.zero_add, htotal] at hfits
    have hcount : (limit (some q) - 1) * longestWait q ≤ earlier.length * longestWait q :=
      Nat.mul_le_mul_right _ (Nat.sub_le_iff_le_add.mpr hlast)
    exact absurd hlt (Nat.not_lt.mpr (hcount.trans hfits))
  · exact hy

end

def besieged (q : RetryPolicy) : Client := echoing q demanding

theorem besieged_undisturbed (q : RetryPolicy) :
    ∃ p, p.policy = some q ∧ Undisturbed (besieged q) lookup p {} insisting := by
  obtain ⟨p, hq, h⟩ := echoing_undisturbed q demanding
  have hplain : (Response.ofReply demanding).headers.get? .contentEncoding = none := by
    decide +kernel
  have houtcome : (besieged q).outcome (.ok demanding) = .ok (.ofReply demanding) := by
    change (Response.ofReply demanding).decompress (besieged q).decompressors = _
    simp only [Response.decompress, hplain]
  refine ⟨p, hq, ?_⟩
  have hsame : insisting = fun _ => (besieged q).outcome (.ok demanding) := by
    funext n
    exact houtcome.symm
  rw [hsame]
  exact h

/-- The turns of a run under a policy. -/
structure Turned (q : RetryPolicy) (c : Client) (p : PreparedRequest) (w : World)
    (heads : List (Progress × World)) : Prop where
  policy : p.policy = some q
  clock : earliest ≤ c.epoch
  loop : Loop c p heads (c.start p (begun p w)) (begun p w) (c.execute p w)

theorem limit_some_pos (q : RetryPolicy) : 0 < limit (some q) :=
  Nat.lt_of_lt_of_le Nat.one_pos (Nat.le_max_left _ _)

section
variable {q : RetryPolicy} {c : Client} {p : PreparedRequest} {w : World}
  {heads : List (Progress × World)} {head : Progress × World}

theorem Turned.attempt_lt (h : Turned q c p w heads) (hm : head ∈ heads) :
    head.1.attempt < limit (some q) := by
  obtain ⟨i, hi⟩ := List.mem_iff_getElem?.mp hm
  have hzero : (c.start p (begun p w)).attempt = 0 := rfl
  have hattempt : head.1.attempt = (c.start p (begun p w)).attempt + i := h.loop.attempt hi
  have hfirst : (c.start p (begun p w)).attempt < limit p.policy := by
    rw [hzero, h.policy]
    exact limit_some_pos q
  have hlength := h.loop.length_le hfirst
  have hlt : i < heads.length := (List.getElem?_eq_some_iff.mp hi).1
  rw [h.policy] at hlength
  omega

theorem Turned.summed (h : Turned q c p w heads) (hq : Configured q) (hm : head ∈ heads) :
    InStep q head.1.backoff ∧ ∃ ds, Summed q w head.1 head.2 ds := by
  have hstart : Summed q w (c.start p (begun p w)) (begun p w) [] :=
    ⟨(List.append_nil _).symm, rfl, rfl, by simp, Nat.zero_le _⟩
  exact hstart.loop h.loop (inStep_start hq h.policy _) h.policy h.clock hm

/-- While as many of the longest waits fit as there are between the attempts, so does every total. -/
theorem Turned.ne_overflow (h : Turned q c p w heads) (hq : Configured q)
    (hfits : (limit (some q) - 1) * longestWait q ≤ Span.longest) :
    c.execute p w ≠ .error .overflow := by
  intro hover
  obtain ⟨head, hm, ht⟩ := h.loop.turn_halts hover
  obtain ⟨hi, ds, hsummed⟩ := h.summed hq hm
  obtain ⟨hmore, hlong⟩ := overflow_le hi h.policy h.clock ht
  have hle : head.1.totalWait + longestWait q ≤ Span.longest := by
    calc head.1.totalWait + longestWait q
        ≤ head.1.attempt * longestWait q + longestWait q :=
          Nat.add_le_add_right hsummed.totalWait_le _
      _ = (head.1.attempt + 1) * longestWait q := (Nat.succ_mul _ _).symm
      _ ≤ (limit (some q) - 1) * longestWait q :=
          Nat.mul_le_mul_right _ (Nat.le_sub_one_of_lt hmore)
      _ ≤ Span.longest := hfits
  exact absurd hlong (Nat.not_lt.mpr hle)

end

/-- The totals of a policy's runs. Each is the sum of the waits so far, and none of these is longer
than the policy can make it. So every total fits if as many of the longest waits fit as there are
between the attempts. If they do not, and a server can ask for the longest wait, a server that stays
away stops the program. -/
theorem total_fits {q : RetryPolicy} (hq : Configured q) :
    longestWait q ≤ Span.longest ∧
    (∀ c p w heads, Turned q c p w heads → ∀ head ∈ heads,
      head.1.attempt < limit (some q) ∧ ∃ ds, Summed q w head.1 head.2 ds) ∧
    ((limit (some q) - 1) * longestWait q ≤ Span.longest →
      ∀ (c : Client) (p : PreparedRequest) w, p.policy = some q → earliest ≤ c.epoch →
        c.execute p w ≠ .error .overflow) ∧
    (Outdone q → Span.longest < (limit (some q) - 1) * longestWait q →
      ∃ p, lookup.prepare (besieged q) = .ok p ∧ p.policy = some q ∧
        (besieged q).send lookup {} = .error .overflow) := by
  refine ⟨hq.longestWait_le, ?_, ?_, ?_⟩
  · intro c p w heads h head hm
    exact ⟨h.attempt_lt hm, (h.summed hq hm).2⟩
  · intro hfits c p w hp hc
    obtain ⟨heads, hl⟩ := loop_execute c p w
    exact Turned.ne_overflow ⟨hp, hc, hl⟩ hq hfits
  · intro ho hlt
    obtain ⟨p, hp, h⟩ := besieged_undisturbed q
    exact ⟨p, h.prepared, hp, overflow_of_insisting h hp hq ho hlt⟩

/-- Two attempts have one wait between them, and that may be the longest one. Three have two. -/
theorem longest_fits_once :
    (∀ (c : Client) (p : PreparedRequest) w, p.policy = some (.constant 2 Span.longest) →
      earliest ≤ c.epoch → c.execute p w ≠ .error .overflow) ∧
    (besieged (.constant 3 Span.longest)).send lookup {} = .error .overflow := by
  have hconstant (n : Nat) : Configured (.constant n Span.longest) :=
    ⟨Nat.le_refl _, fun b hb => nomatch hb⟩
  constructor
  · obtain ⟨-, -, hfits, -⟩ := total_fits (hconstant 2)
    exact hfits (by decide)
  · obtain ⟨-, -, -, hexceeds⟩ := total_fits (hconstant 3)
    obtain ⟨p, -, -, hover⟩ := hexceeds (fun b hb => nomatch hb) (by decide)
    exact hover

/-- The totals of two runs exceed the longest stretch of time and stop the program: a policy sets the
longest wait, or a policy that computes its waits is asked for the longest ones. -/
theorem besieged_exceeds_longest :
    (besieged (.constant 3 Span.longest)).send lookup {} = .error .overflow ∧
    Span.longest < Span.longest + Span.longest ∧
    (besieged (.ofAttempts 4)).send lookup {} = .error .overflow ∧
    Span.longest < longestHint + longestHint + longestHint := by
  rw [← halt?_eq_some_iff, ← halt?_eq_some_iff]
  decide +kernel

end ResilientHttp.TotalWait
