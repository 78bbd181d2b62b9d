import ResilientHttp.Proofs.Passage

/-!
# Cancellation and deadlines

A request may be cancelled at an instant and may have a deadline; the earlier of the two cuts it
short. A run goes through worlds in which the cut still lies ahead. Whatever can be cut short begins
only in such a world, and either it comes to its end there or it fails at the very instant of the cut,
and this failure is handed on as it is.
-/
namespace ResilientHttp.CutShort
open Building Runs Turns Passage

/-- When the token of a request fires, seen from the instant at which sending starts. One that fired
before has fired by then. -/
def firing (p : PreparedRequest) (start : Instant) : Option Instant :=
  if p.cancelled then some start else p.bounds.cancelAt

/-- The token cancels the request if it has fired when the request is cut; the deadline ends it
otherwise. -/
def reason (p : PreparedRequest) (start cut : Instant) : Interruption :=
  if (firing p start).any fun t => t ≤ max start cut then .cancelled else .deadline

/-- The event is one that a cut prevents. -/
def Begins : Event → Prop
  | .call _ | .drain | .wait _ => True
  | _ => False

/-- From one world to another no call, no drain and no wait begins at a certain instant or later. -/
structure Heeds (cut : Instant) (w w' : World) : Prop where
  history : ∃ es, w'.history = es ++ w.history ∧ ∀ x ∈ es, Begins x.2 → x.1 < cut

/-- The activity neither keeps others from running beyond an instant nor cancels the request; it is
taken up at some instant. -/
def Yields {α : Type} (b : Bounds) (cut : Instant) : Activity α → Instant → Prop
  | .done _, _ | .hang, _ => True
  | .taken _ next, t => Yields b cut next t
  | .sleep d next, t => t + d < cut → Yields b cut next (t + d)
  | .stall d next, t => t + d < cut ∧ Yields b cut next (t + d)
  | .cancel next, t => b.cancellable = false ∧ Yields b cut next t

/-- The activity is over as soon as it begins, and it does not cancel the request. -/
def AtOnce {α : Type} : Activity α → Prop
  | .done _ => True
  | .taken _ next => AtOnce next
  | .sleep d next | .stall d next => d = 0 ∧ AtOnce next
  | .cancel _ | .hang => False

/-- A request that is cut short at an instant of the clock, by a token that fires or by its deadline,
with exact timers and with hooks that complete at once. -/
structure Setting (c : Client) (b : RequestBuilder) (p : PreparedRequest) (start cut : Instant) :
    Prop where
  prepared : b.prepare c = .ok p
  exact : c.slack = 0
  clock : cut ≤ RequestBuilder.clockEnd
  ahead : p.cancelled = false → ∀ t, p.bounds.cancelAt = some t → start < t
  before : ∀ hook ∈ c.hooks, ∀ seen r, AtOnce (hook.beforeRequest seen r)
  after : ∀ hook ∈ c.hooks, ∀ seen r, AtOnce (hook.onResponse seen r)
  cuts : firing p start = some cut ∨ p.bounds.deadline = some cut
  fires : ∀ t, firing p start = some t → cut ≤ t
  deadline : ∀ t, p.bounds.deadline = some t → cut ≤ t

/-- The cut still lies ahead. -/
structure Early (start cut : Instant) (w : World) : Prop where
  start : start < cut
  now : w.now < cut
  cancelled : w.cancelled = false

/-- The request stands before its cut, or it was over when it started and nothing happened since. -/
def Stands (p : PreparedRequest) (start cut : Instant) (w : World) : Prop :=
  Early start cut w ∨ cut ≤ start ∧ w.now = start ∧ w.cancelled = p.cancelled

/-- Something that a cut can end comes to its end before the cut, or it fails at the cut; the breaker
has no part in it. -/
structure Curbed {α : Type} (p : PreparedRequest) (start cut : Instant) (w : World)
    (x : Except Error α) (w' : World) : Prop where
  heeds : Heeds cut w w'
  breaker : w'.breaker = w.breaker
  ends : (∃ a, x = .ok a) ∧ Early start cut w' ∨
    x = .error (reason p start cut).error ∧ w'.now = max start cut

/-- How a request with a cut comes to its end in its last attempt. -/
inductive Ends (c : Client) (p : PreparedRequest) (start cut : Instant) (head : Progress × World) :
    Except Error Response → World → Prop
  /-- The gate, the rebuild or a hook fails, and this is final. -/
  | failed {o x : Except Error Response} {entry : Option AttemptTrace} {d : Draft} {v w : World}
      (ha : Attempted c p head.1 head.2 o entry d v)
      (hr : ∀ r u, ¬ Reaches c p head.1 head.2 r u)
      (hm : ∀ q, moveAfter p (head.1.attempt + 1) o ≠ .again q)
      (hs : settle c p (advanced head.1 entry d) o v = .ok (.inr x, w)) :
      Ends c p start cut head x w
  /-- The transport answers before the cut, and this is final. -/
  | answered {o x : Except Error Response} {entry : AttemptTrace} {d : Draft} {v w : World}
      (ha : Attempted c p head.1 head.2 o (some entry) d v) (hv : v.now < cut)
      (hm : ∀ q, moveAfter p (head.1.attempt + 1) o ≠ .again q)
      (hs : settle c p (advanced head.1 (some entry) d) o v = .ok (.inr x, w)) :
      Ends c p start cut head x w
  /-- The attempt is cut short and tells the breaker nothing. -/
  | abandoned {d : Draft} {w : World}
      (ha : Attempted c p head.1 head.2 (.error (reason p start cut).error) none d w)
      (hb : w.breaker = (gated head.2).breaker) (hn : w.now = max start cut) :
      Ends c p start cut head (.error (reason p start cut).error) w
  /-- The attempt would have been followed by another one, and the pause is cut short. -/
  | halted {o : Except Error Response} {entry : Option AttemptTrace} {d : Draft} {v w : World}
      {q : RetryPolicy} (ha : Attempted c p head.1 head.2 o entry d v)
      (hm : moveAfter p (head.1.attempt + 1) o = .again q)
      (hb : w.breaker = v.breaker) (hn : w.now = max start cut) :
      Ends c p start cut head (.error (reason p start cut).error) w

/-- Sending comes to an end no later than its cut: no attempt but the first begins from then on, and
no call, drain or wait does. -/
def IsCut (c : Client) (b : RequestBuilder) (p : PreparedRequest) (w : World) (cut : Instant) :
    Prop :=
  ∃ heads head x w', c.send b w = .ok (x, w') ∧
    Loop c p heads (c.start p (begun p w)) (begun p w) (.ok (x, w')) ∧
    Heeds cut w w' ∧ w'.now ≤ max w.now cut ∧ (∀ later ∈ heads.tail, later.2.now < cut) ∧
    heads.getLast? = some head ∧ Ends c p w.now cut head x w'

section
variable {cut : Instant} {w w' w'' : World}

theorem Heeds.of_eq (h : w'.history = w.history) : Heeds cut w w' := ⟨[], h, by simp⟩

theorem Heeds.refl (w : World) : Heeds cut w w := .of_eq rfl

theorem Heeds.trans (h : Heeds cut w w') (h' : Heeds cut w' w'') : Heeds cut w w'' := by
  obtain ⟨es, he, hes⟩ := h.history
  obtain ⟨es', he', hes'⟩ := h'.history
  refine ⟨es' ++ es, by rw [he', he, List.append_assoc], ?_⟩
  intro x hx
  rcases List.mem_append.mp hx with hx | hx
  · exact hes' x hx
  · exact hes x hx

theorem Heeds.note {e : Event} (h : Begins e → w.now < cut) : Heeds cut w (w.note e) :=
  ⟨[(w.now, e)], rfl, by simpa using h⟩

theorem Heeds.taken (h : Adds IsTaken w w') : Heeds cut w w' := by
  obtain ⟨es, he, hes⟩ := h.history
  refine ⟨es, he, fun x hx hb => ?_⟩
  obtain ⟨t, e⟩ := x
  have htaken := hes _ hx
  cases e with
  | taken n => exact hb.elim
  | _ => exact htaken.elim

end

theorem alarm_exact (now due : Instant) : alarm 0 now due = max now due := by
  simp only [alarm]
  split
  · exact (Nat.max_eq_left ‹_›).symm
  · rename_i h
    rw [Nat.max_eq_right (Nat.le_of_not_le h), Nat.add_zero, Nat.zero_add, Nat.div_one, Nat.mul_one]

theorem yields_pass {b : Bounds} {cut : Instant} (s : ByteStream) (t : Instant) :
    Yields b cut (.pass (.done ()) s) t := by
  induction s generalizing t with
  | nil => trivial
  | cons e s ih =>
    cases e with
    | pause d => exact fun _ => ih _
    | _ => exact ih t

theorem AtOnce.runThrough {α : Type} {b : Bounds} {t : Activity α} (h : AtOnce t) (w : World) :
    ∃ a w', t.runThrough b w = .ok (a, w') ∧ w'.now = w.now ∧ w'.cancelled = w.cancelled := by
  induction t generalizing w with
  | done a => exact ⟨a, w, rfl, rfl, rfl⟩
  | taken n next ih => exact ih h (w.note (.taken n))
  | stall d next ih =>
    obtain ⟨rfl, hnext⟩ := h
    exact ih hnext w
  | cancel next ih => exact h.elim
  | hang => exact h.elim
  | sleep d next ih =>
    obtain ⟨rfl, hnext⟩ := h
    have hends : alarm b.slack w.now (w.now + 0) = w.now := if_pos (Nat.le_refl _)
    obtain ⟨a, w', hrun, hw⟩ := ih hnext w
    refine ⟨a, w', ?_, hw⟩
    simp only [Activity.runThrough, hends, if_pos, hrun]

section
variable {c : Client} {b : RequestBuilder} {p : PreparedRequest} {start cut : Instant}
  {w w' : World} {g : Progress} {q : RetryPolicy} {o : Except Error Response}

theorem Setting.slack (h : Setting c b p start cut) : p.bounds.slack = 0 := by
  rw [prepare_eq h.prepared]
  exact h.exact

theorem Setting.uncancelled (h : Setting c b p start cut) (hs : start < cut) :
    p.cancelled = false := by
  cases hp : p.cancelled with
  | false => rfl
  | true =>
    have hf : firing p start = some start := by simp only [firing, hp, if_true]
    exact absurd hs (Nat.not_lt.mpr (h.fires start hf))

theorem isBy_of_le {i j : Instant} {limit : Option Instant} (h : Bounds.isBy j limit = true)
    (hij : i ≤ j) : Bounds.isBy i limit = true := by
  cases limit with
  | none => rfl
  | some l => exact decide_eq_true (Nat.le_trans hij (of_decide_eq_true h))

/-- Something that waits is cut short unless it ends before the cut. -/
theorem Setting.interruption? (h : Setting c b p start cut) (hw : Early start cut w)
    (limit : Option Instant) : p.bounds.interruption? w limit =
      if Bounds.isBy cut limit then some (cut, reason p start cut) else none := by
  have hfiring : firing p start = p.bounds.cancelAt := by
    simp only [firing, h.uncancelled hw.start, Bool.false_eq_true, if_false]
  have hcancel : p.bounds.cancelAt.map (Nat.max w.now) = p.bounds.cancelAt := by
    refine (Option.map_congr fun t ht => ?_).trans Option.map_id'
    rw [← hfiring] at ht
    exact Nat.max_eq_right (Nat.le_trans (Nat.le_of_lt hw.now) (h.fires t ht))
  have hdue : p.bounds.deadline.map (alarm 0 w.now) = p.bounds.deadline := by
    refine (Option.map_congr fun t ht => ?_).trans Option.map_id'
    rw [alarm_exact]
    exact Nat.max_eq_right (Nat.le_trans (Nat.le_of_lt hw.now) (h.deadline t ht))
  have hmax : max start cut = cut := Nat.max_eq_right (Nat.le_of_lt hw.start)
  simp only [Bounds.interruption?, h.slack, hw.cancelled, Bool.false_eq_true, if_false, hcancel, hdue,
    reason, hfiring, hmax]
  by_cases hat : p.bounds.cancelAt = some cut
  · -- The token fires at the cut, no later than the deadline.
    have hby : Bounds.isBy cut p.bounds.deadline = true := by
      cases hd : p.bounds.deadline with
      | none => rfl
      | some d => exact decide_eq_true (h.deadline d hd)
    cases hl : Bounds.isBy cut limit with
    | true => simp [hat, Option.filter_some, hby, hl]
    | false =>
      have hlate : (p.bounds.deadline.filter fun d => Bounds.isBy d limit) = none := by
        refine Option.filter_eq_none_iff.mpr fun d hd hby' => ?_
        have hcut := isBy_of_le hby' (h.deadline d hd)
        rw [hl] at hcut
        cases hcut
      simp [hat, Option.filter_some, hby, hl, hlate]
  · have hd : p.bounds.deadline = some cut := by
      rw [← hfiring] at hat
      exact h.cuts.resolve_left hat
    -- A token that fires after the deadline does not matter.
    have hlater : ∀ t, p.bounds.cancelAt = some t → ¬ t ≤ cut := fun t ht hle => by
      have hge := h.fires t (hfiring.trans ht)
      exact hat (ht.trans (congrArg some (Nat.le_antisymm hle hge)))
    cases hc : p.bounds.cancelAt with
    | none => cases hl : Bounds.isBy cut limit <;> simp [hd, Option.filter_some, hl]
    | some t =>
      have ht := hlater t hc
      have hby : Bounds.isBy t (some cut) = false := decide_eq_false ht
      cases hl : Bounds.isBy cut limit <;> simp [hd, Option.filter_some, hl, hby, ht]

/-- Before the cut an activity comes to its end or is cut short, at the cut and with the reason for
it. -/
theorem Setting.run (h : Setting c b p start cut) {α : Type} {t : Activity α}
    (hw : Early start cut w) (hy : Yields p.bounds cut t w.now) :
    ∃ r w', t.run p.bounds w = .ok (r, w') ∧
      ((∃ a, r = .ok a) ∧ Early start cut w' ∨ r = .error (reason p start cut) ∧ w'.now = cut) := by
  induction t generalizing w with
  | done a => exact ⟨_, w, rfl, .inl ⟨⟨a, rfl⟩, hw⟩⟩
  | taken n next ih => exact ih (w := w.note (.taken n)) ⟨hw.start, hw.now, hw.cancelled⟩ hy
  | stall d next ih =>
    obtain ⟨hd, hnext⟩ := hy
    exact ih (w := { w with now := w.now + d }) ⟨hw.start, hd, hw.cancelled⟩ hnext
  | cancel next ih =>
    obtain ⟨hb, hnext⟩ := hy
    have hcancelled : (w.cancelled || p.bounds.cancellable) = false := by rw [hw.cancelled, hb]; rfl
    exact ih (w := { w with cancelled := w.cancelled || p.bounds.cancellable })
      ⟨hw.start, hw.now, hcancelled⟩ hnext
  | hang =>
    have hi := h.interruption? hw none
    refine ⟨_, w.interrupted cut (reason p start cut), ?_, .inr ⟨rfl, rfl⟩⟩
    simp only [Activity.run, hi]
    rfl
  | sleep d next ih =>
    have hends : alarm p.bounds.slack w.now (w.now + d) = w.now + d := by
      rw [h.slack, alarm_exact]
      exact Nat.max_eq_right (Nat.le_add_right _ _)
    simp only [Activity.run, hends, h.interruption? hw]
    by_cases hlt : w.now + d < cut
    · have hby : Bounds.isBy cut (some (w.now + d)) = false :=
        decide_eq_false (Nat.not_le.mpr hlt)
      obtain ⟨r, w', hrun, hr⟩ :=
        ih (w := { w with now := w.now + d }) ⟨hw.start, hlt, hw.cancelled⟩ (hy hlt)
      refine ⟨r, w', ?_, hr⟩
      by_cases hzero : w.now + d = w.now
      · rw [if_pos hzero]
        rw [hzero] at hrun
        exact hrun
      · rw [if_neg hzero, hby]
        exact hrun
    · have hby : Bounds.isBy cut (some (w.now + d)) = true :=
        decide_eq_true (Nat.not_lt.mp hlt)
      have hne : w.now + d ≠ w.now := fun he => hlt (Nat.lt_of_le_of_lt (Nat.le_of_eq he) hw.now)
      rw [if_neg hne, hby]
      exact ⟨_, _, rfl, .inr ⟨rfl, rfl⟩⟩

theorem Setting.isPastDeadline (h : Setting c b p start cut) (hw : Early start cut w) :
    p.bounds.isPastDeadline w.now = false := by
  cases hd : p.bounds.deadline with
  | none => simp only [Bounds.isPastDeadline, hd, Option.any_none]
  | some d =>
    simp only [Bounds.isPastDeadline, hd, Option.any_some]
    exact decide_eq_false (Nat.not_le.mpr (Nat.lt_of_lt_of_le hw.now (h.deadline d hd)))

/-- A request that is over when it starts was cancelled, or else its deadline has passed. -/
theorem Setting.over (h : Setting c b p start cut) (hover : cut ≤ start) :
    (p.cancelled = true ∧ reason p start cut = .cancelled) ∨
    p.cancelled = false ∧ p.bounds.isPastDeadline start = true ∧
      reason p start cut = .deadline := by
  cases hp : p.cancelled with
  | true =>
    have hle : start ≤ max start cut := Nat.le_max_left _ _
    refine .inl ⟨rfl, ?_⟩
    simp only [reason, firing, hp, if_true, Option.any_some, decide_eq_true hle]
  | false =>
    have hfiring : firing p start = p.bounds.cancelAt := by
      simp only [firing, hp, Bool.false_eq_true, if_false]
    have hahead := h.ahead hp
    have hd : p.bounds.deadline = some cut := by
      refine h.cuts.resolve_left fun hc => ?_
      exact absurd (hahead cut (hfiring.symm.trans hc)) (Nat.not_lt.mpr hover)
    refine .inr ⟨rfl, ?_, ?_⟩
    · simp only [Bounds.isPastDeadline, hd, Option.any_some, decide_eq_true hover]
    · cases hc : p.bounds.cancelAt with
      | none => simp only [reason, hfiring, hc, Option.any_none, Bool.false_eq_true, if_false]
      | some t =>
        have ht : ¬ t ≤ max start cut := by
          rw [Nat.max_eq_left hover]
          exact Nat.not_le.mpr (hahead t hc)
        simp only [reason, hfiring, hc, Option.any_some, decide_eq_false ht, Bool.false_eq_true,
          if_false]

theorem Setting.within (h : Setting c b p start cut) {α : Type} {e : Event} {t : Activity α}
    (hw : Stands p start cut w) (hy : w.now < cut → Yields p.bounds cut t w.now) :
    ∃ x w', Run.within p.bounds e t w = .ok (x, w') ∧ Curbed p start cut w x w' := by
  rcases hw with hw | ⟨hover, hnow, hcancelled⟩
  · have hnoted : Early start cut (w.note e) := ⟨hw.start, hw.now, hw.cancelled⟩
    obtain ⟨r, w', hrun, hr⟩ := h.run hnoted (hy hw.now)
    have hwithin : Run.within p.bounds e t w = .ok (r.mapError Interruption.error, w') := by
      simp only [Run.within, Activity.runBounded, hw.cancelled, h.isPastDeadline hw,
        Bool.false_eq_true, if_false, hrun]
      rfl
    have hadds := run_adds hrun
    have hheeds : Heeds cut w w' := .trans (.note fun _ => hw.now) (.taken hadds)
    refine ⟨_, w', hwithin, ⟨hheeds, hadds.breaker, ?_⟩⟩
    rcases hr with ⟨⟨a, rfl⟩, hearly⟩ | ⟨rfl, hcut⟩
    · exact .inl ⟨⟨a, rfl⟩, hearly⟩
    · rw [Nat.max_eq_right (Nat.le_of_lt hw.start)]
      exact .inr ⟨rfl, hcut⟩
  · have hmax : w.now = max start cut := hnow.trans (Nat.max_eq_left hover).symm
    rcases h.over hover with ⟨hp, hr⟩ | ⟨hp, hpast, hr⟩
    · refine ⟨.error .cancelled, w, ?_, ⟨.refl w, rfl, .inr ⟨by rw [hr]; rfl, hmax⟩⟩⟩
      simp only [Run.within, Activity.runBounded, hcancelled, hp, if_true]
      rfl
    · refine ⟨.error .deadlineExceeded, w, ?_, ⟨.refl w, rfl, .inr ⟨by rw [hr]; rfl, hmax⟩⟩⟩
      simp only [Run.within, Activity.runBounded, hcancelled, hp, hnow, hpast, if_true,
        Bool.false_eq_true, if_false]
      rfl

/-! ## The parts of a turn -/

theorem Stands.of_eq (h : Stands p start cut w) (hn : w'.now = w.now)
    (hc : w'.cancelled = w.cancelled) : Stands p start cut w' := by
  rcases h with h | ⟨hover, hnow, hcancelled⟩
  · refine .inl ⟨h.start, ?_, hc.trans h.cancelled⟩
    rw [hn]
    exact h.now
  · exact .inr ⟨hover, hn.trans hnow, hc.trans hcancelled⟩

theorem Stands.now_le (h : Stands p start cut w) : w.now ≤ max start cut := by
  rcases h with h | ⟨-, hnow, -⟩
  · exact Nat.le_trans (Nat.le_of_lt h.now) (Nat.le_max_right _ _)
  · exact Nat.le_trans (Nat.le_of_eq hnow) (Nat.le_max_left _ _)

theorem requestHooks_atOnce (cut : Instant) (bounds : Bounds) {hooks : List Hook}
    (h : ∀ hook ∈ hooks, ∀ seen r, AtOnce (hook.beforeRequest seen r)) (i : Nat) (r : Request)
    (w : World) : ∃ x w', Client.requestHooks bounds i r hooks w = .ok (x, w') ∧
      Heeds cut w w' ∧ w'.now = w.now ∧ w'.cancelled = w.cancelled := by
  induction hooks generalizing i r w with
  | nil => exact ⟨.ok r, w, rfl, .refl w, rfl, rfl⟩
  | cons hook hooks ih =>
    have honce := h hook List.mem_cons_self (w.requestsSeen i) r
    obtain ⟨u, v, hv, hnow, hcancelled⟩ := honce.runThrough (b := bounds) (w.note (.requestHook i))
    have hheeds : Heeds cut w v :=
      .trans (.note (e := .requestHook i) fun hb => hb.elim) (.taken (runThrough_adds hv))
    rw [requestHooks_cons, hv, bind_ok]
    cases hook.onRequest (w.requestsSeen i) r with
    | error e => exact ⟨.error e, v, rfl, hheeds, hnow, hcancelled⟩
    | ok r' =>
      obtain ⟨x, w', hx, hheeds', hnow', hcancelled'⟩ :=
        ih (fun hook hm => h hook (List.mem_cons_of_mem _ hm)) (i + 1) r' v
      exact ⟨x, w', hx, hheeds.trans hheeds', hnow'.trans hnow, hcancelled'.trans hcancelled⟩

theorem responseHooks_atOnce (cut : Instant) (slack : Nat) {hooks : List Hook}
    (h : ∀ hook ∈ hooks, ∀ seen r, AtOnce (hook.onResponse seen r)) (i : Nat) (r : Response)
    (w : World) : ∃ x w', Client.responseHooks slack i r hooks w = .ok (x, w') ∧ Heeds cut w w' ∧
      w'.now = w.now := by
  induction hooks generalizing i r w with
  | nil => exact ⟨.ok r, w, rfl, .refl w, rfl⟩
  | cons hook hooks ih =>
    have honce := h hook List.mem_cons_self (w.responsesSeen i) r
    obtain ⟨y, v, hv, hnow, -⟩ :=
      honce.runThrough (b := { slack }) (w.note (.responseHook i r.attempts r.totalWait))
    have hheeds : Heeds cut w v :=
      .trans (.note (e := .responseHook i r.attempts r.totalWait) fun hb => hb.elim)
        (.taken (runThrough_adds hv))
    have hfreely : (hook.onResponse (w.responsesSeen i) r).runFreely slack
        (w.note (.responseHook i r.attempts r.totalWait)) = .ok (y, v) := hv
    rw [responseHooks_cons, hfreely, bind_ok]
    cases y with
    | error e => exact ⟨.error e, v, rfl, hheeds, hnow⟩
    | ok r' =>
      obtain ⟨x, w', hx, hheeds', hnow'⟩ :=
        ih (fun hook hm => h hook (List.mem_cons_of_mem _ hm)) (i + 1) r' v
      exact ⟨x, w', hx, hheeds.trans hheeds', hnow'.trans hnow⟩

theorem Setting.finish (h : Setting c b p start cut) (g : Progress) (o : Except Error Response)
    (w : World) : ∃ x w', c.finish g o w = .ok (x, w') ∧ Heeds cut w w' ∧ w'.now = w.now := by
  cases o with
  | error e => exact ⟨.error e, w, rfl, .refl w, rfl⟩
  | ok r => exact responseHooks_atOnce cut c.slack h.after 0 _ w

/-- Building the request of an attempt takes no time and is prevented by nothing. -/
theorem heeds_opened (body : RequestBody) (w : World) : Heeds cut w (opened body w) := by
  simp only [opened]
  split
  · exact .note fun hb => hb.elim
  · exact .refl w

variable (hy : ∀ k r t, t < cut → Yields p.bounds cut (c.transport k r) t)
include hy

theorem Setting.call (h : Setting c b p start cut) (r : Request) (hw : Stands p start cut w) :
    ∃ x w', c.call p.bounds r w = .ok (x, w') ∧ Curbed p start cut w x w' :=
  h.within hw fun hnow => hy w.calls r w.now hnow

theorem Setting.attempt (h : Setting c b p start cut) (g : Progress) (hw : Stands p start cut w) :
    ∃ y, c.attempt p g w = .ok y := by
  obtain ⟨x, hg⟩ := gate_total w
  simp only [Client.attempt, bind_eq, hg, bind_ok]
  cases x with
  | error e => exact ⟨_, rfl⟩
  | ok u =>
    simp only [bind_eq, build_eq, bind_ok]
    cases built g.draft (g.attempt + 1) (gated w) with
    | error e => exact ⟨_, rfl⟩
    | ok r =>
      obtain ⟨z, v, hz, -, hnow, hcancelled⟩ :=
        requestHooks_atOnce cut p.bounds h.before 0 r (opened g.draft.body (gated w))
      simp only [bind_eq, hz, bind_ok]
      cases z with
      | error e => exact ⟨_, rfl⟩
      | ok r' =>
        have hv : Stands p start cut v :=
          hw.of_eq (hnow.trans opened_now) (hcancelled.trans opened_cancelled)
        obtain ⟨x, w', hc, -⟩ := h.call hy r' hv
        simp only [Client.exchange, bind_eq, get_eq, bind_ok, hc]
        cases x with
        | error e => exact ⟨_, rfl⟩
        | ok result =>
          simp only [bind_eq, get_eq, bind_ok]
          split <;> exact ⟨_, rfl⟩

/-- An attempt fails before it comes to the transport, or it is cut short, or the transport answers
before the cut. -/
theorem Setting.attempted (h : Setting c b p start cut) {entry : Option AttemptTrace} {d : Draft}
    (hw : Stands p start cut w) (ha : Attempted c p g w o entry d w') :
    Heeds cut w w' ∧
      (((∀ r u, ¬ Reaches c p g w r u) ∧ Stands p start cut w') ∨
        (entry = none ∧ o = .error (reason p start cut).error ∧
          w'.breaker = (gated w).breaker ∧ w'.now = max start cut) ∨
        entry.isSome = true ∧ Early start cut w') := by
  have hgated : Stands p start cut (gated w) := hw.of_eq rfl rfl
  have hgate {x : Except Error Unit} {v : World} (hg : Client.gate w = .ok (x, v)) :
      v = gated w := (gate_cases hg).1
  have hbuild {x : Except Error Request} {d : Draft} {v : World}
      (hb : g.draft.build (g.attempt + 1) (gated w) = .ok ((x, d), v)) :
      Heeds cut w v ∧ Stands p start cut v ∧ v.breaker = (gated w).breaker := by
    obtain ⟨-, -, rfl⟩ := of_build hb
    have hbegin : Heeds cut w (gated w) := .of_eq rfl
    exact ⟨hbegin.trans (heeds_opened _ _), hgated.of_eq opened_now opened_cancelled,
      opened_breaker⟩
  have hhooks {r : Request} {z : Except Error Request} {v v' : World}
      (hv : Heeds cut w v ∧ Stands p start cut v ∧ v.breaker = (gated w).breaker)
      (hh : Client.requestHooks p.bounds 0 r c.hooks v = .ok (z, v')) :
      Heeds cut w v' ∧ Stands p start cut v' ∧ v'.breaker = (gated w).breaker := by
    obtain ⟨z', v₁, hh', hheeds, hnow, hcancelled⟩ :=
      requestHooks_atOnce cut p.bounds h.before 0 r v
    cases hh.symm.trans hh'
    exact ⟨hv.1.trans hheeds, hv.2.1.of_eq hnow hcancelled,
      (requestHooks_passed hh).breaker.trans hv.2.2⟩
  cases ha with
  | refused hg =>
    cases hgate hg
    refine ⟨.of_eq rfl, .inl ⟨?_, hgated⟩⟩
    rintro r u ⟨r₀, d, v, v', hg', -⟩
    cases hg.symm.trans hg'
  | unbuilt hg hb =>
    cases hgate hg
    obtain ⟨hheeds, hstands, -⟩ := hbuild hb
    refine ⟨hheeds, .inl ⟨?_, hstands⟩⟩
    rintro r u ⟨r₀, d, v, v', hg', hb', -⟩
    cases hg.symm.trans hg'
    cases hb.symm.trans hb'
  | hooked hg hb hh =>
    cases hgate hg
    obtain ⟨hheeds, hstands, -⟩ := hhooks (hbuild hb) hh
    refine ⟨hheeds, .inl ⟨?_, hstands⟩⟩
    rintro r u ⟨r₀, d, v, v', hg', hb', hh'⟩
    cases hg.symm.trans hg'
    cases hb.symm.trans hb'
    cases hh.symm.trans hh'
  | @interrupted r r' e d w₁ w₂ w₃ w₄ hg hb hh hc =>
    cases hgate hg
    obtain ⟨hheeds, hstands, hbreaker⟩ := hhooks (hbuild hb) hh
    obtain ⟨x, v, hc', hcurbed⟩ := h.call hy r' hstands
    cases hc.symm.trans hc'
    rcases hcurbed.ends with ⟨⟨a, ha⟩, -⟩ | ⟨he, hnow⟩
    · cases ha
    · cases he
      exact ⟨hheeds.trans hcurbed.heeds,
        .inr (.inl ⟨rfl, rfl, hcurbed.breaker.trans hbreaker, hnow⟩)⟩
  | @late r r' e d w₁ w₂ w₃ w₄ hg hb hh hc hd =>
    cases hgate hg
    obtain ⟨hheeds, hstands, -⟩ := hhooks (hbuild hb) hh
    obtain ⟨x, v, hc', hcurbed⟩ := h.call hy r' hstands
    cases hc.symm.trans hc'
    rcases hcurbed.ends with ⟨-, hearly⟩ | ⟨he, -⟩
    · -- The deadline is no earlier than the cut, which still lies ahead.
      cases hd.symm.trans (h.isPastDeadline hearly)
    · cases he
  | @answered r r' result d w₁ w₂ w₃ w₄ hg hb hh hc hd =>
    cases hgate hg
    obtain ⟨hheeds, hstands, -⟩ := hhooks (hbuild hb) hh
    obtain ⟨x, v, hc', hcurbed⟩ := h.call hy r' hstands
    cases hc.symm.trans hc'
    rcases hcurbed.ends with ⟨-, hearly⟩ | ⟨he, -⟩
    · have hreport : Heeds cut w₄ (afterReport w₄ (Client.received result)) := .of_eq rfl
      exact ⟨(hheeds.trans hcurbed.heeds).trans hreport,
        .inr (.inr ⟨rfl, hearly.start, hearly.now, hearly.cancelled⟩)⟩
    · cases he

omit hy in
/-- Before the cut a total of waits can be told, since no wait was longer than the time it took. -/
theorem Setting.add_ok (h : Setting c b p start cut) {total d : Span}
    (ht : start + total + d ≤ w.now) (hw : Early start cut w) :
    Run.add total d w = .ok (total + d, w) := by
  have hend : RequestBuilder.clockEnd ≤ Span.longest := by decide
  have hclock := h.clock
  have hnow := hw.now
  refine if_pos ?_
  simp only [Span, Instant] at *
  omega

omit hy in
theorem Setting.pause (h : Setting c b p start cut) (q : RetryPolicy) (g : Progress)
    (o : Except Error Response) (hw : Stands p start cut w) (ht : start + g.totalWait ≤ w.now) :
    ∃ x w', c.pause p q g o w = .ok (x, w') ∧ Curbed p start cut w x w' ∧
      ∀ g', x = .ok g' → start + g'.totalWait ≤ w'.now := by
  have hdrain : ∃ y v, Client.drain p o w = .ok (y, v) ∧ Heeds cut w v ∧ v.breaker = w.breaker ∧
      ((∃ a, y = .ok a) ∧ Stands p start cut v ∨
        y = .error (reason p start cut).error ∧ v.now = max start cut) := by
    cases o with
    | error e => exact ⟨.ok (), w, rfl, .refl w, rfl, .inl ⟨⟨(), rfl⟩, hw⟩⟩
    | ok r =>
      obtain ⟨y, v, hrun, hcurbed⟩ :=
        h.within (e := .drain) (t := .pass (.done ()) ((r.body.getD []).drained drainLimit 0)) hw
          fun _ => yields_pass _ _
      exact ⟨y, v, hrun, hcurbed.heeds, hcurbed.breaker,
        hcurbed.ends.imp_left fun hok => ⟨hok.1, .inl hok.2⟩⟩
  obtain ⟨y, v, hd, hheeds, hb, hend⟩ := hdrain
  have htotal : (c.nextWait q g w.now o).2.totalWait = g.totalWait := by
    rw [nextWait_keeps]
  simp only [Client.pause, bind_eq, get_eq, bind_ok, hd]
  generalize c.nextWait q g w.now o = next at htotal ⊢
  obtain ⟨wait, g₁⟩ := next
  rw [← htotal] at ht
  rcases hend with ⟨⟨a, rfl⟩, hstands⟩ | ⟨rfl, hnow⟩
  · obtain ⟨z, w', hs, hcurbed⟩ :=
      h.within (e := .wait wait) (t := .sleep wait (.done ())) hstands fun _ _ => trivial
    have hheeds' := hheeds.trans hcurbed.heeds
    have hb' := hcurbed.breaker.trans hb
    simp only [bind_eq, hs]
    rcases hcurbed.ends with ⟨⟨a', rfl⟩, hearly⟩ | ⟨rfl, hnow⟩
    · have hlasts : v.now + wait ≤ w'.now := sleep_lasts hs
      have hwaited : start + g₁.totalWait + wait ≤ w'.now :=
        Nat.le_trans (Nat.add_le_add_right (Nat.le_trans ht (drain_passed hd).now) _) hlasts
      have hsum : start + (g₁.totalWait + wait) ≤ w'.now := by
        rw [← Nat.add_assoc]
        exact hwaited
      simp only [bind_ok, bind_eq, h.add_ok hwaited hearly]
      refine ⟨_, w', rfl, ⟨hheeds', hb', .inl ⟨⟨_, rfl⟩, hearly⟩⟩, ?_⟩
      rintro g' ⟨⟩
      exact hsum
    · exact ⟨_, w', rfl, ⟨hheeds', hb', .inr ⟨rfl, hnow⟩⟩, fun _ hg' => by cases hg'⟩
  · exact ⟨_, v, rfl, ⟨hheeds, hb, .inr ⟨rfl, hnow⟩⟩, fun _ hg' => by cases hg'⟩

/-! ## The run -/

omit hy in
theorem Setting.settle (h : Setting c b p start cut) {g : Progress} {o : Except Error Response}
    (hm : ∀ q, moveAfter p g.attempt o ≠ .again q) (w : World) :
    ∃ x w', settle c p g o w = .ok (.inr x, w') ∧ Heeds cut w w' ∧ w'.now = w.now := by
  cases hmove : moveAfter p g.attempt o with
  | finish =>
    obtain ⟨x, w', hf, hheeds, hnow⟩ := h.finish g o w
    refine ⟨x, w', ?_, hheeds, hnow⟩
    rw [settle_finish hmove, hf]
    rfl
  | exhaust => exact ⟨_, w, settle_exhaust hmove w, .refl w, rfl⟩
  | again q => exact absurd hmove (hm q)

theorem Setting.turn (h : Setting c b p start cut) (g : Progress) (hw : Stands p start cut w)
    (ht : start + g.totalWait ≤ w.now) :
    ∃ y w', turn c p g w = .ok (y, w') ∧ Heeds cut w w' ∧
      ((∃ g', y = .inl g' ∧ start + g'.totalWait ≤ w'.now) ∧ Early start cut w' ∨
        ∃ x, y = .inr x ∧ Ends c p start cut (g, w) x w' ∧ w'.now ≤ max start cut) := by
  obtain ⟨⟨⟨o, g₁⟩, v⟩, hattempt⟩ := h.attempt hy g hw
  obtain ⟨entry, d, ha, rfl⟩ := attempt_cases hattempt
  obtain ⟨hheeds, hends⟩ := h.attempted hy hw ha
  have hturn : Turns.turn c p g w = Turns.settle c p (advanced g entry d) o v := by
    rw [turn_eq, hattempt, bind_ok]
  rw [hturn]
  by_cases hm : ∃ q, moveAfter p (g.attempt + 1) o = .again q
  · obtain ⟨q, hq⟩ := hm
    have hv : Stands p start cut v := by
      rcases hends with ⟨-, hstands⟩ | ⟨-, rfl, -⟩ | ⟨-, hearly⟩
      · exact hstands
      · cases (moveAfter_interruption _ _).symm.trans hq
      · exact .inl hearly
    have htotal : start + (advanced g entry d).totalWait ≤ v.now :=
      Nat.le_trans ht (attempted_now ha)
    obtain ⟨z, w', hp, hcurbed, hkept⟩ := h.pause q (advanced g entry d) o hv htotal
    have hsettle := settle_again (g := advanced g entry d) (c := c) hq v
    rw [hp] at hsettle
    refine ⟨_, w', hsettle, hheeds.trans hcurbed.heeds, ?_⟩
    rcases hcurbed.ends with ⟨⟨g', rfl⟩, hearly⟩ | ⟨rfl, hnow⟩
    · exact .inl ⟨⟨g', rfl, hkept g' rfl⟩, hearly⟩
    · exact .inr ⟨_, rfl, .halted ha hq hcurbed.breaker hnow, Nat.le_of_eq hnow⟩
  · have hm : ∀ q, moveAfter p (g.attempt + 1) o ≠ .again q := fun q hq => hm ⟨q, hq⟩
    obtain ⟨x, w', hs, hheeds', hnow⟩ := h.settle (g := advanced g entry d) hm v
    refine ⟨.inr x, w', hs, hheeds.trans hheeds', .inr ⟨x, rfl, ?_⟩⟩
    rcases hends with ⟨hr, hstands⟩ | ⟨rfl, rfl, hb, hcut⟩ | ⟨hsome, hearly⟩
    · refine ⟨.failed ha hr hm hs, ?_⟩
      rw [hnow]
      exact hstands.now_le
    · -- The failure of the attempt is that of the request, and nothing happens any more.
      rw [settle_finish (moveAfter_interruption _ _)] at hs
      cases hs
      exact ⟨.abandoned ha hb hcut, Nat.le_of_eq hcut⟩
    · obtain ⟨a, rfl⟩ := Option.isSome_iff_exists.mp hsome
      refine ⟨.answered ha hearly.now hm hs, ?_⟩
      rw [hnow]
      exact Nat.le_trans (Nat.le_of_lt hearly.now) (Nat.le_max_right _ _)

theorem Setting.loop (h : Setting c b p start cut) {heads : List (Progress × World)}
    {y : Except Halt (Except Error Response × World)} (hl : Loop c p heads g w y)
    (hw : Stands p start cut w) (ht : start + g.totalWait ≤ w.now) :
    ∃ head x w', y = .ok (x, w') ∧ Heeds cut w w' ∧ w'.now ≤ max start cut ∧
      (∀ later ∈ heads.tail, later.2.now < cut) ∧ heads.getLast? = some head ∧
      Ends c p start cut head x w' := by
  induction hl with
  | @ends g w w' x hturn =>
    obtain ⟨y, v, hturn', hheeds, hy⟩ := h.turn hy g hw ht
    cases hturn.symm.trans hturn'
    rcases hy with ⟨⟨g', hg', -⟩, -⟩ | ⟨x', hx, hends, hnow⟩
    · cases hg'
    · cases hx
      exact ⟨(g, w), x, w', rfl, hheeds, hnow, by simp, rfl, hends⟩
  | @halts g w e hturn =>
    obtain ⟨y, v, hturn', -⟩ := h.turn hy g hw ht
    cases hturn.symm.trans hturn'
  | @goesOn g g' w w₁ heads y hturn hl ih =>
    obtain ⟨z, v, hturn', hheeds, hz⟩ := h.turn hy g hw ht
    cases hturn.symm.trans hturn'
    rcases hz with ⟨⟨g₁, hg₁, ht'⟩, hearly⟩ | ⟨x, hx, -⟩
    · cases hg₁
      obtain ⟨head, x, w', rfl, hheeds', hnow, hlater, hlast, hends⟩ := ih (.inl hearly) ht'
      refine ⟨head, x, w', rfl, hheeds.trans hheeds', hnow, ?_, ?_, hends⟩
      · intro later hmem
        rw [List.tail_cons, hl.heads_eq] at hmem
        rcases List.mem_cons.mp hmem with rfl | hmem
        · exact hearly.now
        · exact hlater later hmem
      · rw [List.getLast?_cons, hlast]
        rfl
    · cases hx

end

/-- A request with a cancellation or a deadline is cut short by the earlier of them, whatever its
policy says and whatever the transport does that lets others run. -/
theorem send_isCut {c : Client} {b : RequestBuilder} {p : PreparedRequest} {w : World}
    {cut : Instant} (h : Setting c b p w.now cut)
    (hy : ∀ k r t, t < cut → Yields p.bounds cut (c.transport k r) t) : IsCut c b p w cut := by
  obtain ⟨heads, hl⟩ := loop_send h.prepared w
  have hw : Stands p w.now cut (begun p w) := by
    by_cases hstart : w.now < cut
    · exact .inl ⟨hstart, hstart, h.uncancelled hstart⟩
    · exact .inr ⟨Nat.not_lt.mp hstart, rfl, rfl⟩
  obtain ⟨head, x, w', hx, hheeds, hnow, hlater, hlast, hends⟩ :=
    h.loop hy hl hw (Nat.le_refl _)
  rw [hx] at hl
  have hbegin : Heeds cut w (begun p w) := .of_eq rfl
  exact ⟨heads, head, x, w', hx, hl, hbegin.trans hheeds, hnow, hlater, hlast, hends⟩

def interruption? : Except Error Response → Option Interruption
  | .error .cancelled => some .cancelled
  | .error .deadlineExceeded => some .deadline
  | _ => none

theorem interruption?_eq_some {x : Except Error Response} {i : Interruption}
    (h : interruption? x = some i) : x = .error i.error := by
  unfold interruption? at h
  split at h
  · cases h
    rfl
  · cases h
    rfl
  · cases h

def hurried : RequestBuilder where
  method := .get
  url := "http://localhost/"
  deadline := some 5000000

/-- A client whose server never answers, and whose policy would try everything again. -/
def hung : Client where
  config := { retry := some { RetryPolicy.constant 3 5 with condition := some fun _ _ => true } }
  transport _ _ := .hang

theorem hurried_setting {c : Client} (hp : (hurried.prepare c).isOk = true) (hs : c.slack = 0)
    (hh : c.hooks = []) : ∃ p, Setting c hurried p 0 5000000 := by
  cases hprepared : hurried.prepare c with
  | error e =>
    rw [hprepared] at hp
    cases hp
  | ok p =>
    have heq := prepare_eq hprepared
    have hcancelled : p.cancelled = false := by rw [heq]; rfl
    have hcancelAt : p.bounds.cancelAt = none := by rw [heq]; rfl
    have hdeadline : p.bounds.deadline = some 5000000 := by rw [heq]; rfl
    have hfiring : firing p 0 = none := by simp [firing, hcancelled, hcancelAt]
    refine ⟨p, hprepared, hs, by decide, ?_, ?_, ?_, .inr hdeadline, ?_, ?_⟩
    · simp [hcancelAt]
    · simp [hh]
    · simp [hh]
    · simp [hfiring]
    · simp [hdeadline]

/-- The run ends at the deadline and with its error. -/
theorem hung_isCut : ∃ p, Setting hung hurried p 0 5000000 ∧ IsCut hung hurried p {} 5000000 ∧
    ∃ w', hung.send hurried {} = .ok (.error .deadlineExceeded, w') ∧ w'.now = 5000000 ∧
      w'.calls = 1 := by
  obtain ⟨p, h⟩ := hurried_setting (c := hung) (by decide +kernel) rfl rfl
  refine ⟨p, h, send_isCut (w := {}) h fun _ _ _ _ => trivial, ?_⟩
  have hsent : (hung.send hurried {}).map (fun y => (interruption? y.1, y.2.now, y.2.calls)) =
      .ok (some .deadline, 5000000, 1) := by decide +kernel
  obtain ⟨⟨x, w'⟩, hsend, hx⟩ := map_eq_ok_iff.mp hsent
  obtain ⟨hx, hcounts⟩ := Prod.mk.inj hx
  obtain ⟨hnow, hcalls⟩ := Prod.mk.inj hcounts
  cases interruption?_eq_some hx
  exact ⟨w', hsend, hnow, hcalls⟩

/-- A client whose transport lets nobody else run for ten milliseconds. -/
def dozing : Client where
  transport _ _ := .stall 10000000 (.done (.ok {}))

/-- A client whose transport cancels the request before it answers. -/
def fickle : Client where
  transport _ _ := .cancel (.done (.ok {}))

/-- A client with a hook that cancels a request at its second attempt, which comes at once. -/
def wavering : Client where
  config := { retry := some (RetryPolicy.constant 2 0) }
  hooks := [{ beforeRequest := fun seen _ => if seen = 0 then .done () else .cancel (.done ()) }]
  transport _ _ := .done (.ok { status := away })

def revocable : RequestBuilder := { method := .get, url := "http://localhost/", token := some {} }

/-- A transport that keeps the deadline from being noticed, or that answers just as it cancels the
request, brings a response back all the same. A hook that cancels the request does so at an instant
at which a call began. -/
theorem dozing_not_isCut :
    (∃ p, Setting dozing hurried p 0 5000000 ∧ ¬ IsCut dozing hurried p {} 5000000 ∧
      ∃ r w', dozing.send hurried {} = .ok (.ok r, w') ∧ r.status = .ok ∧ w'.now = 10000000) ∧
    (∃ r w', fickle.send revocable {} = .ok (.ok r, w') ∧ r.status = .ok ∧ w'.cancelled = true) ∧
    ∃ w', wavering.send revocable {} = .ok (.error .cancelled, w') ∧ w'.now = 0 ∧ w'.calls = 1 := by
  have hdozing : (dozing.send hurried {}).map (fun y => (y.1.toOption.map Response.status, y.2.now)) =
      .ok (some .ok, 10000000) := by decide +kernel
  have hfickle : (fickle.send revocable {}).map
      (fun y => (y.1.toOption.map Response.status, y.2.cancelled)) = .ok (some .ok, true) := by
    decide +kernel
  have hwavering : (wavering.send revocable {}).map
      (fun y => (interruption? y.1, y.2.now, y.2.calls)) = .ok (some .cancelled, 0, 1) := by
    decide +kernel
  refine ⟨?_, ?_, ?_⟩
  · obtain ⟨p, h⟩ := hurried_setting (c := dozing) (by decide +kernel) rfl rfl
    obtain ⟨⟨x, w'⟩, hsend, hx⟩ := map_eq_ok_iff.mp hdozing
    obtain ⟨hstatus, hnow⟩ := Prod.mk.inj hx
    refine ⟨p, h, ?_, ?_⟩
    · rintro ⟨heads, head, x', w'', hsend', -, -, hle, -⟩
      cases hsend.symm.trans hsend'
      rw [hnow] at hle
      exact absurd hle (by decide)
    · cases x with
      | error e => cases hstatus
      | ok r => exact ⟨r, w', hsend, Option.some.inj hstatus, hnow⟩
  · obtain ⟨⟨x, w'⟩, hsend, hx⟩ := map_eq_ok_iff.mp hfickle
    obtain ⟨hstatus, hcancelled⟩ := Prod.mk.inj hx
    cases x with
    | error e => cases hstatus
    | ok r => exact ⟨r, w', hsend, Option.some.inj hstatus, hcancelled⟩
  · obtain ⟨⟨x, w'⟩, hsend, hx⟩ := map_eq_ok_iff.mp hwavering
    obtain ⟨hx, hcounts⟩ := Prod.mk.inj hx
    obtain ⟨hnow, hcalls⟩ := Prod.mk.inj hcounts
    cases interruption?_eq_some hx
    exact ⟨w', hsend, hnow, hcalls⟩

end ResilientHttp.CutShort
