import Mathlib.Data.List.Forall2
import ResilientHttp.Proofs.Rebuilding
import ResilientHttp.Proofs.Tracing

/-!
# With a breaker that never trips and without one

In a run the breaker is looked at in one place, the gate of an attempt. A gate that lets everything
pass is as good as none, and the circuit stays closed for as long as there are never enough failures
in a row, counted over the accounts of all requests together. So a client whose breaker has not
tripped does what the same client without a breaker does.
-/
namespace ResilientHttp.Transparency
open BreakerHistory Building Runs Turns Passage BreakerAccounts Rebuilding Tracing

def bare (w : World) : World := { w with breaker := none }

def bareEnd {α : Type} (y : α × World) : α × World := (y.1, bare y.2)

/-- A run takes no notice of the breaker. -/
def Unaware {α : Type} (x : Run α) : Prop := ∀ w, x (bare w) = (x w).map bareEnd

section
variable {α β : Type}

theorem unaware_pure (a : α) : Unaware (pure a : Run α) := fun _ => rfl

theorem Unaware.bind {x : Run α} {f : α → Run β} (hx : Unaware x) (hf : ∀ a, Unaware (f a)) :
    Unaware (x >>= f) := by
  intro w
  rw [bind_eq, bind_eq, hx, map_bind]
  cases x w with
  | error e => rfl
  | ok y => exact hf y.1 y.2

/-- Looking at the world is no harm if what is seen of it is not the breaker. -/
theorem unaware_get {f : World → Run α} (hf : ∀ w, Unaware (f w)) (h : ∀ w, f (bare w) = f w) :
    Unaware (get >>= f) := by
  intro w
  simp only [bind_eq, get_eq, bind_ok, h]
  exact hf w w

theorem unaware_modify {f : World → World} (h : ∀ w, f (bare w) = bare (f w)) :
    Unaware (modify f : Run Unit) := by
  intro w
  rw [modify_eq, modify_eq, h]
  rfl

theorem unaware_note (e : Event) : Unaware (Run.note e) := unaware_modify fun _ => rfl

theorem unaware_add (d d' : Span) : Unaware (Run.add d d') := by
  intro w
  simp only [Run.add]
  split <;> rfl

theorem run_bare (b : Bounds) (t : Activity α) (w : World) :
    t.run b (bare w) = (t.run b w).map bareEnd := by
  induction t generalizing w with
  | done a => rfl
  | taken call next ih => exact ih (w.note (.taken call))
  | stall d next ih => exact ih { w with now := w.now + d }
  | cancel next ih => exact ih { w with cancelled := w.cancelled || b.cancellable }
  | hang =>
    have hsame : b.interruption? (bare w) none = b.interruption? w none := rfl
    simp only [Activity.run, hsame]
    split <;> rfl
  | sleep d next ih =>
    have hsame (limit : Option Instant) :
        b.interruption? (bare w) limit = b.interruption? w limit := rfl
    have hnow : (bare w).now = w.now := rfl
    simp only [Activity.run, hsame, hnow]
    split
    · exact ih w
    · split
      · rfl
      · exact ih { w with now := alarm b.slack w.now (w.now + d) }

theorem runThrough_bare (b : Bounds) (t : Activity α) (w : World) :
    t.runThrough b (bare w) = (t.runThrough b w).map bareEnd := by
  induction t generalizing w with
  | done a => rfl
  | taken call next ih => exact ih (w.note (.taken call))
  | stall d next ih => exact ih { w with now := w.now + d }
  | cancel next ih => exact ih { w with cancelled := w.cancelled || b.cancellable }
  | hang => rfl
  | sleep d next ih =>
    have hnow : (bare w).now = w.now := rfl
    simp only [Activity.runThrough, hnow]
    split
    · exact ih w
    · exact ih { w with
        now := alarm b.slack w.now (w.now + d)
        cancelled := w.cancelled ||
          b.cancelAt.any fun c => c ≤ alarm b.slack w.now (w.now + d) }

theorem unaware_through (b : Bounds) (t : Activity α) : Unaware (Run.through b t) :=
  runThrough_bare b t

theorem unaware_freely (slack : Nat) (t : Activity α) : Unaware (Run.freely slack t) :=
  runThrough_bare { slack } t

theorem unaware_within (b : Bounds) (e : Event) (t : Activity α) : Unaware (Run.within b e t) := by
  intro w
  have hcancelled : (bare w).cancelled = w.cancelled := rfl
  have hnow : (bare w).now = w.now := rfl
  have hnote : (bare w).note e = bare (w.note e) := rfl
  simp only [Run.within, Activity.runBounded, hcancelled, hnow, hnote, run_bare]
  split
  · rfl
  · split
    · rfl
    · cases t.run b (w.note e) <;> rfl

end

section
variable {c : Client} {p : PreparedRequest} {q : RetryPolicy}

theorem unaware_requestHooks (b : Bounds) (i : Nat) (r : Request) (hooks : List Hook) :
    Unaware (Client.requestHooks b i r hooks) := by
  induction hooks generalizing i r with
  | nil => exact unaware_pure _
  | cons hook hooks ih =>
    refine unaware_get (fun w => ?_) fun w => rfl
    refine (unaware_note _).bind fun _ => (unaware_through _ _).bind fun _ => ?_
    cases hook.onRequest (w.requestsSeen i) r with
    | ok r' => exact ih _ _
    | error e => exact unaware_pure _

theorem unaware_responseHooks (slack i : Nat) (r : Response) (hooks : List Hook) :
    Unaware (Client.responseHooks slack i r hooks) := by
  induction hooks generalizing i r with
  | nil => exact unaware_pure _
  | cons hook hooks ih =>
    refine unaware_get (fun w => ?_) fun w => rfl
    refine (unaware_note _).bind fun _ => (unaware_freely _ _).bind fun x => ?_
    cases x with
    | ok r' => exact ih _ _
    | error e => exact unaware_pure _

theorem unaware_call (b : Bounds) (r : Request) : Unaware (c.call b r) :=
  unaware_get (fun _ => unaware_within _ _ _) fun _ => rfl

theorem unaware_report (o : Except Error Response) : Unaware (Client.report o) :=
  unaware_modify fun _ => rfl

theorem unaware_exchange (g : Progress) (r : Request) : Unaware (c.exchange p g r) := by
  refine unaware_get (fun w => (unaware_call _ _).bind fun x => ?_) fun _ => rfl
  cases x with
  | error e => exact unaware_pure _
  | ok result =>
    refine unaware_get (fun w' => ?_) fun _ => rfl
    dsimp only
    split
    · exact unaware_pure _
    · exact (unaware_report _).bind fun _ => unaware_pure _

theorem unaware_finish (g : Progress) (o : Except Error Response) : Unaware (c.finish g o) := by
  cases o with
  | error e => exact unaware_pure _
  | ok r => exact unaware_get (fun _ => unaware_responseHooks _ _ _ _) fun _ => rfl

theorem unaware_drain (o : Except Error Response) : Unaware (Client.drain p o) := by
  cases o with
  | error e => exact unaware_pure _
  | ok r => exact unaware_within _ _ _

theorem unaware_pause (g : Progress) (o : Except Error Response) : Unaware (c.pause p q g o) := by
  refine unaware_get (fun w => (unaware_drain _).bind fun x => ?_) fun _ => rfl
  cases x with
  | error e => exact unaware_pure _
  | ok u =>
    refine (unaware_within _ _ _).bind fun y => ?_
    cases y with
    | error e => exact unaware_pure _
    | ok u => exact (unaware_add _ _).bind fun _ => unaware_pure _

theorem unaware_settle (g : Progress) (o : Except Error Response) : Unaware (settle c p g o) := by
  simp only [settle]
  split
  · exact (unaware_finish _ _).bind fun _ => unaware_pure _
  · exact unaware_pure _
  · refine (unaware_pause _ _).bind fun x => ?_
    cases x with
    | error e => exact unaware_pure _
    | ok g' => exact unaware_pure _

end

/-! ## Turns that the gate lets pass -/

section
variable {c : Client} {p : PreparedRequest} {g : Progress} {w w' : World}
  {heads heads' : List (Progress × World)} {y y' : Except Halt (Except Error Response × World)}

theorem opened_bare (body : RequestBody) (w : World) : opened body (bare w) = bare (opened body w) := by
  simp only [opened]
  split <;> rfl

theorem attempt_bare (hw : isBuilt w = true) :
    c.attempt p g (bare w) = (c.attempt p g w).map bareEnd := by
  have hbare : Client.gate (bare w) = .ok (.ok (), bare (gated w)) := rfl
  have hbuilt : built g.draft (g.attempt + 1) (bare (gated w)) =
      built g.draft (g.attempt + 1) (gated w) := rfl
  simp only [Client.attempt, bind_eq, hbare, gate_of_isBuilt hw, bind_ok, build_eq, hbuilt,
    opened_bare]
  cases built g.draft (g.attempt + 1) (gated w) with
  | error e => rfl
  | ok r =>
    refine ((unaware_requestHooks _ _ _ _).bind fun x => ?_) (opened g.draft.body (gated w))
    cases x with
    | error e => exact unaware_pure _
    | ok r' => exact unaware_exchange _ _

theorem turn_bare (hw : isBuilt w = true) : turn c p g (bare w) = (turn c p g w).map bareEnd := by
  rw [turn_eq, turn_eq, attempt_bare hw, map_bind]
  cases c.attempt p g w with
  | error e => rfl
  | ok y => exact unaware_settle _ _ _

def bareHead (head : Progress × World) : Progress × World := (head.1, bare head.2)

/-- A loop whose attempts the gate lets pass is the one without a breaker. -/
theorem loop_bare (hl : Loop c p heads g w y) (hb : ∀ head ∈ heads, isBuilt head.2 = true) :
    Loop c p (heads.map bareHead) g (bare w) (y.map bareEnd) := by
  induction hl with
  | @ends g w w' x ht =>
    have hw : isBuilt w = true := hb (g, w) List.mem_cons_self
    exact .ends ((turn_bare hw).trans (congrArg _ ht))
  | @halts g w e ht =>
    have hw : isBuilt w = true := hb (g, w) List.mem_cons_self
    exact .halts ((turn_bare hw).trans (congrArg _ ht))
  | @goesOn g g' w w' heads y ht hl ih =>
    have hw : isBuilt w = true := hb (g, w) List.mem_cons_self
    exact .goesOn ((turn_bare hw).trans (congrArg _ ht))
      (ih fun head hmem => hb head (List.mem_cons_of_mem _ hmem))

/-- From one progress and one world there is only one way for the loop to go. -/
theorem loop_unique (hl : Loop c p heads g w y) (hl' : Loop c p heads' g w y') :
    heads = heads' ∧ y = y' := by
  induction hl generalizing heads' y' with
  | ends ht =>
    cases hl' with
    | ends ht' =>
      cases ht.symm.trans ht'
      exact ⟨rfl, rfl⟩
    | halts ht' => cases ht.symm.trans ht'
    | goesOn ht' hl' => cases ht.symm.trans ht'
  | halts ht =>
    cases hl' with
    | ends ht' => cases ht.symm.trans ht'
    | halts ht' =>
      cases ht.symm.trans ht'
      exact ⟨rfl, rfl⟩
    | goesOn ht' hl' => cases ht.symm.trans ht'
  | goesOn ht hl ih =>
    cases hl' with
    | ends ht' => cases ht.symm.trans ht'
    | halts ht' => cases ht.symm.trans ht'
    | goesOn ht' hl' =>
      cases ht.symm.trans ht'
      obtain ⟨rfl, rfl⟩ := ih hl'
      exact ⟨rfl, rfl⟩

theorem isBuilt_of_halt {e : Halt} (ht : turn c p g w = .error e) : isBuilt w = true := by
  have hne : turn c p g w ≠ .ok (.inr (.error .breakerOpen), w) := by
    intro hrefused
    cases hrefused.symm.trans ht
  exact isBuilt_of_turn_ne hne

/-- A request of which nothing comes was never refused. -/
theorem built_of_halt {e : Halt} (hl : Loop c p heads g w y) (hy : y = .error e) :
    ∀ head ∈ heads, isBuilt head.2 = true := by
  induction hl with
  | ends ht => cases hy
  | halts ht => exact fun head hmem => List.mem_singleton.mp hmem ▸ isBuilt_of_halt ht
  | goesOn ht hl ih =>
    intro head hmem
    rcases List.mem_cons.mp hmem with rfl | hmem
    · exact isBuilt_of_turn ht
    · exact ih hy head hmem

end

def unguarded (c : Client) : Client := { c with config := { c.config with breaker := none } }

theorem send_unguarded (c : Client) (b : RequestBuilder) : (unguarded c).send b = c.send b := by
  have hprepare : b.prepare (unguarded c) = b.prepare c := rfl
  simp only [Client.send, hprepare]
  cases b.prepare c with
  | error e => rfl
  | ok p =>
    funext w
    exact (execute_settings c _ p p.trace w).trans (execute_settings c c.config p p.trace w).symm

/-- What a request gives if the gate lets all of its attempts pass. -/
theorem send_bare {c : Client} {b : RequestBuilder} {p : PreparedRequest} {w : World}
    {heads : List (Progress × World)} (hp : b.prepare c = .ok p)
    (hl : Loop c p heads (c.start p (begun p w)) (begun p w) (c.send b w))
    (hb : ∀ head ∈ heads, isBuilt head.2 = true) :
    (unguarded c).send b (bare w) = (c.send b w).map bareEnd := by
  rw [send_unguarded]
  obtain ⟨heads', hl'⟩ := loop_send hp (bare w)
  exact ((loop_unique (loop_bare hl hb) hl').2).symm

/-- What halts a request does so without a breaker, too. -/
theorem send_halts {c : Client} {b : RequestBuilder} {w : World} {e : Halt}
    (h : c.send b w = .error e) : (unguarded c).send b (bare w) = .error e := by
  cases hp : b.prepare c with
  | error e =>
    simp only [Client.send, hp] at h
    cases h
  | ok p =>
    obtain ⟨heads, hl⟩ := loop_send hp w
    rw [send_bare hp hl (built_of_halt hl h), h]
    rfl

/-! ## Circuits that stay closed -/

/-- Never as many failures in a row as trip a breaker. -/
def Untripped (config : BreakerConfig) (h : History) : Prop :=
  ¬ List.replicate config.normalized.failureThreshold .failure <:+:
    reported config.normalized.trip h

theorem replicate_block (o : Outcome) (os : List Outcome) :
    List.replicate (block o os) o <+: os := by
  have htake : os.takeWhile (· = o) = List.replicate (block o os) o :=
    List.eq_replicate_iff.mpr ⟨rfl, fun x hx =>
      of_decide_eq_true (List.all_eq_true.mp List.all_takeWhile x hx)⟩
  rw [← htake]
  exact List.takeWhile_prefix _

theorem reported_append (trip : Response → Bool) (h h' : History) :
    reported trip (h ++ h') = reported trip h' ++ reported trip h := by
  simp [reported]

section
variable {config : BreakerConfig} {h h' : History}

theorem Untripped.of_append (hno : Untripped config (h ++ h')) : Untripped config h := by
  intro hrun
  refine hno (hrun.trans ?_)
  rw [reported_append]
  exact (List.suffix_append _ _).isInfix

theorem closed_of_untripped (hno : Untripped config h) (hr : ∀ x ∈ h, x.2 ≠ .reset) :
    (after config h).circuit = .closed := by
  have hblock : ∀ os, os <:+ reported config.normalized.trip h →
      block .failure os < config.normalized.failureThreshold := by
    intro os hos
    by_contra hle
    have hlong : List.replicate config.normalized.failureThreshold .failure <+:
        List.replicate (block .failure os) Outcome.failure :=
      List.prefix_replicate_iff.mpr ⟨by simpa using Nat.le_of_not_lt hle, by simp⟩
    exact hno ((hlong.trans (replicate_block _ _)).isInfix.trans hos.isInfix)
  rw [(simulation config h).1, Epoch.after, closed_since h hr hblock]
  rfl

theorem isBuilt_of_closed {w : World} {b : Breaker} (hw : w.breaker = some b)
    (hb : b.circuit = .closed) : isBuilt w = true := by
  simp only [isBuilt, hw, Option.all_some, Breaker.preRequest, hb]
  rfl

end

/-! ## Accounts -/

theorem history_ne_reset (accounts : List Account) :
    ∀ x ∈ accounts.flatMap Account.history, x.2 ≠ .reset := by
  intro x hx
  obtain ⟨a, -, hx⟩ := List.mem_flatMap.mp hx
  rcases List.mem_cons.mp hx with rfl | hx
  · nofun
  · obtain ⟨t, -, rfl⟩ := Option.map_eq_some_iff.mp (Option.mem_toList.mp hx)
    nofun

theorem after_append (config : BreakerConfig) (h h' : History) :
    after config (h ++ h') = play (after config h) h' := by
  rw [after_eq_play, after_eq_play, play_append]

section
variable {c : Client} {p : PreparedRequest} {config : BreakerConfig}

/-- What an attempt owes the breaker is settled by the world in which it begins. -/
theorem booked_unique {head : Progress × World} {a a' : Account} (h : Booked c p head a)
    (h' : Booked c p head a') : a = a' := by
  have htold : ∀ x, a.told = some x ↔ a'.told = some x := fun x =>
    (h.told x.1 x.2).trans (h'.told x.1 x.2).symm
  obtain ⟨asked, told⟩ := a
  obtain ⟨asked', told'⟩ := a'
  have hasked : asked = asked' := h.asked.trans h'.asked.symm
  have htold : told = told' := Option.ext htold
  rw [hasked, htold]

theorem turn_after {g : Progress} {w w' : World} {x : Progress ⊕ Except Error Response}
    {a : Account} {before : List Account} (ht : turn c p g w = .ok (x, w'))
    (ha : Booked c p (g, w) a)
    (hw : w.breaker = some (after config (before.flatMap Account.history))) :
    w'.breaker = some (after config ((before ++ [a]).flatMap Account.history)) := by
  obtain ⟨a', ha', hbreaker⟩ := turn_booked ht
  rw [hbreaker, hw, booked_unique ha' ha, List.flatMap_append, List.flatMap_singleton,
    after_append]
  rfl

theorem isBuilt_of_untripped {w : World} {before more : List Account}
    (hw : w.breaker = some (after config (before.flatMap Account.history)))
    (hno : Untripped config ((before ++ more).flatMap Account.history)) : isBuilt w = true := by
  rw [List.flatMap_append] at hno
  exact isBuilt_of_closed hw (closed_of_untripped hno.of_append (history_ne_reset before))

/-- While the accounts never hold enough failures in a row, the gate lets all attempts pass. What is
carried from turn to turn is that the breaker is what the accounts so far make of a new one. -/
theorem loop_untripped {heads : List (Progress × World)} {g : Progress} {w : World}
    {y : Except Halt (Except Error Response × World)} (hl : Loop c p heads g w y)
    {before accounts : List Account} (hbooked : List.Forall₂ (Booked c p) heads accounts)
    (hw : w.breaker = some (after config (before.flatMap Account.history)))
    (hno : Untripped config ((before ++ accounts).flatMap Account.history)) :
    (∀ head ∈ heads, isBuilt head.2 = true) ∧ ∀ x w', y = .ok (x, w') →
      w'.breaker = some (after config ((before ++ accounts).flatMap Account.history)) := by
  have hbuilt := isBuilt_of_untripped hw hno
  induction hl generalizing before accounts with
  | ends ht =>
    obtain _ | ⟨ha, _ | _⟩ := hbooked
    refine ⟨fun head hmem => List.mem_singleton.mp hmem ▸ hbuilt, fun x w' hy => ?_⟩
    cases hy
    exact turn_after ht ha hw
  | halts ht =>
    refine ⟨fun head hmem => List.mem_singleton.mp hmem ▸ hbuilt, fun x w' hy => ?_⟩
    cases hy
  | goesOn ht hl ih =>
    obtain _ | @⟨_, a, _, rest, ha, hrest⟩ := hbooked
    have hw' := turn_after ht ha hw
    rw [List.append_cons] at hno ⊢
    obtain ⟨hheads, hend⟩ := ih hrest hw' hno (isBuilt_of_untripped hw' hno)
    refine ⟨fun head hmem => ?_, hend⟩
    rcases List.mem_cons.mp hmem with rfl | hmem
    · exact hbuilt
    · exact hheads head hmem

end

/-! ## Sessions -/

def bareErrand (e : Errand) : Errand := ⟨e.request, bare e.before, e.result, bare e.after⟩

section
variable {c : Client} {config : BreakerConfig}

theorem send_untripped {b : RequestBuilder} {w w' : World} {x : Except Error Response}
    (hx : c.send b w = .ok (x, w')) {before accounts : List Account}
    (hkept : Kept c ⟨b, w, x, w'⟩ accounts)
    (hw : w.breaker = some (after config (before.flatMap Account.history)))
    (hno : Untripped config ((before ++ accounts).flatMap Account.history)) :
    (unguarded c).send b (bare w) = .ok (x, bare w') ∧
      w'.breaker = some (after config ((before ++ accounts).flatMap Account.history)) := by
  cases hp : b.prepare c with
  | error e =>
    obtain rfl := hkept.unsent e hp
    rw [send_unguarded]
    simp only [Client.send, hp] at hx ⊢
    cases hx
    exact ⟨rfl, by rwa [List.append_nil]⟩
  | ok p =>
    obtain ⟨heads, hl, hbooked, -⟩ := hkept.sent p hp
    have hbegun : (begun p w).breaker = some (after config (before.flatMap Account.history)) := hw
    obtain ⟨hbuilt, hend⟩ := loop_untripped hl hbooked hbegun hno
    rw [← hx] at hl
    rw [send_bare hp hl hbuilt, hx]
    exact ⟨rfl, hend x w' rfl⟩

theorem session_untripped {w w' : World} {errands : List Errand} (hs : Session c w errands w')
    {before : List Account} {ledgers : List (List Account)}
    (hkept : List.Forall₂ (Kept c) errands ledgers)
    (hw : w.breaker = some (after config (before.flatMap Account.history)))
    (hno : Untripped config ((before ++ ledgers.flatten).flatMap Account.history)) :
    Session (unguarded c) (bare w) (errands.map bareErrand) (bare w') := by
  induction hs generalizing before ledgers with
  | rest h => exact .rest rfl
  | @send w v v' w' b x errands h hx hs ih =>
    obtain _ | @⟨_, accounts, _, rest, hk, hrest⟩ := hkept
    rw [List.flatten_cons, ← List.append_assoc] at hno
    have hsend := hno
    rw [List.flatMap_append] at hsend
    obtain ⟨hbare, hbreaker⟩ := send_untripped hx hk (h.trans hw) hsend.of_append
    exact .send rfl hbare (ih hrest hbreaker hno)

end

/-- Neither a trace nor a breaker that never trips makes a difference. A run with tracing and one
without it differ in the trace alone, unless a response hook looks at the trace; the transport and
the breaker see the same even then. And requests sent one after the other by a client whose breaker
never hears of enough failures in a row go as they go without a breaker: they give the same in
worlds that differ in nothing but the breaker. One that halts does so without a breaker, too. -/
theorem transparent (c : Client) :
    (∀ (b : RequestBuilder) w on on' own own',
      Alike c (own.getD on) (own'.getD on') ((tracing c on).send { b with trace := own } w)
        ((tracing c on').send { b with trace := own' } w)) ∧
    ∀ config, c.config.breaker = some config →
      (∀ errands w' ledgers, Session c c.world errands w' →
        List.Forall₂ (Kept c) errands ledgers →
        Untripped config (ledgers.flatten.flatMap Account.history) →
        Session (unguarded c) (unguarded c).world (errands.map bareErrand) (bare w')) ∧
      ∀ b w e, c.send b w = .error e → (unguarded c).send b (bare w) = .error e := by
  refine ⟨send_alike c, fun config hc => ⟨fun errands w' ledgers hs hkept hno => ?_, ?_⟩⟩
  · have hmade : c.world.breaker = some (after config (List.flatMap Account.history [])) := by
      simp only [Client.world, hc]
      rfl
    exact session_untripped hs hkept hmade hno
  · exact fun b w e => send_halts

theorem reported_length_le (trip : Response → Bool) (accounts : List Account) :
    (reported trip (accounts.flatMap Account.history)).length ≤ accounts.length := by
  have hone (a : Account) : (reported trip a.history).length ≤ 1 := by
    obtain ⟨asked, _ | told⟩ := a
    · exact Nat.zero_le _
    · exact Nat.le_refl 1
  induction accounts with
  | nil => exact Nat.le_refl _
  | cons a accounts ih =>
    rw [List.flatMap_cons, reported_append, List.length_append, List.length_cons]
    exact Nat.add_le_add ih (hone a)

theorem untripped_of_length_lt {config : BreakerConfig} {accounts : List Account}
    (h : accounts.length < config.normalized.failureThreshold) :
    Untripped config (accounts.flatMap Account.history) := by
  intro hrun
  have hle := hrun.length_le
  rw [List.length_replicate] at hle
  exact absurd (Nat.le_trans hle (reported_length_le _ _)) (Nat.not_le.mpr h)

theorem limit_filter_le (q : Option RetryPolicy) (f : RetryPolicy → Bool) :
    limit (q.filter f) ≤ limit q := by
  cases q with
  | none => exact Nat.le_refl _
  | some q =>
    rw [Option.filter_some]
    split
    · exact Nat.le_refl _
    · exact Nat.le_max_left _ _

theorem kept_length_le {c : Client} {e : Errand} {accounts : List Account}
    (h : Kept c e accounts) : accounts.length ≤ limit (e.request.chosenRetry c.config) := by
  cases hp : e.request.prepare c with
  | error x =>
    obtain rfl := h.unsent x hp
    exact Nat.zero_le _
  | ok p =>
    obtain ⟨heads, hl, hbooked, -⟩ := h.sent p hp
    have hretry : p.retry = e.request.chosenRetry c.config := by rw [prepare_eq hp]
    have hpos : 0 < limit p.policy := by
      cases p.policy with
      | none => exact Nat.one_pos
      | some q => exact Nat.lt_of_lt_of_le Nat.one_pos (Nat.le_max_left _ _)
    have hle := hl.length_le hpos
    have hstart : (c.start p (begun p e.before)).attempt = 0 := rfl
    rw [hstart, Nat.zero_add, hbooked.length_eq] at hle
    rw [← hretry]
    exact Nat.le_trans hle (limit_filter_le _ _)

/-- A client that sends each request twice, and whose breaker bears four failures in a row. -/
def patient : Client where
  config := { retry := some (.constant 2 5), breaker := some { failureThreshold := 5 } }
  transport _ _ := .done (.ok { status := away })
  hooks := [Hook.refuseErrors]

/-- All four attempts of two requests fail, and nothing tells that there is a breaker or a trace. -/
theorem patient_transparent : ∃ errands w', Session patient patient.world errands w' ∧
    errands.map Errand.request = [visit, visit] ∧ w'.calls = 4 ∧
    Session (unguarded patient) (unguarded patient).world (errands.map bareErrand) (bare w') ∧
    ((tracing patient false).send { visit with trace := some true } patient.world).map apart =
      ((tracing patient false).send { visit with trace := some false } patient.world).map
        apart := by
  have hends : ((patient.send visit patient.world).bind fun y =>
      (patient.send visit y.2).map fun z => z.2.calls) = .ok 4 := by decide +kernel
  obtain ⟨⟨x, v⟩, hx, hends⟩ := bind_eq_ok_iff.mp hends
  obtain ⟨⟨x', v'⟩, hx', hcalls⟩ := map_eq_ok_iff.mp hends
  have hs : Session patient patient.world [⟨visit, _, x, v⟩, ⟨visit, v, x', v'⟩] v' :=
    .send rfl hx (.send rfl hx' (.rest rfl))
  obtain ⟨ledgers, hkept, -⟩ := session_breaker hs
  have hno : Untripped { failureThreshold := 5 } (ledgers.flatten.flatMap Account.history) := by
    obtain _ | @⟨_, first, _, _, hfirst, hrest⟩ := hkept
    obtain _ | @⟨_, second, _, _, hsecond, _ | _⟩ := hrest
    refine untripped_of_length_lt ?_
    have hlimit : limit (visit.chosenRetry patient.config) = 2 := rfl
    have hle := kept_length_le hfirst
    have hle' := kept_length_le hsecond
    have hthreshold :
        (BreakerConfig.normalized { failureThreshold := 5 }).failureThreshold = 5 := rfl
    rw [hlimit] at hle hle'
    rw [hthreshold]
    simp only [List.flatten_cons, List.flatten_nil, List.append_nil, List.length_append]
    omega
  have hblind : ∀ h ∈ patient.hooks, Blind h := by
    intro h hh
    cases List.mem_singleton.mp hh
    exact blind_refuseErrors
  obtain ⟨htrace, hbreaker⟩ := transparent patient
  exact ⟨_, v', hs, rfl, hcalls, (hbreaker _ rfl).1 _ _ _ hs hkept hno,
    (htrace visit patient.world false false (some true) (some false)).result hblind⟩

/-- A client with a hook that refuses responses without a trace. -/
def curious : Client where
  transport _ _ := .done (.ok {})
  hooks := [{ onResponse := fun _ r => .done (r.traceInfo.map fun _ => r) }]

def complaint (y : Except Error Response × World) : Option String := (errorOf? y.1).map Error.message

theorem complaint_apart (y : Except Error Response × World) : complaint (apart y) = complaint y := by
  obtain ⟨x, w⟩ := y
  cases x <;> rfl

/-- A response hook can look at the trace, and refuse a response because there is none. -/
theorem curious_not_transparent :
    ((tracing curious true).send visit {}).map complaint = .ok none ∧
    ((tracing curious false).send visit {}).map complaint =
      .ok (some Error.traceNotEnabled.message) ∧
    ((tracing curious true).send visit {}).map apart ≠
      ((tracing curious false).send visit {}).map apart := by
  have hon : ((tracing curious true).send visit {}).map complaint = .ok none := by decide +kernel
  have hoff : ((tracing curious false).send visit {}).map complaint =
      .ok (some Error.traceNotEnabled.message) := by decide +kernel
  refine ⟨hon, hoff, fun hsame => ?_⟩
  obtain ⟨y, hy, hcomplaint⟩ := map_eq_ok_iff.mp hon
  obtain ⟨y', hy', hcomplaint'⟩ := map_eq_ok_iff.mp hoff
  rw [hy, hy', map_ok, map_ok] at hsame
  have hapart := congrArg complaint (Except.ok.inj hsame)
  rw [complaint_apart, complaint_apart, hcomplaint, hcomplaint'] at hapart
  cases hapart

end ResilientHttp.Transparency
