import Mathlib.Algebra.GroupWithZero.Nat
import Mathlib.Data.List.Forall2
import ResilientHttp.Proofs.Passage

/-!
# What a trace tells

An attempt adds its entry when the transport has answered, and the wait after it is written into the
latest entry. So an attempt that the transport did not answer leaves no entry, and if another attempt
follows it the wait in between is written over the one that stands in the entry before. A trace is
right exactly if every attempt was answered. So it is unless the failure of a hook is tried again.
-/
namespace ResilientHttp.TraceFidelity
open Building Runs Turns Passage

/-- The transport gave something in an attempt that counts. -/
def Answered (c : Client) (p : PreparedRequest) (head : Progress × World) : Prop :=
  ∃ x, Answers c p head.1 head.2 x ∧ Counts p x

/-- The entry tells what the transport gave in an attempt. -/
def Told (c : Client) (p : PreparedRequest) (head : Progress × World) (a : AttemptTrace) : Prop :=
  ∃ x, Answers c p head.1 head.2 x ∧ Counts p x ∧
    a = Client.attemptTrace (head.1.attempt + 1) (x.answered.now - x.called.now)
      (Client.received x.result)

/-- The entry of an attempt, which there is exactly if the transport gave something. -/
def Entered (c : Client) (p : PreparedRequest) (head : Progress × World) :
    Option AttemptTrace → Prop
  | some a => Told c p head a
  | none => ¬ Answered c p head

def waited (a : AttemptTrace) (d : Span) : AttemptTrace := { a with wait := d }

/-- The entries when one more attempt leaves its own or none, and a wait follows it. -/
def entered (as : List AttemptTrace) (x : Option AttemptTrace × Span) : List AttemptTrace :=
  match x.1 with
  | some a => as ++ [waited a x.2]
  | none => as.modify (as.length - 1) fun a => waited a x.2

/-- The entries when some more attempts leave theirs, with the waits that follow them. -/
def written (as : List AttemptTrace) (entries : List (Option AttemptTrace)) (ds : List Span) :
    List AttemptTrace := (entries.zip ds).foldl entered as

/-- What the trace of a response tells: the entries that the attempts left, and the waits between the
attempts, each written into the latest entry that there was. The totals are those of the response. -/
structure Traced (c : Client) (p : PreparedRequest) (heads : List (Progress × World))
    (w w' : World) (r : Response) (trace : Trace) : Prop where
  turns : heads.length = r.attempts
  entries : ∃ entries ds, List.Forall₂ (Entered c p) heads entries ∧ ds.length + 1 = r.attempts ∧
    trace.attempts = written [] entries (ds ++ [0]) ∧
    waits w' = waits w ++ ds ∧
    (∀ i head, heads[i]? = some head → waits head.2 = waits w ++ ds.take i) ∧
    ds.sum = trace.totalWait
  totalWait : trace.totalWait = r.totalWait
  totalTime : trace.totalTime = r.elapsed

/-- A trace that tells of every attempt what the transport gave and which wait was begun after it. -/
structure Faithful (c : Client) (p : PreparedRequest) (heads : List (Progress × World))
    (w w' : World) (r : Response) (trace : Trace) : Prop where
  length : trace.attempts.length = r.attempts
  numbers : trace.attempts.map AttemptTrace.attempt = List.range' 1 r.attempts
  turns : heads.length = r.attempts
  entries : ∃ entries ds, List.Forall₂ (Told c p) heads entries ∧ ds.length + 1 = r.attempts ∧
    trace.attempts = List.zipWith waited entries (ds ++ [0]) ∧
    waits w' = waits w ++ ds ∧
    (∀ i head, heads[i]? = some head → waits head.2 = waits w ++ ds.take i) ∧
    ds.sum = trace.totalWait
  totalWait : trace.totalWait = r.totalWait
  totalTime : trace.totalTime = r.elapsed

/-- The policy does not try again when a hook refuses a request. -/
def Definite (p : PreparedRequest) (hook : Hook) : Prop :=
  ∀ q, p.policy = some q → ∀ seen r e, hook.onRequest seen r = .error e →
    q.isRetryable none (some e) p.method.isIdempotent = false

/-- The hook hands on what a response tells of its attempts. -/
def KeepsAccount (hook : Hook) : Prop :=
  ∀ slack seen r r' w w', (hook.onResponse seen r).runFreely slack w = .ok (.ok r', w') →
    r'.attempts = r.attempts ∧ r'.elapsed = r.elapsed ∧ r'.totalWait = r.totalWait ∧
      r'.trace = r.trace

theorem record_setLastWait (t : Trace) (a : AttemptTrace) (d : Span) :
    (t.record a).setLastWait d = { t with attempts := t.attempts ++ [waited a d] } := by
  have hlast : (t.attempts ++ [a]).length - 1 = t.attempts.length := by simp
  have hmodify : (t.attempts ++ [a]).modify t.attempts.length (fun a => { a with wait := d }) =
      t.attempts ++ [waited a d] := by
    simp [List.modify_eq_take_drop, List.modifyHead, waited]
  simp only [Trace.setLastWait, Trace.record, hlast, hmodify]

/-! ## Entries -/

theorem length_entered (as : List AttemptTrace) (entry : Option AttemptTrace) (d : Span) :
    (entered as (entry, d)).length = as.length + [entry].countP Option.isSome := by
  cases entry with
  | some a => simp [entered]
  | none => simp [entered]

theorem length_written {entries : List (Option AttemptTrace)} {ds : List Span}
    (h : ds.length = entries.length) (as : List AttemptTrace) :
    (written as entries ds).length = as.length + entries.countP Option.isSome := by
  induction entries generalizing as ds with
  | nil => simp [written]
  | cons entry entries ih =>
    obtain _ | ⟨d, ds⟩ := ds
    · cases h
    · have hrest := ih (Nat.succ.inj h) (entered as (entry, d))
      rw [length_entered, Nat.add_assoc, ← List.countP_append] at hrest
      exact hrest

/-- If every attempt left its entry, each has the wait after it. -/
theorem written_map_some (as entries : List AttemptTrace) (ds : List Span) :
    written as (entries.map some) ds = as ++ List.zipWith waited entries ds := by
  induction entries generalizing as ds with
  | nil => simp [written]
  | cons a entries ih =>
    obtain _ | ⟨d, ds⟩ := ds
    · simp [written]
    · have hrest := ih (as ++ [waited a d]) ds
      rw [List.append_assoc] at hrest
      exact hrest

section
variable {c : Client} {p : PreparedRequest} {heads : List (Progress × World)} {w w' : World}
  {r : Response} {trace : Trace}

theorem Told.attempt {head : Progress × World} {a : AttemptTrace} (h : Told c p head a) :
    a.attempt = head.1.attempt + 1 := by
  obtain ⟨x, -, -, rfl⟩ := h
  cases Client.received x.result <;> rfl

theorem Told.answered {head : Progress × World} {a : AttemptTrace} (h : Told c p head a) :
    Answered c p head := by
  obtain ⟨x, hx, hcounts, -⟩ := h
  exact ⟨x, hx, hcounts⟩

theorem Entered.isSome {head : Progress × World} {entry : Option AttemptTrace}
    (h : Entered c p head entry) : entry.isSome = true ↔ Answered c p head := by
  cases entry with
  | some a => exact iff_of_true rfl (Told.answered h)
  | none => exact iff_of_false nofun h

theorem countP_of_entered {entries : List (Option AttemptTrace)}
    (h : List.Forall₂ (Entered c p) heads entries) :
    entries.countP Option.isSome = entries.length ↔ ∀ head ∈ heads, Answered c p head := by
  rw [List.countP_eq_length]
  induction h with
  | nil => simp
  | cons he hs ih =>
    rw [List.forall_mem_cons, List.forall_mem_cons, ih, he.isSome]

theorem forall₂_told {entries : List (Option AttemptTrace)}
    (h : List.Forall₂ (Entered c p) heads entries) (ha : ∀ head ∈ heads, Answered c p head) :
    ∃ as, entries = as.map some ∧ List.Forall₂ (Told c p) heads as := by
  induction h with
  | nil => exact ⟨[], rfl, .nil⟩
  | @cons head entry heads entries he hs ih =>
    rw [List.forall_mem_cons] at ha
    obtain ⟨a, rfl⟩ := Option.isSome_iff_exists.mp (he.isSome.mpr ha.1)
    obtain ⟨as, rfl, has⟩ := ih ha.2
    exact ⟨a :: as, rfl, .cons he has⟩

theorem numbers_of_told {n : Nat} {as : List AttemptTrace} (h : List.Forall₂ (Told c p) heads as)
    (hn : ∀ (i : Nat) (head : Progress × World), heads[i]? = some head → head.1.attempt = n + i)
    {ds : List Span}
    (hd : ds.length = as.length) :
    (List.zipWith waited as ds).map AttemptTrace.attempt = List.range' (n + 1) heads.length := by
  induction h generalizing n ds with
  | nil => rfl
  | @cons head a heads as ha has ih =>
    obtain _ | ⟨d, ds⟩ := ds
    · cases hd
    · have hrest := ih (n := n + 1) (fun i head hi => by
        rw [hn (i + 1) head hi, Nat.add_assoc, Nat.add_comm 1]) (Nat.succ.inj hd)
      rw [List.zipWith_cons_cons, List.map_cons, hrest, List.length_cons, List.range'_succ]
      have hhead : head.1.attempt = n := hn 0 head rfl
      exact congrArg (· :: _) (ha.attempt.trans (congrArg (· + 1) hhead))

/-- A trace has the right number of entries exactly if every attempt was answered. -/
theorem Traced.length_iff (h : Traced c p heads w w' r trace) :
    trace.attempts.length = r.attempts ↔ ∀ head ∈ heads, Answered c p head := by
  obtain ⟨entries, ds, hentries, hlength, htrace, -⟩ := h.entries
  have hheads : entries.length = r.attempts := hentries.length_eq.symm.trans h.turns
  have hds : (ds ++ [0]).length = entries.length := by
    rw [List.length_append, hheads]
    exact hlength
  rw [htrace, length_written hds, List.length_nil, Nat.zero_add, ← hheads]
  exact countP_of_entered hentries

theorem Traced.faithful (h : Traced c p heads w w' r trace)
    (hn : ∀ (i : Nat) (head : Progress × World), heads[i]? = some head → head.1.attempt = i)
    (ha : ∀ head ∈ heads, Answered c p head) : Faithful c p heads w w' r trace := by
  obtain ⟨entries, ds, hentries, hlength, htrace, hwaits, hheads, hsum⟩ := h.entries
  obtain ⟨as, rfl, has⟩ := forall₂_told hentries ha
  rw [written_map_some, List.nil_append] at htrace
  have hds : (ds ++ [0]).length = as.length := by
    rw [List.length_append, ← has.length_eq, h.turns]
    exact hlength
  refine ⟨h.length_iff.mpr ha, ?_, h.turns,
    ⟨as, ds, has, hlength, htrace, hwaits, hheads, hsum⟩, h.totalWait, h.totalTime⟩
  rw [htrace, numbers_of_told (n := 0) has (fun i head hi => by rw [hn i head hi, Nat.zero_add]) hds,
    h.turns]

theorem Traced.faithful_iff (h : Traced c p heads w w' r trace)
    (hn : ∀ (i : Nat) (head : Progress × World), heads[i]? = some head → head.1.attempt = i) :
    Faithful c p heads w w' r trace ↔ ∀ head ∈ heads, Answered c p head :=
  ⟨fun hf => h.length_iff.mp hf.length, h.faithful hn⟩

end

/-! ## Attempts without an entry -/

section
variable {c : Client} {p : PreparedRequest} {g : Progress} {d : Draft} {n : Nat} {w w' : World}

/-- A body that cannot be opened again makes a failure beyond hope. -/
theorem built_never {e : Error} (h : built d n w = .error e) : Verdict.ofError e = .never := by
  rw [built, map_eq_error_iff] at h
  cases hbody : d.body with
  | empty | bytes b =>
    rw [hbody] at h
    cases h
  | reopenable length opener =>
    rw [hbody] at h
    simp only [bodyFor] at h
    cases ho : opener w.openings with
    | ok s =>
      rw [ho] at h
      cases h
    | error fault =>
      rw [ho] at h
      cases h
      rfl
  | once length stream =>
    rw [hbody] at h
    simp only [bodyFor] at h
    split at h
    · cases h
      rfl
    · cases stream <;> cases h
      rfl

/-- A failure of the request hooks is that of one of them. -/
theorem requestHooks_error {b : Bounds} {hooks : List Hook} {i : Nat} {r : Request} {e : Error}
    (h : Client.requestHooks b i r hooks w = .ok (.error e, w')) :
    ∃ hook ∈ hooks, ∃ seen r', hook.onRequest seen r' = .error e := by
  induction hooks generalizing i r w with
  | nil => cases h
  | cons hook hooks ih =>
    rw [requestHooks_cons] at h
    obtain ⟨⟨u, v⟩, -, h⟩ := bind_eq_ok_iff.mp h
    cases hr : hook.onRequest (w.requestsSeen i) r with
    | ok r' =>
      rw [hr] at h
      obtain ⟨hook', hmem, hfails⟩ := ih h
      exact ⟨hook', List.mem_cons_of_mem _ hmem, hfails⟩
    | error e' =>
      rw [hr] at h
      cases h
      exact ⟨hook, List.mem_cons_self, _, r, hr⟩

/-- No attempt follows one that left no entry, unless the failure of a hook is tried again. -/
theorem silent_final (hh : ∀ hook ∈ c.hooks, Definite p hook) {o : Except Error Response}
    (ha : Attempted c p g w o none d w') (q : RetryPolicy) : moveAfter p n o ≠ .again q := by
  have hfinal : moveAfter p n o = .finish := by
    cases ha with
    | refused hg =>
      rcases (gate_cases hg).2 with hx | ⟨hx, -⟩
      · cases hx
      · cases hx
        exact moveAfter_never rfl n
    | unbuilt hg hb => exact moveAfter_never (built_never (of_build hb).1.symm) n
    | interrupted hg hb hh hc =>
      rcases call_passed hc with ⟨-, i, hi⟩ | hp
      · cases hi
        exact moveAfter_interruption i n
      · obtain ⟨i, rfl⟩ := within_error hc
        exact moveAfter_interruption i n
    | late hg hb hh hc hd => exact moveAfter_never rfl n
    | hooked hg hb hc =>
      obtain ⟨hook, hmem, seen, r, hfails⟩ := requestHooks_error hc
      cases hq : p.policy with
      | none => simp only [moveAfter, hq]
      | some q => exact moveAfter_of_stop hq (hh hook hmem q hq seen r _ hfails)
  rw [hfinal]
  intro h
  cases h

end

/-! ## Turns -/

theorem responseHooks_account {slack : Nat} {hooks : List Hook}
    (hk : ∀ hook ∈ hooks, KeepsAccount hook) {i : Nat} {r r' : Response} {w w' : World}
    (h : Client.responseHooks slack i r hooks w = .ok (.ok r', w')) :
    r'.attempts = r.attempts ∧ r'.elapsed = r.elapsed ∧ r'.totalWait = r.totalWait ∧
      r'.trace = r.trace := by
  induction hooks generalizing i r w with
  | nil =>
    cases h
    exact ⟨rfl, rfl, rfl, rfl⟩
  | cons hook hooks ih =>
    rw [responseHooks_cons] at h
    obtain ⟨⟨y, v⟩, hy, h⟩ := bind_eq_ok_iff.mp h
    cases y with
    | error e => cases h
    | ok r₁ =>
      obtain ⟨hattempts, helapsed, hwait, htrace⟩ := hk hook List.mem_cons_self _ _ _ _ _ _ hy
      obtain ⟨hattempts', helapsed', hwait', htrace'⟩ :=
        ih (fun hook hm => hk hook (List.mem_cons_of_mem _ hm)) h
      exact ⟨hattempts'.trans hattempts, helapsed'.trans helapsed, hwait'.trans hwait,
        htrace'.trans htrace⟩

section
variable {c : Client} {p : PreparedRequest} {g g' : Progress} {w w' : World} {r : Response}

/-- The entry of an attempt, and what becomes of the trace. -/
theorem attempted_entered {o : Except Error Response} {entry : Option AttemptTrace} {d : Draft}
    (h : Attempted c p g w o entry d w') :
    Entered c p (g, w) entry ∧ (o.isOk = true → entry.isSome = true) := by
  rcases attempted_cases h with ⟨rfl, -, e, rfl⟩ | ⟨x, hx, hcounts, rfl, -⟩
  · refine ⟨?_, nofun⟩
    rintro ⟨x, hx, hcounts⟩
    exact not_counts_of_silent h hx hcounts
  · exact ⟨⟨x, hx, hcounts, rfl⟩, fun _ => rfl⟩

/-- A turn that leads to another one leaves its entry, if it has one, and the wait after it. -/
theorem turn_goesOn (h : turn c p g w = .ok (.inl g', w')) :
    ∃ entry d, Entered c p (g, w) entry ∧ waits w' = waits w ++ [d] ∧
      g'.totalWait = g.totalWait + d ∧
      g'.trace = g.trace.map fun t => { t with attempts := entered t.attempts (entry, d) } := by
  obtain ⟨o, entry, d, v, ha, hs⟩ := turn_cases h
  have hbefore : waits v = waits w := attempted_waits ha
  rcases settle_cases hs with ⟨x, ds, hx, -⟩ | ⟨g₁, wait, hg, hp, -, -, htotal, htrace⟩
  · cases hx
  · cases hg
    refine ⟨entry, wait, (attempted_entered ha).1, by rw [hp.waits, hbefore], htotal, ?_⟩
    rw [htrace]
    cases entry with
    | none => rfl
    | some a =>
      rw [advanced, Option.map_map]
      exact Option.map_congr fun t _ => record_setLastWait t a wait

/-- A response that is handed on tells how far sending has come, until the hooks get it. -/
theorem settle_ok {o : Except Error Response} (h : settle c p g o w = .ok (.inr (.ok r), w')) :
    o.isOk = true ∧ ∃ r₁, Client.responseHooks c.slack 0 r₁ c.hooks w = .ok (.ok r, w') ∧
      r₁.attempts = g.attempt ∧ r₁.totalWait = g.totalWait ∧ r₁.trace = g.trace.map fun t =>
        { t with totalTime := r₁.elapsed, totalWait := r₁.totalWait } := by
  cases hm : moveAfter p g.attempt o with
  | exhaust =>
    rw [settle_exhaust hm] at h
    cases h
  | again q =>
    rw [settle_again hm, map_eq_ok_iff] at h
    obtain ⟨⟨y, v⟩, -, he⟩ := h
    cases y <;> cases he
  | finish =>
    rw [settle_finish hm, map_eq_ok_iff] at h
    obtain ⟨⟨y, v⟩, hf, he⟩ := h
    cases he
    cases o with
    | error e => cases hf
    | ok r₀ => exact ⟨rfl, _, hf, rfl, rfl, rfl⟩

theorem turn_ends (h : turn c p g w = .ok (.inr (.ok r), w')) :
    ∃ a r₁ v, Told c p (g, w) a ∧ waits w' = waits w ∧
      Client.responseHooks c.slack 0 r₁ c.hooks v = .ok (.ok r, w') ∧
      r₁.attempts = g.attempt + 1 ∧ r₁.totalWait = g.totalWait ∧ r₁.trace = g.trace.map fun t =>
        { attempts := t.attempts ++ [waited a 0]
          totalTime := r₁.elapsed
          totalWait := r₁.totalWait } := by
  obtain ⟨o, entry, d, v, ha, hs⟩ := turn_cases h
  obtain ⟨hentered, hsome⟩ := attempted_entered ha
  obtain ⟨hok, r₁, hhooks, hattempts, hwait, htrace⟩ := settle_ok hs
  obtain ⟨a, rfl⟩ := Option.isSome_iff_exists.mp (hsome hok)
  refine ⟨a, r₁, v, hentered, ?_, hhooks, hattempts, hwait, ?_⟩
  · exact (responseHooks_adds hhooks).waits.trans (attempted_waits ha)
  · have hzero : waited a 0 = a := by
      obtain ⟨x, -, -, rfl⟩ := hentered
      cases Client.received x.result <;> rfl
    rw [htrace, hzero, advanced, Option.map_map]
    rfl

/-- The turns of a request that ends in a response leave their entries one after the other. -/
theorem loop_traced {heads : List (Progress × World)}
    {y : Except Halt (Except Error Response × World)} (hl : Loop c p heads g w y)
    (hy : y = .ok (.ok r, w')) :
    ∃ r₁ v entries ds, Client.responseHooks c.slack 0 r₁ c.hooks v = .ok (.ok r, w') ∧
      List.Forall₂ (Entered c p) heads entries ∧ ds.length + 1 = heads.length ∧
      waits w' = waits w ++ ds ∧
      (∀ i head, heads[i]? = some head → waits head.2 = waits w ++ ds.take i) ∧
      r₁.attempts = g.attempt + heads.length ∧ r₁.totalWait = g.totalWait + ds.sum ∧
      r₁.trace = g.trace.map fun t =>
        { attempts := written t.attempts entries (ds ++ [0])
          totalTime := r₁.elapsed
          totalWait := r₁.totalWait } := by
  induction hl with
  | @ends g w w' x ht =>
    cases hy
    obtain ⟨a, r₁, v, ha, hwaits, hhooks, hattempts, hwait, htrace⟩ := turn_ends ht
    refine ⟨r₁, v, [some a], [], hhooks, .cons ha .nil, rfl, ?_, ?_, hattempts, hwait, htrace⟩
    · rw [hwaits, List.append_nil]
    · intro i head hi
      obtain ⟨rfl, rfl⟩ : i = 0 ∧ head = (g, w) := by
        simpa [List.getElem?_singleton, eq_comm] using hi
      exact (List.append_nil _).symm
  | halts ht => cases hy
  | @goesOn g g' w v heads y ht hl ih =>
    obtain ⟨entry, d, hentered, hwaits, hwait, htrace⟩ := turn_goesOn ht
    obtain ⟨r₁, v₁, entries, ds, hhooks, hentries, hlength, hwaits', hheads, hattempts, hwait',
      htrace'⟩ := ih hy
    refine ⟨r₁, v₁, entry :: entries, d :: ds, hhooks, .cons hentered hentries, ?_, ?_, ?_, ?_, ?_,
      ?_⟩
    · rw [List.length_cons, hlength, List.length_cons]
    · rw [hwaits', hwaits, List.append_assoc, List.singleton_append]
    · intro i head hi
      cases i with
      | zero =>
        cases hi
        exact (List.append_nil _).symm
      | succ i =>
        rw [hheads i head hi, hwaits, List.append_assoc, List.singleton_append, List.take_succ_cons]
    · rw [hattempts, (turn_inl ht).2, List.length_cons]
      omega
    · rw [hwait', hwait, List.sum_cons]
      exact Nat.add_assoc _ _ _
    · rw [htrace', htrace, Option.map_map]
      rfl

/-- If the failure of a hook is not tried again, every attempt of a request that ends in a response
was answered. -/
theorem loop_answered (hh : ∀ hook ∈ c.hooks, Definite p hook) {heads : List (Progress × World)}
    {y : Except Halt (Except Error Response × World)} (hl : Loop c p heads g w y)
    (hy : y = .ok (.ok r, w')) : ∀ head ∈ heads, Answered c p head := by
  induction hl with
  | ends ht =>
    cases hy
    obtain ⟨a, r₁, v, ha, -⟩ := turn_ends ht
    exact fun head hm => List.mem_singleton.mp hm ▸ ha.answered
  | halts ht => cases hy
  | goesOn ht hl ih =>
    refine List.forall_mem_cons.mpr ⟨?_, ih hy⟩
    obtain ⟨o, entry, d, v, ha, hs⟩ := turn_cases ht
    obtain ⟨q, hm, -⟩ := pause_of_settle_inl hs
    cases entry with
    | none => exact absurd hm (silent_final hh ha q)
    | some a => exact Told.answered (attempted_entered ha).1

end

/-- The response hooks of a request with a trace are given a response with the trace, and with the
account that the trace belongs to. The trace tells of every attempt, in order, what the transport gave
and which wait followed, if every attempt was answered, and only then; an attempt that was not leaves
no entry, and the wait after it is written over another one. Every attempt was answered unless the
policy tries again what a hook refused. Hooks that keep the account hand all this on. -/
theorem send_traced {c : Client} {b : RequestBuilder} {p : PreparedRequest} {w w' : World}
    {r : Response} (hp : b.prepare c = .ok p) (ht : p.trace = true)
    (h : c.send b w = .ok (.ok r, w')) :
    ∃ r₁ trace v heads, Client.responseHooks c.slack 0 r₁ c.hooks v = .ok (.ok r, w') ∧
      r₁.traceInfo = .ok trace ∧
      Loop c p heads (c.start p (begun p w)) (begun p w) (.ok (.ok r, w')) ∧
      Traced c p heads w w' r₁ trace ∧
      (trace.attempts.length = r₁.attempts ↔ ∀ head ∈ heads, Answered c p head) ∧
      (Faithful c p heads w w' r₁ trace ↔ ∀ head ∈ heads, Answered c p head) ∧
      ((∀ hook ∈ c.hooks, Definite p hook) → ∀ head ∈ heads, Answered c p head) ∧
      ((∀ hook ∈ c.hooks, KeepsAccount hook) → r.traceInfo = .ok trace ∧
        r.attempts = r₁.attempts ∧ r.elapsed = r₁.elapsed ∧ r.totalWait = r₁.totalWait) := by
  obtain ⟨heads, hl⟩ := loop_send hp w
  obtain ⟨r₁, v, entries, ds, hhooks, hentries, hlength, hwaits, hheads, hattempts, hwait,
    htrace⟩ := loop_traced hl h
  have hanswered (hh : ∀ hook ∈ c.hooks, Definite p hook) : ∀ head ∈ heads, Answered c p head :=
    loop_answered hh hl h
  rw [h] at hl
  have hstart : (c.start p (begun p w)).attempt = 0 := rfl
  have hbegin : (c.start p (begun p w)).totalWait = 0 := rfl
  have hempty : (c.start p (begun p w)).trace = some {} := by simp only [Client.start, ht, if_true]
  rw [hstart, Nat.zero_add] at hattempts
  rw [hbegin, Nat.zero_add] at hwait
  rw [hempty, Option.map_some] at htrace
  have hn (i : Nat) (head : Progress × World) (hi : heads[i]? = some head) : head.1.attempt = i :=
    (hl.attempt hi).trans (Nat.zero_add i)
  have htraced : Traced c p heads w w' r₁
      ⟨written [] entries (ds ++ [0]), r₁.elapsed, r₁.totalWait⟩ :=
    ⟨hattempts.symm, ⟨entries, ds, hentries, hlength.trans hattempts.symm, rfl, hwaits, hheads,
      hwait.symm⟩, rfl, rfl⟩
  have hinfo {r' : Response} (hr : r'.trace = r₁.trace) :
      r'.traceInfo = .ok ⟨written [] entries (ds ++ [0]), r₁.elapsed, r₁.totalWait⟩ := by
    simp only [Response.traceInfo, hr, htrace]
  refine ⟨r₁, _, v, heads, hhooks, hinfo rfl, hl, htraced, htraced.length_iff,
    htraced.faithful_iff hn, hanswered, fun hk => ?_⟩
  obtain ⟨hattempts', helapsed', hwait', htrace'⟩ := responseHooks_account hk hhooks
  exact ⟨hinfo htrace', hattempts', helapsed', hwait'⟩

def traced : RequestBuilder := { method := .get, url := "http://localhost/", trace := some true }

def client (hook : Hook) : Client where
  config := { retry := some (.constant 3 5) }
  transport n _ := .done (.ok { status := if n = 0 then away else .ok })
  hooks := [hook]

/-- A hook that has seen enough after some requests. -/
def weary : Hook where
  onRequest seen r := if seen = 5 then .error (.interceptor "enough") else .ok r

/-- A hook that is cut off from its own server once. -/
def severed : Hook where
  onRequest seen r := if seen = 1 then .error (.transport (.connect "refused")) else .ok r

def summary (y : Except Error Response × World) : Option (Nat × Span × List AttemptTrace) :=
  y.1.toOption.bind fun r => r.trace.map fun t => (r.attempts, r.totalWait, t.attempts)

theorem of_summary {x : Except Halt (Except Error Response × World)} {n : Nat} {d : Span}
    {as : List AttemptTrace} (h : x.toOption.bind summary = some (n, d, as)) :
    ∃ r w' trace, x = .ok (.ok r, w') ∧ r.traceInfo = .ok trace ∧ r.attempts = n ∧
      r.totalWait = d ∧ trace.attempts = as := by
  obtain ⟨⟨y, w'⟩, hx, hy⟩ := Option.bind_eq_some_iff.mp h
  obtain rfl := toOption_eq_some_iff.mp hx
  cases y with
  | error e => cases hy
  | ok r =>
    obtain ⟨trace, ht, he⟩ := Option.map_eq_some_iff.mp hy
    cases he
    exact ⟨r, w', trace, rfl, by simp only [Response.traceInfo, ht], rfl, rfl, rfl⟩

/-- Every attempt was answered, and the wait stands in the entry of the attempt before it. -/
theorem traced_faithful : ∃ p r w' trace heads, traced.prepare (client weary) = .ok p ∧
    (client weary).send traced {} = .ok (.ok r, w') ∧ r.traceInfo = .ok trace ∧
    Faithful (client weary) p heads {} w' r trace ∧ r.attempts = 2 ∧
    trace.attempts = [⟨1, 0, some 503, none, 5⟩, ⟨2, 0, some 200, none, 0⟩] := by
  have hprepared : (traced.prepare (client weary)).isOk = true := by decide +kernel
  have hsent : ((client weary).send traced {}).toOption.bind summary =
      some (2, 5, [⟨1, 0, some 503, none, 5⟩, ⟨2, 0, some 200, none, 0⟩]) := by decide +kernel
  obtain ⟨r, w', trace, hsend, htrace, hattempts, -, hentries⟩ := of_summary hsent
  cases hp : traced.prepare (client weary) with
  | error e =>
    rw [hp] at hprepared
    cases hprepared
  | ok p =>
    have hon : p.trace = true := by rw [prepare_eq hp]; rfl
    have hdefinite : ∀ hook ∈ (client weary).hooks, Definite p hook := by
      intro hook hmem
      cases List.mem_singleton.mp hmem
      intro q hq seen r e he
      simp only [weary] at he
      split at he <;> cases he
      simp [RetryPolicy.isRetryable, Verdict.ofOutcome, Verdict.ofError]
    obtain ⟨r₁, trace', v, heads, hhooks, htrace', -, -, -, hfaithful, hanswered, -⟩ :=
      send_traced hp hon hsend
    -- The hook has nothing to say about the response and hands it on.
    cases hhooks
    cases htrace.symm.trans htrace'
    exact ⟨p, r, _, trace, heads, rfl, hsend, htrace, hfaithful.mpr (hanswered hdefinite),
      hattempts, hentries⟩

/-- An attempt that a hook cuts off from its server leaves no entry if it is tried again, and the
wait after it is told of the attempt before. -/
theorem severed_not_faithful : ∃ r w' trace, (client severed).send traced {} = .ok (.ok r, w') ∧
    r.traceInfo = .ok trace ∧ r.attempts = 3 ∧ r.totalWait = 10 ∧
    trace.attempts = [⟨1, 0, some 503, none, 5⟩, ⟨3, 0, some 200, none, 0⟩] ∧
    ∀ p heads, ¬ Faithful (client severed) p heads {} w' r trace := by
  have hsent : ((client severed).send traced {}).toOption.bind summary =
      some (3, 10, [⟨1, 0, some 503, none, 5⟩, ⟨3, 0, some 200, none, 0⟩]) := by decide +kernel
  obtain ⟨r, w', trace, hsend, htrace, hattempts, hwait, hentries⟩ := of_summary hsent
  refine ⟨r, w', trace, hsend, htrace, hattempts, hwait, hentries, fun p heads hfaithful => ?_⟩
  have hlength := hfaithful.length
  rw [hentries, hattempts] at hlength
  cases hlength

end ResilientHttp.TraceFidelity
