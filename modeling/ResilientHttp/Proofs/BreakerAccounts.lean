import ResilientHttp.Proofs.Passage

/-!
# What a client owes its breaker

Every attempt asks the gate once, and it tells the breaker once what the transport gave, or not at all.
The accounts of all attempts, one after the other, are the whole history of the breaker: nothing else
that a client does touches it, neither the loop of attempts nor a decompressor nor a hook.
-/
namespace ResilientHttp.BreakerAccounts
open BreakerHistory Runs Turns Passage

def play (b : Breaker) (h : History) : Breaker := h.foldl (fun b e => perform b e.1 e.2) b

theorem after_eq_play (config : BreakerConfig) (h : History) :
    after config h = play (.make config) h := rfl

theorem play_append (b : Breaker) (h h' : History) : play b (h ++ h') = play (play b h) h' :=
  List.foldl_append

/-- What an attempt does to the breaker: when it asks the gate, and when it tells what the transport
gave. -/
structure Account where
  asked : Instant
  told : Option (Instant × Except TransportError Reply) := none

/-- The operations of an account. What is told is the transport's own result, before anything is made
of it. -/
def Account.history (a : Account) : History :=
  (a.asked, .preRequest) :: (a.told.map fun x =>
    (x.1, .execute (Client.received x.2).toOption (errorOf? (Client.received x.2)))).toList

/-- The account of an attempt. Something is told exactly if the gate and the hooks let the attempt
pass and the transport answers, with a result or else with a failure before the deadline. -/
structure Booked (c : Client) (p : PreparedRequest) (head : Progress × World) (a : Account) :
    Prop where
  asked : a.asked = head.2.now
  told : ∀ t result, a.told = some (t, result) ↔
    ∃ x, Answers c p head.1 head.2 x ∧ Counts p x ∧
      x.answered.now = t ∧ x.result = result

section
variable {c : Client} {p : PreparedRequest} {g : Progress} {w w' : World}

theorem turn_booked {y : Progress ⊕ Except Error Response} (h : turn c p g w = .ok (y, w')) :
    ∃ a, Booked c p (g, w) a ∧ w'.breaker = w.breaker.map fun b => play b a.history := by
  obtain ⟨o, entry, d, w₁, ha, hset⟩ := turn_cases h
  have hkept : w'.breaker = w₁.breaker := by
    rcases settle_cases hset with ⟨x, ds, -, hp⟩ | ⟨g', d, -, hp, -⟩ <;> exact hp.breaker
  rcases attempted_cases ha with ⟨rfl, ⟨ts, hp⟩, -⟩ | ⟨x, hx, hcounts, -, -, rfl⟩
  · refine ⟨{ asked := w.now }, ⟨rfl, ?_⟩, ?_⟩
    · intro t result
      refine iff_of_false nofun ?_
      rintro ⟨x, hx, hcounts, -⟩
      exact not_counts_of_silent ha hx hcounts
    · rw [hkept, hp.breaker]
      rfl
  · refine ⟨{ asked := w.now, told := some (x.answered.now, x.result) }, ⟨rfl, ?_⟩, ?_⟩
    · intro t result
      constructor
      · intro he
        cases he
        exact ⟨x, hx, hcounts, rfl, rfl⟩
      · rintro ⟨x', hx', -, rfl, rfl⟩
        rw [hx.unique hx']
    · rw [hkept, afterReport, hx.passed.breaker, gated, Option.map_map]
      rfl

/-- A turn that the gate refuses is the end of the request. -/
theorem turn_refused {b : Breaker} (hb : w.breaker = some b)
    (hg : b.preRequest w.now = .error .breakerOpen) :
    turn c p g w = .ok (.inr (.error .breakerOpen), w) := by
  rw [turn_eq, attempt_refused hb hg, bind_ok, settle_finish (moveAfter_never rfl _)]
  rfl

variable {heads : List (Progress × World)} {y : Except Halt (Except Error Response × World)}
  {x : Except Error Response}

/-- The accounts of the attempts, in their order, tell what becomes of the breaker. -/
theorem loop_booked (hl : Loop c p heads g w y) (hy : y = .ok (x, w')) :
    ∃ accounts, List.Forall₂ (Booked c p) heads accounts ∧
      w'.breaker = w.breaker.map fun b => play b (accounts.flatMap Account.history) := by
  induction hl with
  | ends ht =>
    cases hy
    obtain ⟨a, ha, hb⟩ := turn_booked ht
    refine ⟨[a], .cons ha .nil, ?_⟩
    rw [hb, List.flatMap_singleton]
  | halts ht => cases hy
  | goesOn ht hl ih =>
    obtain ⟨a, ha, hb⟩ := turn_booked ht
    obtain ⟨accounts, has, hb'⟩ := ih hy
    refine ⟨a :: accounts, .cons ha has, ?_⟩
    rw [hb', hb, Option.map_map]
    refine Option.map_congr fun b _ => ?_
    rw [List.flatMap_cons, play_append]
    rfl

theorem loop_refused (hl : Loop c p heads g w y) (hy : y = .ok (x, w'))
    {head : Progress × World} (hmem : head ∈ heads) {b : Breaker}
    (hb : head.2.breaker = some b) (hg : b.preRequest head.2.now = .error .breakerOpen) :
    heads.getLast? = some head ∧ x = .error .breakerOpen ∧ w' = head.2 := by
  induction hl with
  | ends ht =>
    cases hy
    cases List.mem_singleton.mp hmem
    cases ht.symm.trans (turn_refused hb hg)
    exact ⟨rfl, rfl, rfl⟩
  | halts ht => cases hy
  | goesOn ht hl ih =>
    rcases List.mem_cons.mp hmem with rfl | hmem
    · cases ht.symm.trans (turn_refused hb hg)
    · obtain ⟨hlast, hx, hw⟩ := ih hy hmem
      refine ⟨?_, hx, hw⟩
      rw [List.getLast?_cons, hlast]
      rfl

end

/-! ## Requests one after the other -/

/-- A request that was sent, and the worlds before and after it. -/
structure Errand where
  request : RequestBuilder
  before : World
  result : Except Error Response
  after : World

/-- A client sends requests one after the other. Meanwhile anything may happen in which the breaker
has no part. -/
inductive Session (c : Client) : World → List Errand → World → Prop
  | rest {w w' : World} (h : w'.breaker = w.breaker) : Session c w [] w'
  | send {w v v' w' : World} {b : RequestBuilder} {x : Except Error Response}
      {errands : List Errand} (h : v.breaker = w.breaker) (hx : c.send b v = .ok (x, v'))
      (hs : Session c v' errands w') : Session c w (⟨b, v, x, v'⟩ :: errands) w'

/-- The accounts of a request: one for each attempt of the loop, and none if the request cannot be
prepared. An attempt that the gate refuses is the last one; the request fails and leaves the world as
that attempt found it. -/
structure Kept (c : Client) (e : Errand) (accounts : List Account) : Prop where
  unsent : ∀ x, e.request.prepare c = .error x → accounts = []
  sent : ∀ p, e.request.prepare c = .ok p → ∃ heads,
    Loop c p heads (c.start p (begun p e.before)) (begun p e.before) (.ok (e.result, e.after)) ∧
    List.Forall₂ (Booked c p) heads accounts ∧
    ∀ head ∈ heads, ∀ b, head.2.breaker = some b →
      b.preRequest head.2.now = .error .breakerOpen →
      heads.getLast? = some head ∧ e.result = .error .breakerOpen ∧ e.after = head.2

theorem send_kept {c : Client} {b : RequestBuilder} {w w' : World} {x : Except Error Response}
    (h : c.send b w = .ok (x, w')) : ∃ accounts, Kept c ⟨b, w, x, w'⟩ accounts ∧
      w'.breaker = w.breaker.map fun b => play b (accounts.flatMap Account.history) := by
  cases hp : b.prepare c with
  | error e =>
    simp only [Client.send, hp] at h
    cases h
    refine ⟨[], ⟨fun _ _ => rfl, fun p hp' => ?_⟩, Option.map_id'.symm⟩
    cases hp.symm.trans hp'
  | ok p =>
    obtain ⟨heads, hl⟩ := loop_send hp w
    rw [h] at hl
    obtain ⟨accounts, hbooked, hbreaker⟩ := loop_booked hl rfl
    refine ⟨accounts, ⟨fun e hp' => ?_, fun p' hp' => ?_⟩, hbreaker⟩
    · cases hp.symm.trans hp'
    · cases hp.symm.trans hp'
      exact ⟨heads, hl, hbooked, fun head hmem b hb hg => loop_refused hl rfl hmem hb hg⟩

/-- The breaker of a client after any requests is the one before them, carried through the accounts
of all attempts in their order. -/
theorem session_breaker {c : Client} {w w' : World} {errands : List Errand}
    (h : Session c w errands w') : ∃ ledgers, List.Forall₂ (Kept c) errands ledgers ∧
      w'.breaker = w.breaker.map fun b => play b (ledgers.flatten.flatMap Account.history) := by
  induction h with
  | rest h => exact ⟨[], .nil, h.trans Option.map_id'.symm⟩
  | send h hx hs ih =>
    obtain ⟨accounts, hkept, hbreaker⟩ := send_kept hx
    obtain ⟨ledgers, hledgers, hbreaker'⟩ := ih
    refine ⟨accounts :: ledgers, .cons hkept hledgers, ?_⟩
    rw [hbreaker', hbreaker, h, Option.map_map]
    refine Option.map_congr fun b _ => ?_
    rw [List.flatten_cons, List.flatMap_append, play_append]
    rfl

def wary : Client where
  config := { retry := some (.constant 3 5), breaker := some { failureThreshold := 1 } }
  transport _ _ := .done (.ok { status := away })

def visit : RequestBuilder := { method := .get, url := "http://localhost/" }

/-- The second attempt of the first request is refused, and so is the only one of the second
request. -/
theorem wary_session : ∃ errands ledgers w', Session wary wary.world errands w' ∧
    errands.map Errand.request = [visit, visit] ∧
    List.Forall₂ (Kept wary) errands ledgers ∧
    w'.breaker = some (after { failureThreshold := 1 }
      (ledgers.flatten.flatMap Account.history)) ∧
    w'.calls = 1 ∧ w'.breaker.map Breaker.circuit = some .opened := by
  have hends : ((wary.send visit wary.world).bind fun y => (wary.send visit y.2).map fun z =>
      (z.2.calls, z.2.breaker.map Breaker.circuit)) = .ok (1, some .opened) := by
    rw [← toOption_eq_some_iff]
    decide +kernel
  obtain ⟨⟨x, v⟩, hx, hends⟩ := bind_eq_ok_iff.mp hends
  obtain ⟨⟨x', v'⟩, hx', hends⟩ := map_eq_ok_iff.mp hends
  obtain ⟨hcalls, hcircuit⟩ := Prod.mk.inj hends
  have hs : Session wary wary.world [⟨visit, _, x, v⟩, ⟨visit, v, x', v'⟩] v' :=
    .send rfl hx (.send rfl hx' (.rest rfl))
  obtain ⟨ledgers, hkept, hbreaker⟩ := session_breaker hs
  have hmade : wary.world.breaker = some (.make { failureThreshold := 1 }) := rfl
  rw [hmade, Option.map_some, ← after_eq_play] at hbreaker
  exact ⟨_, ledgers, v', hs, rfl, hkept, hbreaker, hcalls, hcircuit⟩

end ResilientHttp.BreakerAccounts
