import ResilientHttp.Proofs.BreakerAccounts

/-!
# The request of every attempt

The requests of all attempts are built from one draft, which building changes: a stream that can be
read once is taken from it. Nothing else is, so what is built depends on the number of the attempt in
the body only. A body that can be opened again is opened once for each attempt that is built. Hooks
change what was built for their attempt, and the draft knows nothing of it.
-/
namespace ResilientHttp.Rebuilding
open Building Runs Turns Passage BreakerAccounts

/-- The length of a body has to be told. -/
def TellsLength (d : Draft) (body : Option ByteStream) : Prop :=
  body.isSome = true ∧ d.body.sizeHint?.isSome = true ∧ d.headers.contains .contentLength = false

/-- A request is the drafted one with a body, and with a header for its length if that has to be
told. -/
structure Built (d : Draft) (body : Option ByteStream) (r : Request) : Prop where
  method : r.method = d.method
  url : r.url = d.url
  timeout : r.timeout = d.timeout
  told : r.headers ≠ d.headers ↔ TellsLength d body
  length : TellsLength d body → ∀ n, d.body.sizeHint? = some n →
    r.headers = d.headers.append .contentLength { text := toString n }
  body : r.body = body

def draftAfter (d : Draft) (i : Nat) : Draft :=
  match d.body with
  | .once length stream => { d with body := .once length (if i = 0 then stream else none) }
  | _ => d

section
variable {d : Draft} {n i k : Nat} {body : Option ByteStream} {r : Request} {w : World}

theorem isReopenable_draftAfter : isReopenable (draftAfter d i).body = isReopenable d.body := by
  obtain ⟨method, url, headers, dbody, timeout⟩ := d
  cases dbody <;> rfl

theorem left_draftAfter : left (draftAfter d i) (i + 1) = draftAfter d (i + 1) := by
  obtain ⟨method, url, headers, dbody, timeout⟩ := d
  cases dbody with
  | once length stream =>
    cases i with
    | zero => rfl
    | succ i => simp [left, draftAfter, bodyLeft]
  | _ => rfl

end

/-! ## The attempts of a run -/

/-- The gate lets an attempt pass, so that its request is built. -/
def isBuilt (w : World) : Bool := w.breaker.all fun b => (b.preRequest w.now).isOk

section
variable {c : Client} {p : PreparedRequest} {g : Progress} {w w' : World}
  {heads : List (Progress × World)} {y : Except Halt (Except Error Response × World)}

theorem isBuilt_of_gate {x : Except Error Unit} (h : Client.gate w = .ok (x, w')) :
    isBuilt w = x.isOk := by
  cases hb : w.breaker with
  | none =>
    simp only [Client.gate, hb] at h
    cases h
    simp only [isBuilt, hb, Option.all_none]
    rfl
  | some b =>
    simp only [isBuilt, hb, Option.all_some]
    rcases gate_some hb h with ⟨hp, rfl, -⟩ | ⟨b', hp, rfl, -⟩ <;> rw [hp] <;> rfl

theorem gate_of_isBuilt (h : isBuilt w = true) : Client.gate w = .ok (.ok (), gated w) := by
  obtain ⟨x, hg⟩ := gate_total w
  rcases (gate_cases hg).2 with rfl | ⟨rfl, -⟩
  · exact hg
  · cases h.symm.trans (isBuilt_of_gate hg)

/-- A turn that does not end with a refusal was let pass. -/
theorem isBuilt_of_turn_ne (h : turn c p g w ≠ .ok (.inr (.error .breakerOpen), w)) :
    isBuilt w = true := by
  cases hb : w.breaker with
  | none => simp only [isBuilt, hb, Option.all_none]
  | some b =>
    simp only [isBuilt, hb, Option.all_some]
    cases hp : b.preRequest w.now with
    | ok b' => rfl
    | error e =>
      rw [preRequest_error hp] at hp
      exact absurd (turn_refused hb hp) h

theorem isBuilt_of_turn {g' : Progress} (h : turn c p g w = .ok (.inl g', w')) :
    isBuilt w = true := by
  have hne : turn c p g w ≠ .ok (.inr (.error .breakerOpen), w) := by
    intro hrefused
    cases hrefused.symm.trans h
  exact isBuilt_of_turn_ne hne

/-! ### What becomes of the draft -/

section
variable {o : Except Error Response} {entry : Option AttemptTrace} {d : Draft}

theorem Attempted.draft_of_isBuilt (h : Attempted c p g w o entry d w') (hw : isBuilt w = true) :
    d = left g.draft (g.attempt + 1) := by
  cases h with
  | refused hg => cases hw.symm.trans (isBuilt_of_gate hg)
  | unbuilt hg hb | hooked hg hb | interrupted hg hb | late hg hb | answered hg hb =>
    exact (of_build hb).2.1

theorem call_openings {b : Bounds} {r : Request} {x : Except Error (Except TransportError Reply)}
    (h : c.call b r w = .ok (x, w')) : w'.openings = w.openings := by
  rcases within_cases h with rfl | ha
  · rfl
  · exact ha.openings

/-- An attempt opens the body once if its request is built, and not at all if it is not. -/
theorem Attempted.openings (h : Attempted c p g w o entry d w') :
    w'.openings = w.openings + if isBuilt w then openingsOf g.draft.body else 0 := by
  have hgate {x : Except Error Unit} {w₁ : World} (hg : Client.gate w = .ok (x, w₁)) :
      w₁.openings = w.openings := by
    simp only [World.openings, gate_history hg]
  have hbuild {x : Except Error Request} {w₁ w₂ : World} (hg : Client.gate w = .ok (.ok (), w₁))
      (hb : g.draft.build (g.attempt + 1) w₁ = .ok ((x, d), w₂)) :
      w₂.openings = w.openings + if isBuilt w then openingsOf g.draft.body else 0 := by
    obtain ⟨-, -, rfl⟩ := of_build hb
    rw [opened_openings, hgate hg, isBuilt_of_gate hg]
    rfl
  cases h with
  | refused hg =>
    rw [hgate hg, isBuilt_of_gate hg]
    rfl
  | unbuilt hg hb => exact hbuild hg hb
  | hooked hg hb hh => rw [(requestHooks_adds hh).openings, hbuild hg hb]
  | interrupted hg hb hh hc | late hg hb hh hc =>
    rw [call_openings hc, (requestHooks_adds hh).openings, hbuild hg hb]
  | @answered r r' result d w₁ w₂ w₃ w₄ hg hb hh hc =>
    change w₄.openings = _
    rw [call_openings hc, (requestHooks_adds hh).openings, hbuild hg hb]

end

theorem turn_openings {x : Progress ⊕ Except Error Response} (h : turn c p g w = .ok (x, w')) :
    w'.openings = w.openings + if isBuilt w then openingsOf g.draft.body else 0 := by
  obtain ⟨o, entry, d, w₁, ha, hs⟩ := turn_cases h
  rw [(settle_adds hs).openings, Attempted.openings ha]

/-- How far the draft and the openings have come when an attempt begins: each attempt before was
built once. -/
structure Stage (d : Draft) (opened : Nat) (head : Progress × World) : Prop where
  draft : head.1.draft = draftAfter d head.1.attempt
  openings : head.2.openings = opened + head.1.attempt * openingsOf d.body

section
variable {d : Draft} {k : Nat}

theorem Stage.openingsOf (h : Stage d k (g, w)) : openingsOf g.draft.body = openingsOf d.body := by
  have hdraft : g.draft = draftAfter d g.attempt := h.draft
  simp only [Building.openingsOf, hdraft, isReopenable_draftAfter]

/-- Only the last attempt can be refused, so a turn that leads to another one was built. -/
theorem Stage.turn {g' : Progress} (h : Stage d k (g, w)) (ht : turn c p g w = .ok (.inl g', w')) :
    Stage d k (g', w') := by
  have hw := isBuilt_of_turn ht
  have hattempt := (turn_inl ht).2
  refine ⟨?_, ?_⟩
  · obtain ⟨o, entry, d', w₁, ha, hs⟩ := turn_cases ht
    have hdraft : g'.draft = d' := (settle_inl hs).2.2
    rw [hdraft, Attempted.draft_of_isBuilt ha hw, h.draft, left_draftAfter, hattempt]
  · rw [turn_openings ht, hw, if_pos rfl, h.openings, h.openingsOf, hattempt, Nat.succ_mul,
      Nat.add_assoc]

theorem Stage.loop (h : Stage d k (g, w)) (hl : Loop c p heads g w y) {head : Progress × World}
    (hm : head ∈ heads) : Stage d k head := by
  induction hl with
  | ends ht | halts ht =>
    cases List.mem_singleton.mp hm
    exact h
  | goesOn ht hl ih =>
    rcases List.mem_cons.mp hm with rfl | hm
    · exact h
    · exact ih (h.turn ht) hm

end

/-! ### What the hooks are given -/

/-- What an attempt does with what the hooks made of its request. -/
def afterHooks (c : Client) (p : PreparedRequest) (g : Progress) :
    Except Error Request → Run (Except Error Response × Progress)
  | .error e => return (.error e, g)
  | .ok r => c.exchange p g r

def underway (g : Progress) : Progress :=
  { g with draft := left g.draft (g.attempt + 1), attempt := g.attempt + 1 }

theorem attempt_of_unbuilt {e : Error} (hw : isBuilt w = true)
    (hr : built g.draft (g.attempt + 1) (gated w) = .error e) :
    c.attempt p g w = .ok ((.error e, underway g), opened g.draft.body (gated w)) := by
  simp only [Client.attempt, bind_eq, gate_of_isBuilt hw, bind_ok, build_eq, hr]
  rfl

theorem attempt_of_built {r : Request} (hw : isBuilt w = true)
    (hr : built g.draft (g.attempt + 1) (gated w) = .ok r) :
    c.attempt p g w =
      (Client.requestHooks p.bounds 0 r c.hooks (opened g.draft.body (gated w))).bind
        fun y => afterHooks c p (underway g) y.1 y.2 := by
  simp only [Client.attempt, bind_eq, gate_of_isBuilt hw, bind_ok, build_eq, hr]
  refine bind_congr fun y _ => ?_
  cases y.1 <;> rfl

end

end ResilientHttp.Rebuilding
