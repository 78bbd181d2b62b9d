import ResilientHttp.Proofs.WaitBounds

/-!
# Waits in bounded arithmetic

A wait is computed in words of 64 bits, in stretches of time that end at the longest one, and with
random numbers from ranges that have to hold a number. Here the computation is carried out with a
check before each of these, and no check ever fails. At the upper end two cut-offs have to agree: a
least wait that does not fit in a word leaves nothing to draw from, so that nothing is added to it.
-/
namespace ResilientHttp.CheckedWaits
open WaitBounds

inductive Fault
  | emptyRange
  | wordOverflow
  | spanOverflow
deriving DecidableEq

def word (n : Nat) : Except Fault Nat :=
  if n ≤ Text.maxWord64 then .ok n else .error .wordOverflow

def span (d : Span) : Except Fault Span :=
  if d ≤ Span.longest then .ok d else .error .spanOverflow

def draw (noise : Noise) (n : Nat) : Except Fault (Nat × Noise) :=
  if n = 0 then .error .emptyRange
  else do
    let x ← word (noise.below n).1
    return (x, (noise.below n).2)

def envelope (b : Backoff) (x : Float) : Except Fault Span :=
  if !x.isFinite || x ≥ Binary64.ofNat b.max then .ok b.max
  else word (Binary64.clampedFloor Text.maxWord64 x)

def jittered (b : Backoff) (wait : Span) : Except Fault (Span × Backoff) := do
  let nanos ← word (Backoff.clamp wait)
  if nanos = 0 then return (1, b)
  match b.jitter with
  | .none => return (wait, b)
  | .full =>
    let (n, noise) ← draw b.noise nanos
    return (n, { b with noise })
  | .equal =>
    let half := nanos / 2
    if half = 0 then return (wait, b)
    let (n, noise) ← draw b.noise half
    let sum ← word (half + n)
    return (sum, { b with noise })
  | .decorrelated =>
    let upper ← word (range b)
    let (n, noise) ← if upper = 0 then pure (0, b.noise) else draw b.noise upper
    let sum ← span (b.min + n)
    let next := Nat.min sum b.max
    return (next, { b with previous := next, noise })

def answer (b : Backoff) (c : Call) : Except Fault (Span × Backoff) :=
  match c.hint? with
  | some delay => .ok ((b.retryAfterCap.map (Nat.min delay)).getD delay, b)
  | none => do
    let wait ← envelope b c.product
    let (wait, next) ← jittered b wait
    return (b.balance wait, next)

def take (b : Backoff) : Step → Except Fault (Option Span × Backoff)
  | .call c => (answer b c).map fun r => (some r.1, r.2)
  | .fresh noise => .ok (none, b.fresh noise)

/-- All waits of a sequence of steps, and the calculator after them. -/
def run (b : Backoff) : List Step → Except Fault (List (Step × Option Span) × Backoff)
  | [] => .ok ([], b)
  | s :: rest => do
    let (wait, next) ← take b s
    let (waits, last) ← run next rest
    return ((s, wait) :: waits, last)

theorem ok_bind {α β : Type} (x : α) (f : α → Except Fault β) : (Except.ok x >>= f) = f x := rfl

theorem word_eq {n : Nat} (h : n ≤ Text.maxWord64) : word n = .ok n := if_pos h

theorem span_eq {d : Span} (h : d ≤ Span.longest) : span d = .ok d := if_pos h

theorem clamp_le (d : Span) : Backoff.clamp d ≤ Text.maxWord64 := Nat.min_le_right _ _

theorem range_le (b : Backoff) : range b ≤ Text.maxWord64 :=
  (Nat.sub_le _ _).trans (Nat.min_le_right _ _)

/-- A range that holds a number gives one, and it fits in a word as the range does. -/
theorem draw_eq {n : Nat} (hpos : 0 < n) (hn : n ≤ Text.maxWord64) (noise : Noise) :
    draw noise n = .ok (noise.below n) := by
  have hlt := noise.below_lt hpos
  simp only [draw, if_neg (Nat.ne_of_gt hpos), word_eq (hlt.le.trans hn)]
  rfl

theorem envelope_eq (b : Backoff) (x : Float) : envelope b x = .ok (envelopeOf b x) := by
  have hfloor : Binary64.clampedFloor Text.maxWord64 x ≤ Text.maxWord64 := by
    simp only [Binary64.clampedFloor]
    split
    · exact Nat.zero_le _
    · split
      · exact Nat.le_refl _
      · exact Nat.min_le_left _ _
  simp only [envelope, envelopeOf, word_eq hfloor]
  split <;> rfl

theorem min_add_le {b : Backoff} (hb : Sound b) {n : Nat} (hn : n < range b ∨ n = 0) :
    b.min + n ≤ Span.longest := by
  rcases add_of_range hn with rfl | ⟨-, hword⟩
  · exact hb.min_le_max.trans hb.max_le
  · exact hword.trans (by decide)

theorem jittered_eq {b : Backoff} (hb : Sound b) (wait : Span) :
    jittered b wait = .ok (b.jittered wait) := by
  have hle := clamp_le wait
  simp only [jittered, Backoff.jittered, word_eq hle, word_eq (range_le b), ok_bind]
  by_cases hzero : Backoff.clamp wait = 0
  · rw [if_pos hzero, if_pos hzero]
    rfl
  rw [if_neg hzero, if_neg hzero]
  cases b.jitter with
  | none => rfl
  | full =>
    simp only [draw_eq (Nat.pos_of_ne_zero hzero) hle]
    rfl
  | equal =>
    by_cases hhalf : Backoff.clamp wait / 2 = 0
    · simp only [if_pos hhalf]
      rfl
    · have hpos := Nat.pos_of_ne_zero hhalf
      have hlt := b.noise.below_lt hpos
      simp only [if_neg hhalf, draw_eq hpos (Nat.le_trans (Nat.div_le_self _ _) hle), ok_bind]
      rw [word_eq (by omega)]
      rfl
  | decorrelated =>
    simp only [← base.eq_def, ← range.eq_def]
    by_cases hrange : range b = 0
    · simp only [if_pos hrange, pure_bind, span_eq (min_add_le hb (.inr rfl)), ok_bind]
      rfl
    · have hpos := Nat.pos_of_ne_zero hrange
      have hlt := b.noise.below_lt hpos
      simp only [if_neg hrange, draw_eq hpos (range_le b), ok_bind,
        span_eq (min_add_le hb (.inl hlt))]
      rfl

theorem answer_eq {b : Backoff} (hb : Sound b) (c : Call) :
    answer b c = .ok (WaitBounds.answer b c) := by
  simp only [answer, WaitBounds.answer]
  cases c.hint? with
  | some delay => rfl
  | none =>
    simp only [envelope_eq, ok_bind, jittered_eq hb]
    rfl

theorem take_eq {b : Backoff} (hb : Sound b) (s : Step) : take b s = .ok (s.take b) := by
  cases s with
  | call c => simp only [take, answer_eq hb, Except.map, Step.take]
  | fresh noise => rfl

theorem run_eq {b : Backoff} (hb : Sound b) (steps : List Step) :
    run b steps = .ok (waits b steps, after b steps) := by
  induction steps generalizing b with
  | nil => rfl
  | cons s rest ih =>
    simp only [run, take_eq hb, ok_bind, ih (hb.take s)]
    rfl

/-- No check fails, at any call of any sequence, whatever products the calls start from, and the
waits are those of unbounded arithmetic. So it is with the product that a calculator itself
computes. -/
theorem checks_pass {b : Backoff} (hb : Built b) (steps : List Step) :
    run b steps = .ok (waits b steps, after b steps) ∧
    ∀ wallClock prior attempt,
      answer (after b steps) ⟨product (after b steps) attempt, wallClock, prior⟩ =
        .ok ((after b steps).nextWait wallClock prior attempt) :=
  ⟨run_eq hb.sound steps, fun _ _ _ => answer_eq (hb.sound.after steps) _⟩

/-- A calculator whose least wait is the longest one. -/
def topmost : Backoff :=
  Backoff.make Span.longest Span.longest .decorrelated { word := fun _ => 0xFFFFFFFFFFFFFFFF }

theorem checks_pass_at_top :
    ∃ waits next, run topmost [.call ⟨1.0 / 0.0, 0, none⟩, .call ⟨-1.0, 0, none⟩] =
        .ok (waits, next) ∧
      waits.map Prod.snd = [some Span.longest, some Span.longest] :=
  ⟨_, _, (checks_pass (.make (by decide) (by decide) _ _) _).1, by decide +kernel⟩

end ResilientHttp.CheckedWaits
