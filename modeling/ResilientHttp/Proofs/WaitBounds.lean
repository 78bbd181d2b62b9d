import Mathlib.Data.List.Induction
import ResilientHttp.Proofs.Growth

/-!
# Sequences of waits

A calculator answers one call after the other. Between calls it remembers its latest computed wait
and how far its random numbers are used, and a call that the server's hint answers leaves no trace
in either. How a power of the growth is rounded does not matter here: of the product that a wait
starts from, it is enough that it is at least one, infinite or not a number.
-/
namespace ResilientHttp.WaitBounds

/-- The calculators that can be built, from bounds that can be configured. -/
inductive Built : Backoff → Prop
  | make {min max : Span} (hmin : min ≤ Span.longest) (hmax : max ≤ Span.longest) (jitter : Jitter)
      (noise : Noise) : Built (Backoff.make min max jitter noise)
  | withGrowth {b : Backoff} (hb : Built b) (growth : Float) : Built (b.withGrowth growth)
  | withCap {b : Backoff} (hb : Built b) (cap : Span) : Built { b with retryAfterCap := some cap }
  | withNoise {b : Backoff} (hb : Built b) (noise : Noise) : Built { b with noise }

/-- The least wait times a power of the growth. -/
def product (b : Backoff) (attempt : Nat) : Float :=
  Binary64.ofNat b.min * Backoff.power b.growth attempt

def AtLeastOne (x : Float) : Prop := 1.0 ≤ x ∨ x.isFinite = false

/-- The wait before chance changes it, when the product comes to `x`. -/
def envelopeOf (b : Backoff) (x : Float) : Span :=
  if !x.isFinite || x ≥ Binary64.ofNat b.max then b.max
  else Binary64.clampedFloor Text.maxWord64 x

def computed (b : Backoff) (x : Float) : Span × Backoff :=
  let (wait, next) := b.jittered (envelopeOf b x)
  (b.balance wait, next)

/-- A call: the number of its attempt tells only through what the product comes to. -/
structure Call where
  product : Float
  wallClock : Int
  prior : Option Response

/-- The prior response asks for a wait, with a text that can be read. -/
def Call.Asks (c : Call) (delay : Span) : Prop :=
  ∃ r text, c.prior = some r ∧ (r.status.code = 429 ∨ r.status.code = 503) ∧
    r.headers.text? .retryAfter = some text ∧ RetryAfter.parse? c.wallClock text = some delay

def Call.hint? (c : Call) : Option Span := Backoff.hint? c.wallClock c.prior

theorem Call.hint?_eq_some_iff {c : Call} {delay : Span} :
    c.hint? = some delay ↔ c.Asks delay := by
  simp only [Call.hint?, Backoff.hint?, Call.Asks, Option.bind_eq_some_iff,
    Option.ite_none_right_eq_some, Bool.or_eq_true, decide_eq_true_eq]
  constructor
  · rintro ⟨r, hr, hcode, text, htext, hparse⟩
    exact ⟨r, text, hr, hcode, htext, hparse⟩
  · rintro ⟨r, text, hr, hcode, htext, hparse⟩
    exact ⟨r, hr, hcode, text, htext, hparse⟩

def answer (b : Backoff) (c : Call) : Span × Backoff :=
  match c.hint? with
  | some delay => ((b.retryAfterCap.map (Nat.min delay)).getD delay, b)
  | none => computed b c.product

theorem nextWait_eq_answer (b : Backoff) (wallClock : Int) (prior : Option Response)
    (attempt : Nat) :
    b.nextWait wallClock prior attempt = answer b ⟨product b attempt, wallClock, prior⟩ := rfl

/-- A calculator is called, or it starts over with other random numbers. -/
inductive Step
  | call (c : Call)
  | fresh (noise : Noise)

def Step.hinted : Step → Bool
  | .call c => c.hint?.isSome
  | .fresh _ => false

/-- The wait that a call returns, and the calculator after the step. -/
def Step.take (b : Backoff) : Step → Option Span × Backoff
  | .call c => ((answer b c).1, (answer b c).2)
  | .fresh noise => (none, b.fresh noise)

def after (b : Backoff) (steps : List Step) : Backoff := steps.foldl (fun b s => (s.take b).2) b

def waits (b : Backoff) : List Step → List (Step × Option Span)
  | [] => []
  | s :: rest => (s, (s.take b).1) :: waits (s.take b).2 rest

/-- The latest wait that was computed, after one more step: starting over forgets it, and a hint is
not computed. -/
def note (latest : Option Span) (taken : Step × Option Span) : Option Span :=
  match taken with
  | (.fresh _, _) => none
  | (.call c, wait) => if c.hint?.isSome then latest else wait

def latest (b : Backoff) (steps : List Step) : Option Span := (waits b steps).foldl note none

theorem after_concat (b : Backoff) (steps : List Step) (s : Step) :
    after b (steps ++ [s]) = (s.take (after b steps)).2 := by simp [after]

theorem waits_append (b : Backoff) (steps more : List Step) :
    waits b (steps ++ more) = waits b steps ++ waits (after b steps) more := by
  induction steps generalizing b with
  | nil => rfl
  | cons s rest ih => simp [waits, after, ih]

theorem latest_concat (b : Backoff) (steps : List Step) (s : Step) :
    latest b (steps ++ [s]) = note (latest b steps) (s, (s.take (after b steps)).1) := by
  simp [latest, waits_append, waits]

/-! ## What the server asks for -/

theorem answer_of_asks {b : Backoff} {c : Call} {delay : Span} (h : c.Asks delay) :
    answer b c = ((b.retryAfterCap.map (Nat.min delay)).getD delay, b) := by
  simp only [answer, Call.hint?_eq_some_iff.mpr h]

theorem take_hinted {b : Backoff} {s : Step} (h : s.hinted = true) : (s.take b).2 = b := by
  cases s with
  | fresh noise => cases h
  | call c =>
    obtain ⟨delay, hdelay⟩ := Option.isSome_iff_exists.mp h
    simp only [Step.take, answer_of_asks (Call.hint?_eq_some_iff.mp hdelay)]

/-- Without the steps that the server answers, all other steps return what they returned. -/
theorem waits_filter (b : Backoff) (steps : List Step) :
    waits b (steps.filter (!·.hinted)) = (waits b steps).filter (!·.1.hinted) := by
  induction steps generalizing b with
  | nil => rfl
  | cons s rest ih =>
    cases h : s.hinted with
    | true => simp [waits, h, ih, take_hinted h]
    | false => simp [waits, h, ih]

/-! ## What is computed -/

/-- Every number of a range is drawn by some random words, so what holds of all of these holds of
all draws. -/
theorem exists_below_eq {n v : Nat} (hv : v < n) (hn : n ≤ Noise.wordCount) :
    ∃ noise : Noise, (noise.below n).1 = v := by
  obtain ⟨x, hl, hu⟩ : ∃ x, v * Noise.wordCount ≤ x * n ∧
      x * n < v * Noise.wordCount + Noise.wordCount := by
    have hdiv := Nat.div_add_mod' (v * Noise.wordCount + (n - 1)) n
    have hmod := Nat.mod_lt (v * Noise.wordCount + (n - 1)) (Nat.zero_lt_of_lt hv)
    exact ⟨(v * Noise.wordCount + (n - 1)) / n, by omega, by omega⟩
  have hx : x < Noise.wordCount := by
    have hnext : (v + 1) * Noise.wordCount ≤ n * Noise.wordCount := Nat.mul_le_mul_right _ hv
    rw [Nat.succ_mul] at hnext
    rw [Nat.mul_comm n] at hnext
    exact Nat.lt_of_mul_lt_mul_right (Nat.lt_of_lt_of_le hu hnext)
  have hshare : x * n / Noise.wordCount = v :=
    Nat.div_eq_of_lt_le hl (by rwa [Nat.succ_mul])
  have hrest : x * n % Noise.wordCount < Noise.wordCount := Nat.mod_lt _ (Nat.zero_lt_of_lt hx)
  have hword : x.toUInt64.toNat = x := Nat.mod_eq_of_lt hx
  refine ⟨{ word := fun i => if i = 0 then x.toUInt64 else 0 }, ?_⟩
  simp only [Noise.below, Noise.next, if_true, hword, hshare]
  split
  · have hzero : (if 1 = 0 then x.toUInt64 else 0).toNat = 0 := rfl
    simp only [Nat.zero_add, hzero, Nat.zero_mul, Nat.zero_div, Nat.add_zero,
      if_neg (Nat.not_le_of_lt hrest)]
  · rfl
/-- What holds of a calculator between two steps. -/
structure Sound (b : Backoff) : Prop where
  min_pos : 0 < b.min
  min_le_max : b.min ≤ b.max
  max_le : b.max ≤ Span.longest
  growth : 1.0 ≤ b.growth
  previous : b.previous = 0 ∨ b.min ≤ b.previous ∧ b.previous ≤ b.max

theorem Built.sound {b : Backoff} (hb : Built b) : Sound b := by
  induction hb with
  | @make min max hmin hmax jitter noise =>
    have hleast : 0 < if min = 0 then Backoff.defaultMin else min := by
      split
      · decide
      · exact Nat.pos_of_ne_zero (by assumption)
    have hgreatest (n m : Span) (hn : n ≤ Span.longest) (hm : m ≤ Span.longest) :
        (if n = 0 then m else n) ≤ Span.longest := by
      split <;> assumption
    exact {
      min_pos := hleast
      min_le_max := Nat.le_max_right _ _
      max_le := Nat.max_le.mpr
        ⟨hgreatest max _ hmax (by decide), hgreatest min _ hmin (by decide)⟩
      growth := show 1.0 ≤ Backoff.defaultGrowth by decide
      previous := .inl rfl }
  | @withGrowth b hb growth ih =>
    simp only [Backoff.withGrowth]
    split
    · rename_i h
      have hlt : 1.0 < growth := by simpa using (Bool.and_eq_true_iff.mp h).2
      exact ⟨ih.min_pos, ih.min_le_max, ih.max_le, Growth.one_le_of_lt hlt, ih.previous⟩
    · exact ih
  | withCap _ _ ih | withNoise _ _ ih =>
    exact ⟨ih.min_pos, ih.min_le_max, ih.max_le, ih.growth, ih.previous⟩

theorem Built.previous {b : Backoff} (hb : Built b) : b.previous = 0 := by
  induction hb with
  | make => rfl
  | withGrowth _ _ ih =>
    simp only [Backoff.withGrowth]
    split <;> exact ih
  | withCap _ _ ih | withNoise _ _ ih => exact ih

theorem atLeastOne_product {b : Backoff} (hb : Sound b) (attempt : Nat) :
    AtLeastOne (product b attempt) :=
  .inl (Growth.one_le_mul (Growth.one_le_ofNat hb.min_pos) (Growth.one_le_power hb.growth attempt))

theorem envelopeOf_pos {b : Backoff} (hb : Sound b) {x : Float} (hx : AtLeastOne x) :
    0 < envelopeOf b x := by
  have hmax : 0 < b.max := Nat.lt_of_lt_of_le hb.min_pos hb.min_le_max
  simp only [envelopeOf]
  split
  · exact hmax
  · rename_i h
    have hfinite : x.isFinite = true := by
      simp only [Bool.or_eq_true, Bool.not_eq_true', not_or, Bool.not_eq_false] at h
      exact h.1
    have hone : 1.0 ≤ x := hx.resolve_right (by simp [hfinite])
    exact Growth.clampedFloor_pos hone (by decide)

theorem balance_bounds {b : Backoff} (hb : Sound b) (wait : Span) :
    b.min ≤ b.balance wait ∧ b.balance wait ≤ b.max := by
  have hle := hb.min_le_max
  simp only [Backoff.balance, Bool.or_eq_true, decide_eq_true_eq]
  split
  · exact ⟨hle, Nat.le_refl _⟩
  · simp only [Span] at *
    split <;> omega

theorem balance_eq {b : Backoff} (hb : Sound b) {wait : Span} (hl : b.min ≤ wait)
    (hu : wait ≤ b.max) : b.balance wait = wait := by
  have hpos := hb.min_pos
  simp only [Backoff.balance, Bool.or_eq_true, decide_eq_true_eq, Span] at *
  rw [if_neg (by omega), if_neg (by omega)]

/-- The wait that a decorrelated one is measured by. -/
def base (b : Backoff) : Span := if b.previous = 0 then b.min else b.previous

theorem Sound.min_le_base {b : Backoff} (hb : Sound b) : b.min ≤ base b := by
  simp only [base]
  split
  · exact Nat.le_refl _
  · rename_i h
    exact (hb.previous.resolve_left h).1

/-- The number of nanoseconds that a decorrelated wait draws from: tripling stops at the largest
word, and taking away stops at zero. -/
def range (b : Backoff) : Nat :=
  Nat.min (Backoff.clamp (base b) * 3) Text.maxWord64 - Backoff.clamp b.min

/-- What a decorrelated wait adds to the least one: with that it stays within a word, or there is
nothing to draw from. Both are cut off at the largest word, so a least wait that does not fit leaves
the range empty. -/
theorem add_of_range {b : Backoff} {n : Nat} (hn : n < range b ∨ n = 0) :
    n = 0 ∨ b.min + n < 3 * base b ∧ b.min + n ≤ Text.maxWord64 := by
  have hbase : Backoff.clamp (base b) ≤ base b := Nat.min_le_left _ _
  have hmin : Backoff.clamp b.min = b.min ∨ Backoff.clamp b.min = Text.maxWord64 := by
    simp only [Backoff.clamp]
    rcases Nat.le_total b.min Text.maxWord64 with h | h
    · exact .inl (Nat.min_eq_left h)
    · exact .inr (Nat.min_eq_right h)
  have htripled : Nat.min (Backoff.clamp (base b) * 3) Text.maxWord64 ≤ Backoff.clamp (base b) * 3 :=
    Nat.min_le_left _ _
  have hword : Nat.min (Backoff.clamp (base b) * 3) Text.maxWord64 ≤ Text.maxWord64 :=
    Nat.min_le_right _ _
  simp only [range, Span] at *
  omega

/-- A decorrelated wait is between the bounds as it is, and it is what the calculator remembers. -/
theorem jittered_decorrelated {b : Backoff} (hb : Sound b) (hj : b.jitter = .decorrelated)
    {wait : Span} (hw : 0 < wait) :
    (b.jittered wait).2.previous = (b.jittered wait).1 ∧ b.min ≤ (b.jittered wait).1 ∧
      (b.jittered wait).1 ≤ b.max ∧ (b.jittered wait).1 < 3 * base b := by
  have hclamp : Backoff.clamp wait ≠ 0 := Nat.ne_of_gt (Nat.lt_min.mpr ⟨hw, by decide⟩)
  have hpos := hb.min_pos
  have hbase := hb.min_le_base
  have hle := hb.min_le_max
  simp only [Backoff.jittered, if_neg hclamp, hj, ← base.eq_def, ← range.eq_def]
  have hdraw : ∀ n, n < range b ∨ n = 0 → Nat.min (b.min + n) b.max < 3 * base b := by
    intro n hn
    refine Nat.lt_of_le_of_lt (Nat.min_le_left _ _) ?_
    rcases add_of_range hn with rfl | ⟨hlt, -⟩
    · simp only [Span] at *
      omega
    · exact hlt
  refine ⟨trivial, Nat.le_min.mpr ⟨Nat.le_add_right _ _, hle⟩, Nat.min_le_right _ _, hdraw _ ?_⟩
  split
  · exact .inr rfl
  · rename_i h
    exact .inl (b.noise.below_lt (Nat.pos_of_ne_zero h))

/-- Chance changes the memory and the random numbers of a calculator, and no setting. -/
theorem jittered_settings (b : Backoff) (wait : Span) : ∃ previous noise,
    (b.jittered wait).2 = { b with previous, noise } := by
  simp only [Backoff.jittered]
  split
  · exact ⟨_, _, rfl⟩
  · split
    · exact ⟨_, _, rfl⟩
    · exact ⟨_, _, rfl⟩
    · split <;> exact ⟨_, _, rfl⟩
    · exact ⟨_, _, rfl⟩

theorem computed_bounds {b : Backoff} (hb : Sound b) (x : Float) :
    b.min ≤ (computed b x).1 ∧ (computed b x).1 ≤ b.max := balance_bounds hb _

theorem computed_decorrelated {b : Backoff} (hb : Sound b) (hj : b.jitter = .decorrelated)
    {x : Float} (hx : AtLeastOne x) :
    (computed b x).2.previous = (computed b x).1 ∧ (computed b x).1 < 3 * base b := by
  obtain ⟨hprevious, hl, hu, hlt⟩ := jittered_decorrelated hb hj (envelopeOf_pos hb hx)
  have hwait : (computed b x).1 = (b.jittered (envelopeOf b x)).1 := balance_eq hb hl hu
  rw [hwait]
  exact ⟨hprevious, hlt⟩

/-! ## Steps -/

theorem take_settings (b : Backoff) (s : Step) : ∃ previous noise,
    (s.take b).2 = { b with previous, noise } := by
  cases s with
  | fresh noise => exact ⟨_, _, rfl⟩
  | call c =>
    simp only [Step.take, answer]
    split
    · exact ⟨_, _, rfl⟩
    · exact jittered_settings b _

theorem after_settings (b : Backoff) (steps : List Step) : ∃ previous noise,
    after b steps = { b with previous, noise } := by
  induction steps using List.reverseRecOn with
  | nil => exact ⟨_, _, rfl⟩
  | append_singleton steps s ih =>
    obtain ⟨_, _, hb⟩ := ih
    obtain ⟨_, _, hs⟩ := take_settings (after b steps) s
    rw [after_concat, hs, hb]
    exact ⟨_, _, rfl⟩

/-- A computed wait leaves a memory that is empty or between the bounds, whatever its product. -/
theorem jittered_previous {b : Backoff} (hb : Sound b) (wait : Span) :
    (b.jittered wait).2.previous = 0 ∨
      b.min ≤ (b.jittered wait).2.previous ∧ (b.jittered wait).2.previous ≤ b.max := by
  have hsame := hb.previous
  by_cases hj : b.jitter = .decorrelated
  · rcases Nat.eq_zero_or_pos wait with rfl | hw
    · exact hsame
    · obtain ⟨hprevious, hl, hu, -⟩ := jittered_decorrelated hb hj hw
      rw [hprevious]
      exact .inr ⟨hl, hu⟩
  · simp only [Backoff.jittered]
    split
    · exact hsame
    · split
      · exact hsame
      · exact hsame
      · split <;> exact hsame
      · exact absurd (by assumption) hj

theorem Sound.take {b : Backoff} (hb : Sound b) (s : Step) : Sound (s.take b).2 := by
  have hprevious : (s.take b).2.previous = 0 ∨
      b.min ≤ (s.take b).2.previous ∧ (s.take b).2.previous ≤ b.max := by
    cases s with
    | fresh noise => exact .inl rfl
    | call c =>
      simp only [Step.take, answer]
      split
      · exact hb.previous
      · exact jittered_previous hb _
  obtain ⟨_, _, hs⟩ := take_settings b s
  rw [hs] at hprevious ⊢
  exact ⟨hb.min_pos, hb.min_le_max, hb.max_le, hb.growth, hprevious⟩

theorem Sound.after {b : Backoff} (hb : Sound b) (steps : List Step) :
    Sound (after b steps) := by
  induction steps using List.reverseRecOn with
  | nil => exact hb
  | append_singleton steps s ih =>
    rw [after_concat]
    exact ih.take s

/-- The memory is the latest computed wait, and nothing before there is one. -/
structure Remembers (b : Backoff) (latest : Option Span) : Prop where
  previous : b.previous = latest.getD 0
  least : ∀ wait ∈ latest, b.min ≤ wait

theorem Remembers.base {b : Backoff} {latest : Option Span} (h : Remembers b latest)
    (hb : Sound b) : WaitBounds.base b = latest.getD b.min := by
  simp only [WaitBounds.base, h.previous]
  cases latest with
  | none => rfl
  | some wait =>
    have hpos := Nat.lt_of_lt_of_le hb.min_pos (h.least wait rfl)
    exact if_neg (Nat.ne_of_gt hpos)

def Step.Admissible : Step → Prop
  | .call c => AtLeastOne c.product
  | .fresh _ => True

theorem Remembers.take {b : Backoff} {latest : Option Span} (h : Remembers b latest)
    (hb : Sound b) (hj : b.jitter = .decorrelated) {s : Step} (hs : s.Admissible) :
    Remembers (s.take b).2 (note latest (s, (s.take b).1)) := by
  cases s with
  | fresh noise => exact ⟨rfl, fun _ hw => nomatch hw⟩
  | call c =>
    cases hhint : c.hint? with
    | some delay =>
      simp only [Step.take, answer, note, hhint, Option.isSome_some, if_true]
      exact h
    | none =>
      have hmin : (computed b c.product).2.min = b.min := by
        obtain ⟨_, _, hset⟩ := jittered_settings b (envelopeOf b c.product)
        simp only [computed, hset]
      simp only [Step.take, answer, note, hhint, Option.isSome_none, Bool.false_eq_true, if_false]
      refine ⟨(computed_decorrelated hb hj hs).1, fun wait hw => ?_⟩
      cases hw
      rw [hmin]
      exact (computed_bounds hb _).1

theorem remembers_after {b : Backoff} (hb : Built b) (hj : b.jitter = .decorrelated)
    {steps : List Step} (hsteps : ∀ s ∈ steps, s.Admissible) :
    Remembers (after b steps) (latest b steps) := by
  induction steps using List.reverseRecOn with
  | nil => exact ⟨hb.previous, fun _ hw => nomatch hw⟩
  | append_singleton steps s ih =>
    have hbefore := ih fun t ht => hsteps t (List.mem_append_left _ ht)
    have hjitter : (after b steps).jitter = .decorrelated := by
      obtain ⟨_, _, hset⟩ := after_settings b steps
      rw [hset]
      exact hj
    rw [after_concat, latest_concat]
    exact hbefore.take (hb.sound.after steps) hjitter (hsteps s (by simp))

theorem answer_computed {b : Backoff} (hb : Built b) {before : List Step}
    (hbefore : ∀ s ∈ before, s.Admissible) {c : Call} (hc : AtLeastOne c.product)
    (hnone : ∀ delay, ¬ c.Asks delay) :
    b.min ≤ (answer (after b before) c).1 ∧ (answer (after b before) c).1 ≤ b.max ∧
      (b.jitter = .decorrelated →
        (answer (after b before) c).1 < 3 * (latest b before).getD b.min) := by
  have hsound := hb.sound.after before
  obtain ⟨previous, noise, hset⟩ := after_settings b before
  have hhint : c.hint? = none :=
    Option.eq_none_iff_forall_ne_some.mpr fun d hd => hnone d (Call.hint?_eq_some_iff.mp hd)
  have hwait : answer (after b before) c = computed (after b before) c.product := by
    simp only [answer, hhint]
  have hmin : (after b before).min = b.min := by rw [hset]
  have hmax : (after b before).max = b.max := by rw [hset]
  obtain ⟨hl, hu⟩ := computed_bounds hsound c.product
  rw [hwait]
  refine ⟨hmin ▸ hl, hmax ▸ hu, fun hj => ?_⟩
  have hjitter : (after b before).jitter = .decorrelated := by rw [hset, ← hj]
  have hbase := (remembers_after hb hj hbefore).base hsound
  rw [hmin] at hbase
  exact hbase ▸ (computed_decorrelated hsound hjitter hc).2

/-- Of any sequence of steps. What the server asks for is returned, at most the cap, and leaves no
trace. What is computed lies between the bounds; a decorrelated wait is also shorter than three
times the one before, which is all that is remembered. The products that a calculator itself
computes are among those that are allowed here. -/
theorem waits_between_bounds {b : Backoff} (hb : Built b) {steps : List Step}
    (hsteps : ∀ s ∈ steps, s.Admissible) :
    b.min ≤ b.max ∧
    waits b (steps.filter (!·.hinted)) = (waits b steps).filter (!·.1.hinted) ∧
    (∀ before c rest, steps = before ++ .call c :: rest →
      (∀ delay, c.Asks delay → answer (after b before) c =
        ((b.retryAfterCap.map (Nat.min delay)).getD delay, after b before)) ∧
      ((∀ delay, ¬ c.Asks delay) →
        b.min ≤ (answer (after b before) c).1 ∧ (answer (after b before) c).1 ≤ b.max ∧
        (b.jitter = .decorrelated →
          (answer (after b before) c).1 < 3 * (latest b before).getD b.min))) ∧
    (b.jitter = .decorrelated → (after b steps).previous = (latest b steps).getD 0) ∧
    ∀ wallClock prior attempt, AtLeastOne (product (after b steps) attempt) ∧
      (after b steps).nextWait wallClock prior attempt =
        answer (after b steps) ⟨product (after b steps) attempt, wallClock, prior⟩ := by
  refine ⟨hb.sound.min_le_max, waits_filter b steps, ?_, fun hj => ?_, fun _ _ attempt => ?_⟩
  · rintro before c rest rfl
    have hbefore : ∀ s ∈ before, s.Admissible := fun s hs =>
      hsteps s (List.mem_append_left _ hs)
    have hc : AtLeastOne c.product := hsteps (.call c) (by simp)
    refine ⟨fun delay hasks => ?_, answer_computed hb hbefore hc⟩
    obtain ⟨_, _, hset⟩ := after_settings b before
    rw [answer_of_asks hasks, hset]
  · exact (remembers_after hb hj hsteps).previous
  · exact ⟨atLeastOne_product (hb.sound.after steps) attempt, nextWait_eq_answer _ _ _ _⟩

def sample : Backoff := Backoff.make 100 250 .decorrelated { word := fun _ => 0x8000000000000000 }

def away : Response :=
  Response.ofReply ((Reply.mk ⟨503, by decide⟩ {} none []).withHeader "Retry-After" "120")

def sampleSteps : List Step :=
  [.call ⟨1.0, 0, none⟩, .call ⟨1.0, 0, some away⟩, .call ⟨1.0 / 0.0, 0, none⟩,
    .fresh { word := fun _ => 0x8000000000000000 }, .call ⟨0.0 / 0.0, 0, none⟩]

theorem sample_between_bounds :
    (waits sample sampleSteps).map Prod.snd =
      [some 200, some (Span.ofSeconds 120), some 250, none, some 200] ∧
    (after sample sampleSteps).previous = (latest sample sampleSteps).getD 0 := by
  have hb : Built sample := .make (by decide) (by decide) _ _
  have hsteps : ∀ s ∈ sampleSteps, s.Admissible := by
    simp only [sampleSteps, List.mem_cons, List.not_mem_nil, or_false, forall_eq_or_imp, forall_eq,
      Step.Admissible, AtLeastOne]
    decide
  exact ⟨by decide +kernel, (waits_between_bounds hb hsteps).2.2.2.1 rfl⟩

end ResilientHttp.WaitBounds
