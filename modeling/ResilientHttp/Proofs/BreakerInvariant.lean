import ResilientHttp.Proofs.BreakerHistory

/-!
# What the fields of a breaker have to do with each other and with the clock

The clock of a history never goes back. Then the state of the circuit bounds both counters by the
thresholds and places the instant of the trip, so that no counter leaves a word of 32 bits and an
open circuit always knows when it tripped.
-/
namespace ResilientHttp.BreakerInvariant
open BreakerHistory

/-- The instants of a history never go back, and none of them is later than now. -/
def Timely (h : History) (now : Instant) : Prop := (h.map Prod.fst ++ [now]).Pairwise (· ≤ ·)

/-- The circuit tripped at an instant that is known, and at least this long ago. -/
def TrippedSince (b : Breaker) (d : Span) (now : Instant) : Prop :=
  ∃ tripped, b.openedAt = some tripped ∧ tripped + d ≤ now

def Sound (b : Breaker) (now : Instant) : Prop :=
  match b.circuit with
  | .closed =>
    b.openedAt = none ∧ b.failures < b.config.failureThreshold ∧ (b.failures = 0 ∨ b.successes = 0)
  | .halfOpen =>
    b.failures = 0 ∧ b.successes < b.config.successThreshold ∧
      TrippedSince b b.config.resetTimeout now
  | .opened => b.failures = 0 ∧ b.successes = 0 ∧ TrippedSince b 0 now

/-- The trip that an epoch remembers is past, and so is the timeout of a half-open circuit. -/
def Timed (c : BreakerConfig) (now : Instant) : Epoch → Prop
  | .closed _ => True
  | .opened tripped => tripped ≤ now
  | .halfOpen tripped _ => tripped + c.resetTimeout ≤ now

section
variable {c : BreakerConfig} {now later : Instant} {e : Epoch}

theorem Timed.mono (h : Timed c now e) (hl : now ≤ later) : Timed c later e := by
  cases e with
  | closed os => trivial
  | opened tripped => exact Nat.le_trans h hl
  | halfOpen tripped os => exact Nat.le_trans h hl

theorem Timed.report (h : Timed c now e) (o : Outcome) : Timed c now (e.report c now o) := by
  cases e with
  | opened tripped => exact h
  | closed os =>
    simp only [Epoch.report]
    split
    · exact Nat.le_refl now
    · trivial
  | halfOpen tripped os =>
    simp only [Epoch.report]
    split
    · exact Nat.le_refl now
    · split
      · trivial
      · exact h

theorem Timed.gate (h : Timed c now e) : Timed c now (e.gate c now) := by
  cases e with
  | closed os => trivial
  | halfOpen tripped os => exact h
  | opened tripped =>
    simp only [Epoch.gate]
    split
    · rename_i ha
      simpa [Epoch.admits, Timed] using ha
    · exact h

theorem Timed.next (h : Timed c now e) (op : Operation) : Timed c now (e.next c now op) := by
  cases op with
  | preRequest => exact h.gate
  | onSuccess => exact h.report _
  | onFailure => exact h.report _
  | execute r x => exact h.report _
  | reset => trivial

end

theorem timely_concat {h : History} {x : Instant × Operation} {now : Instant}
    (ht : Timely (h ++ [x]) now) : Timely h x.1 ∧ x.1 ≤ now := by
  simp only [Timely, List.map_append, List.map_cons, List.map_nil] at ht
  obtain ⟨hleft, -, hcross⟩ := List.pairwise_append.mp ht
  exact ⟨hleft, hcross x.1 (by simp) now (by simp)⟩

theorem timed_after (c : BreakerConfig) (h : History) {now : Instant} (ht : Timely h now) :
    Timed c now (Epoch.after c h) := by
  induction h using List.reverseRecOn generalizing now with
  | nil => trivial
  | append_singleton h x ih =>
    obtain ⟨hh, hx⟩ := timely_concat ht
    rw [Epoch.after, Epoch.through_concat]
    exact ((ih hh).next x.2).mono hx

/-- Blocks of both kinds cannot both come last. -/
theorem block_eq_zero_or (os : List Outcome) : block .failure os = 0 ∨ block .success os = 0 := by
  cases os with
  | nil => exact .inl rfl
  | cons o os =>
    cases o with
    | success => exact .inl (block_cons_ne (by decide) os)
    | failure => exact .inr (block_cons_ne (by decide) os)

theorem sound_breaker {c : BreakerConfig} {now : Instant} {e : Epoch} (hw : e.Within c)
    (ht : Timed c now e) : Sound (e.breaker c) now := by
  cases e with
  | closed os =>
    refine ⟨rfl, hw, (block_eq_zero_or os).imp_right fun h => ?_⟩
    simp only [Epoch.breaker, h, Nat.min_zero]
  | opened tripped => exact ⟨rfl, rfl, tripped, rfl, ht⟩
  | halfOpen tripped os => exact ⟨rfl, hw.2, tripped, rfl, ht⟩

private theorem default_le {n d m : Nat} (hn : n ≤ m) (hd : d ≤ m) : (if n = 0 then d else n) ≤ m := by
  split <;> assumption

/-- In every state that a breaker reaches the fields fit each other and the clock; so the counts that
are about to be raised leave room in a word of 32 bits, and the gate of an open circuit finds the
instant of its trip. -/
theorem after_sound (config : BreakerConfig) (h : History) (now : Instant) (ht : Timely h now) :
    let b := after config h
    b.config = config.normalized ∧ Sound b now ∧
    (config.failureThreshold ≤ Text.maxWord32 → b.circuit = .closed →
      b.failures + 1 ≤ Text.maxWord32) ∧
    (config.successThreshold ≤ Text.maxWord32 → b.circuit = .halfOpen →
      b.successes + 1 ≤ Text.maxWord32) ∧
    (b.circuit = .opened → b.openedAt ≠ none) := by
  intro b
  obtain ⟨heq, hw⟩ := simulation config h
  have hconfig : b.config = config.normalized := by
    simp only [b, heq]
    cases Epoch.after config.normalized h <;> rfl
  have hsound : Sound b now := by
    simp only [b, heq]
    exact sound_breaker hw (timed_after _ h ht)
  have hs := hsound
  refine ⟨hconfig, hsound, ?_, ?_, ?_⟩
  · intro hword hc
    simp only [Sound, hc, hconfig] at hs
    exact Nat.le_trans hs.2.1 (default_le hword (by decide))
  · intro hword hc
    simp only [Sound, hc, hconfig] at hs
    exact Nat.le_trans hs.2.1 (default_le hword (by decide))
  · intro hc
    simp only [Sound, hc] at hs
    obtain ⟨-, -, tripped, ho, -⟩ := hs
    simp [ho]

def probe : History := [(0, .onFailure), (2000000000, .preRequest), (2500000000, .onSuccess)]

/-- A breaker that trips at once and closes after as many successes as a word can count. -/
def patient : BreakerConfig := { failureThreshold := 1, successThreshold := Text.maxWord32 }

theorem probe_sound :
    Timely probe 3000000000 ∧ Sound (after patient probe) 3000000000 ∧
      (after patient probe).circuit = .halfOpen ∧
      (after patient probe).successes + 1 ≤ Text.maxWord32 := by
  have ht : Timely probe 3000000000 := by simp [Timely, probe]
  have hc : (after patient probe).circuit = .halfOpen := by decide
  obtain ⟨-, hs, -, hsucc, -⟩ := after_sound patient probe 3000000000 ht
  exact ⟨ht, hs, hc, hsucc (Nat.le_refl _) hc⟩

end ResilientHttp.BreakerInvariant
