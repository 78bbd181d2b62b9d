import Mathlib.Data.List.Induction
import ResilientHttp.Breaker

/-!
# The history of a breaker

A breaker keeps four fields. Here they are read off everything that was ever done to it: a history is
cut in epochs, an epoch remembers every outcome reported in it, and the counters are lengths of blocks
of outcomes. An epoch ends when a block is exactly as long as its threshold, so that the comparison
that a breaker makes is right only because no block was ever longer.
-/
namespace ResilientHttp.BreakerHistory

inductive Operation
  | preRequest
  | onSuccess
  | onFailure
  | execute (response : Option Response) (error : Option Error)
  | reset

/-- Operations with the instants at which they happen, the earliest first. -/
abbrev History := List (Instant × Operation)

/-- Carries an operation out; a gate that refuses leaves the breaker as it is. -/
def perform (b : Breaker) (now : Instant) : Operation → Breaker
  | .preRequest => (b.preRequest now).toOption.getD b
  | .onSuccess => b.onSuccess
  | .onFailure => b.onFailure now
  | .execute response error => b.execute now response error
  | .reset => b.reset

def after (config : BreakerConfig) (h : History) : Breaker :=
  h.foldl (fun b e => perform b e.1 e.2) (Breaker.make config)

inductive Outcome | success | failure
deriving DecidableEq

def Operation.outcome? (trip : Response → Bool) : Operation → Option Outcome
  | .preRequest | .reset => none
  | .onSuccess => some .success
  | .onFailure => some .failure
  | .execute response error =>
    some (if error.isSome || response.any trip then .failure else .success)

/-- The outcomes that a history reports, the latest first. -/
def reported (trip : Response → Bool) (h : History) : List Outcome :=
  (h.filterMap fun e => e.2.outcome? trip).reverse

/-- How many of the latest outcomes are alike. -/
def block (o : Outcome) (os : List Outcome) : Nat := (os.takeWhile (· = o)).length

/-- A stretch of history in which the circuit keeps its state, with the outcomes reported in it so
far, the latest first, and the instant at which the circuit tripped. -/
inductive Epoch
  | closed (outcomes : List Outcome)
  | opened (tripped : Instant)
  | halfOpen (tripped : Instant) (outcomes : List Outcome)

namespace Epoch

/-- An open circuit lets nothing pass before its timeout is over. -/
def admits (c : BreakerConfig) (now : Instant) : Epoch → Bool
  | .opened tripped => tripped + c.resetTimeout ≤ now
  | _ => true

def gate (c : BreakerConfig) (now : Instant) (e : Epoch) : Epoch :=
  match e with
  | .opened tripped => if e.admits c now then .halfOpen tripped [] else e
  | _ => e

def report (c : BreakerConfig) (now : Instant) (o : Outcome) : Epoch → Epoch
  | .closed os =>
    if block .failure (o :: os) = c.failureThreshold then .opened now else .closed (o :: os)
  | .halfOpen tripped os =>
    if o = .failure then .opened now
    else if (o :: os).count .success = c.successThreshold then .closed []
    else .halfOpen tripped (o :: os)
  | .opened tripped => .opened tripped

def next (c : BreakerConfig) (e : Epoch) (now : Instant) (op : Operation) : Epoch :=
  match op, op.outcome? c.trip with
  | .reset, _ => .closed []
  | _, some o => e.report c now o
  | _, none => e.gate c now

def through (c : BreakerConfig) (e : Epoch) (h : History) : Epoch :=
  h.foldl (fun e x => e.next c x.1 x.2) e

def after (c : BreakerConfig) (h : History) : Epoch := through c (.closed []) h

def breaker (c : BreakerConfig) : Epoch → Breaker
  | .closed os => {
      config := c
      circuit := .closed
      failures := block .failure os
      successes := min Text.maxWord32 (block .success os)
      openedAt := none }
  | .opened tripped => {
      config := c
      circuit := .opened
      failures := 0
      successes := 0
      openedAt := some tripped }
  | .halfOpen tripped os => {
      config := c
      circuit := .halfOpen
      failures := 0
      successes := os.count .success
      openedAt := some tripped }

def outcomes : Epoch → List Outcome
  | .closed os | .halfOpen _ os => os
  | .opened _ => []

/-- An epoch as it was when it began. -/
def start : Epoch → Epoch
  | .closed _ => .closed []
  | .opened tripped => .opened tripped
  | .halfOpen tripped _ => .halfOpen tripped []

/-- No epoch is longer than its threshold permits. -/
def Within (c : BreakerConfig) : Epoch → Prop
  | .closed os => block .failure os < c.failureThreshold
  | .opened _ => True
  | .halfOpen _ os => .failure ∉ os ∧ os.count .success < c.successThreshold

end Epoch

@[simp] theorem block_nil (o : Outcome) : block o [] = 0 := rfl

@[simp] theorem block_cons_self (o : Outcome) (os : List Outcome) :
    block o (o :: os) = block o os + 1 := by simp [block]

theorem block_cons_ne {o o' : Outcome} (h : o' ≠ o) (os : List Outcome) : block o (o' :: os) = 0 := by
  simp [block, h]

private theorem pos_of_default {n d : Nat} (hd : 0 < d) : 0 < if n = 0 then d else n := by
  split
  · exact hd
  · omega

/-- What zero stands for is never zero. -/
theorem normalized_pos (config : BreakerConfig) :
    0 < config.normalized.failureThreshold ∧ 0 < config.normalized.successThreshold ∧
      0 < config.normalized.resetTimeout :=
  ⟨pos_of_default (by decide), pos_of_default (by decide), pos_of_default (by decide)⟩

section
variable {c : BreakerConfig}

theorem preRequest_breaker (ht : 0 < c.resetTimeout) (e : Epoch) (now : Instant) :
    (e.breaker c).preRequest now =
      if e.admits c now then .ok ((e.gate c now).breaker c) else .error .breakerOpen := by
  cases e with
  | closed os => simp [Breaker.preRequest, Epoch.breaker, Epoch.admits, Epoch.gate]
  | halfOpen tripped os => simp [Breaker.preRequest, Epoch.breaker, Epoch.admits, Epoch.gate]
  | opened tripped =>
    have hdue : c.resetTimeout ≤ now - tripped ↔ tripped + c.resetTimeout ≤ now := by
      simp only [Instant, Span] at *
      omega
    by_cases h : tripped + c.resetTimeout ≤ now <;>
      simp [Breaker.preRequest, Breaker.isDue, Epoch.breaker, Epoch.admits, Epoch.gate, hdue, h]

theorem onSuccess_breaker (e : Epoch) (he : e.Within c) (now : Instant) :
    (e.breaker c).onSuccess = (e.report c now .success).breaker c := by
  cases e with
  | opened tripped => rfl
  | closed os =>
    have hne : block .failure (.success :: os) ≠ c.failureThreshold := by
      simp only [Epoch.Within] at he
      rw [block_cons_ne (by decide)]
      omega
    have hs : min (min Text.maxWord32 (block .success os) + 1) Text.maxWord32 =
        min Text.maxWord32 (block .success os + 1) := by omega
    simp only [Breaker.onSuccess, Epoch.breaker, Epoch.report, if_neg hne, block_cons_self]
    rw [block_cons_ne (by decide)]
    exact congrArg (fun n => { Epoch.breaker c (.closed os) with failures := 0, successes := n }) hs
  | halfOpen tripped os =>
    obtain ⟨-, hlt⟩ := he
    have hiff : c.successThreshold ≤ os.count .success + 1 ↔
        (Outcome.success :: os).count .success = c.successThreshold := by
      rw [List.count_cons_self]
      omega
    simp only [Breaker.onSuccess, Epoch.breaker, Epoch.report, hiff, reduceCtorEq, if_false]
    split
    · rfl
    · simp only [List.count_cons_self]

theorem onFailure_breaker (e : Epoch) (he : e.Within c) (now : Instant) :
    (e.breaker c).onFailure now = (e.report c now .failure).breaker c := by
  cases e with
  | opened tripped => rfl
  | halfOpen tripped os => rfl
  | closed os =>
    simp only [Epoch.Within] at he
    have hiff : c.failureThreshold ≤ block .failure os + 1 ↔
        block .failure (.failure :: os) = c.failureThreshold := by
      rw [block_cons_self]
      omega
    simp only [Breaker.onFailure, Epoch.breaker, Epoch.report, hiff]
    split
    · rfl
    · simp only [block_cons_self, block_cons_ne (show Outcome.failure ≠ .success by decide)]
      rfl

theorem isFailure_breaker (e : Epoch) (r : Option Response) (x : Option Error) :
    (e.breaker c).isFailure r x = (x.isSome || r.any c.trip) := by cases e <;> rfl

theorem reset_breaker (e : Epoch) : (e.breaker c).reset = (Epoch.closed []).breaker c := by
  cases e <;> simp [Breaker.reset, Epoch.breaker]

theorem perform_breaker (ht : 0 < c.resetTimeout) (e : Epoch) (he : e.Within c) (now : Instant)
    (op : Operation) : perform (e.breaker c) now op = (e.next c now op).breaker c := by
  cases op with
  | preRequest =>
    have hg : e.admits c now = false → e.gate c now = e := by
      intro ha
      cases e with
      | opened tripped => simp only [Epoch.gate, ha, Bool.false_eq_true, if_false]
      | closed os => rfl
      | halfOpen tripped os => rfl
    simp only [perform, preRequest_breaker ht, Epoch.next, Operation.outcome?]
    cases ha : e.admits c now with
    | true => rfl
    | false => exact congrArg (Epoch.breaker c) (hg ha).symm
  | onSuccess => exact onSuccess_breaker e he now
  | onFailure => exact onFailure_breaker e he now
  | execute r x =>
    simp only [perform, Breaker.execute, isFailure_breaker, Epoch.next, Operation.outcome?]
    by_cases h : (x.isSome || r.any c.trip) = true
    · simp only [h, if_true]
      exact onFailure_breaker e he now
    · simp only [h]
      exact onSuccess_breaker e he now
  | reset => exact reset_breaker e

theorem within_report (hf : 0 < c.failureThreshold) (e : Epoch) (he : e.Within c)
    (now : Instant) (o : Outcome) : (e.report c now o).Within c := by
  cases e with
  | opened tripped => trivial
  | closed os =>
    simp only [Epoch.Within] at he
    simp only [Epoch.report]
    split
    · trivial
    · rename_i hne
      cases o with
      | success => simpa [Epoch.Within, block_cons_ne] using hf
      | failure =>
        rw [block_cons_self] at hne
        simp only [Epoch.Within, block_cons_self]
        omega
  | halfOpen tripped os =>
    obtain ⟨hnone, hlt⟩ := he
    cases o with
    | failure => trivial
    | success =>
      simp only [Epoch.report, reduceCtorEq, if_false]
      split
      · simpa [Epoch.Within] using hf
      · rename_i hne
        rw [List.count_cons_self] at hne
        refine ⟨by simpa using hnone, ?_⟩
        rw [List.count_cons_self]
        omega

theorem within_gate (hs : 0 < c.successThreshold) (e : Epoch) (he : e.Within c) (now : Instant) :
    (e.gate c now).Within c := by
  cases e with
  | closed os => exact he
  | halfOpen tripped os => exact he
  | opened tripped =>
    simp only [Epoch.gate]
    split
    · exact ⟨by simp, by simpa using hs⟩
    · trivial

theorem within_next (hs : 0 < c.successThreshold) (hf : 0 < c.failureThreshold) (e : Epoch)
    (he : e.Within c) (now : Instant) (op : Operation) : (e.next c now op).Within c := by
  cases op with
  | preRequest => exact within_gate hs e he now
  | reset => simpa [Epoch.next, Epoch.Within] using hf
  | onSuccess => exact within_report hf e he now _
  | onFailure => exact within_report hf e he now _
  | execute r x => exact within_report hf e he now _

end

namespace Epoch

theorem through_append (c : BreakerConfig) (e : Epoch) (h since : History) :
    e.through c (h ++ since) = (e.through c h).through c since := List.foldl_append

theorem through_concat (c : BreakerConfig) (e : Epoch) (h : History) (x : Instant × Operation) :
    e.through c (h ++ [x]) = (e.through c h).next c x.1 x.2 := through_append c e h [x]

end Epoch

theorem after_concat (config : BreakerConfig) (h : History) (x : Instant × Operation) :
    after config (h ++ [x]) = perform (after config h) x.1 x.2 := by
  simp [after, List.foldl_append]

theorem reported_concat (trip : Response → Bool) (h : History) (x : Instant × Operation) :
    reported trip (h ++ [x]) = (x.2.outcome? trip).toList ++ reported trip h := by
  cases ho : x.2.outcome? trip <;> simp [reported, ho]

theorem simulation (config : BreakerConfig) (h : History) :
    after config h = (Epoch.after config.normalized h).breaker config.normalized ∧
      (Epoch.after config.normalized h).Within config.normalized := by
  obtain ⟨hf, hs, ht⟩ := normalized_pos config
  induction h using List.reverseRecOn with
  | nil => exact ⟨rfl, hf⟩
  | append_singleton h x ih =>
    obtain ⟨heq, hw⟩ := ih
    rw [after_concat, Epoch.after, Epoch.through_concat, heq]
    exact ⟨perform_breaker ht _ hw _ _, within_next hs hf _ hw _ _⟩

section
variable {c : BreakerConfig}

/-- What an operation other than a reset does to an epoch shows in its report alone, unless the
circuit is open. -/
theorem next_eq_report {op : Operation} (hr : op ≠ .reset) (e : Epoch)
    (ho : ∀ tripped, e ≠ .opened tripped) (now : Instant) :
    e.next c now op = ((op.outcome? c.trip).map fun o => e.report c now o).getD e := by
  cases op with
  | reset => exact absurd rfl hr
  | preRequest =>
    cases e with
    | opened tripped => exact absurd rfl (ho tripped)
    | closed os => rfl
    | halfOpen tripped os => rfl
  | onSuccess => rfl
  | onFailure => rfl
  | execute r x => rfl

/-- An operation begins an epoch, or the epoch goes on and remembers what was reported. -/
theorem next_cases (e : Epoch) (now : Instant) (op : Operation) :
    e.next c now op = (e.next c now op).start ∨
      (e.next c now op).start = e.start ∧
        (e.next c now op).outcomes = (op.outcome? c.trip).toList ++ e.outcomes := by
  have hreport (o : Outcome) : e.report c now o = (e.report c now o).start ∨
      (e.report c now o).start = e.start ∧ (e.report c now o).outcomes = o :: e.outcomes := by
    cases e with
    | opened tripped => exact .inl rfl
    | closed os =>
      simp only [Epoch.report]
      split
      · exact .inl rfl
      · exact .inr ⟨rfl, rfl⟩
    | halfOpen tripped os =>
      simp only [Epoch.report]
      split
      · exact .inl rfl
      · split
        · exact .inl rfl
        · exact .inr ⟨rfl, rfl⟩
  cases op with
  | reset => exact .inl rfl
  | onSuccess => exact hreport .success
  | onFailure => exact hreport .failure
  | execute r x => exact hreport _
  | preRequest =>
    cases e with
    | closed os => exact .inr ⟨rfl, rfl⟩
    | halfOpen tripped os => exact .inr ⟨rfl, rfl⟩
    | opened tripped =>
      refine .inl ?_
      simp only [Epoch.next, Operation.outcome?, Epoch.gate]
      split <;> rfl

/-- Every epoch began at some point of the history and remembers all that was reported since. -/
theorem exists_start (c : BreakerConfig) (h : History) :
    ∃ before since, h = before ++ since ∧ Epoch.after c before = (Epoch.after c h).start ∧
      (Epoch.after c h).outcomes = reported c.trip since := by
  induction h using List.reverseRecOn with
  | nil => exact ⟨[], [], rfl, rfl, rfl⟩
  | append_singleton h x ih =>
    obtain ⟨before, since, hh, hstart, hos⟩ := ih
    have hnext : Epoch.after c (h ++ [x]) = (Epoch.after c h).next c x.1 x.2 :=
      Epoch.through_concat c _ h x
    rcases next_cases (c := c) (Epoch.after c h) x.1 x.2 with hnew | ⟨hold, hout⟩
    · refine ⟨h ++ [x], [], (List.append_nil _).symm, ?_, ?_⟩
      · rw [hnext]
        exact hnew
      · rw [hnext, hnew]
        cases Epoch.next c (Epoch.after c h) x.1 x.2 <;> rfl
    · refine ⟨before, since ++ [x], by rw [hh, List.append_assoc], ?_, ?_⟩
      · rw [hstart, hnext, hold]
      · rw [hnext, hout, hos, reported_concat]

/-- While no block of failures is long enough, a closed circuit stays closed, and its epoch holds
everything that was reported since it began. -/
theorem closed_since (since : History) (hr : ∀ x ∈ since, x.2 ≠ .reset)
    (hb : ∀ os, os <:+ reported c.trip since → block .failure os < c.failureThreshold) :
    (Epoch.closed []).through c since = .closed (reported c.trip since) := by
  induction since using List.reverseRecOn with
  | nil => rfl
  | append_singleton since x ih =>
    have hx := hr x (by simp)
    rw [reported_concat] at hb ⊢
    rw [Epoch.through_concat, ih (fun y hy => hr y (by simp [hy]))
      (fun os hos => hb os (hos.trans (List.suffix_append _ _))), next_eq_report hx _ (by simp)]
    cases ho : x.2.outcome? c.trip with
    | none => simp
    | some o =>
      have hlt : block .failure (o :: reported c.trip since) < c.failureThreshold :=
        hb _ (by rw [ho]; exact List.suffix_rfl)
      simp only [Option.map_some, Option.getD_some, Epoch.report, if_neg (Nat.ne_of_lt hlt),
        Option.toList_some, List.singleton_append]

/-- While there are successes only, and too few of them, a half-open circuit stays half-open. -/
theorem halfOpen_since (tripped : Instant) (since : History) (hr : ∀ x ∈ since, x.2 ≠ .reset)
    (hn : .failure ∉ reported c.trip since)
    (hs : (reported c.trip since).count .success < c.successThreshold) :
    (Epoch.halfOpen tripped []).through c since = .halfOpen tripped (reported c.trip since) := by
  induction since using List.reverseRecOn with
  | nil => rfl
  | append_singleton since x ih =>
    have hx := hr x (by simp)
    rw [reported_concat] at hn hs ⊢
    simp only [List.mem_append, not_or, List.count_append] at hn hs
    rw [Epoch.through_concat, ih (fun y hy => hr y (by simp [hy])) hn.2 (by omega),
      next_eq_report hx _ (by simp)]
    cases ho : x.2.outcome? c.trip with
    | none => simp
    | some o =>
      simp only [ho, Option.toList_some, List.mem_singleton, List.count_singleton] at hn hs
      cases o with
      | failure => exact absurd rfl hn.1
      | success =>
        have hne : (Outcome.success :: reported c.trip since).count .success ≠
            c.successThreshold := by
          rw [List.count_cons_self]
          simp only [BEq.rfl, if_true] at hs
          omega
        simp only [Option.map_some, Option.getD_some, Epoch.report, reduceCtorEq, if_false,
          if_neg hne, Option.toList_some, List.singleton_append]

end

/-- A breaker is the breaker of the epoch that its history ends in, and its gate answers as that
epoch does. The epoch holds all that was reported since it began, and one that begins with a closed or
with a half-open circuit goes on until a block of outcomes in it reaches its threshold. -/
theorem after_eq_epoch (config : BreakerConfig) (h : History) :
    let c := config.normalized
    after config h = (Epoch.after c h).breaker c ∧
    (Epoch.after c h).Within c ∧
    (∃ before since, h = before ++ since ∧ Epoch.after c before = (Epoch.after c h).start ∧
      (Epoch.after c h).outcomes = reported c.trip since) ∧
    (∀ now, (after config h).preRequest now =
      if (Epoch.after c h).admits c now then .ok (((Epoch.after c h).gate c now).breaker c)
      else .error .breakerOpen) ∧
    ∀ since : History, (∀ x ∈ since, x.2 ≠ .reset) →
      (Epoch.after c h = .closed [] →
        (∀ os, os <:+ reported c.trip since → block .failure os < c.failureThreshold) →
        Epoch.after c (h ++ since) = .closed (reported c.trip since)) ∧
      ∀ tripped, Epoch.after c h = .halfOpen tripped [] → .failure ∉ reported c.trip since →
        (reported c.trip since).count .success < c.successThreshold →
        Epoch.after c (h ++ since) = .halfOpen tripped (reported c.trip since) := by
  intro c
  obtain ⟨heq, hw⟩ := simulation config h
  refine ⟨heq, hw, exists_start c h, ?_, ?_⟩
  · intro now
    rw [heq]
    exact preRequest_breaker (normalized_pos config).2.2 _ now
  · intro since hr
    simp only [Epoch.after, Epoch.through_append]
    constructor
    · intro hc hb
      rw [hc]
      exact closed_since since hr hb
    · intro tripped hc hn hs
      rw [hc]
      exact halfOpen_since tripped since hr hn hs

end ResilientHttp.BreakerHistory
