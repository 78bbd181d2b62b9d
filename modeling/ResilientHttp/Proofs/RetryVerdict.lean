import Mathlib.Data.Bool.Basic
import Mathlib.Data.Nat.Basic
import Mathlib.Logic.ExistsUnique
import ResilientHttp.Retry

/-!
# Which outcomes are tried again

An outcome is ruled on before any condition is asked. Only what the rules leave open is for the
condition to decide, so that a condition can add attempts and never take one away, and what the rules
forbid stays forbidden.
-/
namespace ResilientHttp.RetryVerdict

/-- A status after which the same request may fare better: too many requests, or a failure of the
server other than that it knows no such method. -/
def MayPass (s : Status) : Prop := s.code = 429 ∨ 500 ≤ s.code ∧ s.code ≠ 501

/-- The rules. An error is ruled on whatever response stands beside it. -/
inductive Ruling : Option Response → Option Error → Verdict → Prop
  | temporary {response : Option Response} {e : TransportError} (h : e.isTemporary = true) :
      Ruling response (some (.transport e)) .retry
  | permanent {response : Option Response} {e : TransportError} (h : e.isPermanent = true) :
      Ruling response (some (.transport e)) .never
  | neither {response : Option Response} {e : TransportError} (ht : e.isTemporary = false)
      (hp : e.isPermanent = false) : Ruling response (some (.transport e)) .stop
  | other {response : Option Response} {e : Error} (h : ∀ t, e ≠ .transport t) :
      Ruling response (some e) .never
  | mayPass {r : Response} (h : MayPass r.status) : Ruling (some r) none .retry
  | silent {response : Option Response} (h : ∀ r, response = some r → ¬ MayPass r.status) :
      Ruling response none .stop

/-- A condition grants an outcome; no condition grants none. -/
def Grants (condition : Option Condition) (response : Option Response) (error : Option Error) :
    Prop :=
  ∃ c, condition = some c ∧ c response error = true

theorem isRetryableStatus_iff (s : Status) :
    Verdict.isRetryableStatus s.code = true ↔ MayPass s := by
  have hs := s.sound
  simp only [Verdict.isRetryableStatus, MayPass, Bool.or_eq_true, Bool.and_eq_true,
    decide_eq_true_eq]
  omega

/-- No failure is both, so it does not matter which question is asked first. -/
theorem not_permanent_of_temporary {e : TransportError} (h : e.isTemporary = true) :
    e.isPermanent = false := by
  cases e with
  | certificate m | redirect m | invalidHeader m | unsupportedScheme m => cases h
  | connect m | timeout m | other m temporary => rfl

section
variable {response : Option Response} {error : Option Error} {v : Verdict}

theorem ruling_ofOutcome (response : Option Response) (error : Option Error) :
    Ruling response error (Verdict.ofOutcome response error) := by
  cases error with
  | some e =>
    cases e with
    | transport e =>
      simp only [Verdict.ofOutcome, Verdict.ofError]
      cases hp : e.isPermanent with
      | true => exact .permanent hp
      | false =>
        cases ht : e.isTemporary with
        | true => exact .temporary ht
        | false => exact .neither ht hp
    | _ => exact .other nofun
  | none =>
    cases response with
    | none => exact .silent nofun
    | some r =>
      cases hr : Verdict.isRetryableStatus r.status.code with
      | true =>
        simp only [Verdict.ofOutcome, hr, if_true]
        exact .mayPass ((isRetryableStatus_iff _).mp hr)
      | false =>
        simp only [Verdict.ofOutcome, hr, Bool.false_eq_true, if_false]
        refine .silent fun r' he hpass => ?_
        cases he
        rw [(isRetryableStatus_iff _).mpr hpass] at hr
        cases hr

theorem Ruling.eq_ofOutcome (h : Ruling response error v) :
    Verdict.ofOutcome response error = v := by
  cases h with
  | temporary ht =>
    have hp : TransportError.isPermanent _ = false := not_permanent_of_temporary ht
    simp only [Verdict.ofOutcome, Verdict.ofError, hp, ht, Bool.false_eq_true, if_false, if_true]
  | permanent hp => simp only [Verdict.ofOutcome, Verdict.ofError, hp, if_true]
  | neither ht hp =>
    simp only [Verdict.ofOutcome, Verdict.ofError, hp, ht, Bool.false_eq_true, if_false]
  | @other _ e h =>
    cases e with
    | transport t => exact absurd rfl (h t)
    | _ => rfl
  | mayPass hm => simp only [Verdict.ofOutcome, (isRetryableStatus_iff _).mpr hm, if_true]
  | silent h =>
    cases response with
    | none => rfl
    | some r =>
      have hr : Verdict.isRetryableStatus r.status.code = false := by
        rw [← Bool.not_eq_true, isRetryableStatus_iff]
        exact h r rfl
      simp only [Verdict.ofOutcome, hr, Bool.false_eq_true, if_false]

theorem Ruling.unique {v' : Verdict} (h : Ruling response error v)
    (h' : Ruling response error v') : v = v' := h.eq_ofOutcome.symm.trans h'.eq_ofOutcome

theorem ruling_iff : Ruling response error v ↔ Verdict.ofOutcome response error = v :=
  ⟨Ruling.eq_ofOutcome, fun h => h ▸ ruling_ofOutcome response error⟩

/-- What the rules say of an error is said without a look at the response. -/
theorem ruling_error {e : Error} (response other : Option Response) :
    Ruling response (some e) v ↔ Ruling other (some e) v := by
  rw [ruling_iff, ruling_iff]
  rfl

end

section
variable {p : RetryPolicy} {response : Option Response} {error : Option Error} {idempotent : Bool}
  {attempt : Nat}

theorem grants_iff {condition : Option Condition} :
    (condition.any fun c => c response error) = true ↔ Grants condition response error := by
  cases condition with
  | none => exact iff_of_false nofun nofun
  | some c => exact ⟨fun h => ⟨c, rfl, h⟩, fun ⟨_, hc, h⟩ => Option.some.inj hc ▸ h⟩

theorem shouldRetry_iff : p.shouldRetry response error idempotent attempt = true ↔
    attempt < p.maxAttempts ∧ (idempotent = true ∨ p.allowNonIdempotent = true) ∧
      (Ruling response error .retry ∨
        Ruling response error .stop ∧ Grants p.condition response error) := by
  rw [RetryPolicy.shouldRetry, RetryPolicy.isRetryable, Bool.and_eq_true, Bool.and_eq_true,
    Bool.or_eq_true, decide_eq_true_eq, ruling_iff, ruling_iff, ← grants_iff]
  refine and_congr_right' (and_congr_right' ?_)
  cases Verdict.ofOutcome response error <;> simp

end

/-- What a policy makes of an outcome. -/
structure Lawful (p : RetryPolicy) (response : Option Response) (error : Option Error)
    (idempotent : Bool) : Prop where
  /-- There is one ruling for every outcome. -/
  ruled : ∃! v, Ruling response error v
  /-- A response beside an error does not count. -/
  alone : ∀ e, error = some e → ∀ other v, Ruling other error v ↔ Ruling response error v
  retried : ∀ attempt, p.shouldRetry response error idempotent attempt = true ↔
    attempt < p.maxAttempts ∧ (idempotent = true ∨ p.allowNonIdempotent = true) ∧
      (Ruling response error .retry ∨
        Ruling response error .stop ∧ Grants p.condition response error)
  /-- A condition that grants what the old one grants, or the first condition at all, keeps every
  attempt. -/
  weakened : ∀ condition attempt,
    (Grants p.condition response error → Grants condition response error) →
    p.shouldRetry response error idempotent attempt ≤
      { p with condition }.shouldRetry response error idempotent attempt
  /-- What is forbidden stays so under every condition. -/
  forbidden : Ruling response error .never → ∀ condition attempt,
    { p with condition }.shouldRetry response error idempotent attempt = false
  /-- The further the attempts have come, the less is tried again. -/
  antitone : ∀ m n, m ≤ n →
    p.shouldRetry response error idempotent n ≤ p.shouldRetry response error idempotent m

/-- An outcome is tried again exactly if attempts are left, the request may be repeated, and the rules
demand it or leave it to a condition that grants it. -/
theorem policy_lawful (p : RetryPolicy) (response : Option Response) (error : Option Error)
    (idempotent : Bool) : Lawful p response error idempotent where
  ruled := ⟨_, ruling_ofOutcome response error, fun _ h => h.unique (ruling_ofOutcome _ _)⟩
  alone := by
    rintro e rfl other v
    exact ruling_error other response
  retried _ := shouldRetry_iff
  weakened condition attempt hgrants := by
    rw [Bool.le_iff_imp]
    intro h
    obtain ⟨hleft, hmay, hruled⟩ := shouldRetry_iff.mp h
    exact shouldRetry_iff.mpr ⟨hleft, hmay, hruled.imp_right fun ⟨hstop, hg⟩ => ⟨hstop, hgrants hg⟩⟩
  forbidden hnever condition attempt := by
    rw [← Bool.not_eq_true]
    intro h
    obtain ⟨-, -, hretry | ⟨hstop, -⟩⟩ := shouldRetry_iff.mp h
    · cases hretry.unique hnever
    · cases hstop.unique hnever
  antitone m n hmn := by
    rw [Bool.le_iff_imp]
    intro h
    obtain ⟨hleft, hrest⟩ := shouldRetry_iff.mp h
    exact shouldRetry_iff.mpr ⟨Nat.lt_of_le_of_lt hmn hleft, hrest⟩

end ResilientHttp.RetryVerdict
