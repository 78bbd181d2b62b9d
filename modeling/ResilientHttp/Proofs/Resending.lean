import ResilientHttp.Proofs.Turns

/-!
# Nothing is sent again that must not be

Sending makes no more turns than the policy permits, and each of them calls the transport once or not
at all, whatever the transport, the hooks and the decompressors do and whenever the request is
cancelled or its deadline strikes. Three things keep a request from being sent twice: no policy, a
method that must not be repeated, and a body that cannot be.
-/
namespace ResilientHttp.Resending
open Building Runs Turns

/-- A request that is to be sent no more than once. -/
def Single (c : Client) (b : RequestBuilder) (p : PreparedRequest) : Prop :=
  b.selectedRetry c.config = none ∨
  (b.method.isIdempotent = false ∧ b.allowNonIdempotentRetry = false ∧
    ∀ q ∈ b.selectedRetry c.config, q.allowNonIdempotent = false) ∨
  p.body.isReplayable = false

section
variable {c : Client} {b : RequestBuilder} {p : PreparedRequest}

theorem policy_none_of_selected (hp : b.prepare c = .ok p)
    (h : b.selectedRetry c.config = none) : p.policy = none := by
  rw [prepare_eq hp]
  simp [PreparedRequest.policy, RequestBuilder.chosenRetry, h]

theorem policy_none_of_method (hp : b.prepare c = .ok p) (hm : b.method.isIdempotent = false)
    (hb : b.allowNonIdempotentRetry = false)
    (hq : ∀ q ∈ b.selectedRetry c.config, q.allowNonIdempotent = false) : p.policy = none := by
  rw [prepare_eq hp]
  simp only [PreparedRequest.policy, RequestBuilder.chosenRetry]
  cases hs : b.selectedRetry c.config with
  | none => rfl
  | some q =>
    have hn : q.allowNonIdempotent = false := hq q hs
    simp [RetryPolicy.appliesTo, hm, hb, hn]

theorem limit_pos (r : Option RetryPolicy) : 0 < limit r := by
  cases r with
  | none => exact Nat.one_pos
  | some q => exact Nat.le_max_left _ _

theorem limit_le_word {r : Option RetryPolicy}
    (h : ∀ q ∈ r, q.maxAttempts ≤ Text.maxWord32) : limit r ≤ Text.maxWord32 := by
  cases r with
  | none => decide
  | some q => exact Nat.max_le.mpr ⟨by decide, h q rfl⟩

/-- The bound on attempts is that of the selected policy. -/
theorem limit_le (hp : b.prepare c = .ok p) : limit p.policy ≤ limit (b.selectedRetry c.config) := by
  rw [prepare_eq hp]
  simp only [PreparedRequest.policy, RequestBuilder.chosenRetry]
  cases hs : b.selectedRetry c.config with
  | none => exact Nat.le_refl _
  | some q =>
    simp only [Option.map_some, Option.filter]
    split
    · exact Nat.le_refl _
    · exact Nat.le_max_left _ _

end

theorem single_calls_le {c : Client} {b : RequestBuilder} {p : PreparedRequest}
    {heads : List (Progress × World)} {w w' : World} {y : Except Halt (Except Error Response × World)}
    (hp : b.prepare c = .ok p) (hs : Single c b p)
    (hl : Loop c p heads (c.start p (begun p w)) (begun p w) y) (hw : Reached heads y w') :
    w'.calls ≤ w.calls + 1 := by
  have hpolicy (hn : p.policy = none) : w'.calls ≤ w.calls + 1 := by
    have hlen : heads.length ≤ 1 := by
      have hle := hl.length_le (limit_pos p.policy)
      rw [hn] at hle
      exact Nat.le_trans (Nat.le_add_left _ _) hle
    exact Nat.le_trans (hl.calls_le hw) (Nat.add_le_add_left hlen _)
  rcases hs with hnone | ⟨hm, hb, hq⟩ | hbody
  · exact hpolicy (policy_none_of_selected hp hnone)
  · exact hpolicy (policy_none_of_method hp hm hb hq)
  · -- The policy may permit more turns, but none of them gets as far as the transport.
    exact hl.calls_le_succ_of_not_replayable hw hbody

/-- However a request fares, it is sent no more often than it may be. -/
theorem send_bounded (c : Client) (b : RequestBuilder) (w : World) :
    (∀ e, b.prepare c = .error e → c.send b w = .ok (.error e, w)) ∧
    ∀ p, b.prepare c = .ok p →
      ∃ heads, Loop c p heads (c.start p (begun p w)) (begun p w) (c.send b w) ∧
        heads.length ≤ limit p.policy ∧
        limit p.policy ≤ limit (b.selectedRetry c.config) ∧
        (∀ i head, heads[i]? = some head →
          head.1.attempt = i ∧
          ((∀ q ∈ b.selectedRetry c.config, q.maxAttempts ≤ Text.maxWord32) →
            head.1.attempt + 1 ≤ Text.maxWord32) ∧
          (∀ x w', turn c p head.1 head.2 = .ok (x, w') → w'.calls ≤ head.2.calls + 1) ∧
          (p.body.isReplayable = false → 1 ≤ i → ∀ w',
            head.1.draft.build (head.1.attempt + 1) w' =
              .ok ((.error .bodyNotReplayable, head.1.draft), w'))) ∧
        ∀ w', Reached heads (c.send b w) w' →
          w'.calls ≤ w.calls + heads.length ∧ (Single c b p → w'.calls ≤ w.calls + 1) := by
  refine ⟨fun e he => by simp only [Client.send, he]; rfl, fun p hp => ?_⟩
  obtain ⟨heads, hl⟩ := loop_send hp w
  have hstart : (c.start p (begun p w)).attempt = 0 := rfl
  have hlen : heads.length ≤ limit p.policy := by
    have hle := hl.length_le (limit_pos p.policy)
    omega
  refine ⟨heads, hl, hlen, limit_le hp, ?_, ?_⟩
  · intro i head hi
    have ha : head.1.attempt = i := by
      rw [hl.attempt hi, hstart, Nat.zero_add]
    have hlt : i < heads.length := (List.getElem?_eq_some_iff.mp hi).1
    refine ⟨ha, fun hq => ?_, fun x w' ht => turn_calls_le ht, fun hb hn w' => ?_⟩
    · have hword := limit_le_word hq
      have hle := limit_le hp
      omega
    · have hdraft := (hl.isReplayable (List.mem_of_getElem? hi)).trans hb
      exact build_of_not_replayable hdraft (by omega) w'
  · intro w' hw
    exact ⟨hl.calls_le hw, fun hsingle => single_calls_le hp hsingle hl hw⟩

end ResilientHttp.Resending
