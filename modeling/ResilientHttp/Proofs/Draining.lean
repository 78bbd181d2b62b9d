import Mathlib
import ResilientHttp.Proofs.Decompression
import ResilientHttp.Proofs.DecodedStream
import ResilientHttp.Proofs.RetryReference

/-!
# What is read of a response that nobody wants

A response that leads to another attempt is read on for a while and then let go. The reader counts
the bytes that it is given. Where the body is not encoded these are the bytes that the server sends.
Behind a decoder they are the decoded ones, and for as long as a decoder gives nothing it is written
more, whatever that comes to.
-/
namespace ResilientHttp.Draining
open Compression DecodedStream Decompression Passage RetryReference Runs Turns

/-! ## Where a reader stops -/

def size : ByteStream → Nat
  | [] => 0
  | e :: s => (ByteStream.bytesOf e).size + size s

/-- A reader that wants some bytes and has read a part of them goes over a stretch and stops there.
Before the last event of the stretch nothing has failed and bytes are missing. Behind it there is
nothing, or the reader has enough, or the last event was a failure. -/
structure ReadUpTo (limit read : Nat) (passed rest : ByteStream) : Prop where
  wanted : ∀ pre e post, passed = pre ++ e :: post → Sound pre ∧ read + size pre < limit
  done : rest = [] ∨ limit ≤ read + size passed ∨
    ∃ pre e, passed = pre ++ [e] ∧ ByteStream.isFailure e = true

section
variable {limit read : Nat} {s passed rest : ByteStream} {e : StreamEvent}

theorem drained_of_le (h : limit ≤ read) (s : ByteStream) : s.drained limit read = [] := by
  cases s with
  | nil => rfl
  | cons e s => rw [ByteStream.drained, if_pos h]

theorem drained_cons (h : read < limit) (he : ByteStream.isFailure e = false) (s : ByteStream) :
    ByteStream.drained limit read (e :: s) =
      e :: s.drained limit (read + (ByteStream.bytesOf e).size) := by
  rw [ByteStream.drained, if_neg (Nat.not_le.mpr h), if_neg (by simp [he])]

theorem drained_failure (h : read < limit) (he : ByteStream.isFailure e = true) (s : ByteStream) :
    ByteStream.drained limit read (e :: s) = [e] := by
  rw [ByteStream.drained, if_neg (Nat.not_le.mpr h), if_pos he]

theorem ReadUpTo.nothing (h : limit ≤ read) (s : ByteStream) : ReadUpTo limit read [] s where
  wanted pre e post hp := by simp at hp
  done := .inr (.inl (Nat.le_trans h (Nat.le_add_right _ _)))

theorem ReadUpTo.cons (h : ReadUpTo limit (read + (ByteStream.bytesOf e).size) passed rest)
    (hread : read < limit) (he : ByteStream.isFailure e = false) :
    ReadUpTo limit read (e :: passed) rest where
  wanted := by
    intro pre e' post hp
    cases pre with
    | nil => exact ⟨nofun, hread⟩
    | cons e₀ pre =>
      obtain ⟨rfl, hpassed⟩ := List.cons.inj hp
      obtain ⟨hs, hlt⟩ := h.wanted pre e' post hpassed
      refine ⟨sound_cons.mpr ⟨he, hs⟩, ?_⟩
      rw [size, ← Nat.add_assoc]
      exact hlt
  done := by
    rcases h.done with hr | hle | ⟨pre, e', rfl, he'⟩
    · exact .inl hr
    · rw [size, ← Nat.add_assoc]
      exact .inr (.inl hle)
    · exact .inr (.inr ⟨e :: pre, e', rfl, he'⟩)

theorem eq_nil_of_singleton {α : Type} {x y : α} {pre post : List α}
    (h : [x] = pre ++ y :: post) : pre = [] := by
  cases pre with
  | nil => rfl
  | cons z pre => simp at h

theorem ReadUpTo.failed (hread : read < limit) (he : ByteStream.isFailure e = true)
    (s : ByteStream) : ReadUpTo limit read [e] s where
  wanted := by
    intro pre e' post hp
    rw [eq_nil_of_singleton hp]
    exact ⟨nofun, hread⟩
  done := .inr (.inr ⟨[], e, rfl, he⟩)

theorem drained_readUpTo (limit read : Nat) (s : ByteStream) :
    ∃ rest, s = s.drained limit read ++ rest ∧ ReadUpTo limit read (s.drained limit read) rest := by
  induction s generalizing read with
  | nil =>
    refine ⟨[], rfl, ?_, .inl rfl⟩
    intro pre e post hp
    simp [ByteStream.drained] at hp
  | cons e s ih =>
    by_cases hread : limit ≤ read
    · rw [drained_of_le hread]
      exact ⟨e :: s, rfl, .nothing hread _⟩
    · have hmissing : read < limit := Nat.not_le.mp hread
      cases he : ByteStream.isFailure e with
      | true =>
        rw [drained_failure hmissing he]
        exact ⟨s, rfl, .failed hmissing he s⟩
      | false =>
        rw [drained_cons hmissing he]
        obtain ⟨rest, hs, hr⟩ := ih (read + (ByteStream.bytesOf e).size)
        exact ⟨rest, congrArg (e :: ·) hs, hr.cons hmissing he⟩

end

/-! ## Behind a decoder -/

/-- The part of an encoded stream that is used for as many decoded bytes as are wanted. Before its
last event nothing has failed, and the decoder was written everything and has given too little.
Behind it there is nothing, or the decoder has given enough, or the last event broke the decoding
off. -/
structure Pulled {σ : Type} (d : Decoder σ) (limit : Nat) (state : σ) (read : Nat)
    (used rest : ByteStream) : Prop where
  wanted : ∀ pre e post, used = pre ++ e :: post → Sound pre ∧
    ∃ out state', Accepts d state (parts pre) out state' ∧ read + out.size < limit
  done : rest = [] ∨
    (∃ out state', Sound used ∧ Accepts d state (parts used) out state' ∧
      limit ≤ read + out.size) ∨
    ∃ pre e out state' x, used = pre ++ [e] ∧ Accepts d state (parts pre) out state' ∧
      Breaks d state' e x

section
variable {σ : Type} {d : Decoder σ} {limit read : Nat} {state state₁ : σ} {e : StreamEvent}
  {used rest : ByteStream}

theorem Pulled.nothing (h : limit ≤ read) (state : σ) (s : ByteStream) :
    Pulled d limit state read [] s where
  wanted pre e post hp := by simp at hp
  done := .inr (.inl ⟨_, _, nofun, .nil state, Nat.le_trans h (Nat.le_add_right _ _)⟩)

/-- One event that the decoder accepts comes in front; it gives some output. -/
theorem Pulled.cons {more : ByteArray} (h : Pulled d limit state₁ (read + more.size) used rest)
    (hread : read < limit) (he : ByteStream.isFailure e = false)
    (hlift : ∀ s out state', Accepts d state₁ (parts s) out state' →
      Accepts d state (parts (e :: s)) (more ++ out) state') :
    Pulled d limit state read (e :: used) rest where
  wanted := by
    intro pre e' post hp
    cases pre with
    | nil => exact ⟨nofun, _, _, .nil state, hread⟩
    | cons e₀ pre =>
      obtain ⟨rfl, hused⟩ := List.cons.inj hp
      obtain ⟨hs, out, state', ha, hlt⟩ := h.wanted pre e' post hused
      refine ⟨sound_cons.mpr ⟨he, hs⟩, _, state', hlift _ _ _ ha, ?_⟩
      rw [ByteArray.size_append, ← Nat.add_assoc]
      exact hlt
  done := by
    rcases h.done with hr | ⟨out, state', hs, ha, hle⟩ | ⟨pre, e', out, state', x, rfl, ha, hb⟩
    · exact .inl hr
    · refine .inr (.inl ⟨_, state', sound_cons.mpr ⟨he, hs⟩, hlift _ _ _ ha, ?_⟩)
      rw [ByteArray.size_append, ← Nat.add_assoc]
      exact hle
    · exact .inr (.inr ⟨e :: pre, e', _, state', x, rfl, hlift _ _ _ ha, hb⟩)

/-- An event that brings the decoder no bytes comes in front. -/
theorem Pulled.cons_silent (h : Pulled d limit state read used rest) (hread : read < limit)
    (he : ByteStream.isFailure e = false) (hparts : ∀ s, parts (e :: s) = parts s) :
    Pulled d limit state read (e :: used) rest := by
  have hempty : Pulled d limit state (read + ByteArray.empty.size) used rest := h
  refine .cons hempty hread he fun s out state' hacc => ?_
  rw [ByteArray.empty_append, hparts]
  exact hacc

theorem Pulled.broken {x : StreamError} (hb : Breaks d state e x) (hread : read < limit)
    (s : ByteStream) : Pulled d limit state read [e] s where
  wanted := by
    intro pre e' post hp
    rw [eq_nil_of_singleton hp]
    exact ⟨nofun, _, _, .nil state, hread⟩
  done := .inr (.inr ⟨[], e, _, _, x, rfl, .nil state, hb⟩)

/-- Nothing is taken for a stretch that the reader never comes to. -/
theorem asides_drained_full (hread : read < limit) (more : ByteArray) (s : ByteStream) :
    asides (ByteStream.drained limit read (ByteStream.full more ++ s)) =
      asides (s.drained limit (read + more.size)) := by
  cases hm : more.isEmpty with
  | true =>
    rw [Chunking.eq_empty_of_isEmpty hm]
    rfl
  | false =>
    have hfull : ByteStream.full more = [.chunk more] := by
      simp only [ByteStream.full, hm, Bool.false_eq_true, if_false]
    rw [hfull, List.singleton_append, drained_cons hread rfl]
    rfl

theorem asides_drained_failed (hread : read < limit) (x : StreamError) :
    asides (ByteStream.drained limit read [.failed x]) = [] := by
  rw [drained_failure hread rfl]
  rfl

/-- What is taken for a decoded stretch is taken for the part of the encoded stream that is used. -/
theorem drained_decodeFrom (d : Decoder σ) (limit : Nat) (s : ByteStream) (state : σ) (seen : Bool)
    (read : Nat) : ∃ used rest, s = used ++ rest ∧ Pulled d limit state read used rest ∧
      asides (ByteStream.drained limit read (ByteStream.decodeFrom d state seen s)) =
        asides used := by
  induction s generalizing state seen read with
  | nil =>
    refine ⟨[], [], rfl, ⟨fun pre e post hp => by simp at hp, .inl rfl⟩, ?_⟩
    by_cases hread : limit ≤ read
    · rw [drained_of_le hread]
    · have hmissing : read < limit := Nat.not_le.mp hread
      cases seen with
      | false => rfl
      | true =>
        rw [ByteStream.decodeFrom, if_pos rfl]
        cases d.finish state with
        | error x => exact asides_drained_failed hmissing x
        | ok last =>
          have hlast := asides_drained_full hmissing last []
          rw [List.append_nil] at hlast
          exact hlast
  | cons e s ih =>
    by_cases hread : limit ≤ read
    · rw [drained_of_le hread]
      exact ⟨[], e :: s, rfl, .nothing hread state _, rfl⟩
    have hmissing : read < limit := Nat.not_le.mp hread
    cases e with
    | failed x =>
      refine ⟨[.failed x], s, rfl, .broken (.failed x) hmissing s, ?_⟩
      rw [ByteStream.decodeFrom, drained_failure hmissing rfl]
    | taken n | pause n =>
      obtain ⟨used, rest, rfl, hp, ha⟩ := ih state seen read
      refine ⟨_ :: used, rest, rfl, hp.cons_silent hmissing rfl fun s => rfl, ?_⟩
      exact (congrArg asides (drained_cons hmissing rfl _)).trans (congrArg (_ :: ·) ha)
    | chunk b =>
      cases hb : b.isEmpty with
      | true =>
        obtain ⟨used, rest, rfl, hp, ha⟩ := ih state seen read
        refine ⟨_ :: used, rest, rfl, hp.cons_silent hmissing rfl (parts_empty hb), ?_⟩
        rw [ByteStream.decodeFrom, if_pos hb]
        exact ha
      | false =>
        cases hw : d.write state b with
        | error x =>
          refine ⟨[.chunk b], s, rfl, .broken (.refused hb hw) hmissing s, ?_⟩
          rw [ByteStream.decodeFrom, hb, hw]
          exact asides_drained_failed hmissing x
        | ok y =>
          obtain ⟨more, state₁⟩ := y
          obtain ⟨used, rest, rfl, hp, ha⟩ := ih state₁ true (read + more.size)
          refine ⟨_ :: used, rest, rfl, ?_, ?_⟩
          · refine Pulled.cons hp hmissing rfl fun s out state' hacc => ?_
            rw [parts_chunk hb]
            exact .cons hw hacc
          · rw [ByteStream.decodeFrom, hb, hw]
            exact (asides_drained_full hmissing more _).trans ha

end

/-! ## In a run -/

def events : World → List Event := told fun x => some x.2

/-- What is told of a stretch of a body as it is read. -/
def items (s : ByteStream) : List Event :=
  s.filterMap fun
    | .taken n => some (.taken n)
    | _ => none

theorem items_asides (s : ByteStream) : items (asides s) = items s := by
  induction s with
  | nil => rfl
  | cons e s ih => cases e <;> simpa [items, asides] using ih

theorem events_note (w : World) (e : Event) : events (w.note e) = events w ++ [e] :=
  told_note _ w e

section
variable {b : Bounds} {s : ByteStream} {w w' : World}

theorem nothing_told {α ε : Type} {i : ε} {a : α} (w : World) (told : List Event) :
    ∃ es, events w = events w ++ es ∧ es <+: told ∧ (Except.error i = .ok a → es = told) := by
  refine ⟨[], (List.append_nil _).symm, List.nil_prefix, fun hx => ?_⟩
  cases hx

/-- Reading through a stretch tells of its items, and of some of them if it is cut short. -/
theorem run_pass {x : Except Interruption Unit}
    (h : (Activity.pass (.done ()) s).run b w = .ok (x, w')) :
    ∃ es, events w' = events w ++ es ∧ es <+: items s ∧ (x = .ok () → es = items s) := by
  induction s generalizing w with
  | nil =>
    cases h
    exact ⟨[], (List.append_nil _).symm, List.prefix_rfl, fun _ => rfl⟩
  | cons e s ih =>
    cases e with
    | chunk bytes | failed y => exact ih h
    | taken n =>
      obtain ⟨es, he, hp, hall⟩ := ih (w := w.note (.taken n)) h
      refine ⟨.taken n :: es, ?_, List.cons_prefix_cons.mpr ⟨rfl, hp⟩, fun hx => ?_⟩
      · rw [he, events_note, List.append_assoc]
        rfl
      · rw [hall hx]
        rfl
    | pause d =>
      simp only [Activity.pass, Activity.run] at h
      split at h
      · exact ih h
      · split at h
        · cases h
          exact nothing_told _ _
        · exact ih (w := { w with now := alarm b.slack w.now (w.now + d) }) h

theorem within_pass {e : Event} {x : Except Error Unit}
    (h : Run.within b e (.pass (.done ()) s) w = .ok (x, w')) :
    ∃ es, events w' = events w ++ es ∧ es <+: e :: items s ∧ (x = .ok () → es = e :: items s) := by
  obtain ⟨⟨r, v⟩, hr, he⟩ := map_eq_ok_iff.mp h
  cases he
  simp only [Activity.runBounded] at hr
  split at hr
  · cases hr
    exact nothing_told _ _
  · split at hr
    · cases hr
      exact nothing_told _ _
    · obtain ⟨es, hes, hp, hall⟩ := run_pass hr
      refine ⟨e :: es, ?_, List.cons_prefix_cons.mpr ⟨rfl, hp⟩, fun hx => ?_⟩
      · rw [hes, events_note, List.append_assoc]
        rfl
      · have hr : r = .ok () := by
          cases r with
          | error i => cases hx
          | ok u => rfl
        rw [hall hr]

end

/-- What is told between two attempts, if nothing cuts it short: of a discarded response that it is
read, then its items as far as they are wanted, and then the wait. -/
def respite (passed : ByteStream) (wait : Span) : List Event :=
  .drain :: (items passed ++ [.wait wait])

/-- Nothing but this is told, and less only if the whole request is cut short. -/
theorem pause_events {c : Client} {p : PreparedRequest} {q : RetryPolicy} {g : Progress}
    {r : Response} {s : ByteStream} (hs : r.body = some s) {w w' : World}
    {x : Except Error Progress} (h : c.pause p q g (.ok r) w = .ok (x, w')) {d : Span}
    (hwait : d = (c.nextWait q g w.now (.ok r)).1) :
    ∃ es, events w' = events w ++ es ∧ es <+: respite (s.drained drainLimit 0) d ∧
      (x.isOk = true → es = respite (s.drained drainLimit 0) d) := by
  have hdrain {y : Except Error Unit} {w₁ : World} (hd : Client.drain p (.ok r) w = .ok (y, w₁)) :
      ∃ es, events w₁ = events w ++ es ∧ es <+: .drain :: items (s.drained drainLimit 0) ∧
        (y = .ok () → es = .drain :: items (s.drained drainLimit 0)) := by
    simp only [Client.drain, hs, Option.getD_some] at hd
    exact within_pass hd
  have hrest {z : Except Error Unit} {w₁ : World} (hd : Client.drain p (.ok r) w = .ok (.ok (), w₁))
      (hsleep : Run.within p.bounds (.wait d) (.sleep d (.done ())) w₁ = .ok (z, w')) :
      ∃ es, events w' = events w ++ es ∧ es <+: respite (s.drained drainLimit 0) d ∧
        (z = .ok () → es = respite (s.drained drainLimit 0) d) := by
    obtain ⟨es, hes, -, hall⟩ := hdrain hd
    obtain ⟨es', hes', hprefix, hall'⟩ := within_pass (e := .wait d) (s := [.pause d]) hsleep
    refine ⟨es ++ es', by rw [hes', hes, List.append_assoc], ?_, fun hz => ?_⟩
    · rw [hall rfl, List.cons_append]
      exact List.cons_prefix_cons.mpr ⟨rfl, (List.prefix_append_right_inj _).mpr hprefix⟩
    · rw [hall rfl, hall' hz]
      rfl
  cases paused_of_pause h with
  | undrained hd =>
    obtain ⟨es, hes, hprefix, -⟩ := hdrain hd
    exact ⟨es, hes, hprefix.trans (List.prefix_append _ _), nofun⟩
  | cut hd' hd hsleep =>
    obtain rfl := hd'.trans hwait.symm
    obtain ⟨es, hes, hprefix, -⟩ := hrest hd hsleep
    exact ⟨es, hes, hprefix, nofun⟩
  | rested hd' hd hsleep =>
    obtain rfl := hd'.trans hwait.symm
    obtain ⟨es, hes, hprefix, hall⟩ := hrest hd hsleep
    exact ⟨es, hes, hprefix, fun _ => hall rfl⟩

section
variable {c : Client} {reply : Reply} {r : Response}

/-- What the reader is given is the body of the reply, or what its decompressor makes of it. -/
theorem outcome_body (h : c.outcome (.ok reply) = .ok r) : ∃ s, r.body = some s ∧
    ((∀ v, reply.headers.get? .contentEncoding = some v → IsPlain v) → s = reply.body) ∧
    ∀ v f, reply.headers.get? .contentEncoding = some v → ¬ IsPlain v →
      c.decompressors.entries.lookup (Text.trim v.text) = some f → f reply.body = .ok s := by
  have hdecompress : (Response.ofReply reply).decompress c.decompressors = .ok r := h
  by_cases hplain : ∀ v, reply.headers.get? .contentEncoding = some v → IsPlain v
  · rw [decompress_plain (r := .ofReply reply) hplain] at hdecompress
    cases hdecompress
    refine ⟨reply.body, rfl, fun _ => rfl, ?_⟩
    intro v f hv hnot
    exact absurd (hplain v hv) hnot
  · obtain ⟨v, hv, hnot⟩ : ∃ v, reply.headers.get? .contentEncoding = some v ∧ ¬ IsPlain v := by
      simpa using hplain
    rw [decompress_coded (r := .ofReply reply) hv hnot rfl] at hdecompress
    cases hf : c.decompressors.entries.lookup (Text.trim v.text) with
    | none =>
      rw [hf] at hdecompress
      cases hdecompress
    | some f =>
      simp only [hf] at hdecompress
      cases hs : f reply.body with
      | error e =>
        rw [hs] at hdecompress
        cases hdecompress
      | ok s =>
        rw [hs] at hdecompress
        cases hdecompress
        refine ⟨s, rfl, fun hall => absurd hall hplain, ?_⟩
        intro v' f' hv' _ hf'
        cases hv.symm.trans hv'
        cases hf.symm.trans hf'
        exact hs

/-- How far a discarded response is read, and how much of the reply is used for that. -/
structure Discarded (c : Client) (reply : Reply) (r : Response) (passed rest : ByteStream) :
    Prop where
  outcome : c.outcome (.ok reply) = .ok r
  body : r.body = some (passed ++ rest)
  stretch : ReadUpTo drainLimit 0 passed rest
  plain : (∀ v, reply.headers.get? .contentEncoding = some v → IsPlain v) →
    passed ++ rest = reply.body
  coded : ∀ v f, reply.headers.get? .contentEncoding = some v → ¬ IsPlain v →
    c.decompressors.entries.lookup (Text.trim v.text) = some f →
      f reply.body = .ok (passed ++ rest)
  decoded : ∀ (σ : Type) (d : Decoder σ), reply.body.decode d = passed ++ rest →
    ∃ used unused, reply.body = used ++ unused ∧ Pulled d drainLimit d.start 0 used unused ∧
      items used = items passed

theorem discarded_of_outcome (h : c.outcome (.ok reply) = .ok r) : ∃ s rest, r.body = some s ∧
    Discarded c reply r (s.drained drainLimit 0) rest := by
  obtain ⟨s, hs, hplain, hcoded⟩ := outcome_body h
  obtain ⟨rest, happend, hstretch⟩ := drained_readUpTo drainLimit 0 s
  refine ⟨s, rest, hs, h, ?_, hstretch, ?_, ?_, ?_⟩
  · rw [← happend]
    exact hs
  · rw [← happend]
    exact hplain
  · rw [← happend]
    exact hcoded
  · intro σ d hd
    rw [← happend] at hd
    obtain ⟨used, unused, hbody, hpulled, hasides⟩ :=
      drained_decodeFrom d drainLimit reply.body d.start false 0
    have hsame : ByteStream.decodeFrom d d.start false reply.body = s := hd
    rw [hsame] at hasides
    refine ⟨used, unused, hbody, hpulled, ?_⟩
    rw [← items_asides used, ← hasides, items_asides]

end

/-- A response that leads to another attempt is read until the limit is reached, the body ends or
something fails, and between the two attempts nothing else is told but the wait. The limit counts
what the reader is given. If the body is not encoded, this is what the server sends. If it is
decoded, the server is read until its bytes decode to as many, which may be never. -/
theorem discarded_read {c : Client} {p : PreparedRequest} {q : RetryPolicy} {g₀ g : Progress}
    {r : Response} {w₀ w w' : World} {x : Except Error Progress}
    (ha : c.attempt p g₀ w₀ = .ok ((.ok r, g), w))
    (hp : c.pause p q g (.ok r) w = .ok (x, w')) :
    ∃ exchange reply passed rest es, Answers c p g₀ w₀ exchange ∧
      exchange.result = .ok reply ∧ Discarded c reply r passed rest ∧
      events w' = events w ++ es ∧
      es <+: respite passed (c.nextWait q g w.now (.ok r)).1 ∧
      (x.isOk = true → es = respite passed (c.nextWait q g w.now (.ok r)).1) := by
  obtain ⟨entry, d, hattempted, -⟩ := attempt_cases ha
  rcases attempted_cases hattempted with ⟨-, -, e, he⟩ | ⟨y, hy, -, -, ho, -⟩
  · cases he
  · cases hresult : y.result with
    | error e =>
      rw [hresult] at ho
      cases ho
    | ok reply =>
      rw [hresult] at ho
      obtain ⟨s, rest, hs, hdiscarded⟩ := discarded_of_outcome ho.symm
      obtain ⟨es, hes, hprefix, hall⟩ := pause_events hs hp rfl
      exact ⟨y, reply, _, rest, es, hy, hresult, hdiscarded, hes, hprefix, hall⟩

/-! ## A server that sends nothing on and on -/

def emptyBlock : ByteArray := ⟨#[0, 0, 0, 0xff, 0xff]⟩

/-- A body of such blocks, one in each item. -/
def hollow : Nat → ByteStream
  | 0 => []
  | n + 1 => .taken 0 :: .chunk emptyBlock :: hollow n

theorem size_hollow (n : Nat) : size (hollow n) = n * 5 := by
  induction n with
  | zero => rfl
  | succ n ih =>
    have htaken : (ByteStream.bytesOf (.taken 0)).size = 0 := rfl
    have hblock : (ByteStream.bytesOf (.chunk emptyBlock)).size = 5 := rfl
    rw [hollow, size, size, ih, htaken, hblock]
    omega

theorem hollow_add (m n : Nat) : hollow (m + n) = hollow m ++ hollow n := by
  induction m with
  | zero => rw [Nat.zero_add, hollow, List.nil_append]
  | succ m ih => rw [Nat.succ_add, hollow, hollow, ih, List.cons_append, List.cons_append]

theorem items_hollow (n : Nat) : items (hollow n) = items (List.replicate n (.taken 0)) := by
  induction n with
  | zero => rfl
  | succ n ih => exact congrArg (.taken 0 :: ·) ih

/-- The decoder is where it was before it was written such a block. -/
theorem write_emptyBlock : (Flate.machine .bare).decoder.write
    (Flate.machine .bare).decoder.start emptyBlock =
      .ok (ByteArray.empty, (Flate.machine .bare).decoder.start) := by cbv

theorem finish_nothing : (Flate.machine .bare).decoder.finish
    (Flate.machine .bare).decoder.start = .ok ByteArray.empty := by cbv

/-- Behind the decoder only the taking of the items is left. -/
theorem decodeFrom_hollow (n : Nat) (seen : Bool) :
    ByteStream.decodeFrom (Flate.machine .bare).decoder (Flate.machine .bare).decoder.start seen
      (hollow n) = List.replicate n (.taken 0) := by
  induction n generalizing seen with
  | zero =>
    cases seen with
    | false => rfl
    | true =>
      rw [hollow, ByteStream.decodeFrom, if_pos rfl, finish_nothing]
      rfl
  | succ n ih =>
    have hblock : emptyBlock.isEmpty = false := by decide
    have hchunk : ByteStream.decodeFrom (Flate.machine .bare).decoder
        (Flate.machine .bare).decoder.start seen (.chunk emptyBlock :: hollow n) =
          List.replicate n (.taken 0) := by
      rw [ByteStream.decodeFrom, hblock, write_emptyBlock]
      exact ih true
    exact congrArg (.taken 0 :: ·) hchunk

theorem drained_takings (n : Nat) :
    ByteStream.drained drainLimit 0 (List.replicate n (.taken 0)) =
      List.replicate n (.taken 0) := by
  induction n with
  | zero => rfl
  | succ n ih =>
    have hmissing : 0 < drainLimit := by decide
    rw [List.replicate_succ, drained_cons hmissing rfl]
    exact congrArg (.taken 0 :: ·) ih

def wordless (n : Nat) : Reply :=
  (Reply.mk away {} none (hollow n)).withHeader "Content-Encoding" "deflate"

section
variable (n : Nat)

theorem wordless_coded : ∃ v, (wordless n).headers.get? .contentEncoding = some v ∧
    ¬ IsPlain v ∧ Text.trim v.text = "deflate" := by
  have hheaders : (wordless n).headers = (wordless 0).headers := rfl
  have htext : ((wordless 0).headers.get? .contentEncoding).map (fun v => Text.trim v.text) =
      some "deflate" := by
    decide +kernel
  obtain ⟨v, hv, ht⟩ := Option.map_eq_some_iff.mp htext
  refine ⟨v, hheaders ▸ hv, ?_, ht⟩
  rw [IsPlain, ht]
  decide

def hearkening : Client := echoing (.constant 2 0) (wordless n)

theorem wordless_outcome : ∃ r, (hearkening n).outcome (.ok (wordless n)) = .ok r ∧
    r.status = away ∧ r.body = some (List.replicate n (.taken 0)) := by
  obtain ⟨v, hv, hcoded, ht⟩ := wordless_coded n
  have hbody : (wordless n).body.decode (Flate.machine .bare).decoder =
      List.replicate n (.taken 0) := decodeFrom_hollow n false
  have hlookup : (hearkening n).decompressors.entries.lookup "deflate" = some inflate := rfl
  have hdecompress : (hearkening n).outcome (.ok (wordless n)) = _ :=
    decompress_coded (r := .ofReply (wordless n)) hv hcoded rfl (hearkening n).decompressors
  rw [ht, hlookup] at hdecompress
  refine ⟨_, hdecompress, rfl, ?_⟩
  exact congrArg some hbody

theorem wordless_undisturbed : ∃ p r, p.policy = some (.constant 2 0) ∧
    Undisturbed (hearkening n) lookup p {} (fun _ => .ok r) ∧ r.status = away ∧
    r.body = some (List.replicate n (.taken 0)) := by
  obtain ⟨r, ho, hstatus, hbody⟩ := wordless_outcome n
  obtain ⟨p, hq, h⟩ := echoing_undisturbed (.constant 2 0) (wordless n)
  have hsame : (fun _ : Nat => (echoing (.constant 2 0) (wordless n)).outcome (.ok (wordless n))) =
      fun _ => .ok r := by
    funext k
    exact ho
  rw [hsame] at h
  exact ⟨p, r, hq, h, hstatus, hbody⟩

theorem wordless_turn : ∃ p r g g' w w', lookup.prepare (hearkening n) = .ok p ∧
    (hearkening n).attempt p ((hearkening n).start p (begun p {})) (begun p {}) =
      .ok ((.ok r, g), w) ∧
    (hearkening n).pause p (.constant 2 0) g (.ok r) w = .ok (.ok g', w') ∧
    turn (hearkening n) p ((hearkening n).start p (begun p {})) (begun p {}) =
      .ok (.inl g', w') ∧
    r.body = some (List.replicate n (.taken 0)) := by
  obtain ⟨p, r, hq, h, hstatus, hbody⟩ := wordless_undisturbed n
  have hready := ready_start h
  obtain ⟨entry, t, w, ha, hspent, -⟩ := h.attempt hready
  let g := advanced ((hearkening n).start p (begun p {})) (some entry) p.toDraft
  have hbackoff : g.backoff = none := by
    simp only [g, advanced, Client.start, hq]
    rfl
  have hwait : 0 = (nextSleep (hearkening n) (.constant 2 0) (fun _ => .ok r) g.attempt w.now
      g.backoff).1 := by
    rw [hbackoff]
    rfl
  obtain ⟨w', hp, -⟩ := (h.pause (hspent.cancelled.trans hready.cancelled) hwait).2 (Nat.zero_le _)
  have hverdict : Verdict.ofOutcome (some r) none = .retry := by
    rw [Verdict.ofOutcome, hstatus]
    decide
  have hgoes : ¬ Stops p (fun _ => .ok r) 1 := by
    rw [stops_retried_iff (o := fun _ => .ok r) hq Nat.one_pos hverdict]
    decide
  rcases moveAfter_cases (p := p) (o := fun _ => .ok r) Nat.one_pos with
    ⟨hstops, -⟩ | ⟨hstops, -⟩ | ⟨-, q, hq', hagain⟩
  · exact absurd hstops hgoes
  · exact absurd hstops hgoes
  · obtain rfl : q = .constant 2 0 := Option.some.inj (hq'.symm.trans hq)
    refine ⟨p, r, _, _, w, w', h.prepared, ha, hp, ?_, hbody⟩
    have hsettle := settle_again (c := hearkening n) (g := g) hagain w
    rw [turn_eq, ha, bind_ok, hsettle]
    exact congrArg _ hp

end

/-- A body in which nothing is left but the taking of its items is read as any other. -/
theorem wordless_read : ∃ p r g g' w w' passed rest d,
    (hearkening 3).attempt p ((hearkening 3).start p (begun p {})) (begun p {}) =
      .ok ((.ok r, g), w) ∧
    (hearkening 3).pause p (.constant 2 0) g (.ok r) w = .ok (.ok g', w') ∧
    List.replicate 3 (.taken 0) = passed ++ rest ∧ ReadUpTo drainLimit 0 passed rest ∧
    events w' = events w ++ respite passed d := by
  obtain ⟨p, r, g, g', w, w', -, ha, hp, -, hbody⟩ := wordless_turn 3
  obtain ⟨_, _, passed, rest, es, _, _, hd, hes, _, hall⟩ := discarded_read ha hp
  have hstretch : List.replicate 3 (.taken 0) = passed ++ rest :=
    Option.some.inj (hbody.symm.trans hd.body)
  rw [hall rfl] at hes
  exact ⟨p, r, g, g', w, w', passed, rest, _, ha, hp, hstretch, hd.stretch, hes⟩

/-- All the thousand items of such a body are taken, though more than enough was sent before the
last one. -/
theorem wordless_exceeds_limit :
    (wordless 1000).body = hollow 999 ++ hollow 1 ∧ drainLimit ≤ size (hollow 999) ∧
    ∃ p g w earlier d, lookup.prepare (hearkening 1000) = .ok p ∧
      turn (hearkening 1000) p ((hearkening 1000).start p (begun p {})) (begun p {}) =
        .ok (.inl g, w) ∧
      events w = earlier ++ respite (hollow 999 ++ hollow 1) d := by
  refine ⟨hollow_add 999 1, ?_, ?_⟩
  · rw [size_hollow]
    decide
  · obtain ⟨p, r, g, g', w, w', hprepared, -, hp, hturn, hbody⟩ := wordless_turn 1000
    obtain ⟨es, hes, -, hall⟩ := pause_events hbody hp rfl
    let d := ((hearkening 1000).nextWait (.constant 2 0) g w.now (.ok r)).1
    refine ⟨p, g', w', events w, d, hprepared, hturn, ?_⟩
    have hitems : items (hollow 999 ++ hollow 1) = items (List.replicate 1000 (.taken 0)) := by
      rw [← hollow_add]
      exact items_hollow 1000
    rw [hes, hall rfl, drained_takings, respite, respite, hitems]

end ResilientHttp.Draining
