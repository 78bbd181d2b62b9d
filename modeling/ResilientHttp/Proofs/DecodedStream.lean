import ResilientHttp.Proofs.Chunking

/-!
# The shape of a decoded stream

A decoder is written the chunks of a stream one after the other, and its output is handed out as it
comes. A stretch of the stream that the decoder accepts gives a stretch of output that nothing
behind it can change. Behind the longest such stretch there is the end of the stream, or the one
thing that breaks the decoding off: a failure of the stream, or a chunk that the decoder refuses.
-/
namespace ResilientHttp.DecodedStream
open Chunking Compression

/-! ## What is read and what is handed out -/

/-- Nothing fails in a stretch of a stream. -/
def Sound (s : ByteStream) : Prop := ∀ e ∈ s, ByteStream.isFailure e = false

def parts (s : ByteStream) : List ByteArray :=
  s.filterMap fun
    | .chunk b => if b.isEmpty then none else some b
    | _ => none

/-- What is taken from the source and how long it takes. -/
def asides (s : ByteStream) : ByteStream :=
  s.filter fun
    | .taken _ | .pause _ => true
    | _ => false

/-- A decoder is written some parts one after the other and refuses none; `out` is everything that
it emits, and the last state is where it comes to. -/
inductive Accepts {σ : Type} (d : Decoder σ) : σ → List ByteArray → ByteArray → σ → Prop
  | nil (state : σ) : Accepts d state [] ByteArray.empty state
  | cons {state state₁ state' : σ} {b more out : ByteArray} {bs : List ByteArray}
      (hw : d.write state b = .ok (more, state₁)) (hr : Accepts d state₁ bs out state') :
      Accepts d state (b :: bs) (more ++ out) state'

/-- A stretch of a stream is handed out with other bytes: in chunks that are not empty, and with all
that is taken and every pause. -/
structure Renders (front used : ByteStream) (out : ByteArray) : Prop where
  sound : Sound front
  filled : ∀ b, .chunk b ∈ front → b.isEmpty = false
  data : front.data = out
  aside : asides front = asides used

section
variable {front front' used used' : ByteStream} {out out' : ByteArray}

theorem sound_cons {e : StreamEvent} {s : ByteStream} :
    Sound (e :: s) ↔ ByteStream.isFailure e = false ∧ Sound s := List.forall_mem_cons

theorem data_append (h : Sound front) : (front ++ front').data = front.data ++ front'.data := by
  induction front with
  | nil => exact ByteArray.empty_append.symm
  | cons e front ih =>
    obtain ⟨he, hf⟩ := sound_cons.mp h
    rw [List.cons_append, data_cons he, data_cons he, ih hf, ByteArray.append_assoc]

theorem Renders.append (h : Renders front used out) (h' : Renders front' used' out') :
    Renders (front ++ front') (used ++ used') (out ++ out') where
  sound e he := (List.mem_append.mp he).elim (h.sound e) (h'.sound e)
  filled b hb := (List.mem_append.mp hb).elim (h.filled b) (h'.filled b)
  data := by rw [data_append h.sound, h.data, h'.data]
  aside := by
    have ha := h.aside
    have ha' := h'.aside
    simp only [asides] at ha ha' ⊢
    rw [List.filter_append, List.filter_append, ha, ha']

theorem renders_full (b : ByteArray) (h : asides used = []) :
    Renders (ByteStream.full b) used b := by
  cases hb : b.isEmpty with
  | true =>
    rw [eq_empty_of_isEmpty hb]
    exact ⟨nofun, nofun, rfl, h.symm⟩
  | false =>
    have hfull : ByteStream.full b = [.chunk b] := by
      simp only [ByteStream.full, hb, Bool.false_eq_true, if_false]
    rw [hfull]
    refine ⟨List.forall_mem_singleton.mpr rfl, fun c hc => ?_, ?_, h.symm⟩
    · cases List.mem_singleton.mp hc
      exact hb
    · exact (data_cons rfl).trans ByteArray.append_empty

theorem Renders.cons_aside (h : Renders front used out) {e : StreamEvent} (he : asides [e] = [e])
    (hs : ByteStream.isFailure e = false) (hb : ByteStream.bytesOf e = ByteArray.empty) :
    Renders (e :: front) (e :: used) out := by
  have hone : Renders [e] [e] ByteArray.empty := by
    refine ⟨List.forall_mem_singleton.mpr hs, fun b hm => ?_, ?_, rfl⟩
    · cases List.mem_singleton.mp hm
      cases he
    · rw [data_cons hs, hb]
      rfl
  exact ByteArray.empty_append (b := out) ▸ hone.append h

end

theorem parts_empty {b : ByteArray} (hb : b.isEmpty = true) (s : ByteStream) :
    parts (.chunk b :: s) = parts s := by simp [parts, hb]

theorem parts_chunk {b : ByteArray} (hb : b.isEmpty = false) (s : ByteStream) :
    parts (.chunk b :: s) = b :: parts s := by simp [parts, hb]

/-! ## Stretches that are accepted -/

section
variable {σ : Type} {d : Decoder σ}

/-- A stretch that the decoder accepts gives output that does not depend on what comes behind it. -/
theorem decodeFrom_append {pre : ByteStream} (hp : Sound pre) {state state' : σ} {out : ByteArray}
    (ha : Accepts d state (parts pre) out state') (seen : Bool) :
    ∃ front, Renders front pre out ∧ ∀ rest,
      ByteStream.decodeFrom d state seen (pre ++ rest) =
        front ++ ByteStream.decodeFrom d state' (seen || !(parts pre).isEmpty) rest := by
  induction pre generalizing state out seen with
  | nil =>
    cases ha
    refine ⟨[], renders_full ByteArray.empty rfl, fun rest => ?_⟩
    rw [parts, List.filterMap_nil, List.isEmpty_nil, Bool.not_true, Bool.or_false]
    rfl
  | cons e pre ih =>
    obtain ⟨he, hpre⟩ := sound_cons.mp hp
    cases e with
    | failed x => cases he
    | taken _ | pause _ =>
      obtain ⟨front, hf, hd⟩ := ih hpre ha seen
      exact ⟨_, hf.cons_aside rfl rfl rfl, fun rest => congrArg _ (hd rest)⟩
    | chunk b =>
      cases hb : b.isEmpty with
      | true =>
        rw [parts_empty hb] at ha ⊢
        obtain ⟨front, hf, hd⟩ := ih hpre ha seen
        refine ⟨front, ⟨hf.sound, hf.filled, hf.data, hf.aside⟩, fun rest => ?_⟩
        rw [← hd rest, List.cons_append, ByteStream.decodeFrom, if_pos hb]
      | false =>
        rw [parts_chunk hb] at ha ⊢
        cases ha with
        | @cons _ state₁ _ _ more out _ hw hr =>
          obtain ⟨front, hf, hd⟩ := ih hpre hr true
          have hmore : Renders (ByteStream.full more) [.chunk b] more := renders_full more rfl
          refine ⟨_, hmore.append hf, fun rest => ?_⟩
          rw [List.cons_append, ByteStream.decodeFrom, hb, hw]
          simp only [Bool.false_eq_true, if_false, hd rest, Bool.true_or, List.isEmpty_cons,
            Bool.not_false, Bool.or_true, List.append_assoc]

/-- What breaks decoding off in some state. -/
inductive Breaks (d : Decoder σ) (state : σ) : StreamEvent → StreamError → Prop
  | failed (x : StreamError) : Breaks d state (.failed x) x
  | refused {b : ByteArray} {x : StreamError} (hb : b.isEmpty = false)
      (hw : d.write state b = .error x) : Breaks d state (.chunk b) x

theorem Breaks.decodeFrom {state : σ} {e : StreamEvent} {x : StreamError} (h : Breaks d state e x)
    (seen : Bool) (rest : ByteStream) :
    ByteStream.decodeFrom d state seen (e :: rest) = [.failed x] := by
  cases h with
  | failed x => rfl
  | refused hb hw =>
    rw [ByteStream.decodeFrom, hb, hw]
    rfl

/-- A stream is accepted as a whole, or up to something that breaks the decoding off. -/
theorem accepts_or_breaks (d : Decoder σ) (state : σ) (s : ByteStream) :
    (Sound s ∧ ∃ out state', Accepts d state (parts s) out state') ∨
    ∃ pre e rest out state' x, s = pre ++ e :: rest ∧ Sound pre ∧
      Accepts d state (parts pre) out state' ∧ Breaks d state' e x := by
  induction s generalizing state with
  | nil => exact .inl ⟨nofun, _, _, .nil state⟩
  | cons e s ih =>
    -- An event that is accepted leads to a state from which the rest of the stream is read.
    have hcons (state₁ : σ) (he : ByteStream.isFailure e = false)
        (hlift : ∀ s out state', Accepts d state₁ (parts s) out state' →
          ∃ out, Accepts d state (parts (e :: s)) out state') :
        (Sound (e :: s) ∧ ∃ out state', Accepts d state (parts (e :: s)) out state') ∨
        ∃ pre e' rest out state' x, e :: s = pre ++ e' :: rest ∧ Sound pre ∧
          Accepts d state (parts pre) out state' ∧ Breaks d state' e' x := by
      rcases ih state₁ with ⟨hs, out, state', ha⟩ | ⟨pre, e', rest, out, state', x, rfl, hs, ha, hb⟩
      · obtain ⟨out, ha⟩ := hlift s out state' ha
        exact .inl ⟨sound_cons.mpr ⟨he, hs⟩, out, state', ha⟩
      · obtain ⟨out, ha⟩ := hlift pre out state' ha
        exact .inr ⟨e :: pre, e', rest, out, state', x, rfl, sound_cons.mpr ⟨he, hs⟩, ha, hb⟩
    cases e with
    | failed x => exact .inr ⟨[], _, s, _, _, x, rfl, nofun, .nil state, .failed x⟩
    | taken _ | pause _ => exact hcons state rfl fun s out state' ha => ⟨out, ha⟩
    | chunk b =>
      cases hb : b.isEmpty with
      | true => exact hcons state rfl fun s out state' ha => ⟨out, (parts_empty hb s).symm ▸ ha⟩
      | false =>
        cases hw : d.write state b with
        | error x => exact .inr ⟨[], _, s, _, _, x, rfl, nofun, .nil state, .refused hb hw⟩
        | ok y =>
          refine hcons y.2 rfl fun s out state' ha => ⟨y.1 ++ out, ?_⟩
          rw [parts_chunk hb]
          exact .cons hw ha

/-- How decoding a stream ends: with what it emits in all, and with a failure unless the stream is
used up and the decoder finishes. Nothing encoded is nothing, whatever the decoder. -/
inductive Ended (d : Decoder σ) :
    (used rest : ByteStream) → (out : ByteArray) → Option StreamError → Prop
  | nothing {used : ByteStream} (hs : Sound used) (hp : parts used = []) :
      Ended d used [] ByteArray.empty none
  | finished {used : ByteStream} {out last : ByteArray} {state : σ} (hs : Sound used)
      (hp : parts used ≠ []) (ha : Accepts d d.start (parts used) out state)
      (hf : d.finish state = .ok last) : Ended d used [] (out ++ last) none
  | unfinished {used : ByteStream} {out : ByteArray} {state : σ} {x : StreamError}
      (hs : Sound used) (hp : parts used ≠ []) (ha : Accepts d d.start (parts used) out state)
      (hf : d.finish state = .error x) : Ended d used [] out (some x)
  | broken {pre rest : ByteStream} {e : StreamEvent} {out : ByteArray} {state : σ}
      {x : StreamError} (hs : Sound pre) (ha : Accepts d d.start (parts pre) out state)
      (hb : Breaks d state e x) : Ended d (pre ++ [e]) rest out (some x)

theorem Breaks.asides_eq {state : σ} {e : StreamEvent} {x : StreamError} (h : Breaks d state e x) :
    asides [e] = [] := by
  cases h <;> rfl

/-- A stream that is accepted as a whole is used up, and then the decoder finishes. -/
theorem decode_of_accepts {s : ByteStream} (hs : Sound s) {out : ByteArray} {state : σ}
    (ha : Accepts d d.start (parts s) out state) :
    ∃ out' failure front, Ended d s [] out' failure ∧ Renders front s out' ∧
      s.decode d = front ++ (failure.map StreamEvent.failed).toList := by
  obtain ⟨front, hf, hd⟩ := decodeFrom_append hs ha false
  have hdecode := hd []
  rw [List.append_nil, ByteStream.decodeFrom, Bool.false_or] at hdecode
  cases hp : (parts s).isEmpty with
  | true =>
    rw [List.isEmpty_iff.mp hp] at ha
    cases ha
    refine ⟨_, none, front, .nothing hs (List.isEmpty_iff.mp hp), hf, ?_⟩
    rw [hp] at hdecode
    exact hdecode
  | false =>
    have hne : parts s ≠ [] := fun h => by simp [h] at hp
    rw [hp, Bool.not_false, if_pos rfl] at hdecode
    cases hfin : d.finish state with
    | ok last =>
      rw [hfin] at hdecode
      have hlast : Renders (ByteStream.full last) [] last := renders_full last rfl
      have hall := hf.append hlast
      rw [List.append_nil] at hall
      exact ⟨_, none, _, .finished hs hne ha hfin, hall, hdecode.trans (List.append_nil _).symm⟩
    | error x =>
      rw [hfin] at hdecode
      exact ⟨_, some x, front, .unfinished hs hne ha hfin, hf, hdecode⟩

/-- What breaks decoding off is the last thing that is taken, so that nothing behind it matters. -/
theorem decode_of_breaks {pre : ByteStream} (hs : Sound pre) {out : ByteArray} {state : σ}
    (ha : Accepts d d.start (parts pre) out state) {e : StreamEvent} {x : StreamError}
    (hb : Breaks d state e x) :
    ∃ front, Renders front (pre ++ [e]) out ∧ ∀ rest,
      ByteStream.decode d (pre ++ [e] ++ rest) = front ++ [.failed x] := by
  obtain ⟨front, hf, hd⟩ := decodeFrom_append hs ha false
  have hnone : Renders [] [e] ByteArray.empty := renders_full ByteArray.empty hb.asides_eq
  have hall := hf.append hnone
  rw [List.append_nil, ByteArray.append_empty] at hall
  refine ⟨front, hall, fun rest => ?_⟩
  rw [List.append_assoc, ByteStream.decode, List.singleton_append, hd, hb.decodeFrom]

end

/-- Decoding in one of the formats gives what the format makes of all bytes together. -/
theorem readAll_decompress (f : Format) {s : ByteStream} (hs : s.failure? = none) :
    (f.decompress s).map ByteStream.readAll =
      .ok (if s.data.isEmpty then .ok ByteArray.empty
        else (f.plain s.data.data.toList).mapError Fault.toStreamError) := by
  cases f with
  | flate container =>
    cases container <;> exact congrArg Except.ok (readAll_machine (steady_flate _) hs)
  | brotli => exact congrArg Except.ok (readAll_machine steady_brotli hs)

/-- Whatever the decoder and whatever comes from upstream, failures and what is behind them
included: a part of the stream is used, its chunks are written one after the other, and all output
is handed out in chunks that are not empty. Then there is the end, or the failure that breaks the
decoding off, and what is left of the stream makes no difference. In the formats, unless something
fails upstream, what is handed out is the plain data of all bytes together, however they are cut. -/
theorem decode_shape (s : ByteStream) :
    (∀ (σ : Type) (d : Decoder σ), ∃ used rest out failure front, s = used ++ rest ∧
      Ended d used rest out failure ∧ Renders front used out ∧
      s.decode d = front ++ (failure.map StreamEvent.failed).toList ∧
      (rest ≠ [] → ∀ other, ByteStream.decode d (used ++ other) = s.decode d)) ∧
    ∀ f : Format, s.failure? = none → (f.decompress s).map ByteStream.readAll =
      .ok (if s.data.isEmpty then .ok ByteArray.empty
        else (f.plain s.data.data.toList).mapError Fault.toStreamError) := by
  refine ⟨fun σ d => ?_, fun f hs => readAll_decompress f hs⟩
  rcases accepts_or_breaks d d.start s with
    ⟨hs, out, state, ha⟩ | ⟨pre, e, rest, out, state, x, rfl, hs, ha, hb⟩
  · obtain ⟨out', failure, front, hend, hf, hd⟩ := decode_of_accepts hs ha
    exact ⟨s, [], out', failure, front, (List.append_nil s).symm, hend, hf, hd,
      fun hrest => absurd rfl hrest⟩
  · obtain ⟨front, hf, hd⟩ := decode_of_breaks hs ha hb
    rw [List.append_cons]
    refine ⟨pre ++ [e], rest, out, some x, front, rfl, .broken hs ha hb, hf, hd rest, ?_⟩
    intro _ other
    rw [hd, hd]

/-- A stream in the gzip format breaks off behind the first of two letters: that letter is handed
out, and then the failure, but nothing of the rest. -/
example :
    let severed : ByteStream := [.chunk (greeting.extract 0 16), .chunk ByteArray.empty,
      .failed ⟨.other, "reset"⟩, .chunk (greeting.extract 16 25)]
    (severed.decode (Flate.machine .gzip).decoder).data = ⟨#[104]⟩ ∧
      (severed.decode (Flate.machine .gzip).decoder).failure? = some ⟨.other, "reset"⟩ := by
  decide +kernel

end ResilientHttp.DecodedStream
