import ResilientHttp.Proofs.Passage
import ResilientHttp.Proofs.Registrations

/-!
# Decompression of what the transport brings back

Decompressors are registered under the trimmed names of codings, and of those under one name the
last one counts. A reply with a single line about its coding is left alone if the line says that
there is none; otherwise the line as a whole is the name of the decompressor, and the headers about
the encoded body go. A coding without a decompressor ends the whole request, whatever the retry
policy says.
-/
namespace ResilientHttp.Decompression
open Compression Header Passage Registrations Runs Turns

/-! ## Registrations -/

def after (start : Registry) (regs : List (String × Decompress)) : Registry :=
  regs.foldl (fun r e => r.register e.1 e.2) start

/-- What stands under a key: the last decompressor that was registered for it, or else the one that
was there from the start. -/
def standing (start : Registry) (regs : List (String × Decompress)) (key : String) :
    Option Decompress :=
  ((regs.filter fun e => Text.trim e.1 = key).getLast?.map Prod.snd).or (start.entries.lookup key)

theorem lookup_register (r : Registry) (coding key : String) (f : Decompress) :
    (r.register coding f).entries.lookup key =
      if Text.trim coding = key then some f else r.entries.lookup key :=
  lookup_replace r.entries (Text.trim coding) key f

theorem lookup_after (start : Registry) (regs : List (String × Decompress)) (key : String) :
    (after start regs).entries.lookup key = standing start regs key := by
  induction regs using List.reverseRecOn with
  | nil => rfl
  | append_singleton regs e ih =>
    simp only [after, standing, List.foldl_append, List.foldl_cons, List.foldl_nil,
      lookup_register, List.filter_append] at ih ⊢
    rw [ih]
    by_cases he : Text.trim e.1 = key <;> simp [he]

/-! ## The outcome of an attempt -/

/-- A line that says that a body is not encoded, whoever registers a decompressor for it. -/
def IsPlain (v : Value) : Prop := Text.trim v.text = "" ∨ Text.trim v.text = "identity"

instance (v : Value) : Decidable (IsPlain v) := inferInstanceAs (Decidable (_ ∨ _))

theorem isPassthrough_iff (v : Value) : Registry.isPassthrough v.text = true ↔ IsPlain v := by
  simp only [Registry.isPassthrough, IsPlain, Bool.or_eq_true, String.isEmpty_iff,
    decide_eq_true_eq]

/-- A single line tells the coding of the body. -/
def IsCoded (reply : Reply) (key : String) : Prop :=
  ∃ v, reply.headers.values .contentEncoding = [v] ∧ ¬ IsPlain v ∧ Text.trim v.text = key

section
variable {reply : Reply} {key key' : String}

/-- With one line at most, the body is either left alone or has one coding. -/
theorem plain_or_coded (h : (reply.headers.values .contentEncoding).length ≤ 1) :
    (∀ v ∈ reply.headers.values .contentEncoding, IsPlain v) ∨ ∃ key, IsCoded reply key := by
  cases hv : reply.headers.values .contentEncoding with
  | nil => exact .inl nofun
  | cons v vs =>
    have hvs : vs = [] := by
      rw [hv, List.length_cons] at h
      exact List.length_eq_zero_iff.mp (by omega)
    subst hvs
    by_cases hp : IsPlain v
    · exact .inl (List.forall_mem_singleton.mpr hp)
    · exact .inr ⟨_, v, hv, hp, rfl⟩

theorem IsCoded.not_plain (h : IsCoded reply key) :
    ¬ ∀ v ∈ reply.headers.values .contentEncoding, IsPlain v := by
  obtain ⟨v, hv, hp, -⟩ := h
  exact fun hall => hp (hall v (hv ▸ List.mem_singleton_self v))

theorem IsCoded.unique (h : IsCoded reply key) (h' : IsCoded reply key') : key = key' := by
  obtain ⟨v, hv, -, rfl⟩ := h
  obtain ⟨v', hv', -, rfl⟩ := h'
  cases hv.symm.trans hv'
  rfl

end

/-- What an attempt makes of a reply with one line at most: the reply as it is, or the reply with
its body decompressed as a whole and without the headers about the encoded one, or a failure that
names the coding. -/
inductive Decoded (find : String → Option Decompress) (reply : Reply) :
    Except Error Response → Prop
  | plain (h : ∀ v ∈ reply.headers.values .contentEncoding, IsPlain v) :
      Decoded find reply (.ok (.ofReply reply))
  | known {key : String} {f : Decompress} {headers : Fields} (h : IsCoded reply key)
      (hf : find key = some f)
      (hh : ∀ n, headers.values n =
        if n = .contentEncoding ∨ n = .contentLength then [] else reply.headers.values n) :
      Decoded find reply ((f reply.body).map fun body =>
        { Response.ofReply reply with headers, body := some body })
  | unknown {key : String} (h : IsCoded reply key) (hf : find key = none) :
      Decoded find reply (.error (.codecNotFound key))

section
variable {r : Response} {v : Value} {body : ByteStream}

theorem decompress_plain (h : ∀ v, r.headers.get? .contentEncoding = some v → IsPlain v)
    (registry : Registry) : r.decompress registry = .ok r := by
  rw [Response.decompress]
  cases hv : r.headers.get? .contentEncoding with
  | none => rfl
  | some v =>
    dsimp only
    rw [if_pos ((isPassthrough_iff v).mpr (h v hv))]

/-- Only the first line is read, and all of them are taken away. -/
theorem decompress_coded (h : r.headers.get? .contentEncoding = some v) (hp : ¬ IsPlain v)
    (hb : r.body = some body) (registry : Registry) :
    r.decompress registry =
      match registry.entries.lookup (Text.trim v.text) with
      | some f => (f body).map fun plain =>
          { r with
            headers := (r.headers.erase .contentEncoding).erase .contentLength
            body := some plain }
      | none => .error (.codecNotFound (Text.trim v.text)) := by
  have hpass : Registry.isPassthrough v.text = false := by
    simpa using mt (isPassthrough_iff v).mp hp
  simp only [Response.decompress, h, hb, Registry.wrap, hpass, Bool.false_eq_true, if_false,
    Registry.find?]
  cases registry.entries.lookup (Text.trim v.text) <;> rfl

end

theorem values_uncoded (h : Fields) (n : Name) :
    ((h.erase .contentEncoding).erase .contentLength).values n =
      if n = .contentEncoding ∨ n = .contentLength then [] else h.values n := by
  simp only [Fields.values_erase, eq_comm (b := n)]
  by_cases hl : n = .contentLength <;> by_cases he : n = .contentEncoding <;> simp [hl, he]

theorem outcome_decoded {c : Client} {find : String → Option Decompress}
    (hc : ∀ key, c.decompressors.entries.lookup key = find key) {reply : Reply}
    (h : (reply.headers.values .contentEncoding).length ≤ 1) :
    Decoded find reply (c.outcome (.ok reply)) := by
  have ho : c.outcome (.ok reply) = (Response.ofReply reply).decompress c.decompressors := rfl
  rw [ho]
  rcases plain_or_coded h with hp | ⟨key, hk⟩
  · rw [decompress_plain (r := .ofReply reply) fun v hv => hp v (List.mem_of_head? hv)]
    exact .plain hp
  · have ⟨v, hv, hcoded, hkey⟩ := hk
    have hget : reply.headers.get? .contentEncoding = some v := congrArg List.head? hv
    rw [decompress_coded (r := .ofReply reply) hget hcoded rfl, hkey, hc]
    cases hf : find key with
    | none => exact .unknown hk hf
    | some f => exact .known hk hf (values_uncoded reply.headers)

/-! ## Attempts and what follows them -/

/-- What follows an attempt whose transport call brings back a reply sees what decompression makes
of it. -/
theorem turn_answered {c : Client} {p : PreparedRequest} {g : Progress} {w : World} {x : Exchange}
    {reply : Reply} (h : Answers c p g w x) (hx : x.result = .ok reply) :
    ∃ g' w', turn c p g w = settle c p g' (c.outcome (.ok reply)) w' := by
  have hcounts : Counts p x := .inl (hx ▸ rfl)
  exact ⟨_, _, by rw [turn_eq, attempt_of_answers h hcounts, bind_ok, hx]⟩

theorem settle_codecNotFound {c : Client} {p : PreparedRequest} (key : String) (g : Progress)
    (w : World) :
    settle c p g (.error (.codecNotFound key)) w =
      .ok (.inr (.error (.codecNotFound key)), w) := by
  rw [settle_finish (moveAfter_never rfl _)]
  rfl

/-- Whatever is registered, in whatever order: everything that follows an attempt whose transport
call brings back a reply sees the reply decompressed by what stands under its coding, and the lack
of a decompressor is what the whole request comes to, under every retry policy. -/
theorem execute_decoded (c : Client) (start : Registry) (regs : List (String × Decompress))
    (p : PreparedRequest) (w : World) :
    let c := { c with decompressors := after start regs }
    ∃ heads, Loop c p heads (c.start p (begun p w)) (begun p w) (c.execute p w) ∧
      ∀ head ∈ heads, ∀ x reply, Answers c p head.1 head.2 x →
        x.result = .ok reply → (reply.headers.values .contentEncoding).length ≤ 1 →
        ∃ o g w', Decoded (standing start regs) reply o ∧
          turn c p head.1 head.2 = settle c p g o w' ∧
          ∀ key, o = .error (.codecNotFound key) → c.execute p w = .ok (o, w') := by
  intro c
  obtain ⟨heads, hl⟩ := loop_execute c p w
  refine ⟨heads, hl, fun head hm x reply hx hr hlines => ?_⟩
  obtain ⟨g, w', ht⟩ := turn_answered hx hr
  have hd : Decoded (standing start regs) reply (c.outcome (.ok reply)) :=
    outcome_decoded (lookup_after start regs) hlines
  refine ⟨_, g, w', hd, ht, fun key hkey => ?_⟩
  rw [hkey] at ht ⊢
  exact hl.eq_of_turn hm (ht.trans (settle_codecNotFound key g w'))

/-! ## A coding that is registered twice -/

def box (s : ByteStream) : Except Error ByteStream := .ok (.chunk ⟨#[0]⟩ :: s)

def boxes : List (String × Decompress) := [(" box", .ok), ("box ", box), ("identity", box)]

def boxedReply (coding : String) : Reply where
  headers := ⟨[(.contentEncoding, { text := coding }), (.contentLength, { text := "0" })]⟩

def depot (coding : String) : Client where
  transport _ _ := .done (.ok (boxedReply coding))
  decompressors := after .standard boxes

/-- A request that is to be tried again whatever comes of it. -/
def parcel : PreparedRequest where
  method := .get
  url := { scheme := "http", host := some (.domain "depot"), path := .segments [""] }
  headers := {}
  body := .empty
  timeout := none
  retry := some { RetryPolicy.immediate 3 with condition := some fun _ _ => true }
  bounds := {}
  cancelled := false
  trace := false

theorem depot_answers (coding : String) : ∃ x, x.result = .ok (boxedReply coding) ∧
    Answers (depot coding) parcel ((depot coding).start parcel (begun parcel {})) (begun parcel {})
      x := by
  let r : Request := { method := .get, url := parcel.url }
  have hr : Reaches (depot coding) parcel ((depot coding).start parcel (begun parcel {}))
      (begun parcel {}) r (begun parcel {}) := ⟨r, _, _, _, rfl, rfl, rfl⟩
  exact ⟨⟨_, .ok (boxedReply coding), (begun parcel {}).note (.call r)⟩, rfl, r, hr, rfl⟩

theorem isCoded_boxedReply {coding : String} (hp : ¬ IsPlain { text := coding }) :
    IsCoded (boxedReply coding) (Text.trim coding) :=
  ⟨{ text := coding }, rfl, hp, rfl⟩

/-- The second of two decompressors that were registered for one coding is used, and the lack of one
is final although the policy would have everything tried again. -/
theorem depot_decoded :
    (∃ o g w', turn (depot "box") parcel ((depot "box").start parcel (begun parcel {}))
        (begun parcel {}) = settle (depot "box") parcel g o w' ∧
      ∃ r, o = .ok r ∧ r.body = some [.chunk ⟨#[0]⟩] ∧
        r.headers.values .contentEncoding = [] ∧ r.headers.values .contentLength = []) ∧
    ∃ w', (depot "Box").execute parcel {} = .ok (.error (.codecNotFound "Box"), w') := by
  have hturn (coding : String) : ∃ o g w',
      Decoded (standing .standard boxes) (boxedReply coding) o ∧
      turn (depot coding) parcel ((depot coding).start parcel (begun parcel {})) (begun parcel {}) =
        settle (depot coding) parcel g o w' ∧
      ∀ key, o = .error (.codecNotFound key) → (depot coding).execute parcel {} = .ok (o, w') := by
    obtain ⟨heads, hl, hheads⟩ := execute_decoded (depot coding) .standard boxes parcel {}
    obtain ⟨x, hx, ha⟩ := depot_answers coding
    exact hheads (_, _) (hl.heads_eq ▸ List.mem_cons_self) x _ ha hx (Nat.le_refl 1)
  have hkeys : Text.trim " box" = "box" ∧ Text.trim "box " = "box" ∧
      Text.trim "identity" = "identity" := by decide +kernel
  have hbox : standing .standard boxes "box" = some box := by simp [standing, boxes, hkeys]
  have hnone : standing .standard boxes "Box" = none := by
    simp [standing, boxes, hkeys, Registry.standard, List.lookup_cons]
  have hcoded : IsCoded (boxedReply "box") "box" := isCoded_boxedReply (by decide +kernel)
  have hcoded' : IsCoded (boxedReply "Box") "Box" := isCoded_boxedReply (by decide +kernel)
  constructor
  · obtain ⟨o, g, w', hd, ht, -⟩ := hturn "box"
    cases hd with
    | plain h => exact absurd h hcoded.not_plain
    | known h hf hh =>
      cases h.unique hcoded
      cases hf.symm.trans hbox
      exact ⟨_, g, w', ht, _, rfl, rfl, hh _, hh _⟩
    | unknown h hf =>
      cases h.unique hcoded
      cases hf.symm.trans hbox
  · obtain ⟨o, g, w', hd, -, hend⟩ := hturn "Box"
    cases hd with
    | plain h => exact absurd h hcoded'.not_plain
    | known h hf hh =>
      cases h.unique hcoded'
      cases hf.symm.trans hnone
    | unknown h hf =>
      cases h.unique hcoded'
      exact ⟨w', hend "Box" rfl⟩

end ResilientHttp.Decompression
