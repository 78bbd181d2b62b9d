import Mathlib.Data.List.Sort
import ResilientHttp.Proofs.Decompression
import ResilientHttp.Proofs.DeferredErrors
import ResilientHttp.Proofs.HeaderMerge
import ResilientHttp.Proofs.Trimming

/-!
# What is offered and what is decoded

A request offers the names of the decompressors that are registered, but for those that have a comma
in them, for commas separate the names of an offer. So a server finds in an offer the names of all
codings that can be decoded and are written as one token, and nothing else.
-/
namespace ResilientHttp.Offers
open Compression Decompression Header HeaderMerge Trimming

/-! ## Names -/

def keys (r : Registry) : List String := r.entries.map Prod.fst

section
variable {r : Registry} {regs : List (String × Decompress)} {key : String}

theorem mem_keys_iff : key ∈ keys r ↔ ∃ f, r.entries.lookup key = some f := by
  rw [← Option.isSome_iff_exists, List.lookup_isSome_iff, keys, List.mem_map]
  simp only [beq_iff_eq]
  exact exists_congr fun e => and_congr_right fun _ => eq_comm

theorem mem_keys_register (coding : String) (f : Decompress) :
    key ∈ keys (r.register coding f) ↔ Text.trim coding = key ∨ key ∈ keys r := by
  simp only [mem_keys_iff, lookup_register]
  split
  · rename_i h
    exact iff_of_true ⟨f, rfl⟩ (.inl h)
  · rename_i h
    exact (or_iff_right h).symm

theorem nodup_keys_register (h : (keys r).Nodup) (coding : String) (f : Decompress) :
    (keys (r.register coding f)).Nodup := by
  have hrest : ((r.entries.filter fun e => e.1 ≠ Text.trim coding).map Prod.fst).Nodup :=
    h.sublist (List.filter_sublist.map Prod.fst)
  refine List.nodup_cons.mpr ⟨fun hm => ?_, hrest⟩
  obtain ⟨e, he, hname⟩ := List.mem_map.mp hm
  exact of_decide_eq_true (List.mem_filter.mp he).2 hname

theorem mem_keys_after (start : Registry) :
    key ∈ keys (after start regs) ↔ key ∈ keys start ∨ ∃ e ∈ regs, Text.trim e.1 = key := by
  induction regs generalizing start with
  | nil => simp [after]
  | cons e regs ih =>
    have hcons : after start (e :: regs) = after (start.register e.1 e.2) regs := rfl
    simp only [hcons, ih, mem_keys_register, List.mem_cons, or_and_right, exists_or,
      exists_eq_left]
    rw [or_assoc, or_left_comm]

theorem nodup_keys_after {start : Registry} (h : (keys start).Nodup) :
    (keys (after start regs)).Nodup := by
  induction regs generalizing start with
  | nil => exact h
  | cons e regs ih => exact ih (nodup_keys_register h e.1 e.2)

theorem trim_trim (s : String) : Text.trim (Text.trim s) = Text.trim s := by
  have h := stripped_trimChars s.toList
  have hself : Stripped (Text.trimChars s.toList) (Text.trimChars s.toList) :=
    ⟨⟨[], [], .nil, .nil, (List.append_nil _).symm⟩, h.begins, h.ends⟩
  rw [Text.trim, Text.trim, String.toList_ofList, trimChars_eq_iff.mpr hself]

/-! ## Offers -/

theorem mem_accepted_iff : key ∈ r.accepted ↔ ',' ∉ key.toList ∧ key ∈ keys r := by
  simp only [Registry.accepted, Registry.names, List.mem_filter, List.mem_mergeSort, keys,
    Bool.not_eq_true', List.contains_eq_mem, decide_eq_false_iff_not]
  exact and_comm

theorem pairwise_accepted (h : (keys r).Nodup) : r.accepted.Pairwise (· < ·) := by
  have hsorted : r.names.Pairwise fun a b => decide (a ≤ b) = true :=
    List.pairwise_mergeSort (fun a b c hab hbc => by
      simp only [decide_eq_true_eq] at *
      exact String.le_trans hab hbc) (fun a b => by
      simpa using String.le_total a b) _
  have hnodup : r.names.Nodup := (List.mergeSort_perm _ _).nodup_iff.mpr h
  refine List.Pairwise.filter _ ((hsorted.and hnodup).imp fun hab => ?_)
  exact Std.lt_of_le_of_ne (of_decide_eq_true hab.1) hab.2

end

/-! ## An offer, cut into names again -/

/-- The pieces between the places where a space follows a comma. -/
def cutChars : List Char → List (List Char)
  | [] => [[]]
  | ',' :: ' ' :: cs => [] :: cutChars cs
  | c :: cs =>
    match cutChars cs with
    | [] => [[c]]
    | piece :: rest => (c :: piece) :: rest

def cut (s : String) : List String := (cutChars s.toList).map String.ofList

section
variable {c : Char} {cs key : List Char}

theorem cutChars_cons {piece : List Char} {rest : List (List Char)} (hc : c ≠ ',')
    (h : cutChars cs = piece :: rest) : cutChars (c :: cs) = (c :: piece) :: rest := by
  rw [cutChars, h]
  rintro cs rfl
  exact absurd rfl hc

theorem cutChars_append (hk : ',' ∉ key) {rest : List (List Char)} (h : cutChars cs = [] :: rest) :
    cutChars (key ++ cs) = key :: rest := by
  induction key with
  | nil => exact h
  | cons c key ih =>
    rw [List.mem_cons, not_or] at hk
    exact cutChars_cons (Ne.symm hk.1) (ih hk.2)

theorem cutChars_intercalate {names : List (List Char)} (hne : names ≠ [])
    (hn : ∀ name ∈ names, ',' ∉ name) : cutChars ([',', ' '].intercalate names) = names := by
  induction names with
  | nil => exact absurd rfl hne
  | cons name names ih =>
    obtain ⟨hname, hn⟩ := List.forall_mem_cons.mp hn
    cases names with
    | nil =>
      have hcut : cutChars (name ++ []) = [name] := cutChars_append hname rfl
      rw [List.append_nil] at hcut
      rwa [List.intercalate_singleton]
    | cons name' names =>
      have hcomma : cutChars (',' :: ' ' :: [',', ' '].intercalate (name' :: names)) =
          [] :: name' :: names := by rw [cutChars, ih (List.cons_ne_nil _ _) hn]
      exact cutChars_append hname hcomma

end

theorem cut_intercalate {names : List String} (hne : names ≠ [])
    (hn : ∀ name ∈ names, ',' ∉ name.toList) : cut (", ".intercalate names) = names := by
  have hchars : (", ".intercalate names).toList =
      [',', ' '].intercalate (names.map String.toList) := String.toList_intercalate
  rw [cut, hchars, cutChars_intercalate (by simpa using hne) (List.forall_mem_map.mpr hn),
    List.map_map]
  exact List.map_id'' (fun name => String.ofList_toList) names

/-! ## Requests and responses -/

/-- The names that a registry offers, after some registrations, are in step with what it decodes. A
single token that it decodes is offered, and what is offered is decoded by the last decompressor
that was registered for it, unless it says that nothing has to be done. -/
structure InStep (r : Registry) (regs : List (String × Decompress)) : Prop where
  ascending : r.accepted.Pairwise (· < ·)
  mem_iff (key : String) : key ∈ r.accepted ↔
    ',' ∉ key.toList ∧ (key ∈ keys .standard ∨ ∃ e ∈ regs, Text.trim e.1 = key)
  trimmed : ∀ key ∈ r.accepted, Text.trim key = key
  cut (h : ", ".intercalate r.accepted ≠ "") : Offers.cut (", ".intercalate r.accepted) = r.accepted
  offered {coding : String} {f : Decompress} (h : r.find? coding = some f)
      (hc : ',' ∉ coding.toList) : Text.trim coding ∈ r.accepted
  decoded {x : Response} {v : Value} {body : ByteStream}
      (hv : x.headers.get? .contentEncoding = some v) (hkey : Text.trim v.text ∈ r.accepted)
      (hb : x.body = some body) :
    IsPlain v ∧ x.decompress r = .ok x ∨
      ∃ f, standing .standard regs (Text.trim v.text) = some f ∧
        x.decompress r = (f body).map fun plain =>
          { x with
            headers := (x.headers.erase .contentEncoding).erase .contentLength
            body := some plain }

theorem comma_notMem_trim {s : String} (h : ',' ∉ s.toList) : ',' ∉ (Text.trim s).toList := by
  obtain ⟨front, back, -, -, hs⟩ := (stripped_trimChars s.toList).padded
  rw [Text.trim, String.toList_ofList]
  rw [hs] at h
  exact fun hm => h (List.mem_append_left _ (List.mem_append_right _ hm))

theorem inStep_after (regs : List (String × Decompress)) : InStep (after .standard regs) regs := by
  have hmem (key : String) : key ∈ (after .standard regs).accepted ↔
      ',' ∉ key.toList ∧ (key ∈ keys .standard ∨ ∃ e ∈ regs, Text.trim e.1 = key) := by
    rw [mem_accepted_iff, mem_keys_after]
  refine ⟨pairwise_accepted (nodup_keys_after (by decide)), hmem, ?_, ?_, ?_, ?_⟩
  · intro key hkey
    have hstandard : ∀ key ∈ keys .standard, Text.trim key = key := by decide +kernel
    rcases ((hmem key).mp hkey).2 with h | ⟨e, -, rfl⟩
    · exact hstandard key h
    · exact trim_trim e.1
  · intro h
    refine cut_intercalate (fun hnil => h ?_) fun name hname => ((hmem name).mp hname).1
    rw [hnil, String.intercalate_nil]
  · intro coding f h hc
    exact mem_accepted_iff.mpr ⟨comma_notMem_trim hc, mem_keys_iff.mpr ⟨f, h⟩⟩
  · intro x v body hv hkey hb
    by_cases hp : IsPlain v
    · refine .inl ⟨hp, decompress_plain (fun v' hv' => ?_) _⟩
      cases hv.symm.trans hv'
      exact hp
    · obtain ⟨f, hf⟩ := mem_keys_iff.mp (mem_accepted_iff.mp hkey).2
      refine .inr ⟨f, lookup_after .standard regs _ ▸ hf, ?_⟩
      rw [decompress_coded hv hp hb, hf]

section
variable {c : Client} {b : RequestBuilder} {p : PreparedRequest}

theorem readable_of_defaultFields {config : Config} {h : Fields}
    (hf : RequestBuilder.defaultFields config = .ok h) :
    ∀ d ∈ config.defaultHeaders, Readable d.1 d.2 := by
  have hnone : config.defaultHeaders.findSome?
      (fun d => DeferredErrors.lineFailure? d.1 d.2) = none := by
    refine Option.eq_none_iff_forall_ne_some.mpr fun e he => ?_
    rw [DeferredErrors.defaultFields_eq_error_iff.mpr he] at hf
    cases hf
  intro d hd
  have hline := List.findSome?_eq_none_iff.mp hnone d hd
  simp only [DeferredErrors.lineFailure?] at hline
  rw [Readable]
  split at hline
  · rename_i hparse
    rw [hparse]
    rfl
  · cases hline

theorem merged_of_prepare (hp : b.prepare c = .ok p) : Merged c b.headers.values p.headers := by
  have hbuilt := Turns.builtHeaders_of_prepare hp
  cases hf : RequestBuilder.defaultFields c.config with
  | error e =>
    rw [DeferredErrors.builtHeaders_eq_error_iff.mpr hf] at hbuilt
    cases hbuilt
  | ok defaults =>
    obtain ⟨h, hh, hm⟩ := exists_merged (readable_of_defaultFields hf) b
    cases hh.symm.trans hbuilt
    exact hm

/-- What a request says of the codings that it accepts: the last value that its builder holds, which
is all of them exactly if there is one, or else the last default, or else the names that are
offered, if they make a text for a header. -/
structure Carried (c : Client) (list : String) (b : RequestBuilder) (p : PreparedRequest) :
    Prop where
  own (hb : b.headers.values .acceptEncoding ≠ []) :
    p.headers.values .acceptEncoding = (b.headers.values .acceptEncoding).getLast?.toList
  whole_iff (hb : b.headers.values .acceptEncoding ≠ []) :
    p.headers.values .acceptEncoding = b.headers.values .acceptEncoding ↔
      (b.headers.values .acceptEncoding).length = 1
  default (hb : b.headers.values .acceptEncoding = [])
      (hd : (readDefaults c.config).values .acceptEncoding ≠ []) :
    p.headers.values .acceptEncoding =
      ((readDefaults c.config).values .acceptEncoding).getLast?.toList
  offered (hb : b.headers.values .acceptEncoding = [])
      (hd : (readDefaults c.config).values .acceptEncoding = []) :
    p.headers.values .acceptEncoding =
      if c.config.advertiseEncodings = true ∧ list ≠ "" ∧ list.toList.all isValueChar = true
      then [{ text := list }] else []

theorem offer_eq (c : Client) :
    let list := ", ".intercalate c.decompressors.accepted
    (offer c).toList =
      if c.config.advertiseEncodings = true ∧ list ≠ "" ∧ list.toList.all isValueChar = true
      then [{ text := list }] else [] := by
  intro list
  simp only [offer, Value.parse?, Bool.and_eq_true, Bool.not_eq_true', String.isEmpty_eq_false_iff,
    ← and_assoc]
  by_cases ha : c.config.advertiseEncodings = true ∧ list ≠ ""
  · by_cases ht : list.toList.all isValueChar = true
    · rw [if_pos ha, if_pos ht, if_pos ⟨ha, ht⟩]
      rfl
    · rw [if_pos ha, if_neg ht, if_neg fun h => ht h.2]
      rfl
  · rw [if_neg ha, if_neg fun h => ha h.1]
    rfl

theorem carried_of_prepare (hp : b.prepare c = .ok p) :
    Carried c (", ".intercalate c.decompressors.accepted) b p := by
  have hm := merged_of_prepare hp
  refine ⟨hm.own, fun hb => ?_, hm.default, fun hb hd => ?_⟩
  · rw [hm.own hb]
    exact getLast?_toList_eq_iff hb
  · rw [hm.offered hb hd, if_pos rfl, offer_eq]

end

/-- Whatever is registered, in whatever order: the names that are offered are in step with what is
decoded, and every request that is prepared offers them as one value if neither its builder nor the
defaults say what is accepted. What these say is carried instead, but for all values of the builder
only the last one, and so for the defaults. -/
theorem offers_in_step (c : Client) (regs : List (String × Decompress)) :
    let c := { c with decompressors := after .standard regs }
    InStep c.decompressors regs ∧ ∀ b p, b.prepare c = .ok p →
      Carried c (", ".intercalate c.decompressors.accepted) b p := by
  intro c
  exact ⟨inStep_after regs, fun b p hp => carried_of_prepare hp⟩

/-! ## Two values that say what is accepted -/

/-- One coding under two spellings, and two codings in a row. -/
def wares : List (String × Decompress) := [(" zstd", .ok), ("zstd ", box), ("gzip, br", box)]

def market : Client := { shop with decompressors := after .standard wares }

/-- Each single token is offered once, and the two codings in a row are not. -/
theorem market_offers :
    ∃ p, browse.prepare market = .ok p ∧
      p.headers.values .acceptEncoding = [{ text := "br, deflate, gzip, x-gzip, zlib, zstd" }] := by
  obtain ⟨hstep, hrequests⟩ := offers_in_step shop wares
  obtain ⟨url, hu⟩ := browse_url
  have hurl : browse.builtUrl market.config = .ok url := hu
  have hdefaults : ∀ d ∈ market.config.defaultHeaders, Readable d.1 d.2 := shop_readable
  obtain ⟨p, hp, -⟩ := exists_prepared rfl hurl hdefaults (List.forall_mem_nil _)
  have hnames : market.decompressors.accepted =
      ["br", "deflate", "gzip", "x-gzip", "zlib", "zstd"] := by
    refine hstep.ascending.eq_of_mem_iff (by decide) fun key => ?_
    rw [hstep.mem_iff]
    have hsingle : ∀ e ∈ wares, ',' ∉ (Text.trim e.1).toList →
        Text.trim e.1 ∈ ["br", "deflate", "gzip", "x-gzip", "zlib", "zstd"] := by decide +kernel
    have hknown : ∀ key ∈ ["br", "deflate", "gzip", "x-gzip", "zlib", "zstd"],
        ',' ∉ key.toList ∧ (key ∈ keys .standard ∨ ∃ e ∈ wares, Text.trim e.1 = key) := by
      decide +kernel
    refine ⟨?_, hknown key⟩
    rintro ⟨hcomma, hkey | ⟨e, he, rfl⟩⟩
    · exact (by decide : ∀ key ∈ keys .standard, key ∈ _) key hkey
    · exact hsingle e he hcomma
  have hlist : ", ".intercalate market.decompressors.accepted =
      "br, deflate, gzip, x-gzip, zlib, zstd" := by
    rw [hnames]
    decide +kernel
  have hcarried : Carried market "br, deflate, gzip, x-gzip, zlib, zstd" browse p :=
    hlist ▸ hrequests browse p hp
  refine ⟨p, hp, ?_⟩
  rw [hcarried.offered (by decide +kernel) (by decide +kernel), if_pos (by decide)]

/-- What a builder says of the codings that are accepted is carried as it is. -/
def KeepsAccepted : Prop :=
  ∀ c b p, RequestBuilder.prepare b c = .ok p → b.headers.values .acceptEncoding ≠ [] →
    p.headers.values .acceptEncoding = b.headers.values .acceptEncoding

def choosy : RequestBuilder :=
  browse.withHeaders ⟨[(.acceptEncoding, { text := "gzip" }), (.acceptEncoding, { text := "br" })]⟩

/-- Of two codings that a builder says are accepted, the first one is lost. -/
theorem choosy_not_keepsAccepted : ¬ KeepsAccepted := by
  intro h
  obtain ⟨url, hu⟩ := browse_url
  obtain ⟨headers, hh, hm⟩ := exists_merged shop_readable choosy
  have hurl : choosy.builtUrl shop.config = .ok url := hu
  obtain ⟨p, hp, rfl⟩ := prepare_of_built rfl hurl hh
  have hheld : choosy.headers.values .acceptEncoding = [{ text := "gzip" }, { text := "br" }] := by
    decide +kernel
  have hne : choosy.headers.values .acceptEncoding ≠ [] := hheld ▸ List.cons_ne_nil _ _
  have hall := h shop choosy p hp hne
  rw [hm.own hne, hheld] at hall
  exact absurd (congrArg List.length hall) (by decide)

end ResilientHttp.Offers
