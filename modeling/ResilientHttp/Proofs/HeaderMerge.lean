import Mathlib.Data.List.Induction
import ResilientHttp.RequestBuilder

/-!
# The headers of a prepared request

Headers come from three sides: the calls on the builder, the defaults of the client, and the offer
of codings. A call replaces what was given under its names before, and keeps all values that it
gives itself. When the request is prepared, the entries of the builder are inserted one after the
other, as those of the defaults are, and so a single value is left of each name: the last one. A
name that the builder holds has no default, and the offer is made only if nobody else says what is
accepted.
-/
namespace ResilientHttp.HeaderMerge
open Header

/-! ## Fields, seen through the values of a name -/

section
variable (h more : Fields) (n : Name)

theorem contains_eq_false_iff : h.contains n = false ↔ h.values n = [] := by
  simp [Fields.contains, Fields.values, List.filter_eq_nil_iff]

/-- Values of a name that others were given before. -/
def overlay : List Value → List Value → List Value
  | [], old => old
  | v :: vs, _ => v :: vs

@[simp] theorem nil_overlay (old : List Value) : overlay [] old = old := rfl

@[simp] theorem overlay_nil (new : List Value) : overlay new [] = new := by cases new <;> rfl

theorem overlay_of_ne_nil {new : List Value} (hn : new ≠ []) (old : List Value) :
    overlay new old = new := by
  cases new with
  | nil => exact absurd rfl hn
  | cons v vs => rfl

theorem overlay_getLast?_cons (v : Value) (vs old : List Value) :
    overlay (v :: vs).getLast?.toList old = overlay vs.getLast?.toList [v] := by
  rw [List.getLast?_cons]
  cases vs.getLast? <;> rfl

/-- Inserting entries one after the other leaves the last value of each name. -/
theorem values_override :
    (h.override more).values n = overlay (more.values n).getLast?.toList (h.values n) := by
  obtain ⟨entries⟩ := more
  simp only [Fields.override]
  induction entries generalizing h with
  | nil => rfl
  | cons e entries ih =>
    rw [List.foldl_cons, ih, Fields.values_insert]
    by_cases he : e.1 = n
    · have hcons : Fields.values ⟨e :: entries⟩ n = e.2 :: Fields.values ⟨entries⟩ n := by
        simp [Fields.values, he]
      rw [if_pos he, hcons, overlay_getLast?_cons]
    · have hcons : Fields.values ⟨e :: entries⟩ n = Fields.values ⟨entries⟩ n := by
        simp [Fields.values, he]
      rw [if_neg he, hcons]

/-- A name that the new fields hold has all of their values, and none of the old ones. -/
theorem values_extend : (h.extend more).values n = overlay (more.values n) (h.values n) := by
  have hc := contains_eq_false_iff more n
  have happend : (h.extend more).values n =
      (h.entries.filter fun e => e.1 = n && !more.contains e.1).map Prod.snd ++ more.values n := by
    simp only [Fields.extend, Fields.values, List.filter_append, List.map_append,
      List.filter_filter]
  rw [happend]
  cases hm : more.values n with
  | nil =>
    rw [List.append_nil]
    refine congrArg _ (List.filter_congr fun e _ => ?_)
    by_cases he : e.1 = n <;> simp [he, hc.mpr hm]
  | cons v vs =>
    have hold : h.entries.filter (fun e => e.1 = n && !more.contains e.1) = [] := by
      refine List.filter_eq_nil_iff.mpr fun e _ => ?_
      by_cases he : e.1 = n <;> simp [he, mt hc.mp (hm ▸ List.cons_ne_nil v vs)]
    rw [hold]
    rfl

end

/-! ## Calls -/

def Readable (name value : String) : Prop := (Header.parse name value).isOk = true

instance (name value : String) : Decidable (Readable name value) :=
  inferInstanceAs (Decidable (_ = true))

theorem Readable.exists_eq {name value : String} (h : Readable name value) :
    ∃ e, Header.parse name value = .ok e := by
  rw [Readable] at h
  cases hp : Header.parse name value with
  | ok e => exact ⟨e, rfl⟩
  | error f =>
    rw [hp] at h
    cases h

/-- A call that gives headers to a request in the making. -/
inductive HeaderCall
  | one (name value : String)
  | all (headers : Fields)

namespace HeaderCall

def IsValid : HeaderCall → Prop
  | one name value => Readable name value
  | all _ => True

/-- The values that a call gives to a name. -/
def given (n : Name) : HeaderCall → List Value
  | one name value =>
    match Header.parse name value with
    | .ok (m, v) => if m = n then [v] else []
    | .error _ => []
  | all headers => headers.values n

def make (b : RequestBuilder) : HeaderCall → RequestBuilder
  | one name value => b.header name value
  | all headers => b.withHeaders headers

end HeaderCall

/-- What a builder holds under a name after some calls, earliest first: the values of the last call
that gives it any, and before such a call those that it had. -/
def held (h : Fields) (calls : List HeaderCall) (n : Name) : List Value :=
  ((calls.map (HeaderCall.given n)).filter fun vs => !vs.isEmpty).getLast?.getD (h.values n)

theorem held_concat (h : Fields) (calls : List HeaderCall) (call : HeaderCall) (n : Name) :
    held h (calls ++ [call]) n = overlay (call.given n) (held h calls n) := by
  simp only [held, List.map_append, List.filter_append, List.map_cons, List.map_nil]
  cases hg : call.given n with
  | nil => simp [overlay]
  | cons v vs => simp [overlay]

/-- A valid call changes the headers of a builder and nothing else. -/
theorem make_eq {call : HeaderCall} (hc : call.IsValid) (b : RequestBuilder) :
    ∃ h, call.make b = { b with headers := h } ∧
      ∀ n, h.values n = overlay (call.given n) (b.headers.values n) := by
  cases call with
  | all headers => exact ⟨_, rfl, fun n => values_extend b.headers headers n⟩
  | one name value =>
    obtain ⟨⟨m, v⟩, hp⟩ := Readable.exists_eq hc
    simp only [HeaderCall.make, RequestBuilder.header, HeaderCall.given, hp]
    refine ⟨_, rfl, fun n => ?_⟩
    rw [Fields.values_insert]
    by_cases hm : m = n <;> simp [hm, overlay]

theorem foldl_make_eq {calls : List HeaderCall} (hc : ∀ call ∈ calls, call.IsValid)
    (b : RequestBuilder) :
    ∃ h, calls.foldl HeaderCall.make b = { b with headers := h } ∧
      ∀ n, h.values n = held b.headers calls n := by
  induction calls using List.reverseRecOn with
  | nil => exact ⟨b.headers, rfl, fun n => rfl⟩
  | append_singleton calls call ih =>
    obtain ⟨h, hb, hh⟩ := ih fun x hx => hc x (List.mem_append_left _ hx)
    obtain ⟨h', hb', hh'⟩ := make_eq (hc call (by simp)) { b with headers := h }
    refine ⟨h', ?_, fun n => ?_⟩
    · rw [List.foldl_append, hb]
      exact hb'
    · rw [hh', hh, held_concat]

/-! ## Defaults and the offer of codings -/

def readDefaults (config : Config) : Fields :=
  ⟨config.defaultHeaders.filterMap fun d => (Header.parse d.1 d.2).toOption⟩

theorem defaultFields_eq {config : Config}
    (hd : ∀ d ∈ config.defaultHeaders, Readable d.1 d.2) :
    RequestBuilder.defaultFields config = .ok (Fields.override {} (readDefaults config)) := by
  simp only [RequestBuilder.defaultFields, readDefaults]
  generalize config.defaultHeaders = ds at hd
  generalize ({} : Fields) = acc
  induction ds generalizing acc with
  | nil => rfl
  | cons d ds ih =>
    obtain ⟨e, he⟩ := (hd d List.mem_cons_self).exists_eq
    rw [List.foldlM_cons, List.filterMap_cons, he]
    exact ih (fun d' hd' => hd d' (List.mem_cons_of_mem _ hd')) _

/-- The codings that are offered when nobody says what is accepted. -/
def offer (c : Client) : Option Value :=
  let list := ", ".intercalate c.decompressors.accepted
  if c.config.advertiseEncodings && !list.isEmpty then Value.parse? list else none

theorem advertise_eq (c : Client) (h : Fields) :
    RequestBuilder.advertise c h =
      match offer c with
      | some v => if h.contains .acceptEncoding then h else h.insert .acceptEncoding v
      | none => h := by
  simp only [RequestBuilder.advertise, offer]
  cases Value.parse? (", ".intercalate c.decompressors.accepted) <;>
    cases c.config.advertiseEncodings <;> cases h.contains .acceptEncoding <;>
      cases (", ".intercalate c.decompressors.accepted).isEmpty <;> rfl

theorem values_advertise (c : Client) (h : Fields) (n : Name) :
    (RequestBuilder.advertise c h).values n =
      if n = .acceptEncoding then overlay (h.values n) (offer c).toList else h.values n := by
  have hc := contains_eq_false_iff h .acceptEncoding
  rw [advertise_eq]
  cases offer c with
  | none => simp
  | some v =>
    dsimp only
    split
    · rename_i hheld
      have hne : h.values .acceptEncoding ≠ [] := fun hv => by simp [hc.mpr hv] at hheld
      split
      · rename_i hn
        rw [hn, overlay_of_ne_nil hne]
      · rfl
    · rename_i hfree
      rw [Fields.values_insert]
      split
      · rename_i hn
        rw [if_pos hn.symm, ← hn, hc.mp (by simpa using hfree)]
        rfl
      · rename_i hn
        rw [if_neg fun he => hn he.symm]

/-! ## Prepared requests -/

/-- What a request carries under each name: the last value that its builder holds, or else the last
default, or else the offer of codings under the name that is meant for it. -/
structure Merged (c : Client) (given : Name → List Value) (h : Fields) : Prop where
  own {n : Name} (hn : given n ≠ []) : h.values n = (given n).getLast?.toList
  default {n : Name} (hn : given n = []) (hd : (readDefaults c.config).values n ≠ []) :
    h.values n = ((readDefaults c.config).values n).getLast?.toList
  offered {n : Name} (hn : given n = []) (hd : (readDefaults c.config).values n = []) :
    h.values n = if n = .acceptEncoding then (offer c).toList else []

theorem exists_merged {c : Client} (hd : ∀ d ∈ c.config.defaultHeaders, Readable d.1 d.2)
    (b : RequestBuilder) : ∃ h, b.builtHeaders c = .ok h ∧ Merged c b.headers.values h := by
  have hvalues n : (RequestBuilder.advertise c
      ((Fields.override {} (readDefaults c.config)).override b.headers)).values n =
      if n = .acceptEncoding then
        overlay (overlay (b.headers.values n).getLast?.toList
          ((readDefaults c.config).values n).getLast?.toList) (offer c).toList
      else overlay (b.headers.values n).getLast?.toList
        ((readDefaults c.config).values n).getLast?.toList := by
    rw [values_advertise, values_override, values_override]
    simp only [Fields.values, List.filter_nil, List.map_nil, overlay_nil]
  have hlast {vs : List Value} (hv : vs ≠ []) : vs.getLast?.toList ≠ [] := by simpa using hv
  refine ⟨_, by rw [RequestBuilder.builtHeaders, defaultFields_eq hd]; rfl, ?_⟩
  constructor
  · intro n hn
    rw [hvalues, overlay_of_ne_nil (hlast hn), overlay_of_ne_nil (hlast hn), ite_self]
  · intro n hn hd
    rw [hvalues, hn]
    simp only [List.getLast?_nil, Option.toList_none, nil_overlay]
    rw [overlay_of_ne_nil (hlast hd), ite_self]
  · intro n hn hd
    rw [hvalues, hn, hd]
    rfl

theorem prepare_of_built {c : Client} {b : RequestBuilder} {url : Url} {h : Fields}
    (hb : b.error = none) (hu : b.builtUrl c.config = .ok url) (hh : b.builtHeaders c = .ok h) :
    ∃ p, b.prepare c = .ok p ∧ p.headers = h := by
  simp only [RequestBuilder.prepare, hb, hu, hh]
  exact ⟨_, rfl, rfl⟩

theorem exists_prepared {c : Client} {b : RequestBuilder} {calls : List HeaderCall} {url : Url}
    (hb : b.error = none) (hu : b.builtUrl c.config = .ok url)
    (hd : ∀ d ∈ c.config.defaultHeaders, Readable d.1 d.2)
    (hc : ∀ call ∈ calls, call.IsValid) :
    ∃ p, (calls.foldl HeaderCall.make b).prepare c = .ok p ∧
      Merged c (held b.headers calls) p.headers := by
  obtain ⟨given, hmade, hgiven⟩ := foldl_make_eq hc b
  obtain ⟨h, hbuilt, hmerged⟩ := exists_merged hd { b with headers := given }
  obtain ⟨p, hp, rfl⟩ := prepare_of_built (b := { b with headers := given }) hb hu hbuilt
  exact ⟨p, hmade ▸ hp, funext hgiven ▸ hmerged⟩

/-- The last value is all of the values exactly if there is one of them. -/
theorem getLast?_toList_eq_iff {vs : List Value} (hv : vs ≠ []) :
    vs.getLast?.toList = vs ↔ vs.length = 1 := by
  cases vs with
  | nil => exact absurd rfl hv
  | cons v vs => cases vs <;> simp [List.getLast?_cons]

/-- However many calls give headers to a request, it carries one value under each name that its
builder holds: the last one, and no default beside it. So the values that a name has in the builder
are all kept exactly if there is one of them. Under any other name there is the last default, and
nothing is added to these but the offer of codings, if nobody says what is accepted. -/
theorem one_value_kept {c : Client} {b : RequestBuilder} {calls : List HeaderCall} {url : Url}
    (hb : b.error = none) (hu : b.builtUrl c.config = .ok url)
    (hd : ∀ d ∈ c.config.defaultHeaders, Readable d.1 d.2)
    (hc : ∀ call ∈ calls, call.IsValid) :
    ∃ p, (calls.foldl HeaderCall.make b).prepare c = .ok p ∧
      Merged c (held b.headers calls) p.headers ∧
      ∀ n, held b.headers calls n ≠ [] →
        (p.headers.values n = held b.headers calls n ↔ (held b.headers calls n).length = 1) := by
  obtain ⟨p, hp, hmerged⟩ := exists_prepared hb hu hd hc
  refine ⟨p, hp, hmerged, fun n hn => ?_⟩
  rw [hmerged.own hn]
  exact getLast?_toList_eq_iff hn

/-! ## Two cookies -/

def cookie : Name := ⟨"cookie"⟩

def shop : Client where
  config := { defaultHeaders := [("X-Team", "sales"), ("Cookie", "c=0"), ("x-team", "search")] }
  transport _ _ := .hang

def browse : RequestBuilder := { method := .get, url := "http://localhost/" }

theorem browse_url : ∃ url, browse.builtUrl shop.config = .ok url := by
  have hok : (browse.builtUrl shop.config).isOk = true := by decide +kernel
  cases hu : browse.builtUrl shop.config with
  | ok url => exact ⟨url, rfl⟩
  | error e =>
    rw [hu] at hok
    cases hok

theorem shop_readable : ∀ d ∈ shop.config.defaultHeaders, Readable d.1 d.2 := by decide +kernel

def twoCookies : HeaderCall := .all ⟨[(cookie, { text := "a=1" }), (cookie, { text := "b=2" })]⟩

/-- Of two cookies one is left, the default one is not, and of two defaults the last one counts. -/
theorem browse_one_value_kept :
    held {} [twoCookies] cookie = [{ text := "a=1" }, { text := "b=2" }] ∧
      ∃ p, ([twoCookies].foldl HeaderCall.make browse).prepare shop = .ok p ∧
        p.headers.values cookie = [{ text := "b=2" }] ∧
        p.headers.values ⟨"x-team"⟩ = [{ text := "search" }] := by
  obtain ⟨url, hu⟩ := browse_url
  have hcookies : held {} [twoCookies] cookie = [{ text := "a=1" }, { text := "b=2" }] := by
    decide +kernel
  have hne : held {} [twoCookies] cookie ≠ [] := hcookies ▸ List.cons_ne_nil _ _
  have hteam : held {} [twoCookies] ⟨"x-team"⟩ = [] := by decide +kernel
  have hdefaults : (readDefaults shop.config).values ⟨"x-team"⟩ =
      [{ text := "sales" }, { text := "search" }] := by decide +kernel
  have hvalid : ∀ call ∈ [twoCookies], call.IsValid := List.forall_mem_singleton.mpr trivial
  obtain ⟨p, hp, hm, -⟩ := one_value_kept rfl hu shop_readable hvalid
  refine ⟨hcookies, p, hp, ?_, ?_⟩
  · exact (hm.own hne).trans (congrArg (fun vs => vs.getLast?.toList) hcookies)
  · rw [hm.default hteam (hdefaults ▸ List.cons_ne_nil _ _), hdefaults]
    rfl

/-- All values that a builder holds under a name are carried. -/
def LosesNothing : Prop :=
  ∀ c b calls p, b.error = none → (∀ d ∈ c.config.defaultHeaders, Readable d.1 d.2) →
    (∀ call ∈ calls, HeaderCall.IsValid call) →
    (calls.foldl HeaderCall.make b).prepare c = .ok p →
    ∀ n, held b.headers calls n ≠ [] → p.headers.values n = held b.headers calls n

/-- Of two cookies that a single call gives, the first one is lost. -/
theorem twoCookies_not_losesNothing : ¬ LosesNothing := by
  intro h
  obtain ⟨url, hu⟩ := browse_url
  have hvalid : ∀ call ∈ [twoCookies], call.IsValid := List.forall_mem_singleton.mpr trivial
  have hcookies : held browse.headers [twoCookies] cookie =
      [{ text := "a=1" }, { text := "b=2" }] := by decide +kernel
  have hne : held browse.headers [twoCookies] cookie ≠ [] := hcookies ▸ List.cons_ne_nil _ _
  obtain ⟨p, hp, hm⟩ := exists_prepared rfl hu shop_readable hvalid
  have hall := h shop browse [twoCookies] p rfl shop_readable hvalid hp cookie hne
  rw [hm.own hne, hcookies] at hall
  exact absurd (congrArg List.length hall) (by decide)

end ResilientHttp.HeaderMerge
