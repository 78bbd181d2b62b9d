import ResilientHttp.Proofs.Chunking
import ResilientHttp.Proofs.CodecSelection

/-!
# A body is received once

There are six ways to read a response. Five of them ask for the body at once; decoding asks for it
only if the content type has a codec. Whoever asks first receives the body and nobody else does,
whatever becomes of it afterwards. Whoever reads it to the end gets all of it or its first failure.
-/
namespace ResilientHttp.BodyReading
open Chunking CodecSelection

/-- A way to read a response. Decoding uses the codecs that there are at that moment. -/
inductive Access
  | stream
  | bytes
  | text
  | json (goal : Payload.Goal)
  | xml (goal : Payload.Goal)
  | decode (codecs : Codecs) (goal : Payload.Goal)

inductive Answer
  | stream (s : ByteStream)
  | bytes (b : ByteArray)
  | text (s : String)
  | payload (v : Payload)

def answered {α : Type} (f : α → Answer) (x : Reading α) : Reading Answer :=
  { result := x.result.map f, passed := x.passed, rest := x.rest }

def access (r : Response) : Access → Reading Answer
  | .stream => answered .stream r.takeBody
  | .bytes => answered .bytes r.bytes
  | .text => answered .text r.text
  | .json goal => answered .payload (r.json goal)
  | .xml goal => answered .payload (r.xml goal)
  | .decode codecs goal => answered .payload (r.decode codecs goal)

def afterwards (r : Response) (earlier : List Access) : Response :=
  earlier.foldl (fun r a => (access r a).rest) r

/-- Decoding is refused: there is no content type, or it is none, or there is no codec for it. -/
inductive Refused : (contentType : Option String) → Access → Error → Prop
  | untyped {codecs : Codecs} {goal : Payload.Goal} :
      Refused none (.decode codecs goal) (.invalidMediaType "")
  | unsound {codecs : Codecs} {goal : Payload.Goal} {contentType : String}
      (h : MediaType.normalize? contentType = none) :
      Refused (some contentType) (.decode codecs goal) (.invalidMediaType contentType)
  | unknown {codecs : Codecs} {goal : Payload.Goal} {contentType m : String}
      (h : MediaType.normalize? contentType = some m) (hj : ¬ IsJson m) (hx : ¬ IsXml m)
      (hd : codecs.decoders.lookup m = none) :
      Refused (some contentType) (.decode codecs goal) (.codecNotFound m)

/-- The body of a response with some content type is asked for. -/
def Asks (contentType : Option String) (a : Access) : Prop := ∀ e, ¬ Refused contentType a e

/-! ## The whole of a body -/

def chunks (s : ByteStream) : List ByteArray :=
  s.filterMap fun
    | .chunk b => some b
    | _ => none

def failures (s : ByteStream) : List StreamError :=
  s.filterMap fun
    | .failed e => some e
    | _ => none

/-- All chunks in one piece if the body has no failure anywhere, or else the first failure. -/
def whole (s : ByteStream) : Except Error ByteArray :=
  match failures s with
  | [] => .ok ((chunks s).foldr (· ++ ·) ByteArray.empty)
  | e :: _ => .error (.stream e)

theorem whole_chunk (b : ByteArray) (s : ByteStream) :
    whole (.chunk b :: s) = (whole s).map (b ++ ·) := by
  have hf : failures (.chunk b :: s) = failures s := rfl
  simp only [whole, hf]
  cases failures s <;> rfl

theorem readAll_whole (s : ByteStream) : s.readAll.mapError Error.stream = whole s := by
  induction s with
  | nil => rfl
  | cons e s ih =>
    cases e with
    | failed x => rfl
    | chunk b =>
      rw [readAll_cons rfl, whole_chunk, ← ih]
      cases ByteStream.readAll s <;> rfl
    | taken n =>
      have haside : ByteStream.readAll (.taken n :: s) = ByteStream.readAll s :=
        (readAll_cons rfl).trans (map_empty_append _)
      exact (congrArg _ haside).trans ih
    | pause d =>
      have haside : ByteStream.readAll (.pause d :: s) = ByteStream.readAll s :=
        (readAll_cons rfl).trans (map_empty_append _)
      exact (congrArg _ haside).trans ih

/-- What is made of a body that was received. -/
def made (r : Response) (s : ByteStream) : Access → Except Error Answer
  | .stream => .ok (.stream s)
  | .bytes => (whole s).map .bytes
  | .text => (whole s).bind fun b =>
      ((Utf8.decode b).mapError fun fault => .decode fault.message).map .text
  | .json goal => (whole s).bind fun b =>
      (Codecs.decoded (Payload.ofJsonBytes? goal b)).map .payload
  | .xml goal => (whole s).bind fun b =>
      (Codecs.decoded (Payload.ofXmlBytes? goal b)).map .payload
  | .decode codecs goal => (whole s).bind fun b =>
      (codecs.decode (r.contentType?.getD "") goal b).map .payload

/-- What is passed of a body that was received: a stream is handed on unread, and everybody else
reads on until it ends or fails. -/
def passed (s : ByteStream) : Access → ByteStream
  | .stream => []
  | _ => s.sound

def emptied (r : Response) : Response := { r with body := none }

def taken (r : Response) (a : Access) : Reading Answer :=
  match r.body with
  | none => { result := .error .bodyAlreadyRead, rest := r }
  | some s => { result := made r s a, passed := passed s a, rest := emptied r }

/-! ## One access -/

theorem bytesThen_taken {α : Type} (r : Response) (f : ByteArray → Except Error α)
    (g : α → Answer) :
    answered g (r.bytesThen f) = match r.body with
      | none => { result := .error .bodyAlreadyRead, rest := r }
      | some s =>
        { result := (whole s).bind fun b => (f b).map g
          passed := s.sound
          rest := emptied r } := by
  cases hb : r.body with
  | none =>
    simp only [answered, Response.bytesThen, Response.bytes, hb]
    rfl
  | some s =>
    simp only [answered, Response.bytesThen, Response.bytes, hb, readAll_whole]
    cases whole s <;> rfl

theorem asks_of_ne {contentType : Option String} {a : Access}
    (h : ∀ codecs goal, a ≠ .decode codecs goal) : Asks contentType a := by
  intro e he
  cases he <;> exact h _ _ rfl

/-- What is refused is told not to have a codec. -/
theorem Refused.not_told {codecs : Codecs} {goal : Payload.Goal} {e : Error} {contentType : String}
    (h : Refused (some contentType) (.decode codecs goal) e) :
    codecs.canDecode contentType ≠ .ok true := by
  cases h with
  | unsound h => simp [Codecs.canDecode, Codecs.normalize, h, Except.map]
  | unknown h hj hx hd =>
    simp [Codecs.canDecode, Codecs.normalize, h, Except.map, Codecs.decodes, builtIn?_of_not hj hx,
      hd]

/-- Decoding is refused and leaves everything as it was, or it reads the body. -/
theorem decode_cases (r : Response) (codecs : Codecs) (goal : Payload.Goal) :
    (∃ e, Refused r.contentType? (.decode codecs goal) e ∧
      r.decode codecs goal = { result := .error e, rest := r }) ∨
    Asks r.contentType? (.decode codecs goal) ∧
      r.decode codecs goal = r.bytesThen (codecs.decode (r.contentType?.getD "") goal) := by
  cases hc : r.contentType? with
  | none => exact .inl ⟨_, .untyped, by simp only [Response.decode, hc]⟩
  | some contentType =>
    by_cases htold : codecs.canDecode contentType = .ok true
    · exact .inr ⟨fun e he => he.not_told htold, decode_of_told hc htold⟩
    · left
      rw [decode_of_not_told hc htold ByteArray.empty]
      have hselected :=
        decode_selected (c := codecs) (fun _ => rfl) contentType goal ByteArray.empty
      generalize codecs.canDecode contentType = told at htold hselected
      generalize codecs.decode contentType goal ByteArray.empty = result at hselected ⊢
      cases hselected with
      | unsound h => exact ⟨_, .unsound h, rfl⟩
      | json h hj => exact absurd rfl htold
      | xml h hx => exact absurd rfl htold
      | registered h hj hx hf => exact absurd rfl htold
      | unknown h hj hx hf => exact ⟨_, .unknown h hj hx hf, rfl⟩

theorem access_cases (r : Response) (a : Access) :
    (∃ e, Refused r.contentType? a e ∧ access r a = { result := .error e, rest := r }) ∨
    Asks r.contentType? a ∧ access r a = taken r a := by
  cases a with
  | decode codecs goal =>
    rcases decode_cases r codecs goal with ⟨e, he, hr⟩ | ⟨ha, hr⟩
    · exact .inl ⟨e, he, by rw [access, hr]; rfl⟩
    · refine .inr ⟨ha, ?_⟩
      rw [access, hr, bytesThen_taken]
      rfl
  | stream =>
    refine .inr ⟨asks_of_ne (by simp), ?_⟩
    cases hb : r.body <;> simp only [access, answered, Response.takeBody, taken, hb] <;> rfl
  | bytes =>
    refine .inr ⟨asks_of_ne (by simp), ?_⟩
    cases hb : r.body with
    | none =>
      simp only [access, answered, Response.bytes, taken, hb]
      rfl
    | some s =>
      simp only [access, answered, Response.bytes, taken, hb, readAll_whole]
      rfl
  | text =>
    refine .inr ⟨asks_of_ne (by simp), ?_⟩
    rw [access, Response.text, bytesThen_taken, taken]
    cases r.body with
    | none => rfl
    | some s =>
      simp only [made]
      refine congrArg (Reading.mk · _ _) (congrArg _ (funext fun b => ?_))
      cases Utf8.decode b <;> rfl
  | json goal =>
    refine .inr ⟨asks_of_ne (by simp), ?_⟩
    rw [access, Response.json, bytesThen_taken]
    rfl
  | xml goal =>
    refine .inr ⟨asks_of_ne (by simp), ?_⟩
    rw [access, Response.xml, bytesThen_taken]
    rfl

theorem emptied_of_none {r : Response} (h : r.body = none) : emptied r = r := by
  rw [emptied, ← h]

theorem taken_rest (r : Response) (a : Access) : (taken r a).rest = emptied r := by
  cases hb : r.body with
  | none => simp only [taken, hb, emptied_of_none hb]
  | some s => simp only [taken, hb]

/-! ## One access after the other -/

/-- As long as nobody asks for it the body is there, and then it is gone. -/
theorem afterwards_cases (r : Response) (earlier : List Access) :
    ((∀ b ∈ earlier, ¬ Asks r.contentType? b) ∧ afterwards r earlier = r) ∨
    (∃ b ∈ earlier, Asks r.contentType? b) ∧ afterwards r earlier = emptied r := by
  induction earlier generalizing r with
  | nil => exact .inl ⟨nofun, rfl⟩
  | cons b earlier ih =>
    have hnext : afterwards r (b :: earlier) = afterwards (access r b).rest earlier := rfl
    rw [hnext]
    rcases access_cases r b with ⟨e, he, hr⟩ | ⟨ha, hr⟩
    · rw [hr]
      rcases ih r with ⟨hnone, hrest⟩ | ⟨⟨b', hb', hasks⟩, hrest⟩
      · exact .inl ⟨List.forall_mem_cons.mpr ⟨fun ha => ha e he, hnone⟩, hrest⟩
      · exact .inr ⟨⟨b', List.mem_cons_of_mem b hb', hasks⟩, hrest⟩
    · rw [hr, taken_rest]
      refine .inr ⟨⟨b, List.mem_cons_self, ha⟩, ?_⟩
      rcases ih (emptied r) with ⟨-, hrest⟩ | ⟨-, hrest⟩ <;> exact hrest

/-- What an access comes to after others. -/
inductive Read (r : Response) (earlier : List Access) (a : Access) : Reading Answer → Prop
  | refused {e : Error} (h : Refused r.contentType? a e) :
      Read r earlier a { result := .error e, rest := afterwards r earlier }
  | received {s : ByteStream} (ha : Asks r.contentType? a)
      (hfirst : ∀ b ∈ earlier, ¬ Asks r.contentType? b) (hb : r.body = some s) :
      Read r earlier a { result := made r s a, passed := passed s a, rest := emptied r }
  | late (ha : Asks r.contentType? a)
      (hlate : r.body = none ∨ ∃ b ∈ earlier, Asks r.contentType? b) :
      Read r earlier a { result := .error .bodyAlreadyRead, rest := emptied r }

/-- Of all who read a response, in any ways and any order, the first one who asks for the body
receives it, and whoever asks later comes too late. The body is gone exactly if somebody asked. -/
theorem read_once (r : Response) (earlier : List Access) (a : Access) :
    Read r earlier a (access (afterwards r earlier) a) ∧
      ((afterwards r earlier).isRead = true ↔
        r.isRead = true ∨ ∃ b ∈ earlier, Asks r.contentType? b) := by
  rcases afterwards_cases r earlier with ⟨hnone, hrest⟩ | ⟨hsome, hrest⟩
  · constructor
    · rcases access_cases r a with ⟨e, he, hr⟩ | ⟨ha, hr⟩
      · have hread : Read r earlier a _ := .refused he
        rw [hrest] at hread ⊢
        rwa [hr]
      · rw [hrest, hr]
        cases hb : r.body with
        | none =>
          have hread : Read r earlier a _ := .late ha (.inl hb)
          rw [emptied_of_none hb] at hread
          simpa only [taken, hb] using hread
        | some s =>
          simp only [taken, hb]
          exact .received ha hnone hb
    · rw [hrest]
      exact ⟨.inl, fun h => h.resolve_right fun ⟨b, hb, ha⟩ => hnone b hb ha⟩
  · constructor
    · rcases access_cases (emptied r) a with ⟨e, he, hr⟩ | ⟨ha, hr⟩
      · rw [hrest, hr, ← hrest]
        exact .refused he
      · rw [hrest, hr]
        exact .late ha (.inr hsome)
    · rw [hrest]
      exact iff_of_true rfl (.inr hsome)

end ResilientHttp.BodyReading
