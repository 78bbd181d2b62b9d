import ResilientHttp.Proofs.CodecSelection
import ResilientHttp.Send

/-!
# Requests that are never sent

A call on a builder that fails is remembered, and the calls behind it go on as if nothing had
happened. Sending gives what the first failing call failed with. If there is none, it gives what is
wrong with the URL, and if nothing is, what is wrong with the first default header that is not
valid. Whichever it is, the world is left as it was.
-/
namespace ResilientHttp.DeferredErrors
open Header CodecSelection

inductive Call
  | header (name value : String)
  | headers (more : Fields)
  | queries (pairs : List (String × String))
  | body (content : RequestBody)
  | text (s : String)
  | encode (contentType : String) (value : Writable)
  | json (value : Writable)
  | xml (value : Writable)
  | form (value : Writable)
  | bearer (secret : String)
  | basic (username : String) (password : Option String)
  | allowGetPayload (allow : Bool)
  | allowDeletePayload (allow : Bool)
  | timeout (d : Span)
  | deadlineAfter (now : Instant) (d : Span)
  | deadlineAt (deadline : Instant)
  | token (t : CancelToken)
  | retry (choice : RetryChoice)
  | allowNonIdempotentRetry
  | trace (enable : Bool)

namespace Call

def make (codecs : Codecs) (b : RequestBuilder) : Call → RequestBuilder
  | header name value => b.header name value
  | headers more => b.withHeaders more
  | queries pairs => b.queries pairs
  | body content => b.withBody content
  | text s => b.text s
  | encode contentType value => b.encode codecs contentType value
  | json value => b.json codecs value
  | xml value => b.xml codecs value
  | form value => b.form value
  | bearer secret => b.bearer secret
  | basic username password => b.basic username password
  | allowGetPayload allow => { b with allowGetPayload := allow }
  | allowDeletePayload allow => { b with allowDeletePayload := allow }
  | timeout d => { b with timeout := some d }
  | deadlineAfter now d => b.deadlineAfter now d
  | deadlineAt deadline => { b with deadline := some deadline }
  | token t => { b with token := some t }
  | retry choice => { b with retry := choice }
  | allowNonIdempotentRetry => { b with allowNonIdempotentRetry := true }
  | trace enable => { b with trace := some enable }

/-- The header that a call gives as two texts. -/
def line? : Call → Option (String × String)
  | header name value => some (name, value)
  | bearer secret => some ("authorization", "Bearer " ++ secret)
  | _ => none

/-- What a call has to be written by a codec, and the content type that selects it. -/
def writing? : Call → Option (String × Writable)
  | encode contentType value => some (contentType, value)
  | json value => some ("application/json", value)
  | xml value => some ("application/xml", value)
  | _ => none

/-- The same call with another body, if it gives one as it is. -/
def withBody (f : RequestBody → RequestBody) : Call → Call
  | body content => body (f content)
  | call => call

end Call

/-! ## What fails, and how -/

/-- A text can stand in a header. -/
def IsWritable (s : String) : Prop := ∀ ch ∈ s.toList, isValueChar ch = true

/-- What is wrong with a header given as two texts. -/
inductive LineFault (name value : String) : Error → Prop
  | name (h : isName name = false) : LineFault name value (.requestBuild Fault.name.message)
  | value (hn : isName name = true) (h : ¬ IsWritable value) :
      LineFault name value (.requestBuild Fault.value.message)

/-- What keeps a value from being written under a content type. -/
inductive WritingFault (codecs : Codecs) (contentType : String) (value : Writable) : Error → Prop
  | unsound (h : ¬ IsWritable contentType ∨ MediaType.normalize? contentType = none) :
      WritingFault codecs contentType value (.invalidMediaType contentType)
  | unknown {m : String} (hw : IsWritable contentType)
      (hm : MediaType.normalize? contentType = some m) (hj : ¬ IsJson m) (hx : ¬ IsXml m)
      (hf : codecs.encoders.lookup m = none) :
      WritingFault codecs contentType value (.codecNotFound m)
  | json {m message : String} (hw : IsWritable contentType)
      (hm : MediaType.normalize? contentType = some m) (hj : IsJson m)
      (h : value.json = .error message) :
      WritingFault codecs contentType value (.encode message)
  | xml {m message : String} (hw : IsWritable contentType)
      (hm : MediaType.normalize? contentType = some m) (hx : IsXml m)
      (h : value.xml = .error message) :
      WritingFault codecs contentType value (.encode message)
  | tree {m message : String} {f : Encode} (hw : IsWritable contentType)
      (hm : MediaType.normalize? contentType = some m) (hj : ¬ IsJson m) (hx : ¬ IsXml m)
      (hf : codecs.encoders.lookup m = some f) (h : value.tree = .error message) :
      WritingFault codecs contentType value (.encode message)
  | encoder {m : String} {f : Encode} {j : Json} {e : Error} (hw : IsWritable contentType)
      (hm : MediaType.normalize? contentType = some m) (hj : ¬ IsJson m) (hx : ¬ IsXml m)
      (hf : codecs.encoders.lookup m = some f) (ht : value.tree = .ok j) (h : f j = .error e) :
      WritingFault codecs contentType value e

inductive Fails (codecs : Codecs) : Call → Error → Prop
  | line {call : Call} {name value : String} {e : Error} (hc : call.line? = some (name, value))
      (h : LineFault name value e) : Fails codecs call e
  | writing {call : Call} {contentType : String} {value : Writable} {e : Error}
      (hc : call.writing? = some (contentType, value))
      (h : WritingFault codecs contentType value e) : Fails codecs call e
  | form {value : Writable} {message : String} (h : value.form = .error message) :
      Fails codecs (.form value) (.encode message)

/-- What is wrong with a URL or the base that it is relative to. -/
inductive UrlFault (config : Config) (url : String) : Error → Prop
  | alone {f : Url.Fault} (hb : config.baseUrl = none) (h : Url.parse url = .error f) :
      UrlFault config url (.invalidUrl f.message)
  | base {base : String} {f : Url.Fault} (hb : config.baseUrl = some base)
      (h : Url.parse base = .error f) : UrlFault config url (.invalidUrl f.message)
  | joined {base : String} {u : Url} {f : Url.Fault} (hb : config.baseUrl = some base)
      (hu : Url.parse base = .ok u) (h : u.join url = .error f) :
      UrlFault config url (.invalidUrl f.message)

/-- The error with which a request is refused before it is sent. -/
inductive Refused (c : Client) (url : String) (calls : List Call) : Error → Prop
  | call {pre post : List Call} {call : Call} {e : Error} (hc : calls = pre ++ call :: post)
      (hpre : ∀ call ∈ pre, ∀ e, ¬ Fails c.codecs call e) (h : Fails c.codecs call e) :
      Refused c url calls e
  | url {e : Error} (hcalls : ∀ call ∈ calls, ∀ e, ¬ Fails c.codecs call e)
      (h : UrlFault c.config url e) : Refused c url calls e
  | default {pre post : List (String × String)} {d : String × String} {e : Error}
      (hcalls : ∀ call ∈ calls, ∀ e, ¬ Fails c.codecs call e)
      (hurl : ∀ e, ¬ UrlFault c.config url e)
      (hd : c.config.defaultHeaders = pre ++ d :: post)
      (hpre : ∀ d ∈ pre, ∀ e, ¬ LineFault d.1 d.2 e) (h : LineFault d.1 d.2 e) :
      Refused c url calls e

/-! ## Credentials -/

/-- User names and passwords are written in digits, which can stand in a header. -/
theorem isValueChar_encodeBytes (bytes : List UInt8) :
    ∀ ch ∈ Base64.encodeBytes bytes, isValueChar ch = true := by
  have hall : ('=' :: Base64.alphabet).all isValueChar = true := by decide +kernel
  have hdigits : ∀ ch ∈ '=' :: Base64.alphabet, isValueChar ch = true := List.all_eq_true.mp hall
  have hpad : isValueChar '=' = true := hdigits '=' List.mem_cons_self
  have hdigit (n : Nat) : isValueChar (Base64.digit n) = true := by
    rw [Base64.digit, List.getD_eq_getElem?_getD]
    cases h : Base64.alphabet[n]? with
    | none => exact hpad
    | some ch => exact hdigits ch (List.mem_cons_of_mem _ (List.mem_of_getElem? h))
  induction bytes using Base64.encodeBytes.induct with
  | case1 => simp [Base64.encodeBytes]
  | case2 a => simp [Base64.encodeBytes, hdigit, hpad]
  | case3 a b => simp [Base64.encodeBytes, hdigit, hpad]
  | case4 a b c rest ih => simpa [Base64.encodeBytes, hdigit] using ih

theorem isWritable_iff (s : String) : IsWritable s ↔ s.toList.all isValueChar = true :=
  List.all_eq_true.symm

theorem parse?_of_isWritable {s : String} (h : IsWritable s) :
    Value.parse? s = some { text := s } := by
  rw [Value.parse?, if_pos ((isWritable_iff s).mp h)]

theorem parse?_of_not_isWritable {s : String} (h : ¬ IsWritable s) : Value.parse? s = none := by
  rw [Value.parse?, if_neg (mt (isWritable_iff s).mpr h)]

theorem exists_basicValue (username password : String) :
    ∃ v, Credentials.basicValue username password = .ok v := by
  have hscheme : IsWritable "Basic " := (isWritable_iff _).mpr (by decide +kernel)
  have hw : IsWritable
      ("Basic " ++ Base64.encode (username ++ ":" ++ password).toUTF8) := by
    intro ch hch
    rw [String.toList_append, List.mem_append] at hch
    rcases hch with hch | hch
    · exact hscheme ch hch
    · rw [Base64.encode, String.toList_ofList] at hch
      exact isValueChar_encodeBytes _ ch hch
  rw [Credentials.basicValue, Credentials.secret, parse?_of_isWritable hw]
  exact ⟨_, rfl⟩

/-! ## One call -/

def lineFailure? (name value : String) : Option Error :=
  match Header.parse name value with
  | .ok _ => none
  | .error f => some (.requestBuild f.message)

def writingFailure? (codecs : Codecs) (contentType : String) (value : Writable) : Option Error :=
  match Value.parse? contentType with
  | none => some (.invalidMediaType contentType)
  | some _ =>
    match codecs.encode contentType value with
    | .ok _ => none
    | .error e => some e

def Call.failure? (codecs : Codecs) : Call → Option Error
  | header name value => lineFailure? name value
  | bearer secret => lineFailure? "authorization" ("Bearer " ++ secret)
  | encode contentType value => writingFailure? codecs contentType value
  | json value => writingFailure? codecs "application/json" value
  | xml value => writingFailure? codecs "application/xml" value
  | form value =>
    match value.form with
    | .ok _ => none
    | .error message => some (.encode message)
  | _ => none

section
variable {name value : String} {e : Error}

theorem parse_of_isName (h : isName name = true) : ∃ n, Name.parse? name = some n := by
  rw [Name.parse?, if_pos h]
  exact ⟨_, rfl⟩

theorem LineFault.failure? (h : LineFault name value e) : lineFailure? name value = some e := by
  cases h with
  | name hn =>
    have hparse : Name.parse? name = none := by simp [Name.parse?, hn]
    simp only [lineFailure?, Header.parse, hparse]
  | value hn hw =>
    obtain ⟨n, hparse⟩ := parse_of_isName hn
    simp only [lineFailure?, Header.parse, hparse, parse?_of_not_isWritable hw]

theorem lineFault_of_failure? (h : lineFailure? name value = some e) : LineFault name value e := by
  cases hn : isName name with
  | false =>
    cases (LineFault.name hn).failure?.symm.trans h
    exact .name hn
  | true =>
    by_cases hw : IsWritable value
    · obtain ⟨n, hparse⟩ := parse_of_isName hn
      simp only [lineFailure?, Header.parse, hparse, parse?_of_isWritable hw] at h
      cases h
    · cases (LineFault.value hn hw).failure?.symm.trans h
      exact .value hn hw

theorem lineFailure?_eq_some_iff : lineFailure? name value = some e ↔ LineFault name value e :=
  ⟨lineFault_of_failure?, LineFault.failure?⟩

end

section
variable {codecs : Codecs} {contentType : String} {value : Writable} {e : Error}

/-- Under a content type that can stand in a header, the codecs say what is wrong. -/
theorem writingFailure?_of_isWritable (hw : IsWritable contentType) :
    writingFailure? codecs contentType value = some e ↔
      codecs.encode contentType value = .error e := by
  simp only [writingFailure?, parse?_of_isWritable hw]
  cases codecs.encode contentType value <;> simp

theorem WritingFault.encode (hw : IsWritable contentType)
    (h : WritingFault codecs contentType value e) :
    codecs.encode contentType value = .error e := by
  rw [encode_eq, chosen, Codecs.normalize]
  cases h with
  | unsound h =>
    rw [h.resolve_left (not_not_intro hw)]
    rfl
  | unknown _ hm hj hx hf =>
    simp only [hm, Except.bind, builtIn?_of_not hj hx, hf]
  | json _ hm hj h =>
    simp only [hm, Except.bind, builtIn?_of_isJson hj, h]
    rfl
  | xml _ hm hx h =>
    simp only [hm, Except.bind, builtIn?_of_isXml hx, h]
    rfl
  | tree _ hm hj hx hf h =>
    simp only [hm, Except.bind, builtIn?_of_not hj hx, hf, h]
    rfl
  | encoder _ hm hj hx hf ht h =>
    simp only [hm, Except.bind, builtIn?_of_not hj hx, hf, ht]
    exact h

theorem written_error {r : Except String String} (h : Written r (.error e)) :
    ∃ message, r = .error message ∧ e = .encode message := by
  cases h with
  | failed message => exact ⟨message, rfl, rfl⟩

theorem writtenBy_error {f : Encode} {r : Except String Json} {x : Except Error ByteArray}
    (h : WrittenBy f r x) (he : x = .error e) :
    (∃ message, r = .error message ∧ e = .encode message) ∨ ∃ j, r = .ok j ∧ f j = .error e := by
  cases h with
  | given j => exact .inr ⟨j, rfl, he⟩
  | failed message =>
    cases he
    exact .inl ⟨message, rfl, rfl⟩

theorem writingFault_of_encode (hw : IsWritable contentType)
    (h : codecs.encode contentType value = .error e) :
    WritingFault codecs contentType value e := by
  have hselected := encode_selected (c := codecs) (fun _ => rfl) contentType value
  generalize told codecs.encoders contentType = told at hselected
  generalize codecs.encode contentType value = x at hselected h
  cases hselected with
  | unsound hm =>
    cases h
    exact .unsound (.inr hm)
  | json hm hj hwritten =>
    obtain ⟨message, hfailed, rfl⟩ := written_error (h ▸ hwritten)
    exact .json hw hm hj hfailed
  | xml hm hx hwritten =>
    obtain ⟨message, hfailed, rfl⟩ := written_error (h ▸ hwritten)
    exact .xml hw hm hx hfailed
  | registered hm hj hx hf hwritten =>
    rcases writtenBy_error hwritten h with ⟨message, ht, rfl⟩ | ⟨j, ht, hfailed⟩
    · exact .tree hw hm hj hx hf ht
    · exact .encoder hw hm hj hx hf ht hfailed
  | unknown hm hj hx hf =>
    cases h
    exact .unknown hw hm hj hx hf

theorem writingFailure?_eq_some_iff :
    writingFailure? codecs contentType value = some e ↔
      WritingFault codecs contentType value e := by
  by_cases hw : IsWritable contentType
  · rw [writingFailure?_of_isWritable hw]
    exact ⟨writingFault_of_encode hw, WritingFault.encode hw⟩
  · simp only [writingFailure?, parse?_of_not_isWritable hw, Option.some.injEq]
    constructor
    · rintro rfl
      exact .unsound (.inl hw)
    · intro h
      cases h with
      | unsound => rfl
      | unknown hw' | json hw' | xml hw' | tree hw' | encoder hw' => exact absurd hw' hw

end

section
variable {codecs : Codecs} {call : Call} {e : Error}

theorem fails_of_failure? (h : call.failure? codecs = some e) : Fails codecs call e := by
  cases call with
  | header | bearer => exact .line rfl (lineFailure?_eq_some_iff.mp h)
  | encode | json | xml => exact .writing rfl (writingFailure?_eq_some_iff.mp h)
  | form value =>
    rw [Call.failure?] at h
    cases hf : value.form with
    | ok s =>
      rw [hf] at h
      cases h
    | error f =>
      rw [hf] at h
      cases h
      exact .form hf
  | _ => cases h

theorem Fails.failure? (h : Fails codecs call e) : call.failure? codecs = some e := by
  cases h with
  | line hc h =>
    have hfailure := lineFailure?_eq_some_iff.mpr h
    cases call with
    | header | bearer =>
      cases hc
      exact hfailure
    | _ => cases hc
  | writing hc h =>
    have hfailure := writingFailure?_eq_some_iff.mpr h
    cases call with
    | encode | json | xml =>
      cases hc
      exact hfailure
    | _ => cases hc
  | form h => simp only [Call.failure?, h]

theorem failure?_eq_some_iff : call.failure? codecs = some e ↔ Fails codecs call e :=
  ⟨fails_of_failure?, Fails.failure?⟩

theorem failure?_eq_none_iff : call.failure? codecs = none ↔ ∀ e, ¬ Fails codecs call e := by
  simp only [Option.eq_none_iff_forall_ne_some, ne_eq, failure?_eq_some_iff]

end

/-! ## All calls -/

section
variable (codecs : Codecs) (b : RequestBuilder)

theorem fail_error (e : Error) : (b.fail e).error = b.error.or (some e) := by
  cases hb : b.error <;> simp only [RequestBuilder.fail, hb] <;> rfl

theorem header_keeps (name value : String) : (b.header name value).url = b.url ∧
    (b.header name value).error = b.error.or (lineFailure? name value) := by
  simp only [RequestBuilder.header, lineFailure?]
  cases Header.parse name value with
  | ok y => exact ⟨rfl, Option.or_none.symm⟩
  | error f => exact ⟨rfl, fail_error b _⟩

theorem encode_keeps (contentType : String) (value : Writable) :
    (b.encode codecs contentType value).url = b.url ∧
    (b.encode codecs contentType value).error =
      b.error.or (writingFailure? codecs contentType value) := by
  simp only [RequestBuilder.encode, writingFailure?]
  cases Value.parse? contentType with
  | none => exact ⟨rfl, fail_error b _⟩
  | some v =>
    cases codecs.encode contentType value with
    | ok bytes => exact ⟨rfl, Option.or_none.symm⟩
    | error e => exact ⟨rfl, fail_error b _⟩

theorem form_keeps (value : Writable) : (b.form value).url = b.url ∧
    (b.form value).error = b.error.or ((Call.form value).failure? codecs) := by
  simp only [RequestBuilder.form, Call.failure?]
  cases value.form with
  | ok s => exact ⟨rfl, Option.or_none.symm⟩
  | error f => exact ⟨rfl, fail_error b _⟩

theorem basic_keeps (username : String) (password : Option String) :
    (b.basic username password).url = b.url ∧ (b.basic username password).error = b.error := by
  obtain ⟨v, hv⟩ := exists_basicValue username (password.getD "")
  simp only [RequestBuilder.basic, hv]
  exact ⟨rfl, rfl⟩

/-- A call leaves the URL alone, and a failure that is remembered as well. Its own failure is
remembered if there was none before. -/
theorem make_keeps (call : Call) : (call.make codecs b).url = b.url ∧
    (call.make codecs b).error = b.error.or (call.failure? codecs) := by
  cases call with
  | header name value => exact header_keeps b name value
  | bearer secret => exact header_keeps b "authorization" ("Bearer " ++ secret)
  | encode contentType value => exact encode_keeps codecs b contentType value
  | json value => exact encode_keeps codecs b "application/json" value
  | xml value => exact encode_keeps codecs b "application/xml" value
  | form value => exact form_keeps codecs b value
  | basic username password =>
    obtain ⟨hurl, herror⟩ := basic_keeps b username password
    exact ⟨hurl, herror.trans Option.or_none.symm⟩
  | _ => exact ⟨rfl, Option.or_none.symm⟩

theorem foldl_make_keeps (calls : List Call) :
    (calls.foldl (Call.make codecs) b).url = b.url ∧
    (calls.foldl (Call.make codecs) b).error =
      b.error.or (calls.findSome? (Call.failure? codecs)) := by
  induction calls generalizing b with
  | nil => exact ⟨rfl, Option.or_none.symm⟩
  | cons call calls ih =>
    obtain ⟨hurl, herror⟩ := make_keeps codecs b call
    obtain ⟨hurl', herror'⟩ := ih (call.make codecs b)
    refine ⟨hurl'.trans hurl, herror'.trans ?_⟩
    rw [herror, Option.or_assoc, List.findSome?_cons]
    cases call.failure? codecs <;> rfl

end

/-! ## The URL and the defaults -/

section
variable {config : Config} {b : RequestBuilder} {e : Error}

theorem UrlFault.builtUrl (h : UrlFault config b.url e) : b.builtUrl config = .error e := by
  cases h with
  | alone hb h => simp only [RequestBuilder.builtUrl, hb, h]
  | base hb h => simp only [RequestBuilder.builtUrl, hb, h, Except.bind]
  | joined hb hu h => simp only [RequestBuilder.builtUrl, hb, hu, Except.bind, h]

theorem urlFault_of_builtUrl (h : b.builtUrl config = .error e) : UrlFault config b.url e := by
  simp only [RequestBuilder.builtUrl] at h
  split at h
  · cases h
  · rename_i f hf
    cases h
    cases hb : config.baseUrl with
    | none =>
      rw [hb] at hf
      exact .alone hb hf
    | some base =>
      rw [hb] at hf
      cases hu : Url.parse base with
      | error f' =>
        simp only [hu, Except.bind] at hf
        cases hf
        exact .base hb hu
      | ok u =>
        simp only [hu, Except.bind] at hf
        exact .joined hb hu hf

/-- Reading the defaults fails as the first one fails that is not valid. -/
theorem defaultFields_eq_error_iff : RequestBuilder.defaultFields config = .error e ↔
    config.defaultHeaders.findSome? (fun d => lineFailure? d.1 d.2) = some e := by
  simp only [RequestBuilder.defaultFields]
  generalize config.defaultHeaders = ds
  generalize ({} : Fields) = acc
  induction ds generalizing acc with
  | nil => exact iff_of_false nofun nofun
  | cons d ds ih =>
    rw [List.foldlM_cons, List.findSome?_cons, lineFailure?]
    cases Header.parse d.1 d.2 with
    | ok y => exact ih (acc.insert y.1 y.2)
    | error f =>
      constructor
      · intro h
        cases h
        rfl
      · intro h
        cases h
        rfl

theorem builtHeaders_eq_error_iff {c : Client} : b.builtHeaders c = .error e ↔
    RequestBuilder.defaultFields c.config = .error e := by
  rw [RequestBuilder.builtHeaders]
  cases RequestBuilder.defaultFields c.config <;> simp [Except.map]

end

/-! ## Sending -/

def made (c : Client) (method : Method) (url : String) (calls : List Call) : RequestBuilder :=
  calls.foldl (Call.make c.codecs) { method, url }

section
variable {c : Client} {method : Method} {url : String} {calls : List Call} {e : Error}

theorem made_url : (made c method url calls).url = url :=
  (foldl_make_keeps c.codecs { method, url } calls).1

theorem made_error :
    (made c method url calls).error = calls.findSome? (Call.failure? c.codecs) :=
  (foldl_make_keeps c.codecs { method, url } calls).2

theorem findSome?_failure?_eq_some_iff : calls.findSome? (Call.failure? c.codecs) = some e ↔
    ∃ pre call post, calls = pre ++ call :: post ∧ Fails c.codecs call e ∧
      ∀ call ∈ pre, ∀ e, ¬ Fails c.codecs call e := by
  simp only [List.findSome?_eq_some_iff, failure?_eq_some_iff, failure?_eq_none_iff]

theorem findSome?_failure?_eq_none_iff : calls.findSome? (Call.failure? c.codecs) = none ↔
    ∀ call ∈ calls, ∀ e, ¬ Fails c.codecs call e := by
  simp only [List.findSome?_eq_none_iff, failure?_eq_none_iff]

theorem findSome?_lineFailure?_eq_some_iff {ds : List (String × String)} :
    ds.findSome? (fun d => lineFailure? d.1 d.2) = some e ↔
      ∃ pre d post, ds = pre ++ d :: post ∧ LineFault d.1 d.2 e ∧
        ∀ d ∈ pre, ∀ e, ¬ LineFault d.1 d.2 e := by
  simp only [List.findSome?_eq_some_iff, lineFailure?_eq_some_iff,
    Option.eq_none_iff_forall_ne_some, ne_eq]

theorem made_builtUrl_eq_error_iff :
    (made c method url calls).builtUrl c.config = .error e ↔ UrlFault c.config url e := by
  constructor
  · intro h
    have hfault := urlFault_of_builtUrl h
    rw [made_url] at hfault
    exact hfault
  · intro h
    refine UrlFault.builtUrl ?_
    rw [made_url]
    exact h

theorem Refused.prepare (h : Refused c url calls e) :
    (made c method url calls).prepare c = .error e := by
  cases h with
  | call hc hpre h =>
    have hfirst := findSome?_failure?_eq_some_iff.mpr ⟨_, _, _, hc, h, hpre⟩
    simp only [RequestBuilder.prepare, made_error, hfirst]
  | url hcalls h =>
    have hnone := findSome?_failure?_eq_none_iff.mpr hcalls
    have hurl : (made c method url calls).builtUrl c.config = .error e :=
      made_builtUrl_eq_error_iff.mpr h
    simp only [RequestBuilder.prepare, made_error, hnone, hurl]
    rfl
  | default hcalls hurl hd hpre h =>
    have hnone := findSome?_failure?_eq_none_iff.mpr hcalls
    have hheaders : (made c method url calls).builtHeaders c = .error e := by
      rw [builtHeaders_eq_error_iff, defaultFields_eq_error_iff,
        findSome?_lineFailure?_eq_some_iff]
      exact ⟨_, _, _, hd, h, hpre⟩
    simp only [RequestBuilder.prepare, made_error, hnone, hheaders]
    cases hu : (made c method url calls).builtUrl c.config with
    | error e' => exact absurd (made_builtUrl_eq_error_iff.mp hu) (hurl e')
    | ok u => rfl

theorem refused_of_prepare (h : (made c method url calls).prepare c = .error e) :
    Refused c url calls e := by
  simp only [RequestBuilder.prepare, made_error] at h
  cases hcalls : calls.findSome? (Call.failure? c.codecs) with
  | some e' =>
    rw [hcalls] at h
    cases h
    obtain ⟨pre, call, post, hc, hfails, hpre⟩ := findSome?_failure?_eq_some_iff.mp hcalls
    exact .call hc hpre hfails
  | none =>
    have hnone := findSome?_failure?_eq_none_iff.mp hcalls
    rw [hcalls] at h
    cases hu : (made c method url calls).builtUrl c.config with
    | error e' =>
      rw [hu] at h
      cases h
      exact .url hnone (made_builtUrl_eq_error_iff.mp hu)
    | ok u =>
      have hurl : ∀ e, ¬ UrlFault c.config url e := by
        intro e hfault
        cases (made_builtUrl_eq_error_iff.mpr hfault).symm.trans hu
      rw [hu] at h
      cases hh : (made c method url calls).builtHeaders c with
      | ok headers =>
        rw [hh] at h
        cases h
      | error e' =>
        rw [hh] at h
        cases h
        rw [builtHeaders_eq_error_iff, defaultFields_eq_error_iff,
          findSome?_lineFailure?_eq_some_iff] at hh
        obtain ⟨pre, d, post, hd, hfault, hpre⟩ := hh
        exact .default hnone hurl hd hpre hfault

theorem fails_withBody_iff {codecs : Codecs} {call : Call} (f : RequestBody → RequestBody) :
    Fails codecs (call.withBody f) e ↔ Fails codecs call e := by
  have hfailure : (call.withBody f).failure? codecs = call.failure? codecs := by
    cases call <;> rfl
  rw [← failure?_eq_some_iff, hfailure, failure?_eq_some_iff]

/-- The bodies that calls give as they are play no part. -/
theorem Refused.withBody (h : Refused c url calls e) (f : RequestBody → RequestBody) :
    Refused c url (calls.map (Call.withBody f)) e := by
  have hsound (calls : List Call) (hcalls : ∀ call ∈ calls, ∀ e, ¬ Fails c.codecs call e) :
      ∀ call ∈ calls.map (Call.withBody f), ∀ e, ¬ Fails c.codecs call e := by
    refine List.forall_mem_map.mpr fun call hcall e => ?_
    rw [fails_withBody_iff]
    exact hcalls call hcall e
  cases h with
  | @call pre post call _ hc hpre h =>
    have hcalls : calls.map (Call.withBody f) =
        pre.map (Call.withBody f) ++ call.withBody f :: post.map (Call.withBody f) := by
      rw [hc, List.map_append, List.map_cons]
    exact .call hcalls (hsound pre hpre) ((fails_withBody_iff f).mpr h)
  | url hcalls h => exact .url (hsound calls hcalls) h
  | default hcalls hurl hd hpre h => exact .default (hsound calls hcalls) hurl hd hpre h

theorem send_of_error {b : RequestBuilder} (h : b.prepare c = .error e) (w : World) :
    c.send b w = .ok (.error e, w) := by
  simp only [Client.send, h]
  rfl

end

/-- A request is refused for the first call that fails, or else for its URL, or else for the first
default that is not valid, and for nothing else. Sending it then gives just this error and leaves
the world as it was, whatever the bodies would give if they were opened. -/
theorem first_failure_returned (c : Client) (method : Method) (url : String) (calls : List Call) :
    (∀ e, (made c method url calls).prepare c = .error e ↔ Refused c url calls e) ∧
    (∀ e, Refused c url calls e → ∀ w : World,
      c.send (made c method url calls) w = .ok (.error e, w) ∧
      ∀ f, c.send (made c method url (calls.map (Call.withBody f))) w = .ok (.error e, w)) ∧
    ((∀ e, ¬ Refused c url calls e) → ∃ p, (made c method url calls).prepare c = .ok p ∧
      ∀ w, c.send (made c method url calls) w = c.execute p w) := by
  refine ⟨fun e => ⟨refused_of_prepare, Refused.prepare⟩, ?_, ?_⟩
  · intro e h w
    constructor
    · exact send_of_error h.prepare w
    · intro f
      exact send_of_error (h.withBody f).prepare w
  · intro h
    cases hp : (made c method url calls).prepare c with
    | error e => exact absurd (refused_of_prepare hp) (h e)
    | ok p =>
      refine ⟨p, rfl, fun w => ?_⟩
      simp only [Client.send, hp]

/-! ## An office -/

def office : Client where
  config := { defaultHeaders := [("X-Team", "sales"), ("X Site", "north")] }
  transport _ _ := .hang
  hooks := [.refuseErrors]

/-- A value that has no form at all. -/
def unwritable : Writable where
  json := .error "key must be a string"
  xml := .error "unsupported value: cannot serialize map without defined root tag"
  tree := .error "key must be a string"
  form := .error "unsupported value"

/-- A good call, three that are not, and good ones again. -/
def garbled : List Call :=
  [.text "a", .json unwritable, .bearer "two\nlines", .header "bad name" "x", .trace true,
    .header "X-Ok" "fine"]

theorem text_sound : ∀ call ∈ [Call.text "a"], ∀ e, ¬ Fails office.codecs call e := by
  intro call hcall
  rw [← failure?_eq_none_iff]
  cases List.mem_singleton.mp hcall
  rfl

theorem garbled_refused :
    Refused office "no url" garbled (.encode "key must be a string") := by
  have hjson : Fails office.codecs (.json unwritable) (.encode "key must be a string") := by
    have hw : IsWritable "application/json" := (isWritable_iff _).mpr (by decide +kernel)
    have hm : MediaType.normalize? "application/json" = some "application/json" := by
      decide +kernel
    exact .writing rfl (.json hw hm (.inl rfl) rfl)
  have hcalls : garbled = [.text "a"] ++ .json unwritable ::
      [.bearer "two\nlines", .header "bad name" "x", .trace true, .header "X-Ok" "fine"] := rfl
  exact .call hcalls text_sound hjson

theorem text_refused :
    Refused office "http://localhost/" [.text "a"] (.requestBuild "invalid HTTP header name") := by
  have hurl : ∀ e, ¬ UrlFault office.config "http://localhost/" e := by
    intro e h
    cases h with
    | alone hb h =>
      have hok : (Url.parse "http://localhost/").isOk = true := by decide +kernel
      rw [h] at hok
      cases hok
    | base hb h | joined hb h => cases hb
  have hteam : ∀ d ∈ [("X-Team", "sales")], ∀ e, ¬ LineFault d.1 d.2 e := by
    intro d hd e
    rw [← lineFailure?_eq_some_iff]
    cases List.mem_singleton.mp hd
    have hnone : lineFailure? "X-Team" "sales" = none := by decide +kernel
    rw [hnone]
    exact nofun
  have hsite : LineFault "X Site" "north" (.requestBuild "invalid HTTP header name") :=
    .name (by decide +kernel)
  have hdefaults : office.config.defaultHeaders =
      [("X-Team", "sales")] ++ ("X Site", "north") :: [] := rfl
  exact .default text_sound hurl hdefaults hteam hsite

/-- The second call decides, though the URL is wrong as well, and a valid request fails for the
second default. -/
theorem garbled_first_failure :
    office.send (made office .get "no url" garbled) {} =
      .ok (.error (.encode "key must be a string"), {}) ∧
    office.send (made office .get "http://localhost/" [.text "a"]) {} =
      .ok (.error (.requestBuild "invalid HTTP header name"), {}) := by
  constructor
  · obtain ⟨-, hsent, -⟩ := first_failure_returned office .get "no url" garbled
    exact (hsent _ garbled_refused {}).1
  · obtain ⟨-, hsent, -⟩ := first_failure_returned office .get "http://localhost/" [.text "a"]
    exact (hsent _ text_refused {}).1

end ResilientHttp.DeferredErrors
