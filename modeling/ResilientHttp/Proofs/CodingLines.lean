import ResilientHttp.Proofs.Decompression
import ResilientHttp.Proofs.Trimming

/-!
# Codings that are told in several lines

Several header lines of one name stand for one list, the one that they make when they are joined
with commas. Decompression reads the first line of the codings and takes them all away. So what was
sent is undone for sure only if the lines behind the first one list nothing but identities.
-/
namespace ResilientHttp.CodingLines
open Compression Decompression Header Trimming

/-! ## The codings of a line -/

/-- What stands between the commas, without the blanks around it; an identity changes nothing. -/
def listed (cs : List Char) : List String :=
  let keys := (Text.pieces (· = ',') cs).map fun piece => String.ofList (Text.trimChars piece)
  keys.filter fun key => key ≠ "" ∧ key ≠ "identity"

def codings (text : String) : List String := listed text.toList

section
variable {α : Type} {p : α → Bool}

theorem pieces_append_cons {c : α} (hc : p c = true) (as bs : List α) :
    Text.pieces p (as ++ c :: bs) = Text.pieces p as ++ Text.pieces p bs := by
  induction as with
  | nil => simp [Text.pieces, hc]
  | cons a as ih =>
    rw [List.cons_append, Text.pieces, Text.pieces, ih]
    cases hp : Text.pieces p as with
    | nil => exact absurd hp (Text.pieces_ne_nil p as)
    | cons piece rest => cases p a <;> rfl

theorem pieces_cons {c : α} (hc : p c = false) (cs : List α) :
    ∃ piece rest, Text.pieces p cs = piece :: rest ∧
      Text.pieces p (c :: cs) = (c :: piece) :: rest := by
  cases hp : Text.pieces p cs with
  | nil => exact absurd hp (Text.pieces_ne_nil p cs)
  | cons piece rest => exact ⟨piece, rest, rfl, by simp [Text.pieces, hc, hp]⟩

theorem pieces_concat {c : α} (hc : p c = false) (cs : List α) :
    ∃ pieces last, Text.pieces p cs = pieces ++ [last] ∧
      Text.pieces p (cs ++ [c]) = pieces ++ [last ++ [c]] := by
  induction cs with
  | nil => exact ⟨[], [], rfl, by simp [Text.pieces, hc]⟩
  | cons a as ih =>
    obtain ⟨pieces, last, has, hc'⟩ := ih
    rw [List.cons_append, Text.pieces, Text.pieces, has, hc']
    cases p a with
    | true => exact ⟨[] :: pieces, last, rfl, rfl⟩
    | false =>
      cases pieces with
      | nil => exact ⟨[], a :: last, rfl, rfl⟩
      | cons piece pieces => exact ⟨(a :: piece) :: pieces, last, rfl, rfl⟩

end

theorem comma_of_isBlank {c : Char} (h : Text.isBlank c = true) : decide (c = ',') = false := by
  refine decide_eq_false fun hc => ?_
  subst hc
  exact absurd h (by decide)

theorem listed_append_comma (as bs : List Char) :
    listed (as ++ ',' :: bs) = listed as ++ listed bs := by
  simp [listed, pieces_append_cons]

theorem listed_cons {c : Char} (h : Text.isBlank c = true) (cs : List Char) :
    listed (c :: cs) = listed cs := by
  obtain ⟨piece, rest, hcs, hc⟩ := pieces_cons (p := (· = ',')) (comma_of_isBlank h) cs
  simp only [listed, hcs, hc, List.map_cons, trimChars_cons h]

theorem listed_concat {c : Char} (h : Text.isBlank c = true) (cs : List Char) :
    listed (cs ++ [c]) = listed cs := by
  obtain ⟨pieces, last, hcs, hc⟩ := pieces_concat (p := (· = ',')) (comma_of_isBlank h) cs
  simp only [listed, hcs, hc, List.map_append, List.map_cons, List.map_nil, trimChars_concat h]

theorem listed_trimStart (cs : List Char) : listed (Text.trimStart cs) = listed cs := by
  induction cs with
  | nil => rfl
  | cons c cs ih =>
    rw [Text.trimStart, List.dropWhile_cons]
    split
    · rename_i h
      rw [listed_cons h]
      exact ih
    · rfl

theorem listed_trimEnd (cs : List Char) : listed (Text.trimEnd cs) = listed cs := by
  induction cs using List.reverseRecOn with
  | nil => rfl
  | append_singleton cs c ih =>
    rw [Text.trimEnd, List.reverse_append, List.reverse_singleton, List.singleton_append,
      List.dropWhile_cons]
    split
    · rename_i h
      rw [listed_concat h]
      exact ih
    · rw [List.reverse_cons, List.reverse_reverse]

@[simp] theorem codings_trim (text : String) : codings (Text.trim text) = codings text := by
  rw [codings, codings, Text.trim, String.toList_ofList, Text.trimChars, listed_trimEnd,
    listed_trimStart]

theorem codings_join (lines : List String) :
    codings (", ".intercalate lines) = lines.flatMap codings := by
  induction lines with
  | nil => rfl
  | cons line lines ih =>
    cases lines with
    | nil => simp
    | cons next lines =>
      have hsep (s t : String) : (s ++ ", " ++ t).toList = s.toList ++ ',' :: ' ' :: t.toList := by
        simp
      rw [String.intercalate_cons_cons, codings, hsep, listed_append_comma, listed_cons (by decide),
        List.flatMap_cons, ← ih]
      rfl

theorem codings_of_isPlain {v : Value} (h : IsPlain v) : codings v.text = [] := by
  rw [← codings_trim]
  rcases h with h | h <;> rw [h] <;> decide +kernel

/-! ## What is undone -/

/-- The codings of a reply, all of its lines taken together. -/
def sent (reply : Reply) : List String :=
  codings (", ".intercalate ((reply.headers.values .contentEncoding).map Value.text))

/-- Nothing was to be undone, or everything was: the body went through the decompressor that stands
for the whole list. -/
def Undone (registry : Registry) (reply : Reply) (r : Response) : Prop :=
  (sent reply = [] ∧ r.body = some reply.body) ∨
    ∃ key f plain, codings key = sent reply ∧ registry.find? key = some f ∧
      f reply.body = .ok plain ∧ r.body = some plain

section
variable {reply : Reply} {first : Value} {later : List Value} {registry : Registry} {r : Response}

theorem sent_eq (h : reply.headers.values .contentEncoding = first :: later) :
    sent reply = codings first.text ++ later.flatMap fun v => codings v.text := by
  rw [sent, codings_join, h, List.map_cons, List.flatMap_cons, List.flatMap_map]

theorem decompress_of_isPlain (h : reply.headers.get? .contentEncoding = some first)
    (hp : IsPlain first) :
    (Response.ofReply reply).decompress registry = .ok (.ofReply reply) := by
  refine decompress_plain (fun v hv => ?_) registry
  cases h.symm.trans hv
  exact hp

/-- A reply passes as it is, or it goes through the decompressor for its first line. -/
theorem decompress_cases (h : reply.headers.values .contentEncoding = first :: later)
    (hr : (Response.ofReply reply).decompress registry = .ok r) :
    (IsPlain first ∧ r = .ofReply reply) ∨
      ∃ f plain, ¬ IsPlain first ∧ registry.find? first.text = some f ∧
        f reply.body = .ok plain ∧ r.body = some plain ∧
        r.headers.values .contentEncoding = [] := by
  have hget : reply.headers.get? .contentEncoding = some first := congrArg List.head? h
  by_cases hp : IsPlain first
  · rw [decompress_of_isPlain hget hp] at hr
    cases hr
    exact .inl ⟨hp, rfl⟩
  · rw [decompress_coded (r := .ofReply reply) hget hp rfl] at hr
    cases hf : registry.entries.lookup (Text.trim first.text) with
    | none =>
      rw [hf] at hr
      cases hr
    | some f =>
      rw [hf] at hr
      dsimp only at hr
      cases hb : f reply.body with
      | error e =>
        rw [hb] at hr
        cases hr
      | ok plain =>
        rw [hb] at hr
        cases hr
        exact .inr ⟨f, plain, hp, hf, hb, rfl, values_uncoded _ _⟩

/-- Whatever is registered, a reply is undone as a whole if only its first line lists codings. -/
theorem undone_of_later (h : reply.headers.values .contentEncoding = first :: later)
    (hl : (later.flatMap fun v => codings v.text) = [])
    (hr : (Response.ofReply reply).decompress registry = .ok r) : Undone registry reply r := by
  have hsent : sent reply = codings first.text := by rw [sent_eq h, hl, List.append_nil]
  rcases decompress_cases h hr with ⟨hp, rfl⟩ | ⟨f, plain, -, hf, hb, hbody, -⟩
  · exact .inl ⟨hsent.trans (codings_of_isPlain hp), rfl⟩
  · exact .inr ⟨first.text, f, plain, hsent.symm, hf, hb, hbody⟩

/-- A registry that knows one coding only, which changes nothing. -/
def knowing (first : Value) : Registry := Registry.register {} first.text .ok

theorem find?_knowing {key : String} {f : Decompress}
    (h : (knowing first).find? key = some f) : codings key = codings first.text := by
  have hkey : Text.trim first.text = Text.trim key := by
    by_contra hne
    rw [knowing, Registry.find?, lookup_register, if_neg hne] at h
    cases h
  rw [← codings_trim key, ← hkey, codings_trim]

theorem exists_decompress_knowing (h : reply.headers.values .contentEncoding = first :: later) :
    ∃ r, (Response.ofReply reply).decompress (knowing first) = .ok r := by
  have hget : reply.headers.get? .contentEncoding = some first := congrArg List.head? h
  by_cases hp : IsPlain first
  · exact ⟨_, decompress_of_isPlain hget hp⟩
  · have hlookup : (knowing first).entries.lookup (Text.trim first.text) = some .ok := by
      rw [knowing, lookup_register, if_pos rfl]
    rw [decompress_coded (r := .ofReply reply) hget hp rfl, hlookup]
    exact ⟨_, rfl⟩

/-- Nothing is undone as a whole if a later line lists a coding and the first line is all that is
known. -/
theorem not_undone_knowing (h : reply.headers.values .contentEncoding = first :: later)
    (hl : (later.flatMap fun v => codings v.text) ≠ []) : ¬ Undone (knowing first) reply r := by
  have hsent := sent_eq h
  rintro (⟨hs, -⟩ | ⟨key, f, plain, hkey, hf, -⟩)
  · exact hl (List.append_eq_nil_iff.mp (hsent.symm.trans hs)).2
  · rw [find?_knowing hf, hsent] at hkey
    exact hl (List.append_right_eq_self.mp hkey.symm)

/-- Of several lines only the first one has a say: the reply passes as it is if that line lists no
coding, and otherwise its body goes through the decompressor for that line and all lines go. So
everything that was sent is undone, whatever is registered, exactly if the later lines list
nothing. -/
theorem undone_iff_later (h : reply.headers.values .contentEncoding = first :: later) :
    (∀ registry r, (Response.ofReply reply).decompress registry = .ok r →
      (IsPlain first ∧ r = .ofReply reply) ∨
        ∃ f plain, ¬ IsPlain first ∧ registry.find? first.text = some f ∧
          f reply.body = .ok plain ∧ r.body = some plain ∧
          r.headers.values .contentEncoding = []) ∧
    ((∀ registry r, (Response.ofReply reply).decompress registry = .ok r →
      Undone registry reply r) ↔ (later.flatMap fun v => codings v.text) = []) := by
  refine ⟨fun registry r hr => decompress_cases h hr, fun hall => ?_, fun hl registry r hr =>
    undone_of_later h hl hr⟩
  by_contra hl
  obtain ⟨r, hr⟩ := exists_decompress_knowing h
  exact not_undone_knowing h hl (hall _ r hr)

end

/-! ## Two lines -/

def twoLines (first second : String) : Reply where
  headers := ⟨[(.contentEncoding, { text := first }), (.contentEncoding, { text := second })]⟩

/-- Two codings were sent, one of them is undone, and no line tells of the other any more. -/
theorem gzip_br_not_undone : ∃ registry r,
    (Response.ofReply (twoLines "gzip" "br")).decompress registry = .ok r ∧
      ¬ Undone registry (twoLines "gzip" "br") r ∧ r.headers.values .contentEncoding = [] := by
  have hlines : (twoLines "gzip" "br").headers.values .contentEncoding =
      [{ text := "gzip" }, { text := "br" }] := rfl
  have hlater : ([{ text := "br" }].flatMap fun v : Value => codings v.text) ≠ [] := by
    decide +kernel
  obtain ⟨hcases, hall⟩ := undone_iff_later hlines
  have hnot := mt hall.mp hlater
  push Not at hnot
  obtain ⟨registry, r, hr, hu⟩ := hnot
  rcases hcases registry r hr with ⟨hp, -⟩ | ⟨f, plain, -, -, -, -, hgone⟩
  · exact absurd hp (by decide +kernel)
  · exact ⟨registry, r, hr, hu, hgone⟩

/-- No coding that is told in one of several lines is passed over. -/
def PassesNothingOver : Prop :=
  ∀ registry reply r, 1 < (reply.headers.values .contentEncoding).length →
    (Response.ofReply reply).decompress registry = .ok r → Undone registry reply r

/-- Behind an identity a coding is passed over. -/
theorem identity_gzip_not_passesNothingOver : ¬ PassesNothingOver := by
  intro h
  have hsent : sent (twoLines "identity" "gzip") = ["gzip"] := by decide +kernel
  have hidentity : IsPlain { text := "identity" } := by decide +kernel
  have hpassed : (Response.ofReply (twoLines "identity" "gzip")).decompress {} =
      .ok (.ofReply (twoLines "identity" "gzip")) := decompress_of_isPlain rfl hidentity
  have htwo : 1 < ((twoLines "identity" "gzip").headers.values .contentEncoding).length := by
    decide +kernel
  rcases h _ _ _ htwo hpassed with ⟨hs, -⟩ | ⟨key, f, plain, -, hf, -⟩
  · rw [hsent] at hs
    cases hs
  · cases hf

end ResilientHttp.CodingLines
