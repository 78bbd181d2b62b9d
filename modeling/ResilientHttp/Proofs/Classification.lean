import Mathlib.Data.List.Infix
import ResilientHttp.Retry

/-!
# What a URL does to the kind of a failure

The kind of a failure is told from words in its text, and the text holds the URL. The words keep off
the signs that stand between the parts of the text, so a word is in the text only if it is in one of
the parts; but the URL is such a part. A failure has one of seven kinds, and they are tried in an
order; what a URL mentions moves a failure to the front of this order, and nothing else.
-/
namespace ResilientHttp.Classification

def lower (s : String) : List Char := s.toList.map Char.toLower

def words : List String :=
  ["certificate", "unknownissuer", "scheme", "invalid header", "header value"]

theorem occursIn_iff {α : Type} [BEq α] [LawfulBEq α] (w l : List α) :
    Text.occursIn w l = true ↔ w <:+: l := by
  induction l with
  | nil => simp [Text.occursIn]
  | cons c l ih =>
    rw [Text.occursIn, Bool.or_eq_true, List.isPrefixOf_iff_prefix, ih, List.infix_cons_iff]

theorem mentions_iff (text w : String) :
    Failure.mentions text w = true ↔ lower w <:+: lower text := occursIn_iff _ _

theorem lower_append (s t : String) : lower (s ++ t) = lower s ++ lower t := by
  simp [lower]

/-! ## Words and signs -/

/-- No part of a word reaches into a sign, and no sign stands inside a word. -/
def KeepsOff (w sign : List Char) : Prop :=
  ¬ w <:+: sign ∧ ¬ sign <:+: w ∧
    (∀ p ∈ w.inits, p <:+ sign → p = []) ∧ ∀ q ∈ w.tails, q <+: sign → q = []

instance (w sign : List Char) : Decidable (KeepsOff w sign) :=
  inferInstanceAs (Decidable (_ ∧ _ ∧ _ ∧ _))

/-- A word stands on one side of a sign or on the other. -/
theorem infix_around_iff {w sign : List Char} (h : KeepsOff w sign) (xs ys : List Char) :
    w <:+: xs ++ (sign ++ ys) ↔ w <:+: xs ∨ w <:+: ys := by
  obtain ⟨hoff, hin, hbefore, hbehind⟩ := h
  constructor
  · intro hw
    rcases List.infix_append_iff.mp hw with hw | hw | ⟨p, q, rfl, hp, hq⟩
    · exact .inl hw
    · rcases List.infix_append_iff.mp hw with hw | hw | ⟨p, q, rfl, hp, hq⟩
      · exact absurd hw hoff
      · exact .inr hw
      · have hnil := hbefore p ((List.mem_inits _ _).mpr (List.prefix_append p q)) hp
        exact .inr (by simpa [hnil] using hq.isInfix)
    · have hsuffix := List.suffix_append p q
      rcases List.prefix_or_prefix_of_prefix hq (List.prefix_append sign ys) with hq | hq
      · have hnil := hbehind q ((List.mem_tails _ _).mpr hsuffix) hq
        exact .inl (by simpa [hnil] using hp.isInfix)
      · exact absurd (hq.isInfix.trans hsuffix.isInfix) hin
  · rintro (hw | hw)
    · exact hw.trans (List.prefix_append _ _).isInfix
    · exact hw.trans ((List.suffix_append _ _).trans (List.suffix_append _ _)).isInfix

theorem words_keepOff : ∀ w ∈ words, ∀ sign ∈ [": ", " for url (", ")"],
    KeepsOff (lower w) (lower sign) := by decide +kernel

/-! ## The parts of the text -/

section
variable {w : String} (hw : w ∈ words)
include hw

theorem mentions_append (s t : String) {sign : String} (hsign : sign ∈ [": ", " for url (", ")"]) :
    Failure.mentions (s ++ sign ++ t) w = (Failure.mentions s w || Failure.mentions t w) := by
  rw [Bool.eq_iff_iff, Bool.or_eq_true, mentions_iff, mentions_iff, mentions_iff,
    lower_append, lower_append, List.append_assoc]
  exact infix_around_iff (words_keepOff w hw sign hsign) _ _

theorem mentions_empty : Failure.mentions "" w = false := by
  rw [Bool.eq_false_iff, ne_eq, mentions_iff]
  intro h
  exact (words_keepOff w hw ": " (by simp)).1 (h.trans List.nil_infix)

theorem mentions_intercalate (head : String) (causes : List String) :
    Failure.mentions (": ".intercalate (head :: causes)) w =
      (Failure.mentions head w || causes.any (Failure.mentions · w)) := by
  induction causes generalizing head with
  | nil => simp
  | cons cause causes ih =>
    rw [String.intercalate_cons_cons, mentions_append hw _ _ (by simp), ih, List.any_cons]

theorem mentions_text (f : Failure) :
    Failure.mentions f.text w = (Failure.mentions f.summary w ||
      f.url.any (Failure.mentions · w) || f.causes.any (Failure.mentions · w)) := by
  rw [Failure.text, mentions_intercalate hw]
  congr 1
  cases f.url with
  | none => simp
  | some url =>
    have hhead : f.summary ++ ((some url).map fun u => s!" for url ({u})").getD "" =
        f.summary ++ " for url (" ++ (url ++ ")" ++ "") := by
      simp only [Option.map_some, Option.getD_some, String.append_assoc, String.append_empty]
      rfl
    rw [hhead, mentions_append hw _ _ (by simp), mentions_append hw _ _ (by simp),
      mentions_empty hw, Bool.or_false]
    rfl

end

/-! ## Kinds -/

/-- The place of a kind in the order in which the kinds are tried. -/
def rank : TransportError → Nat
  | .certificate _ => 0
  | .redirect _ => 1
  | .unsupportedScheme _ => 2
  | .invalidHeader _ => 3
  | .timeout _ => 4
  | .connect _ => 5
  | .other .. => 6

def place (certificate scheme header : Bool) : Nat :=
  if certificate then 0 else if scheme then 2 else if header then 3 else 6

/-- The place that the words in a text stand for. -/
def rankOf (text : String) : Nat :=
  place (Failure.mentions text "certificate" || Failure.mentions text "unknownissuer")
    (Failure.mentions text "scheme")
    (Failure.mentions text "invalid header" || Failure.mentions text "header value")

def flagged (f : Failure) : Nat :=
  if f.isRedirect then 1 else if f.isTimeout then 4 else if f.isConnect then 5 else 6

theorem place_or (a b c a' b' c' : Bool) :
    place (a || a') (b || b') (c || c') = min (place a b c) (place a' b' c') := by
  revert a b c a' b' c'
  decide

/-- The words come first, except that a redirect goes before all but certificates. -/
theorem rank_classify (f : Failure) : rank f.classify = min (rankOf f.text) (flagged f) := by
  simp only [Failure.classify, rankOf, flagged]
  generalize (Failure.mentions f.text "certificate" || Failure.mentions f.text "unknownissuer") = a
  generalize Failure.mentions f.text "scheme" = b
  generalize (Failure.mentions f.text "invalid header" ||
    Failure.mentions f.text "header value") = c
  cases a
  case true => simp [rank, place]
  case false =>
    cases f.isRedirect
    case true => cases b <;> cases c <;> rfl
    case false => cases b <;> cases c <;> cases f.isTimeout <;> cases f.isConnect <;> rfl

theorem rankOf_or {t s s' : String} (h : ∀ w ∈ words, Failure.mentions t w =
    (Failure.mentions s w || Failure.mentions s' w)) : rankOf t = min (rankOf s) (rankOf s') := by
  simp only [words, List.forall_mem_cons] at h
  obtain ⟨hcertificate, hissuer, hscheme, hinvalid, hvalue, -⟩ := h
  rw [rankOf, rankOf, rankOf, ← place_or, hcertificate, hissuer, hscheme, hinvalid, hvalue]
  congr 1 <;> ac_rfl

def Quiet (text : String) : Prop := ∀ w ∈ words, Failure.mentions text w = false

instance (text : String) : Decidable (Quiet text) :=
  inferInstanceAs (Decidable (∀ w ∈ words, _))

theorem rankOf_of_quiet {text : String} (h : Quiet text) : rankOf text = 6 := by
  simp only [Quiet, words, List.forall_mem_cons] at h
  obtain ⟨hcertificate, hissuer, hscheme, hinvalid, hvalue, -⟩ := h
  rw [rankOf, hcertificate, hissuer, hscheme, hinvalid, hvalue]
  rfl

theorem rankOf_of_not_quiet {text : String} (h : ¬ Quiet text) : rankOf text ≤ 3 := by
  simp only [Quiet, words, List.forall_mem_cons, List.not_mem_nil] at h
  simp only [rankOf, place]
  split
  · decide
  · split
    · decide
    · split
      · decide
      · simp_all

/-! ## With a URL and without -/

def carrying (f : Failure) (url : String) : Failure := { f with url := some url }

def bare (f : Failure) : Failure := { f with url := none }

theorem mentions_carrying {w : String} (hw : w ∈ words) (f : Failure) (url : String) :
    Failure.mentions (carrying f url).text w =
      (Failure.mentions (bare f).text w || Failure.mentions url w) := by
  rw [mentions_text hw, mentions_text hw]
  simp only [carrying, bare, Option.any_some, Option.any_none, Bool.or_false]
  ac_rfl

theorem rank_carrying (f : Failure) (url : String) :
    rank (carrying f url).classify = min (rank (bare f).classify) (rankOf url) := by
  have hwords := rankOf_or fun w hw => mentions_carrying hw f url
  have hflags : flagged (carrying f url) = flagged (bare f) := rfl
  rw [rank_classify, rank_classify, hwords, hflags]
  omega

theorem quiet_bare {f : Failure} (h : ∀ part ∈ f.summary :: f.causes, Quiet part) :
    Quiet (bare f).text := by
  intro w hw
  rw [mentions_text hw]
  simp only [bare, Option.any_none, Bool.or_false, Bool.or_eq_false_iff, List.any_eq_false]
  refine ⟨h _ List.mem_cons_self w hw, fun cause hcause => ?_⟩
  rw [h cause (List.mem_cons_of_mem _ hcause) w hw]
  decide

theorem verdict_of_rank {e : TransportError} (h : rank e < 6) :
    Verdict.ofError (.transport e) = if rank e < 4 then .never else .retry := by
  cases e with
  | other => exact absurd h (Nat.lt_irrefl 6)
  | _ => rfl

/-- A URL puts a failure at the place of what it mentions, unless it stands before that. So a
request that times out or whose connection is refused is tried again if its URL mentions none of the
words, and never if it does. -/
theorem url_moves_kind (f : Failure) (url : String) :
    rank (carrying f url).classify = min (rank (bare f).classify) (rankOf url) ∧
    (∀ other, rankOf other = rankOf url →
      rank (carrying f other).classify = rank (carrying f url).classify) ∧
    ((∀ part ∈ f.summary :: f.causes, Quiet part) → f.isRedirect = false →
      (f.isTimeout || f.isConnect) = true →
      rank (carrying f url).classify =
        (if Quiet url then if f.isTimeout then 4 else 5 else rankOf url) ∧
      Verdict.ofError (.transport (carrying f url).classify) =
        if Quiet url then .retry else .never) := by
  have hmove := rank_carrying f url
  refine ⟨hmove, fun other h => ?_, fun hquiet hredirect htransient => ?_⟩
  · rw [hmove, rank_carrying, h]
  · have hbare : rank (bare f).classify = if f.isTimeout then 4 else 5 := by
      rw [rank_classify, rankOf_of_quiet (quiet_bare hquiet)]
      simp only [flagged, bare, hredirect]
      cases ht : f.isTimeout
      · rw [ht, Bool.false_or] at htransient
        simp [htransient]
      · simp
    have hlate : 4 ≤ rank (bare f).classify ∧ rank (bare f).classify < 6 := by
      rw [hbare]
      split <;> decide
    rw [verdict_of_rank (by omega), ← hbare]
    by_cases hurl : Quiet url
    · have hsix := rankOf_of_quiet hurl
      rw [if_pos hurl, if_pos hurl, if_neg (by omega)]
      exact ⟨by omega, rfl⟩
    · have hthree := rankOf_of_not_quiet hurl
      rw [if_neg hurl, if_neg hurl, if_pos (by omega)]
      exact ⟨by omega, rfl⟩

theorem refused_never_retried :
    Verdict.ofError (.transport (Failure.refused "http://127.0.0.1:1/").classify) = .retry ∧
    Verdict.ofError (.transport (Failure.refused "http://127.0.0.1:1/my-scheme").classify) =
      .never := by
  have hquiet : ∀ part ∈ (Failure.refused "").summary :: (Failure.refused "").causes,
      Quiet part := by decide +kernel
  have hwords : Quiet "http://127.0.0.1:1/" ∧ ¬ Quiet "http://127.0.0.1:1/my-scheme" := by
    decide +kernel
  have hplain := ((url_moves_kind (Failure.refused "") "http://127.0.0.1:1/").2.2 hquiet rfl rfl).2
  have hscheme :=
    ((url_moves_kind (Failure.refused "") "http://127.0.0.1:1/my-scheme").2.2 hquiet rfl rfl).2
  rw [if_pos hwords.1] at hplain
  rw [if_neg hwords.2] at hscheme
  exact ⟨hplain, hscheme⟩

/-- The kind of a failure does not depend on its URL. -/
def IgnoresUrl : Prop :=
  ∀ f url other, rank (carrying f url).classify = rank (carrying f other).classify

/-- A refused connection is taken for a scheme that is not supported, for the sake of its path. -/
theorem refused_not_ignoresUrl : ¬ IgnoresUrl := by
  intro h
  have hkind := h (Failure.refused "") "http://127.0.0.1:1/" "http://127.0.0.1:1/my-scheme"
  revert hkind
  decide +kernel

end ResilientHttp.Classification
