import ResilientHttp.Proofs.TotalWait

/-!
# What a server asks for

The text of a wait is a whole number of seconds or a date. Numbers and dates have no text in common,
so the order in which they are tried does not matter; and a number that fits no signed word of
64 bits is read as neither.
-/
namespace ResilientHttp.AskedWaits
open DateParts Letters MailDates RetryAfter Text TotalWait Trimming

/-! ## Numbers -/

/-- Digits with or without a sign, and the number that they make. -/
inductive Numeral : List Char → Int → Prop
  | plain {ds : List Char} {n : Nat} (h : Digits 1 ds.length ds n) : Numeral ds n
  | plus {ds : List Char} {n : Nat} (h : Digits 1 ds.length ds n) : Numeral ('+' :: ds) n
  | minus {ds : List Char} {n : Nat} (h : Digits 1 ds.length ds n) : Numeral ('-' :: ds) (-n)

def FitsWord (n : Int) : Prop := -2 ^ 63 ≤ n ∧ n < 2 ^ 63

theorem readDigits?_eq_some_iff {cs : List Char} {n : Nat} :
    readDigits? cs = some n ↔ Digits 1 cs.length cs n := by
  simp only [readDigits?, Option.ite_none_right_eq_some, Bool.and_eq_true, Bool.not_eq_true',
    List.isEmpty_eq_false_iff, List.all_eq_true]
  constructor
  · rintro ⟨⟨hne, hdigits⟩, hn⟩
    exact ⟨hdigits, List.length_pos_iff.mpr hne, Nat.le_refl _, Option.some.inj hn⟩
  · rintro ⟨hdigits, hlength, -, hn⟩
    exact ⟨⟨List.length_pos_iff.mp hlength, hdigits⟩, congrArg some hn⟩

theorem numeral_of_readInt? {cs : List Char} {n : Int} (h : readInt? cs = some n) :
    Numeral cs n := by
  simp only [readInt?] at h
  split at h
  all_goals
    obtain ⟨m, hm, rfl⟩ := Option.map_eq_some_iff.mp h
    have hdigits := readDigits?_eq_some_iff.mp hm
  · exact .plus hdigits
  · exact .minus hdigits
  · exact .plain hdigits

theorem readInt?_of_numeral {cs : List Char} {n : Int} (h : Numeral cs n) :
    readInt? cs = some n := by
  cases h with
  | plain h =>
    simp only [readInt?]
    split
    -- A sign is no digit.
    · exact absurd (h.isDigit _ List.mem_cons_self) (by decide)
    · exact absurd (h.isDigit _ List.mem_cons_self) (by decide)
    · rw [readDigits?_eq_some_iff.mpr h]
      rfl
  | plus h | minus h =>
    simp only [readInt?, readDigits?_eq_some_iff.mpr h]
    rfl

theorem readInt64?_eq_some_iff {cs : List Char} {n : Int} :
    readInt64? cs = some n ↔ Numeral cs n ∧ FitsWord n := by
  have hword : (decide (-0x8000000000000000 ≤ n) && decide (n < 0x8000000000000000)) = true ↔
      FitsWord n := by simp [FitsWord]
  rw [readInt64?, Option.filter_eq_some_iff, hword]
  exact and_congr_left' ⟨numeral_of_readInt?, readInt?_of_numeral⟩

theorem Numeral.not_isBlank {cs : List Char} {n : Int} (h : Numeral cs n) :
    ∀ c ∈ cs, isBlank c = false := by
  cases h with
  | plain h => exact fun c hc => not_isBlank_of_isDigit (h.isDigit c hc)
  | plus h | minus h =>
    exact List.forall_mem_cons.mpr
      ⟨by decide, fun c hc => not_isBlank_of_isDigit (h.isDigit c hc)⟩

/-! ## Numbers and dates -/

/-- What the text of a wait asks for, when the clock on the wall tells so many nanoseconds. A date
that has passed asks for no time, a negative number for nothing, and so does all the rest. A leap
second counts unless its time of day is before that of the clock. -/
inductive Asks (wallClock : Int) (cs : List Char) : Option Span → Prop
  | seconds {n : Nat} (h : Numeral cs n) (hn : FitsWord n) :
      Asks wallClock cs (some (Span.ofSeconds n))
  | negative {n : Int} (h : Numeral cs n) (hn : FitsWord n) (hneg : n < 0) : Asks wallClock cs none
  | date {s : Int} {wait : Span} (h : IsDate cs s)
      (hwait : (wait : Int) = max 0 (s * 1000000000 - wallClock)) : Asks wallClock cs (some wait)
  | leapDate {s : Int} {wait : Span} (h : IsLeapDate cs s)
      (hwait : (wait : Int) =
        max 0 ((s + if wallClock / 1000000000 % 86400 ≤ s % 86400 then 1 else 0) * 1000000000 -
          wallClock)) : Asks wallClock cs (some wait)
  | nothing (hn : ∀ n, Numeral cs n → ¬ FitsWord n) (hd : ∀ s, ¬ IsDate cs s)
      (hl : ∀ s, ¬ IsLeapDate cs s) : Asks wallClock cs none

/-- A date has a blank in it, and a number has none. -/
theorem not_numeral_of_written {cs : List Char} {st : MailDate.Stamp} {n : Int}
    (h : Written cs st) : ¬ Numeral cs n := by
  intro hn
  cases h with
  | mk _ _ _ _ hg =>
    obtain ⟨c, hc⟩ := List.exists_mem_of_ne_nil _ hg.2
    have hblank := hg.1 c hc
    rw [hn.not_isBlank c (by simp [hc])] at hblank
    cases hblank

section
variable {wallClock : Int} {value : String} {r : Option Span}

theorem readInt64?_of_written {cs : List Char} {st : MailDate.Stamp} (h : Written cs st) :
    readInt64? cs = none :=
  Option.eq_none_iff_forall_ne_some.mpr fun _ hn =>
    not_numeral_of_written h (readInt64?_eq_some_iff.mp hn).1

/-- A text with a moment is no number, and asks for the time until then. -/
theorem parse?_of_moment? {m : MailDate.Moment}
    (h : MailDate.moment? (trimChars value.toList) = some m) :
    RetryAfter.parse? wallClock value = some (untilMoment wallClock m) := by
  have hnumber : readInt64? (trimChars value.toList) = none := by
    obtain ⟨s, ⟨⟨st, -, hw, -⟩, -⟩ | ⟨⟨st, -, hw, -⟩, -⟩⟩ := moment?_eq_some_iff.mp h
    all_goals exact readInt64?_of_written hw
  simp only [RetryAfter.parse?, hnumber, h, Option.map_some]

theorem asks_parse? (wallClock : Int) (value : String) :
    Asks wallClock (trimChars value.toList) (parse? wallClock value) := by
  simp only [parse?]
  split
  · rename_i n hn
    obtain ⟨hnumeral, hword⟩ := readInt64?_eq_some_iff.mp hn
    split
    · exact .negative hnumeral hword ‹_›
    · lift n to Nat using Int.not_lt.mp ‹_›
      exact .seconds hnumeral hword
  · rename_i hnone
    cases hm : MailDate.moment? (trimChars value.toList) with
    | none =>
      refine .nothing (fun n hn hword => ?_) (fun s hdate => ?_) fun s hleap => ?_
      · rw [readInt64?_eq_some_iff.mpr ⟨hn, hword⟩] at hnone
        cases hnone
      · rw [hdate.moment?] at hm
        cases hm
      · rw [hleap.moment?] at hm
        cases hm
    | some m =>
      obtain ⟨s, ⟨hdate, rfl⟩ | ⟨hleap, rfl⟩⟩ := moment?_eq_some_iff.mp hm
      · refine .date hdate ?_
        rw [untilMoment, date_since, Int.toNat_eq_max, max_comm]
      · refine .leapDate hleap ?_
        rw [untilMoment, leapDate_since, Int.toNat_eq_max, max_comm]

theorem Asks.parse? (h : Asks wallClock (trimChars value.toList) r) :
    RetryAfter.parse? wallClock value = r := by
  cases h with
  | @seconds n h hn =>
    have hpos : ¬ (n : Int) < 0 := Int.not_lt.mpr (Int.natCast_nonneg n)
    simp only [RetryAfter.parse?, readInt64?_eq_some_iff.mpr ⟨h, hn⟩, if_neg hpos,
      Int.toNat_natCast]
  | negative h hn hneg =>
    simp only [RetryAfter.parse?, readInt64?_eq_some_iff.mpr ⟨h, hn⟩, if_pos hneg]
  | date h hwait =>
    rw [parse?_of_moment? h.moment?, Option.some_inj, ← Int.natCast_inj, untilMoment, date_since,
      Int.toNat_eq_max, max_comm, hwait]
  | leapDate h hwait =>
    rw [parse?_of_moment? h.moment?, Option.some_inj, ← Int.natCast_inj, untilMoment,
      leapDate_since, Int.toNat_eq_max, max_comm, hwait]
  | nothing hn hd hl =>
    have hnumber : readInt64? (trimChars value.toList) = none :=
      Option.eq_none_iff_forall_ne_some.mpr fun n h =>
        hn n (readInt64?_eq_some_iff.mp h).1 (readInt64?_eq_some_iff.mp h).2
    have hdate : MailDate.moment? (trimChars value.toList) = none := by
      refine Option.eq_none_iff_forall_ne_some.mpr fun m h => ?_
      obtain ⟨s, ⟨hdate, -⟩ | ⟨hleap, -⟩⟩ := moment?_eq_some_iff.mp h
      · exact hd s hdate
      · exact hl s hleap
    simp only [RetryAfter.parse?, hnumber, hdate, Option.map_none]

theorem parse?_eq_iff : parse? wallClock value = r ↔
    ∃ t, Stripped value.toList t ∧ Asks wallClock t r := by
  simp only [← trimChars_eq_iff, exists_eq_left']
  constructor
  · rintro rfl
    exact asks_parse? wallClock value
  · exact Asks.parse?

end

/-! ## Numbers in full -/

theorem digits_padded (zeros n : Nat) :
    let ds := List.replicate zeros '0' ++ Nat.toDigits 10 n
    Digits 1 ds.length ds n := by
  refine ⟨fun c hc => ?_, ?_, Nat.le_refl _, ?_⟩
  · rcases List.mem_append.mp hc with hc | hc
    · rw [List.eq_of_mem_replicate hc]
      decide
    · exact Nat.isDigit_of_mem_toDigits (by decide) (by decide) hc
  · rw [List.length_append]
    exact Nat.le_add_left_of_le (List.length_pos_iff.mpr Nat.toDigits_ne_nil)
  · rw [Nat.ofDigitChars_append, Nat.ofDigitChars_replicate_zero, Nat.mul_zero]
    exact Nat.ofDigitChars_ten_toDigits

theorem stripped_digits {max n : Nat} {front ds back : List Char} (h : Digits 1 max ds n)
    (hf : Blanks front) (hb : Blanks back) : Stripped (front ++ ds ++ back) ds := by
  have hblank (c : Char) (hc : c ∈ ds) : isBlank c = false :=
    not_isBlank_of_isDigit (h.isDigit c hc)
  exact ⟨⟨front, back, hf, hb, rfl⟩, fun c hc => hblank c (List.mem_of_mem_head? hc),
    fun c hc => hblank c (List.mem_reverse.mp (List.mem_of_mem_head? hc))⟩

theorem parse?_padded (wallClock : Int) {front back : List Char} (hf : Blanks front)
    (hb : Blanks back) (zeros : Nat) {n : Nat} (hn : n < 2 ^ 63) :
    parse? wallClock (String.ofList
      (front ++ (List.replicate zeros '0' ++ Nat.toDigits 10 n) ++ back)) =
        some (Span.ofSeconds n) := by
  have hdigits := digits_padded zeros n
  rw [parse?_eq_iff, String.toList_ofList]
  exact ⟨_, stripped_digits hdigits hf hb, .seconds (.plain hdigits) ⟨by omega, by omega⟩⟩

/-- A text asks for what it says. Trimmed, it is a number that fits a word, and asks for so many
seconds or, if it is negative, for nothing; or it is a date, and asks for the time until then; or it
asks for nothing. So the decimal text of every number that fits is read as this number, whatever
blanks are around it and however many zeros in front of it, and no wait is too long to be told. -/
theorem parse?_exact :
    (∀ wallClock value r, parse? wallClock value = r ↔
      ∃ t, Stripped value.toList t ∧ Asks wallClock t r) ∧
    (∀ wallClock front back zeros n, Blanks front → Blanks back → n < 2 ^ 63 →
      parse? wallClock (String.ofList
        (front ++ (List.replicate zeros '0' ++ Nat.toDigits 10 n) ++ back)) =
          some (Span.ofSeconds n)) ∧
    ∀ wallClock value wait, earliest ≤ wallClock → parse? wallClock value = some wait →
      wait ≤ longestHint := by
  refine ⟨fun wallClock value r => parse?_eq_iff, ?_, ?_⟩
  · intro wallClock front back zeros n hf hb hn
    exact parse?_padded wallClock hf hb zeros hn
  · intro wallClock value wait hw h
    exact parse?_le hw h

/-- The last number that fits a word; the last second of the last year, which is a leap second; and
a leap second that is left out, seen at noon of the day before. -/
theorem parse?_last :
    parse? 0 (String.ofList (['\t'] ++
      (List.replicate 3 '0' ++ Nat.toDigits 10 9223372036854775807) ++ ['\u00A0', ' '])) =
        some (Span.ofSeconds 9223372036854775807) ∧
    parse? 0 "Mon, 31 Dec 262142 23:59:60 GMT (the end)" = some 8210266876800000000000 ∧
    8210266876800000000000 ≤ longestHint ∧
    parse? 1767268800000000000 "Fri, 02 Jan 2026 10:00:60 GMT" =
      some (Span.ofSeconds 79259) := by
  obtain ⟨-, hpadded, hle⟩ := parse?_exact
  have hlast : parse? 0 "Mon, 31 Dec 262142 23:59:60 GMT (the end)" =
      some 8210266876800000000000 := by decide +kernel
  refine ⟨?_, hlast, hle 0 _ _ (by decide) hlast, by decide +kernel⟩
  exact hpadded 0 ['\t'] ['\u00A0', ' '] 3 9223372036854775807 (by simp [Blanks]; decide)
    (by simp [Blanks]; decide) (by decide)

end ResilientHttp.AskedWaits
