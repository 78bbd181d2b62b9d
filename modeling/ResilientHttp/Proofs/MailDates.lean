import ResilientHttp.Proofs.Calendar
import ResilientHttp.Proofs.DateParts

/-!
# The texts that are dates

A date is written as an optional day of the week, the day, the month and the year, a time of day, a
zone, and comments behind, with blanks between most of these. Reading accepts exactly the texts of
this form that tell a day of the calendar and a time of that day, and gives the moment that they
tell. A leap second is the second before it that goes on; the time until it counts it unless the
clock shows a later time of day.
-/
namespace ResilientHttp.MailDates
open Calendar DateParts MailDate Text Trimming

/-! ## Dates -/

/-- The text tells a stamp. -/
inductive Written : List Char → Stamp → Prop
  | mk {st : Stamp} {b b' w d g₁ m g₂ y g₃ t g₄ z c : List Char} (hb : Blanks b)
      (hw : WeekdayText w st.weekday) (hb' : Blanks b') (hd : Digits 1 2 d st.day) (hg₁ : Gap g₁)
      (hm : IsNamed monthNames m st.month) (hg₂ : Gap g₂) (hy : YearText y st.year) (hg₃ : Gap g₃)
      (ht : TimeText t st.hour st.minute st.second) (hg₄ : Gap g₄) (hz : ZoneText z st.offset)
      (hc : Comments c) :
      Written
        (b ++ (w ++ (b' ++ (d ++ (g₁ ++ (m ++ (g₂ ++
          (y ++ (g₃ ++ (t ++ (g₄ ++ (z ++ c)))))))))))) st

def dateOf (st : Stamp) : Day := ⟨st.year, st.month + 1, st.day⟩

/-- The seconds from the start of 1970 to the start of the minute, when the day is so many days from
the first one of 1970. -/
def minuteStart (st : Stamp) (days : Int) : Int :=
  days * 86400 + st.hour * 3600 + st.minute * 60 - st.offset

/-- There is such a day, so many days from the first one of 1970, which was a Thursday, and such a
time of it. A minute may have a leap second. The last year is not left, neither at the place of the
date nor at Greenwich. -/
structure Occurs (st : Stamp) (days : Int) : Prop where
  isValid : (dateOf st).IsValid
  counts : Counts days (dateOf st)
  year_le : st.year ≤ lastYear
  hour_lt : st.hour < 24
  minute_lt : st.minute < 60
  second_le : st.second ≤ 60
  weekday : ∀ w ∈ st.weekday, (w : Int) = (days + 3) % 7
  ends : ∃ n, Counts n ⟨lastYear + 1, 1, 1⟩ ∧ minuteStart st days < n * 86400

/-- The text is a date, and so many seconds lie between the start of 1970 and the second that it
tells. -/
def IsDate (cs : List Char) (seconds : Int) : Prop :=
  ∃ st days, Written cs st ∧ Occurs st days ∧ st.second < 60 ∧
    seconds = minuteStart st days + st.second

/-- The text is a date in a leap second, and so many seconds lie between the start of 1970 and the
second before it. -/
def IsLeapDate (cs : List Char) (seconds : Int) : Prop :=
  ∃ st days, Written cs st ∧ Occurs st days ∧ st.second = 60 ∧ seconds = minuteStart st days + 59

section
variable {cs : List Char}

/-! ## Dates, read -/

theorem written_of_stamp? {st : Stamp} (h : stamp? cs = some st) : Written cs st := by
  obtain ⟨b, hb, hcs⟩ := blanks_append_trimStart cs
  obtain ⟨⟨weekday, rest₁⟩, hweekday, h⟩ := Option.bind_eq_some_iff.mp h
  obtain ⟨w, hw, hrest⟩ := weekday?_sound hweekday
  obtain ⟨b', hb', hrest₁⟩ := blanks_append_trimStart rest₁
  obtain ⟨⟨day, rest₂⟩, hday, h⟩ := Option.bind_eq_some_iff.mp h
  obtain ⟨d, hd, hdigits⟩ := number?_sound hday
  obtain ⟨rest₃, hgap₁, h⟩ := Option.bind_eq_some_iff.mp h
  obtain ⟨g₁, hg₁, hrest₂, -⟩ := gap?_sound hgap₁
  obtain ⟨⟨month, rest₄⟩, hmonth, h⟩ := Option.bind_eq_some_iff.mp h
  obtain ⟨m, hm, hrest₃⟩ := name?_sound hmonth
  obtain ⟨rest₅, hgap₂, h⟩ := Option.bind_eq_some_iff.mp h
  obtain ⟨g₂, hg₂, hrest₄, -⟩ := gap?_sound hgap₂
  obtain ⟨⟨year, rest₆⟩, hyear, h⟩ := Option.bind_eq_some_iff.mp h
  obtain ⟨y, hy, hrest₅⟩ := year?_sound hyear
  obtain ⟨rest₇, hgap₃, h⟩ := Option.bind_eq_some_iff.mp h
  obtain ⟨g₃, hg₃, hrest₆, -⟩ := gap?_sound hgap₃
  obtain ⟨⟨⟨hour, minute, second⟩, rest₈⟩, htime, h⟩ := Option.bind_eq_some_iff.mp h
  obtain ⟨t, ht, hrest₇⟩ := timeOfDay?_sound htime
  obtain ⟨rest₉, hgap₄, h⟩ := Option.bind_eq_some_iff.mp h
  obtain ⟨g₄, hg₄, hrest₈, -⟩ := gap?_sound hgap₄
  obtain ⟨⟨offset, c⟩, hzone, h⟩ := Option.bind_eq_some_iff.mp h
  obtain ⟨z, hz, hrest₉⟩ := zone?_sound hzone
  obtain ⟨hcomments, h⟩ := of_guard h
  have hc : Comments c := onlyComments_sound hcomments
  cases h
  rw [hcs, hrest, hrest₁, hdigits, hrest₂, hrest₃, hrest₄, hrest₅, hrest₆, hrest₇, hrest₈, hrest₉]
  exact .mk hb hw hb' hd hg₁ hm hg₂ hy hg₃ ht hg₄ hz hc

theorem stamp?_of_written {st : Stamp} (h : Written cs st) : stamp? cs = some st := by
  cases h with
  | @mk _ b b' w d g₁ m g₂ y g₃ t g₄ z c hb hw hb' hd hg₁ hm hg₂ hy hg₃ ht hg₄ hz hc =>
    -- From the end to the front: what is left behind a part stops the part.
    have hcomments := onlyComments_complete hc (Nat.le_refl _)
    have hzone := zone?_complete hz hc.stops_isAlpha
    have hgap₄ := gap?_complete hg₄ (hz.stops c).1
    have hcolon : ∀ l ∈ (trimStart (g₄ ++ (z ++ c))).head?, l ≠ ':' := by
      rw [trimStart_append hg₄.1, trimStart_of_stops (hz.stops c).1]
      exact (hz.stops c).2
    generalize g₄ ++ (z ++ c) = x₄ at *
    have htime := timeOfDay?_complete ht hcolon
    have hgap₃ := gap?_complete hg₃ (ht.stops_isBlank x₄)
    have hstops₃ := hg₃.stops_isDigit (t ++ x₄)
    generalize g₃ ++ (t ++ x₄) = x₃ at *
    have hyear := year?_complete hy hstops₃
    have hgap₂ := gap?_complete hg₂ (hy.stops_isBlank x₃)
    generalize g₂ ++ (y ++ x₃) = x₂ at *
    have hmonth := name?_complete (by decide) (by decide) hm x₂
    have hgap₁ := gap?_complete hg₁ (hm.stops_isBlank (by decide) (by decide) x₂)
    have hstops₁ := hg₁.stops_isDigit (m ++ x₂)
    generalize g₁ ++ (m ++ x₂) = x₁ at *
    have hday := number?_complete hd (.inr hstops₁)
    obtain ⟨x, hweekday, hx⟩ := hw.weekday? hb' hd (by decide) x₁
    rw [← trimStart_append hb] at hweekday
    simp only [stamp?, hweekday, hx, hday, hgap₁, hmonth, hgap₂, hyear, hgap₃, htime, hgap₄, hzone,
      Option.bind_eq_bind, Option.bind_some]
    exact guard_bind hcomments _

theorem counts_dateOf {st : Stamp} (h : (dateOf st).IsValid) (days : Int) :
    Counts days (dateOf st) ↔ days = st.number :=
  (counts_iff h days).trans eq_comm

theorem counts_end (n : Int) : Counts n ⟨lastYear + 1, 1, 1⟩ ↔ lastSecond = n * 86400 := by
  have hlast : (⟨lastYear, 12, 31⟩ : Day).IsValid := ⟨by decide, by decide, by decide, by decide⟩
  have hnext : (⟨lastYear, 12, 31⟩ : Day).next = ⟨lastYear + 1, 1, 1⟩ := rfl
  rw [← hnext, counts_iff hlast.next, number_next hlast]
  simp only [lastSecond, daySeconds, Day.number]
  omega

theorem weekday_iff (w : Nat) (days : Int) : (w : Int) = (days + 3) % 7 ↔ w = weekday days := by
  rw [weekday]
  omega

theorem occurs_iff {st : Stamp} (hm : st.month < 12) (days : Int) :
    Occurs st days ↔ st.isSound = true ∧ days = st.number := by
  have hstart : minuteStart st st.number = st.minuteStart := rfl
  simp only [Stamp.isSound, Bool.and_eq_true, decide_eq_true_eq, Option.all_eq_true]
  constructor
  · intro h
    have hdays : days = st.number := (counts_dateOf h.isValid days).mp h.counts
    obtain ⟨n, hn, hends⟩ := h.ends
    rw [hdays, hstart, ← (counts_end n).mp hn] at hends
    refine ⟨⟨⟨⟨⟨⟨⟨⟨h.isValid.day_pos, h.isValid.day_le⟩, h.year_le⟩, h.hour_lt⟩, h.minute_lt⟩,
      h.second_le⟩, fun w hw => ?_⟩, hends⟩, hdays⟩
    exact (weekday_iff w _).mp (hdays ▸ h.weekday w hw)
  · rintro ⟨⟨⟨⟨⟨⟨⟨⟨hpos, hle⟩, hyear⟩, hhour⟩, hminute⟩, hsecond⟩, hweekday⟩, hends⟩, rfl⟩
    have hvalid : (dateOf st).IsValid := ⟨Nat.le_add_left _ _, hm, hpos, hle⟩
    exact {
      isValid := hvalid
      counts := (counts_dateOf hvalid _).mpr rfl
      year_le := hyear
      hour_lt := hhour
      minute_lt := hminute
      second_le := hsecond
      weekday := fun w hw => (weekday_iff w _).mpr (hweekday w hw)
      ends := ⟨dayNumber lastYear 12 31 + 1, (counts_end _).mpr rfl, hends⟩ }

theorem Written.month_lt {st : Stamp} (h : Written cs st) : st.month < 12 := by
  cases h with
  | mk _ _ _ _ _ hm =>
    obtain ⟨name, hi, -⟩ := hm
    exact (List.getElem?_eq_some_iff.mp hi).1

/-- Reading gives moments exactly for dates: the one of the date, or the one that the second before
a leap second has when it goes on. -/
theorem moment?_eq_some_iff {m : Moment} : moment? cs = some m ↔
    ∃ s, (IsDate cs s ∧ m = .ofSeconds s 0) ∨ (IsLeapDate cs s ∧ m = .ofSeconds s 1000000000) := by
  simp only [moment?, Option.map_eq_some_iff, Option.filter_eq_some_iff]
  constructor
  · rintro ⟨st, ⟨hst, hsound⟩, rfl⟩
    have hw := written_of_stamp? hst
    have ho := (occurs_iff hw.month_lt _).mpr ⟨hsound, rfl⟩
    by_cases h : st.second = 60
    · exact ⟨_, .inr ⟨⟨st, st.number, hw, ho, h, rfl⟩, if_pos h⟩⟩
    · have hlt : st.second < 60 := Nat.lt_of_le_of_ne ho.second_le h
      exact ⟨_, .inl ⟨⟨st, st.number, hw, ho, hlt, rfl⟩, if_neg h⟩⟩
  · rintro ⟨s, ⟨⟨st, days, hw, ho, h, rfl⟩, rfl⟩ | ⟨⟨st, days, hw, ho, h, rfl⟩, rfl⟩⟩
    all_goals obtain ⟨hsound, rfl⟩ := (occurs_iff hw.month_lt _).mp ho
    · exact ⟨st, ⟨stamp?_of_written hw, hsound⟩, if_neg (Nat.ne_of_lt h)⟩
    · exact ⟨st, ⟨stamp?_of_written hw, hsound⟩, if_pos h⟩

theorem IsDate.moment? {s : Int} (h : IsDate cs s) : moment? cs = some (.ofSeconds s 0) :=
  moment?_eq_some_iff.mpr ⟨s, .inl ⟨h, rfl⟩⟩

theorem IsLeapDate.moment? {s : Int} (h : IsLeapDate cs s) :
    moment? cs = some (.ofSeconds s 1000000000) :=
  moment?_eq_some_iff.mpr ⟨s, .inr ⟨h, rfl⟩⟩

theorem Occurs.minuteStart_lt {st : Stamp} {days : Int} (h : Occurs st days) :
    minuteStart st days < lastSecond := by
  obtain ⟨n, hn, hends⟩ := h.ends
  exact (counts_end n).mp hn ▸ hends

theorem IsDate.lt_lastSecond {s : Int} (h : IsDate cs s) : s < lastSecond + 60 := by
  obtain ⟨st, days, -, ho, hsecond, rfl⟩ := h
  have hstart := ho.minuteStart_lt
  omega

theorem IsLeapDate.lt_lastSecond {s : Int} (h : IsLeapDate cs s) : s < lastSecond + 60 := by
  obtain ⟨st, days, -, ho, -, rfl⟩ := h
  have hstart := ho.minuteStart_lt
  omega

/-! ## The time until a date -/

/-- The clock on the wall knows no leap seconds. -/
theorem isLeap_ofNanos (n : Int) : (Moment.ofNanos n).isLeap = false := by
  have hlt : n % 1000000000 < 1000000000 := Int.emod_lt_of_pos n (by decide)
  exact decide_eq_false (Int.not_le.mpr hlt)

theorem date_since (s n : Int) :
    (Moment.ofSeconds s 0).since (.ofNanos n) = s * 1000000000 - n := by
  have hleap : (Moment.ofSeconds s 0).isLeap = false := rfl
  simp only [Moment.since, Moment.leapBetween, isLeap_ofNanos, hleap, Bool.and_false,
    Bool.false_eq_true, if_false]
  simp only [Moment.ofNanos, Moment.ofSeconds, daySeconds]
  omega

theorem leapBetween_ofNanos (s n : Int) :
    Moment.leapBetween (.ofSeconds s 1000000000) (.ofNanos n) =
      if n / 1000000000 % 86400 ≤ s % 86400 then 0 else -1 := by
  have hleap : (Moment.ofSeconds s 1000000000).isLeap = true := rfl
  have hlt : (Moment.ofSeconds s 1000000000).second < (Moment.ofNanos n).second ↔
      ¬ n / 1000000000 % 86400 ≤ s % 86400 := Int.not_le.symm
  simp only [Moment.leapBetween, isLeap_ofNanos, hleap, Bool.and_false, Bool.false_eq_true,
    if_false, Bool.and_true, decide_eq_true_eq, hlt, ite_not]

/-- A leap second counts unless its time of day is before that of the clock. -/
theorem leapDate_since (s n : Int) :
    (Moment.ofSeconds s 1000000000).since (.ofNanos n) =
      (s + if n / 1000000000 % 86400 ≤ s % 86400 then 1 else 0) * 1000000000 - n := by
  rw [Moment.since, leapBetween_ofNanos]
  simp only [Moment.ofNanos, Moment.ofSeconds, daySeconds]
  split <;> omega

end

end ResilientHttp.MailDates
