import Mathlib.Logic.Function.Iterate
import Mathlib.Order.Nat
import ResilientHttp.MailDate

/-!
# Days of the calendar

A day is followed by the next one of its month, or by the first of the next month, or by the first
of the next year. The number of a day, which is computed from its year, its month and its place in
the month, is how many times one has to go on like this from the first of January 1970.
-/
namespace ResilientHttp.Calendar
open MailDate

structure Day where
  year : Int
  month : Nat
  day : Nat

namespace Day

structure IsValid (d : Day) : Prop where
  month_pos : 1 ≤ d.month
  month_le : d.month ≤ 12
  day_pos : 1 ≤ d.day
  day_le : d.day ≤ monthDays d.year d.month

def next (d : Day) : Day :=
  if d.day < monthDays d.year d.month then { d with day := d.day + 1 }
  else if d.month < 12 then ⟨d.year, d.month + 1, 1⟩
  else ⟨d.year + 1, 1, 1⟩

def number (d : Day) : Int := dayNumber d.year d.month d.day

def epoch : Day := ⟨1970, 1, 1⟩

end Day

/-- So many days from the first of January 1970 one is at a day, or so many days before it. -/
def Counts (n : Int) (d : Day) : Prop :=
  if 0 ≤ n then Day.next^[n.toNat] .epoch = d else Day.next^[(-n).toNat] d = .epoch

/-! ## Months and years -/

/-- The days of a year before one of its months. -/
def daysBefore (y : Int) (month : Nat) : Nat :=
  (List.range (month - 1)).foldl (fun n m => n + monthDays y (m + 1)) 0

def newYear (y : Int) : Int :=
  365 * (y - 1) + (y - 1) / 4 - (y - 1) / 100 + (y - 1) / 400 - 719162

def yearDays (y : Int) : Nat := if isLeapYear y then 366 else 365

theorem number_eq (d : Day) : d.number = newYear d.year + daysBefore d.year d.month + (d.day - 1) :=
  rfl

theorem monthDays_pos (y : Int) (month : Nat) : 1 ≤ monthDays y month := by
  simp only [monthDays]
  split
  · split <;> decide
  all_goals decide

theorem daysBefore_succ (y : Int) {month : Nat} (h : 1 ≤ month) :
    daysBefore y (month + 1) = daysBefore y month + monthDays y month := by
  obtain ⟨m, rfl⟩ := Nat.exists_eq_add_of_le' h
  simp only [daysBefore, Nat.add_sub_cancel, List.range_succ, List.foldl_append, List.foldl_cons,
    List.foldl_nil]

/-- The twelve months are the year. -/
theorem daysBefore_year (y : Int) : daysBefore y 13 = yearDays y := by
  simp only [yearDays]
  cases hl : isLeapYear y <;> simp [daysBefore, monthDays, hl, List.range_succ]

theorem daysBefore_mono (y : Int) {m m' : Nat} (hm : 1 ≤ m) (h : m ≤ m') :
    daysBefore y m ≤ daysBefore y m' := by
  induction m', h using Nat.le_induction with
  | base => exact Nat.le_refl _
  | succ m' hle ih =>
    rw [daysBefore_succ y (hm.trans hle)]
    omega

theorem isLeapYear_iff (y : Int) :
    isLeapYear y = true ↔ y % 4 = 0 ∧ (y % 100 ≠ 0 ∨ y % 400 = 0) := by
  simp [isLeapYear]

theorem newYear_succ (y : Int) : newYear (y + 1) = newYear y + yearDays y := by
  have hleap := isLeapYear_iff y
  simp only [newYear, yearDays]
  split
  · rename_i h
    have := hleap.mp h
    omega
  · rename_i h
    have := mt hleap.mpr h
    omega

theorem newYear_mono {y y' : Int} (h : y ≤ y') : newYear y ≤ newYear y' := by
  simp only [newYear]
  omega

/-! ## Numbers of days -/

section
variable {d e : Day}

theorem Day.IsValid.next (h : d.IsValid) : d.next.IsValid := by
  have hm := h.month_pos
  simp only [Day.next]
  split
  · exact ⟨hm, h.month_le, Nat.le_add_left _ _, by assumption⟩
  · split
    · exact ⟨Nat.le_add_left _ _, by assumption, Nat.le_refl _, monthDays_pos _ _⟩
    · exact ⟨Nat.le_refl _, Nat.le_add_left _ _, Nat.le_refl _, monthDays_pos _ _⟩

theorem number_next (h : d.IsValid) : d.next.number = d.number + 1 := by
  have hmonth := daysBefore_succ d.year h.month_pos
  simp only [Day.next]
  split
  · simp only [number_eq]
    omega
  · rename_i hlast
    have hday : d.day = monthDays d.year d.month := Nat.le_antisymm h.day_le (Nat.not_lt.mp hlast)
    split
    · simp only [number_eq, hmonth]
      omega
    · rename_i hdecember
      have hend : d.month + 1 = 13 := by
        have := h.month_le
        omega
      rw [hend, daysBefore_year] at hmonth
      have hfirst : daysBefore (d.year + 1) 1 = 0 := rfl
      simp only [number_eq, newYear_succ, hfirst]
      omega

theorem number_lt_of_year_lt (hd : d.IsValid) (he : e.IsValid) (h : d.year < e.year) :
    d.number < e.number := by
  have hyears : newYear (d.year + 1) ≤ newYear e.year := newYear_mono h
  rw [newYear_succ, ← daysBefore_year] at hyears
  have hmonths : daysBefore d.year (d.month + 1) ≤ daysBefore d.year 13 :=
    daysBefore_mono d.year (Nat.le_add_left _ _) (Nat.succ_le_succ hd.month_le)
  rw [daysBefore_succ d.year hd.month_pos] at hmonths
  have hlast := hd.day_le
  have hfirst := he.day_pos
  simp only [number_eq]
  omega

theorem number_lt_of_month_lt (hd : d.IsValid) (he : e.IsValid) (hy : d.year = e.year)
    (h : d.month < e.month) : d.number < e.number := by
  have hmonths : daysBefore d.year (d.month + 1) ≤ daysBefore d.year e.month :=
    daysBefore_mono d.year (Nat.le_add_left _ _) h
  rw [daysBefore_succ d.year hd.month_pos] at hmonths
  have hlast := hd.day_le
  have hfirst := he.day_pos
  simp only [number_eq, ← hy]
  omega

theorem number_inj (hd : d.IsValid) (he : e.IsValid) (h : d.number = e.number) : d = e := by
  have hyear : d.year = e.year := by
    rcases Int.lt_trichotomy d.year e.year with hlt | heq | hgt
    · exact absurd h (Int.ne_of_lt (number_lt_of_year_lt hd he hlt))
    · exact heq
    · exact absurd h.symm (Int.ne_of_lt (number_lt_of_year_lt he hd hgt))
  have hmonth : d.month = e.month := by
    rcases Nat.lt_trichotomy d.month e.month with hlt | heq | hgt
    · exact absurd h (Int.ne_of_lt (number_lt_of_month_lt hd he hyear hlt))
    · exact heq
    · exact absurd h.symm (Int.ne_of_lt (number_lt_of_month_lt he hd hyear.symm hgt))
  have hday : d.day = e.day := by
    simp only [number_eq, hyear, hmonth] at h
    omega
  cases d
  cases e
  cases hyear
  cases hmonth
  cases hday
  rfl

theorem iterate_next (h : d.IsValid) (n : Nat) :
    (Day.next^[n] d).IsValid ∧ (Day.next^[n] d).number = d.number + n := by
  induction n with
  | zero => exact ⟨h, by simp⟩
  | succ n ih =>
    rw [Function.iterate_succ_apply']
    refine ⟨ih.1.next, ?_⟩
    rw [number_next ih.1, ih.2]
    omega

theorem isValid_epoch : Day.epoch.IsValid := ⟨by decide, by decide, by decide, by decide⟩

/-- The number of a day tells how far it is from the first of January 1970. -/
theorem counts_iff (h : d.IsValid) (n : Int) : Counts n d ↔ d.number = n := by
  have hepoch : Day.epoch.number = 0 := rfl
  rw [Counts]
  split
  · have hn := iterate_next isValid_epoch n.toNat
    constructor
    · rintro rfl
      omega
    · intro hd
      exact number_inj hn.1 h (by omega)
  · have hn := iterate_next h (-n).toNat
    constructor
    · intro hd
      rw [hd] at hn
      omega
    · intro hd
      exact number_inj hn.1 isValid_epoch (by omega)

end

end ResilientHttp.Calendar
