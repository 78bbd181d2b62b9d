import Mathlib
import ResilientHttp.Proofs.Letters
import ResilientHttp.Proofs.Trimming
import ResilientHttp.MailDate

/-!
# The parts of a date, read

A date has digits, names, blanks, a time of day, a zone and comments for its parts. Each part is
read off the front of a text, up to where it can go on no further: what is read is always such a
part, and such a part is always read if what comes behind it stops it.
-/
namespace ResilientHttp.DateParts
open Letters MailDate Text Trimming

/-! ## The parts of a date -/

/-- At least `min` and at most `max` digits, and the number that they make. -/
structure Digits (min max : Nat) (cs : List Char) (n : Nat) : Prop where
  isDigit : ∀ c ∈ cs, c.isDigit = true
  min_le : min ≤ cs.length
  le_max : cs.length ≤ max
  value : Nat.ofDigitChars 10 cs 0 = n

/-- One of the names, in any case, and its place. -/
def IsNamed (names : List String) (cs : List Char) (i : Nat) : Prop :=
  ∃ name, names[i]? = some name ∧ cs.map Char.toLower = name.toList

def Gap (cs : List Char) : Prop := Blanks cs ∧ cs ≠ []

inductive WeekdayText : List Char → Option Nat → Prop
  | absent : WeekdayText [] none
  | told {cs : List Char} {i : Nat} (h : IsNamed weekdayNames cs i) :
      WeekdayText (cs ++ [',']) (some i)

/-- Two digits are near the turn of the century, three count from 1900, and more of them are the
year itself. -/
inductive YearText : List Char → Nat → Prop
  | next {cs : List Char} {n : Nat} (h : Digits 2 2 cs n) (hn : n < 50) : YearText cs (n + 2000)
  | last {cs : List Char} {n : Nat} (h : Digits 2 2 cs n) (hn : 50 ≤ n) : YearText cs (n + 1900)
  | offset {cs : List Char} {n : Nat} (h : Digits 3 3 cs n) : YearText cs (n + 1900)
  | whole {cs : List Char} {n : Nat} (h : Digits 4 cs.length cs n) : YearText cs n

inductive SecondText : List Char → Nat → Prop
  | absent : SecondText [] 0
  | told {b cs : List Char} {n : Nat} (hb : Blanks b) (h : Digits 2 2 cs n) :
      SecondText (b ++ ':' :: cs) n

inductive TimeText : List Char → Nat → Nat → Nat → Prop
  | mk {h b b' m s : List Char} {hour minute second : Nat} (hh : Digits 2 2 h hour) (hb : Blanks b)
      (hb' : Blanks b') (hm : Digits 2 2 m minute) (hs : SecondText s second) :
      TimeText (h ++ (b ++ ':' :: (b' ++ (m ++ s)))) hour minute second

/-- Hours and minutes, and the seconds that they make. -/
inductive ShiftText : List Char → Nat → Prop
  | mk {h m : List Char} {hours minutes : Nat} (hh : Digits 2 2 h hours) (hlt : hours < 24)
      (hm : Digits 2 2 m minutes) (hmlt : minutes < 60) :
      ShiftText (h ++ m) (hours * 3600 + minutes * 60)

/-- A zone and its seconds east of Greenwich: a name, a single letter without a meaning, or hours
and minutes with a sign. -/
inductive ZoneText : List Char → Int → Prop
  | named {cs : List Char} {name : String} {hours : Int} (h : (name, hours) ∈ namedZones)
      (hcs : cs.map Char.toLower = name.toList) : ZoneText cs (hours * 3600)
  | military {c : Char} (hc : c.isAlpha = true) (hj : c.toLower ≠ 'j') : ZoneText [c] 0
  | east {cs : List Char} {shift : Nat} (h : ShiftText cs shift) : ZoneText ('+' :: cs) shift
  | west {cs : List Char} {shift : Nat} (h : ShiftText cs shift) : ZoneText ('-' :: cs) (-shift)

/-- What stands inside a comment: brackets come in pairs, and behind a backslash any character
stands for itself. -/
inductive Remark : List Char → Prop
  | nil : Remark []
  | char {c : Char} {cs : List Char} (hb : c ≠ '\\') (ho : c ≠ '(') (hc : c ≠ ')') (h : Remark cs) :
      Remark (c :: cs)
  | escaped (c : Char) {cs : List Char} (h : Remark cs) : Remark ('\\' :: c :: cs)
  | nested {inner cs : List Char} (hi : Remark inner) (h : Remark cs) :
      Remark ('(' :: (inner ++ ')' :: cs))

inductive Comments : List Char → Prop
  | nil : Comments []
  | cons {b inner cs : List Char} (hb : Blanks b) (hi : Remark inner) (h : Comments cs) :
      Comments (b ++ '(' :: (inner ++ ')' :: cs))

section
variable {cs rest : List Char}

/-! ## Digits and names -/

theorem number?_sound {min max n : Nat} (h : number? min max cs = some (n, rest)) :
    ∃ ds, Digits min max ds n ∧ cs = ds ++ rest := by
  simp only [number?] at h
  split at h
  · cases h
  · rename_i hmin
    cases h
    have hrun : (cs.take max).takeWhile Char.isDigit <+: cs :=
      (List.takeWhile_prefix _).trans (List.take_prefix _ _)
    refine ⟨_, ⟨fun c hc => List.mem_takeWhile_imp hc, Nat.not_lt.mp hmin, ?_, rfl⟩, ?_⟩
    · exact (List.takeWhile_prefix _).length_le.trans (List.length_take_le _ _)
    · exact (List.prefix_iff_eq_append.mp hrun).symm

theorem number?_complete {min max n : Nat} {ds : List Char} (h : Digits min max ds n)
    (hrest : ds.length = max ∨ Stops Char.isDigit rest) :
    number? min max (ds ++ rest) = some (n, rest) := by
  have hrun : ((ds ++ rest).take max).takeWhile Char.isDigit = ds := by
    rw [List.take_append, List.take_of_length_le h.le_max, List.takeWhile_append_of_pos h.isDigit]
    rcases hrest with hlen | hstop
    · simp [hlen]
    · cases hr : rest.take (max - ds.length) with
      | nil => simp
      | cons c r =>
        have hc : c.isDigit = false := hstop c (by
          cases rest with
          | nil => simp at hr
          | cons c' rest =>
            cases hk : max - ds.length with
            | zero => simp [hk] at hr
            | succ k =>
              rw [hk, List.take_succ_cons] at hr
              cases hr
              rfl)
        simp [hc]
  simp only [number?, hrun, if_neg (Nat.not_lt.mpr h.min_le), List.drop_left]
  rw [← h.value]
  rfl

theorem Digits.length_eq {k n : Nat} (h : Digits k k cs n) : cs.length = k :=
  Nat.le_antisymm h.le_max h.min_le

theorem number?_fixed {k n : Nat} {ds : List Char} (h : Digits k k ds n) (rest : List Char) :
    number? k k (ds ++ rest) = some (n, rest) :=
  number?_complete h (.inl h.length_eq)

theorem Digits.mono {min max min' max' n : Nat} (h : Digits min max cs n) (hmin : min' ≤ min)
    (hmax : max ≤ max') : Digits min' max' cs n :=
  ⟨h.isDigit, hmin.trans h.min_le, h.le_max.trans hmax, h.value⟩

theorem Digits.stops_isBlank {min max n : Nat} (h : Digits min max cs n) (hmin : 0 < min)
    (rest : List Char) : Stops isBlank (cs ++ rest) := by
  have hne : cs ≠ [] := List.length_pos_iff.mp (hmin.trans_le h.min_le)
  exact Stops.append hne (fun c hc => not_isBlank_of_isDigit (h.isDigit c hc)) rest

theorem name?_sound {names : List String} {i : Nat} (h : name? names cs = some (i, rest)) :
    ∃ word, IsNamed names word i ∧ cs = word ++ rest := by
  obtain ⟨j, hj, he⟩ := Option.map_eq_some_iff.mp h
  cases he
  obtain ⟨hlt, heq, -⟩ := List.idxOf?_eq_some_iff.mp hj
  refine ⟨cs.take 3, ⟨_, List.getElem?_eq_some_iff.mpr ⟨hlt, rfl⟩, ?_⟩,
    (List.take_append_drop 3 cs).symm⟩
  rw [heq, String.toList_ofList]

theorem name?_complete {names : List String} (h3 : ∀ name ∈ names, name.toList.length = 3)
    (hnd : names.Nodup) {word : List Char} {i : Nat} (h : IsNamed names word i) (rest : List Char) :
    name? names (word ++ rest) = some (i, rest) := by
  obtain ⟨name, hi, hword⟩ := h
  obtain ⟨hlt, rfl⟩ := List.getElem?_eq_some_iff.mp hi
  have hlen : word.length = 3 := by
    rw [← List.length_map (f := Char.toLower), hword]
    exact h3 _ (List.getElem_mem hlt)
  have hidx : names.idxOf? names[i] = some i := by
    refine List.idxOf?_eq_some_iff.mpr ⟨hlt, rfl, fun j hj he => ?_⟩
    exact absurd (hnd.getElem_inj_iff.mp he) (Nat.ne_of_lt hj)
  simp only [name?, ← hlen, List.take_left, List.drop_left, hword, String.ofList_toList, hidx,
    Option.map_some]

section
variable {names : List String} {word : List Char} {i : Nat}

theorem IsNamed.isAlpha (h : IsNamed names word i)
    (hn : ∀ name ∈ names, name.toList.all Char.isAlpha = true) : ∀ c ∈ word, c.isAlpha = true := by
  obtain ⟨name, hi, hword⟩ := h
  exact isAlpha_of_map_toLower hword (hn name (List.mem_of_getElem? hi))

theorem IsNamed.length_eq (h : IsNamed names word i) (hn : ∀ name ∈ names, name.toList.length = 3) :
    word.length = 3 := by
  obtain ⟨name, hi, hword⟩ := h
  rw [← List.length_map Char.toLower, hword]
  exact hn name (List.mem_of_getElem? hi)

end

/-! ## Blanks and comments -/

theorem gap?_sound (h : gap? cs = some rest) :
    ∃ g, Gap g ∧ cs = g ++ rest ∧ Stops isBlank rest := by
  cases cs with
  | nil => cases h
  | cons c cs =>
    simp only [gap?, Option.ite_none_right_eq_some] at h
    obtain ⟨hc, h⟩ := h
    cases h
    obtain ⟨b, hb, hcs⟩ := blanks_append_trimStart cs
    exact ⟨c :: b, ⟨hb.cons hc, nofun⟩, congrArg (c :: ·) hcs, stops_trimStart cs⟩

theorem gap?_complete {g : List Char} (hg : Gap g) (hrest : Stops isBlank rest) :
    gap? (g ++ rest) = some rest := by
  obtain ⟨hb, hne⟩ := hg
  cases g with
  | nil => exact absurd rfl hne
  | cons c g =>
    obtain ⟨hc, hb⟩ := List.forall_mem_cons.mp hb
    simp only [List.cons_append, gap?, hc, if_true, trimStart_append hb, trimStart_of_stops hrest]

/-- The ends of so many comments that stand in each other. -/
inductive Closes : Nat → List Char → Prop
  | zero : Closes 0 []
  | succ {depth : Nat} {inner cs : List Char} (hi : Remark inner) (h : Closes depth cs) :
      Closes (depth + 1) (inner ++ ')' :: cs)

/-- What may be put in front of every remark may be put in front of the end of one. -/
theorem Closes.prepend {depth : Nat} (h : Closes (depth + 1) cs) (front : List Char)
    (hfront : ∀ inner, Remark inner → Remark (front ++ inner)) :
    Closes (depth + 1) (front ++ cs) := by
  cases h with
  | succ hi h =>
    rw [← List.append_assoc]
    exact .succ (hfront _ hi) h

theorem Closes.nest {depth : Nat} (h : Closes (depth + 2) cs) : Closes (depth + 1) ('(' :: cs) := by
  cases h with
  | @succ _ inner cs hi h =>
    cases h with
    | @succ _ inner' cs hi' h =>
      have heq : '(' :: (inner ++ ')' :: (inner' ++ ')' :: cs)) =
          '(' :: (inner ++ ')' :: inner') ++ ')' :: cs := by simp
      rw [heq]
      exact .succ (.nested hi hi') h

theorem commentEnd?_sound {depth : Nat} (h : commentEnd? (depth + 1) cs = some rest) :
    ∃ front, Closes (depth + 1) front ∧ cs = front ++ rest := by
  generalize hd : depth + 1 = d at h
  fun_induction commentEnd? d cs generalizing depth with
  | case1 | case2 => cases h
  | case3 d c cs ih =>
    subst hd
    obtain ⟨front, hf, rfl⟩ := ih rfl h
    exact ⟨'\\' :: c :: front, hf.prepend ['\\', c] fun inner hi => .escaped c hi, rfl⟩
  | case4 d cs ih =>
    subst hd
    obtain ⟨front, hf, rfl⟩ := ih rfl h
    exact ⟨'(' :: front, hf.nest, rfl⟩
  | case5 d cs hle =>
    cases h
    obtain rfl : depth = 0 := by omega
    subst hd
    exact ⟨[')'], .succ .nil .zero, rfl⟩
  | case6 d cs hle ih =>
    obtain ⟨depth, rfl⟩ : ∃ e, depth = e + 1 := ⟨depth - 1, by omega⟩
    subst hd
    obtain ⟨front, hf, rfl⟩ := @ih depth rfl h
    exact ⟨')' :: front, .succ .nil hf, rfl⟩
  | case7 d c cs hb hb' ho hc ih =>
    subst hd
    have hslash : c ≠ '\\' := by
      intro he
      cases cs with
      | nil => exact hb he rfl
      | cons c' cs => exact hb' c' cs he rfl
    obtain ⟨front, hf, rfl⟩ := ih rfl h
    exact ⟨c :: front, hf.prepend [c] fun inner hi => .char hslash ho hc hi, rfl⟩

theorem commentEnd?_remark {inner : List Char} (h : Remark inner) (depth : Nat) (rest : List Char) :
    commentEnd? (depth + 1) (inner ++ rest) = commentEnd? (depth + 1) rest := by
  induction h generalizing depth rest with
  | nil => rfl
  | char hb ho hc _ ih =>
    rw [List.cons_append, commentEnd?, ih]
    all_goals simp_all
  | escaped c _ ih =>
    rw [List.cons_append, List.cons_append, commentEnd?, ih]
  | nested _ _ ihi ih =>
    rw [List.cons_append, List.append_assoc, List.cons_append, commentEnd?, ihi, commentEnd?,
      if_neg (by omega), Nat.add_sub_cancel, ih]

/-- A comment ends at the bracket that belongs to the one that opened it. -/
theorem commentEnd?_eq_some_iff :
    commentEnd? 1 cs = some rest ↔ ∃ inner, Remark inner ∧ cs = inner ++ ')' :: rest := by
  constructor
  · intro h
    obtain ⟨front, hf, rfl⟩ := commentEnd?_sound h
    cases hf with
    | @succ _ inner _ hi hz =>
      cases hz
      exact ⟨inner, hi, List.append_assoc inner [')'] rest⟩
  · rintro ⟨inner, hi, rfl⟩
    rw [commentEnd?_remark hi, commentEnd?, if_pos (Nat.le_refl 1)]

theorem onlyComments_sound {fuel : Nat} (h : onlyComments fuel cs = true) : Comments cs := by
  induction fuel generalizing cs with
  | zero =>
    cases cs with
    | nil => exact .nil
    | cons c cs => cases h
  | succ fuel ih =>
    cases cs with
    | nil => exact .nil
    | cons c cs =>
      simp only [onlyComments] at h
      obtain ⟨b, hb, hcs⟩ := blanks_append_trimStart (c :: cs)
      rw [hcs]
      split at h
      · rename_i rest hopen
        split at h
        · rename_i rest' hclose
          obtain ⟨inner, hi, rfl⟩ := commentEnd?_eq_some_iff.mp hclose
          rw [hopen]
          exact .cons hb hi (ih h)
        · cases h
      · cases h

theorem onlyComments_complete (h : Comments cs) {fuel : Nat} (hf : cs.length ≤ fuel) :
    onlyComments fuel cs = true := by
  induction h generalizing fuel with
  | nil => cases fuel <;> rfl
  | @cons b inner cs hb hi h ih =>
    have hopen : trimStart (b ++ '(' :: (inner ++ ')' :: cs)) = '(' :: (inner ++ ')' :: cs) := by
      rw [trimStart_append hb]
      exact trimStart_of_stops (by simp [Stops]; decide)
    have hclose : commentEnd? 1 (inner ++ ')' :: cs) = some cs :=
      commentEnd?_eq_some_iff.mpr ⟨inner, hi, rfl⟩
    simp only [List.length_append, List.length_cons] at hf
    obtain ⟨fuel, rfl⟩ : ∃ f, fuel = f + 1 := ⟨fuel - 1, by omega⟩
    have hrest : onlyComments fuel cs = true := ih (by omega)
    cases hcs : b ++ '(' :: (inner ++ ')' :: cs) with
    | nil => rfl
    | cons c cs' =>
      rw [hcs] at hopen
      simp only [onlyComments, hopen, hclose, hrest]

/-! ## The parts of a date, read -/

theorem weekday?_sound {named : Option Nat} (h : weekday? cs = some (named, rest)) :
    ∃ w, WeekdayText w named ∧ cs = w ++ rest := by
  simp only [weekday?] at h
  split at h
  · cases h
    exact ⟨[], .absent, rfl⟩
  · rename_i hname
    obtain ⟨word, hword, hcs⟩ := name?_sound hname
    cases h
    exact ⟨word ++ [','], .told hword, by rw [hcs, List.append_assoc]; rfl⟩
  · cases h

theorem weekday?_told {w : List Char} {i : Nat} (h : WeekdayText w (some i)) (rest : List Char) :
    weekday? (w ++ rest) = some (some i, rest) := by
  cases h with
  | @told word _ hword =>
    have hname : name? weekdayNames (word ++ ',' :: rest) = some (i, ',' :: rest) :=
      name?_complete (by decide) (by decide) hword _
    rw [List.append_assoc, List.singleton_append, weekday?, hname]
    rfl

theorem weekday?_absent {c : Char} (h : c.isAlpha = false) (cs : List Char) :
    weekday? (c :: cs) = some (none, c :: cs) := by
  have hnone : name? weekdayNames (c :: cs) = none := by
    cases hname : name? weekdayNames (c :: cs) with
    | none => rfl
    | some found =>
      obtain ⟨word, hword, hcs⟩ := name?_sound hname
      have hlen := hword.length_eq (by decide)
      cases word with
      | nil => cases hlen
      | cons l word =>
        cases hcs
        have halpha := hword.isAlpha (by decide) c List.mem_cons_self
        rw [h] at halpha
        cases halpha
  rw [weekday?, hnone]

theorem of_guard {α : Type} {p : Prop} [Decidable p] {f : Unit → Option α} {a : α}
    (h : (guard p >>= f) = some a) : p ∧ f () = some a := by
  by_cases hp : p
  · simp only [guard, if_pos hp] at h
    exact ⟨hp, h⟩
  · simp only [guard, if_neg hp] at h
    cases h

theorem guard_bind {α : Type} {p : Prop} [Decidable p] (hp : p) (f : Unit → Option α) :
    (guard p >>= f) = f () := by
  simp only [guard, if_pos hp]
  rfl

theorem year?_sound {year : Nat} (h : year? cs = some (year, rest)) :
    ∃ y, YearText y year ∧ cs = y ++ rest := by
  obtain ⟨⟨n, rest'⟩, hn, h⟩ := Option.bind_eq_some_iff.mp h
  obtain ⟨ds, hds, rfl⟩ := number?_sound hn
  have hlen : (ds ++ rest').length - rest'.length = ds.length := by simp
  dsimp only at h
  rw [hlen] at h
  cases h
  refine ⟨ds, ?_, rfl⟩
  have hmin := hds.min_le
  split
  · rename_i h2
    have hds : Digits 2 2 ds n := ⟨hds.isDigit, hmin, h2.le, hds.value⟩
    split
    · exact .next hds (by assumption)
    · exact .last hds (by omega)
  · split
    · rename_i h3
      exact .offset ⟨hds.isDigit, h3.ge, h3.le, hds.value⟩
    · exact .whole ⟨hds.isDigit, by omega, Nat.le_refl _, hds.value⟩

theorem YearText.digits {y : List Char} {year : Nat} (h : YearText y year) :
    ∃ n, Digits 2 y.length y n ∧
      year = if y.length = 2 then (if n < 50 then n + 2000 else n + 1900)
        else if y.length = 3 then n + 1900 else n := by
  cases h with
  | @next n h hn =>
    exact ⟨n, h.mono (Nat.le_refl _) h.min_le, by simp [h.length_eq, hn]⟩
  | @last n h hn =>
    exact ⟨n, h.mono (Nat.le_refl _) h.min_le, by simp [h.length_eq, Nat.not_lt.mpr hn]⟩
  | @offset n h =>
    exact ⟨n, h.mono (by decide) h.min_le, by simp [h.length_eq]⟩
  | whole h =>
    have hlen := h.min_le
    exact ⟨_, h.mono (by decide) (Nat.le_refl _), by
      rw [if_neg (by omega), if_neg (by omega)]⟩

theorem year?_complete {y : List Char} {year : Nat} (h : YearText y year)
    (hrest : Stops Char.isDigit rest) : year? (y ++ rest) = some (year, rest) := by
  obtain ⟨n, hn, rfl⟩ := h.digits
  have hlen : (y ++ rest).length - rest.length = y.length := by simp
  have hread : number? 2 (y ++ rest).length (y ++ rest) = some (n, rest) :=
    number?_complete (hn.mono (Nat.le_refl _) (by simp)) (.inr hrest)
  simp only [year?, hread, Option.bind_eq_bind, Option.bind_some, hlen]
  rfl

theorem second?_sound {second : Nat} (h : second? cs = some (second, rest)) :
    ∃ s, SecondText s second ∧ cs = s ++ rest := by
  simp only [second?] at h
  obtain ⟨b, hb, hcs⟩ := blanks_append_trimStart cs
  split at h
  · rename_i digits hcolon
    obtain ⟨ds, hds, rfl⟩ := number?_sound h
    rw [hcolon] at hcs
    exact ⟨b ++ ':' :: ds, .told hb hds, by simp [hcs]⟩
  · cases h
    exact ⟨[], .absent, rfl⟩

theorem second?_complete {s : List Char} {second : Nat} (h : SecondText s second)
    (hrest : ∀ c ∈ (trimStart rest).head?, c ≠ ':') :
    second? (s ++ rest) = some (second, rest) := by
  cases h with
  | absent =>
    simp only [second?, List.nil_append]
    split
    · rename_i hcolon
      exact absurd rfl (hrest ':' (by rw [hcolon]; rfl))
    · rfl
  | told hb h =>
    rw [List.append_assoc, List.cons_append, second?, trimStart_append_cons hb (by decide)]
    exact number?_fixed h rest

theorem timeOfDay?_sound {hour minute second : Nat}
    (h : timeOfDay? cs = some ((hour, minute, second), rest)) :
    ∃ t, TimeText t hour minute second ∧ cs = t ++ rest := by
  obtain ⟨⟨hour', rest₁⟩, hhour, h⟩ := Option.bind_eq_some_iff.mp h
  obtain ⟨hs, hhs, hcs⟩ := number?_sound hhour
  dsimp only at h
  split at h
  · rename_i rest₂ hcolon
    obtain ⟨b, hb, hrest₁⟩ := blanks_append_trimStart rest₁
    obtain ⟨b', hb', hrest₂⟩ := blanks_append_trimStart rest₂
    obtain ⟨⟨minute', rest₃⟩, hminute, h⟩ := Option.bind_eq_some_iff.mp h
    obtain ⟨ms, hms, hdigits⟩ := number?_sound hminute
    obtain ⟨⟨second', rest₄⟩, hsecond, h⟩ := Option.bind_eq_some_iff.mp h
    obtain ⟨ss, hss, hrest₃⟩ := second?_sound hsecond
    have hrest₃ : rest₃ = ss ++ rest₄ := hrest₃
    cases h
    refine ⟨_, .mk hhs hb hb' hms hss, ?_⟩
    rw [hcs, hrest₁, hcolon, hrest₂, hdigits, hrest₃]
    simp only [List.append_assoc, List.cons_append]
  · cases h

theorem timeOfDay?_complete {t : List Char} {hour minute second : Nat}
    (h : TimeText t hour minute second) (hrest : ∀ c ∈ (trimStart rest).head?, c ≠ ':') :
    timeOfDay? (t ++ rest) = some ((hour, minute, second), rest) := by
  cases h with
  | @mk hs b b' ms ss _ _ _ hhs hb hb' hms hss =>
    have hs : second? (ss ++ rest) = some (second, rest) := second?_complete hss hrest
    have hcolon := trimStart_append_cons hb (c := ':') (by decide) (b' ++ (ms ++ (ss ++ rest)))
    have hdigit : trimStart (b' ++ (ms ++ (ss ++ rest))) = ms ++ (ss ++ rest) := by
      rw [trimStart_append hb']
      exact trimStart_of_stops (hms.stops_isBlank (by decide) _)
    simp only [List.append_assoc, List.cons_append, timeOfDay?, number?_fixed hhs,
      number?_fixed hms, hs, hcolon, hdigit, Option.bind_eq_bind, Option.bind_some]
    rfl

theorem shift?_sound {shift : Nat} (h : shift? cs = some (shift, rest)) :
    ∃ ds, ShiftText ds shift ∧ cs = ds ++ rest := by
  obtain ⟨⟨hours, rest₁⟩, hhours, h⟩ := Option.bind_eq_some_iff.mp h
  obtain ⟨hs, hhs, hcs⟩ := number?_sound hhours
  obtain ⟨⟨minutes, rest₂⟩, hminutes, h⟩ := Option.bind_eq_some_iff.mp h
  obtain ⟨ms, hms, hrest₁⟩ := number?_sound hminutes
  obtain ⟨hlt, h⟩ := of_guard h
  cases h
  simp only [Bool.and_eq_true, decide_eq_true_eq] at hlt
  refine ⟨_, .mk hhs hlt.1 hms hlt.2, ?_⟩
  rw [hcs, hrest₁, List.append_assoc]

theorem shift?_complete {ds : List Char} {shift : Nat} (h : ShiftText ds shift)
    (rest : List Char) : shift? (ds ++ rest) = some (shift, rest) := by
  cases h with
  | mk hhs hhours hms hminutes =>
    simp only [List.append_assoc, shift?, number?_fixed hhs, number?_fixed hms,
      Option.bind_eq_bind, Option.bind_some]
    exact guard_bind (by simp [hhours, hminutes]) _

theorem zone?_sound {offset : Int} (h : zone? cs = some (offset, rest)) :
    ∃ z, ZoneText z offset ∧ cs = z ++ rest := by
  have hsplit : cs = cs.takeWhile Char.isAlpha ++ cs.dropWhile Char.isAlpha :=
    List.takeWhile_append_dropWhile.symm
  simp only [zone?] at h
  split at h
  · split at h
    · rename_i name hours hfind
      cases h
      have hname := List.find?_some hfind
      have hname : name = String.ofList ((cs.takeWhile Char.isAlpha).map Char.toLower) :=
        of_decide_eq_true hname
      refine ⟨_, .named (List.mem_of_find?_eq_some hfind) ?_, hsplit⟩
      rw [hname, String.toList_ofList]
    · split at h
      · rename_i hone
        cases h
        simp only [Bool.and_eq_true, decide_eq_true_eq, ne_eq] at hone
        obtain ⟨c, hc⟩ := List.length_eq_one_iff.mp hone.1
        refine ⟨_, ?_, hsplit⟩
        rw [hc] at hone ⊢
        refine .military (List.mem_takeWhile_imp (l := cs) (hc ▸ List.mem_singleton_self c)) ?_
        exact fun hj => hone.2 (by rw [List.map_singleton, hj])
      · cases h
  · split at h
    · obtain ⟨⟨shift, rest'⟩, hshift, h⟩ := Option.map_eq_some_iff.mp h
      obtain ⟨ds, hds, hdigits⟩ := shift?_sound hshift
      cases h
      exact ⟨_, .east hds, congrArg ('+' :: ·) hdigits⟩
    · obtain ⟨⟨shift, rest'⟩, hshift, h⟩ := Option.map_eq_some_iff.mp h
      obtain ⟨ds, hds, hdigits⟩ := shift?_sound hshift
      cases h
      exact ⟨_, .west hds, congrArg ('-' :: ·) hdigits⟩
    · cases h

theorem takeWhile_append_of_stops {p : Char → Bool} (h : ∀ c ∈ cs, p c = true)
    (hrest : Stops p rest) :
    (cs ++ rest).takeWhile p = cs ∧ (cs ++ rest).dropWhile p = rest := by
  rw [List.takeWhile_append_of_pos h, List.dropWhile_append_of_pos h]
  cases rest with
  | nil => simp
  | cons c rest => simp [hrest c rfl]

/-- A run of letters is a name that is known, or a letter without a meaning. -/
theorem zone?_letters {z : List Char} (hz : z ≠ []) (halpha : ∀ c ∈ z, c.isAlpha = true)
    (hrest : Stops Char.isAlpha rest) :
    zone? (z ++ rest) =
      ((namedZones.find? (·.1 = String.ofList (z.map Char.toLower))).map fun zone =>
        (zone.2 * 3600, rest)).or
      (if z.length = 1 && String.ofList (z.map Char.toLower) ≠ "j" then some (0, rest)
        else none) := by
  obtain ⟨htake, hdrop⟩ := takeWhile_append_of_stops halpha hrest
  simp only [zone?, htake, hdrop, List.isEmpty_eq_false_iff.mpr hz, Bool.not_false, if_true]
  cases namedZones.find? (·.1 = String.ofList (z.map Char.toLower)) <;> rfl

theorem zone?_complete {z : List Char} {offset : Int} (h : ZoneText z offset)
    (hrest : Stops Char.isAlpha rest) : zone? (z ++ rest) = some (offset, rest) := by
  cases h with
  | @named _ name hours h hcs =>
    have hzones : ∀ zone ∈ namedZones, zone.1.toList ≠ [] ∧ zone.1.toList.all Char.isAlpha = true ∧
        namedZones.find? (·.1 = zone.1) = some zone := by decide
    obtain ⟨hne, hall, hfind⟩ := hzones _ h
    have hz : z ≠ [] := fun he => hne (by rw [← hcs, he, List.map_nil])
    simp only [zone?_letters hz (isAlpha_of_map_toLower hcs hall) hrest, hcs, String.ofList_toList,
      hfind, Option.map_some, Option.some_or]
  | @military c hc hj =>
    rw [zone?_letters (List.cons_ne_nil c []) (List.forall_mem_singleton.mpr hc) hrest]
    cases hfind : namedZones.find? (·.1 = String.ofList ([c].map Char.toLower)) with
    | some zone =>
      have hzero : ∀ zone ∈ namedZones, zone.1.toList.length = 1 → zone.2 = 0 := by decide
      have hname : zone.1 = String.ofList [c.toLower] :=
        of_decide_eq_true (List.find?_some hfind :)
      have hlength : zone.1.toList.length = 1 := by
        rw [hname, String.toList_ofList]
        rfl
      have hhours : zone.2 = 0 := hzero _ (List.mem_of_find?_eq_some hfind) hlength
      rw [Option.map_some, hhours]
      rfl
    | none =>
      have hne : String.ofList [c.toLower] ≠ "j" := fun he => hj (by
        have hlist := congrArg String.toList he
        rw [String.toList_ofList] at hlist
        exact List.head_eq_of_cons_eq hlist)
      rw [Option.map_none, Option.none_or]
      exact if_pos (by rw [List.map_singleton, decide_eq_true hne]; rfl)
  | east h | west h => simp [zone?, shift?_complete h]

theorem Comments.stops_isAlpha (h : Comments cs) : Stops Char.isAlpha cs := by
  cases h with
  | nil => exact nofun
  | @cons b inner cs hb hi h =>
    cases b with
    | nil =>
      rintro _ ⟨⟩
      decide
    | cons c b =>
      rintro _ ⟨⟩
      exact not_isAlpha_of_isBlank (hb c List.mem_cons_self)

theorem IsNamed.stops_isBlank {names : List String} {word : List Char} {i : Nat}
    (h : IsNamed names word i) (h3 : ∀ name ∈ names, name.toList.length = 3)
    (hn : ∀ name ∈ names, name.toList.all Char.isAlpha = true) (rest : List Char) :
    Stops isBlank (word ++ rest) := by
  have hlen := h.length_eq h3
  have hne : word ≠ [] := List.length_pos_iff.mp (by omega)
  exact Stops.append hne (fun c hc => not_isBlank_of_isAlpha (h.isAlpha hn c hc)) rest

theorem ZoneText.exists_cons {z : List Char} {offset : Int} (h : ZoneText z offset) :
    ∃ c z', z = c :: z' ∧ (c.isAlpha = true ∨ c = '+' ∨ c = '-') := by
  cases h with
  | @named _ name hours h hcs =>
    have hzones : ∀ zone ∈ namedZones,
        zone.1.toList ≠ [] ∧ zone.1.toList.all Char.isAlpha = true := by
      decide
    obtain ⟨hne, hall⟩ := hzones _ h
    cases z with
    | nil => exact absurd hcs.symm hne
    | cons c z =>
      exact ⟨c, z, rfl, .inl (isAlpha_of_map_toLower hcs hall c List.mem_cons_self)⟩
  | @military c hc hj => exact ⟨c, [], rfl, .inl hc⟩
  | east => exact ⟨_, _, rfl, .inr (.inl rfl)⟩
  | west => exact ⟨_, _, rfl, .inr (.inr rfl)⟩

/-- No zone begins with what could belong to the time before it. -/
theorem ZoneText.stops {z : List Char} {offset : Int} (h : ZoneText z offset) (rest : List Char) :
    Stops isBlank (z ++ rest) ∧ ∀ c ∈ (z ++ rest).head?, c ≠ ':' := by
  obtain ⟨c, z', rfl, hc⟩ := h.exists_cons
  have hcolon : ':'.isAlpha = false := by decide
  constructor
  · rintro _ ⟨⟩
    rcases hc with ha | rfl | rfl
    · exact not_isBlank_of_isAlpha ha
    · decide
    · decide
  · rintro _ ⟨⟩
    rcases hc with ha | rfl | rfl
    · rintro rfl
      rw [hcolon] at ha
      cases ha
    · decide
    · decide

/-- With or without a day of the week, the digits of the day are what comes next. -/
theorem WeekdayText.weekday? {w b ds : List Char} {weekday : Option Nat} {min max n : Nat}
    (h : WeekdayText w weekday) (hb : Blanks b) (hds : Digits min max ds n) (hmin : 0 < min)
    (rest : List Char) : ∃ x, MailDate.weekday? (trimStart (w ++ (b ++ (ds ++ rest)))) =
      some (weekday, x) ∧ trimStart x = ds ++ rest := by
  have hstops : Stops isBlank (ds ++ rest) := hds.stops_isBlank hmin rest
  have htrim : trimStart (b ++ (ds ++ rest)) = ds ++ rest := by
    rw [trimStart_append hb, trimStart_of_stops hstops]
  cases h with
  | absent =>
    rw [List.nil_append, htrim]
    refine ⟨ds ++ rest, ?_, trimStart_of_stops hstops⟩
    cases ds with
    | nil => exact absurd hds.min_le (Nat.not_le.mpr hmin)
    | cons c ds =>
      exact weekday?_absent (not_isAlpha_of_isDigit (hds.isDigit c List.mem_cons_self)) _
  | @told word i hword =>
    have hstops' : Stops isBlank (word ++ [','] ++ (b ++ (ds ++ rest))) := by
      rw [List.append_assoc]
      exact hword.stops_isBlank (by decide) (by decide) _
    rw [trimStart_of_stops hstops']
    exact ⟨_, weekday?_told (.told hword) _, htrim⟩

theorem Gap.stops_isDigit {g : List Char} (h : Gap g) (rest : List Char) :
    Stops Char.isDigit (g ++ rest) :=
  Stops.append h.2 (fun c hc => not_isDigit_of_isBlank (h.1 c hc)) rest

theorem YearText.stops_isBlank {y : List Char} {year : Nat} (h : YearText y year)
    (rest : List Char) : Stops isBlank (y ++ rest) := by
  obtain ⟨n, hn, -⟩ := h.digits
  exact hn.stops_isBlank (by decide) rest

theorem TimeText.stops_isBlank {t : List Char} {hour minute second : Nat}
    (h : TimeText t hour minute second) (rest : List Char) : Stops isBlank (t ++ rest) := by
  cases h with
  | mk hh =>
    rw [List.append_assoc]
    exact hh.stops_isBlank (by decide) _

end

end ResilientHttp.DateParts
