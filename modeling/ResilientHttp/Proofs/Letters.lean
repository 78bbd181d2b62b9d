import Mathlib
import ResilientHttp.Text.Blank

/-!
# Letters, digits and blanks

Texts are read character by character, and what kind of character comes next decides how reading
goes on. The kinds are told apart by the numbers of their characters.
-/
namespace ResilientHttp.Letters
open Text

section
variable {c d : Char}

theorem isUpper_iff_toNat : c.isUpper = true ↔ 65 ≤ c.toNat ∧ c.toNat ≤ 90 := by
  simp [Char.isUpper, UInt32.le_iff_toNat_le, ← Char.toNat_val]

theorem isLower_iff_toNat : c.isLower = true ↔ 97 ≤ c.toNat ∧ c.toNat ≤ 122 := by
  simp [Char.isLower, UInt32.le_iff_toNat_le, ← Char.toNat_val]

theorem toNat_of_isAlpha (h : c.isAlpha = true) : 65 ≤ c.toNat ∧ c.toNat ≤ 122 := by
  rw [Char.isAlpha, Bool.or_eq_true, isUpper_iff_toNat, isLower_iff_toNat] at h
  omega

theorem toNat_of_isDigit (h : c.isDigit = true) : 48 ≤ c.toNat ∧ c.toNat ≤ 57 :=
  Char.isDigit_iff_toNat.mp h

theorem toNat_of_isBlank (h : isBlank c = true) : c.toNat ≤ 32 ∨ 133 ≤ c.toNat := by
  simp [isBlank] at h
  omega

theorem not_isBlank_of_toNat (h : 32 < c.toNat ∧ c.toNat ≤ 122) : isBlank c = false := by
  refine Bool.eq_false_iff.mpr fun hb => ?_
  have := toNat_of_isBlank hb
  omega

theorem not_isBlank_of_isDigit (h : c.isDigit = true) : isBlank c = false := by
  have := toNat_of_isDigit h
  exact not_isBlank_of_toNat (by omega)

theorem not_isBlank_of_isAlpha (h : c.isAlpha = true) : isBlank c = false := by
  have := toNat_of_isAlpha h
  exact not_isBlank_of_toNat (by omega)

theorem not_isAlpha_of_isDigit (h : c.isDigit = true) : c.isAlpha = false := by
  refine Bool.eq_false_iff.mpr fun ha => ?_
  have := toNat_of_isAlpha ha
  have := toNat_of_isDigit h
  omega

theorem not_isAlpha_of_isBlank (h : isBlank c = true) : c.isAlpha = false := by
  refine Bool.eq_false_iff.mpr fun ha => ?_
  rw [not_isBlank_of_isAlpha ha] at h
  cases h

theorem not_isDigit_of_isBlank (h : isBlank c = true) : c.isDigit = false := by
  refine Bool.eq_false_iff.mpr fun hd => ?_
  rw [not_isBlank_of_isDigit hd] at h
  cases h

/-! ## Lower case -/

theorem toNat_toLower (c : Char) :
    c.toLower = c ∨ 65 ≤ c.toNat ∧ c.toNat ≤ 90 ∧ c.toLower.toNat = c.toNat + 32 := by
  by_cases h : c.isUpper = true
  · have hrange := isUpper_iff_toNat.mp h
    have hvalid : (c.toNat + 32).isValidChar := .inl (by omega)
    rw [Char.toLower_eq_of_isUpper h, Char.toNat_ofNat, if_pos hvalid]
    exact .inr ⟨hrange.1, hrange.2, rfl⟩
  · exact .inl (Char.toLower_eq_of_not_isUpper h)

theorem isBlank_toLower (c : Char) : isBlank c.toLower = isBlank c := by
  rcases toNat_toLower c with h | ⟨hle, hle', h⟩
  · rw [h]
  · simp only [isBlank, h]
    grind

theorem toLower_eq_iff (hd : d.isAlpha = false) : c.toLower = d ↔ c = d := by
  constructor
  · intro h
    by_cases hc : c.isUpper = true
    · have halpha : c.toLower.isAlpha = true := by
        rw [Char.isAlpha_toLower_eq_isAlpha, Char.isAlpha, hc, Bool.true_or]
      rw [h, hd] at halpha
      cases halpha
    · rwa [Char.toLower_eq_of_not_isUpper hc] at h
  · rintro rfl
    refine Char.toLower_eq_of_not_isUpper fun hc => ?_
    rw [Char.isAlpha, hc] at hd
    cases hd

/-- A word is made of letters if it is so in lower case. -/
theorem isAlpha_of_map_toLower {word name : List Char} (h : word.map Char.toLower = name)
    (hn : name.all Char.isAlpha = true) : ∀ c ∈ word, c.isAlpha = true := by
  intro c hc
  rw [← Char.isAlpha_toLower_eq_isAlpha]
  exact List.all_eq_true.mp hn _ (h ▸ List.mem_map_of_mem hc)

end

end ResilientHttp.Letters
