import Mathlib.Data.List.Induction
import Mathlib.Data.List.TakeWhile
import ResilientHttp.Text.Blank

/-!
# Texts without the blanks around them

A text is some blanks, what is left when it is trimmed, and some blanks again. What is left neither
begins nor ends with a blank, and no other part of the text that has only blanks around it does so.
-/
namespace ResilientHttp.Trimming
open Text

def Blanks (cs : List Char) : Prop := ∀ c ∈ cs, isBlank c = true

/-- No run of such characters begins here. -/
def Stops (p : Char → Bool) (cs : List Char) : Prop := ∀ c ∈ cs.head?, p c = false

/-- All that a text holds between its outer blanks. -/
structure Stripped (cs t : List Char) : Prop where
  padded : ∃ front back, Blanks front ∧ Blanks back ∧ cs = front ++ t ++ back
  begins : Stops isBlank t
  ends : Stops isBlank t.reverse

section
variable {c : Char} {cs t front back : List Char}

theorem Blanks.nil : Blanks [] := fun _ hc => absurd hc List.not_mem_nil

theorem Blanks.cons (hc : isBlank c = true) (h : Blanks cs) : Blanks (c :: cs) :=
  List.forall_mem_cons.mpr ⟨hc, h⟩

theorem Blanks.reverse (h : Blanks cs) : Blanks cs.reverse :=
  fun c hc => h c (List.mem_reverse.mp hc)

theorem Stops.append {p : Char → Bool} (hne : cs ≠ []) (h : ∀ c ∈ cs, p c = false)
    (rest : List Char) : Stops p (cs ++ rest) := by
  cases cs with
  | nil => exact absurd rfl hne
  | cons c cs =>
    rintro _ ⟨⟩
    exact h c List.mem_cons_self

/-! ## One end -/

theorem stops_trimStart (cs : List Char) : Stops isBlank (trimStart cs) := by
  intro c hc
  have h := List.head?_dropWhile_not isBlank cs
  rw [trimStart] at hc
  rw [hc] at h
  simpa using h

theorem blanks_append_trimStart (cs : List Char) :
    ∃ front, Blanks front ∧ cs = front ++ trimStart cs :=
  ⟨cs.takeWhile isBlank, fun _ hc => List.mem_takeWhile_imp hc,
    List.takeWhile_append_dropWhile.symm⟩

theorem trimStart_append (h : Blanks front) (cs : List Char) :
    trimStart (front ++ cs) = trimStart cs :=
  List.dropWhile_append_of_pos h

theorem trimStart_of_stops (h : Stops isBlank cs) : trimStart cs = cs := by
  cases cs with
  | nil => rfl
  | cons c cs => exact List.dropWhile_cons_of_neg (by simp [h c rfl])

theorem trimStart_append_cons (h : Blanks front) (hc : isBlank c = false) (cs : List Char) :
    trimStart (front ++ c :: cs) = c :: cs := by
  rw [trimStart_append h]
  refine trimStart_of_stops ?_
  rintro _ ⟨⟩
  exact hc

theorem trimEnd_eq (cs : List Char) : trimEnd cs = (trimStart cs.reverse).reverse := rfl

/-! ## Both ends -/

theorem trimChars_cons (h : isBlank c = true) (cs : List Char) :
    trimChars (c :: cs) = trimChars cs := by
  simp [trimChars, trimStart, h]

theorem trimChars_concat (h : isBlank c = true) (cs : List Char) :
    trimChars (cs ++ [c]) = trimChars cs := by
  simp only [trimChars, trimStart, trimEnd, List.dropWhile_append]
  split
  · rename_i he
    simp [List.isEmpty_iff.mp he, h]
  · simp [h]

theorem trimChars_padded (hf : Blanks front) (hb : Blanks back) (cs : List Char) :
    trimChars (front ++ cs ++ back) = trimChars cs := by
  rw [trimChars, List.append_assoc, trimStart_append hf, ← trimChars]
  induction back using List.reverseRecOn with
  | nil => rw [List.append_nil]
  | append_singleton back c ih =>
    rw [← List.append_assoc, trimChars_concat (hb c (by simp)),
      ih fun b hm => hb b (List.mem_append_left _ hm)]

theorem stripped_trimChars (cs : List Char) : Stripped cs (trimChars cs) := by
  obtain ⟨front, hf, hcs⟩ := blanks_append_trimStart cs
  obtain ⟨back, hb, hend⟩ := blanks_append_trimStart (trimStart cs).reverse
  have hsplit : trimStart cs = trimChars cs ++ back.reverse := by
    rw [← List.reverse_reverse (trimStart cs), hend, List.reverse_append]
    rfl
  refine ⟨⟨front, back.reverse, hf, hb.reverse, ?_⟩, ?_, ?_⟩
  · rw [List.append_assoc, ← hsplit]
    exact hcs
  · have hbegins := stops_trimStart cs
    rw [hsplit] at hbegins
    cases ht : trimChars cs with
    | nil => exact nofun
    | cons c t =>
      rw [ht] at hbegins
      exact hbegins
  · rw [trimChars, trimEnd_eq, List.reverse_reverse]
    exact stops_trimStart _

/-- Trimming leaves what stands between the outer blanks, and nothing else does. -/
theorem trimChars_eq_iff : trimChars cs = t ↔ Stripped cs t := by
  constructor
  · rintro rfl
    exact stripped_trimChars cs
  · intro h
    obtain ⟨front, back, hf, hb, rfl⟩ := h.padded
    rw [trimChars_padded hf hb, trimChars, trimStart_of_stops h.begins, trimEnd_eq,
      trimStart_of_stops h.ends, List.reverse_reverse]

end

end ResilientHttp.Trimming
