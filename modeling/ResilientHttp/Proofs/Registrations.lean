/-!
# Tables in which the last registration counts

A table keeps one entry for each key, and an entry that comes in takes the place of the one that stood
under its key. So what stands under a key after any registrations is what was registered for it last.
-/
namespace ResilientHttp.Registrations

variable {α β γ : Type}

def last (key : String) (entries : List (String × α)) : Option α :=
  (entries.filter fun e => e.1 = key).getLast?.map Prod.snd

theorem lookup_filter_ne {entries : List (String × α)} {k key : String} (h : k ≠ key) :
    (entries.filter fun e => e.1 ≠ k).lookup key = entries.lookup key := by
  induction entries with
  | nil => rfl
  | cons e entries ih =>
    obtain ⟨name, a⟩ := e
    by_cases hn : name = k
    · have hkey : (key == name) = false := beq_false_of_ne fun he => h (hn.symm.trans he.symm)
      rw [List.filter_cons_of_neg (by simp [hn]), List.lookup_cons, hkey, ih]
    · rw [List.filter_cons_of_pos (by simp [hn]), List.lookup_cons, List.lookup_cons, ih]

theorem lookup_replace (entries : List (String × α)) (k key : String) (a : α) :
    ((k, a) :: entries.filter fun e => e.1 ≠ k).lookup key =
      if k = key then some a else entries.lookup key := by
  by_cases h : k = key
  · subst h
    simp
  · rw [if_neg h, List.lookup_cons, beq_false_of_ne (Ne.symm h), lookup_filter_ne h]

end ResilientHttp.Registrations
