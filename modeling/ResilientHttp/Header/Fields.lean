import ResilientHttp.Header.Basic

/-! The headers of a message: several values may stand under one name, and keep their order. -/
namespace ResilientHttp.Header

structure Fields where
  entries : List (Name × Value) := []
deriving DecidableEq

namespace Fields

def empty : Fields := {}

def values (h : Fields) (n : Name) : List Value :=
  (h.entries.filter fun e => e.1 = n).map Prod.snd

def get? (h : Fields) (n : Name) : Option Value := (h.values n).head?

def contains (h : Fields) (n : Name) : Bool := h.entries.any fun e => e.1 = n

def erase (h : Fields) (n : Name) : Fields := ⟨h.entries.filter fun e => e.1 ≠ n⟩

def append (h : Fields) (n : Name) (v : Value) : Fields := ⟨h.entries ++ [(n, v)]⟩

/-- Makes a value the only one of its name. -/
def insert (h : Fields) (n : Name) (v : Value) : Fields := (h.erase n).append n v

/-- Replaces the values of each name that `more` holds by all of its values there. -/
def extend (h more : Fields) : Fields :=
  ⟨h.entries.filter (fun e => !more.contains e.1) ++ more.entries⟩

/-- Inserts the entries of `more` one by one, so that the last value of each name is left. -/
def override (h more : Fields) : Fields :=
  more.entries.foldl (fun acc e => acc.insert e.1 e.2) h

def text? (h : Fields) (n : Name) : Option String := (h.get? n).bind Value.ascii?

/-- The first value under a name given as text; no header has an invalid name. -/
def textNamed? (h : Fields) (name : String) : Option String :=
  (Name.parse? name).bind h.text?

/-- All entries, in the order of their names; those of one name keep their order. -/
def sorted (h : Fields) : List (Name × Value) :=
  h.entries.mergeSort fun a b => a.1.text ≤ b.1.text

theorem values_append (h : Fields) (n m : Name) (v : Value) :
    (h.append m v).values n = h.values n ++ if m = n then [v] else [] := by
  simp only [values, append, List.filter_append, List.map_append]
  by_cases hm : m = n <;> simp [hm]

theorem values_erase (h : Fields) (n m : Name) :
    (h.erase m).values n = if m = n then [] else h.values n := by
  simp only [values, erase, List.filter_filter]
  by_cases hm : m = n
  · subst hm
    simp
  · simp only [hm, if_false]
    congr 1
    apply List.filter_congr
    intro e _
    by_cases he : e.1 = n
    · have : ¬ n = m := fun h => hm h.symm
      simp [he, this]
    · simp [he]

theorem values_insert (h : Fields) (n m : Name) (v : Value) :
    (h.insert m v).values n = if m = n then [v] else h.values n := by
  rw [insert, values_append, values_erase]
  by_cases hm : m = n <;> simp [hm]

end Fields
end ResilientHttp.Header
