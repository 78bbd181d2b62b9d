import ResilientHttp.Send

/-!
# What the parts of a run leave in the world

Each part of a run adds certain events to the history and no others. Everything that a history tells
of calls and waits is therefore known from the few places that note them.
-/
namespace ResilientHttp.Runs

section
variable {ε α β γ : Type} {x : Except ε α} {f : α → Except ε β}

@[simp] theorem bind_ok (a : α) (f : α → Except ε β) : (Except.ok a).bind f = f a := rfl

@[simp] theorem bind_error (e : ε) (f : α → Except ε β) : (Except.error e).bind f = .error e := rfl

@[simp] theorem map_ok (f : α → β) (a : α) : (Except.ok a : Except ε α).map f = .ok (f a) := rfl

@[simp] theorem map_error (f : α → β) (e : ε) : (Except.error e).map f = .error e := rfl

theorem bind_eq_ok_iff {b : β} : x.bind f = .ok b ↔ ∃ a, x = .ok a ∧ f a = .ok b := by
  cases x <;> simp

theorem bind_eq_error_iff {e : ε} :
    x.bind f = .error e ↔ x = .error e ∨ ∃ a, x = .ok a ∧ f a = .error e := by
  cases x <;> simp

theorem map_eq_ok_iff {f : α → β} {b : β} : x.map f = .ok b ↔ ∃ a, x = .ok a ∧ f a = b := by
  cases x <;> simp

theorem map_eq_error_iff {f : α → β} {e : ε} : x.map f = .error e ↔ x = .error e := by
  cases x <;> simp

theorem bind_congr {g : α → Except ε β} (h : ∀ a, x = .ok a → f a = g a) :
    x.bind f = x.bind g := by
  cases x with
  | error e => rfl
  | ok a => exact h a rfl

def halt? (x : Except ε α) : Option ε :=
  match x with
  | .error e => some e
  | .ok _ => none

theorem halt?_eq_some_iff {e : ε} : halt? x = some e ↔ x = .error e := by
  cases x <;> simp [halt?]

theorem toOption_eq_some_iff {a : α} : x.toOption = some a ↔ x = .ok a := by
  cases x <;> simp [Except.toOption]

theorem bind_map {f : α → β} {g : β → Except ε γ} : (x.map f).bind g = x.bind fun a => g (f a) := by
  cases x <;> rfl

theorem map_bind {g : β → γ} : (x.bind f).map g = x.bind fun a => (f a).map g := by
  cases x <;> rfl

end

def IsTaken : Event → Prop
  | .taken _ => True
  | _ => False

/-- The event is none of those that count: no transport call, no wait and no opening of a body. -/
def IsAside : Event → Prop
  | .call _ | .wait _ | .opening => False
  | _ => True

theorem IsTaken.aside {e : Event} (h : IsTaken e) : IsAside e := by
  cases e with
  | taken n => trivial
  | _ => exact h.elim

/-- The event can come behind the transport call of an attempt: it is no call and no opening. -/
def IsAfter : Event → Prop
  | .call _ | .opening => False
  | _ => True

theorem IsAside.after {e : Event} (h : IsAside e) : IsAfter e := by
  cases e with
  | call _ | opening | wait _ => exact h.elim
  | _ => trivial

/-- Nothing happened to the breaker, and all that the history tells since is of a kind. -/
structure Adds (P : Event → Prop) (w w' : World) : Prop where
  breaker : w'.breaker = w.breaker
  history : ∃ es, w'.history = es ++ w.history ∧ ∀ x ∈ es, P x.2

section
variable {P Q : Event → Prop} {w w' w'' : World}

theorem Adds.of_eq (hb : w'.breaker = w.breaker) (hh : w'.history = w.history) : Adds P w w' :=
  ⟨hb, [], hh, by simp⟩

theorem Adds.refl (w : World) : Adds P w w := .of_eq rfl rfl

theorem Adds.trans (h : Adds P w w') (h' : Adds P w' w'') : Adds P w w'' := by
  obtain ⟨es, he, hp⟩ := h.history
  obtain ⟨es', he', hp'⟩ := h'.history
  refine ⟨h'.breaker.trans h.breaker, es' ++ es, by rw [he', he, List.append_assoc], ?_⟩
  intro x hx
  rcases List.mem_append.mp hx with hx | hx
  · exact hp' x hx
  · exact hp x hx

theorem Adds.mono (h : Adds P w w') (hpq : ∀ e, P e → Q e) : Adds Q w w' := by
  obtain ⟨es, he, hp⟩ := h.history
  exact ⟨h.breaker, es, he, fun x hx => hpq _ (hp x hx)⟩

theorem Adds.note {e : Event} (h : P e) (h' : Adds P (w.note e) w') : Adds P w w' :=
  have hn : Adds P w (w.note e) := ⟨rfl, [(w.now, e)], rfl, by simpa using h⟩
  hn.trans h'

end

/-- Picks what a history tells, the earliest first. -/
def told {α : Type} (f : Instant × Event → Option α) (w : World) : List α :=
  (w.history.filterMap f).reverse

def callTimes : World → List Instant := told fun
  | (t, .call _) => some t
  | _ => none

def waits : World → List Span := told fun
  | (_, .wait d) => some d
  | _ => none

theorem told_note {α : Type} (f : Instant × Event → Option α) (w : World) (e : Event) :
    told f (w.note e) = told f w ++ (f (w.now, e)).toList := by
  cases h : f (w.now, e) <;> simp [told, World.note, h]

theorem Adds.told {α : Type} {P : Event → Prop} {w w' : World} (h : Adds P w w')
    {f : Instant × Event → Option α} (hf : ∀ t e, P e → f (t, e) = none) :
    told f w' = told f w := by
  obtain ⟨es, he, hp⟩ := h.history
  have hnil : es.filterMap f = [] := by
    rw [List.filterMap_eq_nil_iff]
    exact fun x hx => hf x.1 x.2 (hp x hx)
  simp [Runs.told, he, List.filterMap_append, hnil]

section
variable {P : Event → Prop} {w w' : World}

theorem Adds.callTimes (h : Adds P w w') (hp : ∀ r, ¬ P (.call r) := by exact fun _ h => h) :
    callTimes w' = callTimes w :=
  h.told fun t e he => by
    cases e with
    | call r => exact absurd he (hp r)
    | _ => rfl

theorem Adds.waits (h : Adds P w w') (hp : ∀ d, ¬ P (.wait d) := by exact fun _ h => h) :
    waits w' = waits w :=
  h.told fun t e he => by
    cases e with
    | wait d => exact absurd he (hp d)
    | _ => rfl

theorem Adds.openings (h : Adds P w w') (hp : ¬ P .opening := by exact fun h => h) :
    w'.openings = w.openings := by
  obtain ⟨es, he, hes⟩ := h.history
  simp only [World.openings, he, List.countP_append, Nat.add_eq_right, List.countP_eq_zero]
  intro x hx
  have hx := hes x hx
  obtain ⟨t, e⟩ := x
  cases e with
  | opening => exact absurd hx hp
  | _ => simp

end

theorem calls_eq_length (w : World) : w.calls = (callTimes w).length := by
  simp only [World.calls, callTimes, told, List.length_reverse]
  induction w.history with
  | nil => rfl
  | cons x es ih =>
    obtain ⟨t, e⟩ := x
    cases e <;> simp [ih]

theorem bind_eq {α β : Type} (x : Run α) (f : α → Run β) (w : World) :
    (x >>= f) w = (x w).bind fun y => f y.1 y.2 := rfl

@[simp] theorem pure_eq {α : Type} (a : α) (w : World) : (pure a : Run α) w = .ok (a, w) := rfl

@[simp] theorem get_eq (w : World) : (get : Run World) w = .ok (w, w) := rfl

@[simp] theorem modify_eq (f : World → World) (w : World) :
    (modify f : Run Unit) w = .ok ((), f w) := rfl

@[simp] theorem note_eq (e : Event) (w : World) : Run.note e w = .ok ((), w.note e) := rfl

theorem bind_pure_eq {α β : Type} (x : Run α) (f : α → β) (w : World) :
    (x >>= fun a => pure (f a)) w = (x w).map fun y => (f y.1, y.2) := by
  rw [bind_eq]
  cases x w <;> rfl

theorem of_bind {α β : Type} {x : Run α} {f : α → Run β} {w w' : World} {b : β}
    (h : (x >>= f) w = .ok (b, w')) : ∃ a w₁, x w = .ok (a, w₁) ∧ f a w₁ = .ok (b, w') := by
  rw [bind_eq, bind_eq_ok_iff] at h
  obtain ⟨⟨a, w₁⟩, hx, hf⟩ := h
  exact ⟨a, w₁, hx, hf⟩

/-- A run halts because one of its parts does. -/
theorem of_bind_error {α β : Type} {x : Run α} {f : α → Run β} {w : World} {e : Halt}
    (h : (x >>= f) w = .error e) :
    x w = .error e ∨ ∃ a w₁, x w = .ok (a, w₁) ∧ f a w₁ = .error e := by
  rw [bind_eq, bind_eq_error_iff] at h
  exact h.imp_right fun ⟨⟨a, w₁⟩, hx, hf⟩ => ⟨a, w₁, hx, hf⟩

theorem le_alarm_due (slack : Nat) (now due : Instant) : due ≤ alarm slack now due := by
  simp only [alarm]
  split
  · assumption
  · have hdiv := Nat.div_add_mod (due + slack) (slack + 1)
    have hmod := Nat.mod_lt (due + slack) (Nat.add_one_pos slack)
    rw [Nat.mul_comm] at hdiv
    simp only [Instant] at *
    omega

theorem le_alarm_now (slack : Nat) (now due : Instant) : now ≤ alarm slack now due := by
  by_cases h : due ≤ now
  · exact Nat.le_of_eq (if_pos h).symm
  · exact Nat.le_trans (Nat.le_of_not_le h) (le_alarm_due slack now due)

/-- What cuts something short does so no earlier than now. -/
theorem interruption_now {b : Bounds} {w : World} {limit : Option Instant} {now : Instant}
    {i : Interruption} (h : b.interruption? w limit = some (now, i)) : w.now ≤ now := by
  simp only [Bounds.interruption?] at h
  split at h
  · rename_i t hf
    cases h
    obtain ⟨hc, -⟩ := Option.filter_eq_some_iff.mp hf
    split at hc
    · cases hc
      exact Nat.le_refl _
    · obtain ⟨t', -, rfl⟩ := Option.map_eq_some_iff.mp hc
      exact Nat.le_max_left _ _
  · obtain ⟨t, hf, ht⟩ := Option.map_eq_some_iff.mp h
    cases ht
    obtain ⟨hd, -⟩ := Option.filter_eq_some_iff.mp hf
    obtain ⟨t', -, rfl⟩ := Option.map_eq_some_iff.mp hd
    exact le_alarm_now _ _ _

/-- An activity takes items of bodies and tells nothing else. -/
theorem run_adds {α : Type} {b : Bounds} {t : Activity α} {w w' : World}
    {r : Except Interruption α} (h : t.run b w = .ok (r, w')) : Adds IsTaken w w' := by
  induction t generalizing w with
  | done a =>
    obtain ⟨-, rfl⟩ := Prod.mk.inj (Except.ok.inj h)
    exact .refl w
  | taken call next ih => exact .note (e := .taken call) trivial (ih h)
  | stall d next ih =>
    refine Adds.trans ?_ (ih h)
    exact .of_eq rfl rfl
  | cancel next ih =>
    refine Adds.trans ?_ (ih h)
    exact .of_eq rfl rfl
  | hang =>
    simp only [Activity.run] at h
    split at h
    · cases h
      exact .of_eq rfl rfl
    · cases h
  | sleep d next ih =>
    simp only [Activity.run] at h
    split at h
    · exact ih h
    · split at h
      · obtain ⟨-, rfl⟩ := Prod.mk.inj (Except.ok.inj h)
        exact .of_eq rfl rfl
      · refine Adds.trans ?_ (ih h)
        exact .of_eq rfl rfl

theorem runThrough_adds {α : Type} {b : Bounds} {t : Activity α} {w w' : World} {a : α}
    (h : t.runThrough b w = .ok (a, w')) : Adds IsTaken w w' := by
  induction t generalizing w with
  | done a =>
    obtain ⟨-, rfl⟩ := Prod.mk.inj (Except.ok.inj h)
    exact .refl w
  | taken call next ih => exact .note (e := .taken call) trivial (ih h)
  | stall d next ih =>
    refine Adds.trans ?_ (ih h)
    exact .of_eq rfl rfl
  | cancel next ih =>
    refine Adds.trans ?_ (ih h)
    exact .of_eq rfl rfl
  | hang => cases h
  | sleep d next ih =>
    simp only [Activity.runThrough] at h
    split at h
    · exact ih h
    · refine Adds.trans ?_ (ih h)
      exact .of_eq rfl rfl

theorem run_now {α : Type} {b : Bounds} {t : Activity α} {w w' : World}
    {r : Except Interruption α} (h : t.run b w = .ok (r, w')) : w.now ≤ w'.now := by
  induction t generalizing w with
  | done a =>
    cases h
    exact Nat.le_refl _
  | taken call next ih => exact ih (w := w.note (.taken call)) h
  | stall d next ih => exact Nat.le_trans (Nat.le_add_right _ _) (ih h)
  | cancel next ih =>
    exact ih (w := { w with cancelled := w.cancelled || b.cancellable }) h
  | hang =>
    simp only [Activity.run] at h
    split at h
    · rename_i hi
      cases h
      exact interruption_now hi
    · cases h
  | sleep d next ih =>
    simp only [Activity.run] at h
    split at h
    · exact ih h
    · split at h
      · rename_i hi
        cases h
        exact interruption_now hi
      · exact Nat.le_trans (le_alarm_now _ _ _) (ih h)

theorem runThrough_now {α : Type} {b : Bounds} {t : Activity α} {w w' : World} {a : α}
    (h : t.runThrough b w = .ok (a, w')) : w.now ≤ w'.now := by
  induction t generalizing w with
  | done a =>
    cases h
    exact Nat.le_refl _
  | taken call next ih => exact ih (w := w.note (.taken call)) h
  | stall d next ih => exact Nat.le_trans (Nat.le_add_right _ _) (ih h)
  | cancel next ih =>
    exact ih (w := { w with cancelled := w.cancelled || b.cancellable }) h
  | hang => cases h
  | sleep d next ih =>
    simp only [Activity.runThrough] at h
    split at h
    · exact ih h
    · exact Nat.le_trans (le_alarm_now _ _ _) (ih h)

/-- What a bound can cut short either does not begin, or is noted and then takes items of bodies. -/
theorem within_cases {α : Type} {b : Bounds} {e : Event} {t : Activity α} {w w' : World}
    {x : Except Error α} (h : Run.within b e t w = .ok (x, w')) :
    w' = w ∨ Adds IsTaken (w.note e) w' := by
  obtain ⟨⟨r, w₁⟩, hr, he⟩ := map_eq_ok_iff.mp h
  obtain ⟨-, rfl⟩ := Prod.mk.inj he
  simp only [Activity.runBounded] at hr
  split at hr
  · obtain ⟨-, rfl⟩ := Prod.mk.inj (Except.ok.inj hr)
    exact .inl rfl
  · split at hr
    · obtain ⟨-, rfl⟩ := Prod.mk.inj (Except.ok.inj hr)
      exact .inl rfl
    · exact .inr (run_adds hr)

theorem away_sound : 100 ≤ 503 ∧ 503 ≤ 999 := by decide

def away : Status := ⟨503, away_sound⟩

end ResilientHttp.Runs
