import ResilientHttp.Codecs
import ResilientHttp.Proofs.Letters
import ResilientHttp.Proofs.Trimming

/-!
# Normal forms of media types

A content type names a media type in many spellings: with parameters behind it, with blanks around
it, in letters of either case. Its normal form is the spelling without any of these, and two content
types have the same one exactly if they differ in nothing else.
-/
namespace ResilientHttp.MediaTypes
open Letters MediaType Text Trimming

/-! ## Content types -/

/-- What stands in front of the parameters, without the blanks around it. -/
inductive Bare : List Char → List Char → Prop
  | whole {cs t : List Char} (hs : ';' ∉ cs) (h : Stripped cs t) : Bare cs t
  | parameters {cs t : List Char} (hs : ';' ∉ cs) (h : Stripped cs t) (ps : List Char) :
      Bare (cs ++ ';' :: ps) t

/-- One slash with something on both sides of it, and no blank. -/
inductive TwoParts : List Char → Prop
  | mk {a b : List Char} (ha : a ≠ []) (hb : b ≠ []) (hsa : '/' ∉ a) (hsb : '/' ∉ b)
      (hblank : ∀ c ∈ a ++ '/' :: b, isBlank c = false) : TwoParts (a ++ '/' :: b)

/-- Two texts that differ in blanks around them, in parameters and in the case of letters. -/
inductive Alike : List Char → List Char → Prop
  | front {b : List Char} (hb : Blanks b) (cs : List Char) : Alike (b ++ cs) cs
  | back {b : List Char} (hb : Blanks b) (cs : List Char) : Alike (cs ++ b) cs
  | parameters (cs ps : List Char) : Alike (cs ++ ';' :: ps) cs
  | letters {cs cs' : List Char} (h : cs.map Char.toLower = cs'.map Char.toLower) : Alike cs cs'
  | symm {cs cs' : List Char} (h : Alike cs cs') : Alike cs' cs
  | trans {cs cs' cs'' : List Char} (h : Alike cs cs') (h' : Alike cs' cs'') : Alike cs cs''

/-! ## Letters in lower case -/

section
variable {cs t : List Char}

theorem trimStart_map_toLower (cs : List Char) :
    trimStart (cs.map Char.toLower) = (trimStart cs).map Char.toLower := by
  rw [trimStart, List.dropWhile_map, trimStart]
  congr 2
  exact funext isBlank_toLower

theorem trimChars_map_toLower (cs : List Char) :
    trimChars (cs.map Char.toLower) = (trimChars cs).map Char.toLower := by
  simp only [trimChars, trimEnd_eq, trimStart_map_toLower, ← List.map_reverse]

theorem beforeParameters_map_toLower (cs : List Char) :
    (cs.map Char.toLower).takeWhile (· ≠ ';') = (cs.takeWhile (· ≠ ';')).map Char.toLower := by
  rw [List.takeWhile_map]
  congr 2
  funext c
  have hiff : c.toLower = ';' ↔ c = ';' := toLower_eq_iff rfl
  simp [hiff]

/-! ## The bare media type -/

theorem takeWhile_of_not_mem {cs : List Char} (hs : ';' ∉ cs) : cs.takeWhile (· ≠ ';') = cs :=
  List.takeWhile_eq_self_iff.mpr fun _ hc => decide_eq_true fun he => hs (he ▸ hc)

theorem takeWhile_append_semicolon (cs ps : List Char) :
    (cs ++ ';' :: ps).takeWhile (· ≠ ';') = cs.takeWhile (· ≠ ';') := by
  induction cs with
  | nil => rfl
  | cons c cs ih => rw [List.cons_append, List.takeWhile_cons, List.takeWhile_cons, ih]

theorem bare_iff : Bare cs t ↔ trimChars (cs.takeWhile (· ≠ ';')) = t := by
  constructor
  · intro h
    cases h with
    | whole hs h => rwa [takeWhile_of_not_mem hs, trimChars_eq_iff]
    | parameters hs h ps =>
      rwa [takeWhile_append_semicolon, takeWhile_of_not_mem hs, trimChars_eq_iff]
  · intro h
    have hs : ';' ∉ cs.takeWhile (· ≠ ';') := fun hm => by simpa using List.mem_takeWhile_imp hm
    have hsplit : cs.takeWhile (· ≠ ';') ++ cs.dropWhile (· ≠ ';') = cs :=
      List.takeWhile_append_dropWhile
    have hstripped := trimChars_eq_iff.mp h
    cases hrest : cs.dropWhile (· ≠ ';') with
    | nil =>
      rw [hrest, List.append_nil] at hsplit
      rw [hsplit] at hs hstripped
      exact .whole hs hstripped
    | cons c ps =>
      have hc := List.head?_dropWhile_not (· ≠ ';') cs
      rw [hrest] at hc hsplit
      obtain rfl : c = ';' := by simpa using hc
      rw [← hsplit]
      exact .parameters hs hstripped ps

theorem splitAt?_eq_some_iff {α : Type} {p : α → Bool} {xs as bs : List α} :
    splitAt? p xs = some (as, bs) ↔
      ∃ x, p x = true ∧ (∀ a ∈ as, p a = false) ∧ xs = as ++ x :: bs := by
  have hsplit : xs.takeWhile (!p ·) ++ xs.dropWhile (!p ·) = xs := List.takeWhile_append_dropWhile
  have hbefore : ∀ a ∈ xs.takeWhile (!p ·), p a = false := fun a ha => by
    simpa using List.mem_takeWhile_imp ha
  constructor
  · intro h
    simp only [splitAt?] at h
    split at h
    · cases h
    · rename_i x rest hrest
      cases h
      have hx := List.head?_dropWhile_not (!p ·) xs
      rw [hrest] at hx hsplit
      exact ⟨x, by simpa using hx, hbefore, hsplit.symm⟩
  · rintro ⟨x, hx, has, rfl⟩
    have hpos : ∀ a ∈ as, (!p a) = true := fun a ha => by rw [has a ha]; rfl
    simp only [splitAt?, List.takeWhile_append_of_pos hpos, List.dropWhile_append_of_pos hpos,
      List.takeWhile_cons, List.dropWhile_cons, hx, Bool.not_true, Bool.false_eq_true, if_false,
      List.append_nil]

theorem isSound_of_twoParts (h : TwoParts t) : isSound t = true := by
  cases h with
  | @mk a b ha hb hsa hsb hblank =>
    have hsplit : splitAt? (· = '/') (a ++ '/' :: b) = some (a, b) :=
      splitAt?_eq_some_iff.mpr ⟨'/', rfl, fun c hc => decide_eq_false fun he => hsa (he ▸ hc), rfl⟩
    have hany : (a ++ '/' :: b).any isBlank = false :=
      List.any_eq_false.mpr fun c hc => Bool.not_eq_true _ ▸ hblank c hc
    simp only [isSound, hsplit, hany]
    simp [ha, hb, hsb]

theorem twoParts_of_isSound (h : isSound t = true) : TwoParts t := by
  simp only [isSound] at h
  split at h
  · cases h
  · rename_i a b hsome
    obtain ⟨x, hx, has, rfl⟩ := splitAt?_eq_some_iff.mp hsome
    obtain rfl : x = '/' := of_decide_eq_true hx
    simp only [Bool.and_eq_true, Bool.not_eq_true', List.isEmpty_eq_false_iff, List.any_eq_false,
      List.contains_eq_mem, decide_eq_false_iff_not, Bool.not_eq_true] at h
    obtain ⟨⟨⟨ha, hb⟩, hblank⟩, hsb⟩ := h
    exact .mk ha hb (fun hm => of_decide_eq_false (has _ hm) rfl) hsb hblank

theorem isSound_iff : isSound t = true ↔ TwoParts t := ⟨twoParts_of_isSound, isSound_of_twoParts⟩

theorem splitAt?_map {α β : Type} (p : β → Bool) (f : α → β) (xs : List α) :
    splitAt? p (xs.map f) = (splitAt? (p ∘ f) xs).map (Prod.map (List.map f) (List.map f)) := by
  simp only [splitAt?, List.dropWhile_map, List.takeWhile_map]
  cases hrest : xs.dropWhile (fun c => !p (f c)) with
  | nil => simp [Function.comp_def, hrest]
  | cons x rest => simp [Function.comp_def, hrest]

/-- The case of letters does not matter. -/
theorem isSound_map_toLower (t : List Char) : isSound (t.map Char.toLower) = isSound t := by
  have hiff (c : Char) : c.toLower = '/' ↔ c = '/' := toLower_eq_iff rfl
  have hslash : (fun c => decide (c = '/')) ∘ Char.toLower = fun c => decide (c = '/') :=
    funext fun c => decide_eq_decide.mpr (hiff c)
  have hcontains (b : List Char) : (b.map Char.toLower).contains '/' = b.contains '/' := by
    rw [Bool.eq_iff_iff]
    simp [hiff]
  have hany : (t.map Char.toLower).any isBlank = t.any isBlank := by
    rw [List.any_map]
    exact congrArg t.any (funext isBlank_toLower)
  simp only [isSound, splitAt?_map, hslash, hany]
  cases splitAt? (· = '/') t with
  | none => rfl
  | some parts => simp only [Option.map_some, Prod.map, hcontains, List.isEmpty_map]

/-! ## Normal forms -/

theorem essence_map_toLower (cs : List Char) : essence (cs.map Char.toLower) = essence cs := by
  rw [essence, beforeParameters_map_toLower, trimChars_map_toLower, essence, List.map_map]
  congr 1
  exact funext Char.toLower_toLower_eq_toLower

theorem before_semicolon {b : List Char} (hb : Blanks b) : ∀ c ∈ b, decide (c ≠ ';') = true := by
  intro c hc
  refine decide_eq_true fun he => ?_
  have hblank := hb c hc
  rw [he] at hblank
  cases hblank

theorem essence_append {b : List Char} (hb : Blanks b) (cs : List Char) :
    essence (cs ++ b) = essence cs := by
  rw [essence, List.takeWhile_append, List.takeWhile_eq_self_iff.mpr (before_semicolon hb), essence]
  split
  · rename_i hwhole
    have hcs : cs.takeWhile (· ≠ ';') = cs := (List.takeWhile_prefix _).eq_of_length hwhole
    rw [hcs, ← List.nil_append cs, trimChars_padded .nil hb, List.nil_append]
  · rfl

/-- Nothing in which two texts may differ is left of them. -/
theorem Alike.essence_eq {cs cs' : List Char} (h : Alike cs cs') : essence cs = essence cs' := by
  induction h with
  | @front b hb cs =>
    have htrim := trimChars_padded hb .nil (cs.takeWhile (· ≠ ';'))
    rw [List.append_nil] at htrim
    rw [essence, List.takeWhile_append_of_pos (before_semicolon hb), htrim, essence]
  | back hb cs => exact essence_append hb cs
  | parameters cs ps => rw [essence, takeWhile_append_semicolon, essence]
  | letters h => rw [← essence_map_toLower, h, essence_map_toLower]
  | symm _ ih => exact ih.symm
  | trans _ _ ih ih' => exact ih.trans ih'

theorem Bare.alike (h : Bare cs t) : Alike cs t := by
  have hpadded {cs : List Char} (h : Stripped cs t) : Alike cs t := by
    obtain ⟨front, back, hf, hb, rfl⟩ := h.padded
    exact (Alike.back hb _).trans (.front hf t)
  cases h with
  | whole _ h => exact hpadded h
  | parameters _ h ps => exact (Alike.parameters _ ps).trans (hpadded h)

theorem alike_essence (cs : List Char) : Alike cs (essence cs) := by
  have hbare : Bare cs (trimChars (cs.takeWhile (· ≠ ';'))) := bare_iff.mpr rfl
  refine hbare.alike.trans (.letters ?_)
  rw [essence, List.map_map]
  exact List.map_congr_left fun c _ => (Char.toLower_toLower_eq_toLower c).symm

theorem alike_iff {cs cs' : List Char} : Alike cs cs' ↔ essence cs = essence cs' := by
  refine ⟨Alike.essence_eq, fun h => (alike_essence cs).trans ?_⟩
  rw [h]
  exact (alike_essence cs').symm

end

/-! ## Content types, normalized -/

theorem normalize_eq {s : String} {t : List Char} (h : Bare s.toList t) :
    Codecs.normalize s = if isSound t then .ok (String.ofList (t.map Char.toLower))
      else .error (.invalidMediaType s) := by
  have hessence : essence s.toList = t.map Char.toLower := by
    rw [← bare_iff.mp h, essence]
  simp only [Codecs.normalize, normalize?, hessence, isSound_map_toLower]
  cases isSound t <;> rfl

theorem exists_bare (cs : List Char) : ∃ t, Bare cs t := ⟨_, bare_iff.mpr rfl⟩

theorem normalize_eq_ok_iff {s r : String} : Codecs.normalize s = .ok r ↔
    ∃ t, Bare s.toList t ∧ TwoParts t ∧ r = String.ofList (t.map Char.toLower) := by
  constructor
  · intro h
    obtain ⟨t, ht⟩ := exists_bare s.toList
    rw [normalize_eq ht] at h
    split at h
    · cases h
      exact ⟨t, ht, isSound_iff.mp ‹_›, rfl⟩
    · cases h
  · rintro ⟨t, ht, hparts, rfl⟩
    rw [normalize_eq ht, if_pos (isSound_iff.mpr hparts)]

theorem normalize_eq_error_iff {s : String} {e : Error} : Codecs.normalize s = .error e ↔
    (∃ t, Bare s.toList t ∧ ¬ TwoParts t) ∧ e = .invalidMediaType s := by
  constructor
  · intro h
    obtain ⟨t, ht⟩ := exists_bare s.toList
    rw [normalize_eq ht] at h
    split at h
    · cases h
    · cases h
      exact ⟨⟨t, ht, mt isSound_iff.mpr ‹_›⟩, rfl⟩
  · rintro ⟨⟨t, ht, hparts⟩, rfl⟩
    rw [normalize_eq ht, if_neg (mt isSound_iff.mp hparts)]

theorem toOption_normalize (s : String) : (Codecs.normalize s).toOption = normalize? s := by
  simp only [Codecs.normalize]
  cases normalize? s <;> rfl

theorem normalize_eq_ok {s r : String} : Codecs.normalize s = .ok r ↔ normalize? s = some r := by
  simp only [Codecs.normalize]
  cases normalize? s <;> simp

theorem normalize?_of_alike {s s' : String} (h : Alike s.toList s'.toList) :
    normalize? s = normalize? s' := by
  simp only [normalize?, h.essence_eq]

theorem toList_of_normalize?_eq_some {s r : String} (h : normalize? s = some r) :
    r.toList = essence s.toList := by
  simp only [normalize?, Option.ite_none_right_eq_some] at h
  rw [← Option.some.inj h.2, String.toList_ofList]

/-- What normalizing gives. There is a normal form exactly if what stands before the parameters,
without the blanks around it, is made of two parts, and then it is that in lower case; if there is
none, the failure tells the text that was given. A normal form is its own one, and two texts have
the same one exactly if they differ in nothing but parameters, blanks around them and the case of
letters. -/
theorem normalize_exact :
    (∀ s r, Codecs.normalize s = .ok r ↔
      ∃ t, Bare s.toList t ∧ TwoParts t ∧ r = String.ofList (t.map Char.toLower)) ∧
    (∀ s e, Codecs.normalize s = .error e ↔
      (∃ t, Bare s.toList t ∧ ¬ TwoParts t) ∧ e = .invalidMediaType s) ∧
    (∀ s r, Codecs.normalize s = .ok r → Codecs.normalize r = .ok r) ∧
    (∀ s s', Alike s.toList s'.toList →
      (Codecs.normalize s).toOption = (Codecs.normalize s').toOption) ∧
    ∀ s s' r, Codecs.normalize s = .ok r → Codecs.normalize s' = .ok r →
      Alike s.toList s'.toList := by
  simp only [toOption_normalize]
  refine ⟨fun s r => normalize_eq_ok_iff, fun s e => normalize_eq_error_iff, ?_, ?_, ?_⟩
  · intro s r h
    rw [normalize_eq_ok] at h ⊢
    have halike : Alike s.toList r.toList := by
      rw [toList_of_normalize?_eq_some h]
      exact alike_essence s.toList
    rw [← normalize?_of_alike halike, h]
  · intro s s' h
    exact normalize?_of_alike h
  · intro s s' r h h'
    rw [normalize_eq_ok] at h h'
    rw [alike_iff, ← toList_of_normalize?_eq_some h, toList_of_normalize?_eq_some h']

/-- A content type that differs from its normal form in everything that may be different. -/
theorem normalize_json :
    Codecs.normalize " Application/JSON\t; charset=utf-8" = .ok "application/json" ∧
    Codecs.normalize "application/json" = .ok "application/json" ∧
    Alike " Application/JSON\t; charset=utf-8".toList "application/json".toList ∧
    (Codecs.normalize " Application/JSON\t; charset=utf-8").toOption =
      (Codecs.normalize "application/json").toOption := by
  obtain ⟨-, -, hsame, halike, hspelled⟩ := normalize_exact
  have hjson : Codecs.normalize " Application/JSON\t; charset=utf-8" = .ok "application/json" :=
    normalize_eq_ok.mpr (by decide +kernel)
  have hnormal := hsame _ _ hjson
  have hspelling := hspelled _ _ _ hjson hnormal
  exact ⟨hjson, hnormal, hspelling, halike _ _ hspelling⟩

end ResilientHttp.MediaTypes
