import ResilientHttp.Proofs.Chunking

/-!
# Bodies that break off

A connection can break in the middle of an encoded body. What came of it until then is sound as far
as it goes, so nothing but the check at the end can tell. In the gzip and the brotli format there is
such a check, and a body that breaks off fails. In the other two there is none: a body that breaks
off is taken for a complete one, and a part of the data for all of it.
-/
namespace ResilientHttp.Truncation
open Compression Chunking

section
variable {κ : Type} {m : Machine κ} {p e : List UInt8} {data : ByteArray}

/-- What bytes stand for that are complete: the data ends with the last of them, and what is checked
at its end holds. -/
def complete? (m : Machine κ) (bytes : List UInt8) : Option ByteArray :=
  match m.feedAll m.begin bytes with
  | .error _ => none
  | .ok s =>
    if m.isFinished s.phase && (m.close s.phase s.window).isOk then some s.window.bytes else none

theorem feedAll_of_complete? (h : complete? m e = some data) :
    ∃ s, m.feedAll m.begin e = .ok s ∧ s.window.bytes = data := by
  simp only [complete?] at h
  split at h
  · cases h
  · rename_i s hs
    split at h
    · cases h
      exact ⟨s, hs, rfl⟩
    · cases h

/-- Behind the end of the data a machine takes no byte. So what it takes before others has not
reached the end, and its output is the beginning of theirs. -/
theorem feedAll_of_prefix {s s' : Machine.State κ} (h : m.feedAll s e = .ok s') (hp : p <+: e)
    (hne : p ≠ e) :
    ∃ s₁ more, m.feedAll s p = .ok s₁ ∧ m.isFinished s₁.phase = false ∧
      s'.window.bytes = s₁.window.bytes ++ more := by
  obtain ⟨rest, rfl⟩ := hp
  cases rest with
  | nil => exact absurd (List.append_nil p).symm hne
  | cons b rest =>
    have happend : (m.feedAll s p).bind (fun s => m.feedAll s (b :: rest)) = .ok s' :=
      List.foldlM_append.symm.trans h
    cases hs : m.feedAll s p with
    | error f =>
      rw [hs] at happend
      cases happend
    | ok s₁ =>
      rw [hs] at happend
      obtain ⟨-, more, hmore⟩ := feedAll_extends happend
      refine ⟨s₁, more, rfl, ?_, hmore⟩
      cases hf : m.isFinished s₁.phase with
      | false => rfl
      | true =>
        -- One byte more is left over, and then the whole would be wrong.
        have hfeed : m.feed s₁ b = .error .leftover := by simp only [Machine.feed, hf, if_true]
        change m.feedAll s₁ (b :: rest) = .ok s' at happend
        simp only [Machine.feedAll, List.foldlM_cons, hfeed] at happend
        cases happend

/-- Data that breaks off stands for the beginning of what it stands for as a whole, unless the end
is checked. -/
theorem plain_of_prefix (h : complete? m e = some data) (hp : p <+: e) (hne : p ≠ e) :
    ∃ (s : Machine.State κ) (more : ByteArray), m.isFinished s.phase = false ∧
      data = s.window.bytes ++ more ∧
      plain m p = (m.close s.phase s.window).map fun _ => s.window.bytes := by
  obtain ⟨s', hs', rfl⟩ := feedAll_of_complete? h
  obtain ⟨s, more, hs, hf, hmore⟩ := feedAll_of_prefix hs' hp hne
  refine ⟨s, more, hf, hmore, ?_⟩
  rw [plain, hs]
  rfl

end

def decoded? : Format → List UInt8 → Option ByteArray
  | .flate container => complete? (Flate.machine container)
  | .brotli => complete? Brotli.machine

/-- The fault of data that breaks off, in the formats in which the end is checked. -/
def cutFault? : Format → Option Fault
  | .flate .gzip => some .badGzipChecksum
  | .brotli => some .cutBrotli
  | .flate .zlib | .flate .bare => none

theorem close_flate {container : Flate.Container} {phase : Flate.Phase} (w : Window)
    (h : phase.isFinished = false) :
    Flate.close container phase w =
      match cutFault? (.flate container) with
      | some fault => .error fault
      | none => .ok () := by
  cases phase with
  | finished stated => cases h
  | _ => cases container <;> rfl

theorem close_brotli {phase : Brotli.Phase} (w : Window) (h : phase.isFinished = false) :
    Brotli.close phase w = .error .cutBrotli := by
  simp only [Brotli.close, h, Bool.false_eq_true, if_false]

/-- Data that breaks off is found out if its format has a fault for it, and otherwise stands for the
beginning of what it stands for as a whole. -/
theorem plain_of_cut {f : Format} {p e : List UInt8} {data : ByteArray}
    (h : decoded? f e = some data) (hp : p <+: e) (hne : p ≠ e) :
    ∃ out more, data = out ++ more ∧
      f.plain p = match cutFault? f with
        | some fault => .error fault
        | none => .ok out := by
  cases f with
  | brotli =>
    obtain ⟨s, more, hf, hdata, hplain⟩ := plain_of_prefix h hp hne
    have hclose : Brotli.machine.close s.phase s.window = .error .cutBrotli :=
      close_brotli s.window hf
    refine ⟨s.window.bytes, more, hdata, hplain.trans ?_⟩
    rw [hclose]
    rfl
  | flate container =>
    obtain ⟨s, more, hf, hdata, hplain⟩ := plain_of_prefix h hp hne
    have hclose : (Flate.machine container).close s.phase s.window = _ :=
      close_flate s.window hf
    refine ⟨s.window.bytes, more, hdata, hplain.trans ?_⟩
    rw [hclose]
    cases cutFault? (.flate container) <;> rfl

/-- The body of a response is the beginning of what a format makes of some data, and neither nothing
nor all of it. -/
structure BreaksOff (registry : Registry) (r : Response) (f : Format) (data : ByteArray) : Prop where
  coded : Coded registry r f
  exists_body : ∃ b e, r.body = some b ∧ b.failure? = none ∧ decoded? f e = some data ∧
    b.data.data.toList <+: e ∧ b.data.data.toList ≠ [] ∧ b.data.data.toList ≠ e

/-- Bodies in the format that break off are refused. -/
def RefusesCut (f : Format) : Prop :=
  ∀ registry r data, BreaksOff registry r f data →
    ∃ x e, r.decompress registry = .ok x ∧ x.bytes.result = .error (.stream e)

theorem bytes_of_cut {registry : Registry} {r : Response} {f : Format} {data : ByteArray}
    (h : BreaksOff registry r f data) :
    ∃ x out more, r.decompress registry = .ok x ∧ data = out ++ more ∧
      x.bytes.result = match cutFault? f with
        | some fault => .error (.stream fault.toStreamError)
        | none => .ok out := by
  obtain ⟨b, e, hr, hb, he, hp, hn, hne⟩ := h.exists_body
  obtain ⟨x, hx, hread⟩ := bytes_decompressed h.coded hr hb
  obtain ⟨out, more, hdata, hplain⟩ := plain_of_cut he hp hne
  refine ⟨x, out, more, hx, hdata, hread.trans ?_⟩
  have hsome : b.data.isEmpty = false := by
    cases hempty : b.data.isEmpty with
    | false => rfl
    | true =>
      rw [eq_empty_of_isEmpty hempty] at hn
      exact absurd rfl hn
  rw [hsome, hplain]
  cases cutFault? f <;> rfl

theorem bytes_of_unchecked_cut {registry : Registry} {r : Response} {f : Format} {data : ByteArray}
    (h : BreaksOff registry r f data) (hf : cutFault? f = none) :
    ∃ x out more, r.decompress registry = .ok x ∧ x.bytes.result = .ok out ∧
      data = out ++ more := by
  obtain ⟨x, out, more, hx, hdata, hread⟩ := bytes_of_cut h
  rw [hf] at hread
  exact ⟨x, out, more, hx, hread, hdata⟩

theorem not_refusesCut {registry : Registry} {r : Response} {f : Format} {data : ByteArray}
    (h : BreaksOff registry r f data) (hf : cutFault? f = none) : ¬ RefusesCut f := by
  intro hrefuses
  obtain ⟨x, e, hx, herror⟩ := hrefuses registry r data h
  obtain ⟨y, out, more, hy, hread, -⟩ := bytes_of_unchecked_cut h hf
  cases hx.symm.trans hy
  cases herror.symm.trans hread

/-! ## Two letters that break off -/

def bareLetters : List UInt8 := [1, 2, 0, 253, 255, 104, 105]

/-- The same as zlib data, with a checksum. -/
def zlibLetters : List UInt8 := [120, 1] ++ bareLetters ++ [1, 59, 0, 210]

/-- The same as brotli data: a stretch as it is, and an empty last one. -/
def brotliLetters : List UInt8 := [139, 0, 128, 104, 105, 3]

def allButLast (bytes : List UInt8) : ByteStream := [.chunk ⟨bytes.dropLast.toArray⟩]

theorem breaksOff_allButLast {coding : String} {f : Format} {bytes : List UInt8} {data : ByteArray}
    (hk : (Text.trim coding, f) ∈ Format.known) (he : decoded? f bytes = some data)
    (hl : 1 < bytes.length) : BreaksOff .standard (encoded coding (allButLast bytes)) f data where
  coded := coded_encoded hk _
  exists_body := by
    have hd : (allButLast bytes).data.data.toList = bytes.dropLast := by
      simp [allButLast, ByteStream.data, ByteStream.sound, ByteStream.isFailure, ByteStream.bytesOf]
    have hlength : bytes.dropLast.length = bytes.length - 1 := List.length_dropLast
    refine ⟨_, bytes, rfl, rfl, he, ?_, ?_, ?_⟩ <;> rw [hd]
    · exact List.dropLast_prefix bytes
    · intro hnil
      rw [hnil, List.length_nil] at hlength
      omega
    · intro hall
      rw [hall] at hlength
      omega

theorem bare_breaksOff :
    BreaksOff .standard (encoded "deflate" (allButLast bareLetters)) (.flate .bare) ⟨#[104, 105]⟩ :=
  breaksOff_allButLast (by decide +kernel) (by decide +kernel) (by decide)

theorem zlib_breaksOff :
    BreaksOff .standard (encoded "zlib" (allButLast zlibLetters)) (.flate .zlib) ⟨#[104, 105]⟩ :=
  breaksOff_allButLast (by decide +kernel) (by decide +kernel) (by decide)

/-- A body that breaks off is refused if its format has a fault for it. Otherwise nobody notices, and
the beginning of the data is read as if it were all. -/
theorem refused_or_unnoticed (f : Format) :
    (RefusesCut f ↔ (cutFault? f).isSome = true) ∧
      (cutFault? f = none → ∀ registry r data, BreaksOff registry r f data →
        ∃ x out more, r.decompress registry = .ok x ∧ x.bytes.result = .ok out ∧
          data = out ++ more) := by
  refine ⟨⟨fun h => ?_, fun h registry r data hcut => ?_⟩,
    fun hf registry r data hcut => bytes_of_unchecked_cut hcut hf⟩
  · cases f with
    | brotli => rfl
    | flate container =>
      cases container with
      | gzip => rfl
      | bare => exact absurd h (not_refusesCut bare_breaksOff rfl)
      | zlib => exact absurd h (not_refusesCut zlib_breaksOff rfl)
  · obtain ⟨x, out, more, hx, -, hread⟩ := bytes_of_cut hcut
    obtain ⟨fault, hfault⟩ := Option.isSome_iff_exists.mp h
    rw [hfault] at hread
    exact ⟨x, _, hx, hread⟩

/-- Where the end is checked, it is noticed that the last byte is missing. -/
theorem letters_cut_refused :
    BreaksOff .standard (encoded "br" (allButLast brotliLetters)) .brotli ⟨#[104, 105]⟩ ∧
      ∃ x e, (encoded "br" (allButLast brotliLetters)).decompress .standard = .ok x ∧
        x.bytes.result = .error (.stream e) := by
  have hcut : BreaksOff .standard (encoded "br" (allButLast brotliLetters)) .brotli
      ⟨#[104, 105]⟩ :=
    breaksOff_allButLast (by decide +kernel) (by decide +kernel) (by decide)
  exact ⟨hcut, (refused_or_unnoticed .brotli).1.mpr rfl _ _ _ hcut⟩

/-- Two of the codings that are known from the start let bodies break off unnoticed. -/
theorem known_not_refusesCut :
    ("deflate", Format.flate .bare) ∈ Format.known ∧ ("zlib", Format.flate .zlib) ∈ Format.known ∧
      ¬ RefusesCut (.flate .bare) ∧ ¬ RefusesCut (.flate .zlib) :=
  ⟨by decide, by decide, not_refusesCut bare_breaksOff rfl, not_refusesCut zlib_breaksOff rfl⟩

end ResilientHttp.Truncation
