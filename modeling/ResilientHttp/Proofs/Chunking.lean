import ResilientHttp.Response

/-!
# What a body decodes to does not depend on how it is cut

A body comes in chunks, and a decoder hands out with each of them what it completes. The state of a
machine between two bytes does not know where chunks end, and only ever adds to its output. So the
pieces that are handed out always join to the output for all bytes at once, and data that is wrong
somewhere is wrong however it is cut.
-/
namespace ResilientHttp.Chunking
open Compression

/-! ## Streams -/

section
variable {e : StreamEvent} {s : ByteStream}

theorem failure?_cons (h : ByteStream.failure? (e :: s) = none) :
    ByteStream.isFailure e = false ∧ s.failure? = none := by
  cases e with
  | failed x => cases h
  | _ => exact ⟨rfl, h⟩

private theorem foldl_data (s : ByteStream) (acc : ByteArray) :
    s.foldl (fun acc e => acc ++ ByteStream.bytesOf e) acc =
      acc ++ s.foldl (fun acc e => acc ++ ByteStream.bytesOf e) ByteArray.empty := by
  induction s generalizing acc with
  | nil => exact ByteArray.append_empty.symm
  | cons e s ih =>
    rw [List.foldl_cons, List.foldl_cons, ih, ih (ByteArray.empty ++ _), ByteArray.empty_append,
      ByteArray.append_assoc]

theorem data_cons (h : ByteStream.isFailure e = false) :
    ByteStream.data (e :: s) = ByteStream.bytesOf e ++ s.data := by
  simp only [ByteStream.data, ByteStream.sound, List.takeWhile_cons, h, Bool.not_false, if_true,
    List.foldl_cons]
  rw [foldl_data, ByteArray.empty_append]

theorem readAll_cons (h : ByteStream.isFailure e = false) :
    ByteStream.readAll (e :: s) = s.readAll.map (ByteStream.bytesOf e ++ ·) := by
  have hf : ByteStream.failure? (e :: s) = s.failure? := by
    cases e with
    | failed x => cases h
    | _ => rfl
  simp only [ByteStream.readAll, hf]
  cases s.failure? with
  | some x => rfl
  | none => exact congrArg Except.ok (data_cons h)

theorem map_empty_append (x : Except StreamError ByteArray) :
    x.map (ByteArray.empty ++ ·) = x := by
  cases x with
  | error e => rfl
  | ok out => exact congrArg Except.ok ByteArray.empty_append

theorem eq_empty_of_isEmpty {b : ByteArray} (h : b.isEmpty = true) : b = ByteArray.empty :=
  ByteArray.size_eq_zero_iff.mp (beq_iff_eq.mp h)

theorem readAll_full_append (b : ByteArray) (s : ByteStream) :
    ByteStream.readAll (ByteStream.full b ++ s) = s.readAll.map (b ++ ·) := by
  cases hb : b.isEmpty with
  | true =>
    rw [eq_empty_of_isEmpty hb, map_empty_append]
    rfl
  | false =>
    simp only [ByteStream.full, hb, Bool.false_eq_true, if_false]
    exact readAll_cons rfl

end

/-! ## Decoders on which cuts leave no trace -/

/-- In the states that a decoder comes to, writing data in two parts is writing it at once. -/
structure Seamless {σ : Type} (d : Decoder σ) (Reached : σ → Prop) : Prop where
  start : Reached d.start
  write {s s' : σ} {a out : ByteArray} (hs : Reached s) (h : d.write s a = .ok (out, s')) :
    Reached s'
  append {s : σ} (a b : ByteArray) (hs : Reached s) :
    d.write s (a ++ b) =
      (d.write s a).bind fun y => (d.write y.2 b).map fun z => (y.1 ++ z.1, z.2)

def decodeWhole {σ : Type} (d : Decoder σ) (s : σ) (a : ByteArray) :
    Except StreamError ByteArray :=
  (d.write s a).bind fun y => (d.finish y.2).map (y.1 ++ ·)

section
variable {σ : Type} {d : Decoder σ} {Reached : σ → Prop} {s : σ}

theorem decodeWhole_of_ok {a : ByteArray} {y : ByteArray × σ} (h : d.write s a = .ok y) :
    decodeWhole d s a = (d.finish y.2).map (y.1 ++ ·) := by
  rw [decodeWhole, h]
  rfl

theorem decodeWhole_append (h : Seamless d Reached) (hs : Reached s) (a b : ByteArray) :
    decodeWhole d s (a ++ b) =
      (d.write s a).bind fun y => (decodeWhole d y.2 b).map (y.1 ++ ·) := by
  rw [decodeWhole, h.append a b hs]
  cases d.write s a with
  | error x => rfl
  | ok y =>
    simp only [Except.bind, decodeWhole]
    cases d.write y.2 b with
    | error x => rfl
    | ok z =>
      simp only [Except.map]
      cases d.finish z.2 with
      | error x => rfl
      | ok more => exact congrArg Except.ok ByteArray.append_assoc

/-- What is no chunk passes through a decoder. -/
theorem readAll_decodeFrom_aside {e : StreamEvent} {rest : ByteStream} {seen : Bool}
    (he : ByteStream.isFailure e = false) (hb : ByteStream.bytesOf e = ByteArray.empty)
    (hd : ByteStream.decodeFrom d s seen (e :: rest) =
      e :: ByteStream.decodeFrom d s seen rest) :
    (ByteStream.decodeFrom d s seen (e :: rest)).readAll =
      (ByteStream.decodeFrom d s seen rest).readAll := by
  rw [hd, readAll_cons he, hb, map_empty_append]

theorem readAll_decodeFrom_chunk (h : Seamless d Reached) (hs : Reached s) {c : ByteArray}
    {rest : ByteStream} (hc : c.isEmpty = false) (seen : Bool)
    (hrest : ∀ s', Reached s' → (ByteStream.decodeFrom d s' true rest).readAll =
      if rest.data.isEmpty then d.finish s' else decodeWhole d s' rest.data) :
    (ByteStream.decodeFrom d s seen (.chunk c :: rest)).readAll =
      decodeWhole d s (c ++ rest.data) := by
  rw [ByteStream.decodeFrom, hc]
  simp only [Bool.false_eq_true, if_false]
  cases hw : d.write s c with
  | error x =>
    rw [decodeWhole_append h hs, hw]
    rfl
  | ok y =>
    obtain ⟨out, s'⟩ := y
    dsimp only
    rw [readAll_full_append, hrest s' (h.write hs hw)]
    cases hd : rest.data.isEmpty with
    | true =>
      rw [eq_empty_of_isEmpty hd, ByteArray.append_empty, decodeWhole_of_ok hw]
      rfl
    | false =>
      rw [decodeWhole_append h hs, hw]
      rfl

/-- Whatever was read before, the rest of a body decodes as if it came in one piece. -/
theorem readAll_decodeFrom (h : Seamless d Reached) {b : ByteStream} (hb : b.failure? = none)
    (hs : Reached s) (seen : Bool) :
    (ByteStream.decodeFrom d s seen b).readAll =
      if b.data.isEmpty then (if seen then d.finish s else .ok ByteArray.empty)
      else decodeWhole d s b.data := by
  -- The state and the flag have to be general: a chunk changes both.
  induction b generalizing s seen with
  | nil =>
    cases seen with
    | false => rfl
    | true =>
      simp only [ByteStream.decodeFrom, if_true]
      cases d.finish s with
      | error x => rfl
      | ok out =>
        have hr := readAll_full_append out []
        rw [List.append_nil] at hr
        exact hr.trans (congrArg Except.ok ByteArray.append_empty)
  | cons e rest ih =>
    obtain ⟨he, hrest⟩ := failure?_cons hb
    have haside (hb : ByteStream.bytesOf e = ByteArray.empty)
        (hd : ByteStream.decodeFrom d s seen (e :: rest) =
          e :: ByteStream.decodeFrom d s seen rest) :
        (ByteStream.decodeFrom d s seen (e :: rest)).readAll =
          if (ByteStream.data (e :: rest)).isEmpty then
            (if seen then d.finish s else .ok ByteArray.empty)
          else decodeWhole d s (ByteStream.data (e :: rest)) := by
      rw [readAll_decodeFrom_aside he hb hd, data_cons he, hb, ByteArray.empty_append]
      exact ih hrest hs seen
    cases e with
    | failed x => cases he
    | taken n => exact haside rfl rfl
    | pause t => exact haside rfl rfl
    | chunk c =>
      rw [data_cons he]
      change _ = if (c ++ ByteStream.data rest).isEmpty then _
        else decodeWhole d s (c ++ ByteStream.data rest)
      cases hc : c.isEmpty with
      | true =>
        -- Nothing is written for an empty chunk, and the body does not count as begun.
        rw [ByteStream.decodeFrom, if_pos hc, eq_empty_of_isEmpty hc, ByteArray.empty_append]
        exact ih hrest hs seen
      | false =>
        have hne : (c ++ ByteStream.data rest).isEmpty = false := by
          simp only [ByteArray.isEmpty, beq_eq_false_iff_ne, ByteArray.size_append] at hc ⊢
          omega
        rw [hne, readAll_decodeFrom_chunk h hs hc seen fun s' hs' => ih hrest hs' true]
        rfl

/-- What a body decodes to is known from its bytes, whatever the decoder, if cuts leave no trace on
it. Those of the codings that are known from the start are of this kind. -/
theorem readAll_decode (h : Seamless d Reached) {b : ByteStream} (hb : b.failure? = none) :
    (b.decode d).readAll =
      if b.data.isEmpty then .ok ByteArray.empty else decodeWhole d d.start b.data :=
  readAll_decodeFrom h hb h.start false

theorem readAll_decode_congr (h : Seamless d Reached) {b b' : ByteStream} (hb : b.failure? = none)
    (hb' : b'.failure? = none) (hd : b.data = b'.data) :
    (b.decode d).readAll = (b'.decode d).readAll := by
  rw [readAll_decode h hb, readAll_decode h hb', hd]

end

/-! ## Machines -/

/-- Output only grows, and what was handed out stays so. -/
def Extends (w w' : Window) : Prop := w'.taken = w.taken ∧ ∃ more, w'.bytes = w.bytes ++ more

def since (n : Nat) (w : Window) : Window := { w with taken := n }

section
variable {w w' w'' : Window}

theorem Extends.refl (w : Window) : Extends w w := ⟨rfl, ByteArray.empty, ByteArray.append_empty.symm⟩

theorem Extends.trans (h : Extends w w') (h' : Extends w' w'') : Extends w w'' := by
  obtain ⟨ht, more, hb⟩ := h
  obtain ⟨ht', more', hb'⟩ := h'
  exact ⟨ht'.trans ht, more ++ more', by rw [hb', hb, ByteArray.append_assoc]⟩

theorem extends_push (w : Window) (b : UInt8) : Extends w (w.push b) :=
  ⟨rfl, ByteArray.empty.push b, by ext1; simp [Window.push]⟩

theorem extends_copy (distance length : Nat) (w : Window) : Extends w (w.copy distance length) := by
  induction length generalizing w with
  | zero => exact .refl w
  | succ length ih => exact (extends_push w _).trans (ih _)

theorem extends_apply (w : Window) (a : Action) : Extends w (w.apply a) := by
  cases a with
  | copy distance length => exact extends_copy distance length w
  | write bs =>
    simp only [Window.apply]
    induction bs generalizing w with
    | nil => exact .refl w
    | cons b bs ih => exact (extends_push w b).trans (ih _)

theorem apply_since (n : Nat) (w : Window) (a : Action) :
    (since n w).apply a = since n (w.apply a) := by
  cases a with
  | write bs =>
    simp only [Window.apply]
    induction bs generalizing w with
    | nil => rfl
    | cons b bs ih => exact ih (w.push b)
  | copy distance length =>
    simp only [Window.apply]
    induction length generalizing w with
    | zero => rfl
    | succ length ih => exact ih (w.push (w.back distance))

end

/-- What a machine asks of the output does not depend on what was handed out. -/
structure Steady {κ : Type} (m : Machine κ) : Prop where
  enter (phase : κ) (n : Nat) (w : Window) : m.enter phase (since n w) = m.enter phase w
  close (phase : κ) (n : Nat) (w : Window) : m.close phase (since n w) = m.close phase w

section
variable {κ : Type} {m : Machine κ}

def sinceState (n : Nat) (s : Machine.State κ) : Machine.State κ :=
  { s with window := since n s.window }

theorem settle_since (hm : Steady m) (n fuel position : Nat) (reader : Bits (Action × κ))
    (s : Machine.State κ) :
    m.settle fuel position reader (sinceState n s) =
      (m.settle fuel position reader s).map (sinceState n) := by
  induction fuel generalizing position reader s with
  | zero => rfl
  | succ fuel ih =>
    cases reader with
    | fail f => rfl
    | need next => rfl
    | done y =>
      obtain ⟨action, phase⟩ := y
      simp only [Machine.settle, sinceState, apply_since, hm.enter]
      cases m.enter phase (s.window.apply action) with
      | error f => rfl
      | ok u =>
        dsimp only
        cases m.isFinished phase with
        | true => rfl
        | false =>
          simp only [Bool.false_eq_true, if_false]
          exact ih position _ ⟨phase, .done (.write [], phase), position, s.window.apply action⟩

theorem settle_extends {fuel position : Nat} {reader : Bits (Action × κ)} {s s' : Machine.State κ}
    (h : m.settle fuel position reader s = .ok s') : Extends s.window s'.window := by
  induction fuel generalizing position reader s with
  | zero => cases h
  | succ fuel ih =>
    cases reader with
    | fail f => cases h
    | need next =>
      cases h
      exact .refl _
    | done y =>
      obtain ⟨action, phase⟩ := y
      simp only [Machine.settle] at h
      have ha := extends_apply s.window action
      cases he : m.enter phase (s.window.apply action) with
      | error f =>
        rw [he] at h
        cases h
      | ok u =>
        rw [he] at h
        dsimp only at h
        split at h
        · cases h
          exact ha
        · exact ha.trans (ih h)

theorem feedBit_since (hm : Steady m) (n : Nat) (s : Machine.State κ) (b : Bool) :
    m.feedBit (sinceState n s) b = (m.feedBit s b).map (sinceState n) := by
  obtain ⟨phase, reader, position, window⟩ := s
  cases reader with
  | done y => rfl
  | fail f => rfl
  | need next => exact settle_since hm n _ _ (next b) _

theorem feedBit_extends {s s' : Machine.State κ} {b : Bool} (h : m.feedBit s b = .ok s') :
    Extends s.window s'.window := by
  simp only [Machine.feedBit] at h
  split at h
  · cases h
    exact .refl _
  · cases h
  · exact settle_extends h

/-- A map that every step respects is respected by all of them together. -/
private theorem foldlM_map {ε α σ : Type} {f : σ → α → Except ε σ} {g : σ → σ}
    (h : ∀ s a, f (g s) a = (f s a).map g) (as : List α) (s : σ) :
    as.foldlM f (g s) = (as.foldlM f s).map g := by
  induction as generalizing s with
  | nil => rfl
  | cons a as ih =>
    rw [List.foldlM_cons, List.foldlM_cons, h]
    cases f s a with
    | error e => rfl
    | ok s' => exact ih s'

private theorem foldlM_extends {α : Type} {f : Machine.State κ → α → Except Fault (Machine.State κ)}
    (hf : ∀ s a s', f s a = .ok s' → Extends s.window s'.window) {as : List α}
    {s s' : Machine.State κ} (h : as.foldlM f s = .ok s') : Extends s.window s'.window := by
  induction as generalizing s with
  | nil =>
    cases h
    exact .refl _
  | cons a as ih =>
    rw [List.foldlM_cons] at h
    cases hs : f s a with
    | error e =>
      rw [hs] at h
      cases h
    | ok s₁ =>
      rw [hs] at h
      exact (hf s a s₁ hs).trans (ih h)

theorem feed_since (hm : Steady m) (n : Nat) (s : Machine.State κ) (b : UInt8) :
    m.feed (sinceState n s) b = (m.feed s b).map (sinceState n) := by
  have hbits := foldlM_map (feedBit_since hm n) (bitsOf b) s
  simp only [Machine.feed]
  change (if m.isFinished s.phase then _ else _) = _
  cases m.isFinished s.phase with
  | true => rfl
  | false => exact hbits

theorem feedAll_since (hm : Steady m) (n : Nat) (s : Machine.State κ) (bytes : List UInt8) :
    m.feedAll (sinceState n s) bytes = (m.feedAll s bytes).map (sinceState n) :=
  foldlM_map (feed_since hm n) bytes s

theorem feedAll_extends {s s' : Machine.State κ} {bytes : List UInt8}
    (h : m.feedAll s bytes = .ok s') : Extends s.window s'.window := by
  refine foldlM_extends (fun s b s' hb => ?_) h
  simp only [Machine.feed] at hb
  split at hb
  · cases hb
  · exact foldlM_extends (fun _ _ _ => feedBit_extends) hb

/-- Every byte of the output was handed out. -/
def Drained (s : Machine.State κ) : Prop := s.window.taken = s.window.bytes.size

theorem write_ok {s s' : Machine.State κ} {a out : ByteArray} (hs : Drained s)
    (h : m.feedAll s a.data.toList = .ok s') (hout : s'.window.bytes = s.window.bytes ++ out) :
    m.write s a = .ok (out, sinceState s'.window.bytes.size s') := by
  have hfresh : s'.window.fresh = out := by
    rw [Window.fresh, (feedAll_extends h).1, hs, hout]
    exact ByteArray.extract_append_eq_right rfl ByteArray.size_append
  simp only [Machine.write, h, hfresh]
  rfl

theorem write_error {s : Machine.State κ} {a : ByteArray} {f : Fault}
    (h : m.feedAll s a.data.toList = .error f) : m.write s a = .error f.toStreamError := by
  simp only [Machine.write, h]

theorem feedAll_append (s : Machine.State κ) (a b : ByteArray) :
    m.feedAll s (a ++ b).data.toList =
      (m.feedAll s a.data.toList).bind fun s => m.feedAll s b.data.toList := by
  rw [ByteArray.toList_data_append]
  exact List.foldlM_append

/-- The cut between two chunks shows in nothing but what was handed out, which a machine never asks
for. -/
theorem machine_seamless (hm : Steady m) : Seamless m.decoder Drained where
  start := rfl
  write {s s' a out} hs h := by
    change m.write s a = _ at h
    cases hf : m.feedAll s a.data.toList with
    | error f =>
      rw [write_error hf] at h
      cases h
    | ok s₁ =>
      obtain ⟨-, more, hout⟩ := feedAll_extends hf
      rw [write_ok hs hf hout] at h
      cases h
      rfl
  append {s} a b hs := by
    change m.write s (a ++ b) = (m.write s a).bind fun y => (m.write y.2 b).map _
    have happend := feedAll_append (m := m) s a b
    cases ha : m.feedAll s a.data.toList with
    | error f =>
      rw [ha] at happend
      rw [write_error ha, write_error happend]
      rfl
    | ok s₁ =>
      rw [ha] at happend
      obtain ⟨-, out, hout⟩ := feedAll_extends ha
      -- The second part meets a machine that differs from `s₁` in what was handed out alone.
      have hsince := feedAll_since hm s₁.window.bytes.size s₁ b.data.toList
      rw [write_ok hs ha hout]
      change _ = (m.write (sinceState _ s₁) b).map _
      cases hb : m.feedAll s₁ b.data.toList with
      | error f =>
        rw [hb] at hsince
        rw [write_error (happend.trans hb), write_error hsince]
        rfl
      | ok s₂ =>
        rw [hb] at hsince
        obtain ⟨-, more, hmore⟩ := feedAll_extends hb
        have hall : s₂.window.bytes = s.window.bytes ++ (out ++ more) := by
          rw [hmore, hout, ByteArray.append_assoc]
        have hdrained : Drained (sinceState s₁.window.bytes.size s₁) := rfl
        rw [write_ok hs (happend.trans hb) hall, write_ok hdrained hsince hmore]
        rfl

/-- What data stands for as a whole. -/
def plain (m : Machine κ) (bytes : List UInt8) : Except Fault ByteArray :=
  (m.feedAll m.begin bytes).bind fun s =>
    (m.close s.phase s.window).map fun _ => s.window.bytes

theorem decodeWhole_machine (hm : Steady m) (a : ByteArray) :
    decodeWhole m.decoder m.begin a = (plain m a.data.toList).mapError Fault.toStreamError := by
  simp only [decodeWhole, plain]
  change (m.write m.begin a).bind _ = _
  cases ha : m.feedAll m.begin a.data.toList with
  | error f =>
    rw [write_error ha]
    rfl
  | ok s =>
    have hout : s.window.bytes = m.begin.window.bytes ++ s.window.bytes :=
      ByteArray.empty_append.symm
    have hbegin : Drained m.begin := rfl
    rw [write_ok hbegin ha hout]
    change (m.finish (sinceState _ s)).map _ = ((m.close s.phase s.window).map _).mapError _
    simp only [Machine.finish, sinceState, hm.close]
    cases m.close s.phase s.window with
    | error f => rfl
    | ok u => exact congrArg Except.ok ByteArray.append_empty

/-- A body decodes to what its bytes stand for as a whole; no bytes at all are no data. -/
theorem readAll_machine (hm : Steady m) {b : ByteStream} (hb : b.failure? = none) :
    (b.decode m.decoder).readAll =
      if b.data.isEmpty then .ok ByteArray.empty
      else (plain m b.data.data.toList).mapError Fault.toStreamError := by
  rw [readAll_decode (machine_seamless hm) hb]
  split
  · rfl
  · exact decodeWhole_machine hm b.data

end

/-! ## The codings that are known from the start -/

inductive Format
  | flate (container : Flate.Container)
  | brotli
deriving DecidableEq

namespace Format

def decompress : Format → Decompress
  | flate .gzip => gunzip
  | flate .zlib => unzlib
  | flate .bare => inflate
  | brotli => unbrotli

/-- What data in the format stands for as a whole. -/
def plain : Format → List UInt8 → Except Fault ByteArray
  | flate container => Chunking.plain (Flate.machine container)
  | brotli => Chunking.plain Brotli.machine

def known : List (String × Format) :=
  [("gzip", flate .gzip), ("x-gzip", flate .gzip), ("deflate", flate .bare),
    ("zlib", flate .zlib), ("br", brotli)]

end Format

theorem standard_entries :
    Registry.standard.entries = Format.known.map fun e => (e.1, e.2.decompress) := rfl

theorem steady_flate (container : Flate.Container) : Steady (Flate.machine container) where
  enter phase n w := by
    cases phase with
    | finished stated => rcases stated with _ | ⟨check, size⟩ <;> rfl
    | _ => rfl
  close phase n w := rfl

theorem steady_brotli : Steady Brotli.machine := ⟨fun _ _ _ => rfl, fun _ _ _ => rfl⟩

/-- The body of a response comes in a format that the registry knows how to decompress. -/
structure Coded (registry : Registry) (r : Response) (f : Format) : Prop where
  exists_coding : ∃ coding, r.headers.get? .contentEncoding = some coding ∧
    Registry.isPassthrough coding.text = false ∧
    registry.find? coding.text = some f.decompress

/-- The codings that are known from the start are known by their names, with or without blanks. -/
theorem coded_standard {r : Response} {f : Format} {coding : Header.Value}
    (hc : r.headers.get? .contentEncoding = some coding)
    (hk : (Text.trim coding.text, f) ∈ Format.known) : Coded .standard r f := by
  refine ⟨coding, hc, ?_⟩
  simp only [Registry.isPassthrough, Registry.find?, standard_entries]
  simp only [Format.known, List.mem_cons, Prod.mk.injEq, List.not_mem_nil, or_false] at hk
  rcases hk with ⟨hk, rfl⟩ | ⟨hk, rfl⟩ | ⟨hk, rfl⟩ | ⟨hk, rfl⟩ | ⟨hk, rfl⟩ <;> rw [hk] <;>
    exact ⟨by decide, rfl⟩

/-- What reading the whole of a decompressed body gives is known from the bytes of the encoded one. -/
theorem bytes_decompressed {registry : Registry} {r : Response} {f : Format} {b : ByteStream}
    (hc : Coded registry r f) (hr : r.body = some b) (hb : b.failure? = none) :
    ∃ x, r.decompress registry = .ok x ∧
      x.bytes.result = (if b.data.isEmpty then .ok ByteArray.empty
        else (f.plain b.data.data.toList).mapError Fault.toStreamError).mapError Error.stream := by
  obtain ⟨coding, hcoding, hp, hf⟩ := hc
  have hwrap : ∃ s, registry.wrap coding.text b = .ok s ∧
      s.readAll = if b.data.isEmpty then .ok ByteArray.empty
        else (f.plain b.data.data.toList).mapError Fault.toStreamError := by
    simp only [Registry.wrap, hp, hf, Bool.false_eq_true, if_false]
    cases f with
    | flate container => cases container <;> exact ⟨_, rfl, readAll_machine (steady_flate _) hb⟩
    | brotli => exact ⟨_, rfl, readAll_machine steady_brotli hb⟩
  obtain ⟨s, hs, hread⟩ := hwrap
  simp only [Response.decompress, hcoding, hp, hr, hs, Bool.false_eq_true, if_false]
  exact ⟨_, rfl, congrArg (Except.mapError Error.stream) hread⟩

/-- Two bodies of the same bytes in the same format decode to the same bytes, or both fail, however
they are cut in chunks and whatever the format makes of the bytes. This is `readAll_decode_congr` for
responses and the codings that are known from the start. -/
theorem bytes_eq_of_data_eq {registry : Registry} {r r' : Response} {f : Format} {b b' : ByteStream}
    (hc : Coded registry r f) (hc' : Coded registry r' f) (hr : r.body = some b)
    (hr' : r'.body = some b') (hb : b.failure? = none) (hb' : b'.failure? = none)
    (hd : b.data = b'.data) :
    ∃ x x', r.decompress registry = .ok x ∧ r'.decompress registry = .ok x' ∧
      x.bytes.result = x'.bytes.result := by
  obtain ⟨x, hx, hread⟩ := bytes_decompressed hc hr hb
  obtain ⟨x', hx', hread'⟩ := bytes_decompressed hc' hr' hb'
  exact ⟨x, x', hx, hx', by rw [hread, hread', hd]⟩

/-- Two letters in the gzip format: a header, a block as it is, a checksum and a size. -/
def greeting : ByteArray :=
  ⟨#[31, 139, 8, 0, 0, 0, 0, 0, 0, 3, 1, 2, 0, 253, 255, 104, 105, 172, 42, 147, 216, 2, 0, 0, 0]⟩

/-- The same with cuts in the header, in the block and in the checksum, and with chunks of nothing. -/
def slowGreeting : ByteStream :=
  [.chunk ByteArray.empty, .chunk (greeting.extract 0 3), .pause 5, .chunk (greeting.extract 3 16),
    .chunk ByteArray.empty, .taken 0, .chunk (greeting.extract 16 19), .chunk (greeting.extract 19 25)]

def encoded (coding : String) (b : ByteStream) : Response where
  status := .ok
  headers := Header.Fields.empty.insert .contentEncoding { text := coding }
  url := none
  body := some b

theorem coded_encoded {coding : String} {f : Format} (hk : (Text.trim coding, f) ∈ Format.known)
    (b : ByteStream) : Coded .standard (encoded coding b) f := by
  have hc : (encoded coding b).headers.get? .contentEncoding = some { text := coding } := rfl
  exact coded_standard hc hk

/-- In one piece, and in many with blanks around the name of the coding. -/
theorem greeting_bytes_eq :
    ByteStream.data [.chunk greeting] = slowGreeting.data ∧
      ∃ x x', (encoded "gzip" [.chunk greeting]).decompress .standard = .ok x ∧
        (encoded " gzip " slowGreeting).decompress .standard = .ok x' ∧
        x.bytes.result = x'.bytes.result ∧ x.bytes.result.toOption = some ⟨#[104, 105]⟩ := by
  have hd : ByteStream.data [.chunk greeting] = slowGreeting.data := by decide +kernel
  have hc : Coded .standard (encoded "gzip" [.chunk greeting]) (.flate .gzip) :=
    coded_encoded (by decide +kernel) _
  have hc' : Coded .standard (encoded " gzip " slowGreeting) (.flate .gzip) :=
    coded_encoded (by decide +kernel) _
  obtain ⟨x, x', hx, hx', heq⟩ := bytes_eq_of_data_eq hc hc' rfl rfl rfl rfl hd
  obtain ⟨y, hy, hread⟩ := bytes_decompressed hc rfl rfl
  cases hx.symm.trans hy
  refine ⟨hd, x, x', hx, hx', heq, ?_⟩
  rw [hread]
  decide +kernel

end ResilientHttp.Chunking
