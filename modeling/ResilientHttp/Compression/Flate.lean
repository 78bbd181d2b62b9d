import ResilientHttp.Compression.Checksum
import ResilientHttp.Compression.Machine
import ResilientHttp.Compression.PrefixCode

/-! Deflated data, bare or in one of its two containers. -/
namespace ResilientHttp.Compression.Flate

inductive Container
  | bare
  | zlib
  | gzip
deriving Repr, DecidableEq

inductive Phase
  | preamble
  | block
  | raw (final : Bool) (left : Nat)
  | body (final : Bool) (literals distances : PrefixCode)
  | trailer
  /-- The end, with the check and the size that the container claims. -/
  | finished (stated : Option (Nat × Nat))

def bad {α : Type} : Bits α := .fail .badDeflate

def symbol (code : PrefixCode) : Bits Nat := code.readLate .badDeflate PrefixCode.maxLength

/-- The first length of each symbol from 257 on, and the bits that follow it. -/
def lengthTable : List (Nat × Nat) :=
  [(3, 0), (4, 0), (5, 0), (6, 0), (7, 0), (8, 0), (9, 0), (10, 0), (11, 1), (13, 1), (15, 1),
    (17, 1), (19, 2), (23, 2), (27, 2), (31, 2), (35, 3), (43, 3), (51, 3), (59, 3), (67, 4),
    (83, 4), (99, 4), (115, 4), (131, 5), (163, 5), (195, 5), (227, 5), (258, 0)]

/-- The first distance of each symbol, and the bits that follow it. -/
def distanceTable : List (Nat × Nat) :=
  [(1, 0), (2, 0), (3, 0), (4, 0), (5, 1), (7, 1), (9, 2), (13, 2), (17, 3), (25, 3), (33, 4),
    (49, 4), (65, 5), (97, 5), (129, 6), (193, 6), (257, 7), (385, 7), (513, 8), (769, 8),
    (1025, 9), (1537, 9), (2049, 10), (3073, 10), (4097, 11), (6145, 11), (8193, 12),
    (12289, 12), (16385, 13), (24577, 13)]

def extended (table : List (Nat × Nat)) (i : Nat) : Bits Nat :=
  match table[i]? with
  | none => bad
  | some (first, extra) => do return first + (← .number extra)

/-- The lengths of the codes that need no description. -/
def fixedLiterals : PrefixCode :=
  .ofLengths (List.replicate 144 8 ++ List.replicate 112 9 ++ List.replicate 24 7 ++
    List.replicate 8 8)

def fixedDistances : PrefixCode := .ofLengths (List.replicate 32 5)

/-- A code by the lengths of its words: complete, or with one word at most. -/
def code (lengths : List Nat) : Bits PrefixCode :=
  if PrefixCode.isComplete lengths || (lengths.filter (· ≠ 0)).length ≤ 1 then
    .done (.ofLengths lengths)
  else bad

/-- The order in which the lengths of the code for lengths are written. -/
def lengthOrder : List Nat := [16, 17, 18, 0, 8, 7, 9, 6, 10, 5, 11, 4, 12, 3, 13, 2, 14, 1, 15]

def triples (read : List Nat) : (count : Nat) → Bits (List Nat)
  | 0 => .done read.reverse
  | count + 1 => (Bits.number 3).bind fun n => triples (n :: read) count

/-- Reads lengths until there are enough, the last one first in `read`; three symbols repeat. -/
def lengths (c : PrefixCode) (total : Nat) (read : List Nat) : (fuel : Nat) → Bits (List Nat)
  | 0 => bad
  | fuel + 1 =>
    if read.length = total then .done read.reverse
    else if total < read.length then bad
    else (symbol c).bind fun s =>
      if s < 16 then lengths c total (s :: read) fuel
      else if s = 16 then
        match read with
        | [] => bad
        | last :: _ => (Bits.number 2).bind fun n =>
            lengths c total (List.replicate (n + 3) last ++ read) fuel
      else if s = 17 then (Bits.number 3).bind fun n =>
        lengths c total (List.replicate (n + 3) 0 ++ read) fuel
      else (Bits.number 7).bind fun n =>
        lengths c total (List.replicate (n + 11) 0 ++ read) fuel

def describedCodes : Bits (PrefixCode × PrefixCode) := do
  let literalCount := (← .number 5) + 257
  let distanceCount := (← .number 5) + 1
  let lengthCount := (← .number 4) + 4
  if 286 < literalCount || 30 < distanceCount then bad
  else
    let given ← triples [] lengthCount
    let pairs := lengthOrder.zip given
    let lengthCode ← code ((List.range 19).map fun i => (pairs.lookup i).getD 0)
    let total := literalCount + distanceCount
    let all ← lengths lengthCode total [] (total + 1)
    let literals ← code (all.take literalCount)
    let distances ← code (all.drop literalCount)
    return (literals, distances)

def afterBlock (container : Container) (final : Bool) : Phase :=
  if !final then .block else if container = .bare then .finished none else .trailer

def rawPhase (container : Container) (final : Bool) (left : Nat) : Phase :=
  if left = 0 then afterBlock container final else .raw final left

def blockHead (container : Container) (position : Nat) : Bits (Action × Phase) := do
  let final ← .bit
  match ← Bits.number 2 with
  | 0 =>
    .skip (padding (position + 3))
    let length ← .number 16
    let check ← .number 16
    if length + check = 65535 then return (.write [], rawPhase container final length) else bad
  | 1 => return (.write [], .body final fixedLiterals fixedDistances)
  | 2 =>
    let (literals, distances) ← describedCodes
    return (.write [], .body final literals distances)
  | _ => bad

def bodyStep (container : Container) (final : Bool) (literals distances : PrefixCode) :
    Bits (Action × Phase) := do
  let s ← symbol literals
  if s < 256 then return (.write [s.toUInt8], .body final literals distances)
  else if s = 256 then return (.write [], afterBlock container final)
  else
    let length ← extended lengthTable (s - 257)
    let distance ← extended distanceTable (← symbol distances)
    return (.copy distance length, .body final literals distances)

def untilZero (read : List UInt8) : (left : Nat) → Bits (List UInt8)
  | 0 => Bits.byte.bind fun b => if b == 0 then .done read.reverse else .fail .longGzipField
  | left + 1 => Bits.byte.bind fun b =>
    if b == 0 then .done read.reverse else untilZero (b :: read) left

def maxField : Nat := 65535

/-- The head of a gzip file: marks, flags, then the fields that the flags announce. -/
def gzipHead : Bits Unit := do
  let first ← .bytes [] 10
  let flags := (first.getD 3 0).toNat
  if first.take 3 ≠ [0x1F, 0x8B, 8] || 32 ≤ flags then .fail .badGzipHeader
  else
    let has (i : Nat) : Bool := flags >>> i % 2 = 1
    let extra ←
      if has 2 then do
        let size ← .bytes [] 2
        let field ← .bytes [] ((size.getD 0 0).toNat + 256 * (size.getD 1 0).toNat)
        pure (size ++ field)
      else pure []
    let name ← if has 3 then do pure ((← untilZero [] maxField) ++ [0]) else pure []
    let comment ← if has 4 then do pure ((← untilZero [] maxField) ++ [0]) else pure []
    if has 1 then
      let check ← .number 16
      if check = crc32 (first ++ extra ++ name ++ comment) % 65536 then return ()
      else .fail .badGzipChecksum
    else return ()

def zlibHead : Bits Unit := do
  let method ← .number 8
  let flags ← .number 8
  let asksDictionary := flags / 32 % 2 = 1
  if (method * 256 + flags) % 31 ≠ 0 || asksDictionary || method % 16 ≠ 8 || 128 ≤ method then bad
  else return ()

def bigEndian (n : Nat) : (count : Nat) → Bits Nat
  | 0 => .done n
  | count + 1 => Bits.byte.bind fun b => bigEndian (n * 256 + b.toNat) count

/-- What follows the data, after the rest of the last byte. -/
def trailer (container : Container) (position : Nat) : Bits (Action × Phase) := do
  .skip (padding position)
  match container with
  | .gzip =>
    let check ← .number 32
    let size ← .number 32
    return (.write [], .finished (some (check, size)))
  | _ => return (.write [], .finished (some (← bigEndian 0 4, 0)))

/-- What is read in a phase, from a bit of a byte on. -/
def step (container : Container) (position : Nat) (_ : Edge) : Phase → Bits (Action × Phase)
  | .preamble => do
    match container with
    | .bare => pure ()
    | .zlib => zlibHead
    | .gzip => gzipHead
    return (.write [], .block)
  | .block => blockHead container position
  | .raw final left => do
    let b ← .byte
    return (.write [b], rawPhase container final (left - 1))
  | .body final literals distances => bodyStep container final literals distances
  | .trailer => trailer container position
  | .finished stated => .done (.write [], .finished stated)

def Phase.isFinished : Phase → Bool
  | finished _ => true
  | _ => false

/-- Zlib data is checked as soon as it ends. -/
def enter (container : Container) : Phase → Window → Except Fault Unit
  | .finished (some (check, _)), w =>
    if container = .zlib && check ≠ adler32 w.bytes.data.toList then .error .badDeflate else .ok ()
  | _, _ => .ok ()

/-- Gzip data must be there to its last byte and match its checks; nothing else is checked at the
end. -/
def close (container : Container) (phase : Phase) (w : Window) : Except Fault Unit :=
  if container = .gzip then
    let bytes := w.bytes.data.toList
    match phase with
    | .finished (some stated) =>
      if stated = (crc32 bytes, bytes.length % 1 <<< 32) then .ok () else .error .badGzipChecksum
    | _ => .error .badGzipChecksum
  else .ok ()

def machine (container : Container) : Machine Phase where
  start := if container = .bare then .block else .preamble
  isFinished := Phase.isFinished
  step := step container
  enter := enter container
  close := close container

end ResilientHttp.Compression.Flate
