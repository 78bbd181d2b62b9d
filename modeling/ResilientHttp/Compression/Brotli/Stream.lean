import ResilientHttp.Compression.Brotli.Block
import ResilientHttp.Compression.Brotli.Context
import ResilientHttp.Compression.Brotli.Variant
import ResilientHttp.Compression.Machine

/-! Brotli data: stretches that are coded, written plainly, or passed over. -/
namespace ResilientHttp.Compression.Brotli

structure Session where
  /-- How far back a distance can reach. -/
  limit : Nat
  /-- The last four distances, the latest first. -/
  recent : List Nat := [4, 11, 15, 16]

structure Stretch where
  final : Bool
  /-- The bytes that are still to come. -/
  left : Nat
  tables : Tables

inductive Phase
  | windowSize
  | header (s : Session)
  /-- In front of bytes that are not coded, which are kept or passed over. -/
  | aligned (s : Session) (final : Bool) (left : Nat) (kept : Bool)
  | plain (s : Session) (final : Bool) (left : Nat) (kept : Bool)
  | tables (s : Session) (final : Bool) (left : Nat)
  | command (s : Session) (d : Stretch)
  /-- In the literals of a command. -/
  | literal (s : Session) (d : Stretch) (inserts copies : Nat) (again : Bool)
  /-- Behind the literals of a command; a distance that is the last one again is not written. -/
  | distance (s : Session) (d : Stretch) (copies : Nat) (again : Bool)
  | ending
  | finished

/-- The number of bits in which the size of the window is counted. -/
def windowBits : Bits Nat := do
  if !(← .bit) then return 16
  else
    let n ← .number 3
    if n ≠ 0 then return 17 + n
    else
      let n ← .number 3
      if n = 0 then return 17 else if n = 1 then bad else return 8 + n

/-- A number of `count` digits of some bits each, the lowest first; if there are more than `fewest`
digits, the last one is not zero. -/
def length (bits fewest count : Nat) : Bits Nat := do
  let n ← .number (bits * count)
  if fewest < count && n < 1 <<< (bits * (count - 1)) then bad else return n

def afterStretch (s : Session) (final : Bool) : Phase := if final then .ending else .header s

def plainPhase (s : Session) (final : Bool) (left : Nat) (kept : Bool) : Phase :=
  if left = 0 then afterStretch s final else .plain s final left kept

def stretchHeader (s : Session) : Bits Phase := do
  let final ← .bit
  let empty ← if final then .bit else pure false
  if empty then return .ending
  else
    let digits ← .number 2
    if digits = 3 then
      let reserved ← .bit
      if reserved then bad
      else
        let count ← .number 2
        if count = 0 then return .aligned s final 0 false
        else return .aligned s final ((← length 8 1 count) + 1) false
    else
      let left := (← length 4 4 (digits + 4)) + 1
      let plain ← if final then pure false else .bit
      if plain then return .aligned s final left true else return .tables s final left

/-- The first symbols for inserting and for copying, for each group of 64 commands. -/
def commandGroups : List (Nat × Nat) :=
  [(0, 0), (0, 8), (0, 0), (0, 8), (8, 0), (8, 8), (0, 16), (16, 0), (8, 16), (16, 8), (16, 16)]

def insertTable : List (Nat × Nat) :=
  [(0, 0), (1, 0), (2, 0), (3, 0), (4, 0), (5, 0), (6, 1), (8, 1), (10, 2), (14, 2), (18, 3),
    (26, 3), (34, 4), (50, 4), (66, 5), (98, 5), (130, 6), (194, 7), (322, 8), (578, 9),
    (1090, 10), (2114, 12), (6210, 14), (22594, 24)]

def copyTable : List (Nat × Nat) :=
  [(2, 0), (3, 0), (4, 0), (5, 0), (6, 0), (7, 0), (8, 0), (9, 0), (10, 1), (12, 1), (14, 2),
    (18, 2), (22, 3), (30, 3), (38, 4), (54, 4), (70, 5), (102, 5), (134, 6), (198, 7), (326, 8),
    (582, 9), (1094, 10), (2118, 24)]

def symbol (codes : Array PrefixCode) (i : Nat) : Bits Nat := (codes.getD i .empty).read .badBrotli

def command (s : Session) (d : Stretch) : Bits Phase := do
  let blocks ← d.tables.commandBlocks.take
  let c ← symbol d.tables.commandCodes blocks.current
  let (insertFirst, copyFirst) := commandGroups.getD (c / 64) (0, 0)
  let inserts ← extended insertTable (insertFirst + c / 8 % 8)
  let copies ← extended copyTable (copyFirst + c % 8)
  if d.left < inserts then bad
  else
    let tables := { d.tables with commandBlocks := blocks }
    let d := { d with left := d.left - inserts, tables }
    if inserts = 0 then return .distance s d copies (c < 128)
    else return .literal s d inserts copies (c < 128)

def literal (s : Session) (d : Stretch) (inserts copies : Nat) (again : Bool) (edge : Edge) :
    Bits (Action × Phase) := do
  let blocks ← d.tables.literalBlocks.take
  let context := literalContext (d.tables.modes.getD blocks.current 0) edge.last edge.beforeLast
  let b ← symbol d.tables.literalCodes (d.tables.literalMap.getD (64 * blocks.current + context) 0)
  let d := { d with tables := { d.tables with literalBlocks := blocks } }
  let next : Phase :=
    if 1 < inserts then .literal s d (inserts - 1) copies again
    else if d.left = 0 then afterStretch s d.final
    else .distance s d copies again
  return (.write [b.toUInt8], next)

/-- Which of the recent distances the first symbols stand for, and what is added to it. -/
def recentTable : List (Nat × Int) :=
  [(0, 0), (1, 0), (2, 0), (3, 0), (0, -1), (0, 1), (0, -2), (0, 2), (0, -3), (0, 3), (1, -1),
    (1, 1), (1, -2), (1, 2), (1, -3), (1, 3)]

def distanceOf (s : Session) (t : Tables) (symbol : Nat) : Bits Nat :=
  match recentTable[symbol]? with
  | some (i, difference) =>
    let distance : Int := s.recent.getD i 0 + difference
    if distance ≤ 0 then bad else .done distance.toNat
  | none =>
    if symbol < 16 + t.direct then .done (symbol - 15)
    else
      let n := symbol - 16 - t.direct
      let high := n >>> t.postfixBits
      let low := n % 1 <<< t.postfixBits
      let bits := 1 + high / 2
      (Bits.number bits).bind fun extra =>
        .done (((2 + high % 2) <<< bits - 4 + extra) <<< t.postfixBits + low + t.direct + 1)

/-- The contexts of a distance: short copies have their own. -/
def distanceContext (copies : Nat) : Nat := if copies ≤ 4 then copies - 2 else 3

/-- Copies from the output; a distance that reaches behind its start names a word. -/
def reference (s : Session) (d : Stretch) (copies distance : Nat) (again : Bool) (edge : Edge) :
    Bits (Action × Phase) :=
  let reach := min s.limit edge.size
  let finish (s : Session) (action : Action) (size : Nat) : Bits (Action × Phase) :=
    if d.left < size then bad
    else
      let d := { d with left := d.left - size }
      .done (action, if d.left = 0 then afterStretch s d.final else .command s d)
  if distance ≤ reach then
    let recent := if again then s.recent else distance :: s.recent.take 3
    finish { s with recent } (.copy distance copies) copies
  else if copies < 4 || 24 < copies then bad
  else
    let n := distance - reach - 1
    let bits := numberBits.getD copies 0
    match wordVariant? copies (n % 1 <<< bits) (n >>> bits) with
    | none => bad
    | some bytes => finish s (.write bytes) bytes.length

def copy (s : Session) (d : Stretch) (copies : Nat) (again : Bool) (edge : Edge) :
    Bits (Action × Phase) := do
  if again then reference s d copies (s.recent.getD 0 0) true edge
  else
    let blocks ← d.tables.distanceBlocks.take
    let c ← symbol d.tables.distanceCodes
      (d.tables.distanceMap.getD (4 * blocks.current + distanceContext copies) 0)
    let distance ← distanceOf s d.tables c
    let d := { d with tables := { d.tables with distanceBlocks := blocks } }
    reference s d copies distance (c = 0) edge

def align (position : Nat) : Bits Unit := do
  let rest ← .number (padding position)
  if rest = 0 then return () else bad

def step (position : Nat) (edge : Edge) : Phase → Bits (Action × Phase)
  | .windowSize => do return (.write [], .header { limit := 1 <<< (← windowBits) - 16 })
  | .header s => do return (.write [], ← stretchHeader s)
  | .aligned s final left kept => do
    align position
    return (.write [], plainPhase s final left kept)
  | .plain s final left kept => do
    let b ← .byte
    return (.write (if kept then [b] else []), plainPhase s final (left - 1) kept)
  | .tables s final left => do return (.write [], .command s ⟨final, left, ← Tables.header⟩)
  | .command s d => do return (.write [], ← command s d)
  | .literal s d inserts copies again => literal s d inserts copies again edge
  | .distance s d copies again => copy s d copies again edge
  | .ending => do
    align position
    return (.write [], .finished)
  | .finished => .done (.write [], .finished)

def Phase.isFinished : Phase → Bool
  | finished => true
  | _ => false

/-- The data must be there to its end. -/
def close (phase : Phase) (_ : Window) : Except Fault Unit :=
  if phase.isFinished then .ok () else .error .cutBrotli

def machine : Machine Phase where
  start := .windowSize
  isFinished := Phase.isFinished
  step := step
  enter _ _ := .ok ()
  close := close

end ResilientHttp.Compression.Brotli
