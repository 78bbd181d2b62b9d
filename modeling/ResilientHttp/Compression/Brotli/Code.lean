import ResilientHttp.Compression.PrefixCode

/-! How prefix codes are described: by a few symbols, or by the lengths of all words. -/
namespace ResilientHttp.Compression.Brotli

def bad {α : Type} : Bits α := .fail .badBrotli

/-- The bits that number the symbols of an alphabet. -/
def symbolBits (size : Nat) : Nat := if size ≤ 1 then 0 else Nat.log2 (size - 1) + 1

def symbols (size : Nat) (read : List Nat) : (count : Nat) → Bits (List Nat)
  | 0 => .done read.reverse
  | count + 1 => (Bits.number (symbolBits size)).bind fun s =>
    if s < size then symbols size (s :: read) count else bad

/-- The code of an alphabet in which all symbols but the given ones are missing. -/
def codeOf (size : Nat) (lengths : List (Nat × Nat)) : PrefixCode :=
  .ofLengths ((List.range size).map fun s => (lengths.lookup s).getD 0)

def simpleCode (size : Nat) : Bits PrefixCode := do
  let count := (← .number 2) + 1
  let ss ← symbols size [] count
  if ss.eraseDups.length < count then bad
  else match ss with
    | [a] => return .leaf a
    | [a, b] => return codeOf size [(a, 1), (b, 1)]
    | [a, b, c] => return codeOf size [(a, 1), (b, 2), (c, 2)]
    | [a, b, c, d] =>
      if ← .bit then return codeOf size [(a, 1), (b, 2), (c, 3), (d, 3)]
      else return codeOf size [(a, 2), (b, 2), (c, 2), (d, 2)]
    | _ => bad

/-- The fixed code in which the lengths of the code for lengths are written. -/
def fixedLengthCode : PrefixCode :=
  .node (.node (.leaf 0) (.leaf 3))
    (.node (.leaf 4) (.node (.leaf 2) (.node (.leaf 1) (.leaf 5))))

def lengthOrder : List Nat := [1, 2, 3, 4, 0, 5, 17, 6, 16, 7, 8, 9, 10, 11, 12, 13, 14, 15]

/-- Reads the lengths of the code for lengths until the code has no more room. Gives those that are
not zero, and the room that is left. -/
def lengthLengths (room : Int) (read : List (Nat × Nat)) :
    (order : List Nat) → Bits (List (Nat × Nat) × Int)
  | [] => .done (read, room)
  | s :: order => (fixedLengthCode.read .badBrotli).bind fun l =>
    if l = 0 then lengthLengths room read order
    else
      let room := room - (1 <<< (5 - l) : Nat)
      if room ≤ 0 then .done ((s, l) :: read, room) else lengthLengths room ((s, l) :: read) order

structure Lengths where
  /-- The lengths so far, last first. -/
  read : List Nat := []
  count : Nat := 0
  /-- The last length that is not zero. -/
  previous : Nat := 8
  /-- How often the last symbols repeated a length, and which one. -/
  repeats : Nat := 0
  repeated : Nat := 0
  /-- The words of the greatest length that are still free. -/
  room : Int := (1 <<< PrefixCode.maxLength : Nat)

namespace Lengths

def add (ls : Lengths) (times length : Nat) : Lengths :=
  { ls with
    read := List.replicate times length ++ ls.read
    count := ls.count + times
    room :=
      if length = 0 then ls.room
      else ls.room - (times <<< (PrefixCode.maxLength - length) : Nat) }

def single (ls : Lengths) (length : Nat) : Lengths :=
  let ls := { ls.add 1 length with repeats := 0 }
  if length = 0 then ls else { ls with previous := length }

/-- The same length some times; a run of such symbols counts in growing places. -/
def again (ls : Lengths) (length places extra : Nat) : Lengths :=
  let before := if ls.repeated = length then ls.repeats else 0
  let now := (if before = 0 then 0 else (before - 2) <<< places) + extra + 3
  { ls.add (now - before) length with repeats := now, repeated := length }

/-- Reads on until the alphabet is complete or no room is left. -/
def readAll (code : PrefixCode) (size : Nat) (ls : Lengths) : (fuel : Nat) → Bits Lengths
  | 0 => bad
  | fuel + 1 =>
    if size < ls.count then bad
    else if ls.count = size || ls.room = 0 then .done ls
    else (code.read .badBrotli).bind fun s =>
      if s < 16 then readAll code size (ls.single s) fuel
      else if s = 16 then (Bits.number 2).bind fun n =>
        readAll code size (ls.again ls.previous 2 n) fuel
      else (Bits.number 3).bind fun n => readAll code size (ls.again 0 3 n) fuel

end Lengths

/-- A code by the lengths of its words; the first `skip` lengths of the code for lengths are
zero. -/
def complexCode (size skip : Nat) : Bits PrefixCode := do
  let (given, room) ← lengthLengths 32 [] (lengthOrder.drop skip)
  let lengthCode ← match given with
    | [(s, _)] => .done (.leaf s)
    | _ => if room = 0 then .done (codeOf 18 given) else bad
  let ls ← Lengths.readAll lengthCode size {} (size + 1)
  if ls.room = 0 then return .ofLengths ls.read.reverse else bad

def prefixCode (size : Nat) : Bits PrefixCode := do
  let kind ← .number 2
  if kind = 1 then simpleCode size else complexCode size kind

def prefixCodes (size : Nat) (read : Array PrefixCode) : (count : Nat) → Bits (Array PrefixCode)
  | 0 => .done read
  | count + 1 => (prefixCode size).bind fun c => prefixCodes size (read.push c) count

end ResilientHttp.Compression.Brotli
