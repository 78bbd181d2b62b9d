import ResilientHttp.Compression.Brotli.Code

/-! Blocks inside a stretch of coded data: which of several codes is in force, and for how long. -/
namespace ResilientHttp.Compression.Brotli

/-- A number below 256, the smaller ones in fewer bits. -/
def smallNumber : Bits Nat := do
  if ← .bit then
    let n ← .number 3
    return 1 <<< n + (← .number n)
  else return 0

def extended (table : List (Nat × Nat)) (symbol : Nat) : Bits Nat :=
  match table[symbol]? with
  | none => bad
  | some (first, extra) => do return first + (← .number extra)

def blockLengthTable : List (Nat × Nat) :=
  [(1, 2), (5, 2), (9, 2), (13, 2), (17, 3), (25, 3), (33, 3), (41, 3), (49, 4), (65, 4),
    (81, 4), (97, 4), (113, 5), (145, 5), (177, 5), (209, 5), (241, 6), (305, 6), (369, 7),
    (497, 8), (753, 9), (1265, 10), (2289, 11), (4337, 12), (8433, 13), (16625, 24)]

/-- The blocks of one kind of symbol: the type of the current one, and what is left of it. -/
structure Blocks where
  types : Nat := 1
  typeCode : PrefixCode := .empty
  lengthCode : PrefixCode := .empty
  current : Nat := 0
  previous : Nat := 1
  left : Nat := 1 <<< 24

namespace Blocks

def readLength (code : PrefixCode) : Bits Nat := do
  extended blockLengthTable (← code.read .badBrotli)

def header : Bits Blocks := do
  let types := (← smallNumber) + 1
  if types = 1 then return {}
  else
    let typeCode ← prefixCode (types + 2)
    let lengthCode ← prefixCode blockLengthTable.length
    let left ← readLength lengthCode
    return { types, typeCode, lengthCode, left }

/-- The head of the next block: its type, often told by those before, and its length. -/
def next (b : Blocks) : Bits Blocks := do
  let symbol ← b.typeCode.read .badBrotli
  let left ← readLength b.lengthCode
  let type :=
    if symbol = 0 then b.previous else if symbol = 1 then b.current + 1 else symbol - 2
  return { b with current := type % b.types, previous := b.current, left }

/-- Goes to the next block if the current one is used up, and takes one symbol of it. -/
def take (b : Blocks) : Bits Blocks := do
  let b ← if b.left = 0 then b.next else pure b
  return { b with left := b.left - 1 }

end Blocks

/-- Entries of a context map up to `size`, last first in `read`; small symbols stand for runs of
zeros. -/
def mapEntries (code : PrefixCode) (longestRun size : Nat) (read : List Nat) (count : Nat) :
    (fuel : Nat) → Bits (List Nat)
  | 0 => bad
  | fuel + 1 =>
    if count = size then .done read.reverse
    else (code.read .badBrotli).bind fun s =>
      if s = 0 then mapEntries code longestRun size (0 :: read) (count + 1) fuel
      else if longestRun < s then
        mapEntries code longestRun size ((s - longestRun) :: read) (count + 1) fuel
      else (Bits.number s).bind fun n =>
        let run := 1 <<< s + n
        if size < count + run then bad
        else mapEntries code longestRun size (List.replicate run 0 ++ read) (count + run) fuel

/-- Replaces each number by what stands at that place, and moves it to the front. -/
def moveToFront (places : List Nat) : List Nat → List Nat
  | [] => []
  | i :: rest =>
    let n := places.getD i 0
    n :: moveToFront (n :: places.eraseIdx i) rest

/-- Which code is in force in which context, and the number of codes. -/
def contextMap (size : Nat) : Bits (Nat × Array Nat) := do
  let codes := (← smallNumber) + 1
  if codes = 1 then return (1, Array.replicate size 0)
  else
    let longestRun ← if ← .bit then do pure ((← .number 4) + 1) else pure 0
    let code ← prefixCode (codes + longestRun)
    let entries ← mapEntries code longestRun size [] 0 (size + 1)
    let entries := if ← .bit then moveToFront (List.range 256) entries else entries
    return (codes, entries.toArray)

structure Tables where
  literalBlocks : Blocks
  commandBlocks : Blocks
  distanceBlocks : Blocks
  /-- The low bits that all long distances write plainly. -/
  postfixBits : Nat
  /-- How many distances have symbols of their own. -/
  direct : Nat
  /-- How the context of a literal is found, for each type of block. -/
  modes : Array Nat
  literalMap : Array Nat
  distanceMap : Array Nat
  literalCodes : Array PrefixCode
  commandCodes : Array PrefixCode
  distanceCodes : Array PrefixCode

def pairs (read : Array Nat) : (count : Nat) → Bits (Array Nat)
  | 0 => .done read
  | count + 1 => (Bits.number 2).bind fun n => pairs (read.push n) count

def Tables.header : Bits Tables := do
  let literalBlocks ← Blocks.header
  let commandBlocks ← Blocks.header
  let distanceBlocks ← Blocks.header
  let postfixBits ← .number 2
  let direct := (← .number 4) <<< postfixBits
  let modes ← pairs #[] literalBlocks.types
  let (literals, literalMap) ← contextMap (64 * literalBlocks.types)
  let (distances, distanceMap) ← contextMap (4 * distanceBlocks.types)
  let literalCodes ← prefixCodes 256 #[] literals
  let commandCodes ← prefixCodes 704 #[] commandBlocks.types
  let distanceCodes ← prefixCodes (16 + direct + 48 <<< postfixBits) #[] distances
  return ⟨literalBlocks, commandBlocks, distanceBlocks, postfixBits, direct, modes, literalMap,
    distanceMap, literalCodes, commandCodes, distanceCodes⟩

end ResilientHttp.Compression.Brotli
