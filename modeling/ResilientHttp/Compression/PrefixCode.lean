import ResilientHttp.Compression.Bits

/-! Prefix codes, given by the lengths of their words.

The words of one length are consecutive numbers, in the order of the symbols, and shorter words
come first. So the tree is built from the longest words up: at each depth the leaves come before
the nodes that join two trees of the depth below. -/
namespace ResilientHttp.Compression

inductive PrefixCode
  | empty
  | leaf (symbol : Nat)
  | node (zero one : PrefixCode)

namespace PrefixCode

/-- Joins trees in pairs; one that is left over gets nothing as its partner. -/
def joinPairs : List PrefixCode → List PrefixCode
  | [] => []
  | [a] => [node a empty]
  | a :: b :: rest => node a b :: joinPairs rest

/-- The symbols whose words have the given length, in order. -/
def symbolsOf (lengths : List Nat) (length : Nat) : List PrefixCode :=
  (lengths.zipIdx.filter fun p => p.1 = length).map fun p => leaf p.2

/-- The trees that stand at a depth, given how many depths are still below. -/
def level (lengths : List Nat) : (depth below : Nat) → List PrefixCode
  | depth, 0 => symbolsOf lengths depth
  | depth, below + 1 => symbolsOf lengths depth ++ joinPairs (level lengths (depth + 1) below)

def maxLength : Nat := 15

def ofLengths (lengths : List Nat) : PrefixCode :=
  match joinPairs (level lengths 1 (maxLength - 1)) with
  | [] => empty
  | root :: _ => root

/-- The share of all words of the greatest length that begin with a word of the code. -/
def weight (lengths : List Nat) : Nat :=
  lengths.foldl (fun n l => if l = 0 then n else n + 1 <<< (maxLength - l)) 0

/-- Every sequence of bits begins with exactly one word. -/
def isComplete (lengths : List Nat) : Bool := weight lengths = 1 <<< maxLength

def read (f : Fault) : PrefixCode → Bits Nat
  | leaf s => .done s
  | empty => .fail f
  | node zero one => .need fun b => if b then one.read f else zero.read f

/-- Reads one word; a sequence that is no word is only found out after `left` bits. -/
def readLate (f : Fault) : (left : Nat) → PrefixCode → Bits Nat
  | _, leaf s => .done s
  | left, empty => .failAfter f left
  | left, node zero one =>
    .need fun b => if b then one.readLate f (left - 1) else zero.readLate f (left - 1)

end PrefixCode
end ResilientHttp.Compression
