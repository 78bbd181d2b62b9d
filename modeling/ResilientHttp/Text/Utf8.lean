/-! Bytes as text: where a byte sequence stops being UTF-8, and how that is told. -/
namespace ResilientHttp.Utf8

/-- The first fault of a byte sequence: it is sound up to `index`; `length` is the number of bytes
that cannot be right, or nothing if the sequence merely breaks off. -/
structure Fault where
  index : Nat
  length : Option Nat
deriving Repr, DecidableEq

def Fault.message : Fault → String
  | ⟨i, some n⟩ => s!"invalid utf-8 sequence of {n} bytes from index {i}"
  | ⟨i, none⟩ => s!"incomplete utf-8 byte sequence from index {i}"

/-- What may follow a first byte: how many bytes more, and the range of the next one. -/
def following? (b : UInt8) : Option (Nat × UInt8 × UInt8) :=
  if 0xC2 ≤ b && b ≤ 0xDF then some (1, 0x80, 0xBF)
  else if b == 0xE0 then some (2, 0xA0, 0xBF)
  else if b == 0xED then some (2, 0x80, 0x9F)
  else if 0xE1 ≤ b && b ≤ 0xEF then some (2, 0x80, 0xBF)
  else if b == 0xF0 then some (3, 0x90, 0xBF)
  else if 0xF1 ≤ b && b ≤ 0xF3 then some (3, 0x80, 0xBF)
  else if b == 0xF4 then some (3, 0x80, 0x8F)
  else none

/-- How a character is being read: between two, or with some bytes of it still to come. -/
inductive Progress
  | between
  | inside (read left : Nat) (low high : UInt8)

/-- Walks over the bytes; `start` is where the character being read begins. -/
def scan (start : Nat) : Progress → List UInt8 → Option Fault
  | .between, [] => none
  | .inside .., [] => some ⟨start, none⟩
  | .between, b :: rest =>
    if b < 0x80 then scan (start + 1) .between rest
    else match following? b with
      | none => some ⟨start, some 1⟩
      | some (left, low, high) => scan start (.inside 1 left low high) rest
  | .inside read left low high, b :: rest =>
    if low ≤ b && b ≤ high then
      if left ≤ 1 then scan (start + read + 1) .between rest
      else scan start (.inside (read + 1) (left - 1) 0x80 0xBF) rest
    else some ⟨start, some read⟩

def fault? (bytes : ByteArray) : Option Fault := scan 0 .between bytes.data.toList

def decode (bytes : ByteArray) : Except Fault String :=
  match String.fromUTF8? bytes with
  | some s => .ok s
  | none => .error ((fault? bytes).getD ⟨0, none⟩)

end ResilientHttp.Utf8
