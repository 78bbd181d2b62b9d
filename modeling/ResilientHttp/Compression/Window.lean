/-! The output of a decoder: what it can refer back to, and what was not handed out yet. -/
namespace ResilientHttp.Compression

structure Window where
  bytes : ByteArray := ByteArray.empty
  /-- How many bytes were handed out. -/
  taken : Nat := 0

inductive Action
  | write (bytes : List UInt8)
  /-- Repeats what stands some places back. -/
  | copy (distance length : Nat)

namespace Window

def push (w : Window) (b : UInt8) : Window := { w with bytes := w.bytes.push b }

/-- The byte `distance` places back; before the start there are zeros. -/
def back (w : Window) (distance : Nat) : UInt8 :=
  if distance ≤ w.bytes.size then w.bytes[w.bytes.size - distance]?.getD 0 else 0

/-- Repeats `length` bytes from `distance` places back, one by one. -/
def copy (distance : Nat) : (length : Nat) → Window → Window
  | 0, w => w
  | length + 1, w =>
    let b := w.back distance
    copy distance length (w.push b)

def apply (w : Window) : Action → Window
  | .write bs => bs.foldl push w
  | .copy distance length => copy distance length w

/-- The bytes that were not handed out before. -/
def fresh (w : Window) : ByteArray := w.bytes.extract w.taken w.bytes.size

def markTaken (w : Window) : Window := { w with taken := w.bytes.size }

end Window
end ResilientHttp.Compression
